import TokenTables.Artifact.Options
import TokenTables.Files.Path
import TokenTables.Log
/-!
# Configuration of a run

Which grammar is read, what is made of it, where it goes, and how much is reported.
-/

namespace TokenTables.Command

open Files

/-- The choices for one run. -/
structure Config where
  /-- The directory that the other paths start from. -/
  root : Path := .ofText "."
  grammar : Path := .ofText "nova.g4"
  output : Path := .ofText "include/nova/generated_tokens.h"
  stem : String := "nova"
  target : Target := .cHeader
  /-- Compare the artifact with the output file instead of writing it. -/
  check : Bool := false
  /-- Print the artifact instead of writing it. -/
  stdout : Bool := false
  verbosity : Nat := 0
  quiet : Bool := false
deriving DecidableEq, Repr

namespace Config

/-- The finest level of records that the run shows. -/
def level (config : Config) : Log.Level :=
  if config.quiet then .error
  else
    match config.verbosity with
    | 0 => .info
    | 1 => .debug
    | _ => .trace

def grammarFile (config : Config) : Path :=
  config.root.join config.grammar

def outputFile (config : Config) : Path :=
  config.root.join config.output

/-- The name of the grammar in the artifact: its file name, so that it does not matter where the
file lies. -/
def source (config : Config) : String :=
  config.grammar.fileName?.getD config.grammar.text

def options (config : Config) : Options :=
  ⟨config.source, config.stem, config.target⟩

end Config

end TokenTables.Command
