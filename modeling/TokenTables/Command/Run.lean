import TokenTables.Artifact
import TokenTables.Command.Config
import TokenTables.Files.Disk
/-!
# One run

A run reads the grammar, makes the artifact, and then prints it, compares it with the output file
or writes it there.  What it needs of its surroundings is a `Host`.
-/

namespace TokenTables.Command

open Files

/-- Why a text could not be printed. -/
inductive PrintError
  /-- Only a part of the text found room. -/
  | noRoom
  /-- Any other reason of the system, in its words. -/
  | other (message : String)
deriving DecidableEq, Repr

def PrintError.message : PrintError → String
  | noRoom => "failed to write whole buffer"
  | other message => message

/-- What a run can ask of its surroundings. -/
class Host (m : Type → Type) where
  readText : Path → m (Except FileError String)
  createDirectories : Path → m (Except FileError Unit)
  writeText : Path → String → m (Except FileError Unit)
  print : String → m (Except PrintError Unit)
  report : Log.Record → m Unit

/-- Why a run did not reach its end. -/
inductive Failure
  | readGrammar (path : Path) (reason : FileError)
  | makeArtifact (path : Path) (reason : VariantConflict)
  | print (reason : PrintError)
  | readOutput (path : Path) (reason : FileError)
  | outOfDate (output grammar : Path)
  | createParent (path : Path) (reason : FileError)
  | writeOutput (path : Path) (reason : FileError)
deriving DecidableEq, Repr

namespace Failure

def message : Failure → String
  | readGrammar path _ => "unable to read grammar " ++ path.text
  | makeArtifact path _ => "unable to generate tables for " ++ path.text
  | print _ => "unable to write to stdout"
  | readOutput path _ => "unable to read " ++ path.text
  | outOfDate output grammar =>
    output.text ++ " is out of date with " ++ grammar.text ++ ", rerun gen_tokens"
  | createParent path _ => "unable to create " ++ path.text
  | writeOutput path _ => "unable to write " ++ path.text

/-- Why it could not be done, if something else was in the way. -/
def cause? : Failure → Option String
  | readGrammar _ reason | readOutput _ reason | createParent _ reason | writeOutput _ reason =>
    some reason.message
  | makeArtifact _ reason => some reason.message
  | print reason => some reason.message
  | outOfDate _ _ => none

/-- From what could not be done to its cause. -/
def chain (failure : Failure) : List String :=
  failure.message :: failure.cause?.toList

end Failure

variable {m : Type → Type} [Monad m] [Host m]

/-- An action that may be refused, with the refusal as a failure of the run. -/
def attempt {ε α : Type} (action : m (Except ε α)) (failure : ε → Failure) : ExceptT Failure m α :=
  ExceptT.mk do return (← action).mapError failure

def report (level : Log.Level) (message : String) : ExceptT Failure m Unit :=
  ExceptT.lift (Host.report ⟨level, message⟩)

def reportAll (records : List Log.Record) : ExceptT Failure m Unit :=
  ExceptT.lift (records.forM Host.report)

/-- What is reported of a grammar before the artifact is made from it. -/
def grammarLog (config : Config) (grammar : String) : List Log.Record :=
  let vocabulary := Vocabulary.ofGrammar grammar
  let passedOver : List Log.Record :=
    if vocabulary.skipped = 0 then []
    else [⟨.info, config.grammarFile.text ++ ": skipped " ++ toString vocabulary.skipped ++
      " lines which are not single-line token rules"⟩]
  Vocabulary.readingLog grammar ++ passedOver ++ vocabulary.artifactLog config.options

def sizeMessage (grammar artifact : String) : String :=
  toString (Vocabulary.ofGrammar grammar).size ++ " tokens, " ++ toString artifact.utf8ByteSize ++
    " bytes generated"

def artifactOf (config : Config) : ExceptT Failure m String := do
  let path := config.grammarFile
  let grammar ← attempt (Host.readText path) (.readGrammar path)
  reportAll (grammarLog config grammar)
  let artifact ← attempt (pure (grammarArtifact grammar config.options)) (.makeArtifact path)
  report .debug (sizeMessage grammar artifact)
  return artifact

def compare (config : Config) (artifact : String) : ExceptT Failure m Unit := do
  let path := config.outputFile
  let written ← attempt (Host.readText path) (.readOutput path)
  if written = artifact then
    report .info (path.text ++ " is up to date")
  else
    throw (.outOfDate path config.grammarFile)

/-- Writes an artifact to the output file, in a directory that is made if need be. -/
def write (config : Config) (artifact : String) : ExceptT Failure m Unit := do
  let path := config.outputFile
  if let some parent := path.parent? then
    attempt (Host.createDirectories parent) (.createParent parent)
  attempt (Host.writeText path artifact) (.writeOutput path)
  report .info ("Wrote " ++ path.text ++ ", " ++ toString artifact.utf8ByteSize ++ " bytes")

def run (config : Config) : ExceptT Failure m Unit := do
  let artifact ← artifactOf config
  if config.stdout then attempt (Host.print artifact) .print
  else if config.check then compare config artifact
  else write config artifact

end TokenTables.Command
