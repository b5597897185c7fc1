import TokenTables.Naming.Style
/-!
# Options of an artifact

What an artifact says about its origin, how its identifiers begin, and which kind of artifact it
is.
-/

namespace TokenTables

inductive Target
  /-- A header in C with a macro and two arrays. -/
  | cHeader
  /-- A module in Rust with a constant, two statics and an enumeration. -/
  | rustModule
deriving DecidableEq, Repr

def Target.label : Target → String
  | .cHeader => "CHeader"
  | .rustModule => "Rust"

/-- Choices for an artifact. -/
structure Options where
  /-- The name of the grammar in the first line of the artifact. -/
  source : String := "nova.g4"
  /-- What the identifiers of the artifact begin with, in whatever spelling. -/
  stem : String := "nova"
  target : Target := .cHeader
deriving DecidableEq, Repr

namespace Options

/-- The stem in capitals, for macros and constants. -/
def upperStem (options : Options) : String :=
  Naming.upperSnake options.stem

/-- The stem in small letters, for arrays. -/
def lowerStem (options : Options) : String :=
  Naming.snake options.stem

def enumName (options : Options) : String :=
  Naming.pascal options.stem ++ "Token"

/-- The first line of an artifact. -/
def notice (options : Options) : String :=
  "// Auto-generated from " ++ options.source ++ ". Do not edit manually."

end Options

end TokenTables
