import TokenTables.Command.Process
/-!
# The command `gen_tokens`

The command on the files and streams of the system.
-/

namespace TokenTables.Command

open Files

/-- The reason for a refusal by the system. -/
def fileErrorOf : IO.Error → FileError
  | .noFileOrDirectory .. => .missing
  | .alreadyExists .. => .alreadyExists
  | .inappropriateType _ 21 _ => .isDirectory
  | .inappropriateType .. => .notDirectory
  | .invalidArgument _ 36 _ => .tooLong
  | reason => .other (toString reason)

def onFiles {α : Type} (action : IO α) : IO (Except FileError α) := do
  return (← action.toBaseIO).mapError fileErrorOf

instance : Host (ReaderT Log.Threshold IO) where
  readText path := fun _ => do
    return (← onFiles (IO.FS.readBinFile path.text)).bind fun bytes =>
      match String.fromUTF8? bytes with
      | some written => .ok written
      | none => .error .notText
  createDirectories path := fun _ =>
    if path.isEmpty then return .ok () else onFiles (IO.FS.createDirAll path.text)
  writeText path text := fun _ => onFiles (IO.FS.writeFile path.text text)
  print text := fun _ => do
    let out ← IO.getStdout
    return (← (do out.putStr text; out.flush : IO Unit).toBaseIO).mapError
      fun reason => .other (toString reason)
  report record := fun threshold =>
    if threshold.shows record.level then IO.eprint (recordText record) else pure ()

/-- How the command is called. -/
def usageText : String :=
  "Usage: gen_tokens [--root DIR] [--grammar FILE] [--output FILE] [--prefix TEXT]\n" ++
    "                  [--target c|rust] [--check | --stdout] [-v... | -q] [-h]"

/-- Says why there is no run. -/
def explain : UsageError → IO Unit
  | .helpRequested => IO.println usageText
  | reason => IO.eprintln ("error: " ++ reason.message ++ "\n" ++ usageText)

def executeOnSystem (arguments : List String) : IO Outcome := do
  match parseArguments arguments with
  | .error reason =>
    explain reason
    return .usage reason
  | .ok config =>
    let threshold := shownUpTo config (← IO.getEnv "RUST_LOG")
    match ← (run config : ExceptT Failure (ReaderT Log.Threshold IO) Unit).run.run threshold with
    | .ok () => return .finished
    | .error failure =>
      IO.eprint (failureText failure)
      return .failed failure

end TokenTables.Command

def main (arguments : List String) : IO UInt32 := do
  let outcome ← TokenTables.Command.executeOnSystem arguments
  return outcome.status.toUInt32
