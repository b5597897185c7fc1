import TokenTables.Command.Machine
import TokenTables.Text.Newline
/-!
# The command as a process

The exit status of the command and what it writes to the error stream: the records of its log that
are shown, and the failure that ended it.
-/

namespace TokenTables.Command

/-- How a process ends. -/
inductive Outcome
  /-- The arguments ask for no run. -/
  | usage (reason : UsageError)
  | finished
  | failed (failure : Failure)
deriving DecidableEq, Repr

def Outcome.status : Outcome → Nat
  | usage .helpRequested => 0
  | usage _ => 2
  | finished => 0
  | failed _ => 1

/-- A record on the error stream. -/
def recordText (record : Log.Record) : String :=
  String.ofList (Text.hanging record.text.toList ++ ['\n'])

/-- A failure on the error stream: what could not be done, and the cause under a heading. -/
def failureText (failure : Failure) : String :=
  let cause := match failure.cause? with
    | none => ""
    | some cause => "\n\nCaused by:\n    " ++ String.ofList (Text.hanging cause.toList)
  "Error: " ++ failure.message ++ cause ++ "\n"

/-- The records that are shown: a named threshold goes before the one of the configuration. -/
def shownUpTo (config : Config) (setting : Option String) : Log.Threshold :=
  (setting.bind Log.Threshold.ofName?).getD (.upTo config.level)

/-- What a process leaves behind. -/
structure Execution where
  outcome : Outcome
  /-- What is written to the error stream, the explanation of a usage error apart. -/
  errorText : String
  machine : Machine

def Execution.errorLines (execution : Execution) : List String :=
  (Text.newlineLines execution.errorText.toList).map String.ofList

/-- Executes the command with arguments on a machine, under a log setting from the environment. -/
def execute (arguments : List String) (setting : Option String) (machine : Machine) : Execution :=
  match parseArguments arguments with
  | .error reason => ⟨.usage reason, "", machine⟩
  | .ok config =>
    let (result, after) := runOn config machine
    let shown := String.join ((Log.visible (shownUpTo config setting) after.log).map recordText)
    match result with
    | .ok () => ⟨.finished, shown, after⟩
    | .error failure => ⟨.failed failure, shown ++ failureText failure, after⟩

end TokenTables.Command
