/-!
# Log records

What a run reports about itself: records with a level, and the levels that are shown.
-/

namespace TokenTables.Log

/-- How much a record matters, from what must be seen to the finest detail. -/
inductive Level
  | error
  | warn
  | info
  | debug
  | trace
deriving DecidableEq, Repr

namespace Level

/-- The name of the level in a log. -/
def name : Level → String
  | error => "ERROR"
  | warn => "WARN"
  | info => "INFO"
  | debug => "DEBUG"
  | trace => "TRACE"

/-- Place in the order from `error` to `trace`. -/
def rank : Level → Nat
  | error => 1
  | warn => 2
  | info => 3
  | debug => 4
  | trace => 5

end Level

/-- The finest level that is shown, or none at all. -/
inductive Threshold
  | off
  | upTo (level : Level)
deriving DecidableEq, Repr

namespace Threshold

def shows : Threshold → Level → Bool
  | off, _ => false
  | upTo finest, level => level.rank ≤ finest.rank

/-- The threshold with the given name, whatever the case of its letters. -/
def ofName? (name : String) : Option Threshold :=
  match String.ofList (name.toList.map Char.toLower) with
  | "off" => some off
  | "error" => some (upTo .error)
  | "warn" => some (upTo .warn)
  | "info" => some (upTo .info)
  | "debug" => some (upTo .debug)
  | "trace" => some (upTo .trace)
  | _ => none

end Threshold

structure Record where
  level : Level
  message : String
deriving DecidableEq, Repr

/-- The record as one text: its level, a space, its message. -/
def Record.text (record : Record) : String :=
  record.level.name ++ " " ++ record.message

/-- The records that a threshold lets through, in order. -/
def visible (threshold : Threshold) (records : List Record) : List Record :=
  records.filter fun record => threshold.shows record.level

end TokenTables.Log
