import TokenTables.Command.Argument
import TokenTables.Command.Step
/-!
# A machine for runs

A disk, a place to print to and a log make surroundings for a run, of which nothing is refused for a
reason of its own.
-/

namespace TokenTables.Command

open Files

/-- The surroundings of a run. -/
structure Machine where
  disk : Disk
  /-- What has been printed. -/
  printed : String := ""
  /-- How many bytes can be printed, if there is a limit. -/
  capacity : Option Nat := none
  /-- All records, whatever their level. -/
  log : List Log.Record := []

namespace Machine

/-- What is read of a text when only its first `room` bytes are there.  A character of which a part is
missing is read as the replacement character. -/
def firstBytes (room : Nat) : List Char → List Char
  | [] => []
  | c :: rest =>
    if c.utf8Size ≤ room then c :: firstBytes (room - c.utf8Size) rest
    else if room = 0 then [] else ['\uFFFD']

/-- Prints a text; of one that does not fit, the part that does. -/
def print (machine : Machine) (text : String) : Except PrintError Unit × Machine :=
  let room := machine.capacity.map (· - machine.printed.utf8ByteSize)
  match room with
  | some bytes =>
    if text.utf8ByteSize ≤ bytes then (.ok (), { machine with printed := machine.printed ++ text })
    else
      (.error .noRoom, { machine with
        printed := machine.printed ++ String.ofList (firstBytes bytes text.toList) })
  | none => (.ok (), { machine with printed := machine.printed ++ text })

def writeText (machine : Machine) (path : Path) (text : String) :
    Except FileError Unit × Machine :=
  match machine.disk.write path (.text text) with
  | .ok disk => (.ok (), { machine with disk })
  | .error reason => (.error reason, machine)

def createDirectories (machine : Machine) (path : Path) : Except FileError Unit × Machine :=
  let (outcome, disk) := machine.disk.createDirectories path
  (outcome, { machine with disk })

def logged (machine : Machine) (records : List Log.Record) : Machine :=
  { machine with log := machine.log ++ records }

end Machine

instance : Host (StateM Machine) where
  readText path := fun machine => (machine.disk.readText path, machine)
  createDirectories path := fun machine => machine.createDirectories path
  writeText path text := fun machine => machine.writeText path text
  print text := fun machine => machine.print text
  report record := fun machine => ((), machine.logged [record])

def runOn (config : Config) (machine : Machine) : Except Failure Unit × Machine :=
  Step.on (run config) machine

end TokenTables.Command
