import TokenTables.Command.Config
/-!
# Arguments of the command

Arguments are read from left to right.  An option takes its value from the same argument, after an
equals sign, or from the next one.  A value of the next argument is only looked at when something
else is recognized after it, or at the end, so an argument that means nothing is reported before it.
-/

namespace TokenTables.Command

open Files

/-- Why arguments are no configuration. -/
inductive UsageError
  | unknownArgument
  | invalidValue
  /-- Two arguments exclude each other, or one comes twice. -/
  | argumentConflict
  /-- A flag is given a value. -/
  | tooManyValues
  /-- Help is asked for instead of a run. -/
  | helpRequested
deriving DecidableEq, Repr

def UsageError.message : UsageError → String
  | unknownArgument => "an argument is not known"
  | invalidValue => "a value is missing or not allowed"
  | argumentConflict => "arguments exclude each other, or one comes twice"
  | tooManyValues => "a flag takes no value"
  | helpRequested => "help is asked for"

/-- Arguments with a value. -/
inductive ValueOption
  | root
  | grammar
  | output
  | stem
  | target
deriving DecidableEq, Repr

/-- Arguments without a value. -/
inductive Flag
  | check
  | stdout
  | verbose
  | quiet
  | help
deriving DecidableEq, Repr

/-- What a long name stands for. -/
inductive LongName
  | option (option : ValueOption)
  | flag (flag : Flag)
deriving DecidableEq, Repr

def LongName.ofText? : String → Option LongName
  | "root" => some (option .root)
  | "grammar" => some (option .grammar)
  | "output" => some (option .output)
  | "prefix" => some (option .stem)
  | "target" => some (option .target)
  | "check" => some (flag .check)
  | "stdout" => some (flag .stdout)
  | "verbose" => some (flag .verbose)
  | "quiet" => some (flag .quiet)
  | "help" => some (flag .help)
  | _ => none

def Flag.ofLetter? : Char → Option Flag
  | 'v' => some verbose
  | 'q' => some quiet
  | 'h' => some help
  | _ => none

/-! ## Shapes of an argument -/

/-- What an argument looks like. -/
inductive Shape
  /-- Two hyphens: nothing after it is an option. -/
  | terminator
  | long (name : String) (value : Option String)
  /-- A hyphen and letters. -/
  | short (letters : List Char)
  | plain (text : String)
deriving DecidableEq, Repr

def Shape.ofText (argument : String) : Shape :=
  match argument.toList with
  | ['-', '-'] => terminator
  | '-' :: '-' :: body =>
    let name := String.ofList (body.takeWhile (· != '='))
    match body.dropWhile (· != '=') with
    | [] => long name none
    | _ :: value => long name (some (String.ofList value))
  | '-' :: letter :: letters => short (letter :: letters)
  | _ => plain argument

/-! ## Settings -/

/-- What has been settled of a configuration. -/
structure Settings where
  root : Option Path := none
  grammar : Option Path := none
  output : Option Path := none
  stem : Option String := none
  target : Option Target := none
  check : Bool := false
  stdout : Bool := false
  verbosity : Nat := 0
  quiet : Bool := false
deriving DecidableEq, Repr

namespace Settings

def has (settings : Settings) : ValueOption → Bool
  | .root => settings.root.isSome
  | .grammar => settings.grammar.isSome
  | .output => settings.output.isSome
  | .stem => settings.stem.isSome
  | .target => settings.target.isSome

/-- A path has some text. -/
def path? (value : String) : Except UsageError Path :=
  if value.isEmpty then .error .invalidValue else .ok (.ofText value)

def target? : String → Except UsageError Target
  | "c" => .ok .cHeader
  | "rust" => .ok .rustModule
  | _ => .error .invalidValue

def put (settings : Settings) (option : ValueOption) (value : String) :
    Except UsageError Settings :=
  match option with
  | .root => (path? value).map fun path => { settings with root := some path }
  | .grammar => (path? value).map fun path => { settings with grammar := some path }
  | .output => (path? value).map fun path => { settings with output := some path }
  | .stem => .ok { settings with stem := some value }
  | .target => (target? value).map fun target => { settings with target := some target }

/-- Gives an option what was found for it: a value is needed, and only one. -/
def give (settings : Settings) (option : ValueOption) (value : Option String) :
    Except UsageError Settings :=
  match value with
  | none => .error .invalidValue
  | some given =>
    if settings.has option then .error .argumentConflict else settings.put option given

/-- Raises a flag: only the one for more detail may be raised again. -/
def raise (settings : Settings) : Flag → Except UsageError Settings
  | .check =>
    if settings.check then .error .argumentConflict else .ok { settings with check := true }
  | .stdout =>
    if settings.stdout then .error .argumentConflict else .ok { settings with stdout := true }
  | .verbose => .ok { settings with verbosity := min (settings.verbosity + 1) 255 }
  | .quiet =>
    if settings.quiet then .error .argumentConflict else .ok { settings with quiet := true }
  | .help => .error .helpRequested

/-- The configuration, defaults in the place of what was not given. -/
def config (settings : Settings) : Config :=
  let default : Config := {}
  { root := settings.root.getD default.root
    grammar := settings.grammar.getD default.grammar
    output := settings.output.getD default.output
    stem := settings.stem.getD default.stem
    target := settings.target.getD default.target
    check := settings.check
    stdout := settings.stdout
    verbosity := settings.verbosity
    quiet := settings.quiet }

def conflicting (settings : Settings) : Bool :=
  (settings.check && settings.stdout) || (settings.quiet && settings.verbosity != 0)

end Settings

/-! ## Reading arguments -/

/-- Where the reading of arguments stands. -/
structure Reading where
  settings : Settings := {}
  /-- The option named last, with the value the argument after it gave, until it is settled. -/
  pending : Option (ValueOption × Option String) := none
deriving DecidableEq, Repr

namespace Reading

/-- The settings once the pending option is settled. -/
def settle (reading : Reading) : Except UsageError Settings :=
  match reading.pending with
  | none => .ok reading.settings
  | some (option, value) => reading.settings.give option value

def flag (reading : Reading) (flag : Flag) : Except UsageError Reading :=
  (reading.settle.bind (·.raise flag)).map ({ settings := · })

/-- Reads an option's name, with its value if the same argument has one. -/
def option (reading : Reading) (option : ValueOption) :
    Option String → Except UsageError Reading
  | none => reading.settle.map fun settings => ⟨settings, some (option, none)⟩
  | some value =>
    (reading.settle.bind (·.give option (some value))).map ({ settings := · })

def letters (reading : Reading) : List Char → Except UsageError Reading
  | [] => .ok reading
  | letter :: rest =>
    match Flag.ofLetter? letter with
    | none => .error .unknownArgument
    | some raised => (reading.flag raised).bind fun next => next.letters rest

/-- Reads an argument that is no option: the value of the option before it, if that needs one. -/
def plain (reading : Reading) (text : String) : Except UsageError Reading :=
  match reading.pending with
  | some (option, none) => .ok { reading with pending := some (option, some text) }
  | _ => .error .unknownArgument

def long (reading : Reading) (name : String) (value : Option String) :
    Except UsageError Reading :=
  match LongName.ofText? name, value with
  | none, _ => .error .unknownArgument
  | some (.flag _), some _ => .error .tooManyValues
  | some (.flag raised), none => reading.flag raised
  | some (.option named), value => reading.option named value

def all (reading : Reading) : List String → Except UsageError Reading
  | [] => .ok reading
  | argument :: rest =>
    match Shape.ofText argument with
    | .terminator => if rest.isEmpty then .ok reading else .error .unknownArgument
    | .long name value => (reading.long name value).bind fun next => next.all rest
    | .short letters => (reading.letters letters).bind fun next => next.all rest
    | .plain text => (reading.plain text).bind fun next => next.all rest

end Reading

def parseArguments (arguments : List String) : Except UsageError Config :=
  ((({} : Reading).all arguments).bind Reading.settle).bind fun settings =>
    if settings.conflicting then .error .argumentConflict else .ok settings.config

end TokenTables.Command
