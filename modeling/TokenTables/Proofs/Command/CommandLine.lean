import TokenTables.Command.Argument
import TokenTables.Proofs.Files.Follow
import Mathlib.Data.List.Basic
/-!
# Command lines

A command line is written from items, each of which is a value for an option or a flag, and reading it
puts one item after the other into the settings.  Items for different parts of the settings commute,
so in whatever order and spelling a configuration is asked for, it is the one that is read.
-/

namespace TokenTables.Command

open Files

/-! ## Items and how they are written -/

def ValueOption.name : ValueOption → String
  | root => "root"
  | grammar => "grammar"
  | output => "output"
  | stem => "prefix"
  | target => "target"

def Flag.name : Flag → String
  | check => "check"
  | stdout => "stdout"
  | verbose => "verbose"
  | quiet => "quiet"
  | help => "help"

def Flag.letter? : Flag → Option Char
  | verbose => some 'v'
  | quiet => some 'q'
  | help => some 'h'
  | _ => none

/-- One thing that a command line asks for. -/
inductive Item
  | value (option : ValueOption) (given : String)
  | flag (flag : Flag)
deriving DecidableEq, Repr

/-- The arguments that an item can be written in.  A value stands after an equals sign or, if it does
not begin with a hyphen, in an argument of its own. -/
inductive Item.Written : Item → List String → Prop
  | joined (option : ValueOption) (given : String) :
    Written (.value option given) ["--" ++ option.name ++ "=" ++ given]
  | apart (option : ValueOption) (given : String) (h : given.toList.head? ≠ some '-') :
    Written (.value option given) ["--" ++ option.name, given]
  | named (flag : Flag) : Written (.flag flag) ["--" ++ flag.name]
  | lettered (flag : Flag) (letter : Char) (h : flag.letter? = some letter) :
    Written (.flag flag) [String.ofList ['-', letter]]

/-! ## Shapes of written items -/

namespace Shape

theorem ne_equals_of_not_mem {name : List Char} (h : '=' ∉ name) :
    ∀ c ∈ name, (c != '=') = true := by
  intro c hc
  rw [bne_iff_ne]
  rintro rfl
  exact h hc

theorem ofText_named {name : String} (hne : name ≠ "") (hname : '=' ∉ name.toList) :
    ofText ("--" ++ name) = long name none := by
  have hpart := ne_equals_of_not_mem hname
  have htext : ("--" ++ name).toList = '-' :: '-' :: name.toList := by simp
  obtain ⟨c, body, hbody⟩ := List.exists_cons_of_ne_nil (mt String.toList_eq_nil_iff.1 hne)
  rw [hbody] at htext
  simp only [ofText, htext]
  rw [← hbody, List.takeWhile_eq_self_iff.2 hpart, List.dropWhile_eq_nil_iff.2 hpart,
    String.ofList_toList]

/-- An option's value is all that stands after the first equals sign. -/
theorem ofText_joined {name : String} (hname : '=' ∉ name.toList) (given : String) :
    ofText ("--" ++ name ++ "=" ++ given) = long name (some given) := by
  have hpart := ne_equals_of_not_mem hname
  have htext : ("--" ++ name ++ "=" ++ given).toList =
      '-' :: '-' :: (name.toList ++ '=' :: given.toList) := by simp
  have hne : name.toList ++ '=' :: given.toList ≠ [] := by simp
  obtain ⟨c, body, hbody⟩ := List.exists_cons_of_ne_nil hne
  rw [hbody] at htext
  simp only [ofText, htext]
  rw [← hbody, List.takeWhile_append_of_pos hpart, List.dropWhile_append_of_pos hpart]
  simp

theorem ofText_plain {text : String} (h : text.toList.head? ≠ some '-') :
    ofText text = plain text := by
  unfold ofText
  split
  · simp_all
  · simp_all
  · simp_all
  · rfl

theorem ofText_lettered {letter : Char} (h : letter ≠ '-') :
    ofText (String.ofList ['-', letter]) = short [letter] := by
  simp [ofText, h]

end Shape

theorem ValueOption.equals_not_mem_name (option : ValueOption) : '=' ∉ option.name.toList := by
  cases option <;> decide

theorem Flag.equals_not_mem_name (flag : Flag) : '=' ∉ flag.name.toList := by
  cases flag <;> decide

theorem ValueOption.name_ne_empty (option : ValueOption) : option.name ≠ "" := by
  cases option <;> decide

theorem Flag.name_ne_empty (flag : Flag) : flag.name ≠ "" := by
  cases flag <;> decide

theorem LongName.ofText?_option (option : ValueOption) :
    LongName.ofText? option.name = some (.option option) := by
  cases option <;> rfl

theorem LongName.ofText?_flag (flag : Flag) : LongName.ofText? flag.name = some (.flag flag) := by
  cases flag <;> rfl

theorem Flag.ofLetter?_of_letter? {flag : Flag} {letter : Char} (h : flag.letter? = some letter) :
    Flag.ofLetter? letter = some flag ∧ letter ≠ '-' := by
  cases flag <;> cases h <;> decide

/-! ## Reading an item -/

/-- The settings with an item more. -/
def Settings.take (settings : Settings) : Item → Except UsageError Settings
  | .value option given => settings.give option (some given)
  | .flag flag => settings.raise flag

namespace Reading

variable {reading : Reading} {settings next : Settings}

theorem all_long {argument name : String} {value : Option String}
    (h : Shape.ofText argument = .long name value) (rest : List String) :
    reading.all (argument :: rest) = (reading.long name value).bind fun next => next.all rest := by
  rw [all, h]

theorem all_short {argument : String} {letters : List Char}
    (h : Shape.ofText argument = .short letters) (rest : List String) :
    reading.all (argument :: rest) = (reading.letters letters).bind fun next => next.all rest := by
  rw [all, h]

theorem all_plain {argument text : String} (h : Shape.ofText argument = .plain text)
    (rest : List String) :
    reading.all (argument :: rest) = (reading.plain text).bind fun next => next.all rest := by
  rw [all, h]

theorem long_option (option : ValueOption) (value : Option String) :
    reading.long option.name value = reading.option option value := by
  unfold long
  rw [LongName.ofText?_option]

theorem long_flag (flag : Flag) : reading.long flag.name none = reading.flag flag := by
  unfold long
  rw [LongName.ofText?_flag]

theorem letters_singleton {flag : Flag} {letter : Char} (h : Flag.ofLetter? letter = some flag) :
    reading.letters [letter] = reading.flag flag := by
  simp only [letters, h]
  cases reading.flag flag <;> rfl

theorem flag_eq_ok (hsettle : reading.settle = .ok settings) {flag : Flag}
    (hraise : settings.raise flag = .ok next) : reading.flag flag = .ok { settings := next } := by
  rw [Reading.flag, hsettle, Except.bind, hraise]
  rfl

theorem option_some_eq_ok (hsettle : reading.settle = .ok settings) {option : ValueOption}
    {given : String} (hgive : settings.give option (some given) = .ok next) :
    reading.option option (some given) = .ok { settings := next } := by
  rw [Reading.option, hsettle, Except.bind, hgive]
  rfl

theorem option_none_eq_ok (hsettle : reading.settle = .ok settings) (option : ValueOption) :
    reading.option option none = .ok ⟨settings, some (option, none)⟩ := by
  rw [Reading.option, hsettle]
  rfl

/-- A value after an equals sign is given at once, one in an argument of its own when the reading goes
on: the settings are the same once the option is settled. -/
theorem exists_all_of_written {item : Item} {arguments : List String}
    (hwritten : item.Written arguments) (hsettle : reading.settle = .ok settings)
    (htake : settings.take item = .ok next) :
    ∃ after : Reading, after.settle = .ok next ∧
      ∀ rest, reading.all (arguments ++ rest) = after.all rest := by
  cases hwritten with
  | joined option given =>
      have hshape := Shape.ofText_joined option.equals_not_mem_name given
      refine ⟨{ settings := next }, rfl, fun rest => ?_⟩
      rw [List.singleton_append, all_long hshape, long_option, option_some_eq_ok hsettle htake]
      rfl
  | apart option given hplain =>
      have hshape := Shape.ofText_named option.name_ne_empty option.equals_not_mem_name
      refine ⟨⟨settings, some (option, some given)⟩, htake, fun rest => ?_⟩
      rw [List.cons_append, List.singleton_append, all_long hshape, long_option,
        option_none_eq_ok hsettle, Except.bind, all_plain (Shape.ofText_plain hplain)]
      rfl
  | named flag =>
      have hshape := Shape.ofText_named flag.name_ne_empty flag.equals_not_mem_name
      refine ⟨{ settings := next }, rfl, fun rest => ?_⟩
      rw [List.singleton_append, all_long hshape, long_flag, flag_eq_ok hsettle htake]
      rfl
  | lettered flag letter hletter =>
      obtain ⟨hflag, hne⟩ := Flag.ofLetter?_of_letter? hletter
      refine ⟨{ settings := next }, rfl, fun rest => ?_⟩
      rw [List.singleton_append, all_short (Shape.ofText_lettered hne), letters_singleton hflag,
        flag_eq_ok hsettle htake]
      rfl

/-- What is read from a command line is what its items leave in the settings. -/
theorem exists_all_of_forall₂ {items : List Item} {parts : List (List String)}
    (hparts : List.Forall₂ Item.Written items parts) (hsettle : reading.settle = .ok settings)
    (htake : items.foldlM Settings.take settings = .ok next) :
    ∃ after : Reading, after.settle = .ok next ∧ reading.all parts.flatten = .ok after := by
  induction hparts generalizing reading settings with
  | nil =>
      cases htake
      exact ⟨reading, hsettle, rfl⟩
  | cons hwritten _ ih =>
      rw [List.foldlM_cons] at htake
      obtain ⟨middle, hmiddle, hrest⟩ := bind_eq_ok_iff.1 htake
      obtain ⟨after, hafter, hall⟩ := exists_all_of_written hwritten hsettle hmiddle
      obtain ⟨final, hfinal, hread⟩ := ih hafter hrest
      exact ⟨final, hfinal, by rw [List.flatten_cons, hall, hread]⟩

end Reading

/-! ## Items in any order -/

/-- What can be given for an option: some text for a path, and one of two words for a target. -/
def ValueOption.Admits (given : String) : ValueOption → Prop
  | stem => True
  | target => given = "c" ∨ given = "rust"
  | _ => given ≠ ""

namespace Settings

/-- Nothing is settled yet that the item is to settle. -/
def HasRoomFor (settings : Settings) : Item → Prop
  | .value option given => settings.has option = false ∧ option.Admits given
  | .flag .check => settings.check = false
  | .flag .stdout => settings.stdout = false
  | .flag .verbose => True
  | .flag .quiet => settings.quiet = false
  | .flag .help => False

/-- The settings with an item put into its place. -/
def add (settings : Settings) : Item → Settings
  | .value .root given => { settings with root := some (.ofText given) }
  | .value .grammar given => { settings with grammar := some (.ofText given) }
  | .value .output given => { settings with output := some (.ofText given) }
  | .value .stem given => { settings with stem := some given }
  | .value .target given =>
    { settings with target := some (if given = "c" then .cHeader else .rustModule) }
  | .flag .check => { settings with check := true }
  | .flag .stdout => { settings with stdout := true }
  | .flag .verbose => { settings with verbosity := min (settings.verbosity + 1) 255 }
  | .flag .quiet => { settings with quiet := true }
  | .flag .help => settings

variable {settings next : Settings}

theorem path?_map_eq_ok_iff {given : String} {set : Path → Settings} :
    (path? given).map set = .ok next ↔ given ≠ "" ∧ set (.ofText given) = next := by
  unfold path?
  by_cases h : given = "" <;> simp [h, Except.map]

theorem target?_map_eq_ok_iff {given : String} {set : Target → Settings} :
    (target? given).map set = .ok next ↔
      (given = "c" ∨ given = "rust") ∧
        set (if given = "c" then .cHeader else .rustModule) = next := by
  unfold target?
  split <;> simp_all [Except.map]

theorem give_eq_ok_iff {option : ValueOption} {given : String} :
    settings.give option (some given) = .ok next ↔
      settings.has option = false ∧ settings.put option given = .ok next := by
  change (if settings.has option then _ else _) = _ ↔ _
  cases settings.has option <;> simp

theorem take_eq_ok_iff {item : Item} :
    settings.take item = .ok next ↔ settings.HasRoomFor item ∧ settings.add item = next := by
  cases item with
  | value option given =>
      rw [take, give_eq_ok_iff, HasRoomFor, and_assoc]
      apply and_congr_right
      intro _
      cases option with
      | root | grammar | output => exact path?_map_eq_ok_iff
      | stem => simp [put, ValueOption.Admits, add]
      | target => exact target?_map_eq_ok_iff
  | flag flag =>
      cases flag with
      | verbose | help => simp [take, raise, HasRoomFor, add]
      | check | stdout | quiet =>
          simp only [take, raise, HasRoomFor, add]
          split <;> simp_all

/-- An item takes no room from another one but its own. -/
theorem hasRoomFor_add_swap {a b : Item} (ha : settings.HasRoomFor a)
    (hb : (settings.add a).HasRoomFor b) :
    settings.HasRoomFor b ∧ (settings.add b).HasRoomFor a := by
  rcases a with ⟨o, v⟩ | f <;> rcases b with ⟨p, w⟩ | g
  · cases o <;> cases p <;> simp_all [HasRoomFor, has, add]
  · cases o <;> cases g <;> simp_all [HasRoomFor, has, add]
  · cases f <;> cases p <;> simp_all [HasRoomFor, has, add]
  · cases f <;> cases g <;> simp_all [HasRoomFor, add]

theorem add_add_swap {a b : Item} (hb : (settings.add a).HasRoomFor b) :
    (settings.add a).add b = (settings.add b).add a := by
  rcases a with ⟨o, v⟩ | f <;> rcases b with ⟨p, w⟩ | g
  · cases o <;> cases p <;> simp_all [HasRoomFor, has, add]
  · cases o <;> cases g <;> rfl
  · cases f <;> cases p <;> rfl
  · cases f <;> cases g <;> rfl

theorem take_take_swap {middle : Settings} {a b : Item} (ha : settings.take a = .ok middle)
    (hb : middle.take b = .ok next) :
    ∃ other, settings.take b = .ok other ∧ other.take a = .ok next := by
  obtain ⟨hroom_a, rfl⟩ := take_eq_ok_iff.1 ha
  obtain ⟨hroom_b, rfl⟩ := take_eq_ok_iff.1 hb
  obtain ⟨hfirst, hsecond⟩ := hasRoomFor_add_swap hroom_a hroom_b
  exact ⟨settings.add b, take_eq_ok_iff.2 ⟨hfirst, rfl⟩,
    take_eq_ok_iff.2 ⟨hsecond, (add_add_swap hroom_b).symm⟩⟩

theorem foldlM_take_cons {item : Item} {rest : List Item} :
    (item :: rest).foldlM take settings = .ok next ↔
      ∃ middle, settings.take item = .ok middle ∧ rest.foldlM take middle = .ok next :=
  bind_eq_ok_iff

/-- The settings do not depend on the order of the items. -/
theorem foldlM_take_perm {items others : List Item} (h : items.Perm others)
    (htake : items.foldlM take settings = .ok next) :
    others.foldlM take settings = .ok next := by
  induction h generalizing settings with
  | nil => exact htake
  | cons item _ ih =>
      obtain ⟨middle, hmiddle, hrest⟩ := foldlM_take_cons.1 htake
      exact foldlM_take_cons.2 ⟨middle, hmiddle, ih hrest⟩
  | swap a b rest =>
      obtain ⟨first, hfirst, htail⟩ := foldlM_take_cons.1 htake
      obtain ⟨second, hsecond, hrest⟩ := foldlM_take_cons.1 htail
      obtain ⟨other, hother, hswap⟩ := take_take_swap hfirst hsecond
      exact foldlM_take_cons.2 ⟨other, hother, foldlM_take_cons.2 ⟨second, hswap, hrest⟩⟩
  | trans _ _ ih₁ ih₂ => exact ih₂ (ih₁ htake)

theorem foldlM_take_singleton {item : Item} (h : settings.HasRoomFor item) :
    [item].foldlM take settings = .ok (settings.add item) :=
  foldlM_take_cons.2 ⟨settings.add item, take_eq_ok_iff.2 ⟨h, rfl⟩, rfl⟩

theorem foldlM_take_append {middle : Settings} {items : List Item}
    (h : items.foldlM take settings = .ok middle) (others : List Item) :
    (items ++ others).foldlM take settings = others.foldlM take middle := by
  rw [List.foldlM_append, h]
  rfl

/-- Settings in which the place of one option is left open, and filled if there is a value for it. -/
theorem foldlM_take_given {α β : Type} (place : Option β → Settings) (option : ValueOption)
    (word : α → String) (read : α → β) (hfree : (place none).has option = false)
    (hword : ∀ a, option.Admits (word a))
    (hadd : ∀ a, (place none).add (.value option (word a)) = place (some (read a)))
    (given : Option α) :
    (given.map fun a => Item.value option (word a)).toList.foldlM take (place none) =
      .ok (place (given.map read)) := by
  cases given with
  | none => rfl
  | some a =>
      rw [Option.map_some, Option.map_some, ← hadd a]
      exact foldlM_take_singleton ⟨hfree, hword a⟩

/-- Settings in which one flag is still down, which is raised if that is wanted. -/
theorem foldlM_take_wanted (place : Bool → Settings) (flag : Flag)
    (hroom : (place false).HasRoomFor (.flag flag))
    (hadd : (place false).add (.flag flag) = place true) (wanted : Bool) :
    (if wanted then [Item.flag flag] else []).foldlM take (place false) = .ok (place wanted) := by
  cases wanted with
  | false => rfl
  | true =>
      rw [← hadd]
      exact foldlM_take_singleton hroom

/-- More detail is asked for as often as it comes, up to a limit. -/
theorem foldlM_take_verbose (count : Nat) (h : settings.verbosity ≤ 255) :
    (List.replicate count (Item.flag .verbose)).foldlM take settings =
      .ok { settings with verbosity := min (settings.verbosity + count) 255 } := by
  induction count generalizing settings with
  | zero => simp [h, pure, Except.pure]
  | succ count ih =>
      have hnext : min (settings.verbosity + 1) 255 ≤ 255 := Nat.min_le_right _ _
      have hmin : min (min (settings.verbosity + 1) 255 + count) 255 =
          min (settings.verbosity + (count + 1)) 255 := by omega
      rw [List.replicate_succ, foldlM_take_cons]
      refine ⟨_, rfl, ?_⟩
      rw [ih hnext, hmin]

end Settings

/-! ## Requests -/

/-- The text of a path, which is not empty. -/
abbrev PathText := { text : String // text ≠ "" }

def PathText.path (text : PathText) : Path :=
  .ofText text.val

/-- What a user wants: values for some of the options, some flags, and `details` times more detail. -/
structure Request where
  root : Option PathText := none
  grammar : Option PathText := none
  output : Option PathText := none
  stem : Option String := none
  target : Option Target := none
  check : Bool := false
  stdout : Bool := false
  quiet : Bool := false
  details : Nat := 0

/-- The word for a target. -/
def targetWord : Target → String
  | .cHeader => "c"
  | .rustModule => "rust"

namespace Request

open Settings

/-- The values the user wants. -/
def values (request : Request) : List Item :=
  (request.root.map fun text => Item.value .root text.val).toList ++
    ((request.grammar.map fun text => Item.value .grammar text.val).toList ++
      ((request.output.map fun text => Item.value .output text.val).toList ++
        ((request.stem.map fun text => Item.value .stem text).toList ++
          (request.target.map fun target => Item.value .target (targetWord target)).toList)))

/-- The flags the user wants. -/
def flags (request : Request) : List Item :=
  (if request.check then [Item.flag .check] else []) ++
    ((if request.stdout then [Item.flag .stdout] else []) ++
      ((if request.quiet then [Item.flag .quiet] else []) ++
        List.replicate request.details (Item.flag .verbose)))

/-- Everything the user wants, in one order of many. -/
def items (request : Request) : List Item :=
  request.values ++ request.flags

/-- To check and to print exclude each other, and so do less and more detail. -/
def Conflicts (request : Request) : Prop :=
  (request.check = true ∧ request.stdout = true) ∨ (request.quiet = true ∧ 0 < request.details)

instance (request : Request) : Decidable request.Conflicts :=
  inferInstanceAs (Decidable (_ ∨ _))

/-- The configuration with every value that is given, and with the defaults elsewhere. -/
def config (request : Request) : Config :=
  let default : Config := {}
  { root := (request.root.map PathText.path).getD default.root
    grammar := (request.grammar.map PathText.path).getD default.grammar
    output := (request.output.map PathText.path).getD default.output
    stem := request.stem.getD default.stem
    target := request.target.getD default.target
    check := request.check
    stdout := request.stdout
    verbosity := min request.details 255
    quiet := request.quiet }

/-- What of the configuration is settled. -/
def settings (request : Request) : Settings where
  root := request.root.map PathText.path
  grammar := request.grammar.map PathText.path
  output := request.output.map PathText.path
  stem := request.stem
  target := request.target
  check := request.check
  stdout := request.stdout
  verbosity := min request.details 255
  quiet := request.quiet

theorem config_settings (request : Request) : request.settings.config = request.config := rfl

theorem conflicting_settings (request : Request) :
    request.settings.conflicting = decide request.Conflicts := by
  rw [Bool.eq_iff_iff, decide_eq_true_iff]
  simp [Settings.conflicting, settings, Conflicts, Nat.pos_iff_ne_zero]

/-- The settings once all values are given. -/
def given (request : Request) : Settings where
  root := request.root.map PathText.path
  grammar := request.grammar.map PathText.path
  output := request.output.map PathText.path
  stem := request.stem
  target := request.target

theorem foldlM_take_values (request : Request) :
    request.values.foldlM take {} = .ok request.given := by
  obtain ⟨root, grammar, output, stem, target, -, -, -, -⟩ := request
  have hpath : ∀ text : PathText, text.val ≠ "" := fun text => text.property
  have hword : ∀ target, ValueOption.target.Admits (targetWord target) := by
    intro target
    cases target <;> simp [ValueOption.Admits, targetWord]
  have hroot := foldlM_take_given (fun path => { root := path }) .root Subtype.val PathText.path
    rfl hpath (fun _ => rfl) root
  have hgrammar (first : Option Path) := foldlM_take_given
    (fun path => { root := first, grammar := path }) .grammar Subtype.val PathText.path
    rfl hpath (fun _ => rfl) grammar
  have houtput (first second : Option Path) := foldlM_take_given
    (fun path => { root := first, grammar := second, output := path }) .output Subtype.val
    PathText.path rfl hpath (fun _ => rfl) output
  have hstem (first second third : Option Path) := foldlM_take_given
    (fun text => { root := first, grammar := second, output := third, stem := text }) .stem id id
    rfl (fun _ => trivial) (fun _ => rfl) stem
  have htarget (first second third : Option Path) := foldlM_take_given
    (fun target => { root := first, grammar := second, output := third, stem, target }) .target
    targetWord id rfl hword (fun target => by cases target <;> rfl) target
  simp only [Option.map_id, id] at hstem htarget
  unfold values
  refine (foldlM_take_append hroot _).trans ?_
  refine (foldlM_take_append (hgrammar _) _).trans ?_
  refine (foldlM_take_append (houtput _ _) _).trans ?_
  refine (foldlM_take_append (hstem _ _ _) _).trans ?_
  exact htarget _ _ _

theorem foldlM_take_flags (request : Request) :
    request.flags.foldlM take request.given = .ok request.settings := by
  have hcheck := foldlM_take_wanted (fun check => { request.given with check }) .check rfl rfl
    request.check
  have hstdout := foldlM_take_wanted
    (fun stdout => { request.given with check := request.check, stdout }) .stdout rfl rfl
    request.stdout
  have hquiet := foldlM_take_wanted
    (fun quiet => { request.given with check := request.check, stdout := request.stdout, quiet })
    .quiet rfl rfl request.quiet
  unfold flags
  refine (foldlM_take_append hcheck _).trans ?_
  refine (foldlM_take_append hstdout _).trans ?_
  refine (foldlM_take_append hquiet _).trans ?_
  rw [foldlM_take_verbose _ (Nat.zero_le 255), settings, given, Nat.zero_add]

theorem foldlM_take_items (request : Request) :
    request.items.foldlM take {} = .ok request.settings := by
  rw [items, foldlM_take_append request.foldlM_take_values, foldlM_take_flags]

end Request

/-- A command line is read as what it asks for.  In whatever order and spelling, it has the values that
are given, and the defaults for the rest; only what excludes each other is refused. -/
theorem parseArguments_written (request : Request) {items : List Item} {parts : List (List String)}
    (horder : items.Perm request.items) (hwritten : List.Forall₂ Item.Written items parts) :
    parseArguments parts.flatten =
      if request.Conflicts then .error .argumentConflict else .ok request.config := by
  have htake := Settings.foldlM_take_perm horder.symm request.foldlM_take_items
  have hstart : ({} : Reading).settle = .ok {} := rfl
  obtain ⟨after, hsettle, hall⟩ := Reading.exists_all_of_forall₂ hwritten hstart htake
  rw [parseArguments, hall, Except.bind, hsettle, Except.bind, request.conflicting_settings,
    request.config_settings]
  simp only [decide_eq_true_eq]

/-- Values that look like options, an empty one and one with a hyphen at its end, in no good order; and
the same once more with a flag that asks for less. -/
theorem parseArguments_written_of_shuffled :
    let request : Request :=
      { root := some ⟨"=x-", by decide⟩, output := some ⟨"--check", by decide⟩, stem := some ""
        target := some .rustModule, check := true, details := 2 }
    let items : List Item :=
      [.flag .verbose, .value .output "--check", .flag .check, .value .target "rust",
        .flag .verbose, .value .stem "", .value .root "=x-"]
    let parts : List (List String) :=
      [["-v"], ["--output=--check"], ["--check"], ["--target", "rust"], ["--verbose"], ["--prefix="],
        ["--root", "=x-"]]
    items.Perm request.items ∧ List.Forall₂ Item.Written items parts ∧
      parseArguments parts.flatten =
        .ok { root := .ofText "=x-", output := .ofText "--check", stem := "", target := .rustModule
              check := true, verbosity := 2 } ∧
      parseArguments ("-q" :: parts.flatten) = .error .argumentConflict := by
  intro request items parts
  have horder : items.Perm request.items := by decide
  have hwritten : List.Forall₂ Item.Written items parts :=
    .cons (.lettered .verbose 'v' rfl) <| .cons (.joined .output "--check") <|
    .cons (.named .check) <| .cons (.apart .target "rust" (by decide)) <|
    .cons (.named .verbose) <| .cons (.joined .stem "") <|
    .cons (.apart .root "=x-" (by decide)) .nil
  refine ⟨horder, hwritten, ?_, ?_⟩
  · rw [parseArguments_written request horder hwritten]
    rfl
  · have hquiet : (Item.flag .quiet :: items).Perm { request with quiet := true : Request }.items := by
      decide
    exact parseArguments_written { request with quiet := true } hquiet
      (.cons (.lettered .quiet 'q' rfl) hwritten)

end TokenTables.Command
