import TokenTables.Proofs.Syntax.Part
/-!
# Enumerations in Rust

A module read as Rust: a constant, two tables of strings, an enumeration without fields, and the
conversions of it from and to names and numbers.  What the conversions yield follows from what is
read alone: the first arm that matches is taken, and the number of a variant is its place.
-/

namespace TokenTables.Syntax

def reserved : List String :=
  ["_", "as", "async", "await", "break", "const", "continue", "crate", "dyn", "else", "enum",
    "extern", "false", "fn", "for", "if", "impl", "in", "let", "loop", "match", "mod", "move", "mut",
    "pub", "ref", "return", "self", "Self", "static", "struct", "super", "trait", "true", "type",
    "unsafe", "use", "where", "while", "abstract", "become", "box", "do", "final", "gen", "macro",
    "override", "priv", "try", "typeof", "unsized", "virtual", "yield"]

theorem not_mem_reserved {name : String} (h : IsCapitalized name.toList) (hself : name ≠ "Self") :
    name ∉ reserved := by
  have hcapital : ∀ word ∈ reserved, word.toList.head?.all Char.isUpper = true →
      word = "Self" := by decide
  exact fun hmem => hself (hcapital name hmem ((Option.all_eq_true _ _).2 h.capital))

/-- An enumeration with its conversions, and the tables beside it. -/
structure RustEnum where
  tables : List (String × List String)
  name : String
  variants : List String
  nameArms : List (String × String)
  idArms : List (UInt32 × String)
  /-- The table that a variant's number is an index of. -/
  namesTable : String
deriving DecidableEq, Repr

namespace RustEnum

variable (source : RustEnum)

/-- The variant of the first arm with the name. -/
def fromName? (name : String) : Option String :=
  source.nameArms.lookup name

/-- The variant of the first arm with the number. -/
def fromId? (id : UInt32) : Option String :=
  source.idArms.lookup id

/-- The place of a variant. -/
def toId? (variant : String) : Option UInt32 :=
  (source.variants.idxOf? variant).map UInt32.ofNat

/-- The entry at a variant's number. -/
def toName? (variant : String) : Option String :=
  (source.tables.lookup source.namesTable).bind fun table =>
    (source.toId? variant).bind fun id => table[id.toNat]?

/-- What a compiler asks for. -/
structure Compiles : Prop where
  tables_nodup : (source.tables.map Prod.fst).Nodup
  variants_nodup : source.variants.Nodup
  length_variants_le : source.variants.length ≤ 2 ^ 32
  nameArms_mem : ∀ arm ∈ source.nameArms, arm.2 ∈ source.variants
  idArms_mem : ∀ arm ∈ source.idArms, arm.2 ∈ source.variants
  namesTable_mem : source.namesTable ∈ source.tables.map Prod.fst

end RustEnum

/-! ## Reading -/

/-- The tokens after an expected beginning. -/
def expect : List Token → List Token → Option (List Token)
  | [], rest => some rest
  | token :: more, next :: rest => if token = next then expect more rest else none
  | _ :: _, [] => none

def readName? : List Token → Option (String × List Token)
  | .word name :: rest => if name ∈ reserved then none else some (name, rest)
  | _ => none

def readNumber? : List Token → Option (Nat × List Token)
  | .number value :: rest => some (value, rest)
  | _ => none

/-- Literals with a comma after each, up to the closing bracket. -/
def readLiterals? : List Token → Option (List String × List Token)
  | .mark ']' :: rest => some ([], rest)
  | .string text :: .mark ',' :: rest =>
    (readLiterals? rest).map fun (texts, rest) => (text :: texts, rest)
  | _ => none

/-- Variants with a comma after each, up to the closing brace. -/
def readVariants? : List Token → Option (List String × List Token)
  | .mark '\x7d' :: rest => some ([], rest)
  | .word variant :: .mark ',' :: rest =>
    if variant ∈ reserved then none
    else (readVariants? rest).map fun (variants, rest) => (variant :: variants, rest)
  | _ => none

def readString? : Token → Option String
  | .string text => some text
  | _ => none

def readId? : Token → Option UInt32
  | .number value => if value < 2 ^ 32 then some (UInt32.ofNat value) else none
  | _ => none

/-- Arms that yield variants of the enumeration, up to the last arm, which yields nothing, and the
closing brace. -/
def readArms? {α : Type} (pattern : Token → Option α) (enumName : String) :
    List Token → Option (List (α × String) × List Token)
  | .word "_" :: .mark '=' :: .mark '>' :: .word "None" :: .mark ',' :: .mark '\x7d' :: rest =>
    some ([], rest)
  | token :: .mark '=' :: .mark '>' :: .word "Some" :: .mark '(' :: .word name :: .mark ':' ::
      .mark ':' :: .word variant :: .mark ')' :: .mark ',' :: rest =>
    if name = enumName then
      (pattern token).bind fun key =>
        (readArms? pattern enumName rest).map fun (arms, rest) => ((key, variant) :: arms, rest)
    else none
  | _ => none

def readTable? (tokens : List Token) : Option ((String × List String) × List Token) := do
  let rest ← expect (rust "pub static ") tokens
  let (name, rest) ← readName? rest
  let rest ← expect (rust ": &[&str] = &[") rest
  let (entries, rest) ← readLiterals? rest
  let rest ← expect (rust ";") rest
  some ((name, entries), rest)

def readConstant? (tokens : List Token) : Option ((String × Nat) × List Token) := do
  let rest ← expect (rust "pub const ") tokens
  let (name, rest) ← readName? rest
  let rest ← expect (rust ": usize = ") rest
  let (value, rest) ← readNumber? rest
  let rest ← expect (rust ";") rest
  some ((name, value), rest)

def readEnum? (tokens : List Token) : Option ((String × List String) × List Token) := do
  let rest ← expect (rust "#[derive(Clone, Copy, PartialEq, Eq, Debug, Hash)]") tokens
  let rest ← expect (rust "#[repr(u32)]") rest
  let rest ← expect (rust "pub enum ") rest
  let (name, rest) ← readName? rest
  let rest ← expect (rust " \x7b") rest
  let (variants, rest) ← readVariants? rest
  some ((name, variants), rest)

/-- A function that is a `match`, from its first line. -/
def readLookup? {α : Type} (pattern : Token → Option α) (enumName signature subject : String)
    (tokens : List Token) : Option (List (α × String) × List Token) := do
  let rest ← expect (rust signature) tokens
  let rest ← expect (rust subject) rest
  let (arms, rest) ← readArms? pattern enumName rest
  let rest ← expect (rust "\x7d") rest
  some (arms, rest)

/-- A function that is an index of a table. -/
def readIndex? (signature : String) (tokens : List Token) : Option (String × List Token) := do
  let rest ← expect (rust signature) tokens
  let (table, rest) ← readName? rest
  let rest ← expect (rust "[self as usize]") rest
  let rest ← expect (rust "\x7d") rest
  some (table, rest)

def readEnumModule? (tokens : List Token) : Option RustEnum := do
  let (_, rest) ← readConstant? tokens
  let (names, rest) ← readTable? rest
  let (lexemes, rest) ← readTable? rest
  let ((name, variants), rest) ← readEnum? rest
  let rest ← expect (rust "impl ") rest
  let rest ← expect (.word name :: rust " \x7b") rest
  let (nameArms, rest) ← readLookup? readString? name
    "pub fn from_name(name: &str) -> Option<Self> \x7b" "match name \x7b" rest
  let (idArms, rest) ← readLookup? readId? name
    "pub fn from_id(id: u32) -> Option<Self> \x7b" "match id \x7b" rest
  let (namesTable, rest) ← readIndex? "pub fn to_name(self) -> &'static str \x7b" rest
  let rest ← expect (rust "pub fn to_id(self) -> u32 \x7b") rest
  let rest ← expect (rust "self as u32") rest
  let rest ← expect (rust "\x7d") rest
  let rest ← expect (rust "\x7d") rest
  if rest = [] then some ⟨[names, lexemes], name, variants, nameArms, idArms, namesTable⟩ else none

/-- The enumeration of a text that is a module in Rust. -/
def readRust? (text : List Char) : Option RustEnum :=
  (lex .rust text).bind readEnumModule?

/-! ## What is read -/

def constantTokens (name : String) (value : Nat) : List Token :=
  rust "pub const " ++ .word name :: (rust ": usize = " ++ .number value :: rust ";")

def tableTokens (name : String) (entries : List String) : List Token :=
  rust "pub static " ++ .word name :: (rust ": &[&str] = &[" ++
    (entries.flatMap (fun entry => .string entry :: rust ",") ++ rust "];"))

def enumTokens (name : String) (variants : List String) : List Token :=
  rust "#[derive(Clone, Copy, PartialEq, Eq, Debug, Hash)]" ++ (rust "#[repr(u32)]" ++
    (rust "pub enum " ++ .word name :: (rust " \x7b" ++
      (variants.flatMap (fun variant => .word variant :: rust ",") ++ rust "\x7d"))))

def armTokens (enumName variant : String) (pattern : Token) : List Token :=
  pattern :: (rust " => Some(" ++ .word enumName :: (rust "::" ++ .word variant :: rust "),"))

def lookupTokens (signature subject : String) (arms : List Token) : List Token :=
  rust signature ++ (rust subject ++ (arms ++ (rust "_ => None," ++ (rust "\x7d" ++ rust "\x7d"))))

def indexTokens (signature table : String) : List Token :=
  rust signature ++ .word table :: (rust "[self as usize]" ++ rust "\x7d")

@[simp] theorem expect_append (s t : List Token) : expect s (s ++ t) = some t := by
  induction s with
  | nil => rfl
  | cons token s ih => simp [expect, ih]

theorem readName?_cons {name : String} (h : name ∉ reserved) (rest : List Token) :
    readName? (.word name :: rest) = some (name, rest) := by
  rw [readName?, if_neg h]

theorem readLiterals?_append (entries : List String) (rest : List Token) :
    readLiterals? (entries.flatMap (fun entry => .string entry :: rust ",") ++ .mark ']' :: rest) =
      some (entries, rest) := by
  have hcomma : rust "," = [.mark ','] := rfl
  rw [hcomma]
  induction entries with
  | nil => rfl
  | cons entry entries ih => simp [readLiterals?, ih]

theorem readVariants?_append {variants : List String} (h : ∀ variant ∈ variants, variant ∉ reserved)
    (rest : List Token) :
    readVariants? (variants.flatMap (fun variant => .word variant :: rust ",") ++
      .mark '\x7d' :: rest) = some (variants, rest) := by
  have hcomma : rust "," = [.mark ','] := rfl
  rw [hcomma]
  induction variants with
  | nil => rfl
  | cons variant variants ih =>
      have hfirst := h variant List.mem_cons_self
      have hmore := ih fun other hother => h other (List.mem_cons_of_mem _ hother)
      simp [readVariants?, hfirst, hmore]

/-- A pattern that is no word is not the one of the last arm. -/
theorem readArms?_cons {α : Type} {pattern : Token → Option α} {token : Token} {key : α}
    (hword : ∀ text, token ≠ .word text) (hkey : pattern token = some key)
    (enumName variant : String) (rest : List Token) :
    readArms? pattern enumName (armTokens enumName variant token ++ rest) =
      (readArms? pattern enumName rest).map fun (arms, rest) => ((key, variant) :: arms, rest) := by
  have htokens : armTokens enumName variant token ++ rest = token :: .mark '=' :: .mark '>' ::
      .word "Some" :: .mark '(' :: .word enumName :: .mark ':' :: .mark ':' :: .word variant ::
        .mark ')' :: .mark ',' :: rest := rfl
  rw [htokens]
  cases token with
  | word text => exact absurd rfl (hword text)
  | _ => simp [readArms?, hkey]

theorem readArms?_append {α β : Type} {pattern : Token → Option α} {items : List β}
    {token : β → Token} {key : β → α} (hword : ∀ item text, token item ≠ .word text)
    (hkey : ∀ item ∈ items, pattern (token item) = some (key item)) (enumName : String)
    (variant : β → String) (rest : List Token) :
    readArms? pattern enumName
        (items.flatMap (fun item => armTokens enumName (variant item) (token item)) ++
          (rust "_ => None," ++ .mark '\x7d' :: rest)) =
      some (items.map fun item => (key item, variant item), rest) := by
  induction items with
  | nil => rfl
  | cons item items ih =>
      have hmore := ih fun other hother => hkey other (List.mem_cons_of_mem _ hother)
      rw [List.flatMap_cons, List.append_assoc,
        readArms?_cons (hword item) (hkey item List.mem_cons_self), hmore]
      rfl

theorem readConstant?_append {name : String} (h : name ∉ reserved) (value : Nat)
    (rest : List Token) :
    readConstant? (constantTokens name value ++ rest) = some ((name, value), rest) := by
  simp [readConstant?, constantTokens, readName?_cons h, readNumber?]

theorem readTable?_append {name : String} (h : name ∉ reserved) (entries : List String)
    (rest : List Token) :
    readTable? (tableTokens name entries ++ rest) = some ((name, entries), rest) := by
  have hclose : rust "];" = .mark ']' :: rust ";" := rfl
  simp [readTable?, tableTokens, readName?_cons h, hclose, readLiterals?_append]

theorem readEnum?_append {name : String} (h : name ∉ reserved) {variants : List String}
    (hvariants : ∀ variant ∈ variants, variant ∉ reserved) (rest : List Token) :
    readEnum? (enumTokens name variants ++ rest) = some ((name, variants), rest) := by
  have hclose : rust "\x7d" = [.mark '\x7d'] := rfl
  simp [readEnum?, enumTokens, readName?_cons h, hclose, readVariants?_append hvariants]

theorem readLookup?_append {α β : Type} {pattern : Token → Option α} {items : List β}
    (token : β → Token) (key : β → α) (variant : β → String)
    (hword : ∀ item text, token item ≠ .word text)
    (hkey : ∀ item ∈ items, pattern (token item) = some (key item))
    (enumName signature subject : String) (rest : List Token) :
    readLookup? pattern enumName signature subject
        (lookupTokens signature subject
          (items.flatMap fun item => armTokens enumName (variant item) (token item)) ++ rest) =
      some (items.map fun item => (key item, variant item), rest) := by
  have hclose : rust "\x7d" = [.mark '\x7d'] := rfl
  have harms := readArms?_append hword hkey enumName variant (rust "\x7d" ++ rest)
  simp only [readLookup?, lookupTokens, List.append_assoc, expect_append, Option.bind_eq_bind,
    Option.bind_some]
  rw [hclose, List.singleton_append, ← hclose, harms]
  simp

theorem readIndex?_append {table : String} (h : table ∉ reserved) (signature : String)
    (rest : List Token) :
    readIndex? signature (indexTokens signature table ++ rest) = some (table, rest) := by
  simp [readIndex?, indexTokens, readName?_cons h]

end TokenTables.Syntax
