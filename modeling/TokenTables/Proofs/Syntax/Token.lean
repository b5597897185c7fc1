import Mathlib.Data.List.Basic
import TokenTables.Text.Literal
/-!
# Tokens of code

Generated code is read back as the languages it is written in read it: first into tokens, with
blanks and comments left out and the escapes of string literals resolved.  The reader goes through
the text character by character; what it has of a token so far is its mode.
-/

namespace TokenTables.Syntax

inductive Token
  | word (text : String)
  | number (value : Nat)
  /-- A string literal, given by its value. -/
  | string (text : String)
  | mark (c : Char)
  /-- A line for the preprocessor, without the number sign. -/
  | directive (text : String)
deriving DecidableEq, Repr

/-- Where the tokens of one language differ from those of another. -/
structure Dialect where
  /-- The letters that stand for a character after a backslash. -/
  escapes : List (Char × Char)
  /-- A character can be given by its number, in hexadecimal between braces. -/
  numbered : Bool
  /-- A number sign begins a directive. -/
  directives : Bool
  /-- Characters that a literal cannot have as they are. -/
  refused : List Char

/-- Part of an identifier or a number. -/
def isWordChar (c : Char) : Bool :=
  c.isAlphanum || c == '_'

def marks : List Char :=
  ['#', '&', '\'', '(', ')', '*', ',', '-', ':', ';', '<', '=', '>', '[', ']', '\x7b', '\x7d']

def hexDigit? (c : Char) : Option Nat :=
  if c.isDigit then some (c.toNat - '0'.toNat)
  else if 'a' ≤ c && c ≤ 'f' then some (c.toNat - 'a'.toNat + 10)
  else if 'A' ≤ c && c ≤ 'F' then some (c.toNat - 'A'.toNat + 10)
  else none

/-- What is being read. -/
inductive Mode
  | plain
  | word (text : List Char)
  | slash
  | comment
  | directive (text : List Char)
  | string (text : List Char)
  /-- After a backslash. -/
  | escape (text : List Char)
  /-- Before the brace that begins the number of a character. -/
  | brace (text : List Char)
  /-- After so many digits of the number of a character. -/
  | code (text : List Char) (digits value : Nat)
deriving DecidableEq, Repr

/-- The token that a run of word characters is; a number has digits only. -/
def wordToken? : List Char → Option Token
  | [] => none
  | c :: rest =>
    if c.isDigit then
      if rest.all Char.isDigit then some (.number (Nat.ofDigitChars 10 (c :: rest) 0)) else none
    else some (.word (String.ofList (c :: rest)))

/-- The character with the number, if it is one and has one digit to six. -/
def coded? (digits value : Nat) : Option Char :=
  if 0 < digits ∧ digits ≤ 6 ∧ value.isValidChar then some (Char.ofNat value) else none

variable (dialect : Dialect)

/-- One character between two tokens. -/
def stepPlain (c : Char) : Option (List Token × Mode) :=
  if c == ' ' || c == '\n' || c == '\t' || c == '\r' then some ([], .plain)
  else if isWordChar c then some ([], .word [c])
  else if c == '/' then some ([], .slash)
  else if c == '"' then some ([], .string [])
  else if c == '#' && dialect.directives then some ([], .directive [])
  else if marks.contains c then some ([.mark c], .plain)
  else none

/-- The tokens that one more character completes, and the mode after it. -/
def step : Mode → Char → Option (List Token × Mode)
  | .plain, c => stepPlain dialect c
  | .word text, c =>
    if isWordChar c then some ([], .word (text ++ [c]))
    else (wordToken? text).bind fun token =>
      (stepPlain dialect c).map fun (tokens, mode) => (token :: tokens, mode)
  | .slash, c => if c == '/' then some ([], .comment) else none
  | .comment, c => some ([], if c == '\n' then .plain else .comment)
  | .directive text, c =>
    if c == '\n' then some ([.directive (String.ofList text)], .plain)
    else some ([], .directive (text ++ [c]))
  | .string text, c =>
    if c == '"' then some ([.string (String.ofList text)], .plain)
    else if c == '\\' then some ([], .escape text)
    else if dialect.refused.contains c then none
    else some ([], .string (text ++ [c]))
  | .escape text, c =>
    match dialect.escapes.lookup c with
    | some d => some ([], .string (text ++ [d]))
    | none => if c == 'u' && dialect.numbered then some ([], .brace text) else none
  | .brace text, c => if c == '\x7b' then some ([], .code text 0 0) else none
  | .code text digits value, c =>
    if c == '\x7d' then (coded? digits value).map fun d => ([], .string (text ++ [d]))
    else (hexDigit? c).map fun d => ([], .code text (digits + 1) (16 * value + d))

/-- The tokens that a text completes, and the mode after it. -/
def scan : Mode → List Char → Option (List Token × Mode)
  | mode, [] => some ([], mode)
  | mode, c :: rest =>
    (step dialect mode c).bind fun (tokens, next) =>
      (scan next rest).map fun (more, last) => (tokens ++ more, last)

/-- The tokens that the end of a text completes. -/
def finish : Mode → Option (List Token)
  | .plain | .comment => some []
  | .word text => (wordToken? text).map ([·])
  | .directive text => some [.directive (String.ofList text)]
  | .slash | .string _ | .escape _ | .brace _ | .code _ _ _ => none

/-- The tokens of a text that goes on from a mode. -/
def lexFrom (mode : Mode) (text : List Char) : Option (List Token) :=
  (scan dialect mode text).bind fun (tokens, last) => (finish last).map (tokens ++ ·)

def lex (text : List Char) : Option (List Token) :=
  lexFrom dialect .plain text

variable {dialect}

/-! ## A text in pieces -/

theorem scan_append {mode next : Mode} {s : List Char} {tokens : List Token}
    (h : scan dialect mode s = some (tokens, next)) (t : List Char) :
    scan dialect mode (s ++ t) =
      (scan dialect next t).map fun (more, last) => (tokens ++ more, last) := by
  induction s generalizing mode tokens with
  | nil =>
      obtain ⟨rfl, rfl⟩ := Prod.mk.inj (Option.some.inj h)
      simp
  | cons c s ih =>
      simp only [scan, Option.bind_eq_some_iff, Option.map_eq_some_iff, Prod.exists] at h
      obtain ⟨first, mid, hstep, more, last, hscan, heq⟩ := h
      obtain ⟨rfl, rfl⟩ := Prod.mk.inj heq
      simp only [List.cons_append, scan, hstep, Option.bind_some, ih hscan, Option.map_map]
      congr 1
      funext pair
      simp

theorem lexFrom_append {mode next : Mode} {s : List Char} {tokens : List Token}
    (h : scan dialect mode s = some (tokens, next)) (t : List Char) :
    lexFrom dialect mode (s ++ t) = (lexFrom dialect next t).map (tokens ++ ·) := by
  rw [lexFrom, scan_append h, lexFrom]
  cases scan dialect next t with
  | none => rfl
  | some pair =>
      cases hfinish : finish pair.2 <;> simp [hfinish]

theorem lex_append {s : List Char} {tokens : List Token}
    (h : scan dialect .plain s = some (tokens, .plain)) (t : List Char) :
    lex dialect (s ++ t) = (lex dialect t).map (tokens ++ ·) :=
  lexFrom_append h t

/-- A newline ends whatever the end of the text could end. -/
theorem step_newline {mode : Mode} {tokens : List Token} (h : finish mode = some tokens) :
    step dialect mode '\n' = some (tokens, .plain) := by
  cases mode with
  | plain =>
      obtain rfl := Option.some.inj h
      rfl
  | word text =>
      obtain ⟨token, htoken, rfl⟩ := Option.map_eq_some_iff.1 h
      have hbreak : isWordChar '\n' = false := rfl
      simp [step, hbreak, htoken, stepPlain]
  | comment =>
      obtain rfl := Option.some.inj h
      rfl
  | directive text =>
      obtain rfl := Option.some.inj h
      rfl
  | slash => contradiction
  | string text => contradiction
  | escape text => contradiction
  | brace text => contradiction
  | code text digits value => contradiction

/-- The lines of a text can be read one by one. -/
theorem lex_line {line : List Char} {tokens : List Token} (h : lex dialect line = some tokens)
    (rest : List Char) :
    lex dialect (line ++ '\n' :: rest) = (lex dialect rest).map (tokens ++ ·) := by
  obtain ⟨⟨first, mode⟩, hscan, hmap⟩ := Option.bind_eq_some_iff.1 h
  obtain ⟨last, hfinish, rfl⟩ := Option.map_eq_some_iff.1 hmap
  have hnewline : scan dialect mode ['\n'] = some (last, .plain) := by
    simp [scan, step_newline hfinish]
  have hline : scan dialect .plain (line ++ ['\n']) = some (first ++ last, .plain) := by
    rw [scan_append hscan, hnewline]
    rfl
  have hrest := lex_append hline rest
  rwa [List.append_assoc, List.singleton_append] at hrest

def lexLines (dialect : Dialect) : List (List Char) → Option (List Token)
  | [] => some []
  | line :: rest => (lex dialect line).bind fun tokens => (lexLines dialect rest).map (tokens ++ ·)

theorem lexLines_cons {line : List Char} {rest : List (List Char)} {tokens more : List Token}
    (h : lex dialect line = some tokens) (hrest : lexLines dialect rest = some more) :
    lexLines dialect (line :: rest) = some (tokens ++ more) := by
  simp [lexLines, h, hrest]

theorem lexLines_append {s t : List (List Char)} {tokens more : List Token}
    (hs : lexLines dialect s = some tokens) (ht : lexLines dialect t = some more) :
    lexLines dialect (s ++ t) = some (tokens ++ more) := by
  induction s generalizing tokens with
  | nil =>
      obtain rfl := Option.some.inj hs
      exact ht
  | cons line s ih =>
      obtain ⟨first, hfirst, hmap⟩ := Option.bind_eq_some_iff.1 hs
      obtain ⟨later, hlater, rfl⟩ := Option.map_eq_some_iff.1 hmap
      rw [List.cons_append, lexLines_cons hfirst (ih hlater), List.append_assoc]

/-- A text of lines with a newline between two of them has the tokens of the lines. -/
theorem lex_intercalate {lines : List (List Char)} {tokens : List Token}
    (h : lexLines dialect lines = some tokens) :
    lex dialect (['\n'].intercalate lines) = some tokens := by
  induction lines generalizing tokens with
  | nil =>
      obtain rfl := Option.some.inj h
      rfl
  | cons line rest ih =>
      obtain ⟨first, hfirst, hmap⟩ := Option.bind_eq_some_iff.1 h
      obtain ⟨later, hlater, rfl⟩ := Option.map_eq_some_iff.1 hmap
      cases rest with
      | nil =>
          obtain rfl := Option.some.inj hlater
          simpa using hfirst
      | cons next rest =>
          rw [List.intercalate_cons_cons, List.append_assoc, List.singleton_append,
            lex_line hfirst, ih hlater]
          rfl

end TokenTables.Syntax
