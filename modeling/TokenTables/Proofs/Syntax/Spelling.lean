import TokenTables.Proofs.Syntax.Token
import TokenTables.Proofs.Text.Letter
/-!
# Spellings of tokens

What single tokens are read from: identifiers, decimal numbers, comments, and string literals in the
two dialects that artifacts are written in.
-/

namespace TokenTables.Syntax

open Text

namespace Dialect

/-- Literals as C has them.  Characters given by a number are left out. -/
def c : Dialect where
  escapes := [('\'', '\''), ('"', '"'), ('?', '?'), ('\\', '\\'), ('a', '\x07'), ('b', '\x08'),
    ('f', '\x0c'), ('n', '\n'), ('r', '\r'), ('t', '\t'), ('v', '\x0b')]
  numbered := false
  directives := true
  refused := ['\n']

/-- Literals as Rust has them.  Bytes given by a number are left out. -/
def rust : Dialect where
  escapes := [('t', '\t'), ('r', '\r'), ('n', '\n'), ('\'', '\''), ('"', '"'), ('\\', '\\'),
    ('0', '\x00')]
  numbered := true
  directives := false
  refused := ['\r']

end Dialect

variable {dialect : Dialect}

/-! ## Identifiers and numbers -/

/-- Word characters, of which the first is no digit. -/
structure IsIdentifier (text : List Char) : Prop where
  ne_nil : text ≠ []
  head : ∀ c ∈ text.head?, c.isDigit = false
  word : ∀ c ∈ text, isWordChar c = true

namespace IsIdentifier

variable {text : List Char}

theorem cons {c : Char} {rest : List Char} (hc : c.isDigit = false)
    (hword : ∀ d ∈ c :: rest, isWordChar d = true) : IsIdentifier (c :: rest) where
  ne_nil := List.cons_ne_nil c rest
  head := by
    intro d hd
    rwa [← Option.some.inj hd]
  word := hword

theorem not_mem (h : IsIdentifier text) {c : Char} (hc : isWordChar c = false) : c ∉ text := by
  intro hmem
  rw [h.word c hmem] at hc
  contradiction

theorem append {name : String} (h : IsIdentifier name.toList) (suffix : String)
    (hsuffix : suffix.toList.all isWordChar = true) : IsIdentifier (name ++ suffix).toList := by
  rw [String.toList_append]
  refine ⟨List.append_ne_nil_of_left_ne_nil h.ne_nil _, ?_,
    List.forall_mem_append.2 ⟨h.word, List.all_eq_true.1 hsuffix⟩⟩
  rw [List.head?_append_of_ne_nil _ h.ne_nil]
  exact h.head

theorem wordToken? (h : IsIdentifier text) :
    wordToken? text = some (.word (String.ofList text)) := by
  cases text with
  | nil => exact absurd rfl h.ne_nil
  | cons c rest => simp [Syntax.wordToken?, h.head c rfl]

end IsIdentifier

/-- An identifier that begins with a letter. -/
structure IsLettered (text : List Char) : Prop extends IsIdentifier text where
  letter : ∀ c ∈ text.head?, c.isAlpha = true

theorem IsLettered.append {name : String} (h : IsLettered name.toList) (suffix : String)
    (hsuffix : suffix.toList.all isWordChar = true) : IsLettered (name ++ suffix).toList where
  toIsIdentifier := h.toIsIdentifier.append suffix hsuffix
  letter := by
    rw [String.toList_append, List.head?_append_of_ne_nil _ h.ne_nil]
    exact h.letter

/-- An identifier that begins with a capital. -/
structure IsCapitalized (text : List Char) : Prop extends IsIdentifier text where
  capital : ∀ c ∈ text.head?, c.isUpper = true

namespace IsCapitalized

theorem cons {c : Char} {rest : List Char} (hc : c.isUpper = true)
    (hword : ∀ d ∈ c :: rest, isWordChar d = true) : IsCapitalized (c :: rest) where
  toIsIdentifier := .cons (isDigit_of_isUpper hc) hword
  capital := by
    intro d hd
    rwa [← Option.some.inj hd]

theorem append {name : String} (h : IsCapitalized name.toList) (suffix : String)
    (hsuffix : suffix.toList.all isWordChar = true) : IsCapitalized (name ++ suffix).toList where
  toIsIdentifier := h.toIsIdentifier.append suffix hsuffix
  capital := by
    rw [String.toList_append, List.head?_append_of_ne_nil _ h.ne_nil]
    exact h.capital

theorem isLettered {text : List Char} (h : IsCapitalized text) : IsLettered text where
  toIsIdentifier := h.toIsIdentifier
  letter := by
    intro c hc
    rw [Char.isAlpha, h.capital c hc, Bool.true_or]

end IsCapitalized

theorem stepPlain_of_isWordChar (dialect : Dialect) {c : Char} (h : isWordChar c = true) :
    stepPlain dialect c = some ([], .word [c]) := by
  have hblank : (c == ' ' || c == '\n' || c == '\t' || c == '\r') = false := by
    by_contra hne
    simp only [Bool.not_eq_false, Bool.or_eq_true, beq_iff_eq] at hne
    rcases hne with ((rfl | rfl) | rfl) | rfl <;> revert h <;> decide
  rw [stepPlain, hblank, h]
  rfl

theorem scan_word (dialect : Dialect) {text : List Char} (h : ∀ c ∈ text, isWordChar c = true)
    (before : List Char) :
    scan dialect (.word before) text = some ([], .word (before ++ text)) := by
  induction text generalizing before with
  | nil => simp [scan]
  | cons c rest ih =>
      have hc : isWordChar c = true := h c List.mem_cons_self
      have hrest := ih (fun d hd => h d (List.mem_cons_of_mem _ hd)) (before ++ [c])
      simp [scan, step, hc, hrest]

theorem lexFrom_word {text : List Char} {token : Token} (htoken : wordToken? text = some token)
    {c : Char} (hc : isWordChar c = false) (rest : List Char) :
    lexFrom dialect (.word text) (c :: rest) = (lex dialect (c :: rest)).map (token :: ·) := by
  have hstep : step dialect (.word text) c =
      (stepPlain dialect c).map fun pair => (token :: pair.1, pair.2) := by
    simp [step, hc, htoken]
  have hplain : step dialect .plain c = stepPlain dialect c := rfl
  simp only [lex, lexFrom, scan, hstep, hplain]
  cases stepPlain dialect c with
  | none => rfl
  | some pair =>
      cases hscan : scan dialect pair.2 rest with
      | none => simp [hscan]
      | some last => cases hfinish : finish last.2 <;> simp [hscan, hfinish]

theorem lex_wordChars_append {text : List Char} {token : Token} (hne : text ≠ [])
    (htext : ∀ c ∈ text, isWordChar c = true) (htoken : wordToken? text = some token) {c : Char}
    (hc : isWordChar c = false) (rest : List Char) :
    lex dialect (text ++ c :: rest) = (lex dialect (c :: rest)).map (token :: ·) := by
  have hscan : scan dialect .plain text = some ([], .word text) := by
    cases text with
    | nil => contradiction
    | cons d text =>
        have hd := stepPlain_of_isWordChar dialect (htext d List.mem_cons_self)
        have hmore := scan_word dialect
          (fun e he => htext e (List.mem_cons_of_mem _ he)) [d]
        simp [scan, step, hd, hmore]
  rw [lex, lexFrom_append hscan, lexFrom_word htoken hc, Option.map_map]
  rfl

theorem lex_identifier_append {name : String} (hname : IsIdentifier name.toList) {c : Char}
    (hc : isWordChar c = false) (rest : List Char) :
    lex dialect (name.toList ++ c :: rest) =
      (lex dialect (c :: rest)).map (.word name :: ·) := by
  have htoken := hname.wordToken?
  rw [String.ofList_toList] at htoken
  exact lex_wordChars_append hname.ne_nil hname.word htoken hc rest

theorem not_mem_toString (n : Nat) {c : Char} (hc : c.isDigit = false) :
    c ∉ (toString n).toList := by
  intro hmem
  rw [Nat.toString_eq_ofList_toDigits, String.toList_ofList] at hmem
  rw [Nat.isDigit_of_mem_toDigits (by decide) (by decide) hmem] at hc
  contradiction

theorem lex_number_append (n : Nat) {c : Char} (hc : isWordChar c = false) (rest : List Char) :
    lex dialect ((toString n).toList ++ c :: rest) =
      (lex dialect (c :: rest)).map (.number n :: ·) := by
  have hdigits : ∀ d ∈ Nat.toDigits 10 n, d.isDigit = true := fun d hd =>
    Nat.isDigit_of_mem_toDigits (by decide) (by decide) hd
  have htoken : wordToken? (Nat.toDigits 10 n) = some (.number n) := by
    have hvalue : Nat.ofDigitChars 10 (Nat.toDigits 10 n) 0 = n :=
      Nat.ofDigitChars_toDigits (by decide) (by decide)
    cases hlist : Nat.toDigits 10 n with
    | nil => exact absurd hlist Nat.toDigits_ne_nil
    | cons d rest =>
        rw [hlist] at hdigits hvalue
        have hd := hdigits d List.mem_cons_self
        have hrest : rest.all Char.isDigit = true :=
          List.all_eq_true.2 fun e he => hdigits e (List.mem_cons_of_mem _ he)
        simp [wordToken?, hd, hrest, hvalue]
  rw [Nat.toString_eq_ofList_toDigits, String.toList_ofList]
  refine lex_wordChars_append Nat.toDigits_ne_nil ?_ htoken hc rest
  intro d hd
  simp [isWordChar, Char.isAlphanum, hdigits d hd]

/-! ## Comments and directives -/

theorem scan_comment {text : List Char} (h : '\n' ∉ text) :
    scan dialect .comment text = some ([], .comment) := by
  induction text with
  | nil => rfl
  | cons c rest ih =>
      obtain ⟨hc, hrest⟩ := not_or.1 (mt List.mem_cons.2 h)
      simp [scan, step, Ne.symm hc, ih hrest]

theorem lex_comment {text : List Char} (h : '\n' ∉ text) :
    lex dialect ('/' :: '/' :: text) = some [] := by
  have hopen : scan dialect .plain ['/', '/'] = some ([], .comment) := rfl
  have hwhole : scan dialect .plain (['/', '/'] ++ text) = some ([], .comment) := by
    rw [scan_append hopen, scan_comment h]
    rfl
  have htext : '/' :: '/' :: text = ['/', '/'] ++ text := rfl
  rw [lex, lexFrom, htext, hwhole]
  rfl

theorem scan_directive {text : List Char} (h : '\n' ∉ text) (before : List Char) :
    scan dialect (.directive before) text = some ([], .directive (before ++ text)) := by
  induction text generalizing before with
  | nil => simp [scan]
  | cons c rest ih =>
      obtain ⟨hc, hrest⟩ := not_or.1 (mt List.mem_cons.2 h)
      simp [scan, step, Ne.symm hc, ih hrest]

theorem lex_directive (hdialect : dialect.directives = true) {text : List Char}
    (h : '\n' ∉ text) :
    lex dialect ('#' :: text) = some [.directive (String.ofList text)] := by
  have hopen : step dialect .plain '#' = some ([], .directive []) := by
    have hword : isWordChar '#' = false := by decide
    simp [step, stepPlain, hdialect, hword]
  simp [lex, lexFrom, scan, hopen, scan_directive h, finish]

/-! ## String literals -/

theorem step_string_of_plain {before : List Char} {c : Char} (hquote : c ≠ '"')
    (hbackslash : c ≠ '\\') (hrefused : c ∉ dialect.refused) :
    step dialect (.string before) c = some ([], .string (before ++ [c])) := by
  simp [step, hquote, hbackslash, hrefused]

/-- Characters without a meaning of their own are the value of a literal. -/
theorem scan_string_of_plain {text : List Char} (hquote : '"' ∉ text) (hbackslash : '\\' ∉ text)
    (hrefused : ∀ c ∈ text, c ∉ dialect.refused) (before : List Char) :
    scan dialect (.string before) text = some ([], .string (before ++ text)) := by
  induction text generalizing before with
  | nil => simp [scan]
  | cons c rest ih =>
      obtain ⟨hq, hquote⟩ := not_or.1 (mt List.mem_cons.2 hquote)
      obtain ⟨hb, hbackslash⟩ := not_or.1 (mt List.mem_cons.2 hbackslash)
      have hstep : step dialect (.string before) c = some ([], .string (before ++ [c])) :=
        step_string_of_plain (Ne.symm hq) (Ne.symm hb) (hrefused c List.mem_cons_self)
      have hrest := ih hquote hbackslash (fun d hd => hrefused d (List.mem_cons_of_mem _ hd))
        (before ++ [c])
      simp [scan, hstep, hrest]

theorem exists_digitChar_of_mem_toDigits {n : Nat} {c : Char} (h : c ∈ Nat.toDigits 16 n) :
    ∃ d < 16, c = d.digitChar := by
  induction n using Nat.strongRecOn with
  | ind n ih =>
      by_cases hn : n < 16
      · rw [Nat.toDigits_of_lt_base hn, List.mem_singleton] at h
        exact ⟨n, hn, h⟩
      · rw [Nat.toDigits_of_base_le (by decide) (by omega), List.mem_append,
          List.mem_singleton] at h
        rcases h with h | h
        · exact ih (n / 16) (by omega) h
        · exact ⟨n % 16, Nat.mod_lt n (by decide), h⟩

theorem isPrintable_of_mem_toDigits {n : Nat} {c : Char} (h : c ∈ Nat.toDigits 16 n) :
    isPrintable c = true := by
  obtain ⟨d, hd, rfl⟩ := exists_digitChar_of_mem_toDigits h
  interval_cases d <;> decide

theorem all_isPrintable_escapeChar (c : Char) : (escapeChar c).all isPrintable = true := by
  have hdigits : (Nat.toDigits 16 c.toNat).all isPrintable = true :=
    List.all_eq_true.2 fun d hd => isPrintable_of_mem_toDigits hd
  unfold escapeChar
  split_ifs with htab hreturn hfeed hmark hprint
  · decide
  · decide
  · decide
  · simp only [Bool.or_eq_true, beq_iff_eq] at hmark
    rcases hmark with (rfl | rfl) | rfl <;> decide
  · rw [List.all_cons, hprint]
    rfl
  · rw [List.all_append, List.all_append, hdigits]
    decide

/-- A literal is printable ASCII. -/
theorem isPrintable_of_mem_quoted {text : String} {c : Char} (h : c ∈ (quoted text).toList) :
    isPrintable c = true := by
  have hquoted : (quoted text).toList = '"' :: (escape text.toList ++ ['"']) := by simp [quoted]
  have hquote : isPrintable '"' = true := by decide
  rw [hquoted, List.mem_cons, List.mem_append, List.mem_singleton] at h
  rcases h with rfl | h | rfl
  · exact hquote
  · obtain ⟨d, -, hd⟩ := List.mem_flatMap.1 h
    exact List.all_eq_true.1 (all_isPrintable_escapeChar d) c hd
  · exact hquote

/-- A literal is on one line. -/
theorem not_mem_newline_quoted (text : String) : '\n' ∉ (quoted text).toList := by
  intro h
  exact absurd (isPrintable_of_mem_quoted h) (by decide)

theorem hexDigit?_digitChar {d : Nat} (h : d < 16) :
    hexDigit? d.digitChar = some d ∧ d.digitChar ≠ '\x7d' := by
  interval_cases d <;> decide

/-- The digits of a number are read back as the number. -/
theorem scan_code_toDigits (before : List Char) (n : Nat) :
    scan dialect (.code before 0 0) (Nat.toDigits 16 n) =
      some ([], .code before (Nat.toDigits 16 n).length n) := by
  induction n using Nat.strongRecOn with
  | ind n ih =>
      by_cases hn : n < 16
      · obtain ⟨hdigit, hne⟩ := hexDigit?_digitChar hn
        simp [Nat.toDigits_of_lt_base hn, scan, step, hdigit, hne]
      · have hle : 16 ≤ n := by omega
        obtain ⟨hdigit, hne⟩ := hexDigit?_digitChar (Nat.mod_lt n (by decide : 0 < 16))
        have hvalue : 16 * (n / 16) + n % 16 = n := Nat.div_add_mod n 16
        rw [Nat.toDigits_of_base_le (by decide) hle, scan_append (ih (n / 16) (by omega))]
        simp [scan, step, hdigit, hne, hvalue]

theorem coded?_toNat (c : Char) :
    coded? (Nat.toDigits 16 c.toNat).length c.toNat = some c := by
  have hpos : 0 < (Nat.toDigits 16 c.toNat).length := Nat.length_toDigits_pos
  have hle : (Nat.toDigits 16 c.toNat).length ≤ 6 := by
    rw [Nat.length_toDigits_le_iff (by decide) (by decide)]
    have hlt : c.toNat < 0x110000 := by
      rcases c.valid with h | h
      · exact Nat.lt_trans h (by decide)
      · exact h.2
    omega
  have hvalid : c.toNat.isValidChar := c.valid
  rw [coded?, if_pos ⟨hpos, hle, hvalid⟩, Char.ofNat_toNat]

theorem scan_escapeChar (before : List Char) (c : Char) :
    scan .rust (.string before) (escapeChar c) = some ([], .string (before ++ [c])) := by
  unfold escapeChar
  split_ifs with htab hreturn hfeed hmark hprint
  · rw [beq_iff_eq.1 htab]
    rfl
  · rw [beq_iff_eq.1 hreturn]
    rfl
  · rw [beq_iff_eq.1 hfeed]
    rfl
  · simp only [Bool.or_eq_true, beq_iff_eq] at hmark
    rcases hmark with (rfl | rfl) | rfl <;> rfl
  · simp only [beq_iff_eq, Bool.or_eq_true, not_or] at hreturn hmark
    have hstep : step .rust (.string before) c = some ([], .string (before ++ [c])) :=
      step_string_of_plain hmark.1.2 hmark.2 (by simpa [Dialect.rust] using hreturn)
    simp [scan, hstep]
  · have hopen : scan .rust (.string before) ['\\', 'u', '\x7b'] =
        some ([], .code before 0 0) := rfl
    have hclose : scan .rust (.code before (Nat.toDigits 16 c.toNat).length c.toNat) ['\x7d'] =
        some ([], .string (before ++ [c])) := by
      simp [scan, step, coded?_toNat]
    rw [List.append_assoc, scan_append hopen, scan_append (scan_code_toDigits before c.toNat),
      hclose]
    rfl

theorem scan_escape (before text : List Char) :
    scan .rust (.string before) (escape text) = some ([], .string (before ++ text)) := by
  induction text generalizing before with
  | nil => simp [scan]
  | cons c rest ih =>
      rw [escape, List.flatMap_cons, scan_append (scan_escapeChar before c), ← escape, ih]
      simp

/-- An escaped text between quotes is read back as it was. -/
theorem scan_quoted (text : String) :
    scan .rust .plain (quoted text).toList = some ([.string text], .plain) := by
  have hopen : scan .rust .plain ['"'] = some ([], .string []) := rfl
  have hclose : scan .rust (.string text.toList) ['"'] = some ([.string text], .plain) := by
    simp [scan, step]
  have htext : (quoted text).toList = ['"'] ++ (escape text.toList ++ ['"']) := by
    simp [quoted]
  rw [htext, scan_append hopen, scan_append (scan_escape [] text.toList), List.nil_append, hclose]
  rfl

theorem quoted_injective : Function.Injective quoted := by
  intro s t h
  have hscan := scan_quoted s
  rw [h, scan_quoted t] at hscan
  simpa using hscan.symm

end TokenTables.Syntax
