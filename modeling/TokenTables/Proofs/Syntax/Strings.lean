import TokenTables.Proofs.Syntax.Spelling
import TokenTables.Proofs.Text.Line
/-!
# Rows of strings

A row of a table in Rust is a literal and a comma, and it is read as the string it was written for,
whatever the string is.  What stands between its quotes is printable ASCII in which every quote is
escaped.
-/

namespace TokenTables.Syntax

open Text

/-- The values of literals with commas between them; a comma may follow the last of them. -/
def readStrings? : List Token → Option (List String)
  | [] => some []
  | [.string text] => some [text]
  | .string text :: .mark ',' :: rest => (readStrings? rest).map (text :: ·)
  | _ => none

/-- Double quotes stand in the text only where a backslash escapes them, and no backslash at its end
escapes what comes after it.  `inEscape` says that one does so in front of the text. -/
def quotesEscaped (inEscape : Bool) : List Char → Bool
  | [] => !inEscape
  | c :: rest =>
    if inEscape then quotesEscaped false rest
    else if c == '\\' then quotesEscaped true rest
    else c != '"' && quotesEscaped false rest

theorem quotesEscaped_append {inEscape : Bool} {s : List Char}
    (h : quotesEscaped inEscape s = true) (t : List Char) :
    quotesEscaped inEscape (s ++ t) = quotesEscaped false t := by
  induction s generalizing inEscape with
  | nil =>
      rw [quotesEscaped, Bool.not_eq_true'] at h
      rw [h, List.nil_append]
  | cons c rest ih =>
      rw [quotesEscaped] at h
      rw [List.cons_append, quotesEscaped]
      split
      · rw [if_pos ‹_›] at h
        exact ih h
      · rw [if_neg ‹_›] at h
        split
        · rw [if_pos ‹_›] at h
          exact ih h
        · rw [if_neg ‹_›, Bool.and_eq_true] at h
          rw [h.1, ih h.2, Bool.true_and]

theorem quotesEscaped_of_not_mem {text : List Char} (hquote : '"' ∉ text)
    (hbackslash : '\\' ∉ text) : quotesEscaped false text = true := by
  induction text with
  | nil => rfl
  | cons c rest ih =>
      obtain ⟨hc, hrest⟩ := not_or.1 (mt List.mem_cons.2 hquote)
      obtain ⟨hd, hmore⟩ := not_or.1 (mt List.mem_cons.2 hbackslash)
      simp [quotesEscaped, Ne.symm hc, Ne.symm hd, ih hrest hmore]

/-! ## Escaped texts -/

theorem quotesEscaped_toDigits (n : Nat) : quotesEscaped false (Nat.toDigits 16 n) = true := by
  have hplain : ∀ d ∈ Nat.toDigits 16 n, d ≠ '"' ∧ d ≠ '\\' := by
    intro d hd
    obtain ⟨k, hk, rfl⟩ := exists_digitChar_of_mem_toDigits hd
    interval_cases k <;> decide
  apply quotesEscaped_of_not_mem
  · intro hquote
    exact (hplain _ hquote).1 rfl
  · intro hbackslash
    exact (hplain _ hbackslash).2 rfl

theorem quotesEscaped_escapeChar (c : Char) : quotesEscaped false (escapeChar c) = true := by
  unfold escapeChar
  split_ifs with htab hreturn hfeed hmark hprint
  · decide
  · decide
  · decide
  · simp only [Bool.or_eq_true, beq_iff_eq] at hmark
    rcases hmark with (rfl | rfl) | rfl <;> decide
  · simp only [Bool.or_eq_true, beq_iff_eq, not_or] at hmark
    simp [quotesEscaped, hmark]
  · have hopen : quotesEscaped false ['\\', 'u', '\x7b'] = true := by decide
    rw [List.append_assoc, quotesEscaped_append hopen,
      quotesEscaped_append (quotesEscaped_toDigits c.toNat)]
    decide

theorem quotesEscaped_escape (text : List Char) : quotesEscaped false (escape text) = true := by
  induction text with
  | nil => rfl
  | cons c rest ih =>
      rw [escape, List.flatMap_cons, quotesEscaped_append (quotesEscaped_escapeChar c)]
      exact ih

/-- Printable ASCII has no line breaks. -/
theorem isLineBreak_of_isPrintable {c : Char} (h : isPrintable c = true) : isLineBreak c = false := by
  simp only [isPrintable, Bool.and_eq_true, decide_eq_true_eq] at h
  simp only [isLineBreak, Bool.or_eq_false_iff, Bool.and_eq_false_iff, decide_eq_false_iff_not,
    beq_eq_false_iff_ne, Nat.not_le, ne_eq]
  omega

/-! ## Rows -/

/-- A row that is read as the string and a comma, is on one line, and has no quotes as they are but
the two around the literal. -/
structure StringRow (row : List Char) (entry : String) : Prop where
  lex : lex .rust row = some [.string entry, .mark ',']
  unbroken : Unbroken row
  quoted : ∃ text, row = "    \"".toList ++ text ++ "\",".toList ∧ quotesEscaped false text = true

theorem lex_row (entry : String) :
    lex .rust ([' ', ' ', ' ', ' '] ++ (quoted entry).toList ++ [',']) =
      some [.string entry, .mark ','] := by
  have hspaces : scan .rust .plain [' ', ' ', ' ', ' '] = some ([], .plain) := rfl
  have hcomma : lex .rust [','] = some [.mark ','] := rfl
  rw [List.append_assoc, lex_append hspaces, lex_append (scan_quoted entry), hcomma]
  rfl

theorem unbroken_row (entry : String) :
    Unbroken ([' ', ' ', ' ', ' '] ++ (quoted entry).toList ++ [',']) := by
  rw [unbroken_append, unbroken_append]
  refine ⟨⟨by decide, ?_⟩, by decide⟩
  intro c hc
  exact isLineBreak_of_isPrintable (isPrintable_of_mem_quoted hc)

theorem stringRow_quoted (entry : String) :
    StringRow ([' ', ' ', ' ', ' '] ++ (quoted entry).toList ++ [',']) entry where
  lex := lex_row entry
  unbroken := unbroken_row entry
  quoted := ⟨escape entry.toList, by simp [Text.quoted], quotesEscaped_escape _⟩

theorem readStrings?_rows (entries : List String) :
    readStrings? (entries.flatMap fun entry => [.string entry, .mark ',']) = some entries := by
  induction entries with
  | nil => rfl
  | cons entry rest ih =>
      rw [List.flatMap_cons, List.cons_append, List.cons_append, List.nil_append, readStrings?, ih]
      rfl

/-- Rows of which each is a string and a comma are read together as the list of the strings. -/
theorem readStrings?_of_rows {dialect : Dialect} {rows : List (List Char)} {entries : List String}
    (h : List.Forall₂
      (fun row entry => Syntax.lex dialect row = some [.string entry, .mark ',']) rows entries) :
    (Syntax.lex dialect (['\n'].intercalate rows)).bind readStrings? = some entries := by
  have hlines : lexLines dialect rows =
      some (entries.flatMap fun entry => [.string entry, .mark ',']) := by
    induction h with
    | nil => rfl
    | cons hrow _ ih => exact lexLines_cons hrow ih
  rw [lex_intercalate hlines, Option.bind_some, readStrings?_rows]

theorem readStrings?_of_stringRows {rows : List (List Char)} {entries : List String}
    (h : List.Forall₂ StringRow rows entries) :
    (Syntax.lex .rust (['\n'].intercalate rows)).bind readStrings? = some entries :=
  readStrings?_of_rows (h.imp fun _ _ hrow => hrow.lex)

end TokenTables.Syntax
