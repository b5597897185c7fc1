import TokenTables.Grammar.TokenRule
import TokenTables.Proofs.Text.Blank
import TokenTables.Proofs.Text.Letter
/-!
# The parts of a rule

A line is a token rule when it falls into a name, a colon, a value, a semicolon and the blanks
between them.  It does so in at most one way, and that way is the one the reader finds.
-/

namespace TokenTables.TokenRule

open Text

/-- The name of a token: a capital, and then capitals, digits and underscores. -/
def IsName : List Char → Prop
  | [] => False
  | c :: rest => isNameStart c = true ∧ ∀ d ∈ rest, isNameChar d = true

/-- The value of a token: on one line, and beginning with a blank only if that is all of it. -/
def IsValue : List Char → Prop
  | [] => False
  | c :: rest => (isBlank c = false ∨ rest = []) ∧ '\n' ∉ c :: rest

instance : DecidablePred IsName
  | [] => inferInstanceAs (Decidable False)
  | c :: rest =>
    decidable_of_iff (isNameStart c = true ∧ rest.all isNameChar = true)
      (and_congr_right fun _ => List.all_eq_true)

instance : DecidablePred IsValue
  | [] => inferInstanceAs (Decidable False)
  | _ :: _ => inferInstanceAs (Decidable (_ ∧ _))

/-- The parts that a rule is written from. -/
@[ext] structure Split where
  name : List Char
  /-- The blanks between the name and the colon. -/
  gap : List Char
  /-- The blanks between the colon and the value. -/
  lead : List Char
  value : List Char
  /-- The blanks after the semicolon. -/
  tail : List Char
  isName : IsName name
  gap_blanks : Blanks gap
  lead_blanks : Blanks lead
  isValue : IsValue value
  tail_blanks : Blanks tail

/-- The line that the parts make. -/
def Split.text (split : Split) : List Char :=
  split.name ++ split.gap ++ [':'] ++ split.lead ++ split.value ++ [';'] ++ split.tail

theorem Split.text_eq (split : Split) :
    split.text = split.name ++ (split.gap ++ ':' ::
      (split.lead ++ (split.value ++ ';' :: split.tail))) := by
  simp [Split.text]

/-! ## The name -/

theorem isNameChar_of_isNameStart {c : Char} (h : isNameStart c = true) : isNameChar c = true := by
  simp only [isNameStart] at h
  simp [isNameChar, h]

theorem IsName.isNameChar {name : List Char} (h : IsName name) {c : Char} (hc : c ∈ name) :
    isNameChar c = true := by
  cases name with
  | nil => exact h.elim
  | cons first rest =>
      rcases List.mem_cons.1 hc with rfl | hc
      · exact isNameChar_of_isNameStart h.1
      · exact h.2 c hc

theorem isNameChar_bounds {c : Char} (h : isNameChar c = true) :
    (48 ≤ c.toNat ∧ c.toNat ≤ 57) ∨ (65 ≤ c.toNat ∧ c.toNat ≤ 90) ∨ c.toNat = 95 := by
  simp only [isNameChar, Bool.or_eq_true, beq_iff_eq, isUpper_iff, isDigit_iff] at h
  rcases h with (h | h) | rfl
  · exact Or.inr (Or.inl h)
  · exact Or.inl h
  · exact Or.inr (Or.inr rfl)

theorem isBlank_of_isNameChar {c : Char} (h : isNameChar c = true) : isBlank c = false := by
  have hbounds := isNameChar_bounds h
  simp only [isBlank, Bool.or_eq_false_iff, Bool.and_eq_false_iff, decide_eq_false_iff_not,
    beq_eq_false_iff_ne, Nat.not_le, ne_eq]
  omega

theorem isNameChar_of_isBlank {c : Char} (h : isBlank c = true) : isNameChar c = false := by
  by_contra hname
  rw [Bool.not_eq_false] at hname
  rw [isBlank_of_isNameChar hname] at h
  contradiction

theorem readName?_append {name rest : List Char} (hname : IsName name)
    (hrest : ∀ c ∈ rest.head?, isNameChar c = false) :
    readName? (name ++ rest) = some (name, rest) := by
  cases name with
  | nil => exact hname.elim
  | cons first more =>
      have hstop : rest.takeWhile isNameChar = [] ∧ rest.dropWhile isNameChar = rest := by
        cases rest with
        | nil => simp
        | cons c rest =>
            have hc : isNameChar c = false := hrest c rfl
            simp [hc]
      simp only [List.cons_append, readName?, hname.1, if_true]
      rw [List.takeWhile_append_of_pos hname.2, List.dropWhile_append_of_pos hname.2, hstop.1,
        hstop.2, List.append_nil]

theorem eq_of_readName?_eq_some {text name rest : List Char}
    (h : readName? text = some (name, rest)) : IsName name ∧ text = name ++ rest := by
  cases text with
  | nil => simp [readName?] at h
  | cons c text =>
      simp only [readName?] at h
      split at h
      · rename_i hc
        obtain ⟨rfl, rfl⟩ := Prod.mk.inj (Option.some.inj h)
        refine ⟨⟨hc, ?_⟩, ?_⟩
        · intro d hd
          exact List.mem_takeWhile_imp hd
        · rw [List.cons_append, List.takeWhile_append_dropWhile]
      · contradiction

/-! ## The value -/

theorem IsValue.ne_nil {value : List Char} (h : IsValue value) : value ≠ [] := by
  rintro rfl
  exact h

theorem IsValue.not_mem_newline {value : List Char} (h : IsValue value) : '\n' ∉ value := by
  cases value with
  | nil => exact h.elim
  | cons c rest => exact h.2

theorem beforeSemicolon?_eq_some_iff {body before : List Char} :
    beforeSemicolon? body = some before ↔ ∃ tail, Blanks tail ∧ body = before ++ ';' :: tail := by
  unfold beforeSemicolon?
  obtain ⟨blanks, hblanks, hbody⟩ := exists_blanks_append_trimStart body.reverse
  constructor
  · intro h
    split at h
    · rename_i rest hrest
      obtain rfl := Option.some.inj h
      refine ⟨blanks.reverse, hblanks.reverse, ?_⟩
      rw [show trimStart body.reverse = ';' :: rest from hrest] at hbody
      rw [← List.reverse_reverse body, hbody]
      simp
    · contradiction
  · rintro ⟨tail, htail, rfl⟩
    have hcut : trimStart (before ++ ';' :: tail).reverse = ';' :: before.reverse := by
      rw [List.reverse_append, List.reverse_cons, List.append_assoc,
        trimStart_blanks_append htail.reverse]
      exact trimStart_cons_of_not_blank (by decide) _
    rw [show List.dropWhile isBlank (before ++ ';' :: tail).reverse = _ from hcut]
    simp

theorem readValue?_of_blanks {blanks : List Char} {c : Char} (h : Blanks (blanks ++ [c])) :
    readValue? (blanks ++ [c]) = if c = '\n' then none else some [c] := by
  unfold readValue?
  rw [trimStart_eq_nil_iff.2 h]
  by_cases hc : c = '\n' <;> simp [hc, eq_comm]

theorem readValue?_of_trimStart_eq_cons {text rest : List Char} {c : Char}
    (h : trimStart text = c :: rest) :
    readValue? text = if '\n' ∈ c :: rest then none else some (c :: rest) := by
  unfold readValue?
  rw [h]
  simp

/-- A value and the blanks in front of it are all that stands before the semicolon. -/
theorem readValue?_eq_some_iff {text value : List Char} :
    readValue? text = some value ↔ IsValue value ∧ ∃ lead, Blanks lead ∧ text = lead ++ value := by
  constructor
  · intro h
    cases hcut : trimStart text with
    | cons c rest =>
        rw [readValue?_of_trimStart_eq_cons hcut] at h
        split at h
        · contradiction
        · rename_i hline
          obtain rfl := Option.some.inj h
          obtain ⟨lead, hlead, htext⟩ := exists_blanks_append_trimStart text
          rw [hcut] at htext
          exact ⟨⟨Or.inl (isBlank_of_trimStart_eq_cons hcut), hline⟩, lead, hlead, htext⟩
    | nil =>
        have hblanks := trimStart_eq_nil_iff.1 hcut
        rcases List.eq_nil_or_concat' text with rfl | ⟨lead, c, rfl⟩
        · simp [readValue?] at h
        · rw [readValue?_of_blanks hblanks] at h
          split at h
          · contradiction
          · rename_i hc
            obtain rfl := Option.some.inj h
            refine ⟨⟨Or.inr rfl, by simpa [eq_comm] using hc⟩, lead, ?_, rfl⟩
            exact fun d hd => hblanks d (List.mem_append_left _ hd)
  · rintro ⟨hvalue, lead, hlead, rfl⟩
    cases value with
    | nil => exact hvalue.elim
    | cons c rest =>
        obtain ⟨hstart, hline⟩ := hvalue
        by_cases hc : isBlank c = true
        · obtain rfl : rest = [] := by simpa [hc] using hstart
          rw [readValue?_of_blanks (hlead.concat hc), if_neg (by simpa [eq_comm] using hline)]
        · have hc : isBlank c = false := by simpa using hc
          have hcut : trimStart (lead ++ c :: rest) = c :: rest := by
            rw [trimStart_blanks_append hlead, trimStart_cons_of_not_blank hc]
          rw [readValue?_of_trimStart_eq_cons hcut, if_neg hline]

/-! ## The rule -/

theorem read?_text (split : Split) : read? split.text = some (split.name, split.value) := by
  have hstop : ∀ c ∈ (split.gap ++ ':' :: (split.lead ++ (split.value ++ ';' :: split.tail))).head?,
      isNameChar c = false := by
    intro c hc
    cases hgap : split.gap with
    | nil =>
        obtain rfl : ':' = c := by simpa [hgap] using hc
        decide
    | cons d gap =>
        obtain rfl : d = c := by simpa [hgap] using hc
        exact isNameChar_of_isBlank (split.gap_blanks d (by simp [hgap]))
  have hcolon : trimStart (split.gap ++ ':' :: (split.lead ++ (split.value ++ ';' :: split.tail))) =
      ':' :: (split.lead ++ (split.value ++ ';' :: split.tail)) := by
    rw [trimStart_blanks_append split.gap_blanks]
    exact trimStart_cons_of_not_blank (by decide) _
  have hbefore : beforeSemicolon? (split.lead ++ (split.value ++ ';' :: split.tail)) =
      some (split.lead ++ split.value) :=
    beforeSemicolon?_eq_some_iff.2 ⟨split.tail, split.tail_blanks, by simp⟩
  have hvalue : readValue? (split.lead ++ split.value) = some split.value :=
    readValue?_eq_some_iff.2 ⟨split.isValue, split.lead, split.lead_blanks, rfl⟩
  rw [split.text_eq]
  simp [read?, readName?_append split.isName hstop, hcolon, hbefore, hvalue]

theorem exists_split_of_read?_eq_some {text name value : List Char}
    (h : read? text = some (name, value)) :
    ∃ split : Split, split.text = text ∧ split.name = name ∧ split.value = value := by
  unfold read? at h
  split at h
  · contradiction
  · rename_i found rest hfound
    obtain ⟨hname, rfl⟩ := eq_of_readName?_eq_some hfound
    split at h
    · rename_i body hcolon
      obtain ⟨gap, hgap, hrest⟩ := exists_blanks_append_trimStart rest
      obtain ⟨parts, hparts, heq⟩ := Option.map_eq_some_iff.1 h
      obtain ⟨rfl, rfl⟩ := Prod.mk.inj heq
      obtain ⟨before, hbefore, hread⟩ := Option.bind_eq_some_iff.1 hparts
      obtain ⟨tail, htail, rfl⟩ := beforeSemicolon?_eq_some_iff.1 hbefore
      obtain ⟨hvalue, lead, hlead, rfl⟩ := readValue?_eq_some_iff.1 hread
      refine ⟨⟨found, gap, lead, parts, tail, hname, hgap, hlead, hvalue, htail⟩, ?_, rfl, rfl⟩
      rw [hcolon] at hrest
      rw [hrest]
      simp [Split.text]
    · contradiction

/-- A line falls into the parts of a rule in at most one way. -/
theorem Split.eq_of_text_eq {s t : Split} (h : s.text = t.text) : s = t := by
  have hread : some (s.name, s.value) = some (t.name, t.value) := by
    rw [← read?_text s, ← read?_text t, h]
  obtain ⟨hname, hvalue⟩ := Prod.mk.inj (Option.some.inj hread)
  rw [s.text_eq, t.text_eq, hname, hvalue] at h
  obtain ⟨hgap, hbody⟩ := blanks_append_cons_inj s.gap_blanks t.gap_blanks (by decide) (by decide)
    (List.append_cancel_left h)
  have hbody : (s.lead ++ t.value) ++ ';' :: s.tail = (t.lead ++ t.value) ++ ';' :: t.tail := by
    simpa using hbody
  obtain ⟨hfront, htail⟩ := append_cons_blanks_inj s.tail_blanks t.tail_blanks (by decide)
    (by decide) hbody
  have hlead : s.lead = t.lead :=
    List.append_cancel_right (List.append_cancel_right hfront)
  exact Split.ext hname hgap hlead hvalue htail

theorem read?_eq_some_iff {text name value : List Char} :
    read? text = some (name, value) ↔
      ∃ split : Split, split.text = text ∧ split.name = name ∧ split.value = value := by
  constructor
  · exact exists_split_of_read?_eq_some
  · rintro ⟨split, rfl, rfl, rfl⟩
    exact read?_text split

theorem parse?_eq_some_iff {line : String} {rule : TokenRule} :
    parse? line = some rule ↔
      ∃ split : Split, split.text = line.toList ∧ split.name = rule.name.toList ∧
        split.value = rule.value.toList := by
  rw [← read?_eq_some_iff]
  unfold parse?
  constructor
  · intro h
    obtain ⟨⟨name, value⟩, hread, rfl⟩ := Option.map_eq_some_iff.1 h
    simpa using hread
  · intro h
    simp [h]

end TokenTables.TokenRule
