import TokenTables.Proofs.Grammar.RuleSplit
/-!
# The pattern of a rule

A rule is what the pattern `^[A-Z][A-Z0-9_]*\s*:\s*.+?;\s*$` matches.  A backtracking matcher tries
the ways to match a piece in the order of preference and keeps the first with which the pieces after
it match.  Here that match is shown to be the only split of the line, which is what the reader of
rules looks for without backtracking.
-/

namespace TokenTables

/-! ## Matching with backtracking -/

/-- A piece of a pattern. -/
inductive Piece
  /-- One character of a class. -/
  | one (has : Char → Bool)
  /-- Any number of characters of a class, as many as possible. -/
  | many (has : Char → Bool)
  /-- One or more characters of a class, as few as possible. -/
  | fewest (has : Char → Bool)
  /-- The end of the text. -/
  | ends

namespace Piece

/-- The ways to take characters of a class from the front of a text, the most of them first. -/
def takeMost (has : Char → Bool) : List Char → List (List Char × List Char)
  | [] => [([], [])]
  | c :: rest =>
    if has c then (takeMost has rest).map (fun way => (c :: way.1, way.2)) ++ [([], c :: rest)]
    else [([], c :: rest)]

/-- The ways to take at least one character of a class, the fewest of them first. -/
def takeLeast (has : Char → Bool) : List Char → List (List Char × List Char)
  | [] => []
  | c :: rest =>
    if has c then ([c], rest) :: (takeLeast has rest).map (fun way => (c :: way.1, way.2))
    else []

/-- The ways to match a piece at the front of a text, each with the text after it, in the order of
preference. -/
def ways : Piece → List Char → List (List Char × List Char)
  | one has, c :: rest => if has c then [([c], rest)] else []
  | one _, [] => []
  | many has, text => takeMost has text
  | fewest has, text => takeLeast has text
  | ends, [] => [([], [])]
  | ends, _ :: _ => []

theorem mem_takeMost_iff {has : Char → Bool} {text taken rest : List Char} :
    (taken, rest) ∈ takeMost has text ↔ text = taken ++ rest ∧ ∀ c ∈ taken, has c = true := by
  induction text generalizing taken with
  | nil =>
      simp only [takeMost, List.mem_singleton, Prod.mk.injEq, eq_comm (a := []),
        List.append_eq_nil_iff]
      constructor
      · rintro ⟨rfl, rfl⟩
        simp
      · exact fun h => h.1
  | cons c text ih =>
      simp only [takeMost]
      split
      · rename_i hc
        simp only [List.mem_append, List.mem_map, List.mem_singleton, Prod.mk.injEq, Prod.exists]
        constructor
        · rintro (⟨more, after, hmore, rfl, rfl⟩ | ⟨rfl, rfl⟩)
          · obtain ⟨rfl, hall⟩ := ih.1 hmore
            simpa [hc] using hall
          · simp
        · rintro ⟨htext, hall⟩
          cases taken with
          | nil => exact Or.inr ⟨rfl, htext.symm⟩
          | cons d more =>
              obtain ⟨rfl, rfl⟩ := List.cons.inj htext
              refine Or.inl ⟨more, rest, ih.2 ⟨rfl, ?_⟩, rfl, rfl⟩
              exact fun e he => hall e (List.mem_cons_of_mem _ he)
      · rename_i hc
        simp only [List.mem_singleton, Prod.mk.injEq]
        constructor
        · rintro ⟨rfl, rfl⟩
          simp
        · rintro ⟨htext, hall⟩
          cases taken with
          | nil => exact ⟨rfl, htext.symm⟩
          | cons d more =>
              obtain ⟨rfl, -⟩ := List.cons.inj htext
              exact absurd (hall c List.mem_cons_self) hc

theorem mem_takeLeast_iff {has : Char → Bool} {text taken rest : List Char} :
    (taken, rest) ∈ takeLeast has text ↔
      taken ≠ [] ∧ text = taken ++ rest ∧ ∀ c ∈ taken, has c = true := by
  induction text generalizing taken with
  | nil =>
      simp only [takeLeast, List.not_mem_nil, false_iff]
      rintro ⟨hne, htext, -⟩
      exact hne (List.append_eq_nil_iff.1 htext.symm).1
  | cons c text ih =>
      simp only [takeLeast]
      split
      · rename_i hc
        simp only [List.mem_cons, List.mem_map, Prod.mk.injEq, Prod.exists]
        constructor
        · rintro (⟨rfl, rfl⟩ | ⟨more, after, hmore, rfl, rfl⟩)
          · simpa using hc
          · obtain ⟨-, rfl, hall⟩ := ih.1 hmore
            simpa [hc] using hall
        · rintro ⟨hne, htext, hall⟩
          cases taken with
          | nil => exact absurd rfl hne
          | cons d more =>
              obtain ⟨rfl, rfl⟩ := List.cons.inj htext
              have hmore : ∀ e ∈ more, has e = true :=
                fun e he => hall e (List.mem_cons_of_mem _ he)
              cases more with
              | nil => exact Or.inl ⟨rfl, rfl⟩
              | cons e more => exact Or.inr ⟨e :: more, rest, ih.2 ⟨by simp, rfl, hmore⟩, rfl, rfl⟩
      · rename_i hc
        simp only [List.not_mem_nil, false_iff]
        rintro ⟨hne, htext, hall⟩
        cases taken with
        | nil => exact hne rfl
        | cons d more =>
            obtain ⟨rfl, -⟩ := List.cons.inj htext
            exact hc (hall c List.mem_cons_self)

theorem takeMost_longest_first (has : Char → Bool) (text : List Char) :
    (takeMost has text).Pairwise fun a b => b.1.length < a.1.length := by
  induction text with
  | nil => simp [takeMost]
  | cons c rest ih =>
      simp only [takeMost]
      split
      · refine List.pairwise_append.2 ⟨?_, List.pairwise_singleton _ _, ?_⟩
        · rw [List.pairwise_map]
          exact ih.imp fun h => by simpa using h
        · intro a ha b hb
          obtain ⟨way, -, rfl⟩ := List.mem_map.1 ha
          obtain rfl := List.mem_singleton.1 hb
          simp
      · exact List.pairwise_singleton _ _

end Piece

/-- The characters that each piece takes in the first match of a pattern with a whole text. -/
def firstMatch : List Piece → List Char → Option (List (List Char))
  | [], _ => some []
  | piece :: pieces, text =>
    (piece.ways text).findSome? fun way => (firstMatch pieces way.2).map (way.1 :: ·)

theorem exists_way_of_firstMatch {piece : Piece} {pieces : List Piece} {text : List Char}
    {parts : List (List Char)} (h : firstMatch (piece :: pieces) text = some parts) :
    ∃ taken rest more, (taken, rest) ∈ piece.ways text ∧ firstMatch pieces rest = some more ∧
      parts = taken :: more := by
  obtain ⟨⟨taken, rest⟩, hway, hparts⟩ := List.exists_of_findSome?_eq_some h
  obtain ⟨more, hmore, rfl⟩ := Option.map_eq_some_iff.1 hparts
  exact ⟨taken, rest, more, hway, hmore, rfl⟩

theorem firstMatch_isSome_of_way {piece : Piece} {pieces : List Piece} {text taken rest : List Char}
    (hway : (taken, rest) ∈ piece.ways text) (hrest : (firstMatch pieces rest).isSome) :
    (firstMatch (piece :: pieces) text).isSome := by
  rw [firstMatch, List.findSome?_isSome_iff]
  exact ⟨(taken, rest), hway, by simpa using hrest⟩

/-! ## The match of a rule -/

namespace TokenRule

open Text

/-- From the semicolon on: `;\s*$`. -/
def endPattern : List Piece :=
  [.one (· == ';'), .many isBlank, .ends]

/-- From the value on: `.+?;\s*$`. -/
def valuePattern : List Piece :=
  .fewest (· != '\n') :: endPattern

/-- From the colon on: `:\s*.+?;\s*$`. -/
def bodyPattern : List Piece :=
  .one (· == ':') :: .many isBlank :: valuePattern

/-- `^[A-Z][A-Z0-9_]*\s*:\s*.+?;\s*$`. -/
def rulePattern : List Piece :=
  .one isNameStart :: .many isNameChar :: .many isBlank :: bodyPattern

/-- The name and the value among the parts of a match. -/
def captures? : List (List Char) → Option (List Char × List Char)
  | [first, more, _, _, _, value, _, _, _] => some (first ++ more, value)
  | _ => none

theorem mem_ways_one_iff {has : Char → Bool} {text taken rest : List Char} :
    (taken, rest) ∈ (Piece.one has).ways text ↔
      ∃ c, has c = true ∧ taken = [c] ∧ text = c :: rest := by
  cases text with
  | nil => simp [Piece.ways]
  | cons d text =>
      simp only [Piece.ways]
      split
      · rename_i hd
        simp only [List.mem_singleton, Prod.mk.injEq]
        constructor
        · rintro ⟨rfl, rfl⟩
          exact ⟨d, hd, rfl, rfl⟩
        · rintro ⟨c, -, rfl, heq⟩
          obtain ⟨rfl, rfl⟩ := List.cons.inj heq
          exact ⟨rfl, rfl⟩
      · rename_i hd
        simp only [List.not_mem_nil, false_iff]
        rintro ⟨c, hc, -, heq⟩
        obtain ⟨rfl, -⟩ := List.cons.inj heq
        exact hd hc

theorem mem_ways_ends_iff {text taken rest : List Char} :
    (taken, rest) ∈ Piece.ends.ways text ↔ text = [] ∧ taken = [] ∧ rest = [] := by
  cases text <;> simp [Piece.ways]

theorem eq_of_firstMatch_end {text : List Char} {parts : List (List Char)}
    (h : firstMatch endPattern text = some parts) :
    ∃ tail, Blanks tail ∧ text = ';' :: tail ∧ parts = [[';'], tail, []] := by
  obtain ⟨taken, rest₁, parts₁, hsemicolon, h₁, rfl⟩ := exists_way_of_firstMatch h
  obtain ⟨c, hc, rfl, rfl⟩ := mem_ways_one_iff.1 hsemicolon
  obtain rfl : c = ';' := beq_iff_eq.1 hc
  obtain ⟨tail, rest₂, parts₂, hrun, h₂, rfl⟩ := exists_way_of_firstMatch h₁
  obtain ⟨rfl, htail⟩ := Piece.mem_takeMost_iff.1 hrun
  obtain ⟨taken, rest₃, parts₃, hend, h₃, rfl⟩ := exists_way_of_firstMatch h₂
  obtain ⟨rfl, rfl, rfl⟩ := mem_ways_ends_iff.1 hend
  obtain rfl : [] = parts₃ := Option.some.inj h₃
  exact ⟨tail, htail, by simp, rfl⟩

theorem firstMatch_end_isSome {tail : List Char} (htail : Blanks tail) :
    (firstMatch endPattern (';' :: tail)).isSome := by
  refine firstMatch_isSome_of_way (mem_ways_one_iff.2 ⟨';', rfl, rfl, rfl⟩) ?_
  refine firstMatch_isSome_of_way
    (Piece.mem_takeMost_iff.2 ⟨(List.append_nil tail).symm, htail⟩) ?_
  exact firstMatch_isSome_of_way (mem_ways_ends_iff.2 ⟨rfl, rfl, rfl⟩) rfl

theorem eq_of_firstMatch_value {text : List Char} {parts : List (List Char)}
    (h : firstMatch valuePattern text = some parts) :
    ∃ value tail, value ≠ [] ∧ '\n' ∉ value ∧ Blanks tail ∧ text = value ++ ';' :: tail ∧
      parts = [value, [';'], tail, []] := by
  obtain ⟨value, rest, more, hway, hrest, rfl⟩ := exists_way_of_firstMatch h
  obtain ⟨hne, rfl, hline⟩ := Piece.mem_takeLeast_iff.1 hway
  obtain ⟨tail, htail, rfl, rfl⟩ := eq_of_firstMatch_end hrest
  refine ⟨value, tail, hne, ?_, htail, rfl, rfl⟩
  intro hmem
  simpa using hline '\n' hmem

theorem firstMatch_value_isSome {value tail : List Char} (hne : value ≠ []) (hline : '\n' ∉ value)
    (htail : Blanks tail) : (firstMatch valuePattern (value ++ ';' :: tail)).isSome := by
  refine firstMatch_isSome_of_way (Piece.mem_takeLeast_iff.2 ⟨hne, rfl, ?_⟩)
    (firstMatch_end_isSome htail)
  intro c hc
  have hne : c ≠ '\n' := fun heq => hline (heq ▸ hc)
  simpa using hne

/-- The blanks in front of the value are taken first, so a value that begins with a blank and goes
on would leave that blank to them. -/
theorem isValue_of_firstMatch {text : List Char} {parts : List (List Char)}
    (h : firstMatch (.many isBlank :: valuePattern) text = some parts) :
    ∃ lead value tail, Blanks lead ∧ IsValue value ∧ Blanks tail ∧
      text = lead ++ (value ++ ';' :: tail) ∧ parts = [lead, value, [';'], tail, []] := by
  obtain ⟨longer, ⟨lead, rest⟩, shorter, hways, hparts, hlonger⟩ :=
    List.findSome?_eq_some_iff.1 h
  have hways : Piece.takeMost isBlank text = longer ++ (lead, rest) :: shorter := hways
  have hmem : (lead, rest) ∈ Piece.takeMost isBlank text := by simp [hways]
  obtain ⟨rfl, hlead⟩ := Piece.mem_takeMost_iff.1 hmem
  obtain ⟨more, hmore, rfl⟩ := Option.map_eq_some_iff.1 hparts
  obtain ⟨value, tail, hne, hline, htail, rfl, rfl⟩ := eq_of_firstMatch_value hmore
  refine ⟨lead, value, tail, hlead, ?_, htail, rfl, rfl⟩
  cases value with
  | nil => exact absurd rfl hne
  | cons c value =>
      refine ⟨?_, hline⟩
      by_contra hstart
      rw [not_or, Bool.not_eq_false] at hstart
      obtain ⟨hc, hvalue⟩ := hstart
      have hway : (lead ++ [c], value ++ ';' :: tail) ∈
          Piece.takeMost isBlank (lead ++ (c :: value ++ ';' :: tail)) :=
        Piece.mem_takeMost_iff.2 ⟨by simp, Blanks.concat hlead hc⟩
      have hsorted := Piece.takeMost_longest_first isBlank (lead ++ (c :: value ++ ';' :: tail))
      rw [hways, List.pairwise_append, List.pairwise_cons] at hsorted
      rw [hways, List.mem_append, List.mem_cons] at hway
      rcases hway with hway | hway | hway
      · have hnone := hlonger _ hway
        have hsome : (firstMatch valuePattern (value ++ ';' :: tail)).isSome :=
          firstMatch_value_isSome hvalue (fun hmem => hline (List.mem_cons_of_mem c hmem)) htail
        rw [Option.map_eq_none_iff] at hnone
        simp [hnone] at hsome
      · simp at hway
      · have hlt : (lead ++ [c]).length < lead.length := hsorted.2.1.1 _ hway
        rw [List.length_append] at hlt
        omega

theorem exists_split_of_firstMatch {text : List Char} {parts : List (List Char)}
    (h : firstMatch rulePattern text = some parts) :
    ∃ split : Split, split.text = text ∧ captures? parts = some (split.name, split.value) := by
  obtain ⟨taken, rest₁, parts₁, hfirst, h₁, rfl⟩ := exists_way_of_firstMatch h
  obtain ⟨first, hstart, rfl, rfl⟩ := mem_ways_one_iff.1 hfirst
  obtain ⟨name, rest₂, parts₂, hmore, h₂, rfl⟩ := exists_way_of_firstMatch h₁
  obtain ⟨rfl, hname⟩ := Piece.mem_takeMost_iff.1 hmore
  obtain ⟨gap, rest₃, parts₃, hblanks, h₃, rfl⟩ := exists_way_of_firstMatch h₂
  obtain ⟨rfl, hgap⟩ := Piece.mem_takeMost_iff.1 hblanks
  obtain ⟨colon, rest₄, parts₄, hcolon, h₄, rfl⟩ := exists_way_of_firstMatch h₃
  obtain ⟨c, hc, rfl, rfl⟩ := mem_ways_one_iff.1 hcolon
  obtain rfl : c = ':' := beq_iff_eq.1 hc
  obtain ⟨lead, value, tail, hlead, hvalue, htail, rfl, rfl⟩ := isValue_of_firstMatch h₄
  exact ⟨⟨first :: name, gap, lead, value, tail, ⟨hstart, hname⟩, hgap, hlead, hvalue, htail⟩,
    by simp [Split.text], rfl⟩

theorem firstMatch_text_isSome (split : Split) : (firstMatch rulePattern split.text).isSome := by
  obtain ⟨name, gap, lead, value, tail, hname, hgap, hlead, hvalue, htail⟩ := split
  cases name with
  | nil => exact hname.elim
  | cons first name =>
      rw [Split.text_eq]
      refine firstMatch_isSome_of_way (mem_ways_one_iff.2 ⟨first, hname.1, rfl, rfl⟩) ?_
      refine firstMatch_isSome_of_way (Piece.mem_takeMost_iff.2 ⟨rfl, hname.2⟩) ?_
      refine firstMatch_isSome_of_way (Piece.mem_takeMost_iff.2 ⟨rfl, hgap⟩) ?_
      refine firstMatch_isSome_of_way (mem_ways_one_iff.2 ⟨':', rfl, rfl, rfl⟩) ?_
      refine firstMatch_isSome_of_way (Piece.mem_takeMost_iff.2 ⟨rfl, hlead⟩) ?_
      exact firstMatch_value_isSome hvalue.ne_nil hvalue.not_mem_newline htail

/-- The reader of rules finds what the first match of the pattern captures. -/
theorem read?_eq_firstMatch (text : List Char) :
    read? text = (firstMatch rulePattern text).bind captures? := by
  cases hmatch : firstMatch rulePattern text with
  | some parts =>
      obtain ⟨split, rfl, hparts⟩ := exists_split_of_firstMatch hmatch
      rw [read?_text, Option.bind_some, hparts]
  | none =>
      rw [Option.bind_none]
      by_contra hread
      obtain ⟨⟨name, value⟩, hread⟩ := Option.ne_none_iff_exists'.1 hread
      obtain ⟨split, rfl, -⟩ := exists_split_of_read?_eq_some hread
      have hsome := firstMatch_text_isSome split
      simp [hmatch] at hsome

/-- A line is read as a rule exactly if it splits into the parts of one.  There is one such split at
most, and it is the first match of the pattern. -/
theorem parse?_reads_unique_split (line : String) :
    (∀ rule : TokenRule, parse? line = some rule ↔
      ∃ split : Split, split.text = line.toList ∧ split.name = rule.name.toList ∧
        split.value = rule.value.toList) ∧
    (∀ s t : Split, s.text = line.toList → t.text = line.toList → s = t) ∧
    (parse? line = none ↔ ∀ split : Split, split.text ≠ line.toList) ∧
    parse? line = ((firstMatch rulePattern line.toList).bind captures?).map
      fun (name, value) => ⟨String.ofList name, String.ofList value⟩ := by
  refine ⟨fun rule => parse?_eq_some_iff, ?_, ?_, ?_⟩
  · intro s t hs ht
    exact Split.eq_of_text_eq (hs.trans ht.symm)
  · constructor
    · intro hnone split htext
      have hsome : parse? line = some ⟨String.ofList split.name, String.ofList split.value⟩ :=
        parse?_eq_some_iff.2 ⟨split, htext, by simp, by simp⟩
      rw [hnone] at hsome
      contradiction
    · intro hsplit
      by_contra hparse
      obtain ⟨rule, hparse⟩ := Option.ne_none_iff_exists'.1 hparse
      obtain ⟨split, htext, -⟩ := parse?_eq_some_iff.1 hparse
      exact hsplit split htext
  · rw [← read?_eq_firstMatch]
    rfl

end TokenRule

end TokenTables
