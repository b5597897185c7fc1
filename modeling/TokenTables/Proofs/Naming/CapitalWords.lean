import TokenTables.Proofs.Grammar.RuleSplit
import TokenTables.Proofs.Naming.Ascii
/-!
# Token names in capitalized words

The letters of a token's name are all capitals.  So its words begin after underscores and between
letters and digits, and a letter stays a capital exactly if no letter stands directly before it.
-/

namespace TokenTables.Naming

open Text TokenRule

/-! ## Kinds of name characters -/

/-- What a character of a token's name looks like to a boundary. -/
def nameKind (c : Char) : Option ClusterKind :=
  if c.isUpper then some .upper else if c.isDigit then some .digit else none

theorem isNameChar_ascii {c : Char} (h : isNameChar c = true) : c.toNat < 128 := by
  have hbounds := isNameChar_bounds h
  omega

theorem kind_of_isNameChar {c : Char} (h : isNameChar c = true) :
    ClusterKind.of? [c] = nameKind c := by
  have hkind := imp_of_ascii (p := isNameChar)
    (q := fun c => ClusterKind.of? [c] == nameKind c) (by decide) (isNameChar_ascii h) h
  exact beq_iff_eq.1 hkind

theorem isDelimiter_of_isNameChar {c : Char} (h : isNameChar c = true) :
    isDelimiter c = (c == '_') := by
  have hdelimiter := imp_of_ascii (p := isNameChar) (q := fun c => isDelimiter c == (c == '_'))
    (by decide) (isNameChar_ascii h) h
  exact beq_iff_eq.1 hdelimiter

theorem nameKind_ne_lower (c : Char) : nameKind c ≠ some .lower := by
  unfold nameKind
  split
  · decide
  · split <;> decide

theorem head_kind_ne_lower {text : List Char} (h : ∀ c ∈ text, isNameChar c = true) :
    (text.map ([·])).head?.bind ClusterKind.of? ≠ some .lower := by
  cases text with
  | nil => simp
  | cons c rest =>
      have hkind := kind_of_isNameChar (h c List.mem_cons_self)
      simpa [hkind] using nameKind_ne_lower c

/-- Without small letters, only letters and digits next to each other are parted. -/
theorem any_parts_allBoundaries {before here after : Option ClusterKind}
    (hbefore : before ≠ some .lower) (hhere : here ≠ some .lower) (hafter : after ≠ some .lower) :
    allBoundaries.any (·.parts before here after) =
      (before.isSome && here.isSome && before != here) := by
  rcases before with _ | _ | _ | _ <;> rcases here with _ | _ | _ | _ <;>
    rcases after with _ | _ | _ | _ <;> first | contradiction | rfl

/-! ## Words -/

theorem ne_underscore_of_isAlphanum {c : Char} (h : c.isAlphanum = true) : c ≠ '_' := by
  rintro rfl
  exact absurd h (by decide)

/-- The name in capitalized words, if `inWord` says whether a letter stands directly before it. -/
def capitalsFrom (inWord : Bool) : List Char → List Char
  | [] => []
  | c :: rest =>
    if c = '_' then capitalsFrom false rest
    else if c.isUpper then (if inWord then c.toLower else c) :: capitalsFrom true rest
    else c :: capitalsFrom false rest

theorem capitalsFrom_underscore (inWord : Bool) (rest : List Char) :
    capitalsFrom inWord ('_' :: rest) = capitalsFrom false rest := by
  rw [capitalsFrom, if_pos rfl]

theorem capitalsFrom_cons_of_isUpper {c : Char} (h : c.isUpper = true) (inWord : Bool)
    (rest : List Char) :
    capitalsFrom inWord (c :: rest) =
      (if inWord then c.toLower else c) :: capitalsFrom true rest := by
  have hc := ne_underscore_of_isAlphanum (isAlphanum_of_isAlpha (isAlpha_of_isUpper h))
  rw [capitalsFrom, if_neg hc, if_pos h]

theorem capitalsFrom_cons_of_not_isUpper {c : Char} (hc : c ≠ '_') (h : ¬c.isUpper = true)
    (inWord : Bool) (rest : List Char) :
    capitalsFrom inWord (c :: rest) = c :: capitalsFrom false rest := by
  rw [capitalsFrom, if_neg hc, if_neg h]

/-- What is written for the rest of a word and the words after it; nothing of the word is written
yet if nothing of it comes before. -/
def writeWords (before : Option ClusterKind) (words : List Char × List (List Char)) : List Char :=
  (if before.isSome then words.1.map Char.toLower else Unicode.capitalize words.1) ++
    words.2.flatMap Unicode.capitalize

theorem mem_of_mem_wordsFrom {boundaries : List Boundary} {before : Option ClusterKind}
    {text : List Char} {c : Char}
    (h : c ∈ (wordsFrom boundaries before (text.map ([·]))).1) : c ∈ text := by
  have hflatten := flatten_wordsFrom boundaries before (text.map ([·]))
  have hmem := List.mem_append_left
    (wordsFrom boundaries before (text.map ([·]))).2.flatten h
  rw [hflatten] at hmem
  obtain ⟨cluster, hcluster, hc⟩ := List.mem_flatten.1 hmem
  obtain ⟨d, hd, rfl⟩ := List.mem_map.1 (List.mem_of_mem_filter hcluster)
  rwa [List.mem_singleton.1 hc]

theorem nameKind_isSome {c : Char} (h : isNameChar c = true) (hc : c ≠ '_') :
    (nameKind c).isSome = true := by
  simp only [isNameChar, Bool.or_eq_true, beq_iff_eq, hc, or_false] at h
  unfold nameKind
  split
  · rfl
  · rename_i hupper
    simp [h.resolve_left hupper]

/-- A word ends at an underscore, and where letters and digits meet. -/
theorem wordsFrom_cons_of_isNameChar {c : Char} {rest : List Char}
    (h : ∀ d ∈ c :: rest, isNameChar d = true) {before : Option ClusterKind}
    (hbefore : before ≠ some .lower) :
    wordsFrom allBoundaries before ((c :: rest).map ([·])) =
      let words := wordsFrom allBoundaries (nameKind c) (rest.map ([·]))
      if c = '_' then ([], words.1 :: words.2)
      else if before.isSome && before != nameKind c then ([], (c :: words.1) :: words.2)
      else (c :: words.1, words.2) := by
  have hc := h c List.mem_cons_self
  have hafter := head_kind_ne_lower fun d hd => h d (List.mem_cons_of_mem _ hd)
  rw [List.map_cons, wordsFrom]
  simp only [kind_of_isNameChar hc, any_drops_allBoundaries, isDelimiter_of_isNameChar hc,
    any_parts_allBoundaries hbefore (nameKind_ne_lower c) hafter, beq_iff_eq]
  by_cases hunderscore : c = '_'
  · rw [if_pos hunderscore, if_pos hunderscore]
  · rw [if_neg hunderscore, if_neg hunderscore, nameKind_isSome hc hunderscore, Bool.and_true]
    rfl

/-- The first character of a word stays as it is, the others become small. -/
theorem writeWords_cons {c : Char} {words : List Char × List (List Char)}
    (h : ∀ d ∈ c :: words.1, isNameChar d = true) (hc : c ≠ '_') (before : Option ClusterKind) :
    writeWords before
        (if before.isSome && before != nameKind c then ([], (c :: words.1) :: words.2)
          else (c :: words.1, words.2)) =
      (if before = nameKind c then c.toLower else c) :: writeWords (nameKind c) words := by
  have hname := h c List.mem_cons_self
  have hsome := nameKind_isSome hname hc
  have hupper : c.toUpper = c :=
    beq_iff_eq.1 (imp_of_ascii (p := isNameChar) (q := fun c => c.toUpper == c) (by decide)
      (isNameChar_ascii hname) hname)
  have hcapitalize : Unicode.capitalize (c :: words.1) = c :: words.1.map Char.toLower := by
    rw [capitalize_ascii fun d hd => isNameChar_ascii (h d hd), hupper]
  cases before with
  | none =>
      have hne : none ≠ nameKind c := by
        intro heq
        rw [← heq] at hsome
        contradiction
      simp [writeWords, hcapitalize, hsome, hne]
  | some kind =>
      by_cases heq : some kind = nameKind c
      · simp [writeWords, ← heq]
      · simp [writeWords, hcapitalize, hsome, heq]

theorem writeWords_wordsFrom {text : List Char} (h : ∀ c ∈ text, isNameChar c = true)
    {before : Option ClusterKind} (hbefore : before ≠ some .lower) :
    writeWords before (wordsFrom allBoundaries before (text.map ([·]))) =
      capitalsFrom (before == some .upper) text := by
  -- Of all that comes before, the words to come depend on the kind of one character only.
  induction text generalizing before with
  | nil => cases before <;> rfl
  | cons c rest ih =>
      have hrest : ∀ d ∈ rest, isNameChar d = true := fun d hd => h d (List.mem_cons_of_mem _ hd)
      have hmore := ih hrest (nameKind_ne_lower c)
      have hword : ∀ d ∈ c :: (wordsFrom allBoundaries (nameKind c) (rest.map ([·]))).1,
          isNameChar d = true := by
        intro d hd
        rcases List.mem_cons.1 hd with rfl | hd
        · exact h d List.mem_cons_self
        · exact hrest d (mem_of_mem_wordsFrom hd)
      rw [wordsFrom_cons_of_isNameChar h hbefore]
      by_cases hunderscore : c = '_'
      · subst hunderscore
        have hkind : nameKind '_' = none := by decide
        rw [capitalsFrom_underscore]
        simpa [writeWords, Unicode.capitalize, hkind] using hmore
      · simp only [if_neg hunderscore]
        rw [writeWords_cons hword hunderscore, hmore]
        by_cases hupper : c.isUpper = true
        · have hkind : nameKind c = some .upper := by simp [nameKind, hupper]
          rw [capitalsFrom_cons_of_isUpper hupper, hkind]
          simp
        · have hlower : c.toLower = c := Char.toLower_eq_of_not_isUpper hupper
          have hkind : (nameKind c == some .upper) = false := by
            unfold nameKind
            rw [if_neg hupper]
            split <;> rfl
          rw [capitalsFrom_cons_of_not_isUpper hunderscore hupper, hlower, ite_self, hkind]

theorem capitalize_nil : Unicode.capitalize [] = [] :=
  rfl

theorem flatMap_capitalize_filter (words : List (List Char)) :
    (words.filter (· != [])).flatMap Unicode.capitalize = words.flatMap Unicode.capitalize := by
  induction words with
  | nil => rfl
  | cons word rest ih => cases word <;> simp [capitalize_nil, ih]

/-- Only the characters directly before a letter decide about its case. -/
theorem toList_pascal_of_isNameChar {name : String}
    (h : ∀ c ∈ name.toList, isNameChar c = true) :
    (pascal name).toList = capitalsFrom false name.toList := by
  have hprintable : ∀ c ∈ name.toList, isPrintable c = true := by
    intro c hc
    exact imp_of_ascii (p := isNameChar) (q := isPrintable) (by decide) (isNameChar_ascii (h c hc))
      (h c hc)
  have hstart : none ≠ some ClusterKind.lower := by decide
  rw [toList_pascal, words, Unicode.clusters_of_isPrintable hprintable, flatMap_capitalize_filter,
    List.flatMap_cons]
  exact writeWords_wordsFrom h hstart

end TokenTables.Naming
