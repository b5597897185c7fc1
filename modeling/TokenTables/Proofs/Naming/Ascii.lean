import TokenTables.Naming.Style
import TokenTables.Proofs.Syntax.Spelling
import TokenTables.Proofs.Text.Letter
/-!
# Spellings of ASCII names

A printable ASCII name has a cluster for each character, so its words are what is left of it when the
delimiters are taken out.  Hence a stem gives an identifier in every style.
-/

namespace TokenTables

open Text

/-! ## Clusters -/

namespace Unicode

theorem role_of_isPrintable {c : Char} (h : isPrintable c = true) :
    ClusterTraits.ofChar c = ⟨.other, .other⟩ := by
  simp only [isPrintable, Bool.and_eq_true, decide_eq_true_eq] at h
  have hreturn : (c == '\r') = false := by
    rw [beq_eq_false_iff_ne]
    rintro rfl
    exact absurd h.1 (by decide)
  have hfeed : (c == '\n') = false := by
    rw [beq_eq_false_iff_ne]
    rintro rfl
    exact absurd h.1 (by decide)
  have hcontrol : ¬(c.toNat < 0x20 ∨ c.toNat = 0x7F) := by omega
  have hascii : c.toNat < 0x80 := by omega
  simp [ClusterTraits.ofChar, ClusterRole.ofChar, hreturn, hfeed, hcontrol, hascii,
    ConjunctRole.ofChar_ascii]

theorem clustersFrom_of_isPrintable {context : ClusterContext} {text : List Char}
    (hlast : context.last = .other) (h : ∀ c ∈ text, isPrintable c = true) :
    clustersFrom context text = ([], text.map ([·])) := by
  induction text generalizing context with
  | nil => rfl
  | cons c rest ih =>
      have hrole := role_of_isPrintable (h c List.mem_cons_self)
      have hrest : clustersFrom (context.next ⟨.other, .other⟩) rest = ([], rest.map ([·])) :=
        ih rfl fun d hd => h d (List.mem_cons_of_mem _ hd)
      have hjoins : context.joins ⟨.other, .other⟩ = false := by
        simp [ClusterContext.joins, ClusterContext.joinsRole, ClusterContext.joinsConjunct, hlast]
      simp [clustersFrom, hrole, hrest, hjoins]

/-- Printable characters of ASCII are clusters by themselves. -/
theorem clusters_of_isPrintable {text : List Char} (h : ∀ c ∈ text, isPrintable c = true) :
    clusters text = text.map ([·]) := by
  cases text with
  | nil => rfl
  | cons c rest =>
      have hrole := role_of_isPrintable (h c List.mem_cons_self)
      have hrest : clustersFrom (.start ⟨.other, .other⟩) rest = ([], rest.map ([·])) :=
        clustersFrom_of_isPrintable rfl fun d hd => h d (List.mem_cons_of_mem _ hd)
      simp [clusters, hrole, hrest]

end Unicode

/-! ## Words -/

namespace Naming

open Unicode

/-- One of the delimiters of all styles. -/
def isDelimiter (c : Char) : Bool :=
  c == '_' || c == '-' || c == ' '

theorem flatten_wordsFrom (boundaries : List Boundary) (before : Option ClusterKind)
    (clusters : List (List Char)) :
    (wordsFrom boundaries before clusters).1 ++ (wordsFrom boundaries before clusters).2.flatten =
      (clusters.filter fun cluster => !boundaries.any (·.drops cluster)).flatten := by
  induction clusters generalizing before with
  | nil => rfl
  | cons cluster rest ih =>
      have hrest := ih (ClusterKind.of? cluster)
      simp only [wordsFrom]
      by_cases hdrops : boundaries.any (·.drops cluster) = true
      · rw [if_pos hdrops, List.filter_cons_of_neg (by simp [hdrops]), ← hrest]
        rfl
      · rw [if_neg hdrops, List.filter_cons_of_pos (by simp [hdrops]), List.flatten_cons, ← hrest]
        split <;> simp

theorem flatten_filter_ne_nil (words : List (List Char)) :
    (words.filter (· != [])).flatten = words.flatten := by
  induction words with
  | nil => rfl
  | cons word rest ih => cases word <;> simp [ih]

/-- The words of a printable name are its characters other than delimiters. -/
theorem flatten_words {boundaries : List Boundary} {name : List Char}
    (hboundaries : ∀ c, boundaries.any (·.drops [c]) = isDelimiter c)
    (hname : ∀ c ∈ name, isPrintable c = true) :
    (words boundaries name).flatten = name.filter fun c => !isDelimiter c := by
  have hfrom := flatten_wordsFrom boundaries none (name.map ([·]))
  rw [words, flatten_filter_ne_nil, clusters_of_isPrintable hname, List.flatten_cons, hfrom]
  induction name with
  | nil => rfl
  | cons c rest ih =>
      have hrest := ih (fun d hd => hname d (List.mem_cons_of_mem _ hd))
        (flatten_wordsFrom boundaries none (rest.map ([·])))
      rw [List.map_cons, List.filter_cons, List.filter_cons, hboundaries c]
      split
      · rw [List.flatten_cons, hrest]
        rfl
      · exact hrest

theorem any_drops_compoundBoundaries (c : Char) :
    compoundBoundaries.any (·.drops [c]) = isDelimiter c := by
  simp [compoundBoundaries, delimiters, Boundary.drops, isDelimiter, Bool.or_assoc]

theorem any_drops_allBoundaries (c : Char) :
    allBoundaries.any (·.drops [c]) = isDelimiter c := by
  simp [allBoundaries, compoundBoundaries, delimiters, Boundary.drops, isDelimiter, Bool.or_assoc]

/-! ## Stems -/

/-- Letters, digits and delimiters. -/
def isStemChar (c : Char) : Bool :=
  c.isAlphanum || isDelimiter c

/-- A letter first, and only letters, digits and delimiters. -/
def IsStem : List Char → Prop
  | [] => False
  | c :: rest => c.isAlpha = true ∧ ∀ d ∈ c :: rest, isStemChar d = true

instance : DecidablePred IsStem
  | [] => inferInstanceAs (Decidable False)
  | c :: rest =>
    decidable_of_iff (c.isAlpha = true ∧ (c :: rest).all isStemChar = true)
      (and_congr_right fun _ => List.all_eq_true)

theorem IsStem.exists_cons {name : List Char} (h : IsStem name) : ∃ c rest, name = c :: rest := by
  cases name with
  | nil => exact h.elim
  | cons c rest => exact ⟨c, rest, rfl⟩

theorem IsStem.isStemChar {name : List Char} (h : IsStem name) {c : Char} (hc : c ∈ name) :
    isStemChar c = true := by
  cases name with
  | nil => exact h.elim
  | cons d rest => exact h.2 c hc

theorem isStemChar_ascii {c : Char} (h : isStemChar c = true) : c.toNat < 128 := by
  simp only [isStemChar, isDelimiter, Bool.or_eq_true, beq_iff_eq] at h
  rcases h with h | (rfl | rfl) | rfl
  · exact isAlphanum_ascii h
  · decide
  · decide
  · decide

theorem isPrintable_of_isStemChar {c : Char} (h : isStemChar c = true) : isPrintable c = true :=
  imp_of_ascii (by decide) (isStemChar_ascii h) h

section Words

variable {boundaries : List Boundary} {name : List Char}
  (hboundaries : ∀ c, boundaries.any (·.drops [c]) = isDelimiter c)
include hboundaries

theorem isAlphanum_of_mem_words (hname : ∀ c ∈ name, isStemChar c = true) {word : List Char}
    (hword : word ∈ words boundaries name) {c : Char} (hc : c ∈ word) : c.isAlphanum = true := by
  have hflatten : c ∈ (words boundaries name).flatten := List.mem_flatten.2 ⟨word, hword, hc⟩
  rw [flatten_words hboundaries fun d hd => isPrintable_of_isStemChar (hname d hd),
    List.mem_filter] at hflatten
  obtain ⟨hmem, hdelimiter⟩ := hflatten
  have hstem := hname c hmem
  simp only [Bool.not_eq_true'] at hdelimiter
  simpa [isStemChar, hdelimiter] using hstem

/-- The first word of a stem begins with its first letter. -/
theorem exists_words_eq_cons (h : IsStem name) :
    ∃ c word more, c.isAlpha = true ∧ words boundaries name = (c :: word) :: more := by
  have hflatten := flatten_words hboundaries fun d hd => isPrintable_of_isStemChar (h.isStemChar hd)
  obtain ⟨c, rest, rfl⟩ := h.exists_cons
  have hdelimiter : (fun c => !isDelimiter c) c = true :=
    imp_of_ascii (q := fun c => !isDelimiter c) (by decide)
      (isAlphanum_ascii (isAlphanum_of_isAlpha h.1)) h.1
  rw [List.filter_cons_of_pos (p := fun c => !isDelimiter c) hdelimiter] at hflatten
  cases hwords : words boundaries (c :: rest) with
  | nil =>
      rw [hwords] at hflatten
      contradiction
  | cons first more =>
      have hne : first ≠ [] := ne_nil_of_mem_words (hwords ▸ List.mem_cons_self)
      obtain ⟨d, word, rfl⟩ := List.exists_cons_of_ne_nil hne
      rw [hwords] at hflatten
      obtain ⟨rfl, -⟩ := List.cons.inj hflatten
      exact ⟨d, word, more, h.1, rfl⟩

end Words

/-! ## Identifiers -/

open Syntax

theorem isWordChar_of_isAlphanum {c : Char} (h : c.isAlphanum = true) : isWordChar c = true := by
  simp [isWordChar, h]

theorem forall_mem_intercalate {p : Char → Prop} (hunderscore : p '_') {words : List (List Char)}
    (h : ∀ word ∈ words, ∀ c ∈ word, p c) : ∀ c ∈ ['_'].intercalate words, p c := by
  induction words with
  | nil => exact List.forall_mem_nil _
  | cons word rest ih =>
      have hword := h word List.mem_cons_self
      cases rest with
      | nil => rwa [List.intercalate_singleton]
      | cons next rest =>
          have hrest := ih fun other hother => h other (List.mem_cons_of_mem _ hother)
          rw [List.intercalate_cons_cons, List.append_assoc, List.singleton_append]
          exact List.forall_mem_append.2 ⟨hword, List.forall_mem_cons.2 ⟨hunderscore, hrest⟩⟩

/-- Words in one case, joined by underscores. -/
theorem intercalate_words_of_isStem {f : Char → Char}
    (hf : ∀ d, d.isAlphanum = true → (f d).isAlphanum = true) {name : List Char}
    (h : IsStem name) : ∃ c more, c.isAlpha = true ∧
      ['_'].intercalate ((words compoundBoundaries name).map (List.map f)) = f c :: more ∧
        ∀ d ∈ f c :: more, isWordChar d = true := by
  have hchars : ∀ d ∈ ['_'].intercalate ((words compoundBoundaries name).map (List.map f)),
      isWordChar d = true := by
    refine forall_mem_intercalate (by decide) ?_
    intro mapped hmapped e he
    obtain ⟨plain, hplain, rfl⟩ := List.mem_map.1 hmapped
    obtain ⟨b, hb, rfl⟩ := List.mem_map.1 he
    exact isWordChar_of_isAlphanum (hf b (isAlphanum_of_mem_words any_drops_compoundBoundaries
      (fun _ hc => h.isStemChar hc) hplain hb))
  obtain ⟨c, word, later, halpha, hwords⟩ := exists_words_eq_cons any_drops_compoundBoundaries h
  rw [hwords, List.map_cons, List.map_cons, List.intercalate_cons_cons_left] at hchars ⊢
  exact ⟨c, _, halpha, rfl, hchars⟩

theorem ascii_of_mem_words {boundaries : List Boundary} {name : List Char}
    (hboundaries : ∀ c, boundaries.any (·.drops [c]) = isDelimiter c)
    (hname : ∀ c ∈ name, isStemChar c = true) {word : List Char}
    (hword : word ∈ words boundaries name) : ∀ c ∈ word, c.toNat < 128 := by
  intro c hc
  exact isAlphanum_ascii (isAlphanum_of_mem_words hboundaries hname hword hc)

theorem isCapitalized_upperSnake {name : String} (h : IsStem name.toList) :
    IsCapitalized (upperSnake name).toList := by
  have hmap : (words compoundBoundaries name.toList).map Unicode.upper =
      (words compoundBoundaries name.toList).map (List.map Char.toUpper) :=
    List.map_congr_left fun word hword => upper_ascii
      (ascii_of_mem_words any_drops_compoundBoundaries (fun _ hc => h.isStemChar hc) hword)
  obtain ⟨c, more, halpha, hjoin, hword⟩ :=
    intercalate_words_of_isStem (fun d => isAlphanum_toUpper) h
  have hupper : c.toUpper.isUpper = true := (Char.isUpper_toUpper_eq_isAlpha c).trans halpha
  rw [toList_upperSnake, hmap, hjoin]
  exact .cons hupper hword

theorem isLettered_snake {name : String} (h : IsStem name.toList) :
    IsLettered (snake name).toList := by
  have hmap : (words compoundBoundaries name.toList).map Unicode.lower =
      (words compoundBoundaries name.toList).map (List.map Char.toLower) :=
    List.map_congr_left fun word hword => lower_ascii
      (ascii_of_mem_words any_drops_compoundBoundaries (fun _ hc => h.isStemChar hc) hword)
  obtain ⟨c, more, halpha, hjoin, hword⟩ :=
    intercalate_words_of_isStem (fun d => isAlphanum_toLower) h
  have hlower : c.toLower.isLower = true := (Char.isLower_toLower_eq_isAlpha c).trans halpha
  rw [toList_snake, hmap, hjoin]
  refine ⟨.cons (isDigit_of_isLower hlower) hword, ?_⟩
  rintro d ⟨⟩
  rw [Char.isAlpha, hlower, Bool.or_true]

theorem capitalize_ascii {c : Char} {rest : List Char} (h : ∀ d ∈ c :: rest, d.toNat < 128) :
    capitalize (c :: rest) = c.toUpper :: rest.map Char.toLower := by
  rw [capitalize, upperChar_ascii (h c List.mem_cons_self),
    lower_ascii fun d hd => h d (List.mem_cons_of_mem _ hd)]
  rfl

/-- Capitalized words have letters and digits only. -/
theorem isAlphanum_of_mem_pascal {name : String} (h : ∀ c ∈ name.toList, isStemChar c = true)
    {c : Char} (hc : c ∈ (pascal name).toList) : c.isAlphanum = true := by
  rw [toList_pascal] at hc
  obtain ⟨word, hword, hc⟩ := List.mem_flatMap.1 hc
  have halnum (d : Char) (hd : d ∈ word) := isAlphanum_of_mem_words any_drops_allBoundaries h hword hd
  obtain ⟨b, more, rfl⟩ := List.exists_cons_of_ne_nil (ne_nil_of_mem_words hword)
  rw [capitalize_ascii (ascii_of_mem_words any_drops_allBoundaries h hword)] at hc
  rcases List.mem_cons.1 hc with rfl | hc
  · exact isAlphanum_toUpper (halnum b List.mem_cons_self)
  · obtain ⟨d, hd, rfl⟩ := List.mem_map.1 hc
    exact isAlphanum_toLower (halnum d (List.mem_cons_of_mem _ hd))

theorem isCapitalized_pascal {name : String} (h : IsStem name.toList) :
    IsCapitalized (pascal name).toList := by
  have hchars : ∀ c ∈ name.toList, isStemChar c = true := fun _ hc => h.isStemChar hc
  have hword : ∀ d ∈ (pascal name).toList, isWordChar d = true := fun d hd =>
    isWordChar_of_isAlphanum (isAlphanum_of_mem_pascal hchars hd)
  obtain ⟨c, word, later, halpha, hwords⟩ := exists_words_eq_cons any_drops_allBoundaries h
  have hfirst : c :: word ∈ words allBoundaries name.toList := hwords ▸ List.mem_cons_self
  have hupper : c.toUpper.isUpper = true := (Char.isUpper_toUpper_eq_isAlpha c).trans halpha
  rw [toList_pascal, hwords, List.flatMap_cons,
    capitalize_ascii (ascii_of_mem_words any_drops_allBoundaries hchars hfirst)] at hword ⊢
  exact .cons hupper hword

/-! ## Letters without case -/

theorem map_toUpper_capitalize {word : List Char} (h : ∀ c ∈ word, c.toNat < 128) :
    (capitalize word).map Char.toUpper = word.map Char.toUpper := by
  cases word with
  | nil => rfl
  | cons c rest =>
      rw [capitalize_ascii h, List.map_cons, List.map_cons, List.map_map,
        Char.toUpper_toUpper_eq_toUpper]
      congr 1
      exact List.map_congr_left fun d _ => Char.toUpper_toLower_eq_toUpper d

/-- Capitalized words have the letters and digits of the name. -/
theorem map_toUpper_pascal {name : String} (h : ∀ c ∈ name.toList, isStemChar c = true) :
    (pascal name).toList.map Char.toUpper =
      (name.toList.filter fun c => !isDelimiter c).map Char.toUpper := by
  have hwords : ∀ word ∈ words allBoundaries name.toList,
      (capitalize word).map Char.toUpper = word.map Char.toUpper := fun word hword =>
    map_toUpper_capitalize (ascii_of_mem_words any_drops_allBoundaries h hword)
  rw [toList_pascal, List.map_flatMap, List.flatMap_congr hwords, ← flatten_words
    any_drops_allBoundaries fun c hc => isPrintable_of_isStemChar (h c hc), List.map_flatten,
    List.flatMap_def]

end Naming

end TokenTables
