import TokenTables.Proofs.Artifact.FirstConflict
import TokenTables.Proofs.Naming.CapitalWords
/-!
# Names that share a variant

A variant says of the underscores in a name only which letters they part.  Names have the same
variant exactly if they are the same when all other underscores are left out.
-/

namespace TokenTables

open Naming Text

/-! ## Normal form -/

/-- The rest of a name in normal form; `letter` says whether the last character before it that is no
underscore is a letter.  Of a run of underscores between two letters the last one stays. -/
def normalFrom (letter : Bool) : List Char → List Char
  | [] => []
  | c :: rest =>
    if c = '_' then
      (if letter && rest.head?.any Char.isAlpha then ['_'] else []) ++ normalFrom letter rest
    else c :: normalFrom c.isAlpha rest

/-- The name with one underscore for a run between two letters, and none anywhere else. -/
def normalName (name : List Char) : List Char :=
  normalFrom false name

theorem normalFrom_cons_of_ne {c : Char} (hc : c ≠ '_') (letter : Bool) (rest : List Char) :
    normalFrom letter (c :: rest) = c :: normalFrom c.isAlpha rest := by
  rw [normalFrom, if_neg hc]

theorem normalFrom_underscore (letter : Bool) (rest : List Char) :
    normalFrom letter ('_' :: rest) =
      (if letter && rest.head?.any Char.isAlpha then ['_'] else []) ++ normalFrom letter rest := by
  rw [normalFrom, if_pos rfl]

theorem normalFrom_of_not_mem {text : List Char} (h : '_' ∉ text) (letter : Bool) :
    normalFrom letter text = text := by
  induction text generalizing letter with
  | nil => rfl
  | cons c rest ih =>
      obtain ⟨hc, hrest⟩ := not_or.1 (mt List.mem_cons.2 h)
      rw [normalFrom_cons_of_ne (Ne.symm hc), ih hrest]

/-- Nothing before a character other than an underscore depends on what comes after it. -/
theorem normalFrom_append_cons {c : Char} (hc : c ≠ '_') (letter : Bool) (front rest : List Char) :
    normalFrom letter (front ++ c :: rest) =
      normalFrom letter (front ++ [c]) ++ normalFrom c.isAlpha rest := by
  induction front generalizing letter with
  | nil => simp [normalFrom_cons_of_ne hc, normalFrom]
  | cons d front ih =>
      have hhead : (front ++ c :: rest).head? = (front ++ [c]).head? := by cases front <;> rfl
      rw [List.cons_append, List.cons_append]
      by_cases hd : d = '_'
      · rw [hd, normalFrom_underscore, normalFrom_underscore, ih, hhead, List.append_assoc]
      · rw [normalFrom_cons_of_ne hd, normalFrom_cons_of_ne hd, ih, List.cons_append]

theorem normalFrom_run {back : List Char} (hback : back.head? ≠ some '_') (letter : Bool)
    (n : Nat) :
    normalFrom letter (List.replicate (n + 1) '_' ++ back) =
      (if letter && back.head?.any Char.isAlpha then ['_'] else []) ++ normalName back := by
  induction n with
  | zero =>
      have hrest : normalFrom letter back = normalName back := by
        cases back with
        | nil => rfl
        | cons c rest =>
            have hc : c ≠ '_' := fun heq => hback (congrArg some heq)
            rw [normalName, normalFrom_cons_of_ne hc, normalFrom_cons_of_ne hc]
      rw [List.replicate_one, List.singleton_append, normalFrom_underscore, hrest]
  | succ n ih =>
      have hhead : (List.replicate (n + 1) '_' ++ back).head?.any Char.isAlpha = false := rfl
      rw [List.replicate_succ, List.cons_append, normalFrom_underscore, ih, hhead, Bool.and_false,
        if_neg (by decide), List.nil_append]

/-- What becomes of a whole run of underscores. -/
theorem normalName_run {c : Char} (hc : c ≠ '_') {back : List Char}
    (hback : back.head? ≠ some '_') (front : List Char) (n : Nat) :
    normalName (front ++ c :: (List.replicate (n + 1) '_' ++ back)) =
      normalName (front ++ [c]) ++
        ((if c.isAlpha && back.head?.any Char.isAlpha then ['_'] else []) ++ normalName back) := by
  rw [normalName, normalFrom_append_cons hc, normalFrom_run hback]
  rfl

/-! ## From a variant to the normal form and back -/

/-- Capitalized words with an underscore between two words of letters; `letter` says whether a
letter stands directly before. -/
def separatedFrom (letter : Bool) : List Char → List Char
  | [] => []
  | c :: rest =>
    if c.isUpper then (if letter then ['_'] else []) ++ c :: separatedFrom true rest
    else c.toUpper :: separatedFrom c.isLower rest

theorem separatedFrom_cons_of_isUpper {c : Char} (h : c.isUpper = true) (letter : Bool)
    (rest : List Char) :
    separatedFrom letter (c :: rest) =
      (if letter then ['_'] else []) ++ c :: separatedFrom true rest := by
  rw [separatedFrom, if_pos h]

/-- A small letter goes on with its word. -/
theorem separatedFrom_cons_toLower {c : Char} (h : c.isUpper = true) (letter : Bool)
    (rest : List Char) :
    separatedFrom letter (c.toLower :: rest) = c :: separatedFrom true rest := by
  have hlower : c.toLower.isLower = true :=
    (Char.isLower_toLower_eq_isAlpha c).trans (isAlpha_of_isUpper h)
  have hupper : ¬c.toLower.isUpper = true := by
    rw [isUpper_iff]
    rw [isLower_iff] at hlower
    omega
  have hback : c.toLower.toUpper = c := by
    rw [Char.toUpper_toLower_eq_toUpper, Char.toUpper_eq_of_not_isLower]
    rw [isLower_iff]
    rw [isUpper_iff] at h
    omega
  rw [separatedFrom, if_neg hupper, hlower, hback]

theorem separatedFrom_cons_of_isDigit {c : Char} (h : c.isDigit = true) (letter : Bool)
    (rest : List Char) : separatedFrom letter (c :: rest) = c :: separatedFrom false rest := by
  obtain ⟨hupper, hlower⟩ := Bool.or_eq_false_iff.1 (isAlpha_of_isDigit h)
  rw [separatedFrom, hupper, if_neg (by decide), hlower,
    Char.toUpper_eq_of_not_isLower (Bool.eq_false_iff.1 hlower)]

/-- The normal form can be read off the capitalized words.  After an underscore it is not known yet
whether the underscore stays: that shows when the next letter comes. -/
theorem separatedFrom_capitalsFrom {text : List Char}
    (h : ∀ c ∈ text, TokenRule.isNameChar c = true) {inWord letter : Bool}
    (hword : inWord = true → letter = true) :
    separatedFrom letter (capitalsFrom inWord text) =
      (if !inWord && letter && text.head?.any Char.isAlpha then ['_'] else []) ++
        normalFrom letter text := by
  induction text generalizing inWord letter with
  | nil => simp [capitalsFrom, separatedFrom, normalFrom]
  | cons c rest ih =>
      have hrest : ∀ d ∈ rest, TokenRule.isNameChar d = true := fun d hd =>
        h d (List.mem_cons_of_mem _ hd)
      have hname := h c List.mem_cons_self
      simp only [TokenRule.isNameChar, Bool.or_eq_true, beq_iff_eq] at hname
      rcases hname with (hupper | hdigit) | rfl
      · have halpha : c.isAlpha = true := isAlpha_of_isUpper hupper
        have hc := ne_underscore_of_isAlphanum (isAlphanum_of_isAlpha halpha)
        rw [capitalsFrom_cons_of_isUpper hupper, normalFrom_cons_of_ne hc, halpha]
        -- Inside a word, the letter shows by its case that it belongs to the one before.
        cases inWord with
        | true =>
            rw [if_pos rfl, separatedFrom_cons_toLower hupper, ih hrest fun _ => rfl]
            simp
        | false =>
            rw [if_neg (by decide), separatedFrom_cons_of_isUpper hupper, ih hrest fun _ => rfl]
            simp [halpha]
      · have halpha : c.isAlpha = false := isAlpha_of_isDigit hdigit
        have hupper : ¬c.isUpper = true := Bool.eq_false_iff.1 (Bool.or_eq_false_iff.1 halpha).1
        have hc : c ≠ '_' := ne_underscore_of_isAlphanum (by simp [Char.isAlphanum, hdigit])
        rw [capitalsFrom_cons_of_not_isUpper hc hupper, separatedFrom_cons_of_isDigit hdigit,
          normalFrom_cons_of_ne hc, ih hrest (by simp)]
        simp [halpha]
      · rw [capitalsFrom_underscore, normalFrom_underscore, ih hrest (by simp)]
        simp

/-- Whether a letter comes before makes no difference where no letter comes next. -/
theorem capitalsFrom_of_head {text : List Char} (h : text.head?.any Char.isAlpha = false)
    (inWord : Bool) : capitalsFrom inWord text = capitalsFrom false text := by
  cases text with
  | nil => rfl
  | cons c rest =>
      have halpha : c.isAlpha = false := h
      have hupper : ¬c.isUpper = true := Bool.eq_false_iff.1 (Bool.or_eq_false_iff.1 halpha).1
      by_cases hc : c = '_'
      · rw [hc, capitalsFrom_underscore, capitalsFrom_underscore]
      · rw [capitalsFrom_cons_of_not_isUpper hc hupper, capitalsFrom_cons_of_not_isUpper hc hupper]

theorem capitalsFrom_normalFrom (text : List Char) {inWord letter : Bool}
    (hword : inWord = true → letter = true) :
    capitalsFrom inWord (normalFrom letter text) = capitalsFrom inWord text := by
  induction text generalizing inWord letter with
  | nil => rfl
  | cons c rest ih =>
      by_cases hc : c = '_'
      · rw [hc, normalFrom_underscore, capitalsFrom_underscore]
        by_cases hmark : (letter && rest.head?.any Char.isAlpha) = true
        · rw [if_pos hmark, List.singleton_append, capitalsFrom_underscore, ih (by simp)]
        · rw [if_neg hmark, List.nil_append, ih hword]
          cases inWord with
          | false => rfl
          | true =>
              rw [hword rfl, Bool.true_and, Bool.not_eq_true] at hmark
              exact capitalsFrom_of_head hmark true
      · rw [normalFrom_cons_of_ne hc]
        by_cases hupper : c.isUpper = true
        · have halpha : c.isAlpha = true := isAlpha_of_isUpper hupper
          rw [capitalsFrom_cons_of_isUpper hupper, capitalsFrom_cons_of_isUpper hupper,
            ih fun _ => halpha]
        · rw [capitalsFrom_cons_of_not_isUpper hc hupper,
            capitalsFrom_cons_of_not_isUpper hc hupper, ih (by simp)]

theorem pascal_eq_iff_normalName {a b : String}
    (ha : ∀ c ∈ a.toList, TokenRule.isNameChar c = true)
    (hb : ∀ c ∈ b.toList, TokenRule.isNameChar c = true) :
    pascal a = pascal b ↔ normalName a.toList = normalName b.toList := by
  rw [← String.toList_inj, toList_pascal_of_isNameChar ha, toList_pascal_of_isNameChar hb]
  constructor
  · intro h
    have hseparated : separatedFrom false (capitalsFrom false a.toList) =
        separatedFrom false (capitalsFrom false b.toList) := by rw [h]
    rwa [separatedFrom_capitalsFrom ha id, separatedFrom_capitalsFrom hb id] at hseparated
  · intro h
    have hback (name : List Char) :
        capitalsFrom false (normalName name) = capitalsFrom false name :=
      capitalsFrom_normalFrom name id
    rw [← hback a.toList, ← hback b.toList, h]

/-! ## Variants -/

/-- The underscore that `Self` gets is in no other variant. -/
theorem variantName_eq_iff_pascal {a b : String} (ha : ∀ c ∈ a.toList, isStemChar c = true)
    (hb : ∀ c ∈ b.toList, isStemChar c = true) :
    variantName a = variantName b ↔ pascal a = pascal b := by
  have hfree {name : String} (hname : ∀ c ∈ name.toList, isStemChar c = true) :
      pascal name ≠ "Self_" := by
    intro heq
    have hunderscore : '_' ∈ (pascal name).toList := by
      rw [heq]
      decide
    exact absurd (isAlphanum_of_mem_pascal hname hunderscore) (by decide)
  rw [variantName_eq, variantName_eq]
  split
  · rename_i hself
    split
    · rename_i hother
      simp [hself, hother]
    · rename_i hother
      rw [hself]
      exact iff_of_false (hfree hb).symm (Ne.symm hother)
  · rename_i hself
    split
    · rename_i hother
      rw [hother]
      exact iff_of_false (hfree ha) hself
    · rfl

namespace Vocabulary

/-- Names have one variant exactly if they have one normal form, in which one underscore is left of
a run between two letters and none of any other run.  So a grammar has a module exactly if the normal
forms of its names are distinct. -/
theorem variantName_eq_iff_normalName :
    (∀ a b : String, TokenRule.IsName a.toList → TokenRule.IsName b.toList →
      (variantName a = variantName b ↔ normalName a.toList = normalName b.toList)) ∧
    (∀ (grammar : String) (options : Options), options.target = .rustModule →
      ((∃ text, grammarArtifact grammar options = .ok text) ↔
        ((ofGrammar grammar).names.map fun name => normalName name.toList).Nodup)) ∧
    (∀ name : List Char, '_' ∉ name → normalName name = name) ∧
    ∀ (front : List Char) (c : Char) (n : Nat) (back : List Char), c ≠ '_' →
      back.head? ≠ some '_' →
      normalName (front ++ c :: (List.replicate (n + 1) '_' ++ back)) =
        normalName (front ++ [c]) ++
          ((if c.isAlpha && back.head?.any Char.isAlpha then ['_'] else []) ++
            normalName back) := by
  have hvariant (a b : String) (ha : TokenRule.IsName a.toList) (hb : TokenRule.IsName b.toList) :
      variantName a = variantName b ↔ normalName a.toList = normalName b.toList := by
    rw [variantName_eq_iff_pascal (fun c hc => ha.isStem.isStemChar hc)
      fun c hc => hb.isStem.isStemChar hc]
    exact pascal_eq_iff_normalName (fun c hc => ha.isNameChar hc) fun c hc => hb.isNameChar hc
  refine ⟨hvariant, ?_, ?_, ?_⟩
  · intro grammar options htarget
    have hsame : ((ofGrammar grammar).names.map variantName).Nodup ↔
        ((ofGrammar grammar).names.map fun name => normalName name.toList).Nodup := by
      rw [List.Nodup, List.Nodup, List.pairwise_map, List.pairwise_map]
      apply List.Pairwise.iff_of_mem
      intro a b ha hb
      exact not_congr (hvariant a b (isName_of_mem_names ha) (isName_of_mem_names hb))
    rw [← hsame, ← conflict?_eq_none_iff, grammarArtifact, artifact_eq_rustModule htarget]
    exact exists_rustModule_eq_ok_iff
  · intro name hname
    exact normalFrom_of_not_mem hname false
  · intro front c n back hc hback
    exact normalName_run hc hback front n

/-- An underscore next to a digit or at the end makes no difference, and neither does the length of
a run; an underscore between letters does, and so does the place of it. -/
theorem variantName_of_run :
    TokenRule.IsName "A1__B__C_".toList ∧ TokenRule.IsName "A_1B_C".toList ∧
      TokenRule.IsName "A1BC".toList ∧ variantName "A1__B__C_" = variantName "A_1B_C" ∧
      variantName "A1__B__C_" ≠ variantName "A1BC" ∧
      (∃ text, grammarArtifact "A1__B__C_ : 'a' ;\nA1BC : 'b' ;" { target := .rustModule } =
        .ok text) ∧
      ¬∃ text, grammarArtifact "A1__B__C_ : 'a' ;\nA_1B_C : 'b' ;" { target := .rustModule } =
        .ok text := by
  obtain ⟨hvariant, hmodule, -⟩ := variantName_eq_iff_normalName
  have hlong : TokenRule.IsName "A1__B__C_".toList := by decide
  have hshort : TokenRule.IsName "A_1B_C".toList := by decide
  have hother : TokenRule.IsName "A1BC".toList := by decide
  refine ⟨hlong, hshort, hother, (hvariant _ _ hlong hshort).2 (by decide), ?_, ?_, ?_⟩
  · rw [ne_eq, hvariant _ _ hlong hother]
    decide
  · rw [hmodule _ _ rfl]
    decide +kernel
  · rw [hmodule _ _ rfl]
    decide +kernel

end Vocabulary

end TokenTables
