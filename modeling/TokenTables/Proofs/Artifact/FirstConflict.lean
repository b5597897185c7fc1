import Mathlib.Order.Bounds.Defs
import TokenTables.Proofs.Artifact.Conflict
import TokenTables.Proofs.Artifact.Determined
import TokenTables.Proofs.Syntax.Declaration
/-!
# The conflict that is reported

Names are taken in order, and the first one whose variant is taken already is reported together with
the name that took it.  No other name before it has that variant.
-/

namespace TokenTables

/-! ## Taking variants in order -/

/-- The names that took a variant, each found by its variant. -/
def Taken (taken : List (String × String)) (before : List String) : Prop :=
  ∀ variant first, taken.lookup variant = some first ↔
    first ∈ before ∧ variantName first = variant

theorem Taken.nil : Taken [] [] := by
  intro variant first
  simp

theorem Taken.not_mem {taken : List (String × String)} {before : List String}
    (h : Taken taken before) {name : String} (hfree : taken.lookup (variantName name) = none) :
    variantName name ∉ before.map variantName := by
  intro hmem
  obtain ⟨first, hfirst, hvariant⟩ := List.mem_map.1 hmem
  have hfound := (h (variantName name) first).2 ⟨hfirst, hvariant⟩
  rw [hfree] at hfound
  contradiction

theorem Taken.concat {taken : List (String × String)} {before : List String}
    (h : Taken taken before) {name : String} (hfree : taken.lookup (variantName name) = none) :
    Taken ((variantName name, name) :: taken) (before ++ [name]) := by
  intro variant first
  rw [lookup_cons_eq_if, List.mem_append, List.mem_singleton]
  by_cases hvariant : variant = variantName name
  · rw [if_pos hvariant, hvariant, Option.some.injEq]
    constructor
    · rintro rfl
      exact ⟨Or.inr rfl, rfl⟩
    · rintro ⟨hfirst | rfl, heq⟩
      · exact absurd (List.mem_map.2 ⟨first, hfirst, heq⟩) (h.not_mem hfree)
      · rfl
  · rw [if_neg hvariant, h]
    constructor
    · rintro ⟨hfirst, heq⟩
      exact ⟨Or.inl hfirst, heq⟩
    · rintro ⟨hfirst | rfl, heq⟩
      · exact ⟨hfirst, heq⟩
      · exact absurd heq.symm hvariant

theorem nodup_map_concat {before : List String} {name : String}
    (h : (before.map variantName).Nodup) (hname : variantName name ∉ before.map variantName) :
    ((before ++ [name]).map variantName).Nodup := by
  rw [List.map_append, List.map_singleton, ← List.concat_eq_append]
  exact h.concat hname

/-- The conflict of a name with an earlier one that has its variant. -/
def VariantConflict.between (first second : String) : VariantConflict :=
  if first = second then .duplicateName second
  else .sharedVariant first second (variantName second)

/-- The variants up to the reported name are distinct, and one of them is the name's. -/
theorem exists_split_of_conflictAfter? {taken : List (String × String)}
    {before names : List String} {conflict : VariantConflict} (htaken : Taken taken before)
    (hnodup : (before.map variantName).Nodup) (h : conflictAfter? taken names = some conflict) :
    ∃ fresh first second later, names = fresh ++ second :: later ∧
      ((before ++ fresh).map variantName).Nodup ∧ first ∈ before ++ fresh ∧
      variantName first = variantName second ∧ conflict = .between first second := by
  -- With each name that takes a variant, the invariant moves on to one more name before the rest.
  induction names generalizing taken before with
  | nil => contradiction
  | cons name rest ih =>
      rw [conflictAfter?] at h
      cases hlookup : taken.lookup (variantName name) with
      | some first =>
          obtain ⟨hfirst, hvariant⟩ := (htaken (variantName name) first).1 hlookup
          rw [hlookup] at h
          refine ⟨[], first, name, rest, rfl, ?_, ?_, hvariant, ?_⟩
          · rwa [List.append_nil]
          · rwa [List.append_nil]
          · exact (Option.some.inj h).symm
      | none =>
          rw [hlookup] at h
          obtain ⟨fresh, first, second, later, rfl, hdistinct, hfirst, hvariant, hconflict⟩ :=
            ih (htaken.concat hlookup) (nodup_map_concat hnodup (htaken.not_mem hlookup)) h
          rw [List.append_assoc, List.singleton_append] at hdistinct hfirst
          exact ⟨name :: fresh, first, second, later, rfl, hdistinct, hfirst, hvariant, hconflict⟩

theorem exists_split_of_conflict? {names : List String} {conflict : VariantConflict}
    (h : conflict? names = some conflict) :
    ∃ before first second later, names = before ++ second :: later ∧
      (before.map variantName).Nodup ∧ first ∈ before ∧
      variantName first = variantName second ∧ conflict = .between first second :=
  exists_split_of_conflictAfter? Taken.nil List.nodup_nil h

/-! ## Places -/

/-- The name in place `j` has the variant of the one in the earlier place `i`. -/
def Repeats (names : List String) (i j : Nat) : Prop :=
  i < j ∧ ∃ variant, (names.map variantName)[i]? = some variant ∧
    (names.map variantName)[j]? = some variant

theorem exists_repeats_iff {names : List String} :
    (∃ i j, Repeats names i j) ↔ ¬(names.map variantName).Nodup := by
  rw [List.nodup_iff_getElem?_ne_getElem?]
  constructor
  · rintro ⟨i, j, hlt, variant, hi, hj⟩ hnodup
    obtain ⟨hlength, -⟩ := List.getElem?_eq_some_iff.1 hj
    exact hnodup i j hlt hlength (hi.trans hj.symm)
  · intro hrepeat
    push Not at hrepeat
    obtain ⟨i, j, hlt, hlength, heq⟩ := hrepeat
    exact ⟨i, j, hlt, _, heq.trans (List.getElem?_eq_getElem hlength),
      List.getElem?_eq_getElem hlength⟩

section Split

variable {before later : List String} {second : String}

/-- Where distinct variants come first, no place among them repeats another. -/
theorem length_le_of_repeats (h : (before.map variantName).Nodup) {i j : Nat}
    (hrepeats : Repeats (before ++ second :: later) i j) : before.length ≤ j := by
  obtain ⟨hlt, variant, hi, hj⟩ := hrepeats
  by_contra hbefore
  rw [List.map_append, List.getElem?_append_left (by rw [List.length_map]; omega)] at hi hj
  exact exists_repeats_iff.1 ⟨i, j, hlt, variant, hi, hj⟩ h

theorem repeats_length_iff {i : Nat} :
    Repeats (before ++ second :: later) i before.length ↔
      (before.map variantName)[i]? = some (variantName second) := by
  have hsecond : ((before ++ second :: later).map variantName)[before.length]? =
      some (variantName second) := by
    rw [List.getElem?_map, List.getElem?_append_right le_rfl, Nat.sub_self,
      List.getElem?_cons_zero, Option.map_some]
  unfold Repeats
  rw [hsecond]
  constructor
  · rintro ⟨hlt, variant, hi, hvariant⟩
    rw [List.map_append, List.getElem?_append_left (by rwa [List.length_map])] at hi
    rw [hi, hvariant]
  · intro hi
    obtain ⟨hlt, -⟩ := List.getElem?_eq_some_iff.1 hi
    refine ⟨by rwa [List.length_map] at hlt, variantName second, ?_, rfl⟩
    rw [List.map_append, List.getElem?_append_left hlt, hi]

end Split

/-- The reported name is the first one that repeats a variant.  It repeats that of one place only,
and the conflict is with the name in that place. -/
theorem exists_least_of_conflict? {names : List String} {conflict : VariantConflict}
    (h : conflict? names = some conflict) :
    ∃ i j first second, IsLeast {j | ∃ i, Repeats names i j} j ∧
      (∀ k, Repeats names k j ↔ k = i) ∧ names[i]? = some first ∧ names[j]? = some second ∧
      conflict = .between first second := by
  obtain ⟨before, first, second, later, rfl, hnodup, hfirst, hvariant, hconflict⟩ :=
    exists_split_of_conflict? h
  obtain ⟨i, hlt, hi⟩ := List.mem_iff_getElem.1 hfirst
  have hget : (before.map variantName)[i]? = some (variantName second) := by
    rw [List.getElem?_map, List.getElem?_eq_getElem hlt, hi, Option.map_some, hvariant]
  refine ⟨i, before.length, first, second, ⟨⟨i, repeats_length_iff.2 hget⟩, ?_⟩, ?_, ?_, ?_,
    hconflict⟩
  · rintro j ⟨k, hrepeats⟩
    exact length_le_of_repeats hnodup hrepeats
  · intro k
    rw [repeats_length_iff]
    constructor
    · intro hk
      obtain ⟨hlength, -⟩ := List.getElem?_eq_some_iff.1 hk
      exact (List.getElem?_inj hlength hnodup).1 (hk.trans hget.symm)
    · rintro rfl
      exact hget
  · rw [List.getElem?_append_left hlt, List.getElem?_eq_getElem hlt, hi]
  · rw [List.getElem?_append_right le_rfl, Nat.sub_self, List.getElem?_cons_zero]

/-! ## Modules -/

namespace Vocabulary

theorem rustModule_eq_error_iff {vocabulary : Vocabulary} {options : Options}
    {conflict : VariantConflict} :
    vocabulary.rustModule options = .error conflict ↔
      conflict? vocabulary.names = some conflict := by
  unfold rustModule RustModule.ofVocabulary? TokenEnum.ofNames?
  cases conflict? vocabulary.names <;> simp [Except.map]

theorem exists_rustModule_eq_ok_iff {vocabulary : Vocabulary} {options : Options} :
    (∃ text, vocabulary.rustModule options = .ok text) ↔ conflict? vocabulary.names = none := by
  unfold rustModule RustModule.ofVocabulary? TokenEnum.ofNames?
  cases conflict? vocabulary.names <;> simp [Except.map]

theorem artifact_eq_rustModule {options : Options} (htarget : options.target = .rustModule)
    (vocabulary : Vocabulary) : vocabulary.artifact options = vocabulary.rustModule options := by
  rw [artifact, htarget]

/-- A vocabulary has no module exactly if two of its names have one variant.  Then the first place
that repeats a variant is reported with the one place that it repeats.  The variants of a module are
those of the names in order, and they are distinct. -/
theorem rustModule_reports_first_repeat (vocabulary : Vocabulary) (options : Options) :
    ((∃ conflict, vocabulary.rustModule options = .error conflict) ↔
      ∃ i j, Repeats vocabulary.names i j) ∧
    (∀ conflict, vocabulary.rustModule options = .error conflict →
      ∃ i j first second, IsLeast {j | ∃ i, Repeats vocabulary.names i j} j ∧
        (∀ k, Repeats vocabulary.names k j ↔ k = i) ∧
        vocabulary.names[i]? = some first ∧ vocabulary.names[j]? = some second ∧
        conflict = if first = second then .duplicateName second
          else .sharedVariant first second (variantName second)) ∧
    ∀ text, vocabulary.rustModule options = .ok text →
      ∃ module, RustModule.ofVocabulary? vocabulary options = .ok module ∧
        module.render = text ∧ module.enum.names = vocabulary.names ∧
        module.enum.variants = vocabulary.names.map variantName ∧
        module.enum.variants.Nodup ∧ vocabulary.names.Nodup := by
  refine ⟨?_, ?_, ?_⟩
  · rw [exists_repeats_iff, ← conflict?_eq_none_iff, ← ne_eq, Option.ne_none_iff_exists']
    exact exists_congr fun conflict => rustModule_eq_error_iff
  · intro conflict h
    exact exists_least_of_conflict? (rustModule_eq_error_iff.1 h)
  · intro text h
    obtain ⟨module, hmodule, htext⟩ := rustModule_eq_ok_iff.1 h
    obtain ⟨hconflict, hfields⟩ := ofVocabulary?_eq_ok_iff.1 hmodule
    have hnodup := conflict?_eq_none_iff.1 hconflict
    have henum : module.enum = .ofNames vocabulary.names := by rw [hfields]
    have hvariants : module.enum.variants = vocabulary.names.map variantName := by
      rw [henum, TokenEnum.variants_ofNames]
    refine ⟨module, hmodule, htext, ?_, hvariants, ?_, hnodup.of_map⟩
    · rw [henum, TokenEnum.names_ofNames]
    · rwa [hvariants]

/-- Three names of one variant: the second is reported with the first, although the third is the first
name again. -/
def sharedVocabulary : Vocabulary :=
  ⟨[⟨"A", "'a'"⟩, ⟨"A_", "'b'"⟩, ⟨"A", "'c'"⟩], 0⟩

/-- Two names of distinct variants, which the enumeration of their module declares. -/
def distinctVocabulary : Vocabulary :=
  ⟨[⟨"A", "'a'"⟩, ⟨"B_C", "'b'"⟩], 0⟩

theorem declaredVariants_distinctVocabulary {text : String}
    (h : distinctVocabulary.rustModule {} = .ok text) :
    Syntax.declaredVariants (text.toList.splitOn '\n') = ["A", "BC"] := by
  obtain ⟨module, hmodule, rfl⟩ := rustModule_eq_ok_iff.1 h
  have hlines : (RustModule.ofVocabulary? distinctVocabulary {}).map
      (fun module => Syntax.declaredVariants (module.code.flatMap Text.CodeLine.written)) =
        .ok ["A", "BC"] := by
    decide +kernel
  rw [hmodule] at hlines
  rw [RustModule.render, Text.splitOn_renderCode module.code_ne_nil]
  exact Except.ok.inj hlines

theorem rustModule_of_shared_variant :
    sharedVocabulary.rustModule {} = .error (.sharedVariant "A" "A_" "A") ∧
      Repeats sharedVocabulary.names 0 2 ∧
      IsLeast {j | ∃ i, Repeats sharedVocabulary.names i j} 1 ∧
      (∀ k, Repeats sharedVocabulary.names k 1 ↔ k = 0) ∧
      (¬∃ i j, Repeats distinctVocabulary.names i j) ∧
      ∃ module : RustModule, distinctVocabulary.rustModule {} = .ok module.render ∧
        module.enum.names = distinctVocabulary.names ∧ module.enum.variants = ["A", "BC"] ∧
        Syntax.declaredVariants (module.render.toList.splitOn '\n') = ["A", "BC"] := by
  have hvariants : sharedVocabulary.names.map variantName = ["A", "A", "A"] := by decide +kernel
  have hrepeats : Repeats sharedVocabulary.names 0 1 ∧ Repeats sharedVocabulary.names 0 2 := by
    unfold Repeats
    rw [hvariants]
    exact ⟨⟨by decide, "A", rfl, rfl⟩, ⟨by decide, "A", rfl, rfl⟩⟩
  obtain ⟨hfails, hreport, -⟩ := rustModule_reports_first_repeat sharedVocabulary {}
  obtain ⟨conflict, hconflict⟩ := hfails.2 ⟨0, 1, hrepeats.1⟩
  obtain ⟨i, j, first, second, hleast, hunique, hfirst, hsecond, heq⟩ := hreport conflict hconflict
  have hj : j = 1 := by
    have hle : j ≤ 1 := hleast.2 ⟨0, hrepeats.1⟩
    obtain ⟨k, hlt, -⟩ := hleast.1
    omega
  subst hj
  obtain rfl : 0 = i := (hunique 0).1 hrepeats.1
  obtain rfl : "A" = first := Option.some.inj hfirst
  obtain rfl : "A_" = second := Option.some.inj hsecond
  have hvariant : variantName "A_" = "A" := by decide +kernel
  rw [if_neg (by decide), hvariant] at heq
  refine ⟨heq ▸ hconflict, hrepeats.2, hleast, hunique, ?_⟩
  obtain ⟨hfailsDistinct, -, hsuccess⟩ := rustModule_reports_first_repeat distinctVocabulary {}
  obtain ⟨text, htext⟩ : ∃ text, distinctVocabulary.rustModule {} = .ok text :=
    exists_rustModule_eq_ok_iff.2 (by decide +kernel)
  have hdistinct : distinctVocabulary.names.map variantName = ["A", "BC"] := by decide +kernel
  obtain ⟨module, -, rfl, hnames, hmodule, -, -⟩ := hsuccess text htext
  refine ⟨?_, module, htext, hnames, hmodule.trans hdistinct,
    declaredVariants_distinctVocabulary htext⟩
  intro hrepeat
  obtain ⟨conflict, hconflict⟩ := hfailsDistinct.2 hrepeat
  rw [htext] at hconflict
  contradiction

end Vocabulary

end TokenTables
