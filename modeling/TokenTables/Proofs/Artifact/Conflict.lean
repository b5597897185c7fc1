import Mathlib.Data.List.Nodup
import TokenTables.Proofs.Artifact.Options
/-!
# Conflicts of variants

Names have an enumeration exactly if their variants are distinct.  A variant keeps the letters and
digits of its name.
-/

namespace TokenTables

theorem lookup_cons_eq_if {α β : Type} [DecidableEq α] (key : α) (value : β)
    (entries : List (α × β)) (a : α) :
    ((key, value) :: entries).lookup a = if a = key then some value else entries.lookup a := by
  by_cases h : a = key
  · simp [h]
  · have hbeq : (a == key) = false := by simpa using h
    rw [List.lookup_cons, hbeq, if_neg h]

theorem conflictAfter?_eq_none_iff {taken : List (String × String)} {names : List String} :
    conflictAfter? taken names = none ↔
      (names.map variantName).Nodup ∧ ∀ name ∈ names, taken.lookup (variantName name) = none := by
  induction names generalizing taken with
  | nil => simp [conflictAfter?]
  | cons name rest ih =>
      rw [conflictAfter?]
      cases htaken : taken.lookup (variantName name) with
      | some first =>
          simp only [reduceCtorEq, false_iff, not_and, not_forall]
          intro _
          exact ⟨name, List.mem_cons_self, by simp [htaken]⟩
      | none =>
          simp only [ih, List.map_cons, List.nodup_cons, List.mem_map, not_exists, not_and,
            List.forall_mem_cons, htaken, true_and, lookup_cons_eq_if]
          constructor
          · rintro ⟨hnodup, hlookup⟩
            refine ⟨⟨?_, hnodup⟩, ?_⟩
            · intro other hother heq
              simpa [heq] using hlookup other hother
            · intro other hother
              have hnone := hlookup other hother
              split at hnone
              · contradiction
              · exact hnone
          · rintro ⟨⟨hfresh, hnodup⟩, hlookup⟩
            refine ⟨hnodup, ?_⟩
            intro other hother
            rw [if_neg (hfresh other hother), hlookup other hother]

/-- There is no conflict exactly if the variants are distinct. -/
theorem conflict?_eq_none_iff {names : List String} :
    conflict? names = none ↔ (names.map variantName).Nodup := by
  simp [conflict?, conflictAfter?_eq_none_iff]

/-- Names that differ in more than underscores have distinct variants. -/
theorem conflict?_eq_none_of_nodup {names : List String}
    (hnames : ∀ name ∈ names, TokenRule.IsName name.toList)
    (h : (names.map fun name => name.toList.filter (· != '_')).Nodup) : conflict? names = none := by
  rw [conflict?_eq_none_iff]
  have hmap : (names.map variantName).map
      (fun variant => (variant.toList.filter (· != '_')).map Char.toUpper) =
        names.map fun name => name.toList.filter (· != '_') := by
    rw [List.map_map]
    refine List.map_congr_left fun name hname => ?_
    rw [Function.comp_apply, map_toUpper_variantName (hnames name hname)]
  rw [← hmap] at h
  exact List.Nodup.of_map _ h

end TokenTables
