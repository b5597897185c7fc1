import TokenTables.Proofs.Naming.Ascii
/-!
# Spellings on one line

The words of a name are made of its characters, whatever these are, and capitals bring in no newline.
So a name on one line is on one line in capitals too.
-/

namespace TokenTables

namespace Unicode

open Text

theorem ofNat_ne_newline {n : Nat} (h : n ≠ 10) : Char.ofNat n ≠ '\n' := by
  intro heq
  by_cases hvalid : n.isValidChar
  · have hn := congrArg Char.toNat heq
    rw [Char.toNat_ofNat, if_pos hvalid] at hn
    exact h hn
  · rw [Char.ofNat, dif_neg hvalid] at heq
    contradiction

/-- Case data of which no row leads to a newline. -/
structure YieldsNoNewline (shifts : List CaseShift) (expansions : List (Nat × List Nat)) : Prop where
  shifts : ∀ row ∈ shifts, 10 < row.first + row.shift
  expansions : ∀ row ∈ expansions, 10 ∉ row.2

theorem newline_not_mem_mapCase {shifts : List CaseShift} {expansions : List (Nat × List Nat)}
    (h : YieldsNoNewline shifts expansions) {c : Char} (hc : c ≠ '\n') :
    '\n' ∉ mapCase shifts expansions c := by
  unfold mapCase
  split
  · rename_i row hrow
    have hshift := h.shifts row (List.mem_of_find?_eq_some hrow)
    have hfirst : row.first ≤ c.toNat := by
      have hcontains := List.find?_some hrow
      simp only [CaseShift.contains, Bool.and_eq_true, decide_eq_true_eq] at hcontains
      exact hcontains.1.1
    rw [List.mem_singleton]
    exact (ofNat_ne_newline (by omega)).symm
  · cases hlookup : expansions.lookup c.toNat with
    | none => simpa using hc.symm
    | some codes =>
        have hcodes : 10 ∉ codes := by
          obtain ⟨before, after, hrows, -⟩ := List.lookup_eq_some_iff.1 hlookup
          exact h.expansions (c.toNat, codes) (by rw [hrows]; simp)
        simp only [Option.map_some, Option.getD_some, List.mem_map, not_exists, not_and]
        intro n hn
        apply ofNat_ne_newline
        rintro rfl
        exact hcodes hn

theorem yieldsNoNewline_upper : YieldsNoNewline upperShifts upperExpansions where
  shifts := by decide +kernel
  expansions := by decide +kernel

/-- Capitals have no newline that the text has not. -/
theorem newline_not_mem_upper {text : List Char} (h : '\n' ∉ text) : '\n' ∉ upper text := by
  intro hmem
  obtain ⟨c, hc, hupper⟩ := List.mem_flatMap.1 hmem
  have hne : c ≠ '\n' := by
    rintro rfl
    exact h hc
  revert hupper
  unfold upperChar
  split
  · rename_i hascii
    have htoUpper := imp_of_ascii (p := (· != '\n')) (q := (·.toUpper != '\n')) (by decide) hascii
      (bne_iff_ne.2 hne)
    rw [List.mem_singleton]
    exact (bne_iff_ne.1 htoUpper).symm
  · exact newline_not_mem_mapCase yieldsNoNewline_upper hne

end Unicode

namespace Naming

theorem mem_of_mem_words {boundaries : List Boundary} {name word : List Char}
    (hword : word ∈ words boundaries name) {c : Char} (hc : c ∈ word) : c ∈ name := by
  rw [words, List.mem_filter] at hword
  have hflatten := flatten_wordsFrom boundaries none (Unicode.clusters name)
  rw [← List.flatten_cons] at hflatten
  have hmem : c ∈ ((wordsFrom boundaries none (Unicode.clusters name)).1 ::
      (wordsFrom boundaries none (Unicode.clusters name)).2).flatten :=
    List.mem_flatten.2 ⟨word, hword.1, hc⟩
  rw [hflatten] at hmem
  obtain ⟨cluster, hcluster, hmem⟩ := List.mem_flatten.1 hmem
  rw [← Unicode.flatten_clusters name]
  exact List.mem_flatten.2 ⟨cluster, List.mem_of_mem_filter hcluster, hmem⟩

theorem newline_not_mem_upperSnake {name : String} (h : '\n' ∉ name.toList) :
    '\n' ∉ (upperSnake name).toList := by
  have hwords : ∀ word ∈ (words compoundBoundaries name.toList).map Unicode.upper,
      ∀ c ∈ word, c ≠ '\n' := by
    intro capitals hcapitals c hc
    obtain ⟨word, hword, rfl⟩ := List.mem_map.1 hcapitals
    rintro rfl
    exact Unicode.newline_not_mem_upper (fun hmem => h (mem_of_mem_words hword hmem)) hc
  rw [toList_upperSnake]
  intro hmem
  exact forall_mem_intercalate (by decide) hwords '\n' hmem rfl

end Naming

end TokenTables
