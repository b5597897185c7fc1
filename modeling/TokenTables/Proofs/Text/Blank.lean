import Mathlib.Data.List.Induction
import Mathlib.Data.List.TakeWhile
import TokenTables.Text.Blank
/-!
# Runs of blanks

What trimming does to a text that is given as blanks and the rest of it.
-/

namespace TokenTables.Text

/-- Only blanks. -/
def Blanks (text : List Char) : Prop :=
  ∀ c ∈ text, isBlank c = true

instance : DecidablePred Blanks := fun text =>
  List.decidableBAll (fun c => isBlank c = true) text

theorem Blanks.nil : Blanks [] := by
  simp [Blanks]

theorem Blanks.concat {blanks : List Char} {c : Char} (h : Blanks blanks)
    (hc : isBlank c = true) : Blanks (blanks ++ [c]) := by
  intro d hd
  rcases List.mem_append.1 hd with hd | hd
  · exact h d hd
  · rwa [List.mem_singleton.1 hd]

theorem Blanks.reverse {blanks : List Char} (h : Blanks blanks) : Blanks blanks.reverse := by
  intro c hc
  exact h c (List.mem_reverse.1 hc)

theorem trimStart_blanks_append {blanks : List Char} (hblanks : Blanks blanks)
    (text : List Char) : trimStart (blanks ++ text) = trimStart text := by
  unfold trimStart
  exact List.dropWhile_append_of_pos hblanks

theorem trimStart_cons_of_not_blank {c : Char} (hc : isBlank c = false) (text : List Char) :
    trimStart (c :: text) = c :: text := by
  rw [trimStart_cons, hc, if_neg (by decide)]

theorem trimStart_eq_nil_iff {text : List Char} : trimStart text = [] ↔ Blanks text := by
  unfold trimStart Blanks
  exact List.dropWhile_eq_nil_iff

theorem isBlank_of_trimStart_eq_cons {text rest : List Char} {c : Char}
    (h : trimStart text = c :: rest) : isBlank c = false := by
  induction text with
  | nil => simp at h
  | cons d text ih =>
      rw [trimStart_cons] at h
      split at h
      · exact ih h
      · rename_i hd
        obtain ⟨rfl, -⟩ := List.cons.inj h
        simpa using hd

theorem exists_blanks_append_trimStart (text : List Char) :
    ∃ blanks, Blanks blanks ∧ text = blanks ++ trimStart text := by
  refine ⟨text.takeWhile isBlank, ?_, List.takeWhile_append_dropWhile.symm⟩
  intro c hc
  exact List.mem_takeWhile_imp hc

/-- A run of blanks ends at the first character that is none. -/
theorem blanks_append_cons_inj {s s' t t' : List Char} {c c' : Char} (hs : Blanks s)
    (hs' : Blanks s') (hc : isBlank c = false) (hc' : isBlank c' = false)
    (h : s ++ c :: t = s' ++ c' :: t') : s = s' ∧ c :: t = c' :: t' := by
  have htail : c :: t = c' :: t' := by
    have hcut := congrArg trimStart h
    rwa [trimStart_blanks_append hs, trimStart_blanks_append hs', trimStart_cons_of_not_blank hc,
      trimStart_cons_of_not_blank hc'] at hcut
  rw [htail] at h
  exact ⟨List.append_cancel_right h, htail⟩

/-- The same from the other end. -/
theorem append_cons_blanks_inj {s s' t t' : List Char} {c c' : Char} (ht : Blanks t)
    (ht' : Blanks t') (hc : isBlank c = false) (hc' : isBlank c' = false)
    (h : s ++ c :: t = s' ++ c' :: t') : s ++ [c] = s' ++ [c'] ∧ t = t' := by
  have hreverse : t.reverse ++ c :: s.reverse = t'.reverse ++ c' :: s'.reverse := by
    simpa using congrArg List.reverse h
  obtain ⟨htail, hhead⟩ := blanks_append_cons_inj ht.reverse ht'.reverse hc hc' hreverse
  refine ⟨?_, List.reverse_inj.1 htail⟩
  simpa using congrArg List.reverse hhead

/-! ## Trimming at the end -/

theorem exists_trimEnd_append_blanks (text : List Char) :
    ∃ blanks, Blanks blanks ∧ text = trimEnd text ++ blanks := by
  obtain ⟨blanks, hblanks, htext⟩ := exists_blanks_append_trimStart text.reverse
  refine ⟨blanks.reverse, hblanks.reverse, ?_⟩
  have hreverse := congrArg List.reverse htext
  rwa [List.reverse_reverse, List.reverse_append] at hreverse

theorem trimEnd_append_blanks {blanks : List Char} (hblanks : Blanks blanks)
    (text : List Char) : trimEnd (text ++ blanks) = trimEnd text := by
  unfold trimEnd
  rw [List.reverse_append, List.dropWhile_append_of_pos hblanks.reverse]

/-- A character that is no blank keeps all that comes before it. -/
theorem trimEnd_append_cons {c : Char} (hc : isBlank c = false) (s t : List Char) :
    trimEnd (s ++ c :: t) = s ++ c :: trimEnd t := by
  induction t using List.reverseRecOn with
  | nil => rw [trimEnd_concat, hc, if_neg (by decide), trimEnd_nil]
  | append_singleton t d ih =>
      have hconcat : s ++ c :: (t ++ [d]) = (s ++ c :: t) ++ [d] := by simp
      rw [hconcat, trimEnd_concat, trimEnd_concat]
      by_cases hd : isBlank d = true
      · rw [if_pos hd, if_pos hd, ih]
      · rw [if_neg hd, if_neg hd, hconcat]

theorem trim_blanks_append {blanks : List Char} (hblanks : Blanks blanks) (text : List Char) :
    trim (blanks ++ text) = trim text := by
  unfold trim
  rw [trimStart_blanks_append hblanks]

theorem trim_of_blanks {blanks : List Char} (h : Blanks blanks) : trim blanks = [] := by
  unfold trim
  rw [trimStart_eq_nil_iff.2 h, trimEnd_nil]

/-- Blanks at the end are trimmed off like blanks in front. -/
theorem trim_append_blanks {blanks : List Char} (hblanks : Blanks blanks) (text : List Char) :
    trim (text ++ blanks) = trim text := by
  obtain ⟨front, hfront, htext⟩ := exists_blanks_append_trimStart text
  cases hcut : trimStart text with
  | nil =>
      rw [hcut, List.append_nil] at htext
      rw [htext, trim_blanks_append hfront, trim_of_blanks hblanks, trim_of_blanks hfront]
  | cons c rest =>
      have hc := isBlank_of_trimStart_eq_cons hcut
      rw [hcut] at htext
      rw [htext, List.append_assoc, trim_blanks_append hfront, trim_blanks_append hfront]
      unfold trim
      rw [List.cons_append, trimStart_cons_of_not_blank hc, trimStart_cons_of_not_blank hc,
        ← List.cons_append, trimEnd_append_blanks hblanks]

end TokenTables.Text
