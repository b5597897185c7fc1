import Mathlib.Data.List.Basic
import TokenTables.Text.Line
/-!
# Texts made of lines

Lines are joined to a text by line breaks, and which one stands between two lines is a choice of its
own.  The lines of the text are the ones that it was joined from.
-/

namespace TokenTables.Text

/-- A character that ends a line. -/
abbrev LineBreak := { c : Char // isLineBreak c = true }

/-- Free of line breaks. -/
def Unbroken (text : List Char) : Prop :=
  ∀ c ∈ text, isLineBreak c = false

instance : DecidablePred Unbroken := fun text =>
  List.decidableBAll (fun c => isLineBreak c = false) text

theorem unbroken_append {s t : List Char} : Unbroken (s ++ t) ↔ Unbroken s ∧ Unbroken t := by
  unfold Unbroken
  exact List.forall_mem_append

theorem unbroken_cons {c : Char} {text : List Char} :
    Unbroken (c :: text) ↔ isLineBreak c = false ∧ Unbroken text := by
  unfold Unbroken
  exact List.forall_mem_cons

/-- The lines as one text, in which `breaks i` ends the line in place `i` if another one follows. -/
def joinLines (breaks : Nat → LineBreak) : List (List Char) → List Char
  | [] => []
  | [line] => line
  | line :: next :: rest =>
    line ++ (breaks 0).val :: joinLines (fun i => breaks (i + 1)) (next :: rest)

/-- A line break separates the lines before it from those after it. -/
theorem lines_append_cons {c : Char} (hc : isLineBreak c = true) (s t : List Char) :
    lines (s ++ c :: t) = lines s ++ lines t := by
  unfold lines
  exact List.splitOnP_append_cons s t hc

theorem lines_of_unbroken {line : List Char} (h : Unbroken line) : lines line = [line] := by
  unfold lines
  exact List.splitOnP_eq_singleton h

theorem lines_joinLines {texts : List (List Char)} (hne : texts ≠ [])
    (h : ∀ line ∈ texts, Unbroken line) (breaks : Nat → LineBreak) :
    lines (joinLines breaks texts) = texts := by
  induction texts generalizing breaks with
  | nil => contradiction
  | cons line rest ih =>
      have hline : lines line = [line] := lines_of_unbroken (h line List.mem_cons_self)
      cases rest with
      | nil => exact hline
      | cons next rest =>
          have hrest := ih (List.cons_ne_nil next rest)
            (fun other hother => h other (List.mem_cons_of_mem _ hother)) fun i => breaks (i + 1)
          rw [joinLines, lines_append_cons (breaks 0).property, hline, hrest]
          rfl

/-! ## A character more -/

theorem lines_cons (c : Char) (text : List Char) :
    lines (c :: text) =
      if isLineBreak c = true then [] :: lines text else (lines text).modifyHead (c :: ·) := by
  unfold lines
  exact List.splitOnP_cons_eq_if_modifyHead c text

theorem lines_ne_nil (text : List Char) : lines text ≠ [] := by
  unfold lines
  exact List.splitOnP_ne_nil _ _

theorem exists_lines_cons {c : Char} (hc : isLineBreak c = false) (text : List Char) :
    ∃ first rest, lines text = first :: rest ∧ lines (c :: text) = (c :: first) :: rest := by
  obtain ⟨first, rest, hlines⟩ := List.exists_cons_of_ne_nil (lines_ne_nil text)
  refine ⟨first, rest, hlines, ?_⟩
  rw [lines_cons, hc, if_neg (by decide), hlines, List.modifyHead_cons]

theorem exists_lines_concat {c : Char} (hc : isLineBreak c = false) (text : List Char) :
    ∃ front last, lines text = front ++ [last] ∧ lines (text ++ [c]) = front ++ [last ++ [c]] := by
  induction text with
  | nil =>
      refine ⟨[], [], rfl, ?_⟩
      exact lines_of_unbroken fun d hd => by rwa [List.mem_singleton.1 hd]
  | cons d text ih =>
      obtain ⟨front, last, hlines, hconcat⟩ := ih
      rw [List.cons_append, lines_cons, lines_cons, hlines, hconcat]
      split
      · exact ⟨[] :: front, last, rfl, rfl⟩
      · cases front with
        | nil => exact ⟨[], d :: last, rfl, rfl⟩
        | cons first front => exact ⟨(d :: first) :: front, last, rfl, rfl⟩

end TokenTables.Text
