import Mathlib.Data.List.Basic
import TokenTables.Text.Newline
/-!
# Texts as lines

How many lines a text has, and that code is determined by its lines.
-/

namespace TokenTables.Text

theorem length_splitOn (c : Char) (text : List Char) :
    (text.splitOn c).length = text.count c + 1 := by
  induction text with
  | nil => rfl
  | cons d rest ih =>
      rw [List.splitOn_cons_eq_if_modifyHead, List.count_cons]
      by_cases hd : d == c
      · rw [if_pos hd, if_pos hd, List.length_cons, ih]
      · rw [if_neg hd, if_neg hd, List.length_modifyHead, ih]

theorem count_unifyNewlines (text : List Char) :
    (unifyNewlines text).count '\n' = text.count '\n' := by
  fun_induction unifyNewlines text with
  | case1 => rfl
  | case2 rest ih => simp [ih]
  | case3 c rest _ ih => simp [List.count_cons, ih]

theorem unifyNewlines_of_not_mem {text : List Char} (h : '\n' ∉ text) :
    unifyNewlines text = text := by
  fun_induction unifyNewlines text with
  | case1 => rfl
  | case2 rest ih => simp at h
  | case3 c rest _ ih => rw [ih (mt (List.mem_cons_of_mem c) h)]

theorem length_newlinePieces (text : List Char) :
    (newlinePieces text).length = text.count '\n' + 1 := by
  rw [newlinePieces, length_splitOn, count_unifyNewlines]

/-- A text without newlines is one line. -/
theorem newlinePieces_of_not_mem {text : List Char} (h : '\n' ∉ text) :
    newlinePieces text = [text] := by
  rw [newlinePieces, unifyNewlines_of_not_mem h, List.splitOn_eq_singleton h]

/-- Lines of which each is ended by a line feed, and an empty one that nothing ends. -/
theorem lines_flatMap {texts : List (List Char)}
    (h : ∀ text ∈ texts, ∀ c ∈ text, isLineBreak c = false) :
    lines (texts.flatMap (· ++ ['\n'])) = texts ++ [[]] := by
  induction texts with
  | nil => rfl
  | cons text rest ih =>
      have hmore := ih fun other hother => h other (List.mem_cons_of_mem _ hother)
      rw [lines] at hmore ⊢
      rw [List.flatMap_cons, List.append_assoc, List.singleton_append,
        List.splitOnP_append_cons_of_forall_mem (h text List.mem_cons_self) '\n' (by decide), hmore]
      rfl

/-! ## Code -/

theorem CodeLine.written_of_not_mem (depth : Nat) {text : String} (h : '\n' ∉ text.toList) :
    CodeLine.written ⟨depth, text⟩ = [indent depth text.toList] := by
  rw [CodeLine.written, newlinePieces_of_not_mem h, List.map_singleton]

/-- Outside of blocks no line is indented. -/
theorem CodeLine.written_outside (text : String) :
    CodeLine.written ⟨0, text⟩ = newlinePieces text.toList := by
  have hindent : ∀ line, indent 0 line = line := by
    intro line
    cases line <;> rfl
  rw [CodeLine.written, List.map_congr_left fun line _ => hindent line, List.map_id']

theorem CodeLine.written_zero {text : String} (h : '\n' ∉ text.toList) :
    CodeLine.written ⟨0, text⟩ = [text.toList] := by
  rw [CodeLine.written_outside, newlinePieces_of_not_mem h]

theorem CodeLine.length_written (line : CodeLine) :
    line.written.length = line.text.toList.count '\n' + 1 := by
  rw [CodeLine.written, List.length_map, length_newlinePieces]

theorem CodeLine.written_ne_nil (line : CodeLine) : line.written ≠ [] := by
  intro hnil
  have hlength := line.length_written
  rw [hnil] at hlength
  contradiction

theorem CodeLine.not_mem_of_mem_written {line : CodeLine} {piece : List Char}
    (h : piece ∈ line.written) : '\n' ∉ piece := by
  obtain ⟨text, htext, rfl⟩ := List.mem_map.1 h
  have hfeed : '\n' ∉ text := not_mem_of_mem_splitOn htext
  unfold indent
  split
  · simp
  · simp [hfeed]

theorem flatMap_written_ne_nil {code : List CodeLine} (h : code ≠ []) :
    code.flatMap CodeLine.written ≠ [] := by
  obtain ⟨line, rest, rfl⟩ := List.exists_cons_of_ne_nil h
  rw [List.flatMap_cons]
  exact List.append_ne_nil_of_left_ne_nil line.written_ne_nil _

/-- The lines of written code are the lines that its pieces are written as. -/
theorem splitOn_renderCode {code : List CodeLine} (hcode : code ≠ []) :
    (renderCode code).toList.splitOn '\n' = code.flatMap CodeLine.written := by
  rw [renderCode, String.toList_ofList]
  apply List.splitOn_intercalate
  · intro piece hpiece
    obtain ⟨line, -, hline⟩ := List.mem_flatMap.1 hpiece
    exact CodeLine.not_mem_of_mem_written hline
  · exact flatMap_written_ne_nil hcode

/-- A line inside a block is empty or begins with a space. -/
theorem CodeLine.head?_of_mem_written {line : CodeLine} (hdepth : 0 < line.depth)
    {piece : List Char} (h : piece ∈ line.written) : piece = [] ∨ piece.head? = some ' ' := by
  obtain ⟨text, -, rfl⟩ := List.mem_map.1 h
  obtain ⟨n, hn⟩ : ∃ n, 4 * line.depth = n + 1 := ⟨4 * line.depth - 1, by omega⟩
  unfold indent
  split
  · exact .inl rfl
  · rw [hn, List.replicate_succ]
    exact .inr rfl

theorem intercalate_append {pieces more : List (List Char)} (hpieces : pieces ≠ [])
    (hmore : more ≠ []) : ['\n'].intercalate (pieces ++ more) =
      ['\n'].intercalate pieces ++ '\n' :: ['\n'].intercalate more := by
  induction pieces with
  | nil => contradiction
  | cons piece rest ih =>
      cases rest with
      | nil =>
          obtain ⟨next, later, rfl⟩ := List.exists_cons_of_ne_nil hmore
          simp [List.intercalate_cons_cons]
      | cons next rest =>
          rw [List.cons_append, List.cons_append, List.intercalate_cons_cons, ← List.cons_append,
            ih (List.cons_ne_nil _ _), List.intercalate_cons_cons]
          simp

/-- Two parts of code have a line feed between them. -/
theorem toList_renderCode_append {s t : List CodeLine} (hs : s ≠ []) (ht : t ≠ []) :
    (renderCode (s ++ t)).toList = (renderCode s).toList ++ '\n' :: (renderCode t).toList := by
  simp only [renderCode, String.toList_ofList, List.flatMap_append]
  exact intercalate_append (flatMap_written_ne_nil hs) (flatMap_written_ne_nil ht)

/-- Code is determined by its lines. -/
theorem written_eq_of_renderCode_eq {s t : List CodeLine} (hs : s ≠ []) (ht : t ≠ [])
    (h : renderCode s = renderCode t) :
    s.flatMap CodeLine.written = t.flatMap CodeLine.written := by
  rw [← splitOn_renderCode hs, ← splitOn_renderCode ht, h]

/-! ## Tables of lines -/

/-- Rows of which none looks like the line that closes the table are determined by the lines. -/
theorem rows_inj {α : Type} {row : α → List Char} (hrow : Function.Injective row)
    {close : List Char} (hclose : ∀ a, row a ≠ close) {xs ys : List α} {s t : List (List Char)}
    (h : xs.map row ++ close :: s = ys.map row ++ close :: t) : xs = ys ∧ s = t := by
  induction xs generalizing ys with
  | nil =>
      cases ys with
      | nil => exact ⟨rfl, List.cons.inj h |>.2⟩
      | cons y ys => exact absurd (List.cons.inj h).1.symm (hclose y)
  | cons x xs ih =>
      cases ys with
      | nil => exact absurd (List.cons.inj h).1 (hclose x)
      | cons y ys =>
          obtain ⟨hhead, htail⟩ := List.cons.inj h
          obtain ⟨rfl, rfl⟩ := ih htail
          exact ⟨by rw [hrow hhead], rfl⟩

end TokenTables.Text
