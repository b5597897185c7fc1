/-!
# Lines of a text

Every character that ends a line ends one by itself, so a carriage return and the line feed after
it have an empty line between them.
-/

namespace TokenTables.Text

/-- Ends a line: the vertical controls, the file, group and record separators, the next-line control
and the line and paragraph separators. -/
def isLineBreak (c : Char) : Bool :=
  let n := c.toNat
  (0x0A ≤ n && n ≤ 0x0D) || (0x1C ≤ n && n ≤ 0x1E) || n == 0x85 || n == 0x2028 || n == 0x2029

/-- The lines of a text, in order, without the characters that end them. -/
def lines (text : List Char) : List (List Char) :=
  text.splitOnP isLineBreak

theorem eq_false_of_mem_splitOnP {α : Type} {p : α → Bool} {list piece : List α}
    (h : piece ∈ list.splitOnP p) : ∀ x ∈ piece, p x = false := by
  induction list generalizing piece with
  | nil => simp_all
  | cons head rest ih =>
    rw [List.splitOnP_cons_eq_if_modifyHead] at h
    split at h
    · rcases List.mem_cons.1 h with rfl | h
      · simp
      · exact ih h
    · rename_i hhead
      obtain ⟨first, later, hsplit⟩ := List.exists_cons_of_ne_nil (List.splitOnP_ne_nil p rest)
      rw [hsplit, List.modifyHead_cons] at h
      rw [hsplit] at ih
      rcases List.mem_cons.1 h with rfl | h
      · intro x hx
        rcases List.mem_cons.1 hx with rfl | hx
        · simpa using hhead
        · exact ih List.mem_cons_self x hx
      · exact ih (List.mem_cons_of_mem _ h)

/-- A line has no character that ends one. -/
theorem isLineBreak_of_mem_lines {text line : List Char} (h : line ∈ lines text) :
    ∀ c ∈ line, isLineBreak c = false :=
  eq_false_of_mem_splitOnP h

end TokenTables.Text
