import TokenTables.Text.Line
/-!
# Newlines

A newline is a line feed, together with a carriage return directly before it if there is one.
A carriage return anywhere else is a character like any other.  Code is written line by line, each
line with the indentation of the blocks it is in.
-/

namespace TokenTables.Text

/-- The text with a line feed for every newline. -/
def unifyNewlines : List Char → List Char
  | [] => []
  | '\r' :: '\n' :: rest => '\n' :: unifyNewlines rest
  | c :: rest => c :: unifyNewlines rest

/-- The pieces of a text between its newlines; one more than there are newlines. -/
def newlinePieces (text : List Char) : List (List Char) :=
  (unifyNewlines text).splitOn '\n'

/-- The lines that newlines end, and a last one that nothing ends unless it is empty. -/
def newlineLines (text : List Char) : List (List Char) :=
  let pieces := newlinePieces text
  if pieces.getLast? == some [] then pieces.dropLast else pieces

/-- The text with four spaces after every line feed, so that all but its first line stand to the
right of where it begins. -/
def hanging (text : List Char) : List Char :=
  text.flatMap fun c => if c == '\n' then c :: List.replicate 4 ' ' else [c]

theorem not_mem_of_mem_splitOn {text piece : List Char} {c : Char} (h : piece ∈ text.splitOn c) :
    c ∉ piece := by
  intro hc
  rw [List.splitOn_eq_splitOnP] at h
  simpa using eq_false_of_mem_splitOnP h c hc

/-! ## Code -/

/-- A piece of code inside so many blocks. -/
structure CodeLine where
  depth : Nat
  text : String
deriving DecidableEq, Repr

/-- Four spaces for each block, unless the line is empty. -/
def indent (depth : Nat) (line : List Char) : List Char :=
  if line.isEmpty then [] else List.replicate (4 * depth) ' ' ++ line

/-- The lines that a piece of code is written as.  Its text may have newlines of its own, and each of
the lines it really is gets the indentation. -/
def CodeLine.written (line : CodeLine) : List (List Char) :=
  (newlinePieces line.text.toList).map (indent line.depth)

/-- The code, a line feed between two lines and none after the last. -/
def renderCode (code : List CodeLine) : String :=
  String.ofList (['\n'].intercalate (code.flatMap CodeLine.written))

end TokenTables.Text
