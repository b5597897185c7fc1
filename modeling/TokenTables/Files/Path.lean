/-!
# Paths

A path is its text cut at the slashes.  Empty and single-dot segments after the first lead nowhere,
yet they are kept: the text of a path is never changed by reading it.
-/

namespace TokenTables.Files

/-- The segments of a path, at least one; with an empty first segment and more after it the path
starts at the root. -/
structure Path where
  first : String
  rest : List String
deriving DecidableEq, Repr

namespace Path

def ofSegments : List String → Path
  | [] => ⟨"", []⟩
  | first :: rest => ⟨first, rest⟩

def ofText (text : String) : Path :=
  ofSegments ((text.toList.splitOn '/').map String.ofList)

def segments (path : Path) : List String :=
  path.first :: path.rest

/-- The segments with slashes between them. -/
def text (path : Path) : String :=
  "/".intercalate path.segments

def isEmpty (path : Path) : Bool :=
  path.first.isEmpty && path.rest.isEmpty

def isAbsolute (path : Path) : Bool :=
  path.first.isEmpty && !path.rest.isEmpty

def endsInSlash (path : Path) : Bool :=
  path.rest.getLast? == some ""

/-- A segment that leads nowhere. -/
def isIdle (segment : String) : Bool :=
  segment.isEmpty || segment == "."

/-- The place that `path` names seen from `base`: one slash between them, unless `path` is absolute
and means the same place from everywhere. -/
def join (base path : Path) : Path :=
  if path.isAbsolute then path
  else
    let front := if base.segments.getLast? == some "" then base.segments.dropLast else base.segments
    ofSegments (front ++ path.segments)

/-- The segment a path ends in, slashes and single dots apart.  Two dots are no name, nor is the dot
or the lack of a text that a whole path may be. -/
def fileName? (path : Path) : Option String :=
  match path.rest.reverse.dropWhile isIdle with
  | last :: _ => if last == ".." then none else some last
  | [] => if isIdle path.first || path.first == ".." then none else some path.first

/-- The path without the last segment that leads somewhere, and the idle ones around it. -/
def parent? (path : Path) : Option Path :=
  match path.rest.reverse.dropWhile isIdle with
  | _ :: before =>
    let front := (before.dropWhile isIdle).reverse
    some (if path.first.isEmpty && front.isEmpty then ⟨"", [""]⟩ else ⟨path.first, front⟩)
  | [] => if path.first.isEmpty then none else some ⟨"", []⟩

/-- The number of segments that a parent has fewer of. -/
def depth (path : Path) : Nat :=
  (if path.first.isEmpty then 0 else 1) + path.rest.countP (!isIdle ·)

/-! ## Reading and writing a path -/

@[simp] theorem segments_ofSegments {segments : List String} (h : segments ≠ []) :
    (ofSegments segments).segments = segments := by
  cases segments with
  | nil => exact absurd rfl h
  | cons first rest => rfl

/-- Reading a path changes nothing in its text. -/
@[simp] theorem text_ofText (text : String) : (ofText text).text = text := by
  have hne : (text.toList.splitOn '/').map String.ofList ≠ [] := by
    simp [List.splitOn_ne_nil]
  rw [ofText, Path.text, segments_ofSegments hne, ← String.toList_inj, String.toList_intercalate]
  simp [Function.comp_def, List.intercalate_splitOn]

/-! ## Parents -/

theorem countP_not_dropWhile {α : Type} (p : α → Bool) (items : List α) :
    (items.dropWhile p).countP (!p ·) = items.countP (!p ·) := by
  induction items with
  | nil => rfl
  | cons item rest ih => cases h : p item <;> simp [h, ih]

theorem depth_root : (Path.mk "" [""]).depth = 0 := by decide

theorem depth_empty : (Path.mk "" []).depth = 0 := by decide

/-- A segment that leads somewhere is left out of a parent. -/
theorem depth_lt_of_parent? {path parent : Path} (h : path.parent? = some parent) :
    parent.depth < path.depth := by
  have hrest : path.rest.countP (!isIdle ·) =
      (path.rest.reverse.dropWhile isIdle).countP (!isIdle ·) := by
    rw [countP_not_dropWhile, List.countP_reverse]
  unfold parent? at h
  split at h
  next last before hdrop =>
    have hlast : isIdle last = false := by
      have := List.head?_dropWhile_not isIdle path.rest.reverse
      simpa only [hdrop, List.head?_cons] using this
    have hfront : (before.dropWhile isIdle).reverse.countP (!isIdle ·) =
        before.countP (!isIdle ·) := by
      rw [List.countP_reverse, countP_not_dropWhile]
    simp only [hdrop, List.countP_cons, hlast, Bool.not_false, ↓reduceIte] at hrest
    simp only [Option.some.injEq] at h
    subst h
    split
    · rw [depth_root, depth, hrest]
      omega
    · simp only [depth, hrest, hfront]
      omega
  next hdrop =>
    split at h
    · cases h
    next hfirst =>
      cases h
      rw [depth_empty, depth, if_neg hfirst]
      omega

end Path

end TokenTables.Files
