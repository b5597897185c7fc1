import Mathlib.Data.List.Basic
import TokenTables.Files.Disk
/-!
# Files as they are seen

What can be seen of files, whatever system keeps them: what there is at a place, and the place that a
path leads to.  A change adds directories or writes a file if nothing else is seen to change by it.
-/

namespace TokenTables.Files

/-! ## Paths along another path -/

namespace Path

variable {front path parent : Path}

/-- The path consists of the first segments of another one, of which at least one leads somewhere. -/
def IsAlong (front path : Path) : Prop :=
  front.segments <+: path.segments ∧ 0 < front.depth

/-- The path leaves out at least one of the segments that lead somewhere. -/
def IsAbove (front path : Path) : Prop :=
  front.IsAlong path ∧ front.depth < path.depth

theorem depth_le_of_isPrefix (h : front.segments <+: path.segments) : front.depth ≤ path.depth := by
  obtain ⟨hfirst, hrest⟩ := List.cons_prefix_cons.1 h
  have hcount := hrest.sublist.countP_le (p := (!isIdle ·))
  unfold depth
  rw [hfirst]
  omega

/-- The segments of a parent come first in the path, unless it is the empty path or the root. -/
theorem eq_or_isPrefix_of_parent? (h : path.parent? = some parent) :
    parent = ⟨"", []⟩ ∨ parent = ⟨"", [""]⟩ ∨ parent.segments <+: path.segments := by
  unfold parent? at h
  split at h
  next last before hdrop =>
    simp only [Option.some.injEq] at h
    subst h
    split
    · exact Or.inr (Or.inl rfl)
    · refine Or.inr (Or.inr (List.cons_prefix_cons.2 ⟨rfl, ?_⟩))
      have hsuffix : before.dropWhile isIdle <:+ path.rest.reverse := by
        refine (List.dropWhile_suffix isIdle).trans ?_
        refine List.IsSuffix.trans ?_ (List.dropWhile_suffix isIdle)
        rw [hdrop]
        exact List.suffix_cons last before
      rw [← List.reverse_suffix, List.reverse_reverse]
      exact hsuffix
  next hdrop =>
    split at h
    · contradiction
    · exact Or.inl (Option.some.inj h).symm

/-- What is along a parent is above the path.  Nothing is along the empty path or the root. -/
theorem IsAlong.isAbove (h : front.IsAlong parent) (hparent : path.parent? = some parent) :
    front.IsAbove path := by
  have hdepth : front.depth ≤ parent.depth := depth_le_of_isPrefix h.1
  have hpositive : 0 < parent.depth := Nat.lt_of_lt_of_le h.2 hdepth
  have hprefix : parent.segments <+: path.segments := by
    rcases eq_or_isPrefix_of_parent? hparent with rfl | rfl | hprefix
    · rw [depth_empty] at hpositive
      contradiction
    · rw [depth_root] at hpositive
      contradiction
    · exact hprefix
  refine ⟨⟨h.1.trans hprefix, h.2⟩, ?_⟩
  calc
    front.depth ≤ parent.depth := hdepth
    _ < path.depth := depth_lt_of_parent? hparent

end Path

/-! ## Trees and their changes -/

/-- What can be seen of files.  Places tell files and directories apart; several paths can lead to one
place, and a path can lead to a place where there is nothing yet. -/
structure FileTree (Place : Type) where
  find? : Place → Option Entry
  locate? : Path → Option Place

namespace FileTree

variable {Place : Type} {fronts : Path → Prop} {a b c : FileTree Place}

/-- The path leads to a file with the content. -/
def Holds (tree : FileTree Place) (path : Path) (content : Content) : Prop :=
  ∃ place, tree.locate? path = some place ∧ tree.find? place = some (.file content)

/-- A path that led somewhere leads to the same place still. -/
def KeepsPaths (before after : FileTree Place) : Prop :=
  ∀ path place, before.locate? path = some place → after.locate? path = some place

/-- Nothing has changed at a place, or a directory is new there that one of the paths names. -/
def SameOrMade (fronts : Path → Prop) (before after : FileTree Place) (place : Place) : Prop :=
  after.find? place = before.find? place ∨
    before.find? place = none ∧ after.find? place = some .directory ∧
      ∃ front, fronts front ∧ after.locate? front = some place

/-- Nothing has changed but new directories, each named by one of the paths. -/
structure AddsDirectories (fronts : Path → Prop) (before after : FileTree Place) : Prop where
  paths : before.KeepsPaths after
  entry : ∀ place, SameOrMade fronts before after place

/-- A file has been written where a path leads, directories that some paths name may have been made,
and nothing else has changed. -/
structure WritesFile (fronts : Path → Prop) (path : Path) (content : Content)
    (before after : FileTree Place) : Prop where
  paths : before.KeepsPaths after
  file : ∃ place, after.locate? path = some place ∧ after.find? place = some (.file content) ∧
    before.find? place ≠ some .directory ∧
    ∀ other, other ≠ place → SameOrMade fronts before after other

theorem KeepsPaths.trans (hab : a.KeepsPaths b) (hbc : b.KeepsPaths c) : a.KeepsPaths c :=
  fun path place hplace => hbc path place (hab path place hplace)

section Places

variable {place : Place} {content : Content}

theorem SameOrMade.eq_directory (h : SameOrMade fronts a b place)
    (hdirectory : a.find? place = some .directory) : b.find? place = some .directory := by
  rcases h with hsame | ⟨-, hmade, -⟩
  · rw [hsame, hdirectory]
  · exact hmade

theorem SameOrMade.find?_eq_file_iff (h : SameOrMade fronts a b place) :
    b.find? place = some (.file content) ↔ a.find? place = some (.file content) := by
  rcases h with hsame | ⟨hnone, hmade, -⟩
  · rw [hsame]
  · simp [hnone, hmade]

/-- A place at which a later change does nothing is as it was after the change before. -/
theorem SameOrMade.trans_paths (h : SameOrMade fronts a b place) (hpaths : b.KeepsPaths c)
    (hsame : c.find? place = b.find? place) : SameOrMade fronts a c place := by
  rcases h with hfirst | ⟨hnone, hmade, front, hfront, hlocate⟩
  · exact Or.inl (hsame.trans hfirst)
  · exact Or.inr ⟨hnone, hsame.trans hmade, front, hfront, hpaths _ _ hlocate⟩

end Places

/-! ## Directories that are added -/

theorem AddsDirectories.refl (fronts : Path → Prop) (tree : FileTree Place) :
    AddsDirectories fronts tree tree :=
  ⟨fun _ _ hplace => hplace, fun _ => Or.inl rfl⟩

theorem AddsDirectories.mono {others : Path → Prop} (h : AddsDirectories fronts a b)
    (hfronts : ∀ front, fronts front → others front) : AddsDirectories others a b := by
  refine ⟨h.paths, fun place => ?_⟩
  rcases h.entry place with hsame | ⟨hnone, hmade, front, hfront, hlocate⟩
  · exact Or.inl hsame
  · exact Or.inr ⟨hnone, hmade, front, hfronts front hfront, hlocate⟩

theorem AddsDirectories.trans (hab : AddsDirectories fronts a b)
    (hbc : AddsDirectories fronts b c) : AddsDirectories fronts a c := by
  refine ⟨hab.paths.trans hbc.paths, fun place => ?_⟩
  rcases hbc.entry place with hsame | ⟨hnone, hmade, hfront⟩
  · exact (hab.entry place).trans_paths hbc.paths hsame
  · rcases hab.entry place with hfirst | ⟨-, hdirectory, -⟩
    · exact Or.inr ⟨hfirst ▸ hnone, hmade, hfront⟩
    · rw [hdirectory] at hnone
      contradiction

/-- No file is other than it was, and none is new. -/
theorem AddsDirectories.find?_eq_file_iff (h : AddsDirectories fronts a b) (place : Place)
    (content : Content) :
    b.find? place = some (.file content) ↔ a.find? place = some (.file content) :=
  (h.entry place).find?_eq_file_iff

/-! ## Files that are written -/

section Files

variable {path : Path} {content : Content}

/-- A write that makes no directories, after some were made for it. -/
theorem AddsDirectories.writesFile (hab : AddsDirectories fronts a b)
    (hbc : WritesFile (fun _ => False) path content b c) : WritesFile fronts path content a c := by
  obtain ⟨place, hplace, hcontent, hnot, hothers⟩ := hbc.file
  refine ⟨hab.paths.trans hbc.paths, place, hplace, hcontent, ?_, fun other hother => ?_⟩
  · intro hdirectory
    exact hnot ((hab.entry place).eq_directory hdirectory)
  · rcases hothers other hother with hsame | ⟨-, -, front, hfront, -⟩
    · exact (hab.entry other).trans_paths hbc.paths hsame
    · exact hfront.elim

theorem WritesFile.holds (h : WritesFile fronts path content a b) : b.Holds path content := by
  obtain ⟨place, hplace, hcontent, -⟩ := h.file
  exact ⟨place, hplace, hcontent⟩

/-- To write a file with the content that it has leaves all files as they are. -/
theorem WritesFile.find?_eq_file_iff (h : WritesFile fronts path content a b)
    (hholds : a.Holds path content) (place : Place) (other : Content) :
    b.find? place = some (.file other) ↔ a.find? place = some (.file other) := by
  obtain ⟨written, hwritten, hafter, -, hothers⟩ := h.file
  obtain ⟨found, hfound, hbefore⟩ := hholds
  -- The path led somewhere, and it leads there still.
  have hsame : found = written := Option.some.inj ((h.paths path found hfound).symm.trans hwritten)
  by_cases hplace : place = written
  · rw [hplace, hafter, ← hsame, hbefore]
  · exact (hothers place hplace).find?_eq_file_iff

end Files

end FileTree

end TokenTables.Files
