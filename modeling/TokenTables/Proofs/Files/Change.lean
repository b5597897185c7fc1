import TokenTables.Proofs.Files.Follow
import TokenTables.Proofs.Files.Tree
/-!
# What operations change

On a disk, making directories adds directories that the beginnings of a path name, whether all of
them can be made or not, and changes nothing else.  Writing a file changes what is at one location,
and reading the path afterwards gives the text that was written.
-/

namespace TokenTables.Files

namespace Disk

/-- What can be seen of a disk: its places are its locations. -/
def tree (disk : Disk) : FileTree Location where
  find? := disk.find?
  locate? path := (disk.locate path).toOption

theorem tree_locate?_eq_some_iff {disk : Disk} {path : Path} {location : Location} :
    disk.tree.locate? path = some location ↔ disk.locate path = .ok location := by
  change (disk.locate path).toOption = some location ↔ _
  cases disk.locate path <;> simp [Except.toOption]

theorem KeepsDirectories.keepsPaths {a b : Disk} (h : a.KeepsDirectories b) :
    a.tree.KeepsPaths b.tree := by
  intro path location hlocate
  rw [tree_locate?_eq_some_iff] at hlocate ⊢
  exact locate_of_keepsDirectories h hlocate

/-! ## Single operations -/

theorem exists_insert_of_createDirectory {disk after : Disk} {path : Path}
    (h : disk.createDirectory path = .ok after) :
    ∃ location, disk.find? location = none ∧ after = disk.insert location .directory ∧
      after.locate path = .ok location ∧ 0 < path.depth := by
  unfold createDirectory at h
  obtain ⟨place, hplace, hmake⟩ := bind_eq_ok_iff.1 h
  cases place with
  | none => contradiction
  | some place =>
      obtain ⟨location, hstep, hinsert⟩ := bind_eq_ok_iff.1 hmake
      split at hinsert
      · contradiction
      · rename_i hfree
        have hnone : disk.find? location = none := by simpa using hfree
        obtain rfl := Except.ok.inj hinsert
        have hpath := leadsTo_of_locateNew? hplace
        have hnot : disk.find? location ≠ some .directory := by simp [hnone]
        exact ⟨location, hnone, rfl, locate_insert hpath hstep hnot (Or.inl rfl), hpath.depth_pos⟩

theorem exists_insert_of_write {disk after : Disk} {path : Path} {content : Content}
    (h : disk.write path content = .ok after) :
    ∃ location, disk.find? location ≠ some .directory ∧
      after = disk.insert location (.file content) ∧ after.locate path = .ok location := by
  unfold write at h
  obtain ⟨place, hplace, hwrite⟩ := bind_eq_ok_iff.1 h
  cases place with
  | none => contradiction
  | some place =>
      simp only at hwrite
      split at hwrite
      · contradiction
      · rename_i hslash
        obtain ⟨location, hstep, hinsert⟩ := bind_eq_ok_iff.1 hwrite
        split at hinsert
        · contradiction
        · rename_i hfree
          have hnot : disk.find? location ≠ some .directory := by
            intro hdirectory
            simp [hdirectory, Entry.isDirectory] at hfree
          obtain rfl := Except.ok.inj hinsert
          refine ⟨location, hnot, rfl, ?_⟩
          exact locate_insert (leadsTo_of_locateNew? hplace) hstep hnot
            (Or.inr (by simpa using hslash))

theorem addsDirectories_createDirectory {disk after : Disk} {path : Path}
    (h : disk.createDirectory path = .ok after) :
    disk.tree.AddsDirectories (·.IsAlong path) after.tree := by
  obtain ⟨location, hnone, rfl, hlocate, hdepth⟩ := exists_insert_of_createDirectory h
  have hnot : disk.find? location ≠ some .directory := by simp [hnone]
  refine ⟨(keepsDirectories_insert hnot _).keepsPaths, fun other => ?_⟩
  by_cases hother : other = location
  · subst hother
    refine Or.inr ⟨hnone, ?_, path, ⟨List.prefix_refl _, hdepth⟩,
      tree_locate?_eq_some_iff.2 hlocate⟩
    exact (find?_insert hnot _ _).trans (if_pos rfl)
  · exact Or.inl ((find?_insert hnot _ _).trans (if_neg hother))

/-- To write a file makes no directories. -/
theorem writesFile_write {disk after : Disk} {path : Path} {content : Content}
    (h : disk.write path content = .ok after) :
    disk.tree.WritesFile (fun _ => False) path content after.tree := by
  obtain ⟨location, hnot, rfl, hlocate⟩ := exists_insert_of_write h
  refine ⟨(keepsDirectories_insert hnot _).keepsPaths, location,
    tree_locate?_eq_some_iff.2 hlocate, ?_, hnot, fun other hother => ?_⟩
  · exact (find?_insert hnot _ _).trans (if_pos rfl)
  · exact Or.inl ((find?_insert hnot _ _).trans (if_neg hother))

/-- To read a text is to find a file with it. -/
theorem readText_eq_ok_iff {disk : Disk} {path : Path} {text : String} :
    disk.readText path = .ok text ↔ disk.tree.Holds path (.text text) := by
  unfold readText
  rw [bind_eq_ok_iff]
  refine exists_congr fun location => and_congr tree_locate?_eq_some_iff.symm ?_
  change _ ↔ disk.find? location = _
  cases disk.find? location with
  | none => simp
  | some entry =>
      cases entry with
      | directory => simp
      | file content => cases content <;> simp

/-! ## Directories along a path -/

/-- What making directories comes to: nothing, the last of them, or those above it and maybe the last
one then. -/
theorem createDirectories_cases (disk : Disk) (path : Path) {after : Disk}
    {outcome : Except FileError Unit} (h : disk.createDirectories path = (outcome, after)) :
    after = disk ∨ disk.createDirectory path = .ok after ∨
      ∃ parent, path.parent? = some parent ∧ (after = (disk.createDirectories parent).2 ∨
        (disk.createDirectories parent).2.createDirectory path = .ok after) := by
  rw [createDirectories] at h
  split at h
  next => exact Or.inl (Prod.mk.inj h).2.symm
  next =>
    split at h
    next made hmade => exact Or.inr (Or.inl ((Prod.mk.inj h).2 ▸ hmade))
    next hmissing =>
      split at h
      next => exact Or.inl (Prod.mk.inj h).2.symm
      next parent hparent =>
        refine Or.inr (Or.inr ⟨parent, hparent, ?_⟩)
        split at h
        next reason made habove =>
          rw [habove]
          exact Or.inl (Prod.mk.inj h).2.symm
        next made habove =>
          rw [habove]
          split at h
          next all hall => exact Or.inr ((Prod.mk.inj h).2 ▸ hall)
          next => exact Or.inl (Prod.mk.inj h).2.symm
    next => exact Or.inl (Prod.mk.inj h).2.symm

theorem addsDirectories_createDirectories (disk : Disk) (path : Path) :
    disk.tree.AddsDirectories (·.IsAlong path) (disk.createDirectories path).2.tree := by
  rcases createDirectories_cases disk path rfl with hsame | hmade | ⟨parent, hparent, hafter⟩
  · rw [hsame]
    exact .refl _ disk.tree
  · exact addsDirectories_createDirectory hmade
  · have habove : disk.tree.AddsDirectories (·.IsAlong path)
        (disk.createDirectories parent).2.tree := by
      apply (addsDirectories_createDirectories disk parent).mono
      intro front hfront
      exact (hfront.isAbove hparent).1
    rcases hafter with hsame | hmade
    · rw [hsame]
      exact habove
    · exact habove.trans (addsDirectories_createDirectory hmade)
termination_by path.depth
decreasing_by exact Path.depth_lt_of_parent? hparent

end Disk

end TokenTables.Files
