import Mathlib.Data.List.Basic
import Mathlib.Data.List.TakeWhile
import TokenTables.Files.Disk
/-!
# Where paths lead

A path leads from directory to directory, so it leads to the same location on every disk on which
these directories are still there.  A new entry at a location is found where the path to it ends.
-/

namespace TokenTables.Files

theorem bind_eq_ok_iff {ε α β : Type} {result : Except ε α} {next : α → Except ε β} {b : β} :
    result.bind next = .ok b ↔ ∃ a, result = .ok a ∧ next a = .ok b := by
  cases result with
  | error reason => simp [Except.bind]
  | ok a => simp [Except.bind]

namespace Disk

/-- The directories of a disk are there on another one too, and relative paths start from the same
one. -/
structure KeepsDirectories (before after : Disk) : Prop where
  workingDirectory : after.workingDirectory = before.workingDirectory
  directory : ∀ location, before.find? location = some .directory →
    after.find? location = some .directory

theorem not_isPrefixOf_of_find?_ne {disk : Disk} {location : Location}
    (h : disk.find? location ≠ some .directory) :
    ¬ location.isPrefixOf disk.workingDirectory := by
  intro hprefix
  apply h
  rw [find?, if_pos hprefix]

theorem find?_insert {disk : Disk} {location : Location}
    (h : disk.find? location ≠ some .directory) (entry : Entry) (other : Location) :
    (disk.insert location entry).find? other =
      if other = location then some entry else disk.find? other := by
  by_cases hother : other = location
  · rw [if_pos hother, hother]
    exact find?_insert_self entry (not_isPrefixOf_of_find?_ne h)
  · rw [if_neg hother]
    exact find?_insert_of_ne entry hother

theorem keepsDirectories_insert {disk : Disk} {location : Location}
    (h : disk.find? location ≠ some .directory) (entry : Entry) :
    disk.KeepsDirectories (disk.insert location entry) := by
  constructor
  · rfl
  · intro other hother
    have hne : other ≠ location := by
      rintro rfl
      exact h hother
    rw [find?_insert h, if_neg hne, hother]

/-! ## Following segments -/

/-- Where a segment leads from a location, if it leads anywhere. -/
def advance (location : Location) (segment : String) : Location :=
  if Path.isIdle segment then location
  else if segment == ".." then location.dropLast
  else location ++ [segment]

theorem step_eq_ok_iff {disk : Disk} {location next : Location} {segment : String} :
    disk.step location segment = .ok next ↔
      disk.find? location = some .directory ∧ segment.utf8ByteSize ≤ nameCapacity ∧
        next = advance location segment := by
  unfold step enter
  cases disk.find? location with
  | none => simp [Except.bind]
  | some entry =>
      cases entry with
      | file content => simp [Except.bind]
      | directory =>
          by_cases hsize : nameCapacity < segment.utf8ByteSize
          · simp only [Except.bind, hsize, if_true, reduceCtorEq, false_iff, not_and]
            intro _ hle
            omega
          · simp only [Except.bind, hsize, if_false, Except.ok.injEq, true_and]
            rw [and_iff_right (by omega), eq_comm]
            rfl

theorem step_empty {disk : Disk} {location : Location}
    (h : disk.find? location = some .directory) : disk.step location "" = .ok location := by
  rw [step_eq_ok_iff]
  exact ⟨h, by decide, rfl⟩

theorem follow_append (disk : Disk) (location : Location) (front back : List String) :
    disk.follow location (front ++ back) =
      (disk.follow location front).bind fun next => disk.follow next back := by
  induction front generalizing location with
  | nil => rfl
  | cons segment front ih =>
      rw [List.cons_append, follow, follow]
      cases disk.step location segment with
      | error reason => rfl
      | ok next => exact ih next

/-- Slashes after a directory lead nowhere else. -/
theorem follow_empties {disk : Disk} {location : Location} {segments : List String}
    (h : disk.find? location = some .directory) (hempty : ∀ segment ∈ segments, segment = "") :
    disk.follow location segments = .ok location := by
  induction segments with
  | nil => rfl
  | cons segment rest ih =>
      obtain rfl : segment = "" := hempty segment List.mem_cons_self
      rw [follow, step_empty h]
      exact ih fun other hother => hempty other (List.mem_cons_of_mem _ hother)

section Keeps

variable {before after : Disk}

theorem step_of_keepsDirectories (h : before.KeepsDirectories after) {location next : Location}
    {segment : String} (hstep : before.step location segment = .ok next) :
    after.step location segment = .ok next := by
  rw [step_eq_ok_iff] at hstep ⊢
  exact ⟨h.directory location hstep.1, hstep.2⟩

theorem follow_of_keepsDirectories (h : before.KeepsDirectories after) {location next : Location}
    {segments : List String} (hfollow : before.follow location segments = .ok next) :
    after.follow location segments = .ok next := by
  induction segments generalizing location with
  | nil => exact hfollow
  | cons segment rest ih =>
      rw [follow, bind_eq_ok_iff] at hfollow ⊢
      obtain ⟨middle, hstep, hrest⟩ := hfollow
      exact ⟨middle, step_of_keepsDirectories h hstep, ih hrest⟩

theorem route_of_keepsDirectories (h : before.KeepsDirectories after) (path : Path) :
    after.route path = before.route path := by
  unfold route
  rw [h.workingDirectory]

theorem locate_of_keepsDirectories (h : before.KeepsDirectories after) {path : Path}
    {location : Location} (hlocate : before.locate path = .ok location) :
    after.locate path = .ok location := by
  unfold locate at hlocate ⊢
  rw [bind_eq_ok_iff] at hlocate ⊢
  obtain ⟨_, hreadable, hfollow⟩ := hlocate
  rw [route_of_keepsDirectories h]
  exact ⟨(), hreadable, follow_of_keepsDirectories h hfollow⟩

end Keeps

/-! ## New entries -/

/-- A path ends in a name, slashes apart, and what comes before the name leads to a directory. -/
structure LeadsTo (disk : Disk) (path : Path) (directory : Location) (name : String) : Prop where
  readable : readable path = .ok ()
  not_idle : Path.isIdle name = false
  follows : ∃ front slashes, (disk.route path).2 = front ++ name :: slashes ∧
    (∀ segment ∈ slashes, segment = "") ∧ disk.follow (disk.route path).1 front = .ok directory

theorem leadsTo_of_locateNew? {disk : Disk} {path : Path} {directory : Location} {name : String}
    (h : disk.locateNew? path = .ok (some (directory, name))) :
    disk.LeadsTo path directory name := by
  unfold locateNew? at h
  obtain ⟨_, hreadable, hnew⟩ := bind_eq_ok_iff.1 h
  have hcut : (disk.route path).2.reverse = (disk.route path).2.reverse.takeWhile String.isEmpty ++
      (disk.route path).2.reverse.dropWhile String.isEmpty := List.takeWhile_append_dropWhile.symm
  split at hnew
  next => simp at hnew
  next last before hdrop =>
    obtain ⟨found, hfollow, hmap⟩ := bind_eq_ok_iff.1 hnew
    obtain ⟨rfl, rfl, hdots⟩ : found = directory ∧ last = name ∧ last ≠ "." := by
      cases henter : disk.enter found with
      | error reason => simp [henter, Except.map] at hmap
      | ok _ =>
          rw [henter, Except.map] at hmap
          split at hmap
          · simp at hmap
          · rename_i hdots
            simp only [Bool.or_eq_true, beq_iff_eq, not_or] at hdots
            simpa [hdots.1] using hmap
    have hempty : last.isEmpty = false := by
      have hhead := List.head?_dropWhile_not String.isEmpty (disk.route path).2.reverse
      simpa only [hdrop, List.head?_cons] using hhead
    refine ⟨hreadable, by simpa [Path.isIdle, hempty] using hdots, before.reverse,
      ((disk.route path).2.reverse.takeWhile String.isEmpty).reverse, ?_, ?_, hfollow⟩
    · rw [hdrop] at hcut
      calc
        (disk.route path).2 = (disk.route path).2.reverse.reverse := (List.reverse_reverse _).symm
        _ = _ := congrArg List.reverse hcut
        _ = _ := by rw [List.reverse_append, List.reverse_cons, List.append_assoc,
          List.singleton_append]
    · intro segment hsegment
      have hempty := List.mem_takeWhile_imp (List.mem_reverse.1 hsegment)
      simpa using hempty

/-- A name on the way is a segment that leads somewhere. -/
theorem LeadsTo.depth_pos {disk : Disk} {path : Path} {directory : Location} {name : String}
    (h : disk.LeadsTo path directory name) : 0 < path.depth := by
  obtain ⟨front, slashes, hroute, -, -⟩ := h.follows
  have hname : name ∈ (disk.route path).2 := by simp [hroute]
  have hmem : name = path.first ∨ name ∈ path.rest := by
    unfold route at hname
    split at hname
    · exact Or.inr hname
    · exact List.mem_cons.1 hname
  unfold Path.depth
  rcases hmem with rfl | hrest
  · have hidle := h.not_idle
    rw [Path.isIdle, Bool.or_eq_false_iff] at hidle
    simp only [hidle.1, Bool.false_eq_true, if_false]
    omega
  · have hcount : 0 < path.rest.countP (!Path.isIdle ·) :=
      List.countP_pos_iff.2 ⟨name, hrest, by simp [h.not_idle]⟩
    omega

/-- The last segment of a path is the one that its route ends in, unless there is only one. -/
theorem getLast?_route {disk : Disk} {path : Path} (h : path.rest ≠ []) :
    (disk.route path).2.getLast? = path.rest.getLast? := by
  unfold route
  split
  · rfl
  · rw [Path.segments, List.getLast?_cons_of_ne_nil h]

theorem slashes_eq_nil {disk : Disk} {path : Path} (hslash : path.endsInSlash = false)
    {front slashes : List String} {name : String}
    (hroute : (disk.route path).2 = front ++ name :: slashes)
    (hempty : ∀ segment ∈ slashes, segment = "") : slashes = [] := by
  rcases List.eq_nil_or_concat' slashes with rfl | ⟨others, last, rfl⟩
  · rfl
  · obtain rfl : last = "" := hempty last (by simp)
    by_cases hrest : path.rest = []
    · have hlength := congrArg List.length hroute
      have habsolute : path.isAbsolute = false := by simp [Path.isAbsolute, hrest]
      simp [route, habsolute, Path.segments, hrest] at hlength
      omega
    · have hlast : path.rest.getLast? = some "" := by
        rw [← getLast?_route hrest, hroute, ← List.cons_append, ← List.append_assoc,
          List.getLast?_concat]
      simp [Path.endsInSlash, hlast] at hslash

/-- Where an entry is made in a directory, the path to it leads. -/
theorem locate_insert {disk : Disk} {path : Path} {directory location : Location} {name : String}
    (hpath : disk.LeadsTo path directory name) (hstep : disk.step directory name = .ok location)
    (hnew : disk.find? location ≠ some .directory) {entry : Entry}
    (hentry : entry = .directory ∨ path.endsInSlash = false) :
    (disk.insert location entry).locate path = .ok location := by
  have hkeeps := keepsDirectories_insert hnew entry
  obtain ⟨front, slashes, hroute, hempty, hfollow⟩ := hpath.follows
  have hend : (disk.insert location entry).follow location slashes = .ok location := by
    rcases hentry with rfl | hslash
    · apply follow_empties _ hempty
      rw [find?_insert hnew, if_pos rfl]
    · rw [slashes_eq_nil hslash hroute hempty]
      rfl
  have hname : (disk.insert location entry).follow directory (name :: slashes) = .ok location := by
    rw [follow, step_of_keepsDirectories hkeeps hstep]
    exact hend
  unfold locate
  rw [bind_eq_ok_iff]
  refine ⟨(), hpath.readable, ?_⟩
  rw [route_of_keepsDirectories hkeeps, hroute, follow_append, bind_eq_ok_iff]
  exact ⟨directory, follow_of_keepsDirectories hkeeps hfollow, hname⟩

end Disk

end TokenTables.Files
