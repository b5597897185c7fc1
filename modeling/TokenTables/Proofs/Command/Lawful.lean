import TokenTables.Proofs.Command.Outcome
/-!
# Lawful hosts

A host is lawful if its operations do no more than they are for: to read changes nothing, to make
directories adds the missing ones along a path, and to write puts a text in the place of a file or is
refused and changes nothing.  When an operation is refused, and why, is left open.
-/

namespace TokenTables.Command

open Files

/-- What is seen of states: the files, and what has been printed. -/
structure View (σ Place : Type) where
  files : σ → FileTree Place
  printed : σ → String

section Laws

variable {σ Place : Type}

/-- Files and print together. -/
def View.see (view : View σ Place) (state : σ) : FileTree Place × String :=
  (view.files state, view.printed state)

theorem View.see_eq_iff {view : View σ Place} {a b : σ} :
    view.see a = view.see b ↔ view.files a = view.files b ∧ view.printed a = view.printed b := by
  rw [see, see, Prod.mk.injEq]

/-- What the operations of a host do to what is seen of its states. -/
structure Host.Lawful [Host (StateM σ)] (view : View σ Place) : Prop where
  readText (path : Path) (state : σ) :
    view.see ((Host.readText path : StateM σ _).run state).2 = view.see state
  report (record : Log.Record) (state : σ) :
    view.see ((Host.report record : StateM σ _).run state).2 = view.see state
  print (text : String) (state : σ) :
    view.files ((Host.print text : StateM σ _).run state).2 = view.files state
  createDirectories (path : Path) (state : σ) :
    (view.files state).AddsDirectories (·.IsAlong path)
      (view.files ((Host.createDirectories path : StateM σ _).run state).2)
  writeText_ok (path : Path) (text : String) (state : σ) :
    ((Host.writeText path text : StateM σ _).run state).1 = .ok () →
      (view.files state).WritesFile (fun _ => False) path (.text text)
        (view.files ((Host.writeText path text : StateM σ _).run state).2)
  writeText_error (path : Path) (text : String) (state : σ) (reason : FileError) :
    ((Host.writeText path text : StateM σ _).run state).1 = .error reason →
      view.files ((Host.writeText path text : StateM σ _).run state).2 = view.files state

end Laws

/-! ## The machine -/

namespace Machine

def view : View Machine Location where
  files machine := machine.disk.tree
  printed := printed

theorem disk_print (machine : Machine) (text : String) :
    (machine.print text).2.disk = machine.disk := by
  simp only [print]
  cases machine.capacity with
  | none => rfl
  | some bytes =>
      simp only [Option.map_some]
      split <;> rfl

theorem lawful : Host.Lawful view where
  readText _ _ := rfl
  report _ _ := rfl
  print text machine := congrArg Disk.tree (machine.disk_print text)
  createDirectories path machine := machine.disk.addsDirectories_createDirectories path
  writeText_ok path text machine h := by
    change (machine.writeText path text).1 = _ at h
    change machine.disk.tree.WritesFile _ _ _ (machine.writeText path text).2.disk.tree
    unfold writeText at h ⊢
    cases hwrite : machine.disk.write path (.text text) with
    | error reason => simp [hwrite] at h
    | ok disk => exact Disk.writesFile_write hwrite
  writeText_error path text machine reason h := by
    change (machine.writeText path text).1 = _ at h
    change (machine.writeText path text).2.disk.tree = _
    unfold writeText at h ⊢
    cases hwrite : machine.disk.write path (.text text) with
    | error other => rfl
    | ok disk => simp [hwrite] at h

end Machine

/-! ## Hosts that refuse -/

/-- An operation on files that can be refused. -/
inductive Access
  | read (path : Path)
  | make (path : Path)
  | write (path : Path)
deriving DecidableEq, Repr

/-- A state under a system that refuses some of the operations, each for a reason in its words. -/
structure Guarded (σ : Type) where
  inner : σ
  refusal? : Access → Option String

namespace Guarded

variable {σ Place α : Type}

/-- An operation of the state within. -/
def within (action : StateM σ α) : StateM (Guarded σ) α := fun guarded =>
  ((action.run guarded.inner).1, { guarded with inner := (action.run guarded.inner).2 })

/-- An operation that is tried unless it is refused. -/
def tried (access : Access) (action : StateM σ (Except FileError α)) :
    StateM (Guarded σ) (Except FileError α) := fun guarded =>
  match guarded.refusal? access with
  | some reason => (.error (.other reason), guarded)
  | none => (within action).run guarded

instance [Host (StateM σ)] : Host (StateM (Guarded σ)) where
  readText path := tried (.read path) (Host.readText path)
  createDirectories path := tried (.make path) (Host.createDirectories path)
  writeText path text := tried (.write path) (Host.writeText path text)
  print text := within (Host.print text)
  report record := within (Host.report record)

/-- What is seen is what is seen of the state within. -/
def view (view : View σ Place) : View (Guarded σ) Place where
  files guarded := view.files guarded.inner
  printed guarded := view.printed guarded.inner

/-- What holds of a refusal, and of the operation done on the state within, holds of trying it. -/
theorem run_tried {motive : Except FileError α × Guarded σ → Prop} {access : Access}
    {action : StateM σ (Except FileError α)} {guarded : Guarded σ}
    (hrefused : ∀ reason, motive (.error (.other reason), guarded))
    (hdone : motive
      ((action.run guarded.inner).1, { guarded with inner := (action.run guarded.inner).2 })) :
    motive ((tried access action).run guarded) := by
  change motive (tried access action guarded)
  unfold tried
  cases guarded.refusal? access with
  | some reason => exact hrefused reason
  | none => exact hdone

/-- To refuse operations is no change of what they do. -/
theorem lawful [Host (StateM σ)] {inner : View σ Place} (h : Host.Lawful inner) :
    Host.Lawful (view inner) where
  readText path guarded :=
    run_tried (motive := fun result => (view inner).see result.2 = (view inner).see guarded)
      (fun _ => rfl) (h.readText path guarded.inner)
  report record guarded := h.report record guarded.inner
  print text guarded := h.print text guarded.inner
  createDirectories path guarded :=
    run_tried (motive := fun result => ((view inner).files guarded).AddsDirectories
        (·.IsAlong path) ((view inner).files result.2))
      (fun _ => .refl _ _) (h.createDirectories path guarded.inner)
  writeText_ok path text guarded :=
    run_tried (motive := fun result => result.1 = .ok () → ((view inner).files guarded).WritesFile
        (fun _ => False) path (.text text) ((view inner).files result.2))
      (fun _ => nofun) (h.writeText_ok path text guarded.inner)
  writeText_error path text guarded reason :=
    run_tried (motive := fun result => result.1 = .error reason →
        (view inner).files result.2 = (view inner).files guarded)
      (fun _ _ => rfl) (h.writeText_error path text guarded.inner reason)

end Guarded

end TokenTables.Command
