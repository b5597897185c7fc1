import TokenTables.Proofs.Command.Lawful
/-!
# What a run changes

On a lawful host, a run without an artifact changes nothing, nor does one that checks or prints change
a file.  A run that writes makes directories above its output file, and in the end writes that file
with the artifact: when it fails, no file is other than it was.
-/

namespace TokenTables.Command

open Files

section Frame

variable {σ Place : Type} [Host (StateM σ)] {view : View σ Place} {config : Config} {state : σ}

/-! ## Runs that write nothing -/

theorem see_artifactOf (h : Host.Lawful view) (config : Config) :
    Step.Keeps view.see (artifactOf config : Step σ String) :=
  Step.keeps_artifactOf h.report h.readText config

theorem files_artifactOf (h : Host.Lawful view) (config : Config) (state : σ) :
    view.files (Step.on (artifactOf config) state).2 = view.files state :=
  (View.see_eq_iff.1 (see_artifactOf h config state)).1

theorem on_run_of_no_artifact (h : Host.Lawful view) {failure : Failure}
    (hartifact : config.artifactIn state = .error failure) :
    (Step.on (run config) state).1 = .error failure ∧
      view.files (Step.on (run config) state).2 = view.files state ∧
      view.printed (Step.on (run config) state).2 = view.printed state := by
  rw [on_run_of_error hartifact]
  exact ⟨rfl, View.see_eq_iff.1 (see_artifactOf h config state)⟩

/-- To check or to print leaves the files as they are. -/
theorem files_on_run_of_no_write (h : Host.Lawful view)
    (hmode : config.check = true ∨ config.stdout = true) :
    view.files (Step.on (run config) state).2 = view.files state := by
  cases hartifact : config.artifactIn state with
  | error failure => exact (on_run_of_no_artifact h hartifact).2.1
  | ok artifact =>
      rw [on_run_of_ok hartifact]
      by_cases hstdout : config.stdout = true
      · rw [deliver_of_print hstdout, Step.on_attempt]
        exact (h.print artifact _).trans (files_artifactOf h config state)
      · have hcheck : config.check = true := hmode.resolve_right hstdout
        rw [Bool.not_eq_true] at hstdout
        rw [deliver_of_check hcheck hstdout]
        have hcompare := Step.keeps_compare h.report h.readText config artifact
        exact (View.see_eq_iff.1 (hcompare _)).1.trans (files_artifactOf h config state)

/-! ## Runs that write -/

/-- What writing an artifact comes to: it fails, and there are new directories above the output file
at most, or it ends well with the artifact in that file. -/
def EndsWriting (view : View σ Place) (config : Config) (artifact : String) (state : σ)
    (result : Except Failure Unit × σ) : Prop :=
  (∃ failure, result.1 = .error failure ∧
    (view.files state).AddsDirectories (·.IsAbove config.outputFile) (view.files result.2)) ∨
  result.1 = .ok () ∧ (view.files state).WritesFile (·.IsAbove config.outputFile)
    config.outputFile (.text artifact) (view.files result.2)

/-- With the directories made or none needed, the file is written or the write is refused. -/
theorem endsWriting_writeFile (h : Host.Lawful view) {made : σ} (artifact : String)
    (hmade : (view.files state).AddsDirectories (·.IsAbove config.outputFile) (view.files made)) :
    EndsWriting view config artifact state (Step.on (writeFile config artifact) made) := by
  have hok := h.writeText_ok config.outputFile artifact made
  have herror := h.writeText_error config.outputFile artifact made
  unfold EndsWriting writeFile
  rw [Step.on_bind, Step.on_attempt]
  cases hwrite : ((Host.writeText config.outputFile artifact : StateM σ _).run made).1 with
  | error reason =>
      refine Or.inl ⟨_, rfl, ?_⟩
      rw [← herror reason hwrite] at hmade
      exact hmade
  | ok _ =>
      simp only [Step.mapError_ok, Step.on_report]
      refine Or.inr ⟨trivial, ?_⟩
      rw [(View.see_eq_iff.1 (h.report _ _)).1]
      exact hmade.writesFile (hok hwrite)

theorem endsWriting_write (h : Host.Lawful view) (config : Config) (artifact : String)
    (state : σ) :
    EndsWriting view config artifact state (Step.on (write config artifact) state) := by
  rw [write_eq]
  cases hparent : config.outputFile.parent? with
  | none => exact endsWriting_writeFile h artifact (.refl _ _)
  | some parent =>
      have hmade : (view.files state).AddsDirectories (·.IsAbove config.outputFile)
          (view.files ((Host.createDirectories parent : StateM σ _).run state).2) :=
        (h.createDirectories parent state).mono fun front hfront => hfront.isAbove hparent
      simp only [Step.on_bind, Step.on_attempt]
      cases ((Host.createDirectories parent : StateM σ _).run state).1 with
      | error reason => exact Or.inl ⟨_, rfl, hmade⟩
      | ok _ => exact endsWriting_writeFile h artifact hmade

theorem endsWriting_run (h : Host.Lawful view) (hcheck : config.check = false)
    (hstdout : config.stdout = false) {artifact : String}
    (hartifact : config.artifactIn state = .ok artifact) :
    EndsWriting view config artifact state (Step.on (run config) state) := by
  have hwrite := endsWriting_write h config artifact (Step.on (artifactOf config) state).2
  unfold EndsWriting at hwrite ⊢
  rw [files_artifactOf h config state] at hwrite
  rwa [on_run_of_ok hartifact, deliver_of_write hcheck hstdout]

/-- A run that writes and fails has made directories at most. -/
theorem addsDirectories_of_on_run_error (h : Host.Lawful view) (hcheck : config.check = false)
    (hstdout : config.stdout = false) {failure : Failure}
    (hfailure : (Step.on (run config) state).1 = .error failure) :
    (view.files state).AddsDirectories (·.IsAbove config.outputFile)
      (view.files (Step.on (run config) state).2) := by
  cases hartifact : config.artifactIn state with
  | error reason =>
      rw [(on_run_of_no_artifact h hartifact).2.1]
      exact .refl _ _
  | ok artifact =>
      rcases endsWriting_run h hcheck hstdout hartifact with ⟨-, -, hadds⟩ | ⟨hok, -⟩
      · exact hadds
      · rw [hfailure] at hok
        contradiction

/-- A run that writes and ends well has written the artifact. -/
theorem exists_writesFile_of_on_run_ok (h : Host.Lawful view) (hcheck : config.check = false)
    (hstdout : config.stdout = false) (hok : (Step.on (run config) state).1 = .ok ()) :
    ∃ artifact, config.artifactIn state = .ok artifact ∧
      (view.files state).WritesFile (·.IsAbove config.outputFile) config.outputFile (.text artifact)
        (view.files (Step.on (run config) state).2) := by
  cases hartifact : config.artifactIn state with
  | error reason =>
      rw [(on_run_of_no_artifact h hartifact).1] at hok
      contradiction
  | ok artifact =>
      rcases endsWriting_run h hcheck hstdout hartifact with ⟨failure, hfailure, -⟩ | ⟨-, hwrites⟩
      · rw [hok] at hfailure
        contradiction
      · exact ⟨artifact, rfl, hwrites⟩

end Frame

/-- What a run changes, on whatever lawful host.  Without an artifact, since the grammar cannot be read
or has none, it fails and changes nothing, and it changes no files in order to check or to print.
Where it is to write and fails, nothing has changed but new directories named by paths above the
output file; where it ends well, the output file holds the artifact, and the rest is as if it had
failed. -/
theorem on_run_changes {σ Place : Type} [Host (StateM σ)] {view : View σ Place}
    (h : Host.Lawful view) (config : Config) (state : σ) :
    (∀ failure, config.artifactIn state = .error failure →
      (Step.on (run config) state).1 = .error failure ∧
        view.files (Step.on (run config) state).2 = view.files state ∧
        view.printed (Step.on (run config) state).2 = view.printed state) ∧
    (config.check = true ∨ config.stdout = true →
      view.files (Step.on (run config) state).2 = view.files state) ∧
    (config.check = false → config.stdout = false →
      ∀ failure, (Step.on (run config) state).1 = .error failure →
        (view.files state).AddsDirectories (·.IsAbove config.outputFile)
          (view.files (Step.on (run config) state).2)) ∧
    (config.check = false → config.stdout = false → (Step.on (run config) state).1 = .ok () →
      ∃ artifact, config.artifactIn state = .ok artifact ∧
        (view.files state).WritesFile (·.IsAbove config.outputFile) config.outputFile (.text artifact)
          (view.files (Step.on (run config) state).2)) := by
  refine ⟨fun _ => on_run_of_no_artifact h, files_on_run_of_no_write h, ?_, ?_⟩
  · intro hcheck hstdout failure hfailure
    exact addsDirectories_of_on_run_error h hcheck hstdout hfailure
  · intro hcheck hstdout hok
    exact exists_writesFile_of_on_run_ok h hcheck hstdout hok

/-- A disk with one grammar and nothing else. -/
def smallMachine : Machine where
  disk := ⟨[(["nova.g4"], .file (.text "LET : 'let' ;"))], []⟩

/-- The same with an older artifact, under a system that refuses one operation. -/
def guardedMachine (refused : Access) (reason : String) : Guarded Machine where
  inner.disk := smallMachine.disk.insert ["old.h"] (.file (.text "old"))
  refusal? access := if access = refused then some reason else none

/-- Runs on it: one that may not read its grammar, one that checks, one that may not write over the
older artifact, one that has made a directory when it may not write into it, and one that writes. -/
theorem on_run_changes_guardedMachine :
    let view := Guarded.view Machine.view
    let old : Config := { output := .ofText "old.h" }
    let deep : Config := { output := .ofText "gen/new.h" }
    let unreadable := guardedMachine (.read old.grammarFile) "Permission denied (os error 13)"
    let sealed := guardedMachine (.write old.outputFile) "Permission denied (os error 13)"
    let full := guardedMachine (.write deep.outputFile) "No space left on device (os error 28)"
    Host.Lawful view ∧
      (Step.on (run old) unreadable).1 = .error
        (.readGrammar old.grammarFile (.other "Permission denied (os error 13)")) ∧
      view.files (Step.on (run old) unreadable).2 = view.files unreadable ∧
      view.files (Step.on (run { old with check := true }) sealed).2 = view.files sealed ∧
      (Step.on (run old) sealed).1 = .error
        (.writeOutput old.outputFile (.other "Permission denied (os error 13)")) ∧
      (view.files (Step.on (run old) sealed).2).find? ["old.h"] = some (.file (.text "old")) ∧
      (Step.on (run deep) full).1 = .error
        (.writeOutput deep.outputFile (.other "No space left on device (os error 28)")) ∧
      (view.files full).AddsDirectories (·.IsAbove deep.outputFile)
        (view.files (Step.on (run deep) full).2) ∧
      (Step.on (run deep) sealed).1 = .ok () ∧
      ∃ artifact, deep.artifactIn sealed = .ok artifact ∧
        (view.files sealed).WritesFile (·.IsAbove deep.outputFile) deep.outputFile (.text artifact)
          (view.files (Step.on (run deep) sealed).2) := by
  intro view old deep unreadable sealed full
  have hlawful : Host.Lawful view := Guarded.lawful Machine.lawful
  have hunreadable : old.artifactIn unreadable = .error
      (.readGrammar old.grammarFile (.other "Permission denied (os error 13)")) := by decide +kernel
  have hsealed : (Step.on (run old) sealed).1 = .error
      (.writeOutput old.outputFile (.other "Permission denied (os error 13)")) := by decide +kernel
  have hfull : (Step.on (run deep) full).1 = .error
      (.writeOutput deep.outputFile (.other "No space left on device (os error 28)")) := by
    decide +kernel
  have hdeep : (Step.on (run deep) sealed).1 = .ok () := by decide +kernel
  obtain ⟨hfailure, hfiles, -⟩ := (on_run_changes hlawful old unreadable).1 _ hunreadable
  have hkept := (on_run_changes hlawful old sealed).2.2.1 rfl rfl _ hsealed
  refine ⟨hlawful, hfailure, hfiles, (on_run_changes hlawful _ sealed).2.1 (Or.inl rfl), hsealed, ?_,
    hfull, (on_run_changes hlawful deep full).2.2.1 rfl rfl _ hfull, hdeep,
    (on_run_changes hlawful deep sealed).2.2.2 rfl rfl hdeep⟩
  exact (hkept.find?_eq_file_iff ["old.h"] (.text "old")).2 rfl

end TokenTables.Command
