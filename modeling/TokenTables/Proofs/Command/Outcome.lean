import TokenTables.Command.Machine
import TokenTables.Proofs.Files.Change
/-!
# What a run comes to

On any states, the artifact of a run depends only on what is read of its grammar, and the run goes on
from there to print it, to compare it or to write it.  What none of its operations changes, a run does
not change.
-/

namespace TokenTables.Command

open Files

/-! ## A run by its artifact -/

namespace Config

/-- The artifact that a run makes from what is read of its grammar, or the failure that keeps it from
having one. -/
def artifactFrom (config : Config) : Except FileError String → Except Failure String
  | .error reason => .error (.readGrammar config.grammarFile reason)
  | .ok grammar =>
    (grammarArtifact grammar config.options).mapError (.makeArtifact config.grammarFile)

/-- The artifact that a run makes in a state. -/
def artifactIn {σ : Type} [Host (StateM σ)] (config : Config) (state : σ) : Except Failure String :=
  config.artifactFrom ((Host.readText config.grammarFile : StateM σ _).run state).1

/-- The artifact that a run makes from a disk. -/
def artifactOn (config : Config) (disk : Disk) : Except Failure String :=
  config.artifactFrom (disk.readText config.grammarFile)

end Config

section Runs

variable {σ : Type} [Host (StateM σ)] {config : Config} {state : σ}

theorem on_artifactOf_fst (config : Config) (state : σ) :
    (Step.on (artifactOf config) state).1 = config.artifactIn state := by
  unfold artifactOf Config.artifactIn
  rw [Step.on_bind, Step.on_attempt]
  cases ((Host.readText config.grammarFile : StateM σ _).run state).1 with
  | error reason => rfl
  | ok grammar =>
      rw [Step.mapError_ok]
      simp only [Step.on_bind, Step.on_reportAll, Step.on_attempt, StateT.run_pure, Config.artifactFrom]
      cases grammarArtifact grammar config.options <;> rfl

/-- What a run does with its artifact. -/
def deliver (config : Config) (artifact : String) : Step σ Unit :=
  if config.stdout then attempt (Host.print artifact) .print
  else if config.check then compare config artifact
  else write config artifact

theorem deliver_of_print (hstdout : config.stdout = true) (artifact : String) :
    (deliver config artifact : Step σ Unit) = attempt (Host.print artifact) .print := by
  rw [deliver, if_pos hstdout]

theorem deliver_of_check (hcheck : config.check = true) (hstdout : config.stdout = false)
    (artifact : String) : (deliver config artifact : Step σ Unit) = compare config artifact := by
  rw [deliver, hstdout, hcheck]
  rfl

theorem deliver_of_write (hcheck : config.check = false) (hstdout : config.stdout = false)
    (artifact : String) : (deliver config artifact : Step σ Unit) = write config artifact := by
  rw [deliver, hstdout, hcheck]
  rfl

/-- Without an artifact, a run ends where it has none. -/
theorem on_run_of_error {failure : Failure} (h : config.artifactIn state = .error failure) :
    Step.on (run config) state = (.error failure, (Step.on (artifactOf config) state).2) := by
  rw [← on_artifactOf_fst] at h
  unfold run
  rw [Step.on_bind]
  rcases hartifact : Step.on (artifactOf config) state with ⟨outcome, after⟩
  rw [hartifact] at h
  obtain rfl : outcome = .error failure := h
  rfl

theorem on_run_of_ok {artifact : String} (h : config.artifactIn state = .ok artifact) :
    Step.on (run config) state =
      Step.on (deliver config artifact) (Step.on (artifactOf config) state).2 := by
  rw [← on_artifactOf_fst] at h
  unfold run
  rw [Step.on_bind]
  rcases hartifact : Step.on (artifactOf config) state with ⟨outcome, after⟩
  rw [hartifact] at h
  obtain rfl : outcome = .ok artifact := h
  rfl

end Runs

/-- A comparison ends well exactly if the output file is read as the artifact. -/
theorem on_compare_eq_ok_iff {σ : Type} [Host (StateM σ)] (config : Config) (artifact : String)
    (state : σ) :
    (Step.on (compare config artifact) state).1 = .ok () ↔
      ((Host.readText config.outputFile : StateM σ _).run state).1 = .ok artifact := by
  simp only [compare, Step.on_bind, Step.on_attempt]
  cases ((Host.readText config.outputFile : StateM σ _).run state).1 with
  | error reason => simp [Step.mapError_error]
  | ok written =>
      rw [Step.mapError_ok]
      by_cases heq : written = artifact
      · simp [heq]
      · simp [heq]

/-! ## What is kept -/

namespace Step

variable {σ τ α β ε : Type} {seen : σ → τ}

/-- What is seen of a state is the same after the step, however it ends. -/
def Keeps (seen : σ → τ) (step : Step σ α) : Prop :=
  ∀ state, seen (step.on state).2 = seen state

theorem Keeps.pure (value : α) : Keeps seen (pure value : Step σ α) :=
  fun _ => rfl

theorem Keeps.throw (failure : Failure) : Keeps seen (throw failure : Step σ α) :=
  fun _ => rfl

theorem Keeps.bind {step : Step σ α} {next : α → Step σ β} (hstep : Keeps seen step)
    (hnext : ∀ value, Keeps seen (next value)) : Keeps seen (step >>= next) := by
  intro state
  have hfirst := hstep state
  rw [on_bind]
  rcases hon : step.on state with ⟨outcome, after⟩
  rw [hon] at hfirst
  cases outcome with
  | error failure => exact hfirst
  | ok value => exact (hnext value after).trans hfirst

theorem Keeps.attempt {action : StateM σ (Except ε α)} (failure : ε → Failure)
    (h : ∀ state, seen (action.run state).2 = seen state) :
    Keeps seen (attempt action failure) :=
  h

section Reports

variable [Host (StateM σ)]

/-- A host whose records are not among what is seen. -/
def Unreported (seen : σ → τ) : Prop :=
  ∀ (record : Log.Record) (state : σ),
    seen ((Host.report record : StateM σ Unit).run state).2 = seen state

theorem Keeps.report (h : Unreported seen) (level : Log.Level) (message : String) :
    Keeps seen (Command.report level message : Step σ Unit) :=
  h _

theorem Keeps.reportAll (h : Unreported seen) (records : List Log.Record) :
    Keeps seen (Command.reportAll records : Step σ Unit) := by
  intro state
  rw [on_reportAll]
  induction records generalizing state with
  | nil => rfl
  | cons record rest ih => exact (ih _).trans (h record state)

/-- What no reading changes and no record, making an artifact does not change either. -/
theorem keeps_artifactOf (hreport : Unreported seen)
    (hread : ∀ path state, seen ((Host.readText path : StateM σ _).run state).2 = seen state)
    (config : Config) : Keeps seen (artifactOf config : Step σ String) := by
  unfold artifactOf
  refine (Keeps.attempt _ (hread _)).bind fun grammar => ?_
  refine (Keeps.reportAll hreport _).bind fun _ => ?_
  refine (Keeps.attempt _ fun _ => rfl).bind fun artifact => ?_
  exact (Keeps.report hreport _ _).bind fun _ => Keeps.pure artifact

theorem keeps_compare (hreport : Unreported seen)
    (hread : ∀ path state, seen ((Host.readText path : StateM σ _).run state).2 = seen state)
    (config : Config) (artifact : String) :
    Keeps seen (compare config artifact : Step σ Unit) := by
  unfold compare
  refine (Keeps.attempt _ (hread _)).bind fun written => ?_
  split
  · exact Keeps.report hreport _ _
  · exact Keeps.throw _

end Reports

end Step

/-! ## Writing -/

section Writing

variable {σ : Type} [Host (StateM σ)]

/-- The second part of writing, once the directory is there. -/
def writeFile (config : Config) (artifact : String) : Step σ Unit := do
  attempt (Host.writeText config.outputFile artifact) (.writeOutput config.outputFile)
  report .info
    ("Wrote " ++ config.outputFile.text ++ ", " ++ toString artifact.utf8ByteSize ++ " bytes")

theorem write_eq (config : Config) (artifact : String) :
    (write config artifact : Step σ Unit) =
      match config.outputFile.parent? with
      | none => writeFile config artifact
      | some parent =>
        attempt (Host.createDirectories parent) (.createParent parent) >>= fun _ =>
          writeFile config artifact := by
  simp only [write]
  cases config.outputFile.parent? with
  | none => rfl
  | some parent => rfl

end Writing

end TokenTables.Command
