import TokenTables.Command.Run
/-!
# Runs on states

Where the surroundings of a run are a state that its operations change, the run is a function of
states, and so is each of its parts.
-/

namespace TokenTables.Command

/-- A run, or a part of one, on states of some kind. -/
abbrev Step (σ α : Type) := ExceptT Failure (StateM σ) α

variable {σ α β ε δ : Type}

def Step.on (step : Step σ α) (state : σ) : Except Failure α × σ :=
  step.run.run state

namespace Step

theorem mapError_ok (failure : ε → δ) (value : α) :
    (Except.ok value).mapError failure = .ok value := rfl

theorem mapError_error (failure : ε → δ) (reason : ε) :
    (Except.error reason : Except ε α).mapError failure = .error (failure reason) := rfl

@[simp] theorem on_throw (failure : Failure) (state : σ) :
    Step.on (throw failure : Step σ α) state = (.error failure, state) := rfl

/-- The next step is taken where the first one ended well. -/
theorem on_bind (step : Step σ α) (next : α → Step σ β) (state : σ) :
    Step.on (step >>= next) state =
      match step.on state with
      | (.ok value, after) => (next value).on after
      | (.error failure, after) => (.error failure, after) := by
  simp only [Step.on, ExceptT.run_bind, StateT.run_bind]
  rcases step.run.run state with ⟨outcome, after⟩
  cases outcome <;> rfl

@[simp] theorem on_attempt (action : StateM σ (Except ε α)) (failure : ε → Failure) (state : σ) :
    Step.on (attempt action failure) state =
      ((action.run state).1.mapError failure, (action.run state).2) := rfl

section Reports

variable [Host (StateM σ)]

@[simp] theorem on_report (level : Log.Level) (message : String) (state : σ) :
    Step.on (report level message) state =
      (.ok (), ((Host.report ⟨level, message⟩ : StateM σ Unit).run state).2) := rfl

@[simp] theorem on_reportAll (records : List Log.Record) (state : σ) :
    Step.on (reportAll records) state =
      (.ok (), ((records.forM Host.report : StateM σ Unit).run state).2) := rfl

end Reports

end Step

end TokenTables.Command
