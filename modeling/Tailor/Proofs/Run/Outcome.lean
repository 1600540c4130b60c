import Tailor.Proofs.Outcome
import Tailor.Run.Basic

/-! # Outcomes of runs

What a part of a run comes to from a state, and the state that it leaves. A
document that fails is an outcome like any other; only a crash ends a bind
(`Tailor.Run.from_bind`).
-/

namespace Tailor

variable {σ α β : Type}

/-- The world beside files that its commands and its answers have nothing to do with. -/
def World.apart (world : World σ) : World (σ × Files) where
  lookup := world.lookup
  run command := fun (state, files) =>
    let (output, left) := world.run command state
    (output, (left, files))
  ask query := fun (state, files) =>
    let (answer, left) := world.ask query state
    (answer, (left, files))

namespace Run

/-- The state with a note more in its trace. -/
def State.noting (state : State σ) (written : Note) : State σ :=
  { state with session :=
      { state.session with trace := state.session.trace ++ [.noted written] } }

/-- The outcome of a part of a run that starts in a state, and the state it leaves. -/
def from_ (state : State σ) (action : Act σ α) : Except Crash α × State σ :=
  action.run.run state

@[simp] theorem from_pure (state : State σ) (value : α) :
    from_ state (pure value) = (.ok value, state) := rfl

@[simp] theorem from_throw (state : State σ) (crash : Crash) :
    from_ state (throw crash : Act σ α) = (.error crash, state) := rfl

@[simp] theorem from_note (state : State σ) (level : Level) (activity : Activity)
    (message : Text) :
    from_ state (note level activity message) =
      (.ok (), state.noting ⟨level, activity, message⟩) := rfl

@[simp] theorem from_get (state : State σ) :
    from_ state (get : Act σ (State σ)) = (.ok state, state) := rfl

/-- A bind goes on with the value and the state of its first part; a crash ends
it. -/
theorem from_bind (state : State σ) (action : Act σ α) (next : α → Act σ β) :
    from_ state (action >>= next) =
      match from_ state action with
      | (.ok value, after) => from_ after (next value)
      | (.error crash, after) => (.error crash, after) := by
  unfold from_
  rw [outcome_bind]
  rcases action.run.run state with ⟨_ | value, after⟩ <;> rfl

/-- A bind comes to a value exactly if both of its parts do, one after the other. -/
theorem from_bind_eq_ok {state last : State σ} {action : Act σ α} {next : α → Act σ β}
    {result : β} :
    from_ state (action >>= next) = (.ok result, last) ↔
      ∃ value between, from_ state action = (.ok value, between) ∧
        from_ between (next value) = (.ok result, last) :=
  outcome_bind_eq_ok

/-- Behind a part that does not crash a bind does what its second part does. -/
theorem from_bind_of_ok {state after : State σ} {action : Act σ α} {value : α}
    (succeeded : from_ state action = (.ok value, after)) (next : α → Act σ β) :
    from_ state (action >>= next) = from_ after (next value) := by
  rw [from_bind, succeeded]

/-- Behind a part that crashes nothing is done. -/
theorem from_bind_of_error {state after : State σ} {action : Act σ α} {crash : Crash}
    (crashed : from_ state action = (.error crash, after)) (next : α → Act σ β) :
    from_ state (action >>= next) = (.error crash, after) := by
  rw [from_bind, crashed]

/-- An attempt cannot crash: its outcome is that of the action. -/
theorem from_attempt (state : State σ) (action : Tailor.Act (σ × Files) α) :
    from_ state (attempt action) =
      (.ok (Tailor.Act.from_ state.inside action).1,
        .ofInside (Tailor.Act.from_ state.inside action).2) := rfl

/-- An attempt on files cannot crash either. -/
theorem from_attemptFiles (state : State σ) (action : FileAct α) :
    from_ state (attemptFiles action) =
      (.ok (Files.perform state.files action).1,
        { state with files := (Files.perform state.files action).2 }) := rfl

end Run

end Tailor
