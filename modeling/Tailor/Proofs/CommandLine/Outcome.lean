import Tailor.CommandLine.Program
import Tailor.Proofs.Outcome

/-! # Outcomes of requests

What a step of carrying out a request comes to, and the state that it leaves. Most
steps look at the files and write notes and do nothing else
(`Tailor.CommandLine.Notes`).
-/

namespace Tailor.CommandLine

variable {τ α β : Type}

/-- The outcome of a step from a state, and the state it leaves. -/
def from_ (state : State τ) (action : ProgramM τ α) : Except Abort α × State τ :=
  action.run.run state

theorem from_bind_of_ok {state after : State τ} {action : ProgramM τ α} {value : α}
    (succeeded : from_ state action = (.ok value, after)) (next : α → ProgramM τ β) :
    from_ state (action >>= next) = from_ after (next value) := by
  unfold from_ at *
  rw [outcome_bind, succeeded]

theorem from_bind_of_error {state after : State τ} {action : ProgramM τ α} {abort : Abort}
    (aborted : from_ state action = (.error abort, after)) (next : α → ProgramM τ β) :
    from_ state (action >>= next) = (.error abort, after) := by
  unfold from_ at *
  rw [outcome_bind, aborted]

/-- Nothing but notes is added between two states. -/
structure State.Noted (state after : State τ) : Prop where
  world : after.session.world = state.session.world
  cache : after.session.cache = state.session.cache
  files : after.files = state.files

theorem State.Noted.refl (state : State τ) : state.Noted state := ⟨rfl, rfl, rfl⟩

theorem State.Noted.trans {state between after : State τ} (first : state.Noted between)
    (second : between.Noted after) : state.Noted after :=
  ⟨second.world.trans first.world, second.cache.trans first.cache,
    second.files.trans first.files⟩

/-- The step has an outcome and does nothing but write notes. -/
def Notes (state : State τ) (action : ProgramM τ α) (outcome : Except Abort α) : Prop :=
  ∃ after, from_ state action = (outcome, after) ∧ state.Noted after

namespace Notes

variable {state : State τ} {action : ProgramM τ α}

theorem pure (state : State τ) (value : α) : Notes state (Pure.pure value) (.ok value) :=
  ⟨state, rfl, .refl state⟩

theorem throw (state : State τ) (abort : Abort) :
    Notes state (MonadExcept.throw abort : ProgramM τ α) (.error abort) :=
  ⟨state, rfl, .refl state⟩

theorem bind {value : α} {next : α → ProgramM τ β} {outcome : Except Abort β}
    (first : Notes state action (.ok value))
    (second : ∀ after, state.Noted after → Notes after (next value) outcome) :
    Notes state (action >>= next) outcome := by
  obtain ⟨between, begun, noted⟩ := first
  obtain ⟨after, ended, later⟩ := second between noted
  exact ⟨after, (from_bind_of_ok begun next).trans ended, noted.trans later⟩

theorem bind_error {abort : Abort} (next : α → ProgramM τ β)
    (first : Notes state action (.error abort)) : Notes state (action >>= next) (.error abort) := by
  obtain ⟨after, aborted, noted⟩ := first
  exact ⟨after, from_bind_of_error aborted next, noted⟩

theorem fst {outcome : Except Abort α} (notes : Notes state action outcome) :
    (from_ state action).1 = outcome := by
  obtain ⟨after, ended, _⟩ := notes
  rw [ended]

theorem get_bind {next : State τ → ProgramM τ β} {outcome : Except Abort β}
    (second : Notes state (next state) outcome) : Notes state (get >>= next) outcome :=
  second

theorem tryCatch_ok {value : α} (handle : Abort → ProgramM τ α)
    (first : Notes state action (.ok value)) :
    Notes state (tryCatch action handle) (.ok value) := by
  obtain ⟨after, succeeded, noted⟩ := first
  refine ⟨after, ?_, noted⟩
  unfold from_ at *
  rw [outcome_tryCatch, succeeded]

theorem tryCatch_error {abort : Abort} {handle : Abort → ProgramM τ α} {outcome : Except Abort α}
    (first : Notes state action (.error abort))
    (second : ∀ after, state.Noted after → Notes after (handle abort) outcome) :
    Notes state (tryCatch action handle) outcome := by
  obtain ⟨between, aborted, noted⟩ := first
  obtain ⟨after, ended, later⟩ := second between noted
  refine ⟨after, ?_, noted.trans later⟩
  unfold from_ at *
  rw [outcome_tryCatch, aborted]
  exact ended

end Notes

theorem note_notes (state : State τ) (level : Level) (activity : Activity) (message : Text) :
    Notes state (note level activity message) (.ok ()) :=
  ⟨_, rfl, rfl, rfl, rfl⟩

/-- Several notes are notes. -/
theorem forIn_notes {ι : Type} (state : State τ) (items : List ι) (write : ι → ProgramM τ Unit)
    (notes : ∀ item state, Notes state (write item) (.ok ())) :
    Notes state (forIn items PUnit.unit fun item _ => do
      write item
      pure (ForInStep.yield PUnit.unit)) (.ok ()) := by
  induction items generalizing state with
  | nil => exact .pure state _
  | cons item items ih =>
      rw [List.forIn_cons, bind_assoc]
      exact (notes item state).bind fun after _ => ih after

section Look

variable {state : State τ} {question : Files → Except FileFault α}

theorem inspect_notes {value : α} (answered : question state.files = .ok value) :
    Notes state (inspect question) (.ok value) := by
  refine .get_bind ?_
  rw [answered]
  exact .pure state value

theorem inspect_aborts {fault : FileFault} (failed : question state.files = .error fault) :
    Notes state (inspect question) (.error (.crash (.files fault))) := by
  refine .get_bind ?_
  rw [failed]
  exact .throw state _

variable {around : Around τ} {path : Path}

theorem loadConfig_notes {config : Config}
    (loads : Config.load around.yaml around.lookup around.homes state.files path = .ok config) :
    Notes state (loadConfig around path) (.ok (.ok config)) := by
  refine .get_bind ?_
  rw [loads]
  exact (forIn_notes state config.notes _ fun _ state => note_notes state _ _ _).bind
    fun after _ => .pure after _

theorem loadConfig_invalid {problems : List Config.Problem}
    (invalid : Config.load around.yaml around.lookup around.homes state.files path =
      .error (.invalid problems)) :
    Notes state (loadConfig around path) (.ok (.error problems)) := by
  refine .get_bind ?_
  rw [invalid]
  exact .pure state _

theorem loadConfig_aborts {breakdown : Config.Breakdown}
    (breaks : Config.load around.yaml around.lookup around.homes state.files path =
      .error (.breakdown breakdown)) :
    Notes state (loadConfig around path) (.error (.breakdown breakdown)) := by
  refine .get_bind ?_
  rw [breaks]
  exact .throw state _

end Look

end Tailor.CommandLine
