/-! # Outcomes of effects

An action that may fail and changes a state comes, from a state, to an outcome and
to the state that it leaves; what it did before a failure stays. What a compound
action comes to follows from what its parts come to, and so does what it promises
when it succeeds and admits when it fails (`Tailor.Ensures`).
-/

namespace Tailor

variable {ε σ α β : Type}

/-- A bind goes on with the value and the state of its first part; a failure ends it. -/
theorem outcome_bind (state : σ) (action : ExceptT ε (StateM σ) α)
    (next : α → ExceptT ε (StateM σ) β) :
    (action >>= next).run.run state =
      match action.run.run state with
      | (.ok value, after) => (next value).run.run after
      | (.error failure, after) => (.error failure, after) := by
  unfold ExceptT.run StateT.run
  simp only [bind, ExceptT.bind, ExceptT.mk, StateT.bind, ExceptT.bindCont]
  rcases action state with ⟨outcome, after⟩
  cases outcome with
  | ok value => rfl
  | error failure => rfl

/-- A bind comes to a value exactly if both of its parts do, one after the other. -/
theorem outcome_bind_eq_ok {state last : σ} {action : ExceptT ε (StateM σ) α}
    {next : α → ExceptT ε (StateM σ) β} {result : β} :
    (action >>= next).run.run state = (.ok result, last) ↔
      ∃ value between, action.run.run state = (.ok value, between) ∧
        (next value).run.run between = (.ok result, last) := by
  rw [outcome_bind]
  rcases action.run.run state with ⟨outcome, between⟩
  cases outcome with
  | ok value =>
      constructor
      · intro finished
        exact ⟨value, between, rfl, finished⟩
      · rintro ⟨found, left, same, finished⟩
        cases same
        exact finished
  | error failure =>
      constructor
      · intro finished
        cases finished
      · rintro ⟨_, _, begun, _⟩
        cases begun

/-- A failure is dealt with in the state that it left. -/
theorem outcome_tryCatch (state : σ) (action : ExceptT ε (StateM σ) α)
    (handle : ε → ExceptT ε (StateM σ) α) :
    (tryCatch action handle).run.run state =
      match action.run.run state with
      | (.ok value, after) => (.ok value, after)
      | (.error failure, after) => (handle failure).run.run after := by
  unfold ExceptT.run StateT.run
  simp only [tryCatch, tryCatchThe, MonadExceptOf.tryCatch, ExceptT.tryCatch, ExceptT.mk, bind,
    StateT.bind]
  rcases action state with ⟨outcome, after⟩
  cases outcome with
  | ok value => rfl
  | error failure => rfl

/-- From every state as required an action comes to a value and a state as promised,
or it fails in a way that is admitted. -/
def Ensures (required : σ → Prop) (action : ExceptT ε (StateM σ) α) (promised : α → σ → Prop)
    (admitted : ε → σ → Prop) : Prop :=
  ∀ state, required state →
    match action.run.run state with
    | (.ok value, after) => promised value after
    | (.error failure, after) => admitted failure after

variable {required : σ → Prop} {promised : α → σ → Prop} {admitted : ε → σ → Prop}

theorem ensures_pure {value : α} (holds : ∀ state, required state → promised value state) :
    Ensures required (pure value : ExceptT ε (StateM σ) α) promised admitted :=
  holds

theorem ensures_throw {failure : ε} (holds : ∀ state, required state → admitted failure state) :
    Ensures required (throw failure : ExceptT ε (StateM σ) α) promised admitted :=
  holds

theorem ensures_get :
    Ensures required (get : ExceptT ε (StateM σ) σ)
      (fun found state => found = state ∧ required state) admitted :=
  fun _ holds => ⟨rfl, holds⟩

namespace Ensures

variable {action : ExceptT ε (StateM σ) α}

theorem mono {stronger : σ → Prop} {weaker : α → σ → Prop} {wider : ε → σ → Prop}
    (ensures : Ensures required action promised admitted)
    (before : ∀ state, stronger state → required state)
    (after : ∀ value state, promised value state → weaker value state)
    (failed : ∀ failure state, admitted failure state → wider failure state) :
    Ensures stronger action weaker wider := by
  intro state holds
  have ends := ensures state (before state holds)
  generalize action.run.run state = result at ends ⊢
  rcases result with ⟨failure | value, left⟩
  · exact failed failure left ends
  · exact after value left ends

/-- What the first part promises is what the second one requires. -/
theorem bind {next : α → ExceptT ε (StateM σ) β} {kept : β → σ → Prop}
    (first : Ensures required action promised admitted)
    (second : ∀ value, Ensures (promised value) (next value) kept admitted) :
    Ensures required (action >>= next) kept admitted := by
  intro state holds
  have begun := first state holds
  rw [outcome_bind]
  generalize action.run.run state = result at begun ⊢
  rcases result with ⟨failure | value, between⟩
  · exact begun
  · exact second value between begun

/-- What the action admits is what the handler requires. -/
theorem tryCatch {handle : ε → ExceptT ε (StateM σ) α} {caught : ε → σ → Prop}
    (first : Ensures required action promised caught)
    (second : ∀ failure, Ensures (caught failure) (handle failure) promised admitted) :
    Ensures required (tryCatch action handle) promised admitted := by
  intro state holds
  have begun := first state holds
  rw [outcome_tryCatch]
  generalize action.run.run state = result at begun ⊢
  rcases result with ⟨failure | value, between⟩
  · exact second failure between begun
  · exact begun

end Ensures

end Tailor
