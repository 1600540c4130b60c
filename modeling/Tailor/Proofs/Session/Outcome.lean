import Tailor.Document.Session
import Tailor.Proofs.Outcome

/-! # Outcomes of actions

The outcome of a compound action follows from the outcomes of its parts: a bind
goes on from the session that its first action left (`Tailor.Act.from_bind`),
and a line number only touches failures (`Tailor.Act.from_atLine`). Actions
with the same outcome from every session are equal (`Tailor.Act.ext`), so laws
about programs are proved session by session.
-/

namespace Tailor

/-- A world without variables, in which commands print nothing and the first
option is always taken. -/
def World.obliging : World Unit where
  lookup _ := none
  run _ state := (.ok [], state)
  ask _ state := (.ok (.choice 0), state)

namespace Act

variable {σ α β γ : Type}

/-- Actions are determined by their outcomes. -/
theorem ext {first second : Act σ α}
    (same : ∀ session, from_ session first = from_ session second) : first = second := by
  funext session
  exact same session

@[simp] theorem from_pure (session : Session σ) (value : α) :
    from_ session (pure value) = (.ok value, session) := rfl

@[simp] theorem from_throw (session : Session σ) (fault : Fault) :
    from_ session (throw fault : Act σ α) = (.error fault, session) := rfl

theorem from_get (session : Session σ) :
    from_ session (get : Act σ (Session σ)) = (.ok session, session) := rfl

theorem from_modify (session : Session σ) (change : Session σ → Session σ) :
    from_ session (modify change : Act σ PUnit) = (.ok ⟨⟩, change session) := rfl

/-- A bind goes on with the value and the session of its first action; a
failure ends it. -/
theorem from_bind (session : Session σ) (action : Act σ α) (next : α → Act σ β) :
    from_ session (action >>= next) =
      match from_ session action with
      | (.ok value, after) => from_ after (next value)
      | (.error fault, after) => (.error fault, after) := by
  unfold from_
  rw [outcome_bind]
  rcases action.run.run session with ⟨_ | value, after⟩ <;> rfl

/-- What is made of a value touches no session and no failure. -/
theorem from_map (session : Session σ) (change : α → β) (action : Act σ α) :
    from_ session (change <$> action) =
      match from_ session action with
      | (.ok value, after) => (.ok (change value), after)
      | (.error fault, after) => (.error fault, after) := by
  rw [map_eq_pure_bind, from_bind]
  rfl

/-- A bind succeeds exactly if both of its actions do, one after the other. -/
theorem from_bind_eq_ok {session final : Session σ} {action : Act σ α} {next : α → Act σ β}
    {result : β} :
    from_ session (action >>= next) = (.ok result, final) ↔
      ∃ value after, from_ session action = (.ok value, after) ∧
        from_ after (next value) = (.ok result, final) :=
  outcome_bind_eq_ok

/-- A bind fails as its first action does, or behind it as its second action does. -/
theorem from_bind_eq_error {session final : Session σ} {action : Act σ α} {next : α → Act σ β}
    {fault : Fault} :
    from_ session (action >>= next) = (.error fault, final) ↔
      from_ session action = (.error fault, final) ∨
        ∃ value after, from_ session action = (.ok value, after) ∧
          from_ after (next value) = (.error fault, final) := by
  rw [from_bind]
  rcases from_ session action with ⟨outcome, between⟩
  cases outcome with
  | ok value =>
      constructor
      · intro failed
        exact .inr ⟨value, between, rfl, failed⟩
      · rintro (same | ⟨_, _, same, failed⟩)
        · cases same
        · cases same
          exact failed
  | error found => simp

/-- What is made of the value of an action changes nothing about its failure. -/
theorem from_bind_pure_eq_error {session final : Session σ} {action : Act σ α} {value : α → β}
    {fault : Fault} :
    from_ session (action >>= fun result => pure (value result)) = (.error fault, final) ↔
      from_ session action = (.error fault, final) := by
  rw [from_bind_eq_error]
  constructor
  · rintro (failed | ⟨result, after, _, made⟩)
    · exact failed
    · cases made
  · exact .inl

/-- Behind an action that succeeds a bind does what its second action does. -/
theorem from_bind_of_ok {session after : Session σ} {action : Act σ α} {value : α}
    (succeeded : from_ session action = (.ok value, after)) (next : α → Act σ β) :
    from_ session (action >>= next) = from_ after (next value) := by
  rw [from_bind, succeeded]

/-- Behind an action that fails nothing is done. -/
theorem from_bind_of_error {session after : Session σ} {action : Act σ α} {fault : Fault}
    (failed : from_ session action = (.error fault, after)) (next : α → Act σ β) :
    from_ session (action >>= next) = (.error fault, after) := by
  rw [from_bind, failed]

/-- A line number is put on the failure of an action and on nothing else. -/
theorem from_atLine (session : Session σ) (line : Nat) (action : Act σ α) :
    from_ session (atLine line action) =
      match from_ session action with
      | (.ok value, after) => (.ok value, after)
      | (.error fault, after) => (.error (fault.atLine line), after) := by
  unfold from_ atLine
  rw [outcome_tryCatch]
  rcases action.run.run session with ⟨_ | value, after⟩ <;> rfl

/-- Under a line number an action succeeds as it does without. -/
@[simp] theorem from_atLine_eq_ok {session after : Session σ} {line : Nat} {action : Act σ α}
    {value : α} :
    from_ session (atLine line action) = (.ok value, after) ↔
      from_ session action = (.ok value, after) := by
  rw [from_atLine]
  rcases from_ session action with ⟨outcome, left⟩
  cases outcome with
  | ok found => simp
  | error fault => simp

@[simp] theorem atLine_pure (line : Nat) (value : α) :
    atLine line (pure value : Act σ α) = pure value := rfl

/-- Under a line number an action fails as it does without, up to the number. -/
theorem from_atLine_eq_error {session after : Session σ} {line : Nat} {action : Act σ α}
    {fault : Fault} :
    from_ session (atLine line action) = (.error fault, after) ↔
      ∃ found, from_ session action = (.error found, after) ∧ fault = found.atLine line := by
  rw [from_atLine]
  rcases from_ session action with ⟨outcome, left⟩
  cases outcome with
  | ok value => simp
  | error found =>
      constructor
      · intro failed
        cases failed
        exact ⟨found, rfl, rfl⟩
      · rintro ⟨_, same, rfl⟩
        cases same
        rfl

/-- A line number reaches past what cannot fail. -/
theorem atLine_bind_pure (line : Nat) (action : Act σ α) (value : α → β) :
    atLine line (action >>= fun result => pure (value result)) =
      atLine line action >>= fun result => pure (value result) := by
  apply ext
  intro session
  rw [from_atLine, from_bind, from_bind, from_atLine]
  rcases from_ session action with ⟨outcome, after⟩
  cases outcome with
  | ok result => rfl
  | error fault => rfl

section Ensures

variable {required : Session σ → Prop} {promised : α → Session σ → Prop}
  {admitted : Fault → Session σ → Prop} {action : Act σ α} {session after : Session σ}

/-- An action that succeeds comes to what is promised. -/
theorem promised_of_ensures (ensures : Ensures required action promised admitted)
    (holds : required session) {value : α}
    (succeeded : from_ session action = (.ok value, after)) : promised value after := by
  have ends := ensures session holds
  unfold from_ at succeeded
  rw [succeeded] at ends
  exact ends

/-- An action that fails does so in a way that is admitted. -/
theorem admitted_of_ensures (ensures : Ensures required action promised admitted)
    (holds : required session) {fault : Fault}
    (failed : from_ session action = (.error fault, after)) : admitted fault after := by
  have ends := ensures session holds
  unfold from_ at failed
  rw [failed] at ends
  exact ends

end Ensures

/-- The action succeeds from the session. -/
def Succeeds (session : Session σ) (action : Act σ α) : Prop :=
  ∃ value after, from_ session action = (.ok value, after)

theorem succeeds_pure (session : Session σ) (value : α) :
    Succeeds session (pure value : Act σ α) :=
  ⟨value, session, rfl⟩

theorem Succeeds.atLine {session : Session σ} {action : Act σ α}
    (succeeds : Succeeds session action) (line : Nat) : Succeeds session (atLine line action) := by
  obtain ⟨value, after, succeeded⟩ := succeeds
  exact ⟨value, after, from_atLine_eq_ok.mpr succeeded⟩

/-- What is made of the value of an action does not fail. -/
theorem Succeeds.bind_pure {session : Session σ} {action : Act σ α}
    (succeeds : Succeeds session action) (value : α → β) :
    Succeeds session (action >>= fun result => pure (value result)) := by
  obtain ⟨result, after, succeeded⟩ := succeeds
  exact ⟨value result, after, from_bind_of_ok succeeded _⟩

/-- Adding an event to the trace succeeds. -/
@[simp] theorem from_record (session : Session σ) (event : Event) :
    from_ session (record event) = (.ok (), { session with trace := session.trace ++ [event] }) :=
  rfl

/-- What the world answers is the outcome; only the world's part of the session changes. -/
theorem from_useWorld (session : Session σ) (call : σ → Except Fault α × σ) :
    from_ session (useWorld call) =
      ((call session.world).1, { session with world := (call session.world).2 }) := by
  have called : from_ session (useWorld call) =
      from_ { session with world := (call session.world).2 }
        (useWorld.liftExcept (call session.world).1) := rfl
  rw [called]
  cases (call session.world).1 with
  | ok value => rfl
  | error fault => rfl

end Act

end Tailor
