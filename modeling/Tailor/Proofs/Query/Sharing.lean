import Mathlib
import Tailor.Proofs.Document.Composition
import Tailor.Proofs.Query.AskOnce
import Tailor.Proofs.Session.Alike

/-! # Sharing answers between documents

A world is constant if a command gives the same result and a query the same
answer, or the same fault, whenever they come. Recorded answers are then as good
as fresh ones: where they are those that the world gives, an action has the same
outcome whatever is recorded, and leaves them so behind (`Tailor.Act.Constant`).
This holds of whatever a document does, also of one that fails, so documents that
share their answers come out as each of them would alone, in whatever order they
are processed (`Tailor.processAll_shared`).
-/

namespace Tailor

variable {σ α β : Type}

/-- Commands and queries come to the same whenever they come. -/
structure World.Constant (world : World σ) : Prop where
  commands : world.Steady
  answers : ∀ query here there, (world.ask query here).1 = (world.ask query there).1

/-- The recorded answers are those that the world gives. -/
def Cache.Agrees (world : World σ) (cache : Cache) : Prop :=
  ∀ query answer, cache.get? query = some answer → ∀ state, (world.ask query state).1 = .ok answer

theorem Cache.agrees_empty (world : World σ) : Cache.empty.Agrees world := by
  intro query answer recorded
  cases recorded

theorem Cache.Agrees.add {world : World σ} {cache : Cache} (agrees : cache.Agrees world)
    {query : Query} {answer : Answer} (given : ∀ state, (world.ask query state).1 = .ok answer) :
    (cache.add query answer).Agrees world := by
  intro other found recorded
  rw [Cache.get?_add] at recorded
  cases known : cache.get? other with
  | some earlier =>
      rw [known] at recorded
      cases recorded
      exact agrees other found known
  | none =>
      rw [known] at recorded
      by_cases same : other = query
      · rw [if_pos same] at recorded
        cases recorded
        rw [same]
        exact given
      · rw [if_neg same] at recorded
        cases recorded

namespace Act

/-- As long as the recorded answers are those that the world gives, the outcome
of the action does not depend on the session; and behind it they still are. -/
structure Constant (world : World σ) (action : Act σ α) : Prop where
  outcome : ∀ here there : Session σ, here.cache.Agrees world → there.cache.Agrees world →
    (from_ here action).1 = (from_ there action).1
  agrees : ∀ session : Session σ, session.cache.Agrees world →
    (from_ session action).2.cache.Agrees world

section Constant

variable {world : World σ}

theorem Constant.of_quiet {action : Act σ α} (same : SameOutcome action action)
    (quiet : Relates Session.Quiet action) : Constant world action where
  outcome here there _ _ := same here there
  agrees session agrees := by
    rw [(quiet session).cache]
    exact agrees

theorem constant_pure (value : α) : Constant world (pure value : Act σ α) :=
  .of_quiet (sameOutcome_pure value) (relates_pure value)

theorem constant_throw (fault : Fault) : Constant world (throw fault : Act σ α) :=
  .of_quiet (fun _ _ => rfl) (relates_throw fault)

theorem Constant.bind {action : Act σ α} {next : α → Act σ β} (first : Constant world action)
    (second : ∀ value, Constant world (next value)) : Constant world (action >>= next) where
  outcome here there agrees otherAgrees := by
    have begun := first.outcome here there agrees otherAgrees
    have between := first.agrees here agrees
    have otherBetween := first.agrees there otherAgrees
    rw [from_bind, from_bind]
    generalize from_ here action = result at begun between ⊢
    generalize from_ there action = otherResult at begun otherBetween ⊢
    obtain ⟨outcome, after⟩ := result
    obtain ⟨otherOutcome, otherAfter⟩ := otherResult
    cases begun
    cases outcome with
    | ok value => exact (second value).outcome after otherAfter between otherBetween
    | error fault => rfl
  agrees session agrees := by
    have between := first.agrees session agrees
    rw [from_bind]
    generalize from_ session action = result at between ⊢
    obtain ⟨outcome, after⟩ := result
    cases outcome with
    | ok value => exact (second value).agrees after between
    | error fault => exact between

theorem Constant.atLine {action : Act σ α} (constant : Constant world action) (line : Nat) :
    Constant world (Act.atLine line action) where
  outcome here there agrees otherAgrees := by
    have same := constant.outcome here there agrees otherAgrees
    rw [from_atLine, from_atLine]
    generalize from_ here action = result at same ⊢
    generalize from_ there action = otherResult at same ⊢
    obtain ⟨outcome, after⟩ := result
    obtain ⟨otherOutcome, otherAfter⟩ := otherResult
    cases same
    cases outcome <;> rfl
  agrees session agrees := by
    rw [from_atLine_snd]
    exact constant.agrees session agrees

/-- Where the recorded answers are those that the world gives, resolving a query
comes to what the world answers. -/
theorem from_resolve_fst (constant : world.Constant) (query : Query) {session : Session σ}
    (agrees : session.cache.Agrees world) (state : σ) :
    (from_ session (resolve world query)).1 = (world.ask query state).1 := by
  rw [from_resolve]
  cases recorded : session.cache.get? query with
  | some answer => exact (agrees query answer recorded state).symm
  | none =>
      rw [constant.answers query state session.world]
      rcases world.ask query session.world with ⟨outcome, left⟩
      cases outcome <;> rfl

theorem resolve_constant (constant : world.Constant) (query : Query) :
    Constant world (resolve world query) where
  outcome here there agrees otherAgrees := by
    rw [from_resolve_fst constant query agrees here.world,
      from_resolve_fst constant query otherAgrees here.world]
  agrees session agrees := by
    rw [from_resolve]
    cases recorded : session.cache.get? query with
    | some answer => exact agrees
    | none =>
        cases given : world.ask query session.world with
        | mk outcome left =>
            cases outcome with
            | ok answer =>
                refine agrees.add fun state => ?_
                rw [constant.answers query state session.world, given]
            | error fault => exact agrees

theorem runCommand_constant (constant : world.Constant) (command : Text) :
    Constant world (runCommand world command) := by
  refine .of_quiet (fun here there => ?_) (runCommand_quiet world command)
  simp only [runCommand, from_bind, from_record, from_useWorld]
  exact constant.commands command here.world there.world

/-- Whatever is composed of what a constant world gives is as constant. -/
theorem Composed.constant {action : Act σ α} (composed : Composed world action)
    (constant : world.Constant) : Constant world action := by
  induction composed with
  | pure value => exact constant_pure value
  | problem what line => exact constant_throw (.problem what line)
  | command command => exact runCommand_constant constant command
  | query query => exact resolve_constant constant query
  | note level activity message =>
      exact .of_quiet (fun _ _ => rfl) (note_quiet level activity message)
  | bind _ _ first second => exact first.bind second
  | atLine line _ inner => exact inner.atLine line

end Constant

end Act

section Process

variable {world : World σ} (constant : world.Constant)

include constant

/-- A document comes out the same whatever was recorded before it. -/
theorem Job.process_constant (job : Job) : Act.Constant world (job.process world) :=
  (process_composed world job.treatment job.substitution job.text).constant constant

/-- Documents processed in order come out as each would from a session of its
own. -/
theorem processAll_eq_map (jobs : List Job) (alone : Session σ)
    (aloneAgrees : alone.cache.Agrees world) (session : Session σ)
    (agrees : session.cache.Agrees world) :
    (processAll world jobs session).1 =
      jobs.map fun job => (Act.from_ alone (job.process world)).1 := by
  induction jobs generalizing session with
  | nil => rfl
  | cons job jobs ih =>
      have processed := job.process_constant constant
      rw [processAll, List.map_cons, processed.outcome session alone agrees aloneAgrees,
        ih _ (processed.agrees session agrees)]

end Process

/-- **Sharing answers.** Documents that are processed one after another in a
constant world, with nothing recorded at first, come out as each of them would
alone; so each comes out the same in whatever order they are processed. -/
theorem processAll_shared {world : World σ} (constant : world.Constant) (jobs : List Job)
    (here there : σ) :
    (processAll world jobs (Session.start here)).1 =
        jobs.map (fun job => (Act.from_ (Session.start there) (job.process world)).1) ∧
      ∀ others : List Job, others.Perm jobs →
        (others.zip (processAll world others (Session.start there)).1).Perm
          (jobs.zip (processAll world jobs (Session.start here)).1) := by
  have alone : ∀ (documents : List Job) (state : σ),
      (processAll world documents (Session.start state)).1 =
        documents.map fun job => (Act.from_ (Session.start there) (job.process world)).1 :=
    fun documents state => processAll_eq_map constant documents (Session.start there)
      (Cache.agrees_empty world) (Session.start state) (Cache.agrees_empty world)
  refine ⟨alone jobs here, fun others reordered => ?_⟩
  rw [alone others there, alone jobs here, ← List.map_prod_left_eq_zip,
    ← List.map_prod_left_eq_zip]
  exact reordered.map _

/-- A world in which the last option is always taken and nobody says yes or no. -/
def World.decided : World Unit where
  lookup _ := none
  run _ state := (.ok [], state)
  ask query state :=
    match query.options with
    | [] => (.error (.problem (.query .inputEnded) none), state)
    | _ :: others => (.ok (.choice others.length), state)

theorem World.decided_constant : World.decided.Constant where
  commands _ _ _ := rfl
  answers _ _ _ := rfl

/-- The first document fails behind its question, the second one has that question
again, and nobody answers the question of the last one. -/
def sharingJobs : List Job :=
  ["#~ ASK Q?\n#~ OPTION a\nx\n#~ OPTION b\ny\n#~ ENDASK\n#~ ELSE\n",
    "#~ ASK Q?\n#~ OPTION a\nx\n#~ OPTION b\ny\n#~ ENDASK\n", "z\n#~ ASK Q?\n#~ ENDASK\n"].map
      fun text => ⟨⟨some "#~".toList, none, true⟩, ⟨[], false⟩, text.toList⟩

theorem sharingJobs_shared :
    World.decided.Constant ∧
      (processAll .decided sharingJobs (Session.start ())).1 =
        [.error (.problem (.nesting .strayOtherwise) (some 7)), .ok "y\n".toList,
          .error (.problem (.query .inputEnded) (some 3))] ∧
      (processAll .decided sharingJobs (Session.start ())).1 =
        sharingJobs.map (fun job => (Act.from_ (Session.start ()) (job.process .decided)).1) ∧
      ∀ others : List Job, others.Perm sharingJobs →
        (others.zip (processAll .decided others (Session.start ())).1).Perm
          (sharingJobs.zip (processAll .decided sharingJobs (Session.start ())).1) :=
  have outcomes : (processAll .decided sharingJobs (Session.start ())).1 =
      [.error (.problem (.nesting .strayOtherwise) (some 7)), .ok "y\n".toList,
        .error (.problem (.query .inputEnded) (some 3))] := by cbv
  ⟨World.decided_constant, outcomes, processAll_shared World.decided_constant sharingJobs () ()⟩

end Tailor
