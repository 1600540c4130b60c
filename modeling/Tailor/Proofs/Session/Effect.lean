import Mathlib.Order.Defs.Unbundled
import Tailor.Expression.Value
import Tailor.Proofs.Session.Outcome

/-! # What actions leave behind

An action relates the session from which it starts to the one that it leaves,
whether it succeeds or fails (`Tailor.Act.Relates`). Expressions leave all that
has to do with queries alone (`Tailor.Expression.expand_quiet`), and nothing
takes a recorded answer away: caches only grow at their end
(`Tailor.Act.resolve_grows`).
-/

namespace Tailor

/-- The entries of a cache stand unchanged at the beginning of a later one. -/
def Cache.Precedes (cache later : Cache) : Prop := cache.entries <+: later.entries

namespace Cache

variable {cache later last : Cache}

theorem Precedes.refl (cache : Cache) : cache.Precedes cache := List.prefix_rfl

theorem Precedes.trans (first : cache.Precedes later) (second : later.Precedes last) :
    cache.Precedes last :=
  List.IsPrefix.trans first second

theorem precedes_add (cache : Cache) (query : Query) (answer : Answer) :
    cache.Precedes (cache.add query answer) :=
  List.prefix_append _ _

/-- A recorded answer stays. -/
theorem Precedes.get? (precedes : cache.Precedes later) {query : Query} {answer : Answer}
    (recorded : cache.get? query = some answer) : later.get? query = some answer := by
  obtain ⟨added, split⟩ := precedes
  unfold Cache.get? at recorded ⊢
  rw [← split, List.lookup_append, recorded]
  rfl

end Cache

namespace Session

variable {σ : Type} {session between after : Session σ}

/-- Nothing that has to do with queries happens between two sessions. -/
structure Quiet (session after : Session σ) : Prop where
  cache : after.cache = session.cache
  consulted : after.consulted = session.consulted
  asked : after.asked = session.asked

instance : IsPreorder (Session σ) Quiet where
  refl _ := ⟨rfl, rfl, rfl⟩
  trans _ _ _ first second :=
    ⟨second.cache.trans first.cache, second.consulted.trans first.consulted,
      second.asked.trans first.asked⟩

/-- Answers are at most added between two sessions. -/
def Grows (session after : Session σ) : Prop := session.cache.Precedes after.cache

instance : IsPreorder (Session σ) Grows where
  refl session := Cache.Precedes.refl session.cache
  trans _ _ _ first second := first.trans second

theorem Quiet.grows (quiet : Quiet session after) : Grows session after := by
  rw [Grows, quiet.cache]
  exact Cache.Precedes.refl session.cache

/-- Between two sessions no answer is recorded and nobody is asked. -/
structure Unasked (session after : Session σ) : Prop where
  cache : after.cache = session.cache
  asked : after.asked = session.asked

instance : IsPreorder (Session σ) Unasked where
  refl _ := ⟨rfl, rfl⟩
  trans _ _ _ first second :=
    ⟨second.cache.trans first.cache, second.asked.trans first.asked⟩

theorem Quiet.unasked (quiet : Quiet session after) : Unasked session after :=
  ⟨quiet.cache, quiet.asked⟩

end Session

namespace Act

variable {σ α β : Type}

/-- However the action ends, it relates the session it starts from to the one it
leaves. -/
def Relates (relation : Session σ → Session σ → Prop) (action : Act σ α) : Prop :=
  ∀ session, relation session (from_ session action).2

/-- The action succeeds with a value and relates the session it starts from to
the one it leaves. -/
def Gives (relation : Session σ → Session σ → Prop) (session : Session σ) (action : Act σ α)
    (value : α) : Prop :=
  ∃ after, from_ session action = (.ok value, after) ∧ relation session after

section Relates

variable {relation : Session σ → Session σ → Prop}

theorem Relates.of_eq {action : Act σ α} (relates : Relates relation action)
    {session after : Session σ} {outcome : Except Fault α}
    (left : from_ session action = (outcome, after)) : relation session after := by
  have done := relates session
  rw [left] at done
  exact done

theorem Relates.gives {action : Act σ α} (relates : Relates relation action)
    {session : Session σ} {value : α} (outcome : (from_ session action).1 = .ok value) :
    Gives relation session action value :=
  ⟨(from_ session action).2, Prod.ext outcome rfl, relates session⟩

theorem Gives.atLine {session : Session σ} {action : Act σ α} {value : α}
    (gives : Gives relation session action value) (line : Nat) :
    Gives relation session (Act.atLine line action) value := by
  obtain ⟨after, succeeded, related⟩ := gives
  exact ⟨after, from_atLine_eq_ok.mpr succeeded, related⟩

theorem Relates.mono {weaker : Session σ → Session σ → Prop} {action : Act σ α}
    (relates : Relates relation action)
    (implies : ∀ session after, relation session after → weaker session after) :
    Relates weaker action :=
  fun session => implies _ _ (relates session)

theorem Relates.atLine {action : Act σ α} (relates : Relates relation action) (line : Nat) :
    Relates relation (Act.atLine line action) := by
  intro session
  have done := relates session
  rw [from_atLine]
  generalize from_ session action = result at done ⊢
  obtain ⟨outcome, after⟩ := result
  cases outcome with
  | ok value => exact done
  | error fault => exact done

variable [IsPreorder (Session σ) relation]

theorem relates_pure (value : α) : Relates relation (pure value : Act σ α) := by
  intro session
  exact refl_of relation session

theorem gives_pure (session : Session σ) (value : α) :
    Gives relation session (pure value : Act σ α) value :=
  ⟨session, rfl, refl_of relation session⟩

theorem Gives.bind {session : Session σ} {action : Act σ α} {value : α} {next : α → Act σ β}
    {result : β} (first : Gives relation session action value)
    (second : ∀ after, relation session after → Gives relation after (next value) result) :
    Gives relation session (action >>= next) result := by
  obtain ⟨between, begun, related⟩ := first
  obtain ⟨after, ended, relatedLater⟩ := second between related
  refine ⟨after, ?_, trans_of relation related relatedLater⟩
  rw [from_bind_of_ok begun, ended]

theorem relates_throw (fault : Fault) : Relates relation (throw fault : Act σ α) := by
  intro session
  exact refl_of relation session

theorem Relates.bind {action : Act σ α} {next : α → Act σ β} (first : Relates relation action)
    (second : ∀ value, Relates relation (next value)) : Relates relation (action >>= next) := by
  intro session
  have begun := first session
  rw [from_bind]
  generalize from_ session action = result at begun ⊢
  obtain ⟨outcome, after⟩ := result
  cases outcome with
  | ok value => exact trans_of relation begun (second value after)
  | error fault => exact begun

end Relates

section Quiet

variable (world : World σ)

theorem useWorld_quiet (call : σ → Except Fault α × σ) :
    Relates Session.Quiet (useWorld call) := by
  intro session
  rw [from_useWorld]
  exact ⟨rfl, rfl, rfl⟩

theorem runCommand_quiet (command : Text) : Relates Session.Quiet (runCommand world command) := by
  refine Relates.bind ?_ fun _ => useWorld_quiet _
  intro session
  rw [from_record]
  constructor
  · rfl
  · simp [Session.consulted]
  · simp [Session.asked]

theorem note_quiet (level : Level) (activity : Activity) (message : Text) :
    Relates Session.Quiet (note level activity message : Act σ Unit) := by
  intro session
  rw [note, from_record]
  constructor
  · rfl
  · simp [Session.consulted]
  · simp [Session.asked]

end Quiet

/-- **Resolving a query.** A recorded answer is taken. Otherwise somebody is
asked; an answer is recorded behind all others, and without one nothing is. -/
theorem from_resolve (world : World σ) (session : Session σ) (query : Query) :
    from_ session (resolve world query) =
      match session.cache.get? query with
      | some answer =>
          (.ok answer, { session with trace := session.trace ++ [.consulted query] })
      | none =>
          match world.ask query session.world with
          | (.ok answer, left) =>
              (.ok answer, ⟨left, session.cache.add query answer,
                session.trace ++ [.consulted query, .asked query]⟩)
          | (.error fault, left) =>
              (.error fault, ⟨left, session.cache,
                session.trace ++ [.consulted query, .asked query]⟩) := by
  unfold resolve
  rw [from_bind_of_ok (from_record session _), from_bind_of_ok (from_get _)]
  cases recorded : session.cache.get? query with
  | some answer => simp only [from_pure]
  | none =>
      simp only [putQuery, bind_assoc]
      rw [from_bind_of_ok (from_record _ _), from_bind, from_useWorld]
      rcases world.ask query session.world with ⟨outcome, left⟩
      cases outcome with
      | ok answer =>
          simp only [from_bind_of_ok (from_modify _ _), from_pure, List.append_assoc,
            List.cons_append, List.nil_append]
      | error fault => simp only [List.append_assoc, List.cons_append, List.nil_append]

/-- Resolving a query, from a recorded answer or not, is noted once. -/
theorem consulted_resolve (world : World σ) (query : Query) (session : Session σ) :
    (from_ session (resolve world query)).2.consulted = session.consulted ++ [query] := by
  rw [from_resolve]
  cases session.cache.get? query with
  | some answer => simp [Session.consulted]
  | none =>
      rcases world.ask query session.world with ⟨answered, left⟩
      cases answered with
      | ok answer | error fault => simp [Session.consulted]

/-- Resolving a query takes no recorded answer away. -/
theorem resolve_grows (world : World σ) (query : Query) :
    Relates Session.Grows (resolve world query) := by
  intro session
  rw [from_resolve]
  cases session.cache.get? query with
  | some answer => exact Cache.Precedes.refl session.cache
  | none =>
      rcases world.ask query session.world with ⟨outcome, left⟩
      cases outcome with
      | ok answer => exact Cache.precedes_add session.cache query answer
      | error fault => exact Cache.Precedes.refl session.cache

/-- The answer to a query that was resolved is recorded. -/
theorem recorded_of_resolve {world : World σ} {session after : Session σ} {query : Query}
    {answer : Answer} (resolved : from_ session (resolve world query) = (.ok answer, after)) :
    after.cache.get? query = some answer := by
  rw [from_resolve] at resolved
  cases recorded : session.cache.get? query with
  | some earlier =>
      rw [recorded] at resolved
      cases resolved
      exact recorded
  | none =>
      rw [recorded] at resolved
      cases given : world.ask query session.world with
      | mk outcome left =>
          rw [given] at resolved
          cases outcome with
          | ok answer =>
              cases resolved
              simp [Cache.get?_add, recorded]
          | error fault => cases resolved

end Act

namespace Expression

variable {σ : Type} (world : World σ)

theorem value_quiet (token : Token) : Act.Relates Session.Quiet (token.value world) := by
  cases token with
  | literal | escapedDollar | «variable» | bracedVariable =>
      exact Act.relates_pure _
  | command body => exact Act.runCommand_quiet world (unescape body)
  | flawed flaw => exact Act.relates_throw _

theorem valueOfTokens_quiet (tokens : List Token) :
    Act.Relates Session.Quiet (valueOfTokens world tokens) := by
  induction tokens with
  | nil => exact Act.relates_pure _
  | cons token tokens ih =>
      refine Act.Relates.bind (value_quiet world token) fun first => ?_
      refine Act.Relates.bind ih fun others => ?_
      exact Act.relates_pure _

/-- No query matters to the value of an expression, nor the other way round. -/
theorem expand_quiet (text : Text) : Act.Relates Session.Quiet (expand world text) :=
  valueOfTokens_quiet world (tokens true text)

theorem verdict_quiet (asked : Condition) : Act.Relates Session.Quiet (verdict world asked) := by
  cases asked with
  | equal left right =>
      refine Act.Relates.bind (expand_quiet world left) fun leftValue => ?_
      refine Act.Relates.bind (expand_quiet world right) fun rightValue => ?_
      exact Act.relates_pure _
  | defined argument | undefined argument =>
      refine Act.Relates.bind (expand_quiet world argument) fun value => ?_
      exact Act.relates_pure _

end Expression

end Tailor
