import Tailor.Proofs.Session.Effect

/-! # Ledgers of a run

A ledger lists the queries that a run resolves, each with the sessions before and
behind it (`Tailor.Ledger`); between them nothing happens that has to do with
queries. From this alone follows that a query is put to somebody at most until
it is answered, and has that answer from then on (`Tailor.Ledger.askedOnce`).
-/

namespace Tailor

variable {σ : Type}

/-- The end of a question block in a run: its query, and the sessions before and
behind its closing line. -/
structure Closing (σ : Type) where
  query : Query
  before : Session σ
  after : Session σ

namespace Closing

/-- The answer with which the block is closed. -/
def answer (world : World σ) (closing : Closing σ) : Except Fault Answer :=
  (Act.from_ closing.before (Act.resolve world closing.query)).1

/-- The query has no recorded answer yet. -/
def isNew (closing : Closing σ) : Bool := !closing.before.cache.contains closing.query

/-- The entry that the cache gets when the block is closed. -/
def newEntry? (world : World σ) (closing : Closing σ) : Option (Query × Answer) :=
  match closing.isNew, closing.answer world with
  | true, .ok answer => some (closing.query, answer)
  | _, _ => none

/-- The block is closed by resolving its query. -/
def Resolved (world : World σ) (closing : Closing σ) : Prop :=
  closing.after = (Act.from_ closing.before (Act.resolve world closing.query)).2

/-- The query has its recorded answer: the block is closed with it, nobody is
asked and nothing is recorded. -/
structure Recalled (world : World σ) (closing : Closing σ) (answer : Answer) : Prop where
  answer : closing.answer world = .ok answer
  cache : closing.after.cache = closing.before.cache
  asked : closing.after.asked = closing.before.asked

/-- The query is put to somebody: the block is closed with the answer, which
becomes the last entry of the cache; without an answer nothing is recorded. -/
structure Asked (world : World σ) (closing : Closing σ) : Prop where
  answer : closing.answer world = (world.ask closing.query closing.before.world).1
  cache : closing.after.cache = match closing.answer world with
    | .ok answer => closing.before.cache.add closing.query answer
    | .error _ => closing.before.cache
  asked : closing.after.asked = closing.before.asked ++ [closing.query]

namespace Resolved

variable {world : World σ} {closing : Closing σ}

theorem recalled (resolved : closing.Resolved world) {answer : Answer}
    (recorded : closing.before.cache.get? closing.query = some answer) :
    closing.Recalled world answer := by
  have outcome := Act.from_resolve world closing.before closing.query
  rw [recorded] at outcome
  unfold Resolved at resolved
  rw [outcome] at resolved
  refine ⟨?_, by rw [resolved], ?_⟩
  · rw [Closing.answer, outcome]
  · rw [resolved]
    simp [Session.asked]

theorem asked (resolved : closing.Resolved world)
    (unknown : closing.before.cache.get? closing.query = none) : closing.Asked world := by
  have outcome := Act.from_resolve world closing.before closing.query
  rw [unknown] at outcome
  unfold Resolved at resolved
  cases given : world.ask closing.query closing.before.world with
  | mk answered left =>
      rw [given] at outcome
      cases answered with
      | ok answer | error fault =>
          rw [outcome] at resolved
          constructor
          · rw [Closing.answer, outcome, given]
          · rw [Closing.answer, outcome, resolved]
          · rw [resolved]
            simp [Session.asked]

theorem grows (resolved : closing.Resolved world) : closing.before.Grows closing.after := by
  rw [resolved]
  exact Act.resolve_grows world closing.query closing.before

/-- The answer with which a block is closed is recorded. -/
theorem recorded (resolved : closing.Resolved world) {answer : Answer}
    (answered : closing.answer world = .ok answer) :
    closing.after.cache.get? closing.query = some answer :=
  Act.recorded_of_resolve (Prod.ext answered resolved.symm)

/-- Closing a block adds at most its entry to the cache. -/
theorem entries (resolved : closing.Resolved world) :
    closing.after.cache.entries =
      closing.before.cache.entries ++ (closing.newEntry? world).toList := by
  cases known : closing.before.cache.get? closing.query with
  | some answer =>
      have old : closing.isNew = false := by simp [Closing.isNew, Cache.contains, known]
      simp [(resolved.recalled known).cache, newEntry?, old]
  | none =>
      have new : closing.isNew = true := by simp [Closing.isNew, Cache.contains, known]
      rw [(resolved.asked known).cache, newEntry?, new]
      cases closing.answer world with
      | ok answer => rfl
      | error fault => simp

theorem consulted (resolved : closing.Resolved world) :
    closing.after.consulted = closing.before.consulted ++ [closing.query] := by
  rw [resolved]
  exact Act.consulted_resolve world closing.query closing.before

end Resolved

end Closing

/-- From one session to another a run resolves the queries of closings in order,
and nothing else happens that has to do with queries. -/
inductive Ledger (world : World σ) : Session σ → List (Closing σ) → Session σ → Prop where
  | quiet {start final : Session σ} (quiet : start.Quiet final) : Ledger world start [] final
  | closing {start final : Session σ} {closing : Closing σ} {rest : List (Closing σ)}
      (quiet : start.Quiet closing.before) (resolved : closing.Resolved world)
      (further : Ledger world closing.after rest final) :
      Ledger world start (closing :: rest) final

/-- A query is put to somebody until it is answered, and has that answer from
then on. -/
structure AskedOnce (world : World σ) (start : Session σ) (closings : List (Closing σ))
    (final : Session σ) : Prop where
  /-- A block is closed with the recorded answer, or else somebody is asked. -/
  each : ∀ closing ∈ closings, match closing.before.cache.get? closing.query with
    | some answer => closing.Recalled world answer
    | none => closing.Asked world
  /-- No query is resolved but at the end of a block. -/
  consulted : final.consulted = start.consulted ++ closings.map Closing.query
  /-- Nobody is asked anything besides the queries that are new. -/
  asked : final.asked = start.asked ++ (closings.filter Closing.isNew).map Closing.query
  /-- Nothing is recorded but the answers to new queries. -/
  entries : final.cache.entries =
    start.cache.entries ++ closings.filterMap (Closing.newEntry? world)
  /-- No recorded answer is changed. -/
  lasting : start.Grows final ∧ ∀ closing ∈ closings,
    start.Grows closing.before ∧ closing.before.Grows closing.after ∧ closing.after.Grows final
  ordered : closings.Pairwise fun earlier later => earlier.after.Grows later.before
  /-- Nobody is asked a query that was answered before. -/
  once : closings.Pairwise fun earlier later => later.query = earlier.query →
    ∀ answer, earlier.answer world = .ok answer → later.Recalled world answer
  /-- Blocks with the same query are closed with the same answer. -/
  same : ∀ one ∈ closings, ∀ other ∈ closings, one.query = other.query →
    ∀ answer another, one.answer world = .ok answer → other.answer world = .ok another →
      answer = another

namespace Ledger

variable {world : World σ} {start between final : Session σ} {closings others : List (Closing σ)}

theorem behind_quiet (quiet : start.Quiet between) (ledger : Ledger world between closings final) :
    Ledger world start closings final := by
  cases ledger with
  | quiet further => exact .quiet (trans_of Session.Quiet quiet further)
  | closing further resolved rest =>
      exact .closing (trans_of Session.Quiet quiet further) resolved rest

theorem append (first : Ledger world start closings between)
    (second : Ledger world between others final) :
    Ledger world start (closings ++ others) final := by
  induction first with
  | quiet quiet => exact second.behind_quiet quiet
  | closing quiet resolved _ ih => exact .closing quiet resolved (ih second)

theorem resolved (ledger : Ledger world start closings final) :
    ∀ closing ∈ closings, closing.Resolved world := by
  induction ledger with
  | quiet => simp
  | closing _ resolved _ ih => exact List.forall_mem_cons.mpr ⟨resolved, ih⟩

theorem grows (ledger : Ledger world start closings final) : start.Grows final := by
  induction ledger with
  | quiet quiet => exact quiet.grows
  | closing quiet resolved _ ih =>
      exact trans_of Session.Grows quiet.grows (trans_of Session.Grows resolved.grows ih)

/-- Every closing comes behind the start. -/
theorem grows_before (ledger : Ledger world start closings final) :
    ∀ closing ∈ closings, start.Grows closing.before := by
  induction ledger with
  | quiet => simp
  | closing quiet resolved _ ih =>
      refine List.forall_mem_cons.mpr ⟨quiet.grows, fun closing member => ?_⟩
      have first := trans_of Session.Grows quiet.grows resolved.grows
      exact trans_of Session.Grows first (ih closing member)

/-- Every closing comes before the end. -/
theorem grows_after (ledger : Ledger world start closings final) :
    ∀ closing ∈ closings, closing.after.Grows final := by
  induction ledger with
  | quiet => simp
  | closing _ _ further ih => exact List.forall_mem_cons.mpr ⟨further.grows, ih⟩

theorem ordered (ledger : Ledger world start closings final) :
    closings.Pairwise fun earlier later => earlier.after.Grows later.before := by
  induction ledger with
  | quiet => exact .nil
  | closing _ _ further ih => exact .cons further.grows_before ih

theorem consulted (ledger : Ledger world start closings final) :
    final.consulted = start.consulted ++ closings.map Closing.query := by
  induction ledger with
  | quiet quiet => rw [quiet.consulted, List.map_nil, List.append_nil]
  | closing quiet resolved _ ih =>
      rw [ih, resolved.consulted, quiet.consulted, List.append_assoc]
      rfl

theorem asked (ledger : Ledger world start closings final) :
    final.asked = start.asked ++ (closings.filter Closing.isNew).map Closing.query := by
  induction ledger with
  | quiet quiet => rw [quiet.asked, List.filter_nil, List.map_nil, List.append_nil]
  | @closing _ _ closing rest quiet resolved _ ih =>
      cases known : closing.before.cache.get? closing.query with
      | some answer =>
          have old : closing.isNew = false := by simp [Closing.isNew, Cache.contains, known]
          rw [ih, (resolved.recalled known).asked, quiet.asked, List.filter_cons, old]
          rfl
      | none =>
          have new : closing.isNew = true := by simp [Closing.isNew, Cache.contains, known]
          rw [ih, (resolved.asked known).asked, quiet.asked, List.filter_cons, new,
            List.append_assoc]
          rfl

theorem entries (ledger : Ledger world start closings final) :
    final.cache.entries =
      start.cache.entries ++ closings.filterMap (Closing.newEntry? world) := by
  induction ledger with
  | quiet quiet => rw [quiet.cache, List.filterMap_nil, List.append_nil]
  | @closing _ _ closing rest quiet resolved _ ih =>
      rw [ih, resolved.entries, quiet.cache, List.append_assoc, List.filterMap_cons]
      cases closing.newEntry? world with
      | some entry => rfl
      | none => rfl

/-- **Asking once.** What a ledger lists was asked once. -/
theorem askedOnce (ledger : Ledger world start closings final) :
    AskedOnce world start closings final where
  each closing member := by
    cases known : closing.before.cache.get? closing.query with
    | some answer => exact (ledger.resolved closing member).recalled known
    | none => exact (ledger.resolved closing member).asked known
  consulted := ledger.consulted
  asked := ledger.asked
  entries := ledger.entries
  lasting := by
    refine ⟨ledger.grows, fun closing member => ?_⟩
    exact ⟨ledger.grows_before closing member, (ledger.resolved closing member).grows,
      ledger.grows_after closing member⟩
  ordered := ledger.ordered
  once := by
    refine ledger.ordered.imp_of_mem fun {earlier later} member laterMember grows => ?_
    intro same answer answered
    have recorded := grows.get? ((ledger.resolved earlier member).recorded answered)
    rw [← same] at recorded
    exact (ledger.resolved later laterMember).recalled recorded
  same := by
    intro one member other otherMember same answer another answered otherAnswered
    have first := (ledger.grows_after one member).get?
      ((ledger.resolved one member).recorded answered)
    have second := (ledger.grows_after other otherMember).get?
      ((ledger.resolved other otherMember).recorded otherAnswered)
    rw [same, second] at first
    exact (Option.some.inj first).symm

end Ledger

end Tailor
