import Tailor.Proofs.Run.Outcome
import Tailor.Run.Execution

/-! # The course of a run

What a run comes to, document by document. A document is processed, and then it
is concluded: announced, delivered or given up (`Tailor.Run.executeDocument_eq_ok`).
The run goes on from the state that the document left, with its failure noted
(`Tailor.Run.executeAll_proceed`), unless it stops there
(`Tailor.Run.executeAll_stop`).
-/

namespace Tailor

theorem DocumentResult.exists_fault (result : DocumentResult) (failed : result.isFailed = true) :
    ∃ fault, result.status = .failed fault := by
  unfold isFailed at failed
  split at failed
  · exact ⟨_, by assumption⟩
  · cases failed

namespace Run

variable {σ α β : Type}

/-- Whenever the part does not crash, its value is a good one. -/
def Yields (good : α → Prop) (action : Act σ α) : Prop :=
  ∀ state value after, from_ state action = (.ok value, after) → good value

theorem yields_pure {good : α → Prop} {value : α} (holds : good value) :
    Yields good (pure value : Act σ α) := by
  intro state found after finished
  cases finished
  exact holds

theorem Yields.bind {good : β → Prop} (action : Act σ α) {next : α → Act σ β}
    (second : ∀ value, Yields good (next value)) : Yields good (action >>= next) := by
  intro state result after finished
  obtain ⟨value, between, _, ended⟩ := from_bind_eq_ok.mp finished
  exact second value between result after ended

variable (world : World (σ × Files)) (options : Options) (substitution : Substitution)

/-- What is done with a document that is processed. -/
def conclude (document : DocumentConfig) : Except DocumentFault Text → Act σ Status
  | .error fault => pure (.failed fault)
  | .ok content => if options.dryRun then announce document else deliver options document content

/-- The note that the work on a document begins. -/
def heading (document : DocumentConfig) : Note :=
  ⟨.info, .running, "Preprocessing ".toList ++ document.source.text⟩

/-- A document is announced, processed and concluded. -/
theorem from_executeDocument (document : DocumentConfig) (state : State σ) :
    from_ state (executeDocument world options substitution document) =
      from_ (state.noting (heading document)) (do
        let outcome ← processed world substitution document
        let status ← conclude options document outcome
        pure ⟨document.source, document.target, status⟩) := by
  unfold executeDocument
  rw [from_bind_of_ok (from_note state _ _ _)]
  congr 2
  funext outcome
  cases outcome with
  | error fault => rfl
  | ok content =>
      unfold conclude
      by_cases dry : options.dryRun = true
      · simp only [dry, if_true]
      · simp only [dry, Bool.false_eq_true, if_false]

/-- A document that does not crash was processed and then concluded. -/
theorem executeDocument_eq_ok {document : DocumentConfig} {state after : State σ}
    {result : DocumentResult} :
    from_ state (executeDocument world options substitution document) = (.ok result, after) ↔
      ∃ outcome between status,
        from_ (state.noting (heading document)) (processed world substitution document) =
            (.ok outcome, between) ∧
          from_ between (conclude options document outcome) = (.ok status, after) ∧
          result = ⟨document.source, document.target, status⟩ := by
  rw [from_executeDocument, from_bind_eq_ok]
  constructor
  · rintro ⟨outcome, between, worked, finished⟩
    obtain ⟨status, settled, concluded, last⟩ := from_bind_eq_ok.mp finished
    cases last
    exact ⟨outcome, between, status, worked, concluded, rfl⟩
  · rintro ⟨outcome, between, status, worked, concluded, rfl⟩
    exact ⟨outcome, between, worked, from_bind_of_ok concluded _⟩

theorem deliver_unskipped (document : DocumentConfig) (content : Text) :
    Yields (· ≠ Status.skipped) (deliver (σ := σ) options document content) := by
  unfold deliver
  refine Yields.bind _ fun output => Yields.bind _ fun written => ?_
  have failed : ∀ fault : FileFault, Yields (· ≠ Status.skipped)
      (deliveryFault fault >>= fun found => pure (.failed found) : Act σ Status) :=
    fun fault => Yields.bind _ fun found => yields_pure (by simp)
  cases written with
  | error fault => exact failed fault
  | ok place =>
      by_cases linking : options.link = true
      · simp only [linking, if_true]
        refine Yields.bind _ fun linked => ?_
        cases linked with
        | error fault => exact failed fault
        | ok _ => exact yields_pure (by simp)
      · simp only [linking]
        exact yields_pure (by simp)

theorem conclude_unskipped (document : DocumentConfig) (outcome : Except DocumentFault Text) :
    Yields (· ≠ Status.skipped) (conclude (σ := σ) options document outcome) := by
  cases outcome with
  | error fault => exact yields_pure (by simp)
  | ok content =>
      unfold conclude
      by_cases dry : options.dryRun = true
      · simp only [dry, if_true]
        exact Yields.bind _ fun output => Yields.bind _ fun _ => yields_pure (by simp)
      · simp only [dry]
        exact deliver_unskipped options document content

/-- The result of a document names its source and its target, and does not say
that it was skipped. -/
theorem executeDocument_result {document : DocumentConfig} {state after : State σ}
    {result : DocumentResult}
    (executed : from_ state (executeDocument world options substitution document) =
      (.ok result, after)) :
    result.source = document.source ∧ result.target = document.target ∧
      result.status ≠ .skipped := by
  obtain ⟨outcome, between, status, _, concluded, rfl⟩ :=
    (executeDocument_eq_ok world options substitution).mp executed
  exact ⟨rfl, rfl, conclude_unskipped options document outcome between status after concluded⟩

/-- The state in which a run that goes on takes up the next document: a failure is
noted. -/
def State.reporting (state : State σ) (document : DocumentConfig) (result : DocumentResult) :
    State σ :=
  match result.status with
  | .failed fault =>
      state.noting ⟨.warning, .running, report document fault ++ ". Continuing.".toList⟩
  | _ => state

theorem State.reporting_of_not_failed {state : State σ} {document : DocumentConfig}
    {result : DocumentResult} (unfailed : result.isFailed = false) :
    state.reporting document result = state := by
  unfold reporting
  unfold DocumentResult.isFailed at unfailed
  split
  · rename_i fault failed
    rw [failed] at unfailed
    cases unfailed
  · rfl

/-- The outcome with a result in front of the others. -/
def preceded (result : DocumentResult) (others : Except Crash (List DocumentResult) × State σ) :
    Except Crash (List DocumentResult) × State σ :=
  (others.1.map (result :: ·), others.2)

theorem from_map_cons (result : DocumentResult) (state : State σ)
    (action : Act σ (List DocumentResult)) :
    from_ state (action >>= fun others => pure (result :: others)) =
      preceded result (from_ state action) := by
  rw [from_bind]
  rcases from_ state action with ⟨outcome, after⟩
  cases outcome <;> rfl

theorem preceded_eq_ok {result : DocumentResult}
    {others : Except Crash (List DocumentResult) × State σ} {results : List DocumentResult}
    {last : State σ} (all : preceded result others = (.ok results, last)) :
    ∃ rest, others = (.ok rest, last) ∧ results = result :: rest := by
  obtain ⟨outcome, left⟩ := others
  cases outcome with
  | ok rest =>
      cases all
      exact ⟨rest, rfl, rfl⟩
  | error crash => cases all

section Step

variable {world options substitution} {document : DocumentConfig} {state between : State σ}
  {result : DocumentResult}
  (executed : from_ state (executeDocument world options substitution document) =
    (.ok result, between))

include executed

/-- A run that goes on takes up the next document whatever came of this one. -/
theorem executeAll_proceed (documents : List DocumentConfig)
    (goesOn : options.onError = .proceed) :
    from_ state (executeAll world options substitution (document :: documents)) =
      preceded result (from_ (between.reporting document result)
        (executeAll world options substitution documents)) := by
  rw [executeAll, from_bind_of_ok executed]
  unfold State.reporting
  cases status : result.status with
  | failed fault =>
      simp only [goesOn]
      rw [from_bind_of_ok (from_note between _ _ _), from_map_cons]
  | completed output? => exact from_map_cons result between _
  | skipped => exact from_map_cons result between _

/-- Any run takes up the next document behind one that did not fail. -/
theorem executeAll_unfailed (documents : List DocumentConfig)
    (unfailed : result.isFailed = false) :
    from_ state (executeAll world options substitution (document :: documents)) =
      preceded result (from_ between (executeAll world options substitution documents)) := by
  rw [executeAll, from_bind_of_ok executed]
  unfold DocumentResult.isFailed at unfailed
  cases status : result.status with
  | failed fault =>
      rw [status] at unfailed
      cases unfailed
  | completed output? => exact from_map_cons result between _
  | skipped => exact from_map_cons result between _

/-- A run that stops leaves out the documents behind one that failed. -/
theorem executeAll_stop (documents : List DocumentConfig) {fault : DocumentFault}
    (failed : result.status = .failed fault) (stops : options.onError = .stop) :
    from_ state (executeAll world options substitution (document :: documents)) =
      (.ok (result :: documents.map skip),
        between.noting ⟨.error, .running, report document fault ++ ". Stopping run.".toList⟩) := by
  rw [executeAll, from_bind_of_ok executed]
  simp only [failed, stops]
  rw [from_bind_of_ok (from_note between _ _ _)]
  rfl

end Step

/-- A run that has results executed its first document. -/
theorem executeAll_cons_eq_ok {document : DocumentConfig} {documents : List DocumentConfig}
    {state last : State σ} {results : List DocumentResult}
    (all : from_ state (executeAll world options substitution (document :: documents)) =
      (.ok results, last)) :
    ∃ result between,
      from_ state (executeDocument world options substitution document) =
        (.ok result, between) := by
  rw [executeAll] at all
  obtain ⟨result, between, executed, _⟩ := from_bind_eq_ok.mp all
  exact ⟨result, between, executed⟩

end Run

end Tailor
