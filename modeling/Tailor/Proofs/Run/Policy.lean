import Mathlib
import Tailor.Proofs.Run.Course
import Tailor.Proofs.Session.Outcome

/-! # Stopping and going on

A run that stops at the first failure is the beginning of the run that goes on
(`Tailor.Run.execute_stop_begins`): up to the failure both do the same, so they
have the same results, run the same commands, ask the same questions and leave
the same answers and files; behind it the one that stops only lists what it
skips. Whatever the policy is, each document has one result, in order.
-/

namespace Tailor.Run

variable {σ : Type}

/-- The options with another policy for failures. -/
def Options.under (options : Options) (policy : OnError) : Options :=
  { options with onError := policy }

/-- The same was done up to two states, and the same is known and written in them;
what was noted may differ. -/
structure State.Matches (here there : State σ) : Prop where
  world : here.session.world = there.session.world
  cache : here.session.cache = there.session.cache
  commands : here.session.commands = there.session.commands
  asked : here.session.asked = there.session.asked
  files : here.files = there.files

/-- Notes do not count. -/
theorem State.matches_noting (state : State σ) (here there : Note) :
    (state.noting here).Matches (state.noting there) where
  world := rfl
  cache := rfl
  commands := by simp [noting, Session.commands]
  asked := by simp [noting, Session.asked]
  files := rfl

/-- The result at a place is the first one of a document that failed. -/
def FirstFailure (results : List DocumentResult) (number : Nat) : Prop :=
  ∃ listed : number < results.length, results[number].isFailed = true ∧
    ∀ earlier (lower : earlier < number), results[earlier].isFailed = false

theorem FirstFailure.unique {results : List DocumentResult} {number other : Nat}
    (first : FirstFailure results number) (otherFirst : FirstFailure results other) :
    number = other := by
  obtain ⟨listed, failed, before⟩ := first
  obtain ⟨otherListed, otherFailed, otherBefore⟩ := otherFirst
  rcases Nat.lt_trichotomy number other with lower | same | higher
  · rw [otherBefore number lower] at failed
    cases failed
  · exact same
  · rw [before other higher] at otherFailed
    cases otherFailed

theorem unfailed_or_firstFailure (results : List DocumentResult) :
    (∀ result ∈ results, result.isFailed = false) ∨ ∃ number, FirstFailure results number := by
  induction results with
  | nil => exact .inl (by simp)
  | cons result results ih =>
      by_cases failed : result.isFailed = true
      · exact .inr ⟨0, Nat.zero_lt_succ _, failed, fun earlier lower => absurd lower (by omega)⟩
      · have succeeded : result.isFailed = false := by simpa using failed
        rcases ih with unfailed | ⟨number, listed, later, before⟩
        · left
          intro found member
          rcases List.mem_cons.mp member with rfl | behind
          · exact succeeded
          · exact unfailed found behind
        · refine .inr ⟨number + 1, Nat.succ_lt_succ listed, later, fun earlier lower => ?_⟩
          cases earlier with
          | zero => exact succeeded
          | succ earlier => exact before earlier (Nat.lt_of_succ_lt_succ lower)

variable (world : World (σ × Files)) (options : Options) (substitution : Substitution)

/-- What becomes of one document has nothing to do with the policy. -/
theorem executeDocument_under (policy : OnError) (document : DocumentConfig) :
    executeDocument world (options.under policy) substitution document =
      executeDocument world options substitution document :=
  rfl

variable {options} in
/-- Each document has one result, which names its source and its target. -/
theorem places_executeAll {documents : List DocumentConfig} {state last : State σ}
    {results : List DocumentResult}
    (all : from_ state (executeAll world options substitution documents) = (.ok results, last)) :
    results.map (fun result => (result.source, result.target)) =
      documents.map fun document => (document.source, document.target) := by
  induction documents generalizing state results with
  | nil =>
      cases all
      rfl
  | cons document documents ih =>
      obtain ⟨result, between, executed⟩ := executeAll_cons_eq_ok world options substitution all
      obtain ⟨source, target, _⟩ := executeDocument_result world options substitution executed
      have place : (result.source, result.target) = (document.source, document.target) := by
        rw [source, target]
      have behind : ∀ {next : State σ}, preceded result
          (from_ next (executeAll world options substitution documents)) = (.ok results, last) →
          results.map (fun result => (result.source, result.target)) =
            (document :: documents).map fun document => (document.source, document.target) := by
        intro next others
        obtain ⟨rest, finished, rfl⟩ := preceded_eq_ok others
        rw [List.map_cons, List.map_cons, place, ih finished]
      by_cases failed : result.isFailed = true
      · cases policy : options.onError with
        | proceed =>
            rw [executeAll_proceed executed documents policy] at all
            exact behind all
        | stop =>
            obtain ⟨fault, status⟩ := result.exists_fault failed
            rw [executeAll_stop executed documents status policy] at all
            cases all
            simp [source, target, skip]
      · rw [executeAll_unfailed executed documents (by simpa using failed)] at all
        exact behind all

section GoingOn

variable {world options substitution} {documents : List DocumentConfig} {state last : State σ}
  {results : List DocumentResult}
  (all : from_ state (executeAll world (options.under .proceed) substitution documents) =
    (.ok results, last))

include all

/-- A run that goes on skips nothing. -/
theorem unskipped_executeAll : ∀ result ∈ results, result.status ≠ .skipped := by
  induction documents generalizing state results with
  | nil =>
      cases all
      simp
  | cons document documents ih =>
      obtain ⟨result, between, executed⟩ := executeAll_cons_eq_ok world _ substitution all
      rw [executeAll_proceed executed documents rfl] at all
      obtain ⟨rest, finished, rfl⟩ := preceded_eq_ok all
      intro found listed
      rcases List.mem_cons.mp listed with rfl | later
      · exact (executeDocument_result world _ substitution executed).2.2
      · exact ih finished found later

/-- Where nothing fails the policy does not matter. -/
theorem stop_executeAll_of_unfailed (unfailed : ∀ result ∈ results, result.isFailed = false) :
    from_ state (executeAll world (options.under .stop) substitution documents) =
      (.ok results, last) := by
  induction documents generalizing state results with
  | nil => exact all
  | cons document documents ih =>
      obtain ⟨result, between, executed⟩ := executeAll_cons_eq_ok world _ substitution all
      rw [executeAll_proceed executed documents rfl] at all
      obtain ⟨rest, finished, rfl⟩ := preceded_eq_ok all
      have succeeded : result.isFailed = false := unfailed result (List.mem_cons_self ..)
      rw [State.reporting_of_not_failed succeeded] at finished
      rw [executeDocument_under, ← executeDocument_under world options substitution .stop]
        at executed
      rw [executeAll_unfailed executed documents succeeded,
        ih finished fun other listed => unfailed other (List.mem_cons_of_mem _ listed)]
      rfl

/-- Up to its first failure, at the document with a number, a run that goes on can
be cut in two, and a run that stops ends where the first part does. -/
theorem stop_executeAll_of_failed {number : Nat}
    (first : FirstFailure results number) :
    ∃ settled : State σ, ∃ stops goesOn : Note,
      from_ state (executeAll world (options.under .stop) substitution documents) =
          (.ok (results.take (number + 1) ++ (documents.drop (number + 1)).map skip),
            settled.noting stops) ∧
        from_ state (executeAll world (options.under .proceed) substitution
          (documents.take (number + 1))) =
            (.ok (results.take (number + 1)), settled.noting goesOn) ∧
        from_ (settled.noting goesOn) (executeAll world (options.under .proceed) substitution
          (documents.drop (number + 1))) = (.ok (results.drop (number + 1)), last) := by
  obtain ⟨listed, failed, before⟩ := first
  induction documents generalizing state results number with
  | nil =>
      cases all
      cases listed
  | cons document documents ih =>
      obtain ⟨result, between, executed⟩ := executeAll_cons_eq_ok world _ substitution all
      have executedStopping := executed
      rw [executeDocument_under, ← executeDocument_under world options substitution .stop]
        at executedStopping
      rw [executeAll_proceed executed documents rfl] at all
      obtain ⟨rest, finished, rfl⟩ := preceded_eq_ok all
      cases number with
      | zero =>
          obtain ⟨fault, status⟩ := result.exists_fault failed
          have reported : between.reporting document result = between.noting
              ⟨.warning, .running, report document fault ++ ". Continuing.".toList⟩ := by
            unfold State.reporting
            rw [status]
          rw [reported] at finished
          refine ⟨between, _, _, executeAll_stop executedStopping documents status rfl, ?_,
            finished⟩
          have alone := executeAll_proceed executed [] rfl
          rw [reported] at alone
          exact alone
      | succ number =>
          have succeeded : result.isFailed = false := before 0 (Nat.zero_lt_succ number)
          rw [State.reporting_of_not_failed succeeded] at finished
          obtain ⟨settled, stops, goesOn, stopped, begun, ended⟩ :=
            ih finished (Nat.lt_of_succ_lt_succ listed) failed fun earlier lower =>
              before (earlier + 1) (Nat.succ_lt_succ lower)
          refine ⟨settled, stops, goesOn, ?_, ?_, ended⟩
          · rw [executeAll_unfailed executedStopping documents succeeded, stopped]
            rfl
          · rw [List.take_succ_cons, executeAll_unfailed executed _ succeeded, begun]
            rfl

end GoingOn

/-- **Stopping and going on.** Under either policy a run that has results has one
for each document, in order. One that goes on skips nothing, and where it has
results the one that stops has results too: the same if nothing fails; otherwise
those up to the first failure, with all documents behind it skipped, and it has
then done and left what the one that goes on had done and left at that point. -/
theorem execute_stop_begins (config : Config) (state : State σ) :
    (∀ policy results last,
        from_ state (execute world (options.under policy) config) = (.ok results, last) →
        results.map (fun result => (result.source, result.target)) =
          config.documents.map fun document => (document.source, document.target)) ∧
      ∀ results last,
        from_ state (execute world (options.under .proceed) config) = (.ok results, last) →
        (∀ result ∈ results, result.status ≠ .skipped) ∧
          ∃ stopped left,
            from_ state (execute world (options.under .stop) config) = (.ok stopped, left) ∧
              ((∀ result ∈ results, result.isFailed = false) → stopped = results ∧ left = last) ∧
              ∀ number, FirstFailure results number →
                stopped = results.take (number + 1) ++
                    (config.documents.drop (number + 1)).map skip ∧
                  ∃ reached,
                    from_ state (executeAll world (options.under .proceed) config.substitution
                      (config.documents.take (number + 1))) =
                        (.ok (results.take (number + 1)), reached) ∧
                      from_ reached (executeAll world (options.under .proceed) config.substitution
                        (config.documents.drop (number + 1))) =
                          (.ok (results.drop (number + 1)), last) ∧
                      left.Matches reached := by
  refine ⟨fun policy results last all => places_executeAll world config.substitution all, ?_⟩
  intro results last all
  refine ⟨unskipped_executeAll all, ?_⟩
  rcases unfailed_or_firstFailure results with unfailed | ⟨number, first⟩
  · refine ⟨results, last, stop_executeAll_of_unfailed all unfailed, fun _ => ⟨rfl, rfl⟩, ?_⟩
    rintro number ⟨listed, failed, _⟩
    have succeeded := unfailed results[number] (List.getElem_mem listed)
    rw [succeeded] at failed
    cases failed
  · obtain ⟨settled, stops, goesOn, stopped, begun, ended⟩ := stop_executeAll_of_failed all first
    refine ⟨_, _, stopped, ?_, ?_⟩
    · intro unfailed
      obtain ⟨listed, failed, _⟩ := first
      have succeeded := unfailed results[number] (List.getElem_mem listed)
      rw [succeeded] at failed
      cases failed
    · intro other otherFirst
      cases first.unique otherFirst
      exact ⟨rfl, _, begun, ended, settled.matches_noting stops goesOn⟩

/-- A document with directives that is linked beside its source. -/
def errand (name : String) : DocumentConfig :=
  ⟨.ofText name.toList, .ofText (name ++ ".link").toList, ⟨some "#~".toList, none, true⟩⟩

/-- The first of two documents runs a command and has a turn without a block. -/
def errands : Config := ⟨[errand "one", errand "two"], ⟨[], false⟩, ⟨none, none, true⟩⟩

def errandText : Text := "#~ IFDEF $(make)\n#~ ENDIF\n#~ ELSE\n".toList

/-- Every command writes a file. -/
def making : World (Unit × Files) where
  lookup _ := none
  run _ := fun (state, files) =>
    (.ok [], (state, files.put ["two".toList] (.file (Utf8.encode "2\n".toList))))
  ask _ state := (.ok (.choice 0), state)

/-- The source of the second document is not there yet. -/
def errandsState : State Unit :=
  ⟨.start (), ⟨[(["one".toList], .file (Utf8.encode errandText))], []⟩⟩

/-- The state behind the first document, whose command wrote the source of the second one. -/
def errandsMade : State Unit :=
  ⟨⟨(), .empty, [.noted (heading (errand "one")), .ran "make".toList]⟩,
    ⟨[(["one".toList], .file (Utf8.encode errandText)),
      (["two".toList], .file (Utf8.encode "2\n".toList))], []⟩⟩

def errandOptions : Options := ⟨false, true, .stop⟩

def errandFailed : DocumentResult :=
  ⟨(errand "one").source, (errand "one").target,
    .failed (.problem (.nesting .strayOtherwise) (some 3))⟩

def errandDone : DocumentResult :=
  ⟨(errand "two").source, (errand "two").target,
    .completed (some (.ofText "/two.preprocessed".toList))⟩

theorem errands_first :
    from_ errandsState (executeDocument making (errandOptions.under .proceed)
      errands.substitution (errand "one")) = (.ok errandFailed, errandsMade) := by
  cbv

/-- The second errand is done whatever was noted on the first one. -/
theorem errands_second (written : Note) :
    ∃ last,
      from_ (errandsMade.noting written)
        (executeDocument making (errandOptions.under .proceed) errands.substitution
          (errand "two")) = (.ok errandDone, last) := by
  have done :
      (from_ (errandsMade.noting written)
        (executeDocument making (errandOptions.under .proceed) errands.substitution
          (errand "two"))).1 = .ok errandDone := by
    cbv
  exact ⟨_, Prod.ext done rfl⟩

/-- The note that a run goes on behind the first errand. -/
def errandReport : Note :=
  ⟨.warning, .running, report (errand "one") (.problem (.nesting .strayOtherwise) (some 3)) ++
    ". Continuing.".toList⟩

theorem errands_goOn :
    ∃ last, from_ errandsState (execute making (errandOptions.under .proceed) errands) =
      (.ok [errandFailed, errandDone], last) := by
  obtain ⟨last, second⟩ := errands_second errandReport
  have behind := executeAll_proceed second [] rfl
  have all := executeAll_proceed errands_first [errand "two"] rfl
  refine ⟨last, all.trans ?_⟩
  change preceded errandFailed (from_ (errandsMade.noting errandReport)
    (executeAll _ _ _ [errand "two"])) = _
  rw [behind]
  rfl

/-- The run that stops has left what the other one had left behind the first document: the
file that its command wrote, too. -/
theorem errands_stop :
    ∃ last,
      from_ errandsState (execute making (errandOptions.under .proceed) errands) =
          (.ok [errandFailed, errandDone], last) ∧
        FirstFailure [errandFailed, errandDone] 0 ∧
        (∀ result ∈ [errandFailed, errandDone], result.status ≠ .skipped) ∧
        ∃ left reached,
          from_ errandsState (execute making (errandOptions.under .stop) errands) =
              (.ok [errandFailed, skip (errand "two")], left) ∧
            from_ errandsState (executeAll making (errandOptions.under .proceed)
              errands.substitution [errand "one"]) = (.ok [errandFailed], reached) ∧
            from_ reached (executeAll making (errandOptions.under .proceed)
              errands.substitution [errand "two"]) = (.ok [errandDone], last) ∧
            left.Matches reached ∧ reached.files = errandsMade.files := by
  obtain ⟨last, goesOn⟩ := errands_goOn
  have first : FirstFailure [errandFailed, errandDone] 0 :=
    ⟨Nat.zero_lt_succ 1, rfl, fun _ lower => absurd lower (Nat.not_lt_zero _)⟩
  obtain ⟨_, behind⟩ := execute_stop_begins making errandOptions errands errandsState
  obtain ⟨unskipped, stopped, left, halted, _, begins⟩ := behind _ last goesOn
  obtain ⟨rfl, reached, begun, ended, same⟩ := begins 0 first
  have alone := executeAll_proceed errands_first [] rfl
  obtain ⟨_, rfl⟩ := Prod.mk.inj (begun.symm.trans alone)
  exact ⟨last, goesOn, first, unskipped, left, _, halted, begun, ended, same, rfl⟩

end Tailor.Run
