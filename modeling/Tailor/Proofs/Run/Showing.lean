import Mathlib
import Tailor.Proofs.Document.Composition
import Tailor.Proofs.Files.Follow
import Tailor.Proofs.Run.Policy

/-! # What targets show

Delivering a document touches three spots: the temporary file beside its processed form,
the processed form and the target. What its target shows depends on the processed form,
on the target and on the way to it. In a run that completes all documents every target
shows its own document to the end (`Tailor.Run.execute_shows`), provided that nobody else
changes files and that no document touches what the target of an earlier one depends on;
two documents with the same source do (`Tailor.Run.copies_shown`).
-/

namespace Tailor

/-- Where the processed form of a document is written first. -/
def DocumentConfig.beside? (document : DocumentConfig) : Option Path :=
  document.output?.bind fun output => output.extend? Files.temporaryEnding

/-- The spots where something happens when a document is delivered. -/
inductive DocumentConfig.Touches (document : DocumentConfig) (files : Files) : Location → Prop where
  | temporary {path : Path} {way : List Location} {spot : Location}
      (written : document.beside? = some path) (sits : files.Sits path way spot) :
      Touches document files spot
  | output {path : Path} {way : List Location} {spot : Location}
      (written : document.output? = some path) (sits : files.Sits path way spot) :
      Touches document files spot
  | target {way : List Location} {spot : Location} (sits : files.Sits document.target way spot) :
      Touches document files spot

/-- What the target of a document depends on. -/
inductive DocumentConfig.Needs (document : DocumentConfig) (files : Files) : Location → Prop where
  | output {path : Path} {way : List Location} {spot : Location}
      (written : document.output? = some path) (sits : files.Sits path way spot) :
      Needs document files spot
  | target {way : List Location} {spot : Location} (sits : files.Sits document.target way spot) :
      Needs document files spot
  | way {way : List Location} {spot location : Location}
      (sits : files.Sits document.target way spot) (passed : location ∈ way) :
      Needs document files location

/-- The path of a document's source is proper, as it is in a configuration that was loaded
(`Tailor.Config.proper_of_load`); no link stands where the document is written first; its
paths do not lead through what its delivery replaces; and one more link can be followed
behind those on the way to its target. -/
structure DocumentConfig.Placed (document : DocumentConfig) (files : Files) : Prop where
  proper : document.source.Proper
  temporary : ∀ path way spot, document.beside? = some path → files.Sits path way spot →
    files.linkAt? spot = none
  output : ∀ path way spot, document.output? = some path → files.Sits path way spot → spot ∉ way
  target : ∀ way spot, files.Sits document.target way spot →
    spot ∉ way ∧ files.linksOn way < Files.linkLimit

/-- No document touches what the target of an earlier one depends on. -/
structure Files.Orderly (files : Files) (documents : List DocumentConfig) : Prop where
  grounded : files.Grounded files.here
  placed : ∀ document ∈ documents, document.Placed files
  spared : documents.Pairwise fun earlier later =>
    ∀ location, later.Touches files location → ¬ earlier.Needs files location

/-- Between two trees a document was written and linked, as its paths sat at the start; its
target shows it, and nothing else happened but where it touches something. -/
structure Exhibit (start before after : Files) (document : DocumentConfig) (content : Text)
    (ends way : List Location) (spot file : Location) : Prop where
  written : ∃ path through, document.output? = some path ∧ start.Sits path through file
  aimed : start.Sits document.target way spot
  shows_ : after.Shows document.target way spot file (Utf8.encode content)
  follows : start.Follows after (spot :: file :: ends)
  within : ∃ spots, Files.Within spots before after ∧
    ∀ location ∈ spots, document.Touches start location

namespace Exhibit

variable {start before after last : Files} {document other : DocumentConfig} {content : Text}
  {ends way : List Location} {spot file : Location}
  (exhibit : Exhibit start before after document content ends way spot file)

include exhibit

theorem needs_file : document.Needs start file := by
  obtain ⟨path, through, named, sits⟩ := exhibit.written
  exact .output named sits

/-- What touches nothing that an exhibited document needs leaves its places alone. -/
theorem free (earlier : ∀ location, other.Touches start location → location ∉ ends)
    (spares : ∀ location, other.Touches start location → ¬ document.Needs start location) :
    ∀ location, other.Touches start location → location ∉ spot :: file :: ends := by
  intro location touches inside
  rcases List.mem_cons.mp inside with rfl | inside
  · exact spares _ touches (.target exhibit.aimed)
  · rcases List.mem_cons.mp inside with rfl | inside
    · exact spares _ touches exhibit.needs_file
    · exact earlier location touches inside

/-- What is exhibited is shown as long as nothing happens to what it needs. -/
theorem lasts {spots : List Location} (kept : Files.Within spots after last)
    (unneeded : ∀ location ∈ spots, ¬ document.Needs start location) :
    last.Shows document.target way spot file (Utf8.encode content) := by
  refine exhibit.shows_.within kept fun location listed => ⟨?_, ?_, fun passed => ?_⟩
  · rintro rfl
    exact unneeded _ listed exhibit.needs_file
  · rintro rfl
    exact unneeded _ listed (.target exhibit.aimed)
  · exact unneeded _ listed (.way exhibit.aimed passed)

end Exhibit

theorem DocumentResult.isFailed_of_isCompleted {result : DocumentResult}
    (completed : result.isCompleted = true) : result.isFailed = false := by
  unfold isCompleted at completed
  unfold isFailed
  split at completed
  · rename_i output? status
    rw [status]
  · cases completed

variable {σ : Type}

/-- Commands and whoever answers leave the files as they are. -/
structure World.LeavesFiles (world : World (σ × Files)) : Prop where
  run : ∀ command state, (world.run command state).2.2 = state.2
  ask : ∀ query state, (world.ask query state).2.2 = state.2

theorem World.apart_leavesFiles (world : World σ) : world.apart.LeavesFiles :=
  ⟨fun _ _ => rfl, fun _ _ => rfl⟩

/-- Two sessions have the same files. -/
def Session.SameFiles (session after : Session (σ × Files)) : Prop :=
  after.world.2 = session.world.2

instance : IsPreorder (Session (σ × Files)) Session.SameFiles where
  refl _ := rfl
  trans _ _ _ first second := second.trans first

/-- Whatever is composed of commands, queries and notes leaves the files where these do. -/
theorem Act.Composed.sameFiles {α : Type} {world : World (σ × Files)} {action : Act (σ × Files) α}
    (composed : Composed world action) (leaves : world.LeavesFiles) :
    Relates Session.SameFiles action := by
  induction composed with
  | pure value => exact relates_pure value
  | problem what line => exact relates_throw _
  | command command =>
      intro session
      rw [runCommand, from_bind_of_ok (from_record session _), from_useWorld]
      exact leaves.run command session.world
  | query query =>
      intro session
      have left := leaves.ask query session.world
      rw [from_resolve]
      cases session.cache.get? query with
      | some answer => rfl
      | none =>
          generalize world.ask query session.world = put at left ⊢
          rcases put with ⟨fault | answer, after⟩ <;> exact left
  | note level activity message => exact fun session => rfl
  | bind _ _ first second => exact first.bind second
  | atLine line _ inner => exact inner.atLine line

namespace Run

variable {world : World (σ × Files)} {options : Options} {substitution : Substitution}
  {document : DocumentConfig} {state after last : State σ}

/-- Processing leaves the files as they are where the world does. -/
theorem processed_files (leaves : world.LeavesFiles) {outcome : Except DocumentFault Text}
    (worked : from_ state (processed world substitution document) = (.ok outcome, after)) :
    after.files = state.files := by
  unfold processed at worked
  rw [from_bind_of_ok (from_get state)] at worked
  split at worked
  · cases worked
  · cases worked
    rfl
  · rename_i text _
    have kept := (process_composed world document.treatment substitution text).sameFiles leaves
      state.inside
    rw [from_bind_of_ok (from_attempt state _)] at worked
    split at worked <;> cases worked <;> exact kept

/-- What a document that is linked went through. -/
theorem deliver_eq_completed (linking : options.link = true) {content : Text}
    {output? : Option Path}
    (delivered : from_ state (deliver options document content) =
      (.ok (.completed output?), after)) :
    ∃ output written filled source cleared, document.output? = some output ∧
      Files.perform state.files (Files.deliver output content) = (.ok written, filled) ∧
      Files.perform filled (Files.clearTarget written document.target) = (.ok source, cleared) ∧
      Files.perform cleared (Files.makeLink source document.target) = (.ok (), after.files) := by
  have unfailed : ∀ {between : State σ} {fault : FileFault},
      from_ between (deliveryFault fault >>= fun found => pure (Status.failed found)) ≠
        (.ok (.completed output?), after) := by
    intro between fault finished
    obtain ⟨_, _, _, ended⟩ := from_bind_eq_ok.mp finished
    cases ended
  unfold deliver at delivered
  obtain ⟨output, _, found, delivered⟩ := from_bind_eq_ok.mp delivered
  unfold outputOf at found
  split at found
  · rename_i named
    cases found
    rw [from_bind_of_ok (from_attemptFiles state _)] at delivered
    split at delivered
    · exact absurd delivered unfailed
    · rename_i written put
      simp only [linking, if_true] at delivered
      obtain ⟨linked, between, linkedTarget, delivered⟩ := from_bind_eq_ok.mp delivered
      split at delivered
      · exact absurd delivered unfailed
      · cases delivered
        unfold linkTarget at linkedTarget
        rw [from_bind_of_ok (from_attemptFiles _ _)] at linkedTarget
        split at linkedTarget
        · cases linkedTarget
        · rename_i source emptied
          rw [from_bind_of_ok (from_note _ _ _ _), from_attemptFiles] at linkedTarget
          obtain ⟨made, rfl⟩ := Prod.mk.inj linkedTarget
          exact ⟨output, written, _, source, _, named, Prod.ext put rfl, Prod.ext emptied rfl,
            Prod.ext (Except.ok.inj made) rfl⟩
  · cases found

/-- A run that completes all documents completes the first one and then the others. -/
theorem executeAll_cons_of_completed {documents : List DocumentConfig}
    {results : List DocumentResult}
    (all : from_ state (executeAll world options substitution (document :: documents)) =
      (.ok results, last))
    (completed : ∀ result ∈ results, result.isCompleted = true) :
    ∃ result between rest,
      from_ state (executeDocument world options substitution document) = (.ok result, between) ∧
        result.isCompleted = true ∧
        from_ between (executeAll world options substitution documents) = (.ok rest, last) ∧
        results = result :: rest := by
  obtain ⟨result, between, executed⟩ := executeAll_cons_eq_ok world options substitution all
  by_cases failed : result.isFailed = true
  · have first : result ∈ results := by
      cases policy : options.onError with
      | proceed =>
          rw [executeAll_proceed executed documents policy] at all
          obtain ⟨rest, _, rfl⟩ := preceded_eq_ok all
          exact List.mem_cons_self ..
      | stop =>
          obtain ⟨fault, status⟩ := result.exists_fault failed
          rw [executeAll_stop executed documents status policy] at all
          cases all
          exact List.mem_cons_self ..
    rw [DocumentResult.isFailed_of_isCompleted (completed result first)] at failed
    cases failed
  · rw [executeAll_unfailed executed documents (by simpa using failed)] at all
    obtain ⟨rest, finished, rfl⟩ := preceded_eq_ok all
    exact ⟨result, between, rest, executed, completed result (List.mem_cons_self ..), finished, rfl⟩

section Linking

variable (leaves : world.LeavesFiles) (linking : options.link = true)
  (wet : options.dryRun = false)

include leaves linking wet

/-- A document that is completed was processed, written and linked. -/
theorem executeDocument_completed {result : DocumentResult}
    (executed : from_ state (executeDocument world options substitution document) =
      (.ok result, after))
    (completed : result.isCompleted = true) :
    ∃ content between output written filled source cleared,
      from_ (state.noting (heading document)) (processed world substitution document) =
          (.ok (.ok content), between) ∧
        document.output? = some output ∧
        Files.perform state.files (Files.deliver output content) = (.ok written, filled) ∧
        Files.perform filled (Files.clearTarget written document.target) = (.ok source, cleared) ∧
        Files.perform cleared (Files.makeLink source document.target) = (.ok (), after.files) := by
  obtain ⟨outcome, between, status, worked, concluded, rfl⟩ :=
    (executeDocument_eq_ok world options substitution).mp executed
  cases outcome with
  | error fault =>
      cases concluded
      cases completed
  | ok content =>
      unfold conclude at concluded
      simp only [wet, Bool.false_eq_true, if_false] at concluded
      cases status with
      | failed fault => cases completed
      | skipped => cases completed
      | completed output? =>
          obtain ⟨output, written, filled, source, cleared, named, put, emptied, linked⟩ :=
            deliver_eq_completed linking concluded
          have untouched : between.files = (state.noting (heading document)).files :=
            processed_files leaves worked
          rw [untouched] at put
          exact ⟨content, between, output, written, filled, source, cleared, worked, named, put,
            emptied, linked⟩

/-- A document that is completed is exhibited. -/
theorem executeDocument_exhibits {start : Files} {ends : List Location} {result : DocumentResult}
    (placed : document.Placed start) (follows : start.Follows state.files ends)
    (free : ∀ location, document.Touches start location → location ∉ ends)
    (executed : from_ state (executeDocument world options substitution document) =
      (.ok result, after))
    (completed : result.isCompleted = true) :
    ∃ content between way spot file,
      from_ (state.noting (heading document)) (processed world substitution document) =
          (.ok (.ok content), between) ∧
        Exhibit start state.files after.files document content ends way spot file := by
  obtain ⟨content, between, output, written, filled, source, cleared, worked, named, put, emptied,
    linked⟩ := executeDocument_completed leaves linking wet executed completed
  obtain ⟨name, sourceNamed, made⟩ := Path.exists_of_extend named
  obtain ⟨beside, besideNamed, _⟩ :=
    output.exists_extend (by rw [made]; simp) Files.temporaryEnding
  have first : document.beside? = some beside := by
    unfold DocumentConfig.beside?
    rw [named]
    exact besideNamed
  obtain ⟨through, temporary, file, sitsBeside, sitsOutput, writes, goesOn, filed, rfl⟩ :=
    follows.deliver besideNamed (placed.proper.extend named (by decide))
      (fun way spot sits =>
        ⟨placed.temporary beside way spot first sits, free spot (.temporary first sits)⟩)
      (fun way spot sits =>
        ⟨placed.output output way spot named sits, free spot (.output named sits)⟩)
      put
  have targetFree : ∀ way spot, start.Sits document.target way spot →
      spot ∉ way ∧ start.linksOn way < Files.linkLimit ∧
        ∀ location ∈ file :: ends, location ≠ file → spot ≠ location := by
    intro way spot sits
    obtain ⟨apart, room⟩ := placed.target way spot sits
    refine ⟨apart, room, fun location listed other => ?_⟩
    rcases List.mem_cons.mp listed with same | earlier
    · exact absurd same other
    · rintro rfl
      exact free _ (.target sits) earlier
  obtain ⟨way, spot, sitsTarget, links, further, shows_⟩ :=
    goesOn.link (List.mem_cons_self ..) filed targetFree emptied linked
  refine ⟨content, between, way, spot, file, worked, ⟨_, _, named, sitsOutput⟩, sitsTarget, shows_,
    further, [temporary, file, spot], (writes.mono (by simp)).trans (links.mono (by simp)), ?_⟩
  intro location listed
  simp only [List.mem_cons, List.not_mem_nil, or_false] at listed
  rcases listed with rfl | rfl | rfl
  · exact .temporary first sitsBeside
  · exact .output named sitsOutput
  · exact .target sitsTarget

/-- In a run that completes all documents each is shown at the end, and nothing else
happened but where they touch something. -/
theorem executeAll_shows {start : Files} {ends : List Location}
    {documents : List DocumentConfig} {results : List DocumentResult}
    (orderly : start.Orderly documents) (follows : start.Follows state.files ends)
    (free : ∀ document ∈ documents, ∀ location, document.Touches start location → location ∉ ends)
    (all : from_ state (executeAll world options substitution documents) = (.ok results, last))
    (completed : ∀ result ∈ results, result.isCompleted = true) :
    (∀ before document behind, documents = before ++ document :: behind →
      ∃ earlier reached content between way spot file,
        from_ state (executeAll world options substitution before) = (.ok earlier, reached) ∧
          from_ (reached.noting (heading document)) (processed world substitution document) =
            (.ok (.ok content), between) ∧
          last.files.Shows document.target way spot file (Utf8.encode content)) ∧
      ∃ spots, Files.Within spots state.files last.files ∧
        ∀ location ∈ spots, ∃ document ∈ documents, document.Touches start location := by
  induction documents generalizing state ends results with
  | nil =>
      cases all
      refine ⟨fun before document behind split => ?_, [], .refl _ _, by simp⟩
      simp at split
  | cons first documents ih =>
      obtain ⟨grounded, placed, spared⟩ := orderly
      obtain ⟨spares, sparedLater⟩ := List.pairwise_cons.mp spared
      obtain ⟨result, between, rest, executed, done, finished, rfl⟩ :=
        executeAll_cons_of_completed all completed
      obtain ⟨content, processedState, way, spot, file, worked, exhibit⟩ :=
        executeDocument_exhibits leaves linking wet (placed first (List.mem_cons_self ..)) follows
          (free first (List.mem_cons_self ..)) executed done
      obtain ⟨shownLater, spotsLater, touchedLater, touchesLater⟩ :=
        ih ⟨grounded, fun document listed => placed document (List.mem_cons_of_mem _ listed),
            sparedLater⟩
          exhibit.follows
          (fun document listed => exhibit.free (free document (List.mem_cons_of_mem _ listed))
            (spares document listed))
          finished fun found listed => completed found (List.mem_cons_of_mem _ listed)
      have unneeded : ∀ location ∈ spotsLater, ¬ first.Needs start location := by
        intro location listed
        obtain ⟨later, laterListed, laterTouches⟩ := touchesLater location listed
        exact spares later laterListed location laterTouches
      refine ⟨?_, ?_⟩
      · intro before document behind split
        rcases List.cons_eq_append_iff.mp split with ⟨rfl, same⟩ | ⟨earlier, rfl, rfl⟩
        · cases same
          exact ⟨[], state, content, processedState, way, spot, file, rfl, worked,
            exhibit.lasts touchedLater unneeded⟩
        · obtain ⟨found, reached, shown⟩ := shownLater earlier document behind rfl
          obtain ⟨laterContent, laterState, way, spot, file, begun, shown⟩ := shown
          refine ⟨result :: found, reached, laterContent, laterState, way, spot, file, ?_, shown⟩
          rw [executeAll_unfailed executed earlier (DocumentResult.isFailed_of_isCompleted done),
            begun]
          rfl
      · obtain ⟨spots, touched, touches⟩ := exhibit.within
        refine ⟨spots ++ spotsLater, (touched.mono (by simp)).trans (touchedLater.mono (by simp)),
          ?_⟩
        intro location listed
        rcases List.mem_append.mp listed with now | later
        · exact ⟨first, List.mem_cons_self .., touches location now⟩
        · obtain ⟨document, laterListed, laterTouches⟩ := touchesLater location later
          exact ⟨document, List.mem_cons_of_mem _ laterListed, laterTouches⟩

/-- **What targets show.** In a run that links and completes all documents, where nobody
else changes files and no document touches what the target of an earlier one depends on,
every target is a link in the end, and reading through it gives the text that was computed
for its document. -/
theorem execute_shows {config : Config} {results : List DocumentResult}
    (orderly : state.files.Orderly config.documents)
    (all : from_ state (execute world options config) = (.ok results, last))
    (completed : ∀ result ∈ results, result.isCompleted = true)
    {before behind : List DocumentConfig}
    (split : config.documents = before ++ document :: behind) :
    ∃ earlier reached content between,
      from_ state (executeAll world options config.substitution before) = (.ok earlier, reached) ∧
        from_ (reached.noting (heading document))
          (processed world config.substitution document) = (.ok (.ok content), between) ∧
        last.files.isLink document.target = .ok true ∧
        last.files.read document.target = .ok (Utf8.encode content) := by
  obtain ⟨shown, _⟩ := executeAll_shows leaves linking wet orderly
    (Files.follows_refl orderly.grounded) (by simp) all completed
  obtain ⟨earlier, reached, content, between, way, spot, file, begun, worked, shows_⟩ :=
    shown before document behind split
  exact ⟨earlier, reached, content, between, begun, worked, shows_.isLink, shows_.read⟩

end Linking

/-- Two documents that do not fail are done one after the other. -/
theorem executeAll_pair {first second : DocumentConfig} {done other : DocumentResult}
    (firstDone : (from_ state (executeDocument world options substitution first)).1 = .ok done)
    (unfailed : done.isFailed = false)
    (secondDone : (from_ (from_ state (executeDocument world options substitution first)).2
      (executeDocument world options substitution second)).1 = .ok other)
    (otherUnfailed : other.isFailed = false) :
    from_ state (executeAll world options substitution [first, second]) =
      (.ok [done, other], (from_ (from_ state (executeDocument world options substitution first)).2
        (executeDocument world options substitution second)).2) := by
  have none_ : ∀ ended : State σ,
      from_ ended (executeAll world options substitution []) = (.ok [], ended) := fun _ => rfl
  rw [executeAll_unfailed (Prod.ext firstDone rfl) [second] unfailed,
    executeAll_unfailed (Prod.ext secondDone rfl) [] otherUnfailed, none_]
  rfl

/-! ## Runs on single names -/

/-- The paths of a document are single names. -/
structure Flat (document : DocumentConfig) (beside output target : Text) : Prop where
  first : document.beside? = some ⟨.relative, [beside]⟩
  written : document.output? = some ⟨.relative, [output]⟩
  aimed : document.target = ⟨.relative, [target]⟩

section Flat

variable {files : Files} {beside output target : Text} {location : Location}
  (flat : Flat document beside output target)

include flat

theorem Flat.touches (touches : document.Touches files location) :
    ∃ name ∈ [beside, output, target], location = files.here ++ [name] := by
  cases touches with
  | temporary written sits =>
      rw [flat.first] at written
      cases written
      exact ⟨beside, by simp, (sits.of_single rfl).2⟩
  | output written sits =>
      rw [flat.written] at written
      cases written
      exact ⟨output, by simp, (sits.of_single rfl).2⟩
  | target sits =>
      rw [flat.aimed] at sits
      exact ⟨target, by simp, (sits.of_single rfl).2⟩

theorem Flat.needs (needs : document.Needs files location) :
    ∃ name ∈ [output, target], location = files.here ++ [name] := by
  cases needs with
  | output written sits =>
      rw [flat.written] at written
      cases written
      exact ⟨output, by simp, (sits.of_single rfl).2⟩
  | target sits =>
      rw [flat.aimed] at sits
      exact ⟨target, by simp, (sits.of_single rfl).2⟩
  | way sits passed =>
      rw [flat.aimed] at sits
      rw [(sits.of_single rfl).1] at passed
      cases passed

theorem Flat.placed (proper : document.source.Proper)
    (linkless : files.linkAt? (files.here ++ [beside]) = none) : document.Placed files where
  proper := proper
  temporary path way spot written sits := by
    rw [flat.first] at written
    cases written
    rw [(sits.of_single rfl).2]
    exact linkless
  output path way spot written sits := by
    rw [flat.written] at written
    cases written
    rw [(sits.of_single rfl).1]
    exact List.not_mem_nil
  target way spot sits := by
    rw [flat.aimed] at sits
    rw [(sits.of_single rfl).1]
    exact ⟨List.not_mem_nil, Nat.zero_lt_succ _⟩

end Flat

/-- Both errands can be done, and the target of the first one is a link already. -/
def readyState : State Unit :=
  ⟨.start (),
    ⟨[(["one".toList], .file (Utf8.encode "1\n".toList)),
      (["one.link".toList], .link "elsewhere".toList),
      (["two".toList], .file (Utf8.encode "2\n".toList))], []⟩⟩

theorem ready_orderly : readyState.files.Orderly errands.documents := by
  have one : Flat (errand "one") "one.preprocessed.tmp".toList "one.preprocessed".toList
      "one.link".toList := ⟨rfl, rfl, rfl⟩
  have two : Flat (errand "two") "two.preprocessed.tmp".toList "two.preprocessed".toList
      "two.link".toList := ⟨rfl, rfl, rfl⟩
  refine ⟨.root, ?_, ?_⟩
  · intro document listed
    rcases List.mem_pair.mp listed with rfl | rfl
    · exact one.placed (Path.proper_ofText _) (by decide)
    · exact two.placed (Path.proper_ofText _) (by decide)
  · refine List.pairwise_pair.mpr fun location touches needs => ?_
    obtain ⟨name, touched, rfl⟩ := two.touches touches
    obtain ⟨other, needed, same⟩ := one.needs needs
    have same : name = other := by simpa using same
    have apart : ∀ name ∈ ["two.preprocessed.tmp".toList, "two.preprocessed".toList,
        "two.link".toList], name ∉ ["one.preprocessed".toList, "one.link".toList] := by decide
    exact apart name touched (same ▸ needed)

def readyOneDone : DocumentResult :=
  ⟨(errand "one").source, (errand "one").target,
    .completed (some (.ofText "/one.preprocessed".toList))⟩

theorem ready_first :
    (from_ readyState (executeDocument World.obliging.apart errandOptions errands.substitution
      (errand "one"))).1 = .ok readyOneDone := by
  cbv

theorem ready_second :
    (from_ (from_ readyState (executeDocument World.obliging.apart errandOptions
      errands.substitution (errand "one"))).2 (executeDocument World.obliging.apart errandOptions
        errands.substitution (errand "two"))).1 = .ok errandDone := by
  cbv

/-- The first target shows its document still behind the second one. -/
theorem ready_shown :
    ∃ last, from_ readyState (execute World.obliging.apart errandOptions errands) =
        (.ok [readyOneDone, errandDone], last) ∧
      ∃ content between,
        from_ (readyState.noting (heading (errand "one")))
            (processed World.obliging.apart errands.substitution (errand "one")) =
          (.ok (.ok content), between) ∧
        last.files.isLink (errand "one").target = .ok true ∧
        last.files.read (errand "one").target = .ok (Utf8.encode content) := by
  have all := executeAll_pair ready_first rfl ready_second rfl
  have completed : ∀ result ∈ [readyOneDone, errandDone], result.isCompleted = true := by
    intro result listed
    rcases List.mem_pair.mp listed with rfl | rfl <;> rfl
  obtain ⟨earlier, reached, content, between, begun, worked, linked, shown⟩ :=
    execute_shows World.obliging.apart_leavesFiles rfl rfl ready_orderly all completed
      (List.nil_append _).symm
  cases begun
  exact ⟨_, all, content, between, worked, linked, shown⟩

/-- A document that is linked with its comments and another time without them. -/
def copy (target : String) (removeDirectives : Bool) : DocumentConfig :=
  ⟨.ofText "note".toList, .ofText target.toList, ⟨some "#~".toList, none, removeDirectives⟩⟩

def copies : Config := ⟨[copy "long" false, copy "short" true], ⟨[], false⟩, ⟨none, none, true⟩⟩

def copiesState : State Unit :=
  ⟨.start (), ⟨[(["note".toList], .file (Utf8.encode "#~ # draft\n1\n".toList))], []⟩⟩

def copyDone (document : DocumentConfig) : DocumentResult :=
  ⟨document.source, document.target, .completed (some (.ofText "/note.preprocessed".toList))⟩

theorem copies_first :
    (from_ copiesState (executeDocument World.obliging.apart errandOptions copies.substitution
      (copy "long" false))).1 = .ok (copyDone (copy "long" false)) := by
  cbv

theorem copies_second :
    (from_ (from_ copiesState (executeDocument World.obliging.apart errandOptions
      copies.substitution (copy "long" false))).2
        (executeDocument World.obliging.apart errandOptions copies.substitution
          (copy "short" true))).1 = .ok (copyDone (copy "short" true)) := by
  cbv

theorem copies_processed :
    (from_ (copiesState.noting (heading (copy "long" false)))
      (processed World.obliging.apart copies.substitution (copy "long" false))).1 =
        .ok (.ok "#~ # draft\n1\n".toList) := by
  cbv

theorem copies_read :
    (from_ (from_ copiesState (executeDocument World.obliging.apart errandOptions
      copies.substitution (copy "long" false))).2
        (executeDocument World.obliging.apart errandOptions copies.substitution
          (copy "short" true))).2.files.read (copy "long" false).target =
            .ok (Utf8.encode "1\n".toList) := by
  cbv

/-- Two documents with one source are written to one place: both are completed, and in the
end the target of the first one shows the second one. -/
theorem copies_shown :
    ∃ results last, from_ copiesState (execute World.obliging.apart errandOptions copies) =
        (.ok results, last) ∧
      (∀ result ∈ results, result.isCompleted = true) ∧
      ∃ content between,
        from_ (copiesState.noting (heading (copy "long" false)))
            (processed World.obliging.apart copies.substitution (copy "long" false)) =
          (.ok (.ok content), between) ∧
        last.files.read (copy "long" false).target ≠ .ok (Utf8.encode content) := by
  refine ⟨_, _, executeAll_pair copies_first rfl copies_second rfl, ?_, _, _,
    Prod.ext copies_processed rfl, ?_⟩
  · intro result listed
    rcases List.mem_pair.mp listed with rfl | rfl <;> rfl
  · rw [copies_read]
    decide

end Run

end Tailor
