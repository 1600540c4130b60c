import Tailor.Proofs.Files.Outcome
import Tailor.Proofs.Text.Parts

/-! # Faults of deliveries

What can go wrong when a document is delivered. Beside refusals of the file system
and a target that is there already, only two faults are left: a null character in
the path that is worked on, and links that lead in a circle in the tree left behind
(`Tailor.FileFault.Explained`).
-/

namespace Tailor

/-- The tree holds a null character in the name of its directory or in a link; no file
system does. -/
def Files.Nulled (files : Files) : Prop :=
  (∃ name ∈ files.here, name.contains '\x00' = true) ∨
    ∃ location target, files.get? location = some (.link target) ∧ target.contains '\x00' = true

/-- The fault is an ordinary one, or what it complains about is found in the tree. -/
inductive FileFault.Explained (nulled : Prop) (files : Files) : FileFault → Prop where
  | plain {fault : FileFault} (plain : fault.Plain nulled) : Explained nulled files fault
  | nulled (holds : files.Nulled) : Explained nulled files .nullCharacter
  | standing (target : Text) : Explained nulled files (.targetExists target)
  | circle (path : Path) (holds : files.locate true path = .error .tooManyLinks) :
      Explained nulled files (.linkLoop path.text)

theorem FileFault.Explained.mono {nulled wider : Prop} {files : Files} {fault : FileFault}
    (explained : fault.Explained nulled files) (implies : nulled → wider ∨ files.Nulled) :
    fault.Explained wider files := by
  cases explained with
  | plain plain =>
      cases plain with
      | refused refusal shown other? => exact .plain (.refused refusal shown other?)
      | null holds =>
          rcases implies holds with null | tree
          · exact .plain (.null null)
          · exact .nulled tree
  | nulled holds => exact .nulled holds
  | standing target => exact .standing target
  | circle path holds => exact .circle path holds

/-- Only a path with names gets an ending. -/
theorem Path.exists_extend {path : Path} (named : path.names ≠ []) (ending : Text) :
    ∃ extended, path.extend? ending = some extended ∧ extended.names ≠ [] := by
  obtain ⟨upper, name, names⟩ := List.eq_nil_or_concat path.names |>.resolve_left named
  refine ⟨⟨path.anchor, path.names.dropLast ++ [name ++ ending]⟩, ?_, by simp⟩
  unfold extend? name?
  rw [names, List.concat_eq_append, List.getLast?_concat]
  rfl

namespace Files

section Settle

variable {files : Files} {holds : Text → Prop}

theorem forall_plain {start : Location} {names : List Text}
    (starts : ∀ name ∈ start, holds name) (further : ∀ name ∈ names, holds name) :
    ∀ name ∈ plain start names, holds name := by
  unfold plain
  induction names generalizing start with
  | nil => exact starts
  | cons first names ih =>
      rw [List.foldl_cons]
      refine ih ?_ fun name listed => further name (List.mem_cons_of_mem _ listed)
      intro name listed
      split at listed
      · exact starts name listed
      · split at listed
        · exact starts name ((List.dropLast_sublist _).subset listed)
        · rcases List.mem_append.mp listed with before | last
          · exact starts name before
          · exact further name (by simp [List.mem_singleton.mp last])

theorem forall_next {location : Location} {name : Text} {rest : List Text}
    (starts : ∀ name ∈ location, holds name) (further : ∀ other ∈ name :: rest, holds other) :
    ∀ other ∈ location ++ [name], holds other := by
  intro other listed
  rcases List.mem_append.mp listed with before | last
  · exact starts other before
  · exact further other (by simp [List.mem_singleton.mp last])

theorem forall_startOf {location : Location} (target : Text)
    (starts : ∀ name ∈ location, holds name) : ∀ name ∈ startOf target location, holds name := by
  unfold startOf
  split
  · simp
  · exact starts

/-- The names of a settled location come from the start, from the path and from links. -/
theorem forall_settleFrom
    (links : ∀ location target, files.get? location = some (.link target) →
      ∀ name ∈ trail target, holds name)
    (fuel : Nat) (following : List Location) (location : Location) (names : List Text)
    (starts : ∀ name ∈ location, holds name) (further : ∀ name ∈ names, holds name) :
    ∀ name ∈ (files.settleFrom fuel following location names).2, holds name := by
  have behind : ∀ {first : Text} {rest : List Text}, (∀ name ∈ first :: rest, holds name) →
      ∀ name ∈ rest, holds name :=
    fun all name listed => all name (List.mem_cons_of_mem _ listed)
  fun_induction settleFrom files fuel following location names with
  | case1 => exact starts
  | case2 => exact forall_plain starts further
  | case3 _ _ _ _ ih => exact ih starts (behind further)
  | case4 _ _ _ _ _ ih =>
      exact ih (fun name listed => starts name ((List.dropLast_sublist _).subset listed))
        (behind further)
  | case5 => exact forall_plain (forall_next starts further) (behind further)
  | case6 _ _ _ _ _ _ _ _ target stands _ reached settled ihInside ihBehind =>
      rw [settled] at ihInside
      exact ihBehind (ihInside (forall_startOf target starts) (links _ target stands))
        (behind further)
  | case7 _ _ _ _ _ _ _ _ target stands _ _ reached found _ ihInside =>
      rw [found] at ihInside
      exact forall_plain (ihInside (forall_startOf target starts) (links _ target stands))
        (behind further)
  | case8 _ _ _ _ _ _ _ _ _ ih => exact ih (forall_next starts further) (behind further)

/-- The names that a link's path leads through consist of its characters. -/
theorem contains_of_mem_trail {target name : Text} (listed : name ∈ trail target)
    (null : name.contains '\x00' = true) : target.contains '\x00' = true := by
  rcases List.mem_append.mp listed with part | slash
  · have inside : '\x00' ∈ name := by simpa using null
    have within := Text.mem_of_mem_splitAll (List.mem_filter.mp part).1 inside
    simpa using within
  · split at slash
    · rw [List.mem_singleton.mp slash] at null
      cases null
    · cases slash

theorem nulled_of_settle {path : Path} (clean : hasNull path = false)
    (null : hasNull (.ofLocation (files.settle path)) = true) : files.Nulled := by
  apply Classical.byContradiction
  intro intact
  have spotless : ∀ name ∈ files.settle path, name.contains '\x00' = false := by
    refine forall_settleFrom ?_ _ _ _ _ ?_ ?_
    · intro location target stands name listed
      apply Classical.byContradiction
      intro held
      have within := contains_of_mem_trail listed (by simpa using held)
      exact intact (.inr ⟨location, target, stands, within⟩)
    · unfold base
      split
      · simp
      · intro name listed
        apply Classical.byContradiction
        intro held
        exact intact (.inl ⟨name, listed, by simpa using held⟩)
    · intro name listed
      unfold hasNull at clean
      simpa using List.any_eq_false.mp clean name listed
  unfold hasNull Path.ofLocation at null
  obtain ⟨name, listed, held⟩ := List.any_eq_true.mp null
  rw [spotless name listed] at held
  cases held

end Settle

/-- A path above another one holds no further null characters. -/
theorem hasNull_of_parent {path : Path} (null : hasNull path.parent = true) :
    hasNull path = true := by
  unfold hasNull Path.parent at *
  obtain ⟨name, listed, held⟩ := List.any_eq_true.mp null
  exact List.any_eq_true.mpr ⟨name, (List.dropLast_sublist _).subset listed, held⟩

/-- An ending without null characters adds none. -/
theorem hasNull_extend {path extended : Path} {ending : Text}
    (extends_ : path.extend? ending = some extended) (clean : ending.contains '\x00' = false) :
    hasNull extended = hasNull path := by
  obtain ⟨name, last, rfl⟩ := Option.map_eq_some_iff.mp extends_
  obtain ⟨upper, names⟩ := List.getLast?_eq_some_iff.mp last
  have same : (name ++ ending).contains '\x00' = name.contains '\x00' := by
    rw [List.contains_append, clean, Bool.or_false]
  unfold hasNull
  rw [names]
  simp only [List.dropLast_concat, List.any_append, List.any_cons, List.any_nil, same]

/-- What an action admits holds whenever it fails. -/
theorem ensures_of_faults {α : Type} {admitted : FileFault → Files → Prop} {action : FileAct α}
    (fails : ∀ files fault after, perform files action = (.error fault, after) →
      admitted fault after) :
    Ensures (fun _ => True) action (fun _ _ => True) admitted := by
  intro files _
  have failed := fails files
  unfold perform at failed
  generalize action.run.run files = result at failed ⊢
  rcases result with ⟨fault | value, after⟩
  · exact failed fault after rfl
  · trivial

/-- The action fails with refusals only, or because of a null character. -/
def PlainlyFails {α : Type} (nulled : Prop) (action : FileAct α) : Prop :=
  Ensures (fun _ => True) action (fun _ _ => True) fun fault _ => fault.Plain nulled

namespace PlainlyFails

variable {α β : Type} {nulled wider : Prop} {action : FileAct α}

theorem of_eq (fails : PlainlyFails nulled action) {files after : Files} {fault : FileFault}
    (failed : perform files action = (.error fault, after)) : fault.Plain nulled := by
  have plain := fails files trivial
  unfold perform at failed
  rw [failed] at plain
  exact plain

theorem mono (fails : PlainlyFails nulled action) (implies : nulled → wider) :
    PlainlyFails wider action :=
  Ensures.mono fails (fun _ holds => holds) (fun _ _ holds => holds)
    fun _ _ plain => plain.mono implies

theorem bind {next : α → FileAct β} (first : PlainlyFails nulled action)
    (second : ∀ value, PlainlyFails nulled (next value)) : PlainlyFails nulled (action >>= next) :=
  Ensures.bind first second

theorem rethrow {fault : FileFault} (plain : fault.Plain nulled) :
    PlainlyFails nulled (throw fault : FileAct α) :=
  ensures_throw fun _ _ => plain

/-- A handler has to deal with plain faults only. -/
theorem tryCatch {handle : FileFault → FileAct α} (first : PlainlyFails nulled action)
    (second : ∀ fault, fault.Plain nulled → PlainlyFails nulled (handle fault)) :
    PlainlyFails nulled (tryCatch action handle) :=
  Ensures.tryCatch first fun fault files plain => second fault plain files trivial

end PlainlyFails

theorem create_faults (path : Path) (entry : Entry) (shown : Text) (other? : Option Text) :
    PlainlyFails (hasNull path = true) (create path entry shown other?) := by
  apply ensures_of_faults
  intro files fault after failed
  rcases create_cases files path entry shown other? with
    ⟨found, plain, done⟩ | ⟨_, _, _, _, _, done⟩
  · rw [done] at failed
    cases failed
    exact plain
  · rw [done] at failed
    cases failed

theorem remove_faults (path : Path) : PlainlyFails (hasNull path = true) (remove path) := by
  apply ensures_of_faults
  intro files fault after failed
  rcases remove_cases files path with ⟨found, plain, done⟩ | ⟨_, _, _, _, _, done⟩
  · rw [done] at failed
    cases failed
    exact plain
  · rw [done] at failed
    cases failed

theorem write_faults (path : Path) (content : Bytes) :
    PlainlyFails (hasNull path = true) (write path content) := by
  apply ensures_of_faults
  intro files fault after failed
  rcases write_cases files path content with ⟨found, plain, done⟩ | ⟨_, _, _, _, done⟩
  · rw [done] at failed
    cases failed
    exact plain
  · rw [done] at failed
    cases failed

theorem rename_faults (path other : Path) :
    PlainlyFails (hasNull path = true ∨ hasNull other = true) (rename path other) := by
  apply ensures_of_faults
  intro files fault after failed
  rcases rename_cases files path other with ⟨found, plain, done⟩ | ⟨_, _, _, _, _, _, _, done⟩
  · rw [done] at failed
    cases failed
    exact plain
  · rw [done] at failed
    cases failed

theorem ofTree_faults {α : Type} {nulled : Prop} {question : Files → Except FileFault α}
    (plain : ∀ files fault, question files = .error fault → fault.Plain nulled) :
    PlainlyFails nulled (ofTree question) := by
  apply ensures_of_faults
  intro files fault after failed
  rw [perform_ofTree] at failed
  exact plain files fault (congrArg Prod.fst failed)

/-- Looking at what stands at a path is refused at most. -/
theorem entryAt_plain {nulled : Prop} {files : Files} {follow : Bool} {path : Path}
    {fault : FileFault} (failed : files.entryAt follow path = .error fault) :
    fault.Plain nulled := by
  unfold entryAt at failed
  cases placed : files.place follow path with
  | ok place => cases place <;> simp [placed] at failed
  | error found =>
      cases place_plain placed with
      | null holds => simp [placed] at failed
      | refused refusal shown other? =>
          rw [placed] at failed
          by_cases absent : meansAbsent refusal = true
          · simp [absent] at failed
          · simp only [absent] at failed
            cases failed
            exact .refused refusal shown other?

theorem map_entryAt_plain {α : Type} {nulled : Prop} {change : Option Entry → α} {files : Files}
    {follow : Bool} {path : Path} {fault : FileFault}
    (failed : (files.entryAt follow path).map change = .error fault) : fault.Plain nulled := by
  cases found : files.entryAt follow path with
  | ok entry =>
      rw [found] at failed
      cases failed
  | error other =>
      rw [found] at failed
      cases failed
      exact entryAt_plain found

theorem ensureDirectory_faults (path : Path) :
    PlainlyFails (hasNull path = true) (ensureDirectory path) := by
  refine (create_faults path .directory path.text none).tryCatch fun fault plain => ?_
  split
  · exact .rethrow plain
  · refine (ofTree_faults fun files _ failed => map_entryAt_plain failed).bind fun there => ?_
    split
    · exact ensures_pure fun _ holds => holds
    · exact .rethrow plain
  · exact .rethrow plain

theorem ensureDirectories_faults (depth : Nat) (path : Path) :
    PlainlyFails (hasNull path = true) (ensureDirectories depth path) := by
  induction depth generalizing path with
  | zero => exact ensureDirectory_faults path
  | succ depth ih =>
      refine (ensureDirectory_faults path).tryCatch fun fault plain => ?_
      split
      · exact ((ih path.parent).mono hasNull_of_parent).bind fun _ => ensureDirectory_faults path
      · exact .rethrow plain

theorem ensureParents_faults (path : Path) :
    PlainlyFails (hasNull path = true) (ensureParents path) :=
  (ensureDirectories_faults _ _).mono hasNull_of_parent

theorem dropTemporary_faults (path : Path) :
    PlainlyFails (hasNull path = true) (dropTemporary path) := by
  refine (ofTree_faults fun files _ failed => map_entryAt_plain failed).bind fun there => ?_
  split
  · exact remove_faults path
  · exact ensures_pure fun _ holds => holds

/-- The faults of an action are explained by the tree it leaves. -/
def Explains {α : Type} (nulled : Prop) (action : FileAct α) : Prop :=
  Ensures (fun _ => True) action (fun _ _ => True) fun fault after => fault.Explained nulled after

theorem PlainlyFails.explains {α : Type} {nulled : Prop} {action : FileAct α}
    (fails : PlainlyFails nulled action) : Explains nulled action :=
  Ensures.mono fails (fun _ holds => holds) (fun _ _ holds => holds) fun _ _ plain => .plain plain

/-- Resolving a path finds links in a circle, or a location with every link
followed. -/
theorem resolve_cases (files : Files) (path : Path) :
    (∃ fault, files.resolve path = .error fault ∧ fault.Explained (hasNull path = true) files) ∨
      hasNull path = false ∧ files.resolve path = .ok (.ofLocation (files.settle path)) := by
  unfold resolve
  by_cases null : hasNull path = true
  · rw [if_pos null]
    exact .inl ⟨_, rfl, .plain (.null null)⟩
  · rw [if_neg null]
    dsimp only
    split
    · rename_i circle
      exact .inl ⟨_, rfl, .circle _ circle⟩
    · exact .inr ⟨by simpa using null, rfl⟩

/-- What resolving complains about is explained; a location that it comes to has no
null characters but those of the tree. -/
theorem resolve_faults {required : Files → Prop} {nulled : Prop} {path : Path}
    (clean : ∀ files, required files → hasNull path = true → nulled ∨ files.Nulled) :
    Ensures required (ofTree (·.resolve path))
      (fun settled files => hasNull settled = true → files.Nulled)
      fun fault files => fault.Explained nulled files := by
  intro files holds
  have asked : (ofTree (·.resolve path)).run.run files = (files.resolve path, files) :=
    perform_ofTree files _
  rw [asked]
  rcases resolve_cases files path with ⟨fault, unresolved, explained⟩ | ⟨whole, resolved⟩
  · rw [unresolved]
    exact explained.mono (clean files holds)
  · rw [resolved]
    exact nulled_of_settle whole

/-- Faults of writing a document are explained. Where it is written has no null
characters but those of the path and the tree. -/
theorem deliver_faults {output beside : Path} (named : output.extend? temporaryEnding = some beside)
    (content : Text) :
    Ensures (fun _ => True) (deliver output content)
      (fun written after => hasNull written = true → after.Nulled)
      fun fault after => fault.Explained (hasNull output = true) after := by
  have same : hasNull beside = hasNull output := hasNull_extend named (by decide)
  have found : temporary output = pure beside := by
    unfold temporary
    rw [named]
  have written : PlainlyFails (hasNull output = true) (do
      write beside (Utf8.encode content)
      rename beside output) := by
    refine ((write_faults beside _).mono (by rw [same]; exact id)).bind fun _ => ?_
    refine (rename_faults beside output).mono ?_
    rw [same, or_self]
    exact id
  unfold deliver
  rw [found, pure_bind]
  refine Ensures.bind (ensureParents_faults output).explains fun _ => ?_
  have put : PlainlyFails (hasNull output = true) (tryCatch (do
      write beside (Utf8.encode content)
      rename beside output) fun fault => do
        dropTemporary beside
        throw fault) := by
    refine written.tryCatch fun fault plain => ?_
    refine PlainlyFails.bind ((dropTemporary_faults beside).mono (by rw [same]; exact id))
      fun _ => ?_
    exact .rethrow plain
  exact Ensures.bind put.explains fun _ => resolve_faults fun _ _ => .inl

/-- Faults of making room for a link are explained, if a null character in the path
that is linked comes from the tree. -/
theorem clearTarget_faults (output target : Path) :
    Ensures (fun files => hasNull output = true → files.Nulled) (clearTarget output target)
      (fun _ _ => True) fun fault after => fault.Explained (hasNull target = true) after := by
  have looked : ∀ {α : Type} {change : Option Entry → α} {follow : Bool},
      Explains (hasNull target = true)
        (ofTree fun files => (files.entryAt follow target).map change) :=
    (ofTree_faults fun _ _ failed => map_entryAt_plain failed).explains
  have goesOn : ∀ source : Path, Explains (hasNull target = true)
      (do ensureParents target; pure source) :=
    fun source =>
      Ensures.bind (ensureParents_faults target).explains fun _ => ensures_pure fun _ holds => holds
  unfold clearTarget
  have resolved : Ensures (fun files => hasNull output = true → files.Nulled)
      (ofTree (·.resolve output)) (fun _ _ => True)
      fun fault files => fault.Explained (hasNull target = true) files :=
    (resolve_faults fun _ clean null => .inr (clean null)).mono (fun _ holds => holds)
      (fun _ _ _ => trivial) fun _ _ explained => explained
  refine Ensures.bind resolved fun source => Ensures.bind looked fun isLink => ?_
  by_cases link : isLink = true
  · simp only [link, if_true]
    exact Ensures.bind (remove_faults target).explains fun _ => goesOn source
  · simp only [link]
    refine Ensures.bind looked fun isThere => ?_
    by_cases there : isThere = true
    · simp only [there, if_true]
      exact Ensures.bind (ensures_throw fun _ _ => .standing _) fun _ => goesOn source
    · simp only [there]
      exact goesOn source

end Files

end Tailor
