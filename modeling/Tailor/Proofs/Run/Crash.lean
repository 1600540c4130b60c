import Mathlib
import Tailor.Proofs.Files.Faults
import Tailor.Proofs.Query.Input
import Tailor.Proofs.Run.Policy

/-! # What takes a run down

A run at a terminal has a result for each document, whatever becomes of them, unless
something that is no failure of a document takes it down. There are four such things
(`Tailor.Run.Crash.Explained`): a numeral with too many digits that somebody types, a
command that cannot be handed to a process, a null character in a path, and links that
lead in a circle from where a document was written. Bytes that somebody types and that
cannot be decoded make a document fail.
-/

namespace Tailor

namespace Files

theorem readText_of_read {files : Files} {path : Path} {fault : FileFault}
    (failed : files.read path = .error fault) : files.readText path = .error (.file fault) := by
  unfold readText
  rw [failed]

/-- A path without names leads to a directory. -/
theorem directory_of_nameless {files : Files} {anchor : Anchor} {follow : Bool} {spot : Place}
    (placed : files.place follow ⟨anchor, []⟩ = .ok spot) :
    ∃ location, spot = .found location .directory := by
  obtain ⟨_, located⟩ := place_eq_ok.mp placed
  unfold locate at located
  split at located
  · cases located
  · rw [walk] at located
    cases located
    exact ⟨_, rfl⟩

/-- At a path without names no file is read. -/
theorem read_nameless (files : Files) (anchor : Anchor) :
    ∃ fault, files.read ⟨anchor, []⟩ = .error fault := by
  unfold read
  cases placed : files.place true ⟨anchor, []⟩ with
  | error fault => exact ⟨fault, rfl⟩
  | ok spot =>
      obtain ⟨location, rfl⟩ := directory_of_nameless placed
      exact ⟨_, rfl⟩

/-- A file that is read has a name. -/
theorem named_of_readText {files : Files} {path : Path} {text : Text}
    (found : files.readText path = .ok text) : path.names ≠ [] := by
  intro nameless
  obtain ⟨anchor, names⟩ := path
  cases nameless
  obtain ⟨fault, refused⟩ := read_nameless files anchor
  rw [readText_of_read refused] at found
  cases found

/-- Reading complains about a null character only where the path has one. -/
theorem null_of_readText {files : Files} {path : Path}
    (failed : files.readText path = .error (.file .nullCharacter)) : hasNull path = true := by
  unfold readText textOf at failed
  split at failed
  · split at failed <;> cases failed
  · rename_i fault unread
    cases failed
    unfold read at unread
    split at unread <;> cases unread
    rename_i placed
    cases place_plain placed with
    | null holds => exact holds

end Files

namespace Run

/-- What took a run down is found in the lines that could be typed, in the paths of its
documents, in the commands that were run or in the tree that it left. -/
inductive Crash.Explained {σ ρ : Type} (lines : List Text) (shell : Command.Shell ρ)
    (documents : List DocumentConfig) (left : State σ) : Crash → Prop where
  | numeral (line : Text) (typed : line ∈ lines) (long : Text.Overlong line) :
      Explained lines shell documents left
        (.session (.tooManyDigits (Text.trim line).length))
  | command (command : Text) (state : ρ) (reason : Text) (ran : command ∈ left.session.commands)
      (unfit : (shell command state).1 = .unfit reason) :
      Explained lines shell documents left (.session (.unfitCommand reason))
  | null (document : DocumentConfig) (listed : document ∈ documents)
      (holds : Files.hasNull document.source = true ∨ Files.hasNull document.target = true) :
      Explained lines shell documents left (.files .nullCharacter)
  | nulled (holds : left.files.Nulled) :
      Explained lines shell documents left (.files .nullCharacter)
  | circle (path : Path) (holds : left.files.locate true path = .error .tooManyLinks) :
      Explained lines shell documents left (.files (.linkLoop path.text))

variable {σ τ α β : Type}

/-- An attempt on files ends as the action on files does, and leaves the session. -/
theorem ensures_attemptFiles {action : FileAct α} {required : Files → Prop}
    {promised : α → Files → Prop} {admitted : FileFault → Files → Prop}
    (ensures : Ensures required action promised admitted) (kept : Session σ → Prop) :
    Ensures (fun state => kept state.session ∧ required state.files)
      (attemptFiles action : Act σ (Except FileFault α))
      (fun outcome state => kept state.session ∧
        match outcome with
        | .ok value => promised value state.files
        | .error fault => admitted fault state.files)
      fun _ _ => False := by
  rintro state ⟨stays, holds⟩
  have ended := ensures state.files holds
  have asked := from_attemptFiles state action
  unfold from_ Files.perform at asked
  rw [asked]
  generalize action.run.run state.files = result at ended ⊢
  rcases result with ⟨fault | value, after⟩
  · exact ⟨stays, ended⟩
  · exact ⟨stays, ended⟩

section Terminal

variable {typing : Typing} {shell : Command.Shell (τ × Files)} {documents : List DocumentConfig}
  {document : DocumentConfig}

/-- Somebody answers in the session, and what is not read yet may be typed. -/
def Attended (typing : Typing) (session : Session (Respondent × τ)) : Prop :=
  session.world.1.Within typing

/-- Where somebody answers, somebody answers still behind the part, or it crashes for a
reason. -/
def Endures (typing : Typing) (shell : Command.Shell (τ × Files))
    (documents : List DocumentConfig) (action : Act (Respondent × τ) α) : Prop :=
  Ensures (fun state => Attended typing state.session) action
    (fun _ state => Attended typing state.session)
    fun crash state => crash.Explained typing.lines shell documents state

theorem endures_pure (value : α) : Endures typing shell documents (pure value) :=
  ensures_pure fun _ attended => attended

theorem Endures.bind {action : Act (Respondent × τ) α} {next : α → Act (Respondent × τ) β}
    (first : Endures typing shell documents action)
    (second : ∀ value, Endures typing shell documents (next value)) :
    Endures typing shell documents (action >>= next) :=
  Ensures.bind first second

theorem endures_note (level : Level) (activity : Activity) (message : Text) :
    Endures typing shell documents (note level activity message) :=
  fun _ attended => attended

/-- What cannot crash crashes for any reason. -/
theorem explained_of_false {crash : Crash} {left : State (Respondent × τ)} (impossible : False) :
    crash.Explained typing.lines shell documents left :=
  impossible.elim

variable (lookup : Text → Option Text) (limit? : Option Seconds)

/-- An attempt never crashes; its outcome is a value, a problem or a crash that something
made. -/
theorem ensures_attempt {action : Tailor.Act ((Respondent × τ) × Files) α}
    (keeps : Act.KeepsTo typing shell action) :
    Ensures (fun state => Attended typing state.session) (attempt action)
      (fun outcome state => Attended typing state.session ∧
        ∀ fault, outcome = .error fault → fault.Provoked typing shell state.session.commands)
      fun _ _ => False := by
  intro state attended
  have ended := keeps state.inside attended
  have asked := from_attempt state action
  unfold from_ Tailor.Act.from_ at asked
  rw [asked]
  generalize action.run.run state.inside = result at ended ⊢
  rcases result with ⟨fault | value, after⟩
  · refine ⟨ended.2, fun found same => ?_⟩
    cases same
    exact ended.1
  · refine ⟨ended, fun found same => ?_⟩
    cases same

theorem processed_endures (substitution : Substitution) (listed : document ∈ documents) :
    Ensures (fun state => Attended typing state.session)
      (processed (World.ofShell lookup shell limit?) substitution document)
      (fun outcome state => Attended typing state.session ∧
        ∀ content, outcome = .ok content → document.source.names ≠ [])
      fun crash state => crash.Explained typing.lines shell documents state := by
  unfold processed
  refine Ensures.bind ensures_get fun found => ?_
  split
  · rename_i failed
    exact ensures_throw fun _ _ => .null document listed (.inl (Files.null_of_readText failed))
  · refine ensures_pure fun current holds => ⟨holds.2, fun content same => ?_⟩
    cases same
  · rename_i text readable
    have named := Files.named_of_readText readable
    have keeps : Act.KeepsTo typing shell (process (World.ofShell lookup shell limit?)
        document.treatment substitution text) :=
      (process_composed _ document.treatment substitution text).provoked lookup shell limit?
    refine Ensures.bind ((ensures_attempt keeps).mono (fun _ holds => holds.2)
      (fun _ _ holds => holds) fun _ _ => explained_of_false) fun outcome => ?_
    split
    · exact ensures_pure fun _ holds => ⟨holds.1, fun _ _ => named⟩
    · refine ensures_pure fun _ holds => ⟨holds.1, fun content same => ?_⟩
      cases same
    · refine ensures_pure fun _ holds => ⟨holds.1, fun content same => ?_⟩
      cases same
    · rename_i crash decodable
      refine ensures_throw fun current holds => ?_
      cases holds.2 _ rfl crash rfl with
      | numeral typed long => exact .numeral _ typed long
      | undecodable typed => exact absurd rfl (decodable _)
      | command ran unfit => exact .command _ _ _ ran unfit

theorem outputOf_eq (named : document.source.names ≠ []) :
    ∃ output, (outputOf document : Act σ Path) = pure output ∧ output.names ≠ [] ∧
      Files.hasNull output = Files.hasNull document.source := by
  obtain ⟨output, extends_, outputNamed⟩ := Path.exists_extend named Config.outputEnding
  refine ⟨output, ?_, outputNamed, Files.hasNull_extend extends_ (by decide)⟩
  have found : document.output? = some output := extends_
  unfold outputOf
  rw [found]

/-- Somebody answers in the state, and an outcome with a fault is explained by its tree. -/
def Delivers (typing : Typing) (document : DocumentConfig) (outcome : Except FileFault α)
    (state : State (Respondent × τ)) : Prop :=
  Attended typing state.session ∧ ∀ fault, outcome = .error fault →
    fault.Explained
      (Files.hasNull document.source = true ∨ Files.hasNull document.target = true) state.files

theorem linkTarget_delivers (written : Path) :
    Ensures
      (fun state : State (Respondent × τ) => Attended typing state.session ∧
        (Files.hasNull written = true → state.files.Nulled))
      (linkTarget written document.target) (Delivers typing document) fun _ _ => False := by
  unfold linkTarget
  refine Ensures.bind (ensures_attemptFiles (Files.clearTarget_faults written document.target)
    (Attended typing)) fun outcome => ?_
  cases outcome with
  | error fault =>
      refine ensures_pure fun state ⟨typed, explained⟩ => ⟨typed, fun found same => ?_⟩
      cases same
      exact explained.mono fun null => .inl (.inr null)
  | ok source =>
      have noted : Ensures
          (fun state : State (Respondent × τ) => Attended typing state.session ∧ True)
          (note .info .linking ("Linking ".toList ++ source.text ++ " to ".toList ++
            document.target.text))
          (fun _ state => Attended typing state.session ∧ True) fun _ _ => False :=
        fun _ holds => holds
      refine Ensures.bind noted fun _ => ?_
      refine (ensures_attemptFiles (Files.create_faults document.target (.link source.text)
        source.text (some document.target.text)) (Attended typing)).mono
        (fun _ holds => holds) (fun outcome state ⟨typed, ended⟩ => ⟨typed, fun fault same => ?_⟩)
        fun _ _ impossible => impossible
      cases same
      exact .plain (ended.mono .inr)

theorem deliveryFault_endures (listed : document ∈ documents) (fault : FileFault) :
    Ensures
      (fun state : State (Respondent × τ) => Attended typing state.session ∧
        fault.Explained
          (Files.hasNull document.source = true ∨ Files.hasNull document.target = true)
          state.files)
      (do return Status.failed (← deliveryFault fault))
      (fun _ state => Attended typing state.session)
      fun crash state => crash.Explained typing.lines shell documents state := by
  rintro state ⟨typed, explained⟩
  cases explained with
  | standing target => exact typed
  | circle path holds => exact .circle path holds
  | nulled holds => exact .nulled holds
  | plain plain =>
      cases plain with
      | refused refusal shown other? => exact typed
      | null holds => exact .null document listed holds

variable (options : Options)

theorem deliver_endures (listed : document ∈ documents) (named : document.source.names ≠ [])
    (content : Text) :
    Endures typing shell documents (deliver options document content) := by
  obtain ⟨output, found, outputNamed, same⟩ := outputOf_eq named
  obtain ⟨beside, extends_, _⟩ := Path.exists_extend outputNamed Files.temporaryEnding
  unfold deliver
  rw [found, pure_bind]
  refine Ensures.bind ((ensures_attemptFiles (Files.deliver_faults extends_ content)
    (Attended typing)).mono (fun _ typed => ⟨typed, trivial⟩) (fun _ _ holds => holds)
    fun _ _ => explained_of_false) fun outcome => ?_
  cases outcome with
  | error fault =>
      refine (deliveryFault_endures listed fault).mono (fun state ⟨typed, explained⟩ => ?_)
        (fun _ _ holds => holds) fun _ _ holds => holds
      exact ⟨typed, explained.mono fun null => .inl (.inl (by rwa [same] at null))⟩
  | ok written =>
      by_cases linking : options.link = true
      · simp only [linking, if_true]
        refine Ensures.bind ((linkTarget_delivers written).mono (fun _ holds => holds)
          (fun _ _ holds => holds) fun _ _ => explained_of_false) fun linked => ?_
        cases linked with
        | error fault =>
            exact (deliveryFault_endures listed fault).mono
              (fun state ⟨typed, explained⟩ => ⟨typed, explained fault rfl⟩)
              (fun _ _ holds => holds) fun _ _ holds => holds
        | ok _ => exact ensures_pure fun _ holds => holds.1
      · simp only [linking]
        exact ensures_pure fun _ holds => holds.1

theorem conclude_endures (listed : document ∈ documents) (outcome : Except DocumentFault Text)
    (named : ∀ content, outcome = .ok content → document.source.names ≠ []) :
    Endures typing shell documents (conclude options document outcome) := by
  cases outcome with
  | error fault => exact endures_pure _
  | ok content =>
      unfold conclude
      by_cases dry : options.dryRun = true
      · simp only [dry, if_true]
        obtain ⟨output, found, _⟩ := outputOf_eq (σ := Respondent × τ) (named content rfl)
        unfold announce
        rw [found, pure_bind]
        exact (endures_note _ _ _).bind fun _ => endures_pure _
      · simp only [dry]
        exact deliver_endures options listed (named content rfl) content

/-- A document that somebody at a terminal answers for has a result, or crashes for a
reason. -/
theorem executeDocument_endures (substitution : Substitution) (listed : document ∈ documents) :
    Endures typing shell documents
      (executeDocument (World.ofShell lookup shell limit?) options substitution document) := by
  have worked : Endures typing shell documents (do
      let outcome ← processed (World.ofShell lookup shell limit?) substitution document
      let status ← conclude options document outcome
      pure (⟨document.source, document.target, status⟩ : DocumentResult)) := by
    refine Ensures.bind (processed_endures lookup limit? substitution listed)
      fun outcome state ⟨typed, named⟩ => ?_
    have concluded : Endures typing shell documents (do
        let status ← conclude options document outcome
        pure (⟨document.source, document.target, status⟩ : DocumentResult)) :=
      (conclude_endures options listed outcome named).bind fun status => endures_pure _
    exact concluded state typed
  intro state typed
  have asked := from_executeDocument (World.ofShell lookup shell limit?) options substitution
    document state
  unfold from_ at asked
  rw [asked]
  exact worked _ typed

theorem executeAll_endures (substitution : Substitution) (all : List DocumentConfig)
    (listed : ∀ document ∈ all, document ∈ documents) :
    Endures typing shell documents
      (executeAll (World.ofShell lookup shell limit?) options substitution all) := by
  induction all with
  | nil => exact endures_pure []
  | cons document all ih =>
      have rest := ih fun other later => listed other (List.mem_cons_of_mem _ later)
      have goesOn : ∀ result : DocumentResult, Endures typing shell documents (do
          let others ← executeAll (World.ofShell lookup shell limit?) options substitution all
          pure (result :: others)) :=
        fun result => rest.bind fun others => endures_pure _
      unfold executeAll
      refine (executeDocument_endures lookup limit? options substitution
        (listed document (List.mem_cons_self ..))).bind fun result => ?_
      split
      · split
        · exact (endures_note _ _ _).bind fun _ => endures_pure _
        · exact (endures_note _ _ _).bind fun _ => goesOn result
      · exact goesOn result

/-- **Failures do not end a run.** Where somebody answers at a terminal, a run has one
result for each document, in order, and skips none if it goes on; or something took it
down that is found in what could be typed, in the commands that were run, in the paths or
in the tree. -/
theorem execute_ends (shell : Command.Shell (τ × Files)) (config : Config) (terminal : Terminal)
    (later : List (Utf8.Fault × List Text)) (others : τ) (cache : Cache) (trace : List Event)
    (files : Files) :
    (∃ results last,
        from_ ⟨⟨(.terminal terminal later, others), cache, trace⟩, files⟩
            (execute (World.ofShell lookup shell limit?) options config) = (.ok results, last) ∧
          results.map (fun result => (result.source, result.target)) =
            config.documents.map (fun document => (document.source, document.target)) ∧
          (options.onError = .proceed → ∀ result ∈ results, result.status ≠ .skipped)) ∨
      ∃ crash last,
        from_ ⟨⟨(.terminal terminal later, others), cache, trace⟩, files⟩
            (execute (World.ofShell lookup shell limit?) options config) = (.error crash, last) ∧
          crash.Explained (Typing.at terminal later).lines shell config.documents last := by
  have endures : Endures (Typing.at terminal later) shell config.documents
      (executeAll (World.ofShell lookup shell limit?) options config.substitution
        config.documents) :=
    executeAll_endures lookup limit? options config.substitution config.documents
      fun _ listed => listed
  have ended := endures ⟨⟨(.terminal terminal later, others), cache, trace⟩, files⟩
    (Typing.within terminal later)
  cases came : (executeAll (World.ofShell lookup shell limit?) options config.substitution
      config.documents).run.run ⟨⟨(.terminal terminal later, others), cache, trace⟩, files⟩ with
  | mk outcome last =>
  rw [came] at ended
  cases outcome with
  | error crash => exact .inr ⟨crash, last, came, ended⟩
  | ok results =>
      refine .inl ⟨results, last, came, places_executeAll _ config.substitution came, ?_⟩
      intro goesOn
      have same : options.under .proceed = options := by
        rw [← goesOn]
        rfl
      rw [← same] at came
      exact unskipped_executeAll came

end Terminal

/-- A document with a question. -/
def poll : DocumentConfig :=
  ⟨.ofText "poll".toList, .ofText "poll.link".toList, ⟨some "#~".toList, none, true⟩⟩

def pollText : Text := "#~ ASK q\n#~ OPTION a\n#~ ENDASK\n".toList

def pollQuery : Query := ⟨"q".toList, ["a".toList]⟩

/-- The question takes down what processes the document, if it does so itself. -/
theorem from_process_poll (world : World σ) (substitution : Substitution)
    {session after : Session σ} {crash : Tailor.Crash}
    (crashes : Tailor.Act.from_ session (Tailor.Act.resolve world pollQuery) =
      (.error (.crash crash), after)) :
    Tailor.Act.from_ session (process world poll.treatment substitution pollText) =
      (.error (.crash crash), after) := by
  have opened : Tailor.Act.from_ session (Reading.start.steps world ⟨"#~".toList, false⟩
      [⟨1, "#~ ASK q".toList⟩, ⟨2, "#~ OPTION a".toList⟩]) =
        (.ok ⟨[.ask 1 "q".toList [⟨"a".toList, 2⟩] []], []⟩, session) := by
    cbv
  have closed : Tailor.Act.from_ session (Reading.step world ⟨"#~".toList, false⟩
      ⟨[.ask 1 "q".toList [⟨"a".toList, 2⟩] []], []⟩ ⟨3, "#~ ENDASK".toList⟩) =
        (.error (.crash crash), after) := by
    have settled : Tailor.Act.from_ session (Tailor.Act.atLine 3 (settleQuery world pollQuery)) =
        (.error (.crash crash), after) := by
      rw [Tailor.Act.from_atLine, settleQuery, Tailor.Act.from_bind_of_error crashes]
      rfl
    change Tailor.Act.from_ session (((Reading.mk [] []).push
      (.ask 1 "q".toList [⟨"a".toList, 2⟩] [])).step world _ _) = _
    rw [Reading.step_endAsk (by cbv)]
    exact Tailor.Act.from_bind_of_error settled _
  have lines : number (Text.lines pollText) =
      [⟨1, "#~ ASK q".toList⟩, ⟨2, "#~ OPTION a".toList⟩] ++ [⟨3, "#~ ENDASK".toList⟩] := by
    cbv
  have surviving : survivors world poll.treatment pollText =
      evaluate world ⟨"#~".toList, false⟩ (Text.lines pollText) := rfl
  rw [process, surviving, evaluate, lines]
  refine Tailor.Act.from_bind_of_error (Tailor.Act.from_bind_of_error ?_ _) _
  rw [Reading.steps_append, Tailor.Act.from_bind_of_ok opened]
  exact Tailor.Act.from_bind_of_error closed _

/-- A poll, and another document behind it. -/
def polls : Config := ⟨[poll, errand "two"], ⟨[], false⟩, ⟨none, none, true⟩⟩

def pollState (typed : List Text) : State (Respondent × Unit) :=
  ⟨.start (.terminal ⟨typed, []⟩ [], ()),
    ⟨[(["poll".toList], .file (Utf8.encode pollText)),
      (["two".toList], .file (Utf8.encode "2\n".toList))], []⟩⟩

/-- A line of digits takes the run down if there are too many of them. -/
theorem execute_polls (shell : Command.Shell (Unit × Files)) {line : Text}
    (long : Text.Overlong line) (later : List Text) :
    ∃ last, from_ (pollState (line :: later))
      (execute (World.ofShell (fun _ => none) shell none) ⟨false, true, .proceed⟩ polls) =
        (.error (.session (.tooManyDigits (Text.trim line).length)), last) := by
  obtain ⟨after, crashes⟩ := Tailor.Act.resolve_overlong (fun _ => none) shell none
    (show pollQuery.isYesNo = false from rfl) long
    (show ((pollState (line :: later)).noting (heading poll)).inside.cache.get? pollQuery = none
      from rfl) (show _ = Respondent.terminal ⟨line :: later, []⟩ [] from rfl)
  have readable : ((pollState (line :: later)).noting (heading poll)).files.readText poll.source =
      .ok pollText := by
    cbv
  have tried : from_ ((pollState (line :: later)).noting (heading poll))
      (processed (World.ofShell (fun _ => none) shell none) polls.substitution poll) =
        (.error (.session (.tooManyDigits (Text.trim line).length)), .ofInside after) := by
    unfold processed
    rw [from_bind_of_ok (from_get _), readable]
    refine (from_bind_of_ok (from_attempt _ _) _).trans ?_
    rw [from_process_poll _ polls.substitution crashes]
    rfl
  obtain ⟨last, executed⟩ : ∃ last, from_ (pollState (line :: later)) (executeDocument
      (World.ofShell (fun _ => none) shell none) ⟨false, true, .proceed⟩ polls.substitution poll) =
        (.error (.session (.tooManyDigits (Text.trim line).length)), last) := by
    rw [from_executeDocument]
    exact ⟨_, from_bind_of_error tried _⟩
  exact ⟨last, from_bind_of_error executed _⟩

theorem trim_ones (count : Nat) :
    Text.trim (List.replicate (count + 1) '1' ++ ['\n']) = List.replicate (count + 1) '1' := by
  have left : Text.trimLeft (List.replicate (count + 1) '1' ++ ['\n']) =
      List.replicate (count + 1) '1' ++ ['\n'] := by
    rw [List.replicate_succ]
    rfl
  have right : List.dropWhile Text.isBlank (['\n'].reverse ++ '1' :: List.replicate count '1') =
      '1' :: List.replicate count '1' := rfl
  rw [Text.trim, left, Text.trimRight, Text.dropTrailing, List.reverse_append,
    List.reverse_replicate, List.replicate_succ, right, ← List.replicate_succ,
    List.reverse_replicate]

theorem natural?_ones (count : Nat) :
    (Text.natural? (List.replicate (count + 1) '1')).isSome = true := by
  have digits : ∀ count : Nat,
      (List.replicate count '1').mapM Text.digitValue? = some (List.replicate count 1) := by
    intro count
    induction count with
    | zero => rfl
    | succ count ih =>
        rw [List.replicate_succ, List.mapM_cons, ih]
        rfl
  unfold Text.natural?
  rw [digits, if_neg (by simp)]
  rfl

/-- One digit more than a number may have. -/
theorem overlong_ones : Text.Overlong (List.replicate (Text.digitLimit + 1) '1' ++ ['\n']) where
  numeral := by
    rw [trim_ones]
    exact natural?_ones Text.digitLimit
  long := by
    rw [trim_ones, List.length_replicate]
    exact Nat.lt_succ_self _

/-- A numeral that is typed at the prompt of the first document takes the run down,
though it shall go on and a valid number is typed next. -/
theorem polls_taken_down :
    ∃ last,
      from_ (pollState [List.replicate 4301 '1' ++ ['\n'], "1\n".toList])
        (execute (World.ofShell (fun _ => none)
          (fun _ state => (.notStarted "none".toList, state)) none)
          ⟨false, true, .proceed⟩ polls) =
          (.error (.session (.tooManyDigits 4301)), last) := by
  obtain ⟨last, taken⟩ :=
    execute_polls (fun _ state => (.notStarted "none".toList, state)) overlong_ones
      ["1\n".toList]
  rw [trim_ones, List.length_replicate] at taken
  exact ⟨last, taken⟩

end Run

end Tailor
