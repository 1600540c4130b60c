import Mathlib
import Tailor.Proofs.CommandLine.Outcome
import Tailor.Proofs.Document.Composition
import Tailor.Proofs.Query.Input
import Tailor.Proofs.Text.Parts

/-! # Rendering a document

What a request to render a document comes to, by what is found when it is carried out
(`Tailor.CommandLine.RenderRequest.Comes`): the document with its text, the settings
that a configuration and the request give, and what processing makes of them. One of
these courses is taken, and only one (`Tailor.CommandLine.RenderRequest.carryOut_comes`).
-/

namespace Tailor

/-- What may be typed of an input. -/
def Input.typing (input : Input) : Typing :=
  ⟨Text.splitBehindLineFeeds input.text ++
      input.later.flatMap (fun piece => Text.splitBehindLineFeeds piece.2),
    input.later.map (·.1)⟩

theorem Input.within_typing (input : Input) : (Respondent.ofInput input).Within input.typing := by
  refine .terminal (List.subset_append_left ..) fun fault lines listed => ?_
  obtain ⟨⟨_, text⟩, behind, ⟨⟩⟩ := List.mem_map.mp listed
  refine ⟨List.mem_map_of_mem behind, fun line typed => ?_⟩
  exact List.mem_append_right _ (List.mem_flatMap.mpr ⟨_, behind, typed⟩)

namespace CommandLine.RenderRequest

variable {τ : Type}

/-- The argument has no equals sign, or nothing before it. -/
def Malformed (written : Text) : Prop := '=' ∉ written ∨ written.head? = some '='

/-- An argument that is well formed is cut at its first equals sign. -/
theorem entry_append {key : Text} (named : key ≠ []) (first : '=' ∉ key) (value : Text) :
    entry (key ++ '=' :: value) = .ok (key, value) := by
  obtain ⟨c, key, rfl⟩ := List.exists_cons_of_ne_nil named
  unfold entry
  rw [Text.splitOnce?_append first]

theorem entry_malformed {written : Text} (malformed : Malformed written) :
    ∃ reason, entry written = .error (.value reason) := by
  unfold entry
  rcases malformed with missing | leading
  · rw [Text.splitOnce?_of_not_mem missing]
    exact ⟨_, rfl⟩
  · obtain ⟨value, rfl⟩ := List.head?_eq_some_iff.mp leading
    have nothing : '=' ∉ ([] : Text) := List.not_mem_nil
    have cut := Text.splitOnce?_append nothing value
    rw [List.nil_append] at cut
    rw [cut]
    exact ⟨_, rfl⟩

theorem exists_entry {written : Text} (wellFormed : ¬ Malformed written) :
    ∃ pair, entry written = .ok pair := by
  obtain ⟨there, notLeading⟩ := not_or.mp wellFormed
  obtain ⟨key, value, rfl, first⟩ := List.eq_append_cons_of_mem (not_not.mp there)
  have named : key ≠ [] := by
    rintro rfl
    exact notLeading rfl
  exact ⟨(key, value), entry_append named first value⟩

/-- Arguments are entries, unless one of them is malformed. -/
theorem mapM_entry_cases (written : List Text) :
    (∃ entries, written.mapM entry = .ok entries) ∨
      (∃ item ∈ written, Malformed item) ∧
        ∃ reason, written.mapM entry = .error (.value reason) := by
  induction written with
  | nil => exact .inl ⟨[], rfl⟩
  | cons item written ih =>
      rw [List.mapM_cons]
      by_cases malformed : Malformed item
      · obtain ⟨reason, refused⟩ := entry_malformed malformed
        rw [refused]
        exact .inr ⟨⟨item, List.mem_cons_self .., malformed⟩, reason, rfl⟩
      · obtain ⟨pair, parsed⟩ := exists_entry malformed
        rw [parsed]
        rcases ih with ⟨entries, others⟩ | ⟨⟨other, listed, bad⟩, reason, refused⟩
        · rw [others]
          exact .inl ⟨pair :: entries, rfl⟩
        · rw [refused]
          exact .inr ⟨⟨other, List.mem_cons_of_mem _ listed, bad⟩, reason, rfl⟩

theorem mapM_entry_malformed {written : List Text} {item : Text} (listed : item ∈ written)
    (malformed : Malformed item) : ∃ reason, written.mapM entry = .error (.value reason) := by
  induction written with
  | nil => cases listed
  | cons first written ih =>
      rw [List.mapM_cons]
      by_cases bad : Malformed first
      · obtain ⟨reason, refused⟩ := entry_malformed bad
        rw [refused]
        exact ⟨reason, rfl⟩
      · obtain ⟨pair, parsed⟩ := exists_entry bad
        have later : item ∈ written := by
          rcases List.mem_cons.mp listed with rfl | later
          · exact absurd malformed bad
          · exact later
        obtain ⟨reason, refused⟩ := ih later
        rw [parsed, refused]
        exact ⟨reason, rfl⟩

section Settings

variable (around : Around τ) (files : Files) (request : RenderRequest)

/-- The place of the document. -/
def place : Path := .ofText request.source

/-- The treatment and the substitution that a request finds: those of a configuration,
if it names one. -/
inductive Configured : Treatment → Substitution → Prop where
  | plain (unnamed : request.config?.getD [] = []) :
      Configured ⟨none, none, true⟩ ⟨[], false⟩
  | loaded {path : Text} {config : Config} {treatment : Treatment}
      (named : request.config? = some path) (given : path ≠ [])
      (loads : Config.load around.yaml around.lookup around.homes files (.ofText path) = .ok config)
      (treats : treatmentOf files config request.place = .ok treatment) :
      Configured treatment config.substitution

/-- The treatment and the substitution with which the document is rendered: what the
request itself asks for comes first. -/
inductive Settled : Treatment → Substitution → Prop where
  | settled {treatment : Treatment} {substitution : Substitution} {entries : List (Text × Text)}
      (configured : Configured around files request treatment substitution)
      (parsed : request.substitutions.mapM entry = .ok entries) :
      Settled (request.overriding treatment)
        { substitution with table := Table.merge substitution.table entries }

/-- Loading the configuration of the request, or finding the document in it, breaks
off. -/
inductive Breaks : Abort → Prop where
  | loading {path : Text} {breakdown : Config.Breakdown} (named : request.config? = some path)
      (given : path ≠ [])
      (breaks : Config.load around.yaml around.lookup around.homes files (.ofText path) =
        .error (.breakdown breakdown)) :
      Breaks (.breakdown breakdown)
  | searching {path : Text} {config : Config} {fault : FileFault}
      (named : request.config? = some path) (given : path ≠ [])
      (loads : Config.load around.yaml around.lookup around.homes files (.ofText path) = .ok config)
      (fails : treatmentOf files config request.place = .error fault) :
      Breaks (.crash (.files fault))

/-- The configuration or an argument is invalid. -/
inductive Invalid : Prop where
  | problems {path : Text} {problems : List Config.Problem} (named : request.config? = some path)
      (given : path ≠ [])
      (invalid : Config.load around.yaml around.lookup around.homes files (.ofText path) =
        .error (.invalid problems))
  | complaint {abort : Abort} {reason : Text} (breaks : Breaks around files request abort)
      (complains : complaint? abort = some reason)
  | argument {treatment : Treatment} {substitution : Substitution} {written : Text}
      (configured : Configured around files request treatment substitution)
      (listed : written ∈ request.substitutions) (malformed : Malformed written)

/-- A request is settled, invalid or broken off. -/
theorem settled_cases :
    (∃ treatment substitution, Settled around files request treatment substitution) ∨
      Invalid around files request ∨
      ∃ abort, Breaks around files request abort ∧ complaint? abort = none := by
  have broken : ∀ abort, Breaks around files request abort → Invalid around files request ∨
      ∃ abort, Breaks around files request abort ∧ complaint? abort = none := by
    intro abort breaks
    cases complains : complaint? abort with
    | none => exact .inr ⟨abort, breaks, complains⟩
    | some reason => exact .inl (.complaint breaks complains)
  have configured : ∀ {treatment substitution},
      Configured around files request treatment substitution →
      (∃ treatment substitution, Settled around files request treatment substitution) ∨
        Invalid around files request := by
    intro treatment substitution configured
    rcases mapM_entry_cases request.substitutions with
      ⟨entries, parsed⟩ | ⟨⟨written, listed, malformed⟩, _⟩
    · exact .inl ⟨_, _, .settled configured parsed⟩
    · exact .inr (.argument configured listed malformed)
  by_cases unnamed : request.config?.getD [] = []
  · rcases configured (.plain unnamed) with settled | invalid
    · exact .inl settled
    · exact .inr (.inl invalid)
  · obtain ⟨path, named⟩ : ∃ path, request.config? = some path := by
      cases named : request.config? with
      | none => exact absurd (by rw [named]; rfl) unnamed
      | some path => exact ⟨path, rfl⟩
    have given : path ≠ [] := by
      rintro rfl
      exact unnamed (by rw [named]; rfl)
    cases loads : Config.load around.yaml around.lookup around.homes files (.ofText path) with
    | error failure =>
        cases failure with
        | invalid problems => exact .inr (.inl (.problems named given loads))
        | breakdown breakdown => exact .inr (broken _ (.loading named given loads))
    | ok config =>
        cases treats : treatmentOf files config request.place with
        | error fault => exact .inr (broken _ (.searching named given loads treats))
        | ok treatment =>
            rcases configured (.loaded named given loads treats) with settled | invalid
            · exact .inl settled
            · exact .inr (.inl invalid)

end Settings

section Steps

variable {around : Around τ} {request : RenderRequest} {state : State τ}

/-- Where the request is configured, its settings come to its arguments. -/
theorem settings_configured {treatment : Treatment} {substitution : Substitution}
    (configured : Configured around state.files request treatment substitution) :
    Notes state (settings around request request.place)
      (.ok (do
        let entries ← request.substitutions.mapM entry
        pure (request.overriding treatment,
          { substitution with table := Table.merge substitution.table entries }))) := by
  unfold settings
  cases configured with
  | plain unnamed =>
      cases named : request.config? with
      | none => exact (Notes.pure state _).bind fun after _ => .pure after _
      | some path =>
          rw [named] at unnamed
          cases (show path = [] from unnamed)
          exact (Notes.pure state _).bind fun after _ => .pure after _
  | @loaded path config treatment named given loads treats =>
      obtain ⟨c, path, rfl⟩ := List.exists_cons_of_ne_nil given
      rw [named]
      refine (loadConfig_notes loads).bind fun after noted => ?_
      have found : Notes after (inspect fun files => treatmentOf files config request.place)
          (.ok treatment) :=
        inspect_notes (by rw [noted.files]; exact treats)
      exact found.bind fun last _ => .pure last _

theorem settings_problems {path : Text} {problems : List Config.Problem}
    (named : request.config? = some path) (given : path ≠ [])
    (invalid : Config.load around.yaml around.lookup around.homes state.files (.ofText path) =
      .error (.invalid problems)) :
    Notes state (settings around request request.place) (.ok (.error (.config problems))) := by
  obtain ⟨c, path, rfl⟩ := List.exists_cons_of_ne_nil given
  unfold settings
  rw [named]
  exact (loadConfig_invalid invalid).bind fun after _ => .pure after _

theorem settings_breaks {abort : Abort} (breaks : Breaks around state.files request abort) :
    Notes state (settings around request request.place) (.error abort) := by
  unfold settings
  cases breaks with
  | @loading path breakdown named given breaks =>
      obtain ⟨c, path, rfl⟩ := List.exists_cons_of_ne_nil given
      rw [named]
      exact (loadConfig_aborts breaks).bind_error _
  | @searching path config fault named given loads fails =>
      obtain ⟨c, path, rfl⟩ := List.exists_cons_of_ne_nil given
      rw [named]
      refine (loadConfig_notes loads).bind fun after noted => ?_
      have lost : Notes after (inspect fun files => treatmentOf files config request.place)
          (.error (.crash (.files fault))) :=
        inspect_aborts (by rw [noted.files]; exact fails)
      exact lost.bind_error _

theorem checkedSettings_settled {treatment : Treatment} {substitution : Substitution}
    (settled : Settled around state.files request treatment substitution) :
    Notes state (checkedSettings around request request.place)
      (.ok (.ok (treatment, substitution))) := by
  cases settled with
  | settled configured parsed =>
      have found := settings_configured configured
      rw [parsed] at found
      exact found.tryCatch_ok _

theorem checkedSettings_invalid (invalid : Invalid around state.files request) :
    ∃ invalidity, Notes state (checkedSettings around request request.place)
      (.ok (.error invalidity)) := by
  cases invalid with
  | problems named given invalid =>
      exact ⟨_, (settings_problems named given invalid).tryCatch_ok _⟩
  | @complaint abort reason breaks complains =>
      refine ⟨.value reason, (settings_breaks breaks).tryCatch_error fun after _ => ?_⟩
      rw [complains]
      exact .pure after _
  | argument configured listed malformed =>
      obtain ⟨reason, refused⟩ := mapM_entry_malformed listed malformed
      have found := settings_configured configured
      rw [refused] at found
      exact ⟨.value reason, found.tryCatch_ok _⟩

theorem checkedSettings_breaks {abort : Abort} (breaks : Breaks around state.files request abort)
    (incurable : complaint? abort = none) :
    Notes state (checkedSettings around request request.place) (.error abort) := by
  refine (settings_breaks breaks).tryCatch_error fun after _ => ?_
  rw [incurable]
  exact .throw after abort

/-- Processing in a request is processing in its session. -/
theorem from_perform_attempt {α : Type} (state : State τ)
    (action : Tailor.Act ((Respondent × τ) × Files) α) :
    from_ state (perform (Run.attempt action)) =
      (.ok (Tailor.Act.from_ state.inside action).1,
        .ofInside (Tailor.Act.from_ state.inside action).2) :=
  rfl

end Steps

section Course

variable (around : Around τ) (files : Files) (input : Input) (request : RenderRequest)

/-- A request starts with an unread input, and nothing answered or noted. -/
def start : State τ := ⟨.start (.ofInput input, around.others), files⟩

/-- What processing the text of the document comes to. -/
def outcome (treatment : Treatment) (substitution : Substitution) (text : Text) :
    Except Fault Text :=
  (Tailor.Act.from_ (start around files input).inside
    (Tailor.process (World.ofShell around.lookup around.shell none) treatment substitution text)).1

/-- The course of rendering, by its ending and its output. -/
inductive Comes : Except Abort Nat → Text → Prop where
  | missing (absent : files.isThere request.place = .ok false) : Comes (.ok 1) []
  | unseen {fault : FileFault} (fails : files.isThere request.place = .error fault) :
      Comes (.error (.crash (.files fault))) []
  | invalid (there : files.isThere request.place = .ok true)
      (invalid : Invalid around files request) : Comes (.ok 2) []
  | broken {abort : Abort} (there : files.isThere request.place = .ok true)
      (breaks : Breaks around files request abort) (incurable : complaint? abort = none) :
      Comes (.error abort) []
  | unreadable {treatment : Treatment} {substitution : Substitution} {fault : FileFault}
      (there : files.isThere request.place = .ok true)
      (settled : Settled around files request treatment substitution)
      (fails : files.readText request.place = .error (.file fault)) : Comes (.ok 1) []
  | undecodable {treatment : Treatment} {substitution : Substitution} {fault : Utf8.Fault}
      (there : files.isThere request.place = .ok true)
      (settled : Settled around files request treatment substitution)
      (fails : files.readText request.place = .error (.undecodable fault)) :
      Comes (.error (.undecodable fault)) []
  | unprocessed {treatment : Treatment} {substitution : Substitution} {text : Text}
      {what : Problem} {line : Option Nat} (there : files.isThere request.place = .ok true)
      (settled : Settled around files request treatment substitution)
      (reads : files.readText request.place = .ok text)
      (fails : outcome around files input treatment substitution text =
        .error (.problem what line)) :
      Comes (.ok 1) []
  | crashed {treatment : Treatment} {substitution : Substitution} {text : Text}
      {crash : Crash} (there : files.isThere request.place = .ok true)
      (settled : Settled around files request treatment substitution)
      (reads : files.readText request.place = .ok text)
      (fails : outcome around files input treatment substitution text = .error (.crash crash)) :
      Comes (.error (.crash (.session crash))) []
  | rendered {treatment : Treatment} {substitution : Substitution} {text output : Text}
      (there : files.isThere request.place = .ok true)
      (settled : Settled around files request treatment substitution)
      (reads : files.readText request.place = .ok text)
      (processed : outcome around files input treatment substitution text = .ok output) :
      Comes (.ok 0) output

/-- One of the courses is taken. -/
theorem exists_comes : ∃ ending output, Comes around files input request ending output := by
  cases there : files.isThere request.place with
  | error fault => exact ⟨_, _, .unseen there⟩
  | ok found =>
      cases found with
      | false => exact ⟨_, _, .missing there⟩
      | true =>
          rcases settled_cases around files request with
            ⟨treatment, substitution, settled⟩ | invalid | ⟨abort, breaks, incurable⟩
          · cases reads : files.readText request.place with
            | error fault =>
                cases fault with
                | file fault => exact ⟨_, _, .unreadable there settled reads⟩
                | undecodable fault => exact ⟨_, _, .undecodable there settled reads⟩
            | ok text =>
                cases processed : outcome around files input treatment substitution text with
                | ok output => exact ⟨_, _, .rendered there settled reads processed⟩
                | error fault =>
                    cases fault with
                    | problem what line => exact ⟨_, _, .unprocessed there settled reads processed⟩
                    | crash crash => exact ⟨_, _, .crashed there settled reads processed⟩
          · exact ⟨_, _, .invalid there invalid⟩
          · exact ⟨_, _, .broken there breaks incurable⟩

end Course

section Evaluation

variable {around : Around τ} {files : Files} {input : Input} {request : RenderRequest}

/-- Carrying out the request leaves what rendering leaves. -/
theorem carryOut_of_from {outcome : Except Abort (Nat × Text)} {last : State τ}
    (renders : from_ (start around files input) (request.render around) = (outcome, last)) :
    ((Request.render request).carryOut around files input).ending = outcome.map (·.1) ∧
      ((Request.render request).carryOut around files input).output =
        (outcome.toOption.map (·.2)).getD [] ∧
      ((Request.render request).carryOut around files input).commands =
        last.session.commands := by
  unfold from_ start at renders
  unfold Request.carryOut
  dsimp only
  rw [renders]
  cases outcome <;> exact ⟨rfl, rfl, rfl⟩

theorem carryOut_of_render {status : Nat} {output : Text}
    (renders : (from_ (start around files input) (request.render around)).1 =
      .ok (status, output)) :
    ((Request.render request).carryOut around files input).ending = .ok status ∧
      ((Request.render request).carryOut around files input).output = output := by
  obtain ⟨ends, writes, _⟩ := carryOut_of_from (Prod.ext renders rfl)
  exact ⟨ends, writes⟩

theorem carryOut_of_abort {abort : Abort}
    (aborts : (from_ (start around files input) (request.render around)).1 = .error abort) :
    ((Request.render request).carryOut around files input).ending = .error abort ∧
      ((Request.render request).carryOut around files input).output = [] := by
  obtain ⟨ends, writes, _⟩ := carryOut_of_from (Prod.ext aborts rfl)
  exact ⟨ends, writes⟩

/-- A document that is there and whose request is settled is processed behind some notes. -/
theorem exists_process {treatment : Treatment} {substitution : Substitution}
    (there : files.isThere request.place = .ok true)
    (settled : Settled around files request treatment substitution) (input : Input) :
    ∃ after, (start around files input).Noted after ∧
      from_ (start around files input) (request.render around) =
        from_ after (process around request.place treatment substitution) := by
  have looked : Notes (start around files input) (inspect (·.isThere request.place))
      (.ok true) := inspect_notes there
  obtain ⟨between, seen, noted⟩ := looked
  have found : Notes between (checkedSettings around request request.place)
      (.ok (.ok (treatment, substitution))) :=
    checkedSettings_settled (by rw [noted.files]; exact settled)
  obtain ⟨after, checked, later⟩ := found
  exact ⟨after, noted.trans later,
    (from_bind_of_ok seen _).trans (from_bind_of_ok checked _)⟩

section Process

variable {after : State τ} (noted : (start around files input).Noted after)
  {treatment : Treatment} {substitution : Substitution}

include noted

/-- In a request a text is processed as it would be at its start. -/
theorem from_process_of_noted (treatment : Treatment) (substitution : Substitution)
    (text : Text) :
    (Tailor.Act.from_ after.inside (Tailor.process
      (World.ofShell around.lookup around.shell none) treatment substitution text)).1 =
        outcome around files input treatment substitution text := by
  have same : after.inside.Coincide (start around files input).inside :=
    ⟨Prod.ext noted.world noted.files, noted.cache⟩
  exact ((process_composed _ treatment substitution text).coincide same).1

theorem process_unreadable {fault : FileFault}
    (fails : files.readText request.place = .error (.file fault)) :
    (from_ after (process around request.place treatment substitution)).1 = .ok (1, []) := by
  have here : after.files.readText request.place = .error (.file fault) := by
    rw [noted.files]
    exact fails
  refine Notes.fst (.get_bind ?_)
  rw [here]
  exact (note_notes after _ _ _).bind fun last _ => .pure last _

theorem process_undecodable {fault : Utf8.Fault}
    (fails : files.readText request.place = .error (.undecodable fault)) :
    (from_ after (process around request.place treatment substitution)).1 =
      .error (.undecodable fault) := by
  have here : after.files.readText request.place = .error (.undecodable fault) := by
    rw [noted.files]
    exact fails
  refine Notes.fst (.get_bind ?_)
  rw [here]
  exact .throw after _

/-- The text of the document is processed, and what that comes to is dealt with in the state
that it leaves. -/
theorem process_readable {text : Text} (reads : files.readText request.place = .ok text) :
    ∃ last, from_ after (process around request.place treatment substitution) =
        (match outcome around files input treatment substitution text with
          | .ok output => .ok (0, output)
          | .error (.problem _ _) => .ok (1, [])
          | .error (.crash crash) => .error (.crash (.session crash)), last) ∧
      last.session.commands = (Tailor.Act.from_ after.inside (Tailor.process
        (World.ofShell around.lookup around.shell none) treatment substitution
          text)).2.commands := by
  have here : after.files.readText request.place = .ok text := by
    rw [noted.files]
    exact reads
  have performed := from_perform_attempt after (Tailor.process
    (World.ofShell around.lookup around.shell none) treatment substitution text)
  rw [from_process_of_noted noted] at performed
  unfold process
  rw [from_bind_of_ok (show from_ after get = (.ok after, after) from rfl), here]
  dsimp only
  rw [from_bind_of_ok performed]
  rcases outcome around files input treatment substitution text with
    (⟨what, line⟩ | crash) | output
  · refine ⟨_, rfl, ?_⟩
    simp [Session.commands, Run.State.ofInside]
  · exact ⟨_, rfl, rfl⟩
  · exact ⟨_, rfl, rfl⟩

/-- Processing crashes only if something that may be typed or was run made it. -/
theorem provoked_of_crash {text : Text} {crash : Crash}
    (crashed : outcome around files input treatment substitution text = .error (.crash crash)) :
    crash.Provoked input.typing around.shell (Tailor.Act.from_ after.inside (Tailor.process
      (World.ofShell around.lookup around.shell none) treatment substitution text)).2.commands := by
  have keeps : Act.KeepsTo input.typing around.shell (Tailor.process
      (World.ofShell around.lookup around.shell none) treatment substitution text) :=
    (process_composed _ treatment substitution text).provoked around.lookup around.shell none
  have attended : after.session.world.1.Within input.typing := by
    rw [noted.world]
    exact input.within_typing
  rw [← from_process_of_noted noted] at crashed
  exact (Act.admitted_of_ensures keeps attended (Prod.ext crashed rfl)).1 crash rfl

end Process

/-- A course that is taken decides the ending and the output. -/
theorem carryOut_of_comes {ending : Except Abort Nat} {output : Text}
    (comes : Comes around files input request ending output) :
    ((Request.render request).carryOut around files input).ending = ending ∧
      ((Request.render request).carryOut around files input).output = output := by
  cases comes with
  | missing absent =>
      have looked : Notes (start around files input) (inspect (·.isThere request.place))
        (.ok false) := inspect_notes absent
      refine carryOut_of_render (looked.bind fun after _ => ?_).fst
      rw [Bool.not_false, if_pos rfl]
      exact (note_notes after _ _ _).bind fun last _ => .pure last _
  | unseen fails =>
      have lost : Notes (start around files input) (inspect (·.isThere request.place)) (.error _) :=
        inspect_aborts fails
      exact carryOut_of_abort (lost.bind_error _).fst
  | invalid there invalid =>
      have looked : Notes (start around files input) (inspect (·.isThere request.place))
        (.ok true) := inspect_notes there
      refine carryOut_of_render (looked.bind fun after noted => ?_).fst
      have still : Invalid around after.files request := by
        rw [noted.files]
        exact invalid
      obtain ⟨invalidity, found⟩ := checkedSettings_invalid still
      refine found.bind fun last _ => ?_
      cases invalidity with
      | config problems =>
          exact (forIn_notes last problems _ fun _ state => note_notes state _ _ _).bind
            fun done _ => .pure done _
      | value reason => exact (note_notes last _ _ _).bind fun done _ => .pure done _
  | broken there breaks incurable =>
      have looked : Notes (start around files input) (inspect (·.isThere request.place))
        (.ok true) := inspect_notes there
      refine carryOut_of_abort (looked.bind fun after noted => ?_).fst
      have broken : Notes after (checkedSettings around request request.place) (.error _) :=
        checkedSettings_breaks (by rw [noted.files]; exact breaks) incurable
      exact broken.bind_error _
  | unreadable there settled fails =>
      obtain ⟨after, noted, renders⟩ := exists_process there settled input
      exact carryOut_of_render (by rw [renders, process_unreadable noted fails])
  | undecodable there settled fails =>
      obtain ⟨after, noted, renders⟩ := exists_process there settled input
      exact carryOut_of_abort (by rw [renders, process_undecodable noted fails])
  | unprocessed there settled reads fails =>
      obtain ⟨after, noted, renders⟩ := exists_process there settled input
      obtain ⟨last, processes, _⟩ := process_readable noted reads
      exact carryOut_of_render (by rw [renders, processes, fails])
  | crashed there settled reads fails =>
      obtain ⟨after, noted, renders⟩ := exists_process there settled input
      obtain ⟨last, processes, _⟩ := process_readable noted reads
      exact carryOut_of_abort (by rw [renders, processes, fails])
  | rendered there settled reads processed =>
      obtain ⟨after, noted, renders⟩ := exists_process there settled input
      obtain ⟨last, processes, _⟩ := process_readable noted reads
      exact carryOut_of_render (by rw [renders, processes, processed])

/-- A request that crashes in processing was made to by something that was typed or run. -/
theorem carryOut_provoked {treatment : Treatment} {substitution : Substitution} {text : Text}
    {crash : Crash} (there : files.isThere request.place = .ok true)
    (settled : Settled around files request treatment substitution)
    (reads : files.readText request.place = .ok text)
    (fails : outcome around files input treatment substitution text = .error (.crash crash)) :
    crash.Provoked input.typing around.shell
      ((Request.render request).carryOut around files input).commands := by
  obtain ⟨after, noted, renders⟩ := exists_process there settled input
  obtain ⟨last, processes, commands⟩ := process_readable noted reads
  obtain ⟨_, _, ran⟩ := carryOut_of_from (renders.trans processes)
  rw [ran, commands]
  exact provoked_of_crash noted fails

end Evaluation

/-- **Rendering.** Of the courses that rendering a document may take, it takes the one
that fits what it finds. It ends with status zero, one or two, or it is aborted: by a
source that cannot be looked up or decoded, by a configuration that breaks off, or by
what somebody types or a command that is run, if these make processing crash. It has an
output only with status zero. -/
theorem carryOut_comes (around : Around τ) (files : Files) (input : Input)
    (request : RenderRequest) :
    (∀ ending output,
        (((Request.render request).carryOut around files input).ending = ending ∧
            ((Request.render request).carryOut around files input).output = output) ↔
          Comes around files input request ending output) ∧
      (∀ status, ((Request.render request).carryOut around files input).ending = .ok status →
        status ∈ [0, 1, 2]) ∧
      ((Request.render request).carryOut around files input).promptsInOutput = false ∧
      (((Request.render request).carryOut around files input).output ≠ [] →
        ((Request.render request).carryOut around files input).ending = .ok 0) ∧
      ∀ crash, ((Request.render request).carryOut around files input).ending =
          .error (.crash (.session crash)) →
        crash.Provoked input.typing around.shell
          ((Request.render request).carryOut around files input).commands := by
  obtain ⟨ending, output, comes⟩ := exists_comes around files input request
  obtain ⟨ends, writes⟩ := carryOut_of_comes comes
  refine ⟨fun otherEnding otherOutput => ⟨?_, carryOut_of_comes⟩, ?_, rfl, ?_, ?_⟩
  · rintro ⟨rfl, rfl⟩
    rw [ends, writes]
    exact comes
  · intro status same
    rw [ends] at same
    subst same
    cases comes <;> decide
  · intro some_
    rw [ends]
    rw [writes] at some_
    cases comes <;> first | rfl | exact absurd rfl some_
  · intro crash same
    rw [ends] at same
    subst same
    cases comes with
    | crashed there settled reads fails => exact carryOut_provoked there settled reads fails
    | broken there breaks => cases breaks

/-- A request to render a document without settings. -/
def bare : RenderRequest := { RenderRequest.plain with source := "page".toList }

/-- Nothing is set, no YAML can be read and no command can be run. -/
def bareAround : Around Unit :=
  ⟨fun _ => none, fun _ => none, fun _ => .error (.malformed "none".toList),
    fun _ state => (.notStarted "none".toList, state), ()⟩

/-- The document is a byte that no text begins with. -/
def undecodableFiles : Files := ⟨[(["page".toList], .file [0xff])], []⟩

/-- A source that cannot be decoded aborts the request. -/
theorem bare_undecodable :
    ((Request.render bare).carryOut bareAround undecodableFiles (.ofText [])).ending =
      .error (.undecodable ⟨.badStart, 0, 1, 0xff⟩) := by
  have there : undecodableFiles.isThere bare.place = .ok true := by cbv
  have fails : undecodableFiles.readText bare.place =
      .error (.undecodable ⟨.badStart, 0, 1, 0xff⟩) := by cbv
  exact (carryOut_of_comes (.undecodable there (.settled (.plain rfl) rfl) fails)).1

end CommandLine.RenderRequest

end Tailor
