import Tailor.Proofs.CommandLine.Rendering
import Tailor.Proofs.Config.Listing
import Tailor.Proofs.Config.Paths
import Tailor.Proofs.Files.Landing
import Tailor.Proofs.Run.Rehearsal

/-! # Rendering agrees with running

A source that is rendered with a configuration is treated as a run would treat the first
document whose source is at the same place
(`Tailor.CommandLine.RenderRequest.settled_configured`). So where the system finds something
at both paths, or at neither, rendering prints what a dry run of that document comes to
(`Tailor.CommandLine.RenderRequest.render_agrees`).
-/

namespace Tailor

/-- The first of some documents whose source is resolved as a path is; the sources of those
before it are resolved to other places. -/
inductive Files.First (files : Files) (source : Path) :
    List DocumentConfig → DocumentConfig → Prop where
  | here {document : DocumentConfig} {documents : List DocumentConfig} {place : Path}
      (own : files.resolve document.source = .ok place)
      (given : files.resolve source = .ok place) :
      First files source (document :: documents) document
  | behind {other document : DocumentConfig} {documents : List DocumentConfig}
      {elsewhere place : Path} (own : files.resolve other.source = .ok elsewhere)
      (given : files.resolve source = .ok place) (apart : elsewhere ≠ place)
      (later : First files source documents document) :
      First files source (other :: documents) document

namespace Files.First

variable {files : Files} {source : Path} {documents : List DocumentConfig}
  {document : DocumentConfig}

theorem mem (first : files.First source documents document) : document ∈ documents := by
  induction first with
  | here => exact List.mem_cons_self ..
  | behind _ _ _ _ ih => exact List.mem_cons_of_mem _ ih

theorem exists_place (first : files.First source documents document) :
    ∃ place, files.resolve source = .ok place ∧ files.resolve document.source = .ok place := by
  induction first with
  | here own given => exact ⟨_, given, own⟩
  | behind _ _ _ _ ih => exact ih

end Files.First

/-- No configuration is loaded from an empty path: that is a directory. -/
theorem Config.ne_nil_of_load {yaml : YamlReader} {lookup : Text → Option Text}
    {homes : Path.Homes} {files : Files} {path : Text} {config : Config}
    (loads : load yaml lookup homes files (.ofText path) = .ok config) : path ≠ [] := by
  rintro rfl
  obtain ⟨fault, refused⟩ := Files.read_nameless files .relative
  have data : fileData yaml files (.ofText []) =
      .error (ofReadFault (.file fault)) := by
    unfold fileData
    rw [show Path.ofText [] = ⟨.relative, []⟩ from rfl, refused]
    rfl
  unfold load at loads
  rw [data] at loads
  cases loads

namespace CommandLine.RenderRequest

variable {τ : Type}

/-- The treatment of a source is that of the first document at its place. -/
theorem treatmentOf_of_first {files : Files} {config : Config} {source : Path}
    {document : DocumentConfig} (first : files.First source config.documents document) :
    treatmentOf files config source = .ok document.treatment := by
  unfold treatmentOf
  generalize config.documents = documents at first
  induction first with
  | here own given =>
      rw [treatmentOf.go, own, given]
      exact if_pos rfl
  | behind own given apart _ ih =>
      rw [treatmentOf.go, own, given]
      exact (if_neg apart).trans ih

/-- The request to render a source with nothing but a configuration. -/
def configured (path source : Text) (level : Level) : RenderRequest :=
  { RenderRequest.plain with source, config? := some path, level }

/-- A request that asks for nothing itself leaves a treatment as it is. -/
theorem overriding_configured (path source : Text) (level : Level) (treatment : Treatment) :
    (configured path source level).overriding treatment = treatment := by
  obtain ⟨mark?, escape?, removes⟩ := treatment
  simp [overriding, configured, RenderRequest.plain]

section Printing

variable {around : Around τ} {files : Files} {input : Input} {request : RenderRequest}
  {treatment : Treatment} {substitution : Substitution}

/-- What a request finds is one treatment with one substitution. -/
theorem Configured.unique {other : Treatment} {otherSubstitution : Substitution}
    (configured : Configured around files request treatment substitution)
    (again : Configured around files request other otherSubstitution) :
    treatment = other ∧ substitution = otherSubstitution := by
  have apart : ∀ {path : Text}, request.config?.getD [] = [] → request.config? = some path →
      path = [] := by
    intro path unnamed named
    rw [named] at unnamed
    exact unnamed
  cases configured with
  | plain unnamed =>
      cases again with
      | plain _ => exact ⟨rfl, rfl⟩
      | loaded named given _ _ => exact absurd (apart unnamed named) given
  | loaded named given loads treats =>
      cases again with
      | plain unnamed => exact absurd (apart unnamed named) given
      | loaded otherNamed _ otherLoads otherTreats =>
          obtain rfl := Option.some.inj (named.symm.trans otherNamed)
          obtain rfl := Except.ok.inj (loads.symm.trans otherLoads)
          exact ⟨Except.ok.inj (treats.symm.trans otherTreats), rfl⟩

theorem Settled.unique {other : Treatment} {otherSubstitution : Substitution}
    (settled : Settled around files request treatment substitution)
    (again : Settled around files request other otherSubstitution) :
    treatment = other ∧ substitution = otherSubstitution := by
  cases settled with
  | settled configured parsed =>
      cases again with
      | settled otherwise otherParsed =>
          obtain ⟨rfl, rfl⟩ := configured.unique otherwise
          obtain rfl := Except.ok.inj (parsed.symm.trans otherParsed)
          exact ⟨rfl, rfl⟩

/-- A request that is settled prints what processing makes of the text of its source, and
has the status zero only then. -/
theorem prints_iff (settled : Settled around files request treatment substitution)
    {content : Text} :
    (((Request.render request).carryOut around files input).ending = .ok 0 ∧
        ((Request.render request).carryOut around files input).output = content) ↔
      ∃ text, files.readText request.place = .ok text ∧
        outcome around files input treatment substitution text = .ok content := by
  constructor
  · rintro ⟨ended, rfl⟩
    obtain ⟨ending, output, comes⟩ := exists_comes around files input request
    obtain ⟨ends, writes⟩ := carryOut_of_comes comes
    rw [ends] at ended
    cases ended
    -- printing is the only course with the status zero
    cases comes with
    | rendered there again reads processed =>
        obtain ⟨rfl, rfl⟩ := settled.unique again
        rw [writes]
        exact ⟨_, reads, processed⟩
  · rintro ⟨text, reads, processed⟩
    exact carryOut_of_comes
      (.rendered (Files.isThere_of_readText reads) settled reads processed)

end Printing

/-- Rendering prints what a dry run of the configuration that is reduced to the document
completes with, and has the status zero only if it completes. -/
def Agrees (around : Around τ) (files : Files) (input : Input) (request : RenderRequest)
    (config : Config) (document : DocumentConfig) : Prop :=
  ∀ options : Run.Options, options.dryRun = true → ∀ content,
    (((Request.render request).carryOut around files input).ending = .ok 0 ∧
        ((Request.render request).carryOut around files input).output = content) ↔
      Run.Rehearses (World.ofShell around.lookup around.shell none) options config document
        (start around files input) content

section Agreement

variable {around : Around τ} {files : Files} {path source : Text} {config : Config}
  {document : DocumentConfig}
  (loads : Config.load around.yaml around.lookup around.homes files (.ofText path) = .ok config)
  (first : files.First (.ofText source) config.documents document)

include loads first

/-- The request is settled with the treatment of the first document at its place and with
the substitution of the configuration. -/
theorem settled_configured (level : Level) :
    Settled around files (configured path source level) document.treatment
      config.substitution := by
  have found : Configured around files (configured path source level) document.treatment
      config.substitution :=
    .loaded rfl (Config.ne_nil_of_load loads) loads (treatmentOf_of_first first)
  have settled := Settled.settled found (show [].mapM entry = .ok [] from rfl)
  rw [overriding_configured] at settled
  exact settled

/-- **Rendering agrees with running.** A source that is rendered with nothing but a
configuration gets the treatment of the first document at its place and the substitution of
the configuration. If the system finds something at the path that is given and at the source
of the document, or at neither, what is printed is what a dry run of the document completes
with. -/
theorem render_agrees (grounded : files.Grounded files.here) (level : Level) (input : Input) :
    (from_ (start around files input)
        (checkedSettings around (configured path source level) (.ofText source))).1 =
        .ok (.ok (document.treatment, config.substitution)) ∧
      ((files.isThere (.ofText source) = .ok true ↔ files.isThere document.source = .ok true) →
        Agrees around files input (configured path source level) config document) := by
  have settled := settled_configured loads first level
  have found : Notes (start around files input)
      (checkedSettings around (configured path source level) (.ofText source))
      (.ok (.ok (document.treatment, config.substitution))) := checkedSettings_settled settled
  refine ⟨found.fst, ?_⟩
  intro alike options dry content
  obtain ⟨place, given, own⟩ := first.exists_place
  have proper : document.source.Proper :=
    (Config.proper_of_load grounded (Path.proper_ofText path) loads document first.mem).1
  have sameText := Files.readText_of_resolve grounded (Path.proper_ofText source) proper given own
    alike
  rw [prints_iff settled, Run.rehearses_iff dry]
  have noted : (start around files input).Noted
      ((start around files input).noting (Run.heading document)) := ⟨rfl, rfl, rfl⟩
  refine exists_congr fun text => and_congr (sameText text) ?_
  rw [← from_process_of_noted noted]

end Agreement

/-! ## A page and its configuration -/

/-- The name of a configuration file. -/
def setName : Text := ['s', '.', 't', 'o', 'm', 'l']

/-- A configuration that lists two documents. -/
def setText : Text :=
  ['[', '[', 'c', 'o', 'n', 'f', 'i', 'g', ']', ']', '\n',
    's', 'o', 'u', 'r', 'c', 'e', '=', '"', 'o', '"', '\n',
    't', 'a', 'r', 'g', 'e', 't', '=', '"', 'm', '"', '\n',
    '[', '[', 'c', 'o', 'n', 'f', 'i', 'g', ']', ']', '\n',
    's', 'o', 'u', 'r', 'c', 'e', '=', '"', 'p', '"', '\n',
    't', 'a', 'r', 'g', 'e', 't', '=', '"', 'l', '"', '\n']

def setEntries : List (Text × Text) := [(['o'], ['m']), (['p'], ['l'])]

def setConfig : Config :=
  ⟨setEntries.map (Config.bareDocument ⟨.root, []⟩), ⟨[], false⟩, Config.usual⟩

/-- The second document of the configuration. -/
def page : DocumentConfig := Config.bareDocument ⟨.root, []⟩ (['p'], ['l'])

/-- A tree with the source of the second document, the configuration and something else. -/
def shelf (others : List (Location × Entry)) : Files :=
  ⟨[([['p']], .file (Utf8.encode ['x', '\n'])), ([setName], .file (Utf8.encode setText))] ++
    others, []⟩

theorem read_setText : Toml.read setText = .ok (Config.listing setEntries) := by
  have read : Toml.read setText = .ok [(.text ['c', 'o', 'n', 'f', 'i', 'g'], .list
      [.map [(.text ['s', 'o', 'u', 'r', 'c', 'e'], .scalar (.text ['o'])),
          (.text ['t', 'a', 'r', 'g', 'e', 't'], .scalar (.text ['m']))],
        .map [(.text ['s', 'o', 'u', 'r', 'c', 'e'], .scalar (.text ['p'])),
          (.text ['t', 'a', 'r', 'g', 'e', 't'], .scalar (.text ['l']))]])] := by cbv
  exact read

section Shelf

variable (others : List (Location × Entry))

theorem load_shelf : Config.load bareAround.yaml bareAround.lookup bareAround.homes (shelf others)
    (.ofText setName) = .ok setConfig := by
  have reads : (shelf others).read (.ofText setName) = .ok (Utf8.encode setText) := by cbv
  have resolves : (shelf others).resolve (.ofText setName) = .ok ⟨.root, [setName]⟩ := by cbv
  have single : ∀ c ∈ ['o', 'm', 'p', 'l'], Config.Literal [c] := by
    intro c listed
    fin_cases listed <;> exact ⟨by decide, by decide, by decide, rfl⟩
  exact Config.load_listing reads rfl read_setText resolves (by simp [setEntries, single])

theorem shelf_rehearses {options : Run.Options} (dry : options.dryRun = true) :
    Run.Rehearses (World.ofShell bareAround.lookup bareAround.shell none) options setConfig page
      (start bareAround (shelf others) (.ofText [])) ['x', '\n'] := by
  have reads : (shelf others).readText page.source = .ok ['x', '\n'] := by cbv
  have plain : page.treatment.Plain := ⟨rfl, rfl⟩
  have kept : Text.dropReturns ['x', '\n'] = ['x', '\n'] := by cbv
  refine (Run.rehearses_iff dry).mpr ⟨_, reads, ?_⟩
  rw [from_process_plain _ _ plain, kept]

/-- A dry run of the page completes, so a request for it has to end with the status zero. -/
theorem not_agrees_of_ending {request : RenderRequest} {ending : Except Abort Nat}
    (ended : ((Request.render request).carryOut bareAround (shelf others)
      (.ofText [])).ending = ending)
    (fails : ending ≠ .ok 0) :
    ¬ Agrees bareAround (shelf others) (.ofText []) request setConfig page := by
  intro agrees
  have printed := (agrees ⟨true, true, .stop⟩ rfl ['x', '\n']).mpr (shelf_rehearses others rfl)
  exact fails (ended.symm.trans printed.1)

end Shelf

/-- A link to the page beside it. -/
def shortcut : List (Location × Entry) := [([['k']], .link ['p'])]

theorem shortcut_first :
    (shelf shortcut).First (.ofText ['k']) setConfig.documents page := by
  have other : (shelf shortcut).resolve ⟨.root, [['o']]⟩ = .ok ⟨.root, [['o']]⟩ := by cbv
  have given : (shelf shortcut).resolve (.ofText ['k']) = .ok ⟨.root, [['p']]⟩ := by cbv
  have own : (shelf shortcut).resolve page.source = .ok ⟨.root, [['p']]⟩ := by cbv
  exact .behind other given (by decide) (.here own given)

theorem shortcut_there : (shelf shortcut).isThere (.ofText ['k']) = .ok true ↔
    (shelf shortcut).isThere page.source = .ok true := by
  have given : (shelf shortcut).isThere (.ofText ['k']) = .ok true := by cbv
  have own : (shelf shortcut).isThere page.source = .ok true := by cbv
  rw [given, own]

/-- Through a link the page is rendered as it is run. -/
theorem shortcut_agrees :
    Config.load bareAround.yaml bareAround.lookup bareAround.homes (shelf shortcut)
        (.ofText setName) = .ok setConfig ∧
      (shelf shortcut).First (.ofText ['k']) setConfig.documents page ∧
      (shelf shortcut).Grounded (shelf shortcut).here ∧
      ((shelf shortcut).isThere (.ofText ['k']) = .ok true ↔
        (shelf shortcut).isThere page.source = .ok true) ∧
      (from_ (start bareAround (shelf shortcut) (.ofText []))
          (checkedSettings bareAround (configured setName ['k'] .warning) (.ofText ['k']))).1 =
        .ok (.ok (page.treatment, setConfig.substitution)) ∧
      Agrees bareAround (shelf shortcut) (.ofText []) (configured setName ['k'] .warning)
        setConfig page := by
  have agrees := render_agrees (load_shelf shortcut) shortcut_first .root .warning (.ofText [])
  exact ⟨load_shelf shortcut, shortcut_first, .root, shortcut_there, agrees.1,
    agrees.2 shortcut_there⟩

/-- A path to the page that leads through a directory that is not there. -/
def detour : Text := ['a', '/', '.', '.', '/', 'p']

theorem detour_first : (shelf []).First (.ofText detour) setConfig.documents page := by
  have other : (shelf []).resolve ⟨.root, [['o']]⟩ = .ok ⟨.root, [['o']]⟩ := by cbv
  have given : (shelf []).resolve (.ofText detour) = .ok ⟨.root, [['p']]⟩ := by cbv
  have own : (shelf []).resolve page.source = .ok ⟨.root, [['p']]⟩ := by cbv
  exact .behind other given (by decide) (.here own given)

theorem detour_missing :
    ((Request.render (configured setName detour .warning)).carryOut bareAround (shelf [])
      (.ofText [])).ending = .ok 1 := by
  have absent : (shelf []).isThere (.ofText detour) = .ok false := by cbv
  exact (carryOut_of_comes (.missing absent)).1

/-- The source of the first document is a link to itself. -/
def circle : List (Location × Entry) := [([['o']], .link ['o'])]

theorem circle_breaks :
    ((Request.render (configured setName ['p'] .warning)).carryOut bareAround (shelf circle)
      (.ofText [])).ending = .error (.crash (.files (.linkLoop ['/', 'o']))) := by
  have there : (shelf circle).isThere (.ofText ['p']) = .ok true := by cbv
  have lost : (shelf circle).resolve ⟨.root, [['o']]⟩ = .error (.linkLoop ['/', 'o']) := by cbv
  have fails : treatmentOf (shelf circle) setConfig (.ofText ['p']) =
      .error (.linkLoop ['/', 'o']) := by
    show ((shelf circle).resolve ⟨.root, [['o']]⟩ >>= fun own => _) = _
    rw [lost]
    rfl
  have breaks : Breaks bareAround (shelf circle) (configured setName ['p'] .warning)
      (.crash (.files (.linkLoop ['/', 'o']))) :=
    .searching rfl (by decide) (load_shelf circle) fails
  exact (carryOut_of_comes (.broken there breaks rfl)).1

/-- Rendering does not agree with running where the system finds nothing at the path that
is given, although it is resolved to the page, and where the source of an earlier document
leads in a circle. -/
theorem render_disagrees :
    (Config.load bareAround.yaml bareAround.lookup bareAround.homes (shelf []) (.ofText setName) =
          .ok setConfig ∧
        (shelf []).First (.ofText detour) setConfig.documents page ∧
        ((Request.render (configured setName detour .warning)).carryOut bareAround (shelf [])
          (.ofText [])).ending = .ok 1 ∧
        ¬ Agrees bareAround (shelf []) (.ofText []) (configured setName detour .warning)
          setConfig page) ∧
      Config.load bareAround.yaml bareAround.lookup bareAround.homes (shelf circle)
          (.ofText setName) = .ok setConfig ∧
        setConfig.documents = [Config.bareDocument ⟨.root, []⟩ (['o'], ['m']), page] ∧
        (shelf circle).resolve ⟨.root, [['o']]⟩ = .error (.linkLoop ['/', 'o']) ∧
        (shelf circle).resolve (.ofText ['p']) = .ok ⟨.root, [['p']]⟩ ∧
        (shelf circle).resolve page.source = .ok ⟨.root, [['p']]⟩ ∧
        ¬ Agrees bareAround (shelf circle) (.ofText []) (configured setName ['p'] .warning)
          setConfig page :=
  ⟨⟨load_shelf [], detour_first, detour_missing,
      not_agrees_of_ending [] detour_missing (by simp)⟩,
    load_shelf circle, rfl, by cbv, by cbv, by cbv,
    not_agrees_of_ending circle circle_breaks (by simp)⟩

end CommandLine.RenderRequest

end Tailor
