import Tailor.Proofs.Config.Problems

/-! # Configurations that were built

A configuration that was built is what its mapping writes: one document for each entry, the
fields of an entry before the defaults, and for each name in the table the value that was
written last. All of its documents can be processed: no mark is empty or begins or ends with
a blank, no part of an escape is empty, and the paths start at the root
(`Tailor.Config.build_wellFormed`).
-/

namespace Tailor

/-- The mark is a text without blanks around it. -/
structure IsMark (mark : Text) : Prop where
  some_ : mark ≠ []
  first : ∀ c, mark.head? = some c → Text.isBlank c = false
  last : ∀ c, mark.getLast? = some c → Text.isBlank c = false

/-- The mark and the escape of a treatment, if there are any, can be recognised. -/
structure Treatment.WellFormed (treatment : Treatment) : Prop where
  mark : ∀ mark ∈ treatment.mark?, IsMark mark
  escape : ∀ escape ∈ treatment.escape?, escape.opening ≠ [] ∧ escape.closing ≠ []

/-- The document can be processed: its treatment is well-formed, and its paths do not depend
on where the program runs. -/
structure DocumentConfig.WellFormed (document : DocumentConfig) : Prop where
  treatment : document.treatment.WellFormed
  source : document.source.isAbsolute = true
  target : document.target.isAbsolute = true

theorem Path.isAbsolute_under {directory : Path} (rooted : directory.isAbsolute = true)
    (path : Path) : (directory.under path).isAbsolute = true := by
  unfold under
  split
  · assumption
  · exact rooted

namespace Config

theorem WritesMark.isMark {value : Data} {mark? : Option Text} (writes : WritesMark value mark?) :
    ∀ mark ∈ mark?, IsMark mark := by
  cases writes with
  | off => nofun
  | text some_ =>
      rintro mark ⟨⟩
      exact ⟨mt Text.trim_eq_nil_iff.mp some_, fun _ => Text.not_isBlank_of_head?_trim,
        fun _ => Text.not_isBlank_of_getLast?_trim⟩

theorem WritesEscape.parts_ne_nil {value : Data} {escape? : Option Escape}
    (writes : WritesEscape value escape?) :
    ∀ escape ∈ escape?, escape.opening ≠ [] ∧ escape.closing ≠ [] := by
  cases writes with
  | off => nofun
  | parts opens closes =>
      rintro escape ⟨⟩
      exact ⟨opens, closes⟩
  | named _ _ _ opens closes =>
      rintro escape ⟨⟩
      exact ⟨opens, closes⟩

/-- What holds of everything that is written and of the default holds of a field. -/
theorem FallsBack.holds {α : Type} {writes : Data → α → Prop} {default read : α}
    {found : Option Data} {motive : α → Prop} (falls : FallsBack writes default found read)
    (own : ∀ value read, writes value read → motive read) (otherwise : motive default) :
    motive read := by
  cases falls with
  | own written => exact own _ _ written
  | default => exact otherwise

variable {around : Surroundings} {raw : List (Scalar × Data)} {config : Config}

theorem LeadsTo.isAbsolute {value : Option Data} {path : Path}
    (rooted : around.root.isAbsolute = true) (leads : LeadsTo around value path) :
    path.isAbsolute = true := by
  cases leads with
  | text _ _ => exact Path.isAbsolute_under rooted _

theorem Describes.wellFormed {defaults : Treatment} {fields : List (Scalar × Data)}
    {document : DocumentConfig} (rooted : around.root.isAbsolute = true)
    (usual : defaults.WellFormed) (describes : Describes around defaults fields document) :
    document.WellFormed where
  treatment :=
    ⟨FallsBack.holds (motive := fun mark? => ∀ mark ∈ mark?, IsMark mark) describes.mark
        (fun _ _ writes => writes.isMark) usual.mark,
      FallsBack.holds
        (motive := fun escape? => ∀ escape ∈ escape?, escape.opening ≠ [] ∧ escape.closing ≠ [])
        describes.escape (fun _ _ writes => writes.parts_ne_nil) usual.escape⟩
  source := describes.source.isAbsolute rooted
  target := describes.target.isAbsolute rooted

theorem WritesDocuments.wellFormed {defaults : Treatment} {value : Data}
    {documents : List DocumentConfig} (rooted : around.root.isAbsolute = true)
    (usual : defaults.WellFormed) (writes : WritesDocuments around defaults value documents) :
    ∀ document ∈ documents, document.WellFormed := by
  cases writes with
  | none => exact fun _ never => absurd never List.not_mem_nil
  | list each =>
      induction each with
      | nil => exact fun _ never => absurd never List.not_mem_nil
      | cons here _ ih =>
          obtain ⟨fields, _, describes⟩ := here
          exact List.forall_mem_cons.mpr ⟨describes.wellFormed rooted usual, ih⟩

theorem Writes.defaults_wellFormed (writes : Writes around raw config) :
    config.defaults.WellFormed where
  mark := writes.mark.isMark
  escape := writes.escape.parts_ne_nil

/-- The parts of an escape mean the same in order and by name. -/
theorem checkEscape_named {fields : List (Scalar × Data)}
    (known : unknownKeys escapeFields fields = []) (place : Text) :
    checkEscape (.map fields) place = checkEscape (.list (namedParts fields)) place := by
  unfold checkEscape
  dsimp only
  rw [← escapeFields, known]
  rfl

theorem writes_of_build (built : build around raw = .ok config) : Writes around raw config := by
  have certain : Certain around raw := certain_of_build fun _ broke => by
    cases built.symm.trans broke
  obtain ⟨_, reached, same, writes⟩ | ⟨_, refused⟩ := build_of_certain certain
  · obtain rfl := Except.ok.inj (built.symm.trans same)
    exact writes
  · cases built.symm.trans refused

/-- **Effective configurations.** A configuration that was built is what its mapping writes,
and below an absolute root its defaults and all its documents are well-formed. Both ways to
write an escape come to the same. -/
theorem build_wellFormed (rooted : around.root.isAbsolute = true)
    (built : build around raw = .ok config) :
    Writes around raw config ∧ config.defaults.WellFormed ∧
      (∀ document ∈ config.documents, document.WellFormed) ∧
      ∀ fields place, unknownKeys escapeFields fields = [] →
        checkEscape (.map fields) place = checkEscape (.list (namedParts fields)) place := by
  have writes := writes_of_build built
  exact ⟨writes, writes.defaults_wellFormed,
    writes.documents.wellFormed rooted writes.defaults_wellFormed,
    fun _ place known => checkEscape_named known place⟩

/-- An entry with its paths in the home directory and behind a variable, and nothing else. -/
def hanger : Data :=
  .map [(.text "source".toList, .ofText "~/vimrc".toList),
    (.text "target".toList, .ofText "$DATA/vimrc".toList)]

/-- An entry that switches directives off, has its own escape and keeps what is directed. -/
def drawer : Data :=
  .map [(.text "source".toList, .ofText "bashrc".toList),
    (.text "target".toList, .ofText "/srv/bashrc".toList), (.text "prefix".toList, .null),
    (.text "escape".toList, .list [.ofText "[".toList, .ofText "]".toList]),
    (.text "remove_instructions".toList, .scalar (.bool false))]

/-- A configuration with defaults for its two entries and one name in its table twice. -/
def wardrobe : List (Scalar × Data) :=
  [(.text "default_prefix".toList, .ofText " #~ ".toList),
    (.text "default_escape".toList, .map
      [(.text "end".toList, .ofText ">>".toList), (.text "start".toList, .ofText "<<".toList)]),
    (.text "substitutions".toList, .map
      [(.int 1, .ofText "one".toList), (.text "1".toList, .ofText "uno".toList)]),
    (.text "config".toList, .list [hanger, drawer])]

/-- A home directory and a variable are known. -/
def household : Surroundings where
  lookup := fun name => if name = "DATA".toList then some "/data".toList else none
  homes := fun account => if account = [] then some "/home/max".toList else none
  root := ⟨.root, ["etc".toList]⟩

/-- What the wardrobe writes. -/
def wardrobeConfig : Config where
  documents :=
    [⟨⟨.root, ["home".toList, "max".toList, "vimrc".toList]⟩,
        ⟨.root, ["data".toList, "vimrc".toList]⟩,
        ⟨some "#~".toList, some ⟨"<<".toList, ">>".toList⟩, true⟩⟩,
      ⟨⟨.root, ["etc".toList, "bashrc".toList]⟩, ⟨.root, ["srv".toList, "bashrc".toList]⟩,
        ⟨none, some ⟨"[".toList, "]".toList⟩, false⟩⟩]
  substitution := ⟨[("1".toList, "uno".toList)], false⟩
  defaults := ⟨some "#~".toList, some ⟨"<<".toList, ">>".toList⟩, true⟩

theorem check_wardrobe : check household wardrobe = (do
    let documents ← checkEntries household wardrobeConfig.defaults 0 [hanger, drawer]
    pure ⟨⟨documents.value, wardrobeConfig.substitution, wardrobeConfig.defaults⟩,
      documents.problems⟩) := rfl

theorem wardrobe_wellFormed :
    household.root.isAbsolute = true ∧ build household wardrobe = .ok wardrobeConfig ∧
      Writes household wardrobe wardrobeConfig ∧ wardrobeConfig.defaults.WellFormed ∧
      ∀ document ∈ wardrobeConfig.documents, document.WellFormed := by
  have first : ∀ place, checkEntry household wardrobeConfig.defaults place hanger =
      .ok (clean wardrobeConfig.documents[0]?) := by
    intro place
    cbv
  have second : ∀ place, checkEntry household wardrobeConfig.defaults place drawer =
      .ok (clean wardrobeConfig.documents[1]?) := by
    intro place
    cbv
  have built : build household wardrobe = .ok wardrobeConfig := by
    unfold build
    rw [check_wardrobe, checkEntries, first, checkEntries, second]
    rfl
  obtain ⟨writes, defaults, documents, _⟩ := build_wellFormed rfl built
  exact ⟨rfl, built, writes, defaults, documents⟩

end Config

end Tailor
