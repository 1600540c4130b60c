import Tailor.Proofs.Config.Values

/-! # Entries of configurations

The problems of an entry are those of its parts in order, and they depend on nothing but
the entry, its place and the variables (`entryProblems`); so do those of a configuration
(`problems`). Whether the check breaks down depends on nothing that was found before
(`Certain`). A configuration without problems describes one document for each entry
(`Describes`), in which a field that is missing falls back on the default (`FallsBack`).
-/

namespace Tailor

namespace Config

/-! ## Fields -/

section Fields

variable {α : Type} {writes : Data → α → Prop} {flaw? : Data → Option Flaw}
  {check : Data → Checked α} {place : Text}

/-- A field is read as what it writes, and as the default if it is missing. -/
inductive FallsBack (writes : Data → α → Prop) (default : α) : Option Data → α → Prop where
  | own {value : Data} {read : α} (own : writes value read) :
      FallsBack writes default (some value) read
  | default : FallsBack writes default none default

theorem orDefault_finds (fields : List (Scalar × Data)) (name : Text) (default : α)
    (finds : ∀ value, Finds (problemAt place (flaw? value)) (writes value) (check value)) :
    Finds (problemAt place ((Data.get? fields name).bind flaw?))
      (FallsBack writes default (Data.get? fields name)) (orDefault fields name default check) := by
  unfold orDefault
  cases Data.get? fields name with
  | none => exact finds_clean .default
  | some value => exact (finds value).mono fun _ => .own

/-- A truth value that is missing is the default. -/
theorem checkBoolean_getD_finds (found : Option Data) (default : Bool) (place : Text) :
    Finds (problemAt place (found.bind booleanFlaw?)) (FallsBack WritesBoolean default found)
      (checkBoolean (found.getD (.scalar (.bool default))) place) := by
  cases found with
  | none => exact finds_clean .default
  | some value => exact (checkBoolean_finds value place).mono fun _ => .own

theorem escapeOrDefault_comes (fields : List (Scalar × Data)) (default : Option Escape)
    (place : Text) :
    Comes (escapeOrDefault fields default place)
      (∀ value, Data.get? fields "escape".toList = some value → Listable value)
      (Finds (problemAt (field place "escape".toList)
          ((Data.get? fields "escape".toList).bind escapeFlaw?))
        (FallsBack WritesEscape default (Data.get? fields "escape".toList))) := by
  unfold escapeOrDefault
  cases Data.get? fields "escape".toList with
  | none =>
      exact comes_ok (fun _ never => by cases never) (finds_clean .default)
  | some value =>
      refine ((checkEscape_comes value _).congr ?_).mono fun _ finds => finds.mono fun _ => .own
      simp

/-- The problems of the keys that a mapping may not have. -/
def unknownProblems (allowed : List Text) (fields : List (Scalar × Data)) (place : Text) :
    List Problem :=
  (unknownKeys allowed fields).map fun key => ⟨place, .unknownField key⟩

theorem unknownFields_comes (allowed : List Text) (fields : List (Scalar × Data)) (place : Text) :
    Comes (unknownFields allowed fields place) (Writable (unknownKeys allowed fields))
      fun found => found = unknownProblems allowed fields place :=
  (requireTexts_comes _).map fun _ _ => rfl

end Fields

/-! ## Entries -/

/-- What is wrong with the entry of a document at a place. -/
def entryProblems (lookup : Text → Option Text) (place : Text) : (entry : Data) → List Problem
  | .map fields =>
      let at_ := fun (name : Text) => field place name
      unknownProblems documentFields fields place ++
        problemAt (at_ "source".toList) (pathFlaw? lookup (Data.get? fields "source".toList)) ++
        problemAt (at_ "target".toList) (pathFlaw? lookup (Data.get? fields "target".toList)) ++
        problemAt (at_ "prefix".toList) ((Data.get? fields "prefix".toList).bind markFlaw?) ++
        problemAt (at_ "escape".toList) ((Data.get? fields "escape".toList).bind escapeFlaw?) ++
        problemAt (at_ "remove_instructions".toList)
          ((Data.get? fields "remove_instructions".toList).bind booleanFlaw?)
  | _ => [⟨place, .entryNotMapping⟩]

/-- An entry can be judged: its unknown fields can be written, its paths start in known home
directories, and the fields of its escape can be listed. -/
structure FieldsCertain (around : Surroundings) (fields : List (Scalar × Data)) : Prop where
  keys : Writable (unknownKeys documentFields fields)
  source : Homed around (Data.get? fields "source".toList)
  target : Homed around (Data.get? fields "target".toList)
  escape : ∀ value, Data.get? fields "escape".toList = some value → Listable value

def EntryCertain (around : Surroundings) : (entry : Data) → Prop
  | .map fields => FieldsCertain around fields
  | _ => True

/-- The fields of an entry describe a document. -/
structure Describes (around : Surroundings) (defaults : Treatment)
    (fields : List (Scalar × Data)) (document : DocumentConfig) : Prop where
  source : LeadsTo around (Data.get? fields "source".toList) document.source
  target : LeadsTo around (Data.get? fields "target".toList) document.target
  mark : FallsBack WritesMark defaults.mark? (Data.get? fields "prefix".toList)
    document.treatment.mark?
  escape : FallsBack WritesEscape defaults.escape? (Data.get? fields "escape".toList)
    document.treatment.escape?
  remove : FallsBack WritesBoolean defaults.removeDirectives
    (Data.get? fields "remove_instructions".toList) document.treatment.removeDirectives

/-- The entry is a mapping that describes the document. -/
def WritesDocument (around : Surroundings) (defaults : Treatment) (entry : Data)
    (document : DocumentConfig) : Prop :=
  ∃ fields, entry = .map fields ∧ Describes around defaults fields document

variable (around : Surroundings) (defaults : Treatment)

theorem checkEntry_comes (place : Text) (entry : Data) :
    Comes (checkEntry around defaults place entry) (EntryCertain around entry)
      (Finds (entryProblems around.lookup place entry) fun document? =>
        ∃ document, document? = some document ∧ WritesDocument around defaults entry document) := by
  cases entry with
  | map fields =>
      unfold checkEntry
      dsimp only
      refine ((unknownFields_comes _ _ _).bind fun unknown same =>
        (checkPath_comes around _ _).bind fun source sourceFinds =>
        (checkPath_comes around _ _).bind fun target targetFinds =>
        (escapeOrDefault_comes fields defaults.escape? place).map fun escape escapeFinds =>
        ?_).congr ?_
      · subst same
        obtain ⟨sourceProblems, sourceRight⟩ := sourceFinds
        obtain ⟨targetProblems, targetRight⟩ := targetFinds
        obtain ⟨escapeProblems, escapeRight⟩ := escapeFinds
        obtain ⟨markProblems, markRight⟩ := orDefault_finds fields "prefix".toList
          defaults.mark? (checkMark_finds · (field place "prefix".toList))
        obtain ⟨removeProblems, removeRight⟩ := orDefault_finds fields
          "remove_instructions".toList defaults.removeDirectives
          (checkBoolean_finds · (field place "remove_instructions".toList))
        constructor
        · dsimp only
          rw [sourceProblems, targetProblems, markProblems, escapeProblems, removeProblems]
          rfl
        · intro nothing
          simp only [entryProblems, List.append_eq_nil_iff] at nothing
          obtain ⟨⟨⟨⟨⟨_, noSource⟩, noTarget⟩, noMark⟩, noEscape⟩, noRemove⟩ := nothing
          obtain ⟨sourcePath, sourceFound, sourceLeads⟩ := sourceRight noSource
          obtain ⟨targetPath, targetFound, targetLeads⟩ := targetRight noTarget
          rw [sourceFound, targetFound]
          exact ⟨_, rfl, fields, rfl, sourceLeads, targetLeads, markRight noMark,
            escapeRight noEscape, removeRight noRemove⟩
      · constructor
        · rintro ⟨keys, source, target, escape⟩
          exact ⟨keys, source, target, escape⟩
        · rintro ⟨keys, source, target, escape⟩
          exact ⟨keys, source, target, escape⟩
  | _ => exact comes_ok trivial (finds_flawed none)

/-- What is wrong with the entries of a list, counted from a number. -/
def entriesProblems (lookup : Text → Option Text) (index : Nat) (entries : List Data) :
    List Problem :=
  (entries.zipIdx index).flatMap fun entry => entryProblems lookup (entryPlace entry.2) entry.1

theorem checkEntries_comes (index : Nat) (entries : List Data) :
    Comes (checkEntries around defaults index entries)
      (∀ entry ∈ entries, EntryCertain around entry)
      (Finds (entriesProblems around.lookup index entries)
        (List.Forall₂ (WritesDocument around defaults) entries)) := by
  induction entries generalizing index with
  | nil =>
      exact comes_ok (fun _ never => absurd never List.not_mem_nil) (finds_clean .nil)
  | cons entry entries ih =>
      unfold checkEntries
      refine ((checkEntry_comes around defaults _ entry).bind fun first firstFinds =>
        (ih (index + 1)).map fun others othersFind => ?_).congr List.forall_mem_cons
      obtain ⟨firstProblems, firstRight⟩ := firstFinds
      obtain ⟨othersProblems, othersRight⟩ := othersFind
      have cons : entriesProblems around.lookup index (entry :: entries) =
          entryProblems around.lookup (entryPlace index) entry ++
            entriesProblems around.lookup (index + 1) entries := by
        rw [entriesProblems, List.zipIdx_cons, List.flatMap_cons]
        rfl
      constructor
      · rw [firstProblems, othersProblems, cons]
      · intro nothing
        rw [cons, List.append_eq_nil_iff] at nothing
        obtain ⟨document, found, writes⟩ := firstRight nothing.1
        rw [found]
        exact .cons writes (othersRight nothing.2)

/-! ## Configurations -/

/-- The value of a field of a mapping; one that is missing is null. -/
def valueOf (raw : List (Scalar × Data)) (name : Text) : Data := (Data.get? raw name).getD .null

/-- What is wrong with the list of documents. -/
def documentsProblems (lookup : Text → Option Text) : Data → List Problem
  | .scalar .null => []
  | .list entries => entriesProblems lookup 0 entries
  | _ => [⟨"config".toList, .documentsNotList⟩]

/-- The entries that the value lists. -/
def entriesOf : Data → List Data
  | .list entries => entries
  | _ => []

/-- The value lists one entry for each document, in order. -/
inductive WritesDocuments (around : Surroundings) (defaults : Treatment) :
    Data → List DocumentConfig → Prop where
  | none : WritesDocuments around defaults .null []
  | list {entries : List Data} {documents : List DocumentConfig}
      (each : List.Forall₂ (WritesDocument around defaults) entries documents) :
      WritesDocuments around defaults (.list entries) documents

theorem checkDocuments_comes (value : Data) :
    Comes (checkDocuments around defaults value)
      (∀ entry ∈ entriesOf value, EntryCertain around entry)
      (Finds (documentsProblems around.lookup value) (WritesDocuments around defaults value)) := by
  have noEntries : ∀ entry ∈ ([] : List Data), EntryCertain around entry :=
    fun _ never => absurd never List.not_mem_nil
  cases value with
  | scalar value =>
      cases value with
      | null => exact comes_ok noEntries (finds_clean .none)
      | _ => exact comes_ok noEntries (finds_flawed [])
  | list entries =>
      exact (checkEntries_comes around defaults 0 entries).mono fun _ finds =>
        finds.mono fun _ => .list
  | _ => exact comes_ok noEntries (finds_flawed [])

/-- What is wrong with a configuration: all its problems, in order. -/
def problems (lookup : Text → Option Text) (raw : List (Scalar × Data)) : List Problem :=
  unknownProblems topFields raw [] ++
    problemAt "default_prefix".toList (markFlaw? (valueOf raw "default_prefix".toList)) ++
    problemAt "default_escape".toList (escapeFlaw? (valueOf raw "default_escape".toList)) ++
    problemAt "default_remove_instructions".toList
      ((Data.get? raw "default_remove_instructions".toList).bind booleanFlaw?) ++
    problemAt "strict_substitutions".toList
      ((Data.get? raw "strict_substitutions".toList).bind booleanFlaw?) ++
    tableProblems (valueOf raw "substitutions".toList) ++
    documentsProblems lookup (valueOf raw "config".toList)

/-- A configuration can be judged: its unknown fields and the names in its table can be
written, the fields of its escape can be listed, and each of its entries can be judged. -/
structure Certain (around : Surroundings) (raw : List (Scalar × Data)) : Prop where
  keys : Writable (unknownKeys topFields raw)
  escape : Listable (valueOf raw "default_escape".toList)
  table : Nameable (valueOf raw "substitutions".toList)
  entries : ∀ entry ∈ entriesOf (valueOf raw "config".toList), EntryCertain around entry

/-- The mapping writes the configuration. -/
structure Writes (around : Surroundings) (raw : List (Scalar × Data)) (config : Config) :
    Prop where
  mark : WritesMark (valueOf raw "default_prefix".toList) config.defaults.mark?
  escape : WritesEscape (valueOf raw "default_escape".toList) config.defaults.escape?
  remove : FallsBack WritesBoolean true (Data.get? raw "default_remove_instructions".toList)
    config.defaults.removeDirectives
  strict : FallsBack WritesBoolean false (Data.get? raw "strict_substitutions".toList)
    config.substitution.strict
  table : WritesTable (valueOf raw "substitutions".toList) config.substitution.table
  documents : WritesDocuments around config.defaults (valueOf raw "config".toList) config.documents

/-- The check comes to a result exactly for a configuration that can be judged. It finds
all problems, and if there is none, what the mapping writes. -/
theorem check_comes (raw : List (Scalar × Data)) :
    Comes (check around raw) (Certain around raw)
      (Finds (problems around.lookup raw) (Writes around raw)) := by
  unfold check
  dsimp only
  refine ((unknownFields_comes _ _ _).bind fun unknown same =>
    (checkEscape_comes _ _).bind fun escape escapeFinds =>
    (checkTable_comes _).bind fun table tableFinds =>
    (checkDocuments_comes around _ _).map fun documents documentsFind => ?_).congr ?_
  · subst same
    obtain ⟨escapeProblems, escapeRight⟩ := escapeFinds
    obtain ⟨tableProblems, tableRight⟩ := tableFinds
    obtain ⟨documentsProblems, documentsRight⟩ := documentsFind
    obtain ⟨markProblems, markRight⟩ :=
      checkMark_finds (valueOf raw "default_prefix".toList) "default_prefix".toList
    obtain ⟨removeProblems, removeRight⟩ :=
      checkBoolean_getD_finds (Data.get? raw "default_remove_instructions".toList) true
        "default_remove_instructions".toList
    obtain ⟨strictProblems, strictRight⟩ :=
      checkBoolean_getD_finds (Data.get? raw "strict_substitutions".toList) false
        "strict_substitutions".toList
    constructor
    · dsimp only
      rw [escapeProblems, removeProblems, strictProblems, tableProblems, documentsProblems]
      unfold valueOf at markProblems
      rw [markProblems]
      rfl
    · intro nothing
      simp only [problems, List.append_eq_nil_iff] at nothing
      obtain ⟨⟨⟨⟨⟨⟨_, noMark⟩, noEscape⟩, noRemove⟩, noStrict⟩, noTable⟩, noDocuments⟩ := nothing
      exact ⟨markRight noMark, escapeRight noEscape, removeRight noRemove, strictRight noStrict,
        tableRight noTable, documentsRight noDocuments⟩
  · constructor
    · rintro ⟨keys, escape, table, entries⟩
      exact ⟨keys, escape, table, entries⟩
    · rintro ⟨keys, escape, table, entries⟩
      exact ⟨keys, escape, table, entries⟩

end Config

end Tailor
