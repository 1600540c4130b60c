import Mathlib
import Tailor.Proofs.Config.Entries

/-! # Problems of configurations

A configuration that is built or refused is judged by all its problems in order
(`Tailor.Config.build_judges`). Whether there is such an answer depends on what the
surroundings know about home directories and on which keys can be written and put in order,
and the problems are then those of every place at fault (`Tailor.Config.build_answers`).
-/

namespace Tailor

namespace Config

variable {lookup : Text → Option Text} {raw : List (Scalar × Data)}

/-! ## Places at fault -/

theorem mem_problemAt {place : Text} {flaw? : Option Flaw} {problem : Problem} :
    problem ∈ problemAt place flaw? ↔ ∃ flaw, flaw? = some flaw ∧ problem = ⟨place, flaw⟩ := by
  cases flaw? with
  | none => simp [problemAt]
  | some flaw => simp [problemAt]

/-- Only the text itself is the same key as a text. -/
theorem sameKey_text_iff {key : Scalar} {text : Text} :
    key.sameKey (.text text) = true ↔ key = .text text := by
  cases key <;> simp [Scalar.sameKey, Scalar.number?]

theorem mem_unknownKeys {allowed : List Text} {fields : List (Scalar × Data)} {key : Scalar} :
    key ∈ unknownKeys allowed fields ↔
      (∃ value, (key, value) ∈ fields) ∧ ∀ name ∈ allowed, key ≠ .text name := by
  simp [unknownKeys, sameKey_text_iff]

theorem mem_unknownProblems {allowed : List Text} {fields : List (Scalar × Data)} {place : Text}
    {problem : Problem} : problem ∈ unknownProblems allowed fields place ↔
      ∃ key, ((∃ value, (key, value) ∈ fields) ∧ ∀ name ∈ allowed, key ≠ .text name) ∧
        problem = ⟨place, .unknownField key⟩ := by
  simp only [unknownProblems, List.mem_map, mem_unknownKeys, eq_comm]

/-- What is wrong with an entry, at its own place or at that of one of its fields. -/
inductive EntryFaulty (lookup : Text → Option Text) (place : Text) : Data → Problem → Prop where
  | notMapping {entry : Data} (other : ∀ fields, entry ≠ .map fields) :
      EntryFaulty lookup place entry ⟨place, .entryNotMapping⟩
  | unknown {fields : List (Scalar × Data)} {key : Scalar} {value : Data}
      (listed : (key, value) ∈ fields) (unknown : ∀ name ∈ documentFields, key ≠ .text name) :
      EntryFaulty lookup place (.map fields) ⟨place, .unknownField key⟩
  | source {fields : List (Scalar × Data)} {flaw : Flaw}
      (wrong : pathFlaw? lookup (Data.get? fields "source".toList) = some flaw) :
      EntryFaulty lookup place (.map fields) ⟨field place "source".toList, flaw⟩
  | target {fields : List (Scalar × Data)} {flaw : Flaw}
      (wrong : pathFlaw? lookup (Data.get? fields "target".toList) = some flaw) :
      EntryFaulty lookup place (.map fields) ⟨field place "target".toList, flaw⟩
  | mark {fields : List (Scalar × Data)} {value : Data} {flaw : Flaw}
      (given : Data.get? fields "prefix".toList = some value)
      (wrong : markFlaw? value = some flaw) :
      EntryFaulty lookup place (.map fields) ⟨field place "prefix".toList, flaw⟩
  | escape {fields : List (Scalar × Data)} {value : Data} {flaw : Flaw}
      (given : Data.get? fields "escape".toList = some value)
      (wrong : escapeFlaw? value = some flaw) :
      EntryFaulty lookup place (.map fields) ⟨field place "escape".toList, flaw⟩
  | remove {fields : List (Scalar × Data)} {value : Data} {flaw : Flaw}
      (given : Data.get? fields "remove_instructions".toList = some value)
      (wrong : booleanFlaw? value = some flaw) :
      EntryFaulty lookup place (.map fields) ⟨field place "remove_instructions".toList, flaw⟩

/-- What is wrong with a table, as a whole or at the place of one of its keys. -/
inductive TableFaulty : Data → Problem → Prop where
  | notMapping {table : Data} (given : table ≠ .null) (other : ∀ entries, table ≠ .map entries) :
      TableFaulty table ⟨tablePlace, .tableNotMapping⟩
  | value {entries : List (Scalar × Data)} {key : Scalar} {value : Data}
      (listed : (key, value) ∈ entries) (other : ∀ text, value ≠ .ofText text) :
      TableFaulty (.map entries) ⟨field tablePlace key.written, .notText value⟩

/-- What is wrong with the documents, as a whole or at the place of one of the entries. -/
inductive DocumentsFaulty (lookup : Text → Option Text) : Data → Problem → Prop where
  | notList {documents : Data} (given : documents ≠ .null)
      (other : ∀ entries, documents ≠ .list entries) :
      DocumentsFaulty lookup documents ⟨"config".toList, .documentsNotList⟩
  | entry {entries : List Data} {index : Nat} {entry : Data} {problem : Problem}
      (here : entries[index]? = some entry)
      (wrong : EntryFaulty lookup (entryPlace index) entry problem) :
      DocumentsFaulty lookup (.list entries) problem

/-- What is wrong with a configuration, and at which place. -/
inductive Faulty (lookup : Text → Option Text) (raw : List (Scalar × Data)) : Problem → Prop where
  | unknown {key : Scalar} {value : Data} (listed : (key, value) ∈ raw)
      (unknown : ∀ name ∈ topFields, key ≠ .text name) : Faulty lookup raw ⟨[], .unknownField key⟩
  | mark {flaw : Flaw} (wrong : markFlaw? (valueOf raw "default_prefix".toList) = some flaw) :
      Faulty lookup raw ⟨"default_prefix".toList, flaw⟩
  | escape {flaw : Flaw} (wrong : escapeFlaw? (valueOf raw "default_escape".toList) = some flaw) :
      Faulty lookup raw ⟨"default_escape".toList, flaw⟩
  | remove {value : Data} {flaw : Flaw}
      (given : Data.get? raw "default_remove_instructions".toList = some value)
      (wrong : booleanFlaw? value = some flaw) :
      Faulty lookup raw ⟨"default_remove_instructions".toList, flaw⟩
  | strict {value : Data} {flaw : Flaw}
      (given : Data.get? raw "strict_substitutions".toList = some value)
      (wrong : booleanFlaw? value = some flaw) :
      Faulty lookup raw ⟨"strict_substitutions".toList, flaw⟩
  | table {problem : Problem}
      (wrong : TableFaulty (valueOf raw "substitutions".toList) problem) :
      Faulty lookup raw problem
  | documents {problem : Problem}
      (wrong : DocumentsFaulty lookup (valueOf raw "config".toList) problem) :
      Faulty lookup raw problem

theorem mem_entryProblems_iff {place : Text} {entry : Data} {problem : Problem} :
    problem ∈ entryProblems lookup place entry ↔ EntryFaulty lookup place entry problem := by
  unfold entryProblems
  split
  · rename_i fields
    simp only [List.mem_append, or_assoc, mem_problemAt, mem_unknownProblems,
      Option.bind_eq_some_iff]
    refine ⟨fun listed => ?_, fun faulty => ?_⟩
    · obtain ⟨key, ⟨⟨value, listed⟩, unknown⟩, rfl⟩ | ⟨flaw, wrong, rfl⟩ | ⟨flaw, wrong, rfl⟩ |
        ⟨flaw, ⟨value, given, wrong⟩, rfl⟩ | ⟨flaw, ⟨value, given, wrong⟩, rfl⟩ |
        ⟨flaw, ⟨value, given, wrong⟩, rfl⟩ := listed
      · exact .unknown listed unknown
      · exact .source wrong
      · exact .target wrong
      · exact .mark given wrong
      · exact .escape given wrong
      · exact .remove given wrong
    · cases faulty with
      | notMapping other => exact absurd rfl (other fields)
      | unknown listed unknown => exact .inl ⟨_, ⟨⟨_, listed⟩, unknown⟩, rfl⟩
      | source wrong => exact .inr (.inl ⟨_, wrong, rfl⟩)
      | target wrong => exact .inr (.inr (.inl ⟨_, wrong, rfl⟩))
      | mark given wrong => exact .inr (.inr (.inr (.inl ⟨_, ⟨_, given, wrong⟩, rfl⟩)))
      | escape given wrong => exact .inr (.inr (.inr (.inr (.inl ⟨_, ⟨_, given, wrong⟩, rfl⟩))))
      | remove given wrong => exact .inr (.inr (.inr (.inr (.inr ⟨_, ⟨_, given, wrong⟩, rfl⟩))))
  · rename_i other
    rw [List.mem_singleton]
    refine ⟨fun same => same ▸ .notMapping other, fun faulty => ?_⟩
    cases faulty with
    | notMapping _ => rfl
    | _ => exact absurd rfl (other _)

theorem valueProblem?_eq_some_iff {key : Scalar} {value : Data} {problem : Problem} :
    valueProblem? (key, value) = some problem ↔ (∀ text, value ≠ .ofText text) ∧
      problem = ⟨field tablePlace key.written, .notText value⟩ := by
  unfold valueProblem?
  split
  · rename_i text same
    exact ⟨nofun, fun other => absurd same (other.1 text)⟩
  · rename_i other
    rw [Option.some.injEq, eq_comm]
    exact ⟨fun same => ⟨other, same⟩, And.right⟩

theorem mem_tableProblems_iff {table : Data} {problem : Problem} :
    problem ∈ tableProblems table ↔ TableFaulty table problem := by
  unfold tableProblems
  split
  · refine ⟨fun never => absurd never List.not_mem_nil, fun faulty => ?_⟩
    cases faulty with
    | notMapping given _ => exact absurd rfl given
  · rename_i entries
    simp only [List.mem_filterMap, Prod.exists, valueProblem?_eq_some_iff]
    refine ⟨fun listed => ?_, fun faulty => ?_⟩
    · obtain ⟨key, value, listed, other, rfl⟩ := listed
      exact .value listed other
    · cases faulty with
      | notMapping _ other => exact absurd rfl (other entries)
      | value listed other => exact ⟨_, _, listed, other, rfl⟩
  · rename_i given other
    rw [List.mem_singleton]
    refine ⟨fun same => same ▸ .notMapping given other, fun faulty => ?_⟩
    cases faulty with
    | notMapping _ _ => rfl
    | value _ _ => exact absurd rfl (other _)

theorem mem_entriesProblems_iff {entries : List Data} {problem : Problem} :
    problem ∈ entriesProblems lookup 0 entries ↔
      ∃ index entry, entries[index]? = some entry ∧
        EntryFaulty lookup (entryPlace index) entry problem := by
  simp only [entriesProblems, List.mem_flatMap, Prod.exists, List.mem_zipIdx_iff_getElem?,
    mem_entryProblems_iff]
  exact exists_comm

theorem mem_documentsProblems_iff {documents : Data} {problem : Problem} :
    problem ∈ documentsProblems lookup documents ↔ DocumentsFaulty lookup documents problem := by
  unfold documentsProblems
  split
  · refine ⟨fun never => absurd never List.not_mem_nil, fun faulty => ?_⟩
    cases faulty with
    | notList given _ => exact absurd rfl given
  · rename_i entries
    rw [mem_entriesProblems_iff]
    refine ⟨fun listed => ?_, fun faulty => ?_⟩
    · obtain ⟨index, entry, here, wrong⟩ := listed
      exact .entry here wrong
    · cases faulty with
      | notList _ other => exact absurd rfl (other entries)
      | entry here wrong => exact ⟨_, _, here, wrong⟩
  · rename_i given other
    rw [List.mem_singleton]
    refine ⟨fun same => same ▸ .notList given other, fun faulty => ?_⟩
    cases faulty with
    | notList _ _ => rfl
    | entry _ _ => exact absurd rfl (other _)

/-- The problems of a configuration are those of the places at fault. -/
theorem mem_problems_iff {problem : Problem} :
    problem ∈ problems lookup raw ↔ Faulty lookup raw problem := by
  simp only [problems, List.mem_append, or_assoc, mem_problemAt, mem_unknownProblems,
    Option.bind_eq_some_iff, mem_tableProblems_iff, mem_documentsProblems_iff]
  refine ⟨fun listed => ?_, fun faulty => ?_⟩
  · obtain ⟨key, ⟨⟨value, listed⟩, unknown⟩, rfl⟩ | ⟨flaw, wrong, rfl⟩ | ⟨flaw, wrong, rfl⟩ |
      ⟨flaw, ⟨value, given, wrong⟩, rfl⟩ | ⟨flaw, ⟨value, given, wrong⟩, rfl⟩ | wrong | wrong :=
      listed
    · exact .unknown listed unknown
    · exact .mark wrong
    · exact .escape wrong
    · exact .remove given wrong
    · exact .strict given wrong
    · exact .table wrong
    · exact .documents wrong
  · cases faulty with
    | unknown listed unknown => exact .inl ⟨_, ⟨⟨_, listed⟩, unknown⟩, rfl⟩
    | mark wrong => exact .inr (.inl ⟨_, wrong, rfl⟩)
    | escape wrong => exact .inr (.inr (.inl ⟨_, wrong, rfl⟩))
    | remove given wrong => exact .inr (.inr (.inr (.inl ⟨_, ⟨_, given, wrong⟩, rfl⟩)))
    | strict given wrong => exact .inr (.inr (.inr (.inr (.inl ⟨_, ⟨_, given, wrong⟩, rfl⟩))))
    | table wrong => exact .inr (.inr (.inr (.inr (.inr (.inl wrong)))))
    | documents wrong => exact .inr (.inr (.inr (.inr (.inr (.inr wrong)))))

/-! ## Answers -/

section Build

variable {around : Surroundings}

/-- A configuration that can be judged is built as what it writes, or refused for all of
its problems. -/
theorem build_of_certain (certain : Certain around raw) :
    (problems around.lookup raw = [] ∧
        ∃ config, build around raw = .ok config ∧ Writes around raw config) ∨
      (problems around.lookup raw ≠ [] ∧
        build around raw = .error (.invalid (problems around.lookup raw))) := by
  obtain ⟨checked, done, found, writes⟩ := (check_comes around raw).succeeds certain
  unfold build
  rw [done]
  dsimp only
  rw [found]
  by_cases nothing : problems around.lookup raw = []
  · rw [nothing]
    exact .inl ⟨rfl, checked.value, rfl, writes nothing⟩
  · rw [if_neg (mt List.isEmpty_iff.mp nothing)]
    exact .inr ⟨nothing, rfl⟩

theorem build_of_not_certain (uncertain : ¬Certain around raw) :
    ∃ breakdown, build around raw = .error (.breakdown breakdown) := by
  obtain ⟨breakdown, broke⟩ := (check_comes around raw).breaks uncertain
  unfold build
  rw [broke]
  exact ⟨breakdown, rfl⟩

theorem certain_of_build (ends : ∀ breakdown, build around raw ≠ .error (.breakdown breakdown)) :
    Certain around raw := by
  by_contra uncertain
  obtain ⟨breakdown, broke⟩ := build_of_not_certain uncertain
  exact ends breakdown broke

/-- There is one document for each entry that is listed. -/
theorem length_documents {defaults : Treatment} {value : Data} {documents : List DocumentConfig}
    (writes : WritesDocuments around defaults value documents) :
    documents.length = (entriesOf value).length := by
  cases writes with
  | none => rfl
  | list each => exact each.length_eq.symm

/-- **Every problem is reported.** If the check does not break down, the configuration is
refused exactly if it has problems, for all of them in order: those of the unknown fields,
of each default, of the strictness, of the table and of the entries one after the other
(`problems`). Otherwise there is a document for each entry. The problems of an entry depend
on the entry, its place and the variables alone: not on the defaults, nor on what else is
in the surroundings. -/
theorem build_judges (ends : ∀ breakdown, build around raw ≠ .error (.breakdown breakdown)) :
    (problems around.lookup raw = [] ∧ (∃ config, build around raw = .ok config ∧
          config.documents.length = (entriesOf (valueOf raw "config".toList)).length) ∨
        problems around.lookup raw ≠ [] ∧
          build around raw = .error (.invalid (problems around.lookup raw))) ∧
      ∀ defaults place entry checked, checkEntry around defaults place entry = .ok checked →
        checked.problems = entryProblems around.lookup place entry := by
  refine ⟨?_, fun defaults place entry checked done =>
    ((checkEntry_comes around defaults place entry).of_eq_ok done).2.problems_eq⟩
  obtain ⟨nothing, config, built, writes⟩ | ⟨some_, refused⟩ :=
    build_of_certain (certain_of_build ends)
  · exact .inl ⟨nothing, config, built, length_documents writes.documents⟩
  · exact .inr ⟨some_, refused⟩

/-- An entry with a field that is unknown, a bad name in its source and no target, and one that
is no document. -/
def garbledEntries : List Data :=
  [.map [(.text "colour".toList, .null), (.text "source".toList, .ofText "$\x7b1\x7d".toList)],
    .ofText "vimrc".toList]

/-- A configuration with a misspelt field, a mark of blanks, half an escape, a number in its
table and garbled entries. -/
def garbled : List (Scalar × Data) :=
  [(.text "confg".toList, .null), (.text "default_prefix".toList, .ofText "  ".toList),
    (.text "default_escape".toList, .list [.ofText "<<".toList]),
    (.text "substitutions".toList, .map [(.int 1, .scalar (.int 2))]),
    (.text "config".toList, .list garbledEntries)]

/-- Nothing is known about variables and accounts. -/
def wilderness : Surroundings := ⟨fun _ => none, fun _ => none, ⟨.root, ["home".toList]⟩⟩

/-- The check of the garbled configuration comes to an end. -/
theorem garbled_certain : Certain wilderness garbled where
  keys := by
    have keys : unknownKeys topFields garbled = [.text "confg".toList] := by cbv
    rw [keys]
    exact List.forall_mem_singleton.mpr rfl
  escape := trivial
  table := List.forall_mem_singleton.mpr (by decide)
  entries := by
    have entries : entriesOf (valueOf garbled "config".toList) = garbledEntries := by cbv
    rw [entries]
    refine List.forall_mem_cons.mpr ⟨⟨List.forall_mem_singleton.mpr rfl, ?_, trivial, ?_⟩,
      List.forall_mem_singleton.mpr trivial⟩
    · intro expanded expands
      have fails : Expression.expandVariables wilderness.lookup "$\x7b1\x7d".toList =
          .error (.badName "1".toList) := by cbv
      cases fails.symm.trans expands
    · intro value given
      have missing : Data.get? [(.text "colour".toList, .null),
          (.text "source".toList, .ofText "$\x7b1\x7d".toList)] "escape".toList = none := by cbv
      cases missing.symm.trans given

/-- All that is wrong with the garbled configuration, in order. -/
def garbledProblems : List Problem :=
  [⟨[], .unknownField (.text "confg".toList)⟩, ⟨"default_prefix".toList, .blankMark⟩,
    ⟨"default_escape".toList, .badEscapeParts⟩,
    ⟨"substitutions.1".toList, .notText (.scalar (.int 2))⟩,
    ⟨"config[0]".toList, .unknownField (.text "colour".toList)⟩,
    ⟨"config[0].source".toList, .badReference (.badName "1".toList)⟩,
    ⟨"config[0].target".toList, .missing⟩, ⟨"config[1]".toList, .entryNotMapping⟩]

theorem problems_garbled : problems wilderness.lookup garbled = garbledProblems := by
  have documents : documentsProblems wilderness.lookup (valueOf garbled "config".toList) =
      entriesProblems wilderness.lookup 0 garbledEntries := rfl
  unfold problems
  rw [documents]
  unfold entriesProblems entryPlace
  cbv

theorem garbled_reported :
    (∀ breakdown, build wilderness garbled ≠ .error (.breakdown breakdown)) ∧
      build wilderness garbled = .error (.invalid garbledProblems) := by
  have ends : ∀ breakdown, build wilderness garbled ≠ .error (.breakdown breakdown) := by
    intro breakdown broke
    obtain ⟨_, config, built, _⟩ | ⟨_, refused⟩ := build_of_certain garbled_certain
    · cases built.symm.trans broke
    · cases refused.symm.trans broke
  refine ⟨ends, ?_⟩
  obtain ⟨nothing, _⟩ | ⟨_, refused⟩ := (build_judges ends).1
  · cases problems_garbled.symm.trans nothing
  · rw [refused, problems_garbled]

/-- **Answers.** A configuration that can be judged is built if nothing in it is at fault, and
otherwise refused with the place of everything that is. For any other one the check breaks
down. -/
theorem build_answers (around : Surroundings) (raw : List (Scalar × Data)) :
    (Certain around raw ∧
        ((∃ config, build around raw = .ok config ∧
            ∀ problem, ¬Faulty around.lookup raw problem) ∨
          ∃ found, build around raw = .error (.invalid found) ∧ found ≠ [] ∧
            ∀ problem, problem ∈ found ↔ Faulty around.lookup raw problem)) ∨
      (¬Certain around raw ∧ ∃ breakdown, build around raw = .error (.breakdown breakdown)) := by
  by_cases certain : Certain around raw
  · refine .inl ⟨certain, ?_⟩
    obtain ⟨nothing, config, built, _⟩ | ⟨some_, refused⟩ := build_of_certain certain
    · refine .inl ⟨config, built, fun problem faulty => ?_⟩
      have listed := mem_problems_iff.mpr faulty
      rw [nothing] at listed
      exact absurd listed List.not_mem_nil
    · exact .inr ⟨_, refused, some_, fun problem => mem_problems_iff⟩
  · exact .inr ⟨certain, build_of_not_certain certain⟩

/-- The check breaks down at a path in the home directory of somebody unknown, and at the
fields of an escape of which one is a number and one a text. -/
theorem stranger_breaks :
    build wilderness [(.text "config".toList, .list [.map
        [(.text "source".toList, .ofText "~nosuchuser/x".toList),
          (.text "target".toList, .ofText "/t".toList)]])] = .error (.breakdown .unknownHome) ∧
      build wilderness [(.text "default_escape".toList, .map
          [(.int 1, .ofText "a".toList), (.text "b".toList, .ofText "c".toList)])] =
        .error (.breakdown (.unordered (.text "b".toList) (.int 1))) := by
  constructor
  · unfold build check checkDocuments checkEntries entryPlace
    cbv
  · cbv

end Build

end Config

end Tailor
