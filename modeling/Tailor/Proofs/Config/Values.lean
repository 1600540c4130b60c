import Mathlib.Data.List.DropRight
import Tailor.Config.Check
import Tailor.Proofs.Text.Trimming

/-! # Values of configurations

Each value of a configuration is judged on its own. It has at most one flaw, which depends
on the value alone, and if it has none, it writes what it is read as (`WritesMark`,
`WritesEscape`, `LeadsTo`); a table has one flaw for each value in it that is no text
(`WritesTable`). A check comes to a result exactly under a condition on the value
(`Comes`), and finds these flaws and, without any, what the value writes (`Finds`).
-/

namespace Tailor

namespace Config

section Comes

variable {α β : Type} {attempt : Except Breakdown α} {condition other further : Prop}
  {kind result : α → Prop}

/-- An attempt succeeds exactly under a condition, and then with a result of a certain kind. -/
structure Comes (attempt : Except Breakdown α) (condition : Prop) (kind : α → Prop) : Prop where
  succeeds : condition → ∃ value, attempt = .ok value ∧ kind value
  breaks : ¬condition → ∃ breakdown, attempt = .error breakdown

theorem Comes.of_eq_ok {value : α} (comes : Comes attempt condition kind)
    (done : attempt = .ok value) : condition ∧ kind value := by
  by_cases holds : condition
  · obtain ⟨reached, same, held⟩ := comes.succeeds holds
    obtain rfl := Except.ok.inj (done.symm.trans same)
    exact ⟨holds, held⟩
  · obtain ⟨breakdown, broke⟩ := comes.breaks holds
    cases done.symm.trans broke

theorem comes_ok {value : α} (met : condition) (holds : kind value) :
    Comes (.ok value) condition kind :=
  ⟨fun _ => ⟨value, rfl, holds⟩, fun unmet => absurd met unmet⟩

theorem comes_error {breakdown : Breakdown} (unmet : ¬condition) :
    Comes (.error breakdown) condition kind :=
  ⟨fun met => absurd met unmet, fun _ => ⟨breakdown, rfl⟩⟩

theorem Comes.congr (comes : Comes attempt condition kind) (same : other ↔ condition) :
    Comes attempt other kind := by
  rwa [propext same]

theorem Comes.mono (comes : Comes attempt condition kind)
    (implies : ∀ value, kind value → result value) : Comes attempt condition result where
  succeeds := by
    intro met
    obtain ⟨value, done, held⟩ := comes.succeeds met
    exact ⟨value, done, implies value held⟩
  breaks := comes.breaks

/-- Two attempts one after the other succeed if both do. -/
theorem Comes.bind {next : α → Except Breakdown β} {last : β → Prop}
    (first : Comes attempt condition kind)
    (second : ∀ value, kind value → Comes (next value) further last) :
    Comes (attempt >>= next) (condition ∧ further) last where
  succeeds := by
    rintro ⟨holds, later⟩
    obtain ⟨value, rfl, held⟩ := first.succeeds holds
    exact (second value held).succeeds later
  breaks := by
    intro fails
    by_cases holds : condition
    · obtain ⟨value, rfl, held⟩ := first.succeeds holds
      exact (second value held).breaks fun later => fails ⟨holds, later⟩
    · obtain ⟨breakdown, rfl⟩ := first.breaks holds
      exact ⟨breakdown, rfl⟩

/-- What is made of the result of an attempt succeeds as the attempt does. -/
theorem Comes.map {made : α → β} {last : β → Prop} (comes : Comes attempt condition kind)
    (holds : ∀ value, kind value → last (made value)) :
    Comes (attempt >>= fun value => pure (made value)) condition last := by
  refine (comes.bind fun value held => ?_).congr (and_iff_left trivial).symm
  exact comes_ok trivial (holds value held)

end Comes

section Finds

variable {α : Type} {right : α → Prop} {place : Text} {flaw : Flaw}

/-- The problem of a flaw at a place, if there is a flaw. -/
def problemAt (place : Text) : (flaw? : Option Flaw) → List Problem
  | none => []
  | some flaw => [⟨place, flaw⟩]

/-- A check found these problems, and without any of them a value that is right. -/
structure Finds (problems : List Problem) (right : α → Prop) (checked : Checked α) : Prop where
  problems_eq : checked.problems = problems
  right : problems = [] → right checked.value

theorem finds_clean {value : α} (holds : right value) : Finds [] right (clean value) :=
  ⟨rfl, fun _ => holds⟩

theorem finds_flawed (value : α) : Finds [⟨place, flaw⟩] right (flawed value place flaw) :=
  ⟨rfl, fun nothing => absurd nothing (List.cons_ne_nil _ _)⟩

theorem Finds.mono {problems : List Problem} {other : α → Prop} {checked : Checked α}
    (finds : Finds problems right checked) (implies : ∀ value, right value → other value) :
    Finds problems other checked :=
  ⟨finds.problems_eq, fun nothing => implies _ (finds.right nothing)⟩

end Finds

/-! ## Keys -/

/-- All keys can be written. -/
def Writable (keys : List Scalar) : Prop := ∀ key ∈ keys, key.isWritable = true

theorem requireTexts_comes (keys : List Scalar) :
    Comes (requireTexts keys) (Writable keys) fun _ => True := by
  unfold requireTexts
  split
  · rename_i all
    exact comes_ok (List.all_eq_true.mp all) trivial
  · rename_i none_
    exact comes_error fun all => none_ (List.all_eq_true.mpr all)

/-- What keys are compared as: keys of two families have no order. -/
inductive Family where
  | number
  | text
  | bytes
  | date
  | moment (zoned : Bool)
  | time
deriving DecidableEq

/-- The family of a key; the key without value is in none. -/
def family? : Scalar → Option Family
  | .null => none
  | .bool _ | .int _ | .float _ => some .number
  | .text _ => some .text
  | .bytes _ => some .bytes
  | .date _ => some .date
  | .moment _ _ offset => some (.moment offset.isSome)
  | .time _ => some .time

/-- Keys have an order exactly if they are of one family. -/
theorem isSome_before?_iff {a b : Scalar} :
    (a.before? b).isSome = true ↔ ∃ family, family? a = some family ∧ family? b = some family := by
  cases a <;> cases b <;> simp [Scalar.before?, Scalar.number?, family?]
  rename_i first _ _ second
  cases first <;> cases second <;> simp

/-- Keys can be put in order: there are no two of them, or all are of one family. -/
def Sortable (keys : List Scalar) : Prop :=
  keys.length ≤ 1 ∨ ∃ family, ∀ key ∈ keys, family? key = some family

/-- It is enough that neighbours have an order. -/
theorem sortable_iff {keys : List Scalar} : Sortable keys ↔
    ∀ pair ∈ keys.zip keys.tail, (pair.2.before? pair.1).isSome = true := by
  match keys with
  | [] => simp [Sortable]
  | [_] => simp [Sortable]
  | first :: second :: rest =>
      have others : Sortable (second :: rest) ↔ ∀ pair ∈ (second :: rest).zip rest,
          (pair.2.before? pair.1).isSome = true := sortable_iff
      rw [List.tail_cons, List.zip_cons_cons, List.forall_mem_cons, isSome_before?_iff, ← others]
      constructor
      · rintro (short | ⟨family, all⟩)
        · exact absurd short (by simp)
        · have later := List.forall_mem_cons.mp all
          exact ⟨⟨family, later.2 second List.mem_cons_self, later.1⟩, .inr ⟨family, later.2⟩⟩
      · rintro ⟨⟨family, here, there⟩, short | ⟨other, all⟩⟩
        · obtain rfl : rest = [] := List.length_eq_zero_iff.mp (by simpa using short)
          exact .inr ⟨family, by simp [here, there]⟩
        · obtain rfl : family = other :=
            Option.some.inj (here.symm.trans (all second List.mem_cons_self))
          exact .inr ⟨family, List.forall_mem_cons.mpr ⟨there, all⟩⟩

theorem sortKeys_comes (keys : List Scalar) :
    Comes (sortKeys keys) (Sortable keys) fun sorted => sorted = inOrder keys := by
  unfold sortKeys
  dsimp only
  split
  · rename_i earlier later clash
    refine comes_error fun sortable => ?_
    have none_ := List.find?_some clash
    have some_ := sortable_iff.mp sortable _ (List.mem_of_find?_eq_some clash)
    rw [Option.isNone_iff_eq_none] at none_
    rw [none_] at some_
    cases some_
  · rename_i noClash
    refine comes_ok (sortable_iff.mpr ?_) rfl
    intro pair member
    exact Option.isSome_iff_ne_none.mpr
      (mt Option.isNone_iff_eq_none.mpr (List.find?_eq_none.mp noClash pair member))

/-! ## Marks -/

/-- What is wrong with a mark. -/
def markFlaw? : Data → Option Flaw
  | .scalar .null => none
  | .scalar (.text text) => if text.all Text.isBlank then some .blankMark else none
  | _ => some .blankMark

/-- The value writes no mark, or it writes one between blanks. -/
inductive WritesMark : Data → Option Text → Prop where
  | off : WritesMark .null none
  | text {text : Text} (some_ : ¬∀ c ∈ text, Text.isBlank c = true) :
      WritesMark (.ofText text) (some (Text.trim text))

theorem checkMark_finds (value : Data) (place : Text) :
    Finds (problemAt place (markFlaw? value)) (WritesMark value) (checkMark value place) := by
  cases value with
  | scalar value =>
      cases value with
      | null => exact finds_clean .off
      | text text =>
          have blank : (Text.trim text).isEmpty = text.all Text.isBlank := by
            rw [Bool.eq_iff_iff, List.isEmpty_iff, List.all_eq_true, Text.trim_eq_nil_iff]
          dsimp only [checkMark, markFlaw?]
          rw [blank]
          split
          · exact finds_flawed none
          · rename_i some_
            exact finds_clean (.text (mt List.all_eq_true.mpr some_))
      | _ => exact finds_flawed none
  | _ => exact finds_flawed none

/-! ## Truth values -/

/-- What is wrong with a truth value. -/
def booleanFlaw? : Data → Option Flaw
  | .scalar (.bool _) => none
  | value => some (.notBoolean value)

/-- The value writes a truth value. -/
inductive WritesBoolean : Data → Bool → Prop where
  | bool (value : Bool) : WritesBoolean (.scalar (.bool value)) value

theorem checkBoolean_finds (value : Data) (place : Text) :
    Finds (problemAt place (booleanFlaw? value)) (WritesBoolean value)
      (checkBoolean value place) := by
  cases value with
  | scalar value =>
      cases value with
      | bool value => exact finds_clean (.bool value)
      | _ => exact finds_flawed false
  | _ => exact finds_flawed false

/-! ## Escapes -/

/-- The fields of an escape that is written as a mapping. -/
def escapeFields : List Text := ["start".toList, "end".toList]

/-- The parts are two texts that are not empty. -/
def arePair : (parts : List Data) → Bool
  | [.scalar (.text opening), .scalar (.text closing)] => !opening.isEmpty && !closing.isEmpty
  | _ => false

/-- The parts of an escape that is written as a mapping. -/
def namedParts (fields : List (Scalar × Data)) : List Data :=
  [(Data.get? fields "start".toList).getD .null, (Data.get? fields "end".toList).getD .null]

/-- What is wrong with the parts of an escape. -/
def partsFlaw? (parts : List Data) : Option Flaw :=
  if arePair parts then none else some .badEscapeParts

/-- What is wrong with an escape. -/
def escapeFlaw? : Data → Option Flaw
  | .scalar .null => none
  | .list parts => partsFlaw? parts
  | .map fields =>
      match unknownKeys escapeFields fields with
      | [] => partsFlaw? (namedParts fields)
      | keys => some (.unknownEscapeFields (inOrder keys))
  | _ => some .notEscape

/-- The value writes no escape, or the two parts of one, in order or by name. -/
inductive WritesEscape : Data → Option Escape → Prop where
  | off : WritesEscape .null none
  | parts {opening closing : Text} (opens : opening ≠ []) (closes : closing ≠ []) :
      WritesEscape (.list [.ofText opening, .ofText closing]) (some ⟨opening, closing⟩)
  | named {fields : List (Scalar × Data)} {opening closing : Text}
      (known : unknownKeys escapeFields fields = [])
      (start : Data.get? fields "start".toList = some (.ofText opening))
      (stop : Data.get? fields "end".toList = some (.ofText closing))
      (opens : opening ≠ []) (closes : closing ≠ []) :
      WritesEscape (.map fields) (some ⟨opening, closing⟩)

/-- The fields of an escape that it may not have can be listed. -/
def Listable : Data → Prop
  | .map fields =>
      Sortable (unknownKeys escapeFields fields) ∧ Writable (unknownKeys escapeFields fields)
  | _ => True

theorem arePair_iff {parts : List Data} : arePair parts = true ↔
    ∃ opening closing, parts = [.ofText opening, .ofText closing] ∧
      opening ≠ [] ∧ closing ≠ [] := by
  constructor
  · intro pair
    unfold arePair at pair
    split at pair
    · rename_i opening closing
      simp only [Bool.and_eq_true, Bool.not_eq_true', List.isEmpty_eq_false_iff] at pair
      exact ⟨opening, closing, rfl, pair⟩
    · cases pair
  · rintro ⟨opening, closing, rfl, opens, closes⟩
    simp [arePair, Data.ofText, opens, closes]

theorem checkEscapeParts_finds {right : Option Escape → Prop} {parts : List Data} (place : Text)
    (writes : ∀ opening closing, parts = [.ofText opening, .ofText closing] →
      opening ≠ [] → closing ≠ [] → right (some ⟨opening, closing⟩)) :
    Finds (problemAt place (partsFlaw? parts)) right (checkEscapeParts parts place) := by
  unfold partsFlaw?
  by_cases pair : arePair parts = true
  · obtain ⟨opening, closing, rfl, opens, closes⟩ := arePair_iff.mp pair
    have checked : checkEscapeParts [.ofText opening, .ofText closing] place =
        clean (some ⟨opening, closing⟩) := by
      simp [checkEscapeParts, Data.ofText, opens, closes]
    rw [if_pos pair, checked]
    exact finds_clean (writes opening closing rfl opens closes)
  · have checked : checkEscapeParts parts place = flawed none place .badEscapeParts := by
      unfold checkEscapeParts
      split
      · rename_i opening closing
        rw [arePair, Bool.not_eq_true, ← Bool.not_or, Bool.not_eq_false'] at pair
        rw [if_pos pair]
      · rfl
    rw [if_neg pair, checked]
    exact finds_flawed none

/-- A field that reads as a text is there. -/
theorem eq_some_of_getD_null {found : Option Data} {text : Text}
    (same : found.getD .null = .ofText text) : found = some (.ofText text) := by
  cases found with
  | none => cases same
  | some value => exact congrArg some same

theorem checkEscape_comes (value : Data) (place : Text) :
    Comes (checkEscape value place) (Listable value)
      (Finds (problemAt place (escapeFlaw? value)) (WritesEscape value)) := by
  cases value with
  | scalar value =>
      cases value with
      | null => exact comes_ok trivial (finds_clean .off)
      | _ => exact comes_ok trivial (finds_flawed none)
  | list parts =>
      refine comes_ok trivial (checkEscapeParts_finds place ?_)
      rintro opening closing rfl opens closes
      exact .parts opens closes
  | map fields =>
      unfold checkEscape Listable escapeFlaw?
      dsimp only
      rw [← escapeFields]
      cases unknown : unknownKeys escapeFields fields with
      | nil =>
          have listable : Sortable [] ∧ Writable [] :=
            ⟨.inl (Nat.zero_le 1), fun _ listed => absurd listed List.not_mem_nil⟩
          refine comes_ok listable (checkEscapeParts_finds place ?_)
          intro opening closing named opens closes
          obtain ⟨start, others⟩ := List.cons.inj named
          exact .named unknown (eq_some_of_getD_null start)
            (eq_some_of_getD_null (List.cons.inj others).1) opens closes
      | cons key keys =>
          have writable : Writable (inOrder (key :: keys)) ↔ Writable (key :: keys) :=
            forall_congr' fun _ => imp_congr_left (List.mergeSort_perm _ _).mem_iff
          refine ((sortKeys_comes (key :: keys)).bind fun sorted same => ?_).congr
            (and_congr_right fun _ => writable.symm)
          subst same
          exact (requireTexts_comes _).map fun _ _ => finds_flawed none
  | set items => exact comes_ok trivial (finds_flawed none)

/-! ## Tables -/

/-- What is wrong with one entry of a table. -/
def valueProblem? (entry : Scalar × Data) : Option Problem :=
  match entry.2 with
  | .scalar (.text _) => none
  | other => some ⟨field tablePlace entry.1.written, .notText other⟩

/-- What is wrong with a table, one entry after the other. -/
def tableProblems : Data → List Problem
  | .scalar .null => []
  | .map entries => entries.filterMap valueProblem?
  | _ => [⟨tablePlace, .tableNotMapping⟩]

/-- The value of the last entry whose key is written as the name. -/
def lastValue (entries : List (Scalar × Text)) (name : Text) : Option Text :=
  (entries.reverse.find? fun entry => entry.1.written = name).map (·.2)

/-- An entry as it stands in a mapping. -/
def tableEntry (entry : Scalar × Text) : Scalar × Data := (entry.1, .ofText entry.2)

/-- The value writes no table, or entries of which the last one with a name counts. -/
inductive WritesTable : Data → Table → Prop where
  | none : WritesTable .null []
  | entries {entries : List (Scalar × Text)} {table : Table}
      (counts : ∀ name, table.lookup name = lastValue entries name) :
      WritesTable (.map (entries.map tableEntry)) table

/-- The keys of a table can be written. -/
def Nameable : Data → Prop
  | .map entries => Writable (entries.map (·.1))
  | _ => True

theorem lastValue_cons (entry : Scalar × Text) (entries : List (Scalar × Text)) (name : Text) :
    lastValue (entry :: entries) name =
      (lastValue entries name).or (if name = entry.1.written then some entry.2 else none) := by
  unfold lastValue
  rw [List.reverse_cons, List.find?_append]
  cases entries.reverse.find? fun entry => entry.1.written = name with
  | some found => rfl
  | none => by_cases same : name = entry.1.written <;> simp [same, eq_comm]

/-- The problems of the entries follow those that were found before. -/
theorem foldl_checkTableEntry_problems (entries : List (Scalar × Data)) (before : Checked Table) :
    (entries.foldl checkTableEntry before).problems =
      before.problems ++ entries.filterMap valueProblem? := by
  induction entries generalizing before with
  | nil => simp
  | cons entry entries ih =>
      rw [List.foldl_cons, ih, List.filterMap_cons]
      unfold checkTableEntry valueProblem?
      split <;> simp_all

/-- Entries without problems write texts, and are put over those before them. -/
theorem foldl_checkTableEntry_lookup (entries : List (Scalar × Text)) (before : Checked Table)
    (name : Text) :
    ((entries.map tableEntry).foldl checkTableEntry before).value.lookup name =
      (lastValue entries name).or (before.value.lookup name) := by
  induction entries generalizing before with
  | nil => rfl
  | cons entry entries ih =>
      have put : checkTableEntry before (tableEntry entry) =
          ⟨before.value.set entry.1.written entry.2, before.problems⟩ := rfl
      rw [List.map_cons, List.foldl_cons, ih, put, lastValue_cons, Table.lookup_set]
      cases lastValue entries name with
      | some value => rfl
      | none => split <;> rfl

theorem exists_tableEntries {entries : List (Scalar × Data)}
    (flawless : entries.filterMap valueProblem? = []) :
    ∃ texts : List (Scalar × Text), entries = texts.map tableEntry := by
  induction entries with
  | nil => exact ⟨[], rfl⟩
  | cons entry entries ih =>
      obtain ⟨key, value⟩ := entry
      have here := List.filterMap_eq_nil_iff.mp flawless (key, value) List.mem_cons_self
      obtain ⟨texts, rfl⟩ := ih (List.filterMap_eq_nil_iff.mpr fun entry listed =>
        List.filterMap_eq_nil_iff.mp flawless entry (List.mem_cons_of_mem _ listed))
      unfold valueProblem? at here
      split at here
      · rename_i text same
        dsimp only at same
        exact ⟨(key, text) :: texts, by rw [same]; rfl⟩
      · cases here

theorem checkTable_comes (value : Data) :
    Comes (checkTable value) (Nameable value)
      (Finds (tableProblems value) (WritesTable value)) := by
  cases value with
  | scalar value =>
      cases value with
      | null => exact comes_ok trivial (finds_clean .none)
      | _ => exact comes_ok trivial (finds_flawed [])
  | map entries =>
      refine (requireTexts_comes _).map fun _ _ => ⟨?_, ?_⟩
      · exact foldl_checkTableEntry_problems entries (clean [])
      · intro flawless
        obtain ⟨texts, rfl⟩ := exists_tableEntries flawless
        refine .entries fun name => ?_
        rw [foldl_checkTableEntry_lookup, clean, List.lookup_nil, Option.or_none]
  | _ => exact comes_ok trivial (finds_flawed [])

/-! ## Paths -/

/-- What is wrong with a path. -/
def pathFlaw? (lookup : Text → Option Text) : Option Data → Option Flaw
  | none | some (.scalar .null) => some .missing
  | some (.scalar (.text (c :: text))) =>
      match Expression.expandVariables lookup (c :: text) with
      | .error flaw => some (.badReference flaw)
      | .ok _ => none
  | some _ => some .notPath

/-- The value leads to a path below the root. -/
inductive LeadsTo (around : Surroundings) : Option Data → Path → Prop where
  | text {c : Char} {text expanded : Text} {path : Path}
      (expands : Expression.expandVariables around.lookup (c :: text) = .ok expanded)
      (homed : (Path.ofText expanded).expandHome? around.homes = some path) :
      LeadsTo around (some (.ofText (c :: text))) (around.root.under path)

/-- The account in whose home directory a path starts has one, and it does not start with a
tilde itself. -/
def HomeKnown (homes : Path.Homes) (path : Path) : Prop :=
  ∀ account, path.account? = some account →
    '\x00' ∉ account ∧ ∃ home, homes account = some home ∧ home.head? ≠ some '~'

/-- The home directory that the value starts in is known. -/
def Homed (around : Surroundings) : Option Data → Prop
  | some (.scalar (.text (c :: text))) =>
      ∀ expanded, Expression.expandVariables around.lookup (c :: text) = .ok expanded →
        HomeKnown around.homes (.ofText expanded)
  | _ => True

/-- A path has its home directory in front of it exactly if that is known. -/
theorem exists_expandHome?_iff {homes : Path.Homes} {path : Path} :
    (∃ expanded, path.expandHome? homes = some expanded) ↔
      ∀ account, path.account? = some account →
        ∃ home, homes account = some home ∧ home.head? ≠ some '~' := by
  unfold Path.expandHome? Path.account?
  split
  · rename_i account names _ _
    simp only [Option.some.injEq, forall_eq', Option.bind_eq_some_iff]
    rw [exists_comm]
    refine exists_congr fun home => ?_
    rw [exists_and_left]
    refine and_congr_right fun _ => ?_
    have tilde : home.head? = some '~' ↔
        (Text.dropTrailing (· == '/') home).head? = some '~' :=
      ⟨fun first => Text.head?_dropTrailing first rfl, Text.head?_of_head?_dropTrailing⟩
    rw [ne_eq, tilde]
    split <;> simp_all [List.head?_eq_some_iff]
  · simp

theorem homeKnown_iff {homes : Path.Homes} {path : Path} : HomeKnown homes path ↔
    (path.account?.any (·.contains '\x00')) = false ∧
      ∃ expanded, path.expandHome? homes = some expanded := by
  rw [exists_expandHome?_iff, HomeKnown]
  cases path.account? with
  | none => simp
  | some account => simp

/-- The home directory of a path is put in front of it, and then the root. -/
theorem checkPath_text_comes (around : Surroundings) (c : Char) (text place : Text) :
    Comes (checkPath around (some (.ofText (c :: text))) place)
      (Homed around (some (.ofText (c :: text))))
      (Finds (problemAt place (pathFlaw? around.lookup (some (.ofText (c :: text)))))
        fun path? => ∃ path, path? = some path ∧
          LeadsTo around (some (.ofText (c :: text))) path) := by
  unfold checkPath pathFlaw? Homed Data.ofText
  dsimp only
  cases expands : Expression.expandVariables around.lookup (c :: text) with
  | error flaw =>
      have settled : ∀ expanded, (.error flaw : Except Expression.Flaw Text) = .ok expanded →
          HomeKnown around.homes (.ofText expanded) := fun _ never => by cases never
      exact comes_ok settled (finds_flawed none)
  | ok expanded =>
      have settled : (∀ other, (.ok expanded : Except Expression.Flaw Text) = .ok other →
          HomeKnown around.homes (.ofText other)) ↔
          HomeKnown around.homes (.ofText expanded) := by simp
      dsimp only
      rw [settled, homeKnown_iff]
      split
      · rename_i null
        exact comes_error fun known => absurd null (Bool.eq_false_iff.mp known.1)
      · rename_i noNull
        rw [Bool.not_eq_true] at noNull
        cases homed : (Path.ofText expanded).expandHome? around.homes with
        | none => exact comes_error (by simp)
        | some path =>
            exact comes_ok ⟨noNull, path, rfl⟩ (finds_clean ⟨_, rfl, .text expands homed⟩)

theorem checkPath_comes (around : Surroundings) (value : Option Data) (place : Text) :
    Comes (checkPath around value place) (Homed around value)
      (Finds (problemAt place (pathFlaw? around.lookup value))
        fun path? => ∃ path, path? = some path ∧ LeadsTo around value path) := by
  cases value with
  | none => exact comes_ok trivial (finds_flawed none)
  | some value =>
      cases value with
      | scalar value =>
          cases value with
          | text text =>
              cases text with
              | nil => exact comes_ok trivial (finds_flawed none)
              | cons c text => exact checkPath_text_comes around c text place
          | _ => exact comes_ok trivial (finds_flawed none)
      | _ => exact comes_ok trivial (finds_flawed none)

end Config

end Tailor
