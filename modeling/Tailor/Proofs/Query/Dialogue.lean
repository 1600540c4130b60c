import Mathlib.Data.List.Forall2
import Mathlib.Data.Nat.Digits.Defs
import Tailor.Query.Terminal

/-! # Dialogues at a terminal

Queries that are put at a terminal one after another share its input. Each takes whole
lines from the front, up to the first one that decides it and no further
(`Tailor.Query.Exchange`), so the next query goes on with the line behind that one
(`Tailor.Dialogue`). What is typed on the lines that do not decide has no other effect than
that the prompt is written again. So the input alone settles all answers, what is left
unread and what is shown (`Tailor.Terminal.askAll_eq_iff`).
-/

namespace Tailor

/-! ## Lines of an input -/

namespace Text

/-- The text consists of these lines. Each of them has its line feed at the end, which the
last one may lack. -/
inductive InLines : Text → List Text → Prop where
  | nil : InLines [] []
  | unended {line : Text} (begun : line ≠ []) (noFeed : '\n' ∉ line) : InLines line [line]
  | ended {line rest : Text} {lines : List Text} (noFeed : '\n' ∉ line)
      (further : InLines rest lines) : InLines (line ++ '\n' :: rest) ((line ++ ['\n']) :: lines)

theorem splitBehindLineFeeds_append {line : Text} (noFeed : '\n' ∉ line) (rest : Text) :
    splitBehindLineFeeds (line ++ '\n' :: rest) =
      (line ++ ['\n']) :: splitBehindLineFeeds rest := by
  induction line with
  | nil => rfl
  | cons c line ih =>
      obtain ⟨other, noFeed⟩ := not_or.mp (List.mem_cons.not.mp noFeed)
      rw [List.cons_append, splitBehindLineFeeds, if_neg (Ne.symm other), ih noFeed]
      rfl

theorem splitBehindLineFeeds_unended {line : Text} (begun : line ≠ []) (noFeed : '\n' ∉ line) :
    splitBehindLineFeeds line = [line] := by
  induction line with
  | nil => exact absurd rfl begun
  | cons c line ih =>
      obtain ⟨other, noFeed⟩ := not_or.mp (List.mem_cons.not.mp noFeed)
      rw [splitBehindLineFeeds, if_neg (Ne.symm other)]
      cases line with
      | nil => rfl
      | cons d line => rw [ih (List.cons_ne_nil d line) noFeed]

/-- A text is cut into its lines. -/
theorem inLines_iff {text : Text} {lines : List Text} :
    InLines text lines ↔ splitBehindLineFeeds text = lines := by
  constructor
  · intro inLines
    induction inLines with
    | nil => rfl
    | unended begun noFeed => exact splitBehindLineFeeds_unended begun noFeed
    | ended noFeed _ ih => rw [splitBehindLineFeeds_append noFeed, ih]
  · intro cut
    subst cut
    induction length : text.length using Nat.strongRecOn generalizing text with
    | ind size ih =>
    subst length
    by_cases feed : '\n' ∈ text
    · obtain ⟨line, rest, rfl, noFeed⟩ := List.eq_append_cons_of_mem feed
      have shorter : rest.length < (line ++ '\n' :: rest).length := by
        simp only [List.length_append, List.length_cons]
        omega
      rw [splitBehindLineFeeds_append noFeed]
      exact .ended noFeed (ih _ shorter rfl)
    · cases text with
      | nil => exact .nil
      | cons c text =>
          rw [splitBehindLineFeeds_unended (List.cons_ne_nil c text) feed]
          exact .unended (List.cons_ne_nil c text) feed

/-- The text is a row of decimal digits, of any script, that writes a number in base ten. -/
def IsNumeral (text : Text) (value : Nat) : Prop :=
  text ≠ [] ∧ ∃ digits, List.Forall₂ (fun c digit => digitValue? c = some digit) text digits ∧
    value = Nat.ofDigits 10 digits.reverse

theorem mapM_digitValue?_eq_some {text : Text} {digits : List Nat} :
    text.mapM digitValue? = some digits ↔
      List.Forall₂ (fun c digit => digitValue? c = some digit) text digits := by
  induction text generalizing digits with
  | nil =>
      rw [List.mapM_nil, List.forall₂_nil_left_iff, Option.pure_def, Option.some.injEq, eq_comm]
  | cons c text ih =>
      rw [List.mapM_cons, List.forall₂_cons_left_iff]
      simp only [Option.bind_eq_bind, Option.bind_eq_some_iff, ih, Option.pure_def,
        Option.some.injEq, exists_and_left, eq_comm (a := digits)]

theorem numeralValue_eq (digits : List Nat) :
    numeralValue digits = Nat.ofDigits 10 digits.reverse := by
  rw [Nat.ofDigits_eq_foldr, List.foldr_reverse, numeralValue]
  simp [Nat.add_comm]

/-- Numbers are read from numerals. -/
theorem natural?_eq_some {text : Text} {value : Nat} :
    natural? text = some value ↔ IsNumeral text value := by
  unfold natural? IsNumeral
  cases text with
  | nil => simp
  | cons c text =>
      rw [List.isEmpty_cons, if_neg Bool.false_ne_true, Option.map_eq_some_iff]
      simp only [mapM_digitValue?_eq_some, numeralValue_eq, ne_eq, List.cons_ne_nil,
        not_false_eq_true, true_and, eq_comm (a := value)]

end Text

/-! ## Lines that decide -/

/-- The line decides the query. Without options that is one of four words, in any case (no
character but the ASCII letters has one of theirs for its lower case); with options it is a
numeral in the range of their numbers, or one with too many digits to be read as a number.
The blanks around the line do not count. -/
inductive Query.Decides (query : Query) (line : Text) : Except Crash Answer → Prop where
  | yes (unoffered : query.options = [])
      (word : (Text.trim line).map Char.toLower ∈ ["y".toList, "yes".toList]) :
      Decides query line (.ok (.yesNo true))
  | no (unoffered : query.options = [])
      (word : (Text.trim line).map Char.toLower ∈ ["n".toList, "no".toList]) :
      Decides query line (.ok (.yesNo false))
  | choice {value : Nat} (offered : query.options ≠ [])
      (numeral : Text.IsNumeral (Text.trim line) value)
      (short : (Text.trim line).length ≤ Text.digitLimit)
      (inside : 1 ≤ value ∧ value ≤ query.options.length) :
      Decides query line (.ok (.choice (value - 1 : Nat)))
  | overlong {value : Nat} (offered : query.options ≠ [])
      (numeral : Text.IsNumeral (Text.trim line) value)
      (long : Text.digitLimit < (Text.trim line).length) :
      Decides query line (.error (.tooManyDigits (Text.trim line).length))

namespace Terminal

/-- The judgement of a line that decides. -/
def Judgement.deciding : Except Crash Answer → Judgement
  | .ok found => .answer found
  | .error how => .crash how

/-- How the lines are judged that are typed at a query. -/
def judge (query : Query) : Text → Judgement :=
  if query.isYesNo then judgeYesNo else judgeChoice query.options.length

theorem judgeYesNo_eq_deciding {query : Query} (unoffered : query.options = []) {line : Text}
    {outcome : Except Crash Answer} :
    judgeYesNo line = .deciding outcome ↔ query.Decides line outcome := by
  unfold judgeYesNo
  dsimp only
  constructor
  · intro judged
    split at judged
    · rename_i word
      obtain rfl : outcome = .ok (.yesNo true) := by
        cases outcome <;> cases judged
        rfl
      exact .yes unoffered (by simpa using word)
    · split at judged
      · rename_i word
        obtain rfl : outcome = .ok (.yesNo false) := by
          cases outcome <;> cases judged
          rfl
        exact .no unoffered (by simpa using word)
      · cases outcome <;> cases judged
  · intro decides
    cases decides with
    | yes _ word => exact if_pos (by simpa using word)
    | no _ word =>
        have other : (Text.trim line).map Char.toLower ∉ ["y".toList, "yes".toList] := by
          rcases List.mem_cons.mp word with same | same
          · rw [same]
            decide
          · rw [List.mem_singleton.mp same]
            decide
        rw [if_neg (by simpa using other), if_pos (by simpa using word)]
        rfl
    | choice offered => exact absurd unoffered offered
    | overlong offered => exact absurd unoffered offered

theorem judgeChoice_eq_deciding {query : Query} (offered : query.options ≠ []) {line : Text}
    {outcome : Except Crash Answer} :
    judgeChoice query.options.length line = .deciding outcome ↔ query.Decides line outcome := by
  unfold judgeChoice
  dsimp only
  constructor
  · intro judged
    split at judged
    · cases outcome <;> cases judged
    · rename_i value read
      have numeral := Text.natural?_eq_some.mp read
      split at judged
      · rename_i long
        cases outcome <;> cases judged
        exact .overlong offered numeral long
      · rename_i short
        split at judged
        · rename_i inside
          cases outcome <;> cases judged
          exact .choice offered numeral (Nat.not_lt.mp short) inside
        · cases outcome <;> cases judged
  · intro decides
    cases decides with
    | yes unoffered => exact absurd unoffered offered
    | no unoffered => exact absurd unoffered offered
    | choice _ numeral short inside =>
        rw [Text.natural?_eq_some.mpr numeral]
        simp only [if_neg (Nat.not_lt.mpr short), if_pos inside]
        rfl
    | overlong _ numeral long =>
        rw [Text.natural?_eq_some.mpr numeral]
        exact if_pos long

/-- A line is judged to decide exactly if it does. -/
theorem judge_eq_deciding {query : Query} {line : Text} {outcome : Except Crash Answer} :
    judge query line = .deciding outcome ↔ query.Decides line outcome := by
  unfold judge Query.isYesNo
  by_cases offered : query.options = []
  · rw [if_pos (List.isEmpty_iff.mpr offered)]
    exact judgeYesNo_eq_deciding offered
  · rw [if_neg (List.isEmpty_iff.not.mpr offered)]
    exact judgeChoice_eq_deciding offered

theorem judge_eq_again {query : Query} {line : Text} :
    judge query line = .again ↔ ∀ outcome, ¬ query.Decides line outcome := by
  constructor
  · intro again outcome decides
    have judged := judge_eq_deciding.mpr decides
    rw [again] at judged
    cases outcome <;> cases judged
  · intro undecided
    cases judged : judge query line with
    | again => rfl
    | answer found => exact absurd (judge_eq_deciding.mp judged) (undecided (.ok found))
    | crash how => exact absurd (judge_eq_deciding.mp judged) (undecided (.error how))

end Terminal

/-! ## Queries one after another -/

namespace Query

/-- A number in a column that is two characters wide, or wider if the number is. -/
def column (number : Nat) : Text :=
  if number < 10 then ' ' :: Nat.toDigits 10 number else Nat.toDigits 10 number

/-- Labels under numbers from one number on, each on a line of its own. -/
def numbered : Nat → List Text → Text
  | _, [] => []
  | number, label :: labels =>
      "     | ".toList ++ column number ++ "> ".toList ++ label ++
        '\n' :: numbered (number + 1) labels

theorem numbered_cons (number : Nat) (label : Text) (labels : List Text) :
    numbered number (label :: labels) =
      "     | ".toList ++ column number ++ "> ".toList ++ label ++
        '\n' :: numbered (number + 1) labels := rfl

/-- What is written once for a query: the question and its options, if it has options. -/
def header (query : Query) : Text :=
  match query.options with
  | [] => []
  | label :: labels =>
      "ASK  - ".toList ++ query.question ++ '\n' :: numbered 1 (label :: labels)

/-- What is written before each line is read; it has the question in it if there are no
options. -/
def prompt (query : Query) : Text :=
  match query.options with
  | [] => "ASK  - ".toList ++ query.question ++ " (y/n) ".toList
  | _ :: _ => "     | Please enter a number: ".toList

/-- The header of a query and a number of prompts. -/
def shown (query : Query) (prompts : Nat) : Text :=
  query.header ++ (List.replicate prompts query.prompt).flatten

/-- What a query comes to at the lines not read yet, which lines it leaves and what is
written. Either some line decides it, and a prompt is written for each line up to this one;
or none does, and then all are read, with a prompt for each of them and one for the end. -/
inductive Exchange (query : Query) : List Text → Except Fault Answer → List Text → Text → Prop where
  | decided {passed rest : List Text} {line : Text} {outcome : Except Crash Answer}
      (undecided : ∀ other ∈ passed, ∀ outcome, ¬ query.Decides other outcome)
      (decides : query.Decides line outcome) :
      Exchange query (passed ++ line :: rest) (outcome.mapError .crash) rest
        (query.shown (passed.length + 1))
  | inputEnded {lines : List Text}
      (undecided : ∀ other ∈ lines, ∀ outcome, ¬ query.Decides other outcome) :
      Exchange query lines (.error (.problem (.query .inputEnded) none)) []
        (query.shown (lines.length + 1))

/-- Some line is the first one that decides, or there is none. -/
theorem exists_exchange (query : Query) (lines : List Text) :
    ∃ outcome rest written, query.Exchange lines outcome rest written := by
  induction lines with
  | nil => exact ⟨_, _, _, .inputEnded (by simp)⟩
  | cons line lines ih =>
      by_cases decides : ∃ outcome, query.Decides line outcome
      · obtain ⟨outcome, decides⟩ := decides
        have nothing : ∀ other ∈ ([] : List Text), ∀ outcome, ¬ query.Decides other outcome := by
          simp
        exact ⟨_, _, _, .decided nothing decides⟩
      · rw [not_exists] at decides
        obtain ⟨_, _, _, exchange⟩ := ih
        cases exchange with
        | @decided passed rest other outcome undecided found =>
            have further : ∀ earlier ∈ line :: passed, ∀ outcome, ¬ query.Decides earlier outcome :=
              List.forall_mem_cons.mpr ⟨decides, undecided⟩
            exact ⟨_, _, _, .decided further found⟩
        | inputEnded undecided =>
            exact ⟨_, _, _, .inputEnded (List.forall_mem_cons.mpr ⟨decides, undecided⟩)⟩

end Query

namespace Terminal

variable {query : Query} {unread rest : List Text} {written after : Text}
  {outcome : Except Fault Answer}

theorem padLeft_ofNat (number : Nat) :
    Text.padLeft ' ' 2 (Text.ofNat number) = Query.column number := by
  unfold Text.padLeft Text.ofNat Query.column
  by_cases short : number < 10
  · have single : (Nat.toDigits 10 number).length = 1 := by
      rw [Nat.toDigits_of_lt_base short]
      rfl
    rw [if_pos short, single]
    rfl
  · have long : ¬ (Nat.toDigits 10 number).length ≤ 1 := by
      rw [Nat.length_toDigits_le_iff (by decide) (by decide)]
      omega
    rw [if_neg short, Nat.sub_eq_zero_of_le (by omega)]
    rfl

theorem flatMap_zipIdx_eq_numbered (options : List Text) (number : Nat) :
    ((options.zipIdx number).flatMap fun (label, number) =>
      "     | ".toList ++ Text.padLeft ' ' 2 (Text.ofNat number) ++ "> ".toList ++ label ++
        ['\n']) = Query.numbered number options := by
  induction options generalizing number with
  | nil => rfl
  | cons label labels ih =>
      rw [List.zipIdx_cons, List.flatMap_cons, ih, Query.numbered_cons, ← padLeft_ofNat,
        List.append_assoc]
      rfl

theorem optionList_eq_numbered (options : List Text) :
    optionList options = Query.numbered 1 options :=
  flatMap_zipIdx_eq_numbered options 1

theorem ask_eq_readUntil (query : Query) (unread : List Text) (written : Text) :
    ask query ⟨unread, written⟩ =
      readUntil query.prompt (judge query) unread (written ++ query.header) := by
  obtain ⟨question, options⟩ := query
  unfold ask judge Query.prompt Query.header heading
  rw [optionList_eq_numbered]
  cases options with
  | nil => exact congrArg _ (List.append_nil written).symm
  | cons label labels =>
      simp only [Query.isYesNo, List.isEmpty_cons, Bool.false_eq_true, if_false,
        List.append_assoc, List.cons_append, List.nil_append]

/-- Lines that do not decide are passed over, with a prompt for each. -/
theorem readUntil_passed {prompt : Text} {judge : Text → Judgement} {passed : List Text}
    (again : ∀ line ∈ passed, judge line = .again) (rest : List Text) (written : Text) :
    readUntil prompt judge (passed ++ rest) written =
      readUntil prompt judge rest (written ++ (List.replicate passed.length prompt).flatten) := by
  induction passed generalizing written with
  | nil => simp
  | cons line passed ih =>
      obtain ⟨first, further⟩ := List.forall_mem_cons.mp again
      rw [List.cons_append, readUntil, first]
      dsimp only
      rw [ih further, List.length_cons, List.replicate_succ, List.flatten_cons,
        List.append_assoc]

theorem ask_of_exchange {shown : Text} (exchange : query.Exchange unread outcome rest shown)
    (written : Text) : ask query ⟨unread, written⟩ = (outcome, ⟨rest, written ++ shown⟩) := by
  rw [ask_eq_readUntil]
  cases exchange with
  | @decided passed rest line outcome undecided decides =>
      have again : ∀ other ∈ passed, judge query other = .again := fun other member =>
        judge_eq_again.mpr (undecided other member)
      rw [readUntil_passed again, readUntil, judge_eq_deciding.mpr decides]
      cases outcome with
      | ok answer => simp [Judgement.deciding, Query.shown, List.replicate_succ', Except.mapError]
      | error how => simp [Judgement.deciding, Query.shown, List.replicate_succ', Except.mapError]
  -- A last prompt is written before the end is noticed.
  | inputEnded undecided =>
      have again : ∀ other ∈ unread, judge query other = .again := fun other member =>
        judge_eq_again.mpr (undecided other member)
      rw [← List.append_nil unread, readUntil_passed again, readUntil]
      simp [Query.shown, List.replicate_succ']

/-- **One query at a terminal.** What a query comes to, what it leaves unread and what it
writes is that of its exchange. -/
theorem ask_eq_iff :
    ask query ⟨unread, written⟩ = (outcome, ⟨rest, after⟩) ↔
      ∃ shown, query.Exchange unread outcome rest shown ∧ after = written ++ shown := by
  constructor
  · intro asked
    obtain ⟨found, left, shown, exchange⟩ := query.exists_exchange unread
    rw [ask_of_exchange exchange] at asked
    cases asked
    exact ⟨shown, exchange, rfl⟩
  · intro exchanged
    obtain ⟨shown, exchange, rfl⟩ := exchanged
    exact ask_of_exchange exchange written

/-- Puts queries one after another, whatever comes of those before. -/
def askAll : List Query → Terminal → List (Except Fault Answer) × Terminal
  | [], terminal => ([], terminal)
  | query :: queries, terminal =>
      let (outcome, between) := ask query terminal
      let (outcomes, after) := askAll queries between
      (outcome :: outcomes, after)

end Terminal

/-- The exchanges of queries that are put one after another: each begins with the line at
which the one before it stopped. -/
inductive Dialogue : List Query → List Text → List (Except Fault Answer) → List Text → Text →
    Prop where
  | done (unread : List Text) : Dialogue [] unread [] unread []
  | query {query : Query} {queries : List Query} {unread between rest : List Text}
      {outcome : Except Fault Answer} {outcomes : List (Except Fault Answer)}
      {shown later : Text} (exchange : query.Exchange unread outcome between shown)
      (further : Dialogue queries between outcomes rest later) :
      Dialogue (query :: queries) unread (outcome :: outcomes) rest (shown ++ later)

namespace Terminal

theorem askAll_of_dialogue {queries : List Query} {unread rest : List Text} {shown : Text}
    {outcomes : List (Except Fault Answer)}
    (dialogue : Dialogue queries unread outcomes rest shown) (written : Text) :
    askAll queries ⟨unread, written⟩ = (outcomes, ⟨rest, written ++ shown⟩) := by
  induction dialogue generalizing written with
  | done unread => rw [askAll, List.append_nil]
  | query exchange _ ih =>
      rw [askAll, ask_of_exchange exchange]
      dsimp only
      rw [ih, List.append_assoc]

/-- There is a dialogue about every input. -/
theorem exists_dialogue (queries : List Query) (unread : List Text) :
    ∃ outcomes rest shown, Dialogue queries unread outcomes rest shown := by
  induction queries generalizing unread with
  | nil => exact ⟨[], unread, [], .done unread⟩
  | cons query queries ih =>
      obtain ⟨outcome, between, shown, exchange⟩ := query.exists_exchange unread
      obtain ⟨outcomes, rest, later, further⟩ := ih between
      exact ⟨outcome :: outcomes, rest, shown ++ later, .query exchange further⟩

/-- **Queries at a terminal.** Let any queries be put at a terminal one after another. What
they come to, the lines that they leave unread and all that is written are those of their
dialogue about the lines of the input. -/
theorem askAll_eq_iff (queries : List Query) (input : Text)
    (outcomes : List (Except Fault Answer)) (rest : List Text) (written : Text) :
    askAll queries (ofInput input) = (outcomes, ⟨rest, written⟩) ↔
      ∃ lines, Text.InLines input lines ∧ Dialogue queries lines outcomes rest written := by
  simp only [Text.inLines_iff, exists_eq_left', ofInput]
  constructor
  · intro asked
    obtain ⟨found, left, shown, dialogue⟩ :=
      exists_dialogue queries (Text.splitBehindLineFeeds input)
    rw [askAll_of_dialogue dialogue, List.nil_append] at asked
    cases asked
    exact dialogue
  · intro dialogue
    rw [askAll_of_dialogue dialogue, List.nil_append]

/-- A query with two options and one without. -/
def colour : Query := ⟨"Colour?".toList, ["red".toList, "blue".toList]⟩

def sure : Query := ⟨"Sure?".toList, []⟩

def survey : List Query := [colour, sure]

/-- The first number is out of range. -/
def surveyInput : Text := "9\n 2\nYES\nleft".toList

def surveyShown : Text :=
  "ASK  - Colour?\n     |  1> red\n     |  2> blue\n".toList ++
    "     | Please enter a number:      | Please enter a number: ".toList ++
    "ASK  - Sure? (y/n) ".toList

theorem survey_asked :
    askAll survey (ofInput surveyInput) =
      ([.ok (.choice 1), .ok (.yesNo true)], ⟨["left".toList], surveyShown⟩) := by
  have lines : Text.InLines surveyInput
      ["9\n".toList, " 2\n".toList, "YES\n".toList, "left".toList] :=
    Text.inLines_iff.mpr (by decide)
  have passed : ∀ other ∈ ["9\n".toList], ∀ outcome, ¬ colour.Decides other outcome := by
    intro other listed
    rw [List.mem_singleton.mp listed]
    exact judge_eq_again.mp (by decide)
  have decided : colour.Decides " 2\n".toList (.ok (.choice 1)) :=
    judge_eq_deciding.mp (by decide)
  have nothing : ∀ other ∈ ([] : List Text), ∀ outcome, ¬ sure.Decides other outcome := by simp
  have agreed : sure.Decides "YES\n".toList (.ok (.yesNo true)) :=
    judge_eq_deciding.mp (by decide)
  have dialogue := Dialogue.query (.decided passed decided)
    (.query (.decided nothing agreed) (.done ["left".toList]))
  have shown : colour.shown 2 ++ (sure.shown 1 ++ []) = surveyShown := by
    decide +kernel
  rw [← shown]
  exact (askAll_eq_iff survey surveyInput _ _ _).mpr ⟨_, lines, dialogue⟩

end Terminal
end Tailor
