import Tailor.Command.Report
import Tailor.Files.Tree
import Tailor.Query.Terminal

/-! # Who answers

Queries go to a person at a terminal or, in a rehearsal, to a list of prepared answers. What is
typed may contain bytes that cannot be decoded; the query whose reading comes upon them crashes.
-/

namespace Tailor

/-- What is typed: a text, and behind it faults of decoding, each with the text that follows. -/
structure Input where
  text : Text
  later : List (Utf8.Fault × Text)

/-- The input that can be read without a fault. -/
def Input.ofText (text : Text) : Input := ⟨text, []⟩

/-- Bytes that are typed at once: either all of them can be decoded, or the first reading comes upon
the fault. -/
def Input.ofBytes (bytes : Bytes) : Input :=
  match Utf8.decode bytes with
  | .ok text => .ofText (Text.unifyNewlines text)
  | .error fault => ⟨[], [(fault, [])]⟩

/-- The source of answers. -/
inductive Respondent where
  /-- A terminal; behind its unread lines come faults of decoding, each with the lines that
  follow. -/
  | terminal (terminal : Terminal) (later : List (Utf8.Fault × List Text))
  | prepared (answers : List Answer)

namespace Respondent

/-- Somebody types an input at a terminal at which nothing is written yet. -/
def ofInput (input : Input) : Respondent :=
  .terminal (.ofInput input.text)
    (input.later.map fun (fault, text) => (fault, Text.splitBehindLineFeeds text))

/-- Puts a query at a terminal. Where the input does not end but cannot be decoded, the query
crashes, and the next one reads on behind that. -/
def askThere (query : Query) (here : Terminal) (later : List (Utf8.Fault × List Text)) :
    Except Fault Answer × Respondent :=
  match here.ask query, later with
  | (.error (.problem (.query .inputEnded) _), after), (fault, lines) :: later =>
      (.error (.crash (.undecodable fault)), .terminal ⟨lines, after.written⟩ later)
  | (answer, after), later => (answer, .terminal after later)

/-- Puts a query. Prepared answers are taken in order; when none is left the rehearsal ends. -/
def ask (query : Query) : Respondent → Except Fault Answer × Respondent
  | .terminal here later => askThere query here later
  | .prepared [] => (.error (.crash (.unexpectedQuestion query.question)), .prepared [])
  | .prepared (answer :: answers) => (.ok answer, .prepared answers)

end Respondent

/-- The fault of a command, which has no line yet. -/
def Command.Fault.toFault : Command.Fault → Tailor.Fault
  | .failed failure => .problem (.command failure) none
  | .unfit reason => .crash (.unfitCommand reason)

/-- The world of a shell with an optional time limit, where a respondent answers. Commands work on
the files and on whatever else the shell knows of, and the respondent has no part in either. -/
def World.ofShell {τ : Type} (lookup : Text → Option Text) (shell : Command.Shell (τ × Files))
    (limit? : Option Seconds) : World ((Respondent × τ) × Files) where
  lookup
  run command := fun ((respondent, others), files) =>
    let (attempt, others, files) := shell command (others, files)
    ((Command.output limit? command attempt).mapError Command.Fault.toFault,
      ((respondent, others), files))
  ask query := fun ((respondent, others), files) =>
    let (answer, respondent) := respondent.ask query
    (answer, ((respondent, others), files))

end Tailor
