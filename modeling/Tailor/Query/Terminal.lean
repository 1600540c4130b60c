import Tailor.Document.Session
import Tailor.Text.Digit

/-! # Asking at a terminal

A terminal shows prompts and reads lines, each ended by a line feed or by the end of the input. A
query with options lists them under numbers from one and is answered by such a number; a query
without options is answered by y, yes, n or no in any case. A line that does not decide the query
makes it prompt again. Lines behind the deciding one stay unread.
-/

namespace Tailor

/-- The text cut behind each of its line feeds. -/
def Text.splitBehindLineFeeds : Text → List Text
  | [] => []
  | c :: text =>
      if c = '\n' then [c] :: splitBehindLineFeeds text
      else
        match splitBehindLineFeeds text with
        | [] => [[c]]
        | line :: lines => (c :: line) :: lines

/-- A terminal: the lines not read yet, with their line feeds, and all that was written. -/
structure Terminal where
  unread : List Text
  written : Text
deriving Repr, DecidableEq

namespace Terminal

/-- A terminal at which nothing is written yet. -/
def ofInput (input : Text) : Terminal := ⟨Text.splitBehindLineFeeds input, []⟩

/-- What a line says about a query. -/
inductive Judgement where
  | again
  | answer (answer : Answer)
  | crash (crash : Crash)
deriving Repr, DecidableEq

/-- A line that answers a yes/no query is y, yes, n or no. -/
def judgeYesNo (line : Text) : Judgement :=
  let word := (Text.trim line).map Char.toLower
  if word = ['y'] ∨ word = ['y', 'e', 's'] then .answer (.yesNo true)
  else if word = ['n'] ∨ word = ['n', 'o'] then .answer (.yesNo false)
  else .again

/-- A line that answers a query with options is a number from one to their count, in the decimal
digits of any script. A numeral that is too long to be read ends the asking. -/
def judgeChoice (count : Nat) (line : Text) : Judgement :=
  let word := Text.trim line
  match Text.natural? word with
  | none => .again
  | some number =>
      if word.length > Text.digitLimit then .crash (.tooManyDigits word.length)
      else if 1 ≤ number ∧ number ≤ count then .answer (.choice (number - 1 : Nat))
      else .again

/-- Writes the prompt and reads a line until one decides. -/
def readUntil (prompt : Text) (judge : Text → Judgement) :
    (unread : List Text) → (written : Text) → Except Fault Answer × Terminal
  | [], written => (.error (.problem (.query .inputEnded) none), ⟨[], written ++ prompt⟩)
  | line :: unread, written =>
      match judge line with
      | .again => readUntil prompt judge unread (written ++ prompt)
      | .answer answer => (.ok answer, ⟨unread, written ++ prompt⟩)
      | .crash crash => (.error (.crash crash), ⟨unread, written ++ prompt⟩)

/-- The list of options under numbers from one. -/
def optionList (options : List Text) : Text :=
  (options.zipIdx 1).flatMap fun (label, number) =>
    "     | ".toList ++ Text.padLeft ' ' 2 (Text.ofNat number) ++ "> ".toList ++ label ++ ['\n']

def heading (question : Text) : Text := "ASK  - ".toList ++ question

def ask (query : Query) (terminal : Terminal) : Except Fault Answer × Terminal :=
  if query.isYesNo then
    readUntil (heading query.question ++ " (y/n) ".toList) judgeYesNo terminal.unread
      terminal.written
  else
    readUntil "     | Please enter a number: ".toList (judgeChoice query.options.length)
      terminal.unread
      (terminal.written ++ heading query.question ++ ['\n'] ++ optionList query.options)

end Terminal
end Tailor
