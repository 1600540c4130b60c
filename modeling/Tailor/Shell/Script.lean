import Tailor.Text.Basic

/-! # Shell scripts

The parts of a script in the command language of a POSIX shell: words with their expansions,
redirections and commands. Scripts inside words are kept as texts; they are read when the word is
expanded.
-/

namespace Tailor.Shell

/-- How the value of a parameter is used. -/
inductive Edit where
  | value
  | length
  | fallback
  /-- A word stands for a missing value, which is set to it. -/
  | assign
  /-- A word stands for a value that is there. -/
  | instead
  /-- A missing value ends the script; the word says why. -/
  | required
  /-- The shortest, or the longest, beginning that has a pattern is dropped. -/
  | dropStart (longest : Bool)
  /-- The shortest, or the longest, end that has a pattern is dropped. -/
  | dropEnd (longest : Bool)
deriving Repr, DecidableEq

/-- A part of a word. Quoted parts are neither split nor patterns. -/
inductive Piece where
  | plain (text : Text)
  | quoted (text : Text)
  /-- The value of a parameter; with the flag, an empty value counts as missing. -/
  | parameter (name : Text) (edit : Edit) (orEmpty : Bool) (argument : List Piece) (quoted : Bool)
  | output (script : Text) (quoted : Bool)
  | number (expression : List Piece) (quoted : Bool)
  /-- Braces after a dollar sign that hold no parameter; they have no value. -/
  | unusable
deriving Repr, Inhabited

/-- A word is the row of its parts. -/
abbrev Word := List Piece

/-- Where a stream of a command comes from or goes to. -/
inductive Direction where
  | input (file : Word)
  | output (file : Word) (append : Bool)
  /-- The same as another stream; a dash closes the stream. -/
  | same (stream : Word)
  | document (text : Word)
deriving Repr, Inhabited

/-- A redirection of a stream, by its number. -/
structure Redirection where
  stream : Nat
  direction : Direction
deriving Repr, Inhabited

/-- A command. -/
inductive Command where
  | simple (line : Nat) (assignments : List (Text × Word)) (words : List Word)
      (redirections : List Redirection)
  | pipeline (stages : List Command)
  | negation (command : Command)
  /-- The second command runs if the first succeeds. -/
  | both (first second : Command)
  /-- The second command runs if the first fails. -/
  | either (first second : Command)
  | sequence (commands : List Command)
  /-- A command whose changes to the shell are lost. -/
  | subshell (body : Command)
  | redirected (body : Command) (redirections : List Redirection)
  | conditional (test body : Command) (otherwise : Option Command)
  /-- The body runs while the test succeeds, or until it does. -/
  | loop (until_ : Bool) (test body : Command)
  /-- The body runs for each word, or for each parameter of the script. -/
  | forEach (name : Text) (words : Option (List Word)) (body : Command)
  | choice (subject : Word) (branches : List (List Word × Command))
  | function (name : Text) (body : Command)
deriving Repr, Inhabited

/-- Why a script cannot be read. -/
inductive Flaw where
  | openQuote
  | openGrave
  | openBrace
  | openNumber
  | badLoopVariable
  /-- A token, with its quotes if it is a fixed one, and the token that was expected if one was. -/
  | unexpected (token : Text) (expected : Option Text)
deriving Repr, DecidableEq

def Flaw.message : Flaw → Text
  | .openQuote => "Syntax error: Unterminated quoted string".toList
  | .openGrave => "Syntax error: EOF in backquote substitution".toList
  | .openBrace => "Syntax error: Missing '\x7d'".toList
  | .openNumber => "Syntax error: Missing '))'".toList
  | .badLoopVariable => "Syntax error: Bad for loop variable".toList
  | .unexpected token none => "Syntax error: ".toList ++ token ++ " unexpected".toList
  | .unexpected token (some expected) =>
      "Syntax error: ".toList ++ token ++ " unexpected (expecting ".toList ++ expected ++ [')']

end Tailor.Shell
