import Tailor.Command.Failure
import Tailor.Directive.Line
import Tailor.Expression.Token
import Tailor.Query.Basic
import Tailor.Text.Utf8

/-! # Problems of documents

What can go wrong while a document is processed. A problem has a category, a wording and usually
the number of the line at which it arose. A crash is a failure outside these categories; it is not
charged to a line.
-/

namespace Tailor

/-- Why the blocks of a document do not nest. -/
inductive StructureFlaw where
  /-- The document ends inside blocks; their opening lines are listed outermost first, and the
  keyword is that of the innermost one. -/
  | unterminated (innermost : Keyword) (openLines : List Nat)
  | strayOtherwise
  /-- A second turn in the conditional block opened on a line. -/
  | repeatedOtherwise (keyword : Keyword) (line : Nat)
  /-- The end of a conditional block with no block open. -/
  | strayEndCondition
  /-- The end of a conditional block inside the question block opened on a line. -/
  | endConditionInAsk (line : Nat)
  /-- The end of a question block with no block open. -/
  | strayEndAsk
  /-- The end of a question block inside the conditional block opened on a line. -/
  | endAskInCondition (keyword : Keyword) (line : Nat)
  /-- An option whose innermost block is no question block. -/
  | strayOption
deriving Repr, DecidableEq

def StructureFlaw.message : StructureFlaw → Text
  | .unterminated innermost openLines =>
      innermost.spelling ++ " block is never closed (open blocks at lines ".toList ++
        Text.join [',', ' '] (openLines.map Text.ofNat) ++ [')']
  | .strayOtherwise => "ELSE without an open IF/IFDEF/IFNDEF block".toList
  | .repeatedOtherwise keyword line =>
      "Second ELSE in the ".toList ++ keyword.spelling ++ " block opened on line ".toList ++
        Text.ofNat line
  | .strayEndCondition => "ENDIF without an open block".toList
  | .endConditionInAsk line =>
      "ENDIF closes the ASK block opened on line ".toList ++ Text.ofNat line
  | .strayEndAsk => "ENDASK without an open block".toList
  | .endAskInCondition keyword line =>
      "ENDASK closes the ".toList ++ keyword.spelling ++ " block opened on line ".toList ++
        Text.ofNat line
  | .strayOption => "OPTION outside of an ASK block".toList

/-- What is wrong with a document, or with what it refers to. -/
inductive Problem where
  | directive (malformation : Malformation)
  | nesting (flaw : StructureFlaw)
  | reference (flaw : Expression.Flaw)
  | command (failure : CommandFailure)
  /-- A key that the substitution table does not have. -/
  | unknownKey (key : Text)
  | query (failure : QueryFailure)

/-- The categories under which problems are reported. -/
inductive Category where
  | malformedDirective
  | unterminatedBlock
  | unmatchedElse
  | duplicateElse
  | unmatchedEnd
  | unmatchedOption
  | invalidName
  | unescapedParen
  | commandExecution
  | unknownKey
  | queryInput
deriving Repr, DecidableEq

def Category.name : Category → String
  | .malformedDirective => "malformed_directive"
  | .unterminatedBlock => "unterminated_block"
  | .unmatchedElse => "unmatched_else"
  | .duplicateElse => "duplicate_else"
  | .unmatchedEnd => "unmatched_end"
  | .unmatchedOption => "unmatched_option"
  | .invalidName => "invalid_env_name"
  | .unescapedParen => "unescaped_paren"
  | .commandExecution => "command_execution"
  | .unknownKey => "unknown_substitution_key"
  | .queryInput => "query_input"

namespace Problem

def category : Problem → Category
  | .directive _ => .malformedDirective
  | .nesting (.unterminated _ _) => .unterminatedBlock
  | .nesting .strayOtherwise => .unmatchedElse
  | .nesting (.repeatedOtherwise _ _) => .duplicateElse
  | .nesting .strayEndCondition => .unmatchedEnd
  | .nesting (.endConditionInAsk _) => .unmatchedEnd
  | .nesting .strayEndAsk => .unmatchedEnd
  | .nesting (.endAskInCondition _ _) => .unmatchedEnd
  | .nesting .strayOption => .unmatchedOption
  | .reference (.openName _) => .invalidName
  | .reference (.badName _) => .invalidName
  | .reference (.ambiguousEnd _) => .unescapedParen
  | .reference (.openCommand _) => .unescapedParen
  | .command _ => .commandExecution
  | .unknownKey _ => .unknownKey
  | .query _ => .queryInput

def message : Problem → Text
  | .directive malformation => malformation.message
  | .nesting flaw => flaw.message
  | .reference flaw => flaw.message
  | .command failure => failure.message
  | .unknownKey key => "Unknown substitution key ".toList ++ Text.quoted key
  | .query failure => failure.message

end Problem

/-- A failure outside the categories of problems. -/
inductive Crash where
  /-- A rehearsed session was asked more questions than it has answers. -/
  | unexpectedQuestion (question : Text)
  /-- A numeral has more digits than a number may be read from. -/
  | tooManyDigits (count : Nat)
  /-- A command cannot be handed to a process, for a reason in words. -/
  | unfitCommand (reason : Text)
  /-- What is typed cannot be decoded. -/
  | undecodable (fault : Utf8.Fault)
  | notConditional (directive : Directive)
deriving Repr, DecidableEq

def Crash.message : Crash → Text
  | .unexpectedQuestion question => "Unexpected question: ".toList ++ Text.quoted question
  | .tooManyDigits count => Text.tooManyDigits count
  | .unfitCommand reason => reason
  | .undecodable fault => fault.message
  | .notConditional directive => "Not a conditional directive: ".toList ++ directive.describe

/-- Why processing stopped: a problem, with the number of its line once that is known, or a
crash. -/
inductive Fault where
  | problem (what : Problem) (line : Option Nat)
  | crash (how : Crash)

/-- The fault with a line number, unless it has one already or is a crash. -/
def Fault.atLine (line : Nat) : Fault → Fault
  | .problem what none => .problem what (some line)
  | fault => fault

end Tailor
