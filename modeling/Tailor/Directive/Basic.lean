import Tailor.Text.Basic

/-! # Directives

A directive is what a marked line asks for: a comment, the parts of a conditional block, or the
parts of a question block. This module holds the directives and their keywords.
-/

namespace Tailor

/-- What a conditional block asks of the values of its arguments. -/
inductive Condition where
  | equal (left right : Text)
  /-- The argument has a value that is not blank. -/
  | defined (argument : Text)
  | undefined (argument : Text)
deriving Repr, DecidableEq

/-- The three sorts of conditions, without their arguments. -/
inductive Condition.Sort where
  | equal
  | defined
  | undefined
deriving Repr, DecidableEq

def Condition.sort : Condition → Condition.Sort
  | .equal _ _ => .equal
  | .defined _ => .defined
  | .undefined _ => .undefined

/-- What a marked line asks for. -/
inductive Directive where
  | comment
  | condition (condition : Condition)
  /-- Turns the verdict of a conditional block round. -/
  | otherwise
  | endCondition
  | ask (question : Text)
  /-- Opens the next option of a question block. -/
  | option (label : Text)
  | endAsk
deriving Repr, DecidableEq

/-- The words that directives begin with. -/
inductive Keyword where
  | ifEqual
  | ifDefined
  | ifUndefined
  | otherwise
  | endCondition
  | ask
  | option
  | endAsk
deriving Repr, DecidableEq

def Keyword.spelling : Keyword → Text
  | .ifEqual => ['I', 'F']
  | .ifDefined => ['I', 'F', 'D', 'E', 'F']
  | .ifUndefined => ['I', 'F', 'N', 'D', 'E', 'F']
  | .otherwise => ['E', 'L', 'S', 'E']
  | .endCondition => ['E', 'N', 'D', 'I', 'F']
  | .ask => ['A', 'S', 'K']
  | .option => ['O', 'P', 'T', 'I', 'O', 'N']
  | .endAsk => ['E', 'N', 'D', 'A', 'S', 'K']

/-- The keyword that opens a conditional block of one sort. -/
def Condition.Sort.keyword : Condition.Sort → Keyword
  | .equal => .ifEqual
  | .defined => .ifDefined
  | .undefined => .ifUndefined

/-- The capital that a character counts as in a keyword: its own, if it is an ASCII letter. The
dotted and the dotless I count as I, the long s as S and the kelvin sign as K. -/
def capital (c : Char) : Char :=
  if c = '\u0130' ∨ c = '\u0131' then 'I'
  else if c = '\u017F' then 'S'
  else if c = '\u212A' then 'K'
  else c.toUpper

/-- What follows a row of capitals that begins a text in any case. -/
def afterCapitals? : (capitals : Text) → (text : Text) → Option Text
  | [], text => some text
  | _ :: _, [] => none
  | k :: capitals, c :: text => if capital c = k then afterCapitals? capitals text else none

/-- What follows the keyword at the beginning of a text. -/
def Keyword.after? (keyword : Keyword) (text : Text) : Option Text :=
  afterCapitals? keyword.spelling text

end Tailor
