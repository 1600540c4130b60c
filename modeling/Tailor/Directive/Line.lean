import Tailor.Directive.Basic
import Tailor.Text.Quoted

/-! # Directive lines

A line is a directive line if, after its leading blanks, it starts with the mark of the document.
What follows the mark, trimmed, is the payload. A payload is a comment if it starts with a number
sign; otherwise it is a keyword in any case, a gap of spaces and tabs, and an argument on the same
line, or a closing keyword with nothing but a gap behind it.
-/

namespace Tailor

/-- Why a payload is no directive. -/
inductive Malformation where
  | blankSide (payload : Text)
  | blankArgument (keyword : Keyword)
  /-- The payload has the form of no directive. -/
  | unrecognized (payload : Text)
deriving Repr, DecidableEq

def Malformation.message : Malformation → Text
  | .blankSide payload => "IF needs the form 'A == B', got ".toList ++ Text.quoted payload
  | .blankArgument keyword => keyword.spelling ++ " needs an argument".toList
  | .unrecognized payload =>
      "Unrecognized preprocessor instruction ".toList ++ Text.quoted payload

namespace Directive

/-- The characters of a gap behind a keyword. -/
def isGap (c : Char) : Bool := c == ' ' || c == '\t'

/-- The payload of a line under a mark, or nothing for a content line. Under an empty mark every
line is a content line. -/
def payload? (mark line : Text) : Option Text :=
  if mark.isEmpty then none else (Text.after? mark (Text.trimLeft line)).map Text.trim

/-- What follows the first character of the gap behind a keyword, if there is something and it
stays on one line. -/
def behindGap? : Text → Option Text
  | [] => none
  | c :: rest => if isGap c && !rest.isEmpty && !rest.contains '\n' then some rest else none

/-- The argument of a keyword: what stands behind the gap, trimmed. -/
def argument? (keyword : Keyword) (payload : Text) : Option Text :=
  ((keyword.after? payload).bind behindGap?).map Text.trim

/-- The two sides of the first pair of equality signs behind the keyword, trimmed. -/
def sides? (payload : Text) : Option (Text × Text) :=
  ((Keyword.ifEqual.after? payload).bind behindGap?).bind fun rest =>
    (Text.splitOnce? ['=', '='] rest).map fun (left, right) => (Text.trim left, Text.trim right)

/-- Behind the keyword stands nothing but a gap. -/
def isBare (keyword : Keyword) (payload : Text) : Bool :=
  match keyword.after? payload with
  | some rest => rest.all isGap
  | none => false

/-- A directive made from the argument of a keyword, which may not be blank. -/
def withArgument (keyword : Keyword) (make : Text → Directive) (argument : Text) :
    Except Malformation Directive :=
  if argument.isEmpty then .error (.blankArgument keyword) else .ok (make argument)

/-- Reads a payload. No payload has two of the forms, so their order does not matter. -/
def ofPayload (payload : Text) : Except Malformation Directive :=
  if payload.head? = some '#' then .ok .comment
  else if let some argument := argument? .ifDefined payload then
    withArgument .ifDefined (fun text => .condition (.defined text)) argument
  else if let some argument := argument? .ifUndefined payload then
    withArgument .ifUndefined (fun text => .condition (.undefined text)) argument
  else if let some (left, right) := sides? payload then
    if left.isEmpty || right.isEmpty then .error (.blankSide payload)
    else .ok (.condition (.equal left right))
  else if let some argument := argument? .ask payload then
    withArgument .ask .ask argument
  else if let some argument := argument? .option payload then
    withArgument .option .option argument
  else if isBare .otherwise payload then .ok .otherwise
  else if isBare .endCondition payload then .ok .endCondition
  else if isBare .endAsk payload then .ok .endAsk
  else .error (.unrecognized payload)

/-- Reads a line: nothing for a content line, otherwise the directive of its payload. -/
def ofLine (mark line : Text) : Except Malformation (Option Directive) :=
  match payload? mark line with
  | none => .ok none
  | some payload => (ofPayload payload).map some

/-- A directive in words, for the message that it has no verdict. -/
def describe : Directive → Text
  | .comment => "Comment()".toList
  | .condition (.equal left right) =>
      "If(left=".toList ++ Text.quoted left ++ ", right=".toList ++ Text.quoted right ++ [')']
  | .condition (.defined argument) => "IfDef(expr=".toList ++ Text.quoted argument ++ [')']
  | .condition (.undefined argument) => "IfNDef(expr=".toList ++ Text.quoted argument ++ [')']
  | .otherwise => "Else()".toList
  | .endCondition => "EndIf()".toList
  | .ask question => "Ask(question=".toList ++ Text.quoted question ++ [')']
  | .option label => "Option(label=".toList ++ Text.quoted label ++ [')']
  | .endAsk => "EndAsk()".toList

end Directive
end Tailor
