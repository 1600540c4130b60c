import Tailor.Text.Quoted

/-! # Queries and the answers to them

A query is a question with its options in order; two queries are the same only if the question and
all options agree character by character. A query without options asks for yes or no.
-/

namespace Tailor

/-- A question and the options it offers. -/
structure Query where
  question : Text
  options : List Text
deriving Repr, DecidableEq

/-- A query without options asks for yes or no. -/
def Query.isYesNo (query : Query) : Bool := query.options.isEmpty

/-- The answer to a query. -/
inductive Answer where
  | yesNo (yes : Bool)
  /-- The position of an option, counted from zero. -/
  | choice (position : Int)
deriving Repr, DecidableEq

def Answer.text : Answer → Text
  | .yesNo true => "True".toList
  | .yesNo false => "False".toList
  | .choice position => Text.ofInt position

/-- The answer keeps what a yes/no query guards: it says yes, or is a number other than zero. -/
def Answer.holds : Answer → Bool
  | .yesNo yes => yes
  | .choice position => position != 0

/-- Why a query has no usable answer. -/
inductive QueryFailure where
  | inputEnded
  /-- The answer selects none of the given number of options. -/
  | badAnswer (answer : Answer) (count : Nat)
deriving Repr, DecidableEq

def QueryFailure.message : QueryFailure → Text
  | .inputEnded => "Input ended before a valid answer was given".toList
  | .badAnswer answer count =>
      "Answer ".toList ++ answer.text ++ " does not select one of ".toList ++ Text.ofNat count ++
        " options".toList

end Tailor
