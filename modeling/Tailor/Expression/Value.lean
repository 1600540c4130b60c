import Tailor.Document.Session

/-! # Values of expressions

The value of an expression is the concatenation of the values of its tokens. Commands run one after
another in the order of their tokens, and the first token without a value decides the failure.
-/

namespace Tailor.Expression

variable {σ : Type}

/-- The value of a variable; one that is not set is empty. -/
def variableValue (world : World σ) (name : Text) : Text := (world.lookup name).getD []

def Token.value (world : World σ) : Token → Act σ Text
  | .literal c => pure [c]
  | .escapedDollar => pure ['\\', '$']
  | .variable name => pure (variableValue world name)
  | .bracedVariable name => pure (variableValue world name)
  | .command body => Act.runCommand world (unescape body)
  | .flawed flaw => Act.fail (.reference flaw)

def valueOfTokens (world : World σ) : List Token → Act σ Text
  | [] => pure []
  | token :: tokens => do
      let first ← token.value world
      let others ← valueOfTokens world tokens
      pure (first ++ others)

def expand (world : World σ) (text : Text) : Act σ Text :=
  valueOfTokens world (tokens true text)

/-- The value of one token where no command is run. -/
def Token.variableOnly (lookup : Text → Option Text) : Token → Except Flaw Text
  | .literal c => .ok [c]
  | .escapedDollar => .ok ['\\', '$']
  | .variable name => .ok ((lookup name).getD [])
  | .bracedVariable name => .ok ((lookup name).getD [])
  | .command body => .ok ("$(".toList ++ body ++ [')'])
  | .flawed flaw => .error flaw

/-- The text with the values of its variables put in; references to commands stay as they are. -/
def expandVariables (lookup : Text → Option Text) (text : Text) : Except Flaw Text :=
  ((tokens false text).mapM (Token.variableOnly lookup)).map List.flatten

/-- The verdict of a condition. The sides of an equality are expanded one after the other and
compared without the blanks around them. -/
def verdict (world : World σ) : Condition → Act σ Bool
  | .equal left right => do
      let leftValue ← expand world left
      let rightValue ← expand world right
      pure (Text.trim leftValue == Text.trim rightValue)
  | .defined argument => do
      let value ← expand world argument
      pure !(Text.trim value).isEmpty
  | .undefined argument => do
      let value ← expand world argument
      pure (Text.trim value).isEmpty

/-- The verdict of a directive; only conditions have one. -/
def directiveVerdict (world : World σ) : Directive → Act σ Bool
  | .condition condition => verdict world condition
  | directive => throw (.crash (.notConditional directive))

end Tailor.Expression
