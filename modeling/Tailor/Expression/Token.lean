import Tailor.Text.Quoted

/-! # Tokens of expressions

An expression is a text with references to variables, `$NAME` and `${NAME}`, and to the output of
commands, `$(COMMAND)`. One split from left to right cuts it into tokens. The split depends on the
text alone: values are put in afterwards and never read again as expressions.
-/

namespace Tailor.Expression

/-- A reference that cannot be read. -/
inductive Flaw where
  /-- No brace closes the name; the text is what follows the opening brace. -/
  | openName (rest : Text)
  /-- What stands between the braces is no name. -/
  | badName (name : Text)
  /-- More parentheses open in the command than are closed in it, so the one that ends it was
  perhaps meant to stand for itself. -/
  | ambiguousEnd (body : Text)
  /-- No parenthesis closes the command; the text is what follows the opening one. -/
  | openCommand (rest : Text)
deriving Repr, DecidableEq

def Flaw.message : Flaw → Text
  | .openName rest => "Unterminated variable reference '$\x7b".toList ++ rest ++ ['\'']
  | .badName name =>
      "Invalid environment variable name ".toList ++ Text.quoted name ++
        ": only letters and '_' are allowed".toList
  | .ambiguousEnd body =>
      "Ambiguous ')' in command substitution '$(".toList ++ body ++
        ")': write a literal ')' as '\\)'".toList
  | .openCommand rest =>
      "Missing closing ')' in command substitution '$(".toList ++ rest ++ ['\'']

/-- A piece of an expression. -/
inductive Token where
  | literal (c : Char)
  /-- A dollar sign behind a backslash; both are kept. -/
  | escapedDollar
  | variable (name : Text)
  | bracedVariable (name : Text)
  /-- `$(BODY)`, with the body as it is written -/
  | command (body : Text)
  /-- A reference that cannot be read. -/
  | flawed (flaw : Flaw)
deriving Repr, DecidableEq

/-- The characters of names: ASCII letters and the underscore. -/
def isNameChar (c : Char) : Bool := c.isAlpha || c == '_'

/-- The body of a command and what follows it: the body ends at the first closing parenthesis that
does not stand directly behind a backslash. -/
def splitBody? : Text → Option (Text × Text)
  | [] => none
  | '\\' :: ')' :: rest => (splitBody? rest).map fun (body, after) => ('\\' :: ')' :: body, after)
  | c :: rest =>
      if c = ')' then some ([], rest)
      else (splitBody? rest).map fun (body, after) => (c :: body, after)

/-- How many parentheses open in a body that do not stand directly behind a backslash. -/
def openings : Text → Nat
  | [] => 0
  | '\\' :: '(' :: rest => openings rest
  | c :: rest => (if c = '(' then 1 else 0) + openings rest

/-- The command that a body writes: a backslash directly before a parenthesis is dropped. -/
def unescape : Text → Text
  | [] => []
  | '\\' :: '(' :: rest => '(' :: unescape rest
  | '\\' :: ')' :: rest => ')' :: unescape rest
  | c :: rest => c :: unescape rest

/-- The token of a command reference; `rest` is what follows its opening parenthesis. -/
def commandToken (rest : Text) : Token × Text :=
  match splitBody? rest with
  | none => (.flawed (.openCommand rest), [])
  | some (body, after) =>
      if openings body > body.count ')' then (.flawed (.ambiguousEnd body), [])
      else (.command body, after)

/-- The token of a braced name; `rest` is what follows its opening brace. -/
def bracedToken (rest : Text) : Token × Text :=
  match Text.splitOnce? ['}'] rest with
  | none => (.flawed (.openName rest), [])
  | some (name, after) =>
      if !name.isEmpty && name.all isNameChar then (.bracedVariable name, after)
      else (.flawed (.badName name), [])

/-- The first token of an expression that starts with the given character, and what follows it.
After a flaw nothing follows. Where commands are not looked for, a dollar sign before a parenthesis
stands for itself. -/
def firstToken (commands : Bool) (c : Char) (rest : Text) : Token × Text :=
  match c, rest with
  | '\\', '$' :: after => (.escapedDollar, after)
  | '$', '{' :: after => bracedToken after
  | '$', '(' :: after => if commands then commandToken after else (.literal '$', rest)
  | '$', _ =>
      let name := rest.takeWhile isNameChar
      if name.isEmpty then (.literal '$', rest) else (.variable name, rest.dropWhile isNameChar)
  | c, _ => (.literal c, rest)

theorem length_splitBody? {text body after : Text} (h : splitBody? text = some (body, after)) :
    after.length ≤ text.length := by
  fun_induction splitBody? text generalizing body after with
  | case1 => simp at h
  | case2 rest ih =>
      obtain ⟨⟨b, a⟩, found, same⟩ := Option.map_eq_some_iff.1 h
      simp only [Prod.mk.injEq] at same
      have := ih found
      simp only [List.length_cons, ← same.2]
      omega
  | case3 rest =>
      simp only [Option.some.injEq, Prod.mk.injEq] at h
      simp [← h.2]
  | case4 c rest _ _ ih =>
      obtain ⟨⟨b, a⟩, found, same⟩ := Option.map_eq_some_iff.1 h
      simp only [Prod.mk.injEq] at same
      have := ih found
      simp only [List.length_cons, ← same.2]
      omega

theorem length_firstToken (commands : Bool) (c : Char) (rest : Text) :
    (firstToken commands c rest).2.length ≤ rest.length := by
  unfold firstToken
  split
  · simp
  · unfold bracedToken
    split
    · simp
    · next found => have := Text.length_splitOnce? found; split <;> simp; omega
  · split
    · unfold commandToken
      split
      · simp
      · next found => have := length_splitBody? found; split <;> simp; omega
    · simp
  · simp only []
    split
    · simp
    · exact Text.length_dropWhile_le _ _
  · simp

def tokens (commands : Bool) : (text : Text) → List Token
  | [] => []
  | c :: rest =>
      let first := firstToken commands c rest
      first.1 :: tokens commands first.2
termination_by text => text.length
decreasing_by
  have := length_firstToken commands c rest
  simp only [List.length_cons]
  omega

end Tailor.Expression
