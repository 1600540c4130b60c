import Tailor.Shell.Script

/-! # Places in shell scripts

A script is read from left to right. This module holds the steps of reading below commands: blanks,
words with their expansions, reserved words, and complaints about what stands in a wrong place.
-/

namespace Tailor.Shell

/-- What is left of a script, and the number of its line. -/
structure Source where
  rest : Text
  line : Nat

/-- A step of reading. A flaw leaves the place where it was found. -/
abbrev ReadM := ExceptT Flaw (StateM Source)

namespace Source

def isBlank (c : Char) : Bool := c == ' ' || c == '\t'

def endsWord (c : Char) : Bool := isBlank c || "\n;&|<>()".toList.contains c

/-- The characters of names; a name does not begin with a digit. -/
def isNameChar (c : Char) : Bool := c.isAlphanum || c == '_'

def isNameStart (c : Char) : Bool := c.isAlpha || c == '_'

def isName (text : Text) : Bool := (text.head?.map isNameStart).getD false && text.all isNameChar

def flawed {α : Type} (flaw : Flaw) : ReadM α := throw flaw

/-- A token as it is named in complaints. -/
def inQuotes (token : Text) : Text := '"' :: token ++ ['"']

/-- The text after blanks, escaped line feeds and a comment, with the number of line feeds. -/
def afterBlanks : Text → Text × Nat
  | '\\' :: '\n' :: rest =>
      let (after, lines) := afterBlanks rest
      (after, lines + 1)
  | c :: rest =>
      if isBlank c then afterBlanks rest
      else if c == '#' then (rest.dropWhile (· != '\n'), 0)
      else (c :: rest, 0)
  | [] => ([], 0)

def skipBlanks : ReadM Unit :=
  modify fun source =>
    let (rest, lines) := afterBlanks source.rest
    ⟨rest, source.line + lines⟩

/-- Goes to a place further on in the text. -/
def goTo (rest : Text) : ReadM Unit :=
  modify fun source =>
    let taken := source.rest.take (source.rest.length - rest.length)
    ⟨rest, source.line + taken.count '\n'⟩

/-- Goes past a text if it stands here. -/
def accept (text : String) : ReadM Bool := do
  match Text.after? text.toList (← get).rest with
  | some rest =>
      goTo rest
      pure true
  | none => pure false

/-- The text up to the parenthesis that closes one which is open, and what follows it. -/
def untilClosed (depth : Nat) (quote : Option Char) : Text → Option (Text × Text)
  | [] => none
  | '\\' :: c :: rest =>
      if quote = some '\'' then
        if c = '\'' then (untilClosed depth none rest).map fun (a, b) => ('\\' :: c :: a, b)
        else (untilClosed depth quote rest).map fun (a, b) => ('\\' :: c :: a, b)
      else (untilClosed depth quote rest).map fun (a, b) => ('\\' :: c :: a, b)
  | c :: rest =>
      match quote with
      | some mark =>
          let quote := if c = mark then none else quote
          (untilClosed depth quote rest).map fun (a, b) => (c :: a, b)
      | none =>
          if c = '\'' ∨ c = '"' then
            (untilClosed depth (some c) rest).map fun (a, b) => (c :: a, b)
          else if c = '(' then (untilClosed (depth + 1) none rest).map fun (a, b) => (c :: a, b)
          else if c = ')' then
            match depth with
            | 0 => some ([], rest)
            | depth + 1 => (untilClosed depth none rest).map fun (a, b) => (c :: a, b)
          else (untilClosed depth none rest).map fun (a, b) => (c :: a, b)

/-- The script between grave accents: a backslash there escapes only a few characters. -/
def untilGrave : Text → Option (Text × Text)
  | [] => none
  | '\x60' :: rest => some ([], rest)
  | '\\' :: c :: rest =>
      (untilGrave rest).map fun (a, b) =>
        (if c = '\x60' ∨ c = '\\' ∨ c = '$' then c :: a else '\\' :: c :: a, b)
  | c :: rest => (untilGrave rest).map fun (a, b) => (c :: a, b)

/-- The names of parameters that are single characters. -/
def specials : Text := "@*#?$!-".toList

/-- What follows the name of a parameter in braces, up to the word that it takes. -/
def edit? (text : Text) : Option (Edit × Bool × Text) :=
  let (orEmpty, rest) :=
    match text with
    | ':' :: rest => (true, rest)
    | _ => (false, text)
  match orEmpty, rest with
  | _, '-' :: rest => some (.fallback, orEmpty, rest)
  | _, '=' :: rest => some (.assign, orEmpty, rest)
  | _, '+' :: rest => some (.instead, orEmpty, rest)
  | _, '?' :: rest => some (.required, orEmpty, rest)
  | false, '%' :: '%' :: rest => some (.dropEnd true, false, rest)
  | false, '%' :: rest => some (.dropEnd false, false, rest)
  | false, '#' :: '#' :: rest => some (.dropStart true, false, rest)
  | false, '#' :: rest => some (.dropStart false, false, rest)
  | _, _ => none

/-- The name of a parameter, and what follows it. -/
def parameterName? (text : Text) : Option (Text × Text) :=
  match text with
  | c :: rest =>
      if isNameStart c then some (text.takeWhile isNameChar, text.dropWhile isNameChar)
      else if c.isDigit then some (text.takeWhile Char.isDigit, text.dropWhile Char.isDigit)
      else if specials.contains c then some ([c], rest)
      else none
  | [] => none

mutual

def dollar (quoted : Bool) : (steps : Nat) → ReadM (List Piece)
  | 0 => flawed .openQuote
  | steps + 1 => do
      match (← get).rest with
      | '(' :: '(' :: rest =>
          match untilClosed 1 none rest with
          | some (inside, after) =>
              if inside.getLast? = some ')' then
                let source ← get
                set { source with rest := inside.dropLast }
                let expression ← piecesUntil (fun _ => false) true steps
                set source
                goTo after
                pure [.number expression quoted]
              else scriptFrom ('(' :: rest)
          | none => flawed .openNumber
      | '(' :: rest => scriptFrom rest
      | '{' :: '#' :: rest =>
          match parameterName? rest with
          | some (name, '}' :: after) =>
              goTo after
              pure [.parameter name .length false [] quoted]
          | _ =>
              match rest with
              | '}' :: after =>
                  goTo after
                  pure [.parameter ['#'] .value false [] quoted]
              | _ => unusable
      | '{' :: rest =>
          match parameterName? rest with
          | some (name, '}' :: after) =>
              goTo after
              pure [.parameter name .value false [] quoted]
          | some (name, after) =>
              match edit? after with
              | some (edit, orEmpty, after) => do
                  goTo after
                  let argument ← piecesUntil (· == '}') quoted steps
                  if !(← accept "\x7d") then flawed .openBrace
                  pure [.parameter name edit orEmpty argument quoted]
              | none => unusable
          | none => unusable
      | c :: rest =>
          if isNameStart c then
            goTo ((c :: rest).dropWhile isNameChar)
            pure [.parameter ((c :: rest).takeWhile isNameChar) .value false [] quoted]
          else if c.isDigit || specials.contains c then
            goTo rest
            pure [.parameter [c] .value false [] quoted]
          else pure [if quoted then .quoted ['$'] else .plain ['$']]
      | [] => pure [if quoted then .quoted ['$'] else .plain ['$']]
where
  /-- A script up to the parenthesis that closes it. -/
  scriptFrom (text : Text) : ReadM (List Piece) := do
    match untilClosed 0 none text with
    | some (script, after) =>
        goTo after
        pure [.output script quoted]
    | none =>
        if quoted then flawed .openQuote
        else flawed (.unexpected "end of file".toList (some (inQuotes [')'])))
  unusable : ReadM (List Piece) := do
    match (← get).rest.dropWhile (· != '}') with
    | _ :: after =>
        goTo after
        pure [.unusable]
    | [] => flawed .openBrace

/-- The parts of a word up to a character. Inside double quotes a backslash escapes only a few
characters, and single quotes stand for themselves. -/
def piecesUntil (stops : Char → Bool) (quoted : Bool) : (steps : Nat) → ReadM (List Piece)
  | 0 => flawed .openQuote
  | steps + 1 => do
      match (← get).rest with
      | [] => pure []
      | c :: rest =>
          if stops c then pure []
          else
            let first ←
              match c with
              | '$' => do
                  goTo rest
                  dollar quoted steps
              | '\x60' =>
                  match untilGrave rest with
                  | some (script, after) => do
                      goTo after
                      pure [Piece.output script quoted]
                  | none => flawed .openGrave
              | '\\' =>
                  match rest with
                  | '\n' :: after => do
                      goTo after
                      pure []
                  | e :: after => do
                      goTo after
                      if quoted && !"$\x60\"\\".toList.contains e then
                        pure [Piece.quoted ['\\', e]]
                      else pure [Piece.quoted [e]]
                  | [] => do
                      goTo rest
                      pure [Piece.quoted ['\\']]
              | '"' => do
                  goTo rest
                  if quoted && !stops '}' then pure [Piece.quoted ['"']]
                  else
                    let inside ← piecesUntil (· == '"') true steps
                    if !(← accept "\"") then flawed .openQuote
                    pure (Piece.quoted [] :: inside)
              | _ =>
                  if c == '\'' && !quoted then do
                    let inside := rest.takeWhile (· != '\'')
                    match rest.dropWhile (· != '\'') with
                    | _ :: after => do
                        goTo after
                        pure [Piece.quoted inside]
                    | [] => flawed .openQuote
                  else do
                    goTo rest
                    pure [if quoted then Piece.quoted [c] else Piece.plain [c]]
            pure (first ++ (← piecesUntil stops quoted steps))

end

/-- The number of steps in which a word is read: each takes a character. -/
def wordSteps : ReadM Nat := do pure ((← get).rest.length + 2)

/-- A word, if one stands here. -/
def word? : ReadM (Option Word) := do
  skipBlanks
  match (← get).rest with
  | [] => pure none
  | c :: _ =>
      if endsWord c then pure none
      else pure (some (← piecesUntil endsWord false (← wordSteps)))

/-- The characters at the beginning of a word that stand for themselves. -/
def bareStart (text : Text) : Text :=
  text.takeWhile fun c => !endsWord c && !"'\"\\$\x60".toList.contains c

/-- The word that stands here, if it is free of quotes and expansions. -/
def bareWord? : ReadM (Option Text) := do
  skipBlanks
  let rest := (← get).rest
  let start := bareStart rest
  match rest.drop start.length with
  | c :: _ => pure (if endsWord c && !start.isEmpty then some start else none)
  | [] => pure (if start.isEmpty then none else some start)

/-- The words that stand for parts of commands. -/
def reserved : List String :=
  ["if", "then", "elif", "else", "fi", "while", "until", "do", "done", "for", "in", "case", "esac",
    "\x7b", "\x7d", "!"]

/-- Goes past a reserved word if it stands here. -/
def acceptWord (name : String) : ReadM Bool := do
  if (← bareWord?) = some name.toList then accept name else pure false

/-- The token that stands here, for complaints. -/
def tokenHere : ReadM Text := do
  skipBlanks
  match (← get).rest with
  | [] => pure "end of file".toList
  | '\n' :: _ => pure "newline".toList
  | '<' :: _ | '>' :: _ => pure "redirection".toList
  | a :: b :: _ =>
      if [a, b] ∈ [['&', '&'], ['|', '|'], [';', ';']] then pure (inQuotes [a, b])
      else single a
  | [a] => single a
where
  single (c : Char) : ReadM Text := do
    if endsWord c then pure (inQuotes [c])
    else
      match ← bareWord? with
      | some name => pure (if reserved.any (·.toList = name) then inQuotes name else "word".toList)
      | none => pure "word".toList

def misplaced {α : Type} (expected : Option String) : ReadM α := do
  let token ← tokenHere
  flawed (.unexpected token (expected.map fun name => inQuotes name.toList))

/-- Goes past a reserved word, which must stand here. -/
def expectWord (name : String) : ReadM Unit := do
  if !(← acceptWord name) then misplaced (some name)

/-- Goes past line feeds, blanks and comments. -/
def skipLines : (steps : Nat) → ReadM Unit
  | 0 => pure ()
  | steps + 1 => do
      skipBlanks
      if ← accept "\n" then skipLines steps

def emptyLines : ReadM Unit := do skipLines ((← get).rest.length + 1)

end Source
end Tailor.Shell
