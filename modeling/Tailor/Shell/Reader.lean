import Tailor.Shell.Source

/-! # Reading shell scripts

A script is read line by line: a line is read as a whole before any of it runs, together with the
lines that complete it.
-/

namespace Tailor.Shell
namespace Source

/-- The lines of a document in the script up to its delimiter, or up to the end of the script, and
the lines after that. -/
def documentFrom (tabs : Bool) (delimiter : Text) : (lines : List Text) → List Text × List Text
  | [] => ([], [])
  | line :: others =>
      let line := if tabs then line.dropWhile (· == '\t') else line
      if line = delimiter then ([], others)
      else if others.isEmpty then ([line], [])
      else
        let (own, after) := documentFrom tabs delimiter others
        ((line ++ ['\n']) :: own, after)

/-- A document that begins in the next line. Its lines are taken out of the script. -/
def document (tabs : Bool) : ReadM Direction := do
  skipBlanks
  let source ← get
  let raw := source.rest.takeWhile (!endsWord ·)
  goTo (source.rest.drop raw.length)
  let delimiter := raw.filter fun c => c != '\'' && c != '"' && c != '\\'
  let rest := (← get).rest
  let line := rest.takeWhile (· != '\n')
  let (own, after) := documentFrom tabs delimiter (Text.splitAll '\n' (rest.drop (line.length + 1)))
  let text := own.flatten
  modify fun source => { source with rest := line ++ '\n' :: Text.join ['\n'] after }
  if delimiter.length < raw.length then pure (.document [.quoted text])
  else
    let source ← get
    set { source with rest := text }
    let pieces ← piecesUntil (fun _ => false) true (text.length + 2)
    set source
    pure (.document pieces)

def someWord : ReadM Word := do
  match ← word? with
  | some word => pure word
  | none => misplaced none

/-- A redirection, if one stands here. -/
def redirection? : ReadM (Option Redirection) := do
  skipBlanks
  let rest := (← get).rest
  let digits := rest.takeWhile Char.isDigit
  let after := rest.drop digits.length
  match after with
  | c :: _ =>
      if (c == '<' || c == '>') && digits.length ≤ 1 then do
        goTo after
        let stream := fun (usual : Nat) => (digit? digits).getD usual
        if ← accept "<<<" then flawed (.unexpected "redirection".toList none)
        else if ← accept "<<-" then pure (some ⟨stream 0, ← document true⟩)
        else if ← accept "<<" then pure (some ⟨stream 0, ← document false⟩)
        else if ← accept "<&" then pure (some ⟨stream 0, .same (← someWord)⟩)
        else if ← accept "<" then pure (some ⟨stream 0, .input (← someWord)⟩)
        else if ← accept ">>" then pure (some ⟨stream 1, .output (← someWord) true⟩)
        else if ← accept ">&" then pure (some ⟨stream 1, .same (← someWord)⟩)
        else if ← accept ">|" then pure (some ⟨stream 1, .output (← someWord) false⟩)
        else
          let _ ← accept ">"
          pure (some ⟨stream 1, .output (← someWord) false⟩)
      else pure none
  | [] => pure none
where
  digit? (digits : Text) : Option Nat := digits.head?.map fun c => c.toNat - 48

def redirections : (steps : Nat) → ReadM (List Redirection)
  | 0 => pure []
  | steps + 1 => do
      match ← redirection? with
      | some redirection => pure (redirection :: (← redirections steps))
      | none => pure []

/-- The name and the value of an assignment, if the word is one. -/
def assignment? : ReadM (Option (Text × Word)) := do
  skipBlanks
  let rest := (← get).rest
  let name := rest.takeWhile isNameChar
  match rest.drop name.length with
  | '=' :: after =>
      if isName name then do
        goTo after
        pure (some (name, ← piecesUntil endsWord false (← wordSteps)))
      else pure none
  | _ => pure none

/-- The parts of a simple command: assignments come before all words. -/
def simpleParts (first : Bool) :
    (steps : Nat) → ReadM (List (Text × Word) × List Word × List Redirection)
  | 0 => pure ([], [], [])
  | steps + 1 => do
      if let some redirection ← redirection? then
        let (assignments, words, others) ← simpleParts first steps
        return (assignments, words, redirection :: others)
      if first then
        if let some assignment ← assignment? then
          let (assignments, words, others) ← simpleParts true steps
          return (assignment :: assignments, words, others)
      match ← word? with
      | some word =>
          let (assignments, words, others) ← simpleParts false steps
          pure (assignments, word :: words, others)
      | none => pure ([], [], [])

/-- The patterns of a branch, up to its parenthesis. -/
def patterns : (steps : Nat) → ReadM (List Word)
  | 0 => pure []
  | steps + 1 => do
      let pattern ← someWord
      skipBlanks
      if ← accept "|" then pure (pattern :: (← patterns steps))
      else if ← accept ")" then pure [pattern]
      else misplaced (some ")")

/-- The words up to the end of a line. -/
def words : (steps : Nat) → ReadM (List Word)
  | 0 => pure []
  | steps + 1 => do
      match ← word? with
      | some word => pure (word :: (← words steps))
      | none => pure []

/-- A separator of commands other than a line feed, if one stands here. -/
def separator : ReadM Bool := do
  skipBlanks
  let rest := (← get).rest
  if Text.after? [';', ';'] rest |>.isSome then pure false
  else if Text.after? ['&', '&'] rest |>.isSome then pure false
  else if ← accept ";" then pure true
  else accept "&"

mutual

/-- A command without pipes, if one stands here. -/
def command? : (steps : Nat) → ReadM (Option Command)
  | 0 => misplaced none
  | steps + 1 => do
      skipBlanks
      let body? ←
        if ← acceptWord "if" then pure (some (← conditional steps))
        else if ← acceptWord "while" then pure (some (← loop false steps))
        else if ← acceptWord "until" then pure (some (← loop true steps))
        else if ← acceptWord "for" then pure (some (← forEach steps))
        else if ← acceptWord "case" then pure (some (← choice steps))
        else if ← acceptWord "\x7b" then do
          let body ← block "\x7d" steps
          expectWord "\x7d"
          pure (some body)
        else if ← accept "(" then do
          let body ← block ")" steps
          skipBlanks
          if !(← accept ")") then misplaced (some ")")
          pure (some (.subshell body))
        else pure none
      match body? with
      | some body =>
          let directions ← redirections ((← get).rest.length + 1)
          pure (some (if directions.isEmpty then body else .redirected body directions))
      | none =>
          match ← bareWord? with
          | some name =>
              if reserved.any (·.toList = name) then pure none
              else
                let after := (afterBlanks ((← get).rest.drop name.length)).1
                match isName name, after with
                | true, '(' :: rest =>
                    match (afterBlanks rest).1 with
                    | ')' :: rest => do
                        goTo rest
                        emptyLines
                        match ← command? steps with
                        | some body => pure (some (.function name body))
                        | none => misplaced none
                    | _ => simple
                | _, _ => simple
          | none => simple
where
  simple : ReadM (Option Command) := do
    let line := (← get).line
    let (assignments, words, directions) ← simpleParts true ((← get).rest.length + 1)
    if assignments.isEmpty && words.isEmpty && directions.isEmpty then pure none
    else pure (some (.simple line assignments words directions))

/-- The commands of a compound command, of which there must be one, and which some token ends. -/
def block (last : String) : (steps : Nat) → ReadM Command
  | 0 => misplaced none
  | steps + 1 => do
      emptyLines
      match ← andOr? steps with
      | none => misplaced (if (← get).rest.isEmpty then some last else none)
      | some first =>
          let others ← blockRest steps
          pure (.sequence (first :: others))

def blockRest : (steps : Nat) → ReadM (List Command)
  | 0 => misplaced none
  | steps + 1 => do
      skipBlanks
      let separated ← separator
      let separated ← if separated then pure true else accept "\n"
      if !separated then pure []
      else
        emptyLines
        match ← andOr? steps with
        | some command => pure (command :: (← blockRest steps))
        | none => pure []

def conditional : (steps : Nat) → ReadM Command
  | 0 => misplaced none
  | steps + 1 => do
      let test ← block "then" steps
      expectWord "then"
      let body ← block "fi" steps
      if ← acceptWord "elif" then pure (.conditional test body (some (← conditional steps)))
      else if ← acceptWord "else" then
        let otherwise ← block "fi" steps
        expectWord "fi"
        pure (.conditional test body (some otherwise))
      else
        expectWord "fi"
        pure (.conditional test body none)

def loop (until_ : Bool) : (steps : Nat) → ReadM Command
  | 0 => misplaced none
  | steps + 1 => do
      let test ← block "do" steps
      expectWord "do"
      let body ← block "done" steps
      expectWord "done"
      pure (.loop until_ test body)

/-- A loop over words after its first word. -/
def forEach : (steps : Nat) → ReadM Command
  | 0 => misplaced none
  | steps + 1 => do
      let some name ← bareWord? | flawed .badLoopVariable
      if !isName name then flawed .badLoopVariable
      goTo ((← get).rest.drop name.length)
      emptyLines
      let items ←
        if ← acceptWord "in" then do
          let items ← words ((← get).rest.length + 1)
          if (← get).rest.isEmpty then misplaced none
          pure (some items)
        else pure none
      let _ ← separator
      emptyLines
      expectWord "do"
      let body ← block "done" steps
      expectWord "done"
      pure (.forEach name items body)

def choice : (steps : Nat) → ReadM Command
  | 0 => misplaced none
  | steps + 1 => do
      let subject ← someWord
      emptyLines
      expectWord "in"
      emptyLines
      let branches ← branches steps
      pure (.choice subject branches)

/-- The branches of a choice up to its last word. -/
def branches : (steps : Nat) → ReadM (List (List Word × Command))
  | 0 => misplaced none
  | steps + 1 => do
      emptyLines
      if ← acceptWord "esac" then pure []
      else
        skipBlanks
        let _ ← accept "("
        let choices ← patterns ((← get).rest.length + 1)
        emptyLines
        let body ←
          match ← andOr? steps with
          | some first =>
              let others ← blockRest steps
              pure (Command.sequence (first :: others))
          | none => pure (.sequence [])
        emptyLines
        if ← accept ";;" then pure ((choices, body) :: (← branches steps))
        else
          expectWord "esac"
          pure [(choices, body)]

/-- A pipeline, if one stands here. -/
def pipeline? : (steps : Nat) → ReadM (Option Command)
  | 0 => misplaced none
  | steps + 1 => do
      if ← acceptWord "!" then
        if (← bareWord?) = some ['!'] then misplaced none
        match ← pipeline? steps with
        | some command => pure (some (.negation command))
        | none => misplaced none
      else
        match ← command? steps with
        | none => pure none
        | some first =>
            match ← stages steps with
            | [] => pure (some first)
            | others => pure (some (.pipeline (first :: others)))

def stages : (steps : Nat) → ReadM (List Command)
  | 0 => misplaced none
  | steps + 1 => do
      skipBlanks
      let rest := (← get).rest
      let isPipe ← if (Text.after? ['|', '|'] rest).isSome then pure false else accept "|"
      if isPipe then
        emptyLines
        match ← command? steps with
        | some command => pure (command :: (← stages steps))
        | none => misplaced none
      else pure []

/-- Pipelines of which one runs after another only if that succeeds, or fails. -/
def andOr? : (steps : Nat) → ReadM (Option Command)
  | 0 => misplaced none
  | steps + 1 => do
      match ← pipeline? steps with
      | none => pure none
      | some first => pure (some (← andOrRest first steps))

def andOrRest (first : Command) : (steps : Nat) → ReadM Command
  | 0 => misplaced none
  | steps + 1 => do
      skipBlanks
      let joins ←
        if ← accept "&&" then pure (some true)
        else if ← accept "||" then pure (some false)
        else pure none
      match joins with
      | none => pure first
      | some both =>
          emptyLines
          match ← pipeline? steps with
          | none => misplaced none
          | some second =>
              andOrRest (if both then .both first second else .either first second) steps

end

def lineRest : (steps : Nat) → ReadM (List Command)
  | 0 => misplaced none
  | steps + 1 => do
      match ← andOr? (steps + 1) with
      | none => pure []
      | some command =>
          if ← separator then pure (command :: (← lineRest steps)) else pure [command]

/-- The next line of a script that holds commands; nothing is left after the last one. -/
def line? : ReadM (Option Command) := do
  emptyLines
  if (← get).rest.isEmpty then pure none
  else
    let commands ← lineRest (4 * (← get).rest.length + 8)
    skipBlanks
    let source ← get
    match source.rest with
    | [] => pure ()
    | '\n' :: _ => pure ()
    | _ => misplaced none
    pure (some (.sequence commands))

end Source
end Tailor.Shell
