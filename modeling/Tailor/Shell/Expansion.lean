import Tailor.Shell.Arithmetic
import Tailor.Shell.Pattern
import Tailor.Shell.State

/-! # Expansion of words

A word is expanded to marked characters, which are then cut into fields: only what comes from
unquoted expansions is cut. Without the marks the same characters are a text, and with them a
pattern.
-/

namespace Tailor.Shell

/-- A part of an expanded word. -/
inductive Fragment where
  | plain (c : Char)
  | quoted (c : Char)
  /-- A character that comes from an unquoted expansion. -/
  | result (c : Char)
  /-- A place between quotes: a field is here even if it is empty. -/
  | place
  | border
  /-- The gap between two parameters that are not quoted. -/
  | gap
  /-- No parameters at all between quotes: an empty field here is none. -/
  | absent
deriving Repr, DecidableEq

namespace Fragment

def ofText (isQuoted : Bool) (text : Text) : List Fragment :=
  text.map fun c => if isQuoted then .quoted c else .result c

/-- Fragments that stand for an expansion: what is plain in them is cut into fields if that is not
quoted. -/
def asResult (isQuoted : Bool) (fragments : List Fragment) : List Fragment :=
  fragments.map fun fragment =>
    match fragment with
    | .plain c => if isQuoted then .quoted c else .result c
    | fragment => fragment

/-- The character of a fragment in a pattern. -/
def patternChar? : Fragment → Option PatternChar
  | .plain c | .result c => some ⟨c, false⟩
  | .quoted c => some ⟨c, true⟩
  | .border | .gap => some ⟨' ', true⟩
  | .place | .absent => none

/-- The text of fragments that are not cut into fields. -/
def text (fragments : List Fragment) : Text :=
  (fragments.filterMap patternChar?).map (·.char)

/-- The fields so far, the field that has begun, and whether a blank has just ended a field. -/
structure Cut where
  fields : List Text
  current : Option Text
  afterBlank : Bool
  isAbsent : Bool

def Cut.add (cut : Cut) (c : Char) : Cut :=
  { cut with current := some (cut.current.getD [] ++ [c]), afterBlank := false, isAbsent := false }

def Cut.finish (cut : Cut) : Cut :=
  match cut.current with
  | none => cut
  | some field =>
      if field.isEmpty ∧ cut.isAbsent then { cut with current := none, isAbsent := false }
      else ⟨cut.fields ++ [field], none, true, false⟩

/-- Goes on with a fragment. Blanks around a separator go with it, and two separators have an empty
field between them. -/
def Cut.step (separators : Text) (cut : Cut) : Fragment → Cut
  | .plain c | .quoted c => cut.add c
  | .place => { cut with current := some (cut.current.getD []) }
  | .absent => { cut with isAbsent := true }
  | .border =>
      let ended : Cut := { cut with current := some (cut.current.getD []) }
      { ended.finish with current := some [], afterBlank := false }
  | .gap => { cut.finish with afterBlank := false }
  | .result c =>
      if !separators.contains c then cut.add c
      else if c = ' ' ∨ c = '\t' ∨ c = '\n' then cut.finish
      else
        match cut.current with
        | some _ => { cut.finish with afterBlank := false }
        | none =>
            if cut.afterBlank then { cut with afterBlank := false }
            else { cut with fields := cut.fields ++ [[]] }

def fields (separators : Text) (fragments : List Fragment) : List Text :=
  (fragments.foldl (Cut.step separators) ⟨[], none, false, false⟩).finish.fields

end Fragment

namespace RunM

/-- The value of a parameter that is not a list. -/
def parameter? (name : Text) : RunM (Option Text) := do
  let state ← get
  match name with
  | ['?'] => pure (some (Text.ofNat state.status))
  | ['#'] => pure (some (Text.ofNat state.parameters.length))
  | ['$'] => pure (some ['1'])
  | ['!'] => pure (some [])
  | ['-'] => pure (some ((if state.endsOnFailure then ['e'] else []) ++
      (if state.refusesMissing then ['u'] else [])))
  | ['0'] => pure (some state.name)
  | _ =>
      match Text.inBase? 10 name with
      | some number => pure state.parameters[number - 1]?
      | none => variableValue? name

def separators : RunM Text := do pure ((← variableValue? "IFS".toList).getD " \t\n".toList)

/-- The fragments of the value of a parameter, if it has one. -/
def value? (name : Text) (isQuoted : Bool) : RunM (Option (List Fragment)) := do
  if name = ['@'] ∨ name = ['*'] then
    let parameters := (← get).parameters
    if isQuoted ∧ name = ['*'] then
      let between := (← separators).take 1
      pure (some (Fragment.ofText true (Text.join between parameters)))
    else if parameters.isEmpty then pure (if isQuoted then some [.absent] else none)
    else
      let between := if isQuoted then Fragment.border else .gap
      pure (some ([between].intercalate (parameters.map (Fragment.ofText isQuoted))))
  else
    let value ← parameter? name
    pure (value.map (Fragment.ofText isQuoted))

/-- The value of an arithmetic expression; its assignments take effect. -/
def arithmetic (text : Text) : RunM Text := do
  let bindings := (← get).bindings.map fun entry => (entry.name, entry.value)
  match Arithmetic.evaluate text bindings with
  | .ok (value, after) =>
      for (name, value) in (after.take (after.length - bindings.length)).reverse do
        assign name value false
      pure (Text.ofInt value)
  | .error (.notNumber value) => refuse ("Illegal number: ".toList ++ value)
  | .error .divisionByZero =>
      refuse ("arithmetic expression: division by zero: \"".toList ++ text ++ ['"'])
  | .error .malformed =>
      refuse ("arithmetic expression: expecting primary: \"".toList ++ text ++ ['"'])
  | .error .leftOver =>
      refuse ("arithmetic expression: expecting EOF: \"".toList ++ text ++ ['"'])

mutual

/-- The fragments of a part of a word. The output of a script comes from the given action. -/
def expandPiece (output : Text → RunM Text) : Piece → RunM (List Fragment)
  | .plain text => pure (text.map .plain)
  | .quoted text => pure (.place :: Fragment.ofText true text)
  | .unusable => refuse "Bad substitution".toList
  | .output script isQuoted => do pure (Fragment.ofText isQuoted (← output script))
  | .number expression isQuoted => do
      let text := Fragment.text (← expandPieces output expression)
      pure (Fragment.ofText isQuoted (← arithmetic text))
  | .parameter name edit orEmpty argument isQuoted => do
      let found ← value? name isQuoted
      let present := found.filter fun value => !(orEmpty && (Fragment.text value).isEmpty)
      match edit, present with
      | .value, some value => pure value
      | .value, none =>
          if (← get).refusesMissing ∧ name ≠ ['@'] ∧ name ≠ ['*'] then
            refuse (name ++ ": parameter not set".toList)
          else pure []
      | .length, value => pure (Fragment.ofText isQuoted
          (Text.ofNat (Utf8.encode (Fragment.text (value.getD []))).length))
      | .fallback, some value => pure value
      | .fallback, none => do
          pure (Fragment.asResult isQuoted (← expandPieces output argument))
      | .instead, some _ => do
          pure (Fragment.asResult isQuoted (← expandPieces output argument))
      | .instead, none => pure []
      | .assign, some value => pure value
      | .assign, none => do
          let value := Fragment.text (← expandPieces output argument)
          assign name value false
          pure (Fragment.ofText isQuoted value)
      | .required, some value => pure value
      | .required, none => do
          let reason := Fragment.text (← expandPieces output argument)
          let usual := if orEmpty then "parameter not set or null" else "parameter not set"
          refuse (name ++ ": ".toList ++ (if reason.isEmpty then usual.toList else reason))
      | .dropStart longest, value => do
          let pattern := (← expandPieces output argument).filterMap Fragment.patternChar?
          let text := Fragment.text (value.getD [])
          pure (Fragment.ofText isQuoted (Pattern.dropStart longest pattern text))
      | .dropEnd longest, value => do
          let pattern := (← expandPieces output argument).filterMap Fragment.patternChar?
          let text := Fragment.text (value.getD [])
          pure (Fragment.ofText isQuoted (Pattern.dropEnd longest pattern text))

/-- The fragments of the parts of a word. -/
def expandPieces (output : Text → RunM Text) : List Piece → RunM (List Fragment)
  | [] => pure []
  | piece :: pieces => do
      let first ← expandPiece output piece
      pure (first ++ (← expandPieces output pieces))

end

/-- A word whose tilde stands for the home directory. -/
def withHome (word : Word) : RunM Word := do
  match word with
  | .plain ['~'] :: rest =>
      let ends :=
        match rest with
        | [] => true
        | .plain (c :: _) :: _ => c == '/'
        | _ => false
      match ← variableValue? "HOME".toList with
      | some home => pure (if ends then .quoted home :: rest else word)
      | none => pure word
  | _ => pure word

def expandFields (output : Text → RunM Text) (word : Word) : RunM (List Text) := do
  let fragments ← expandPieces output (← withHome word)
  pure (Fragment.fields (← separators) fragments)

/-- The text of a word, which is not cut into fields. -/
def expandText (output : Text → RunM Text) (word : Word) : RunM Text := do
  pure (Fragment.text (← expandPieces output (← withHome word)))

def expandPattern (output : Text → RunM Text) (word : Word) : RunM Pattern := do
  pure ((← expandPieces output (← withHome word)).filterMap Fragment.patternChar?)

end RunM
end Tailor.Shell
