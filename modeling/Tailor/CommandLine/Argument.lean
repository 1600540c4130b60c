import Tailor.Text.Digit

/-! # Arguments of a command line

A command has options, which begin with dashes and may stand anywhere, and one operand. A long
option may be cut short as long as one option alone begins so, and its argument may be attached to
it by an equals sign. Behind a lone double dash everything is an operand.
-/

namespace Tailor.CommandLine

/-- Why arguments are not carried out. -/
inductive Dismissal where
  | help
  | misuse
deriving Repr, DecidableEq

/-- An option: how it is written, how many arguments follow it and what it changes. -/
structure Form (σ : Type) where
  spellings : List Text
  count : Nat
  apply : List Text → σ → Except Dismissal σ

/-- The option that asks for help, in its short and its long spelling. -/
def Form.help {σ : Type} : Form σ :=
  ⟨["-h".toList, "--help".toList], 0, fun _ _ => .error .help⟩

/-- What follows options of one letter behind one dash. -/
inductive LetterEnd where
  | nothing
  | unknown
  /-- An argument, which they do not take. -/
  | argument
deriving Repr, DecidableEq

/-- What an argument is. -/
inductive Token (σ : Type) where
  | operand (text : Text)
  /-- An option, with the argument that is attached to it. -/
  | option (form : Form σ) (attached : Option Text)
  | cluster (forms : List (Form σ)) (after : LetterEnd)
  | unknown
  | separator

namespace Token

variable {σ : Type}

def form? (forms : List (Form σ)) (spelling : Text) : Option (Form σ) :=
  forms.find? fun form => form.spellings.contains spelling

/-- The options that some spelling with this beginning belongs to, once for each spelling. -/
def candidates (forms : List (Form σ)) (start : Text) : List (Form σ) :=
  forms.flatMap fun form =>
    (form.spellings.filter fun spelling => (Text.after? start spelling).isSome).map fun _ => form

/-- The options of letters, none of which takes arguments, and what follows them. -/
def letterForms (forms : List (Form σ)) : (letters : Text) → List (Form σ) × LetterEnd
  | [] => ([], .nothing)
  | letter :: letters =>
      if letter = '=' ∨ letter = '-' then ([], .argument)
      else
        match form? forms ['-', letter] with
        | none => ([], .unknown)
        | some form =>
            let (others, after) := letterForms forms letters
            (form :: others, after)

def isNegativeNumber (text : Text) : Bool :=
  let text := if text.getLast? = some '\n' then text.dropLast else text
  match text with
  | '-' :: size =>
      let whole := size.takeWhile Text.isDigit
      match size.drop whole.length with
      | [] => !whole.isEmpty
      | '.' :: decimals => !decimals.isEmpty && decimals.all Text.isDigit
      | _ => false
  | _ => false

/-- What an argument is that begins with a dash and is no option: a negative number or a text with
a space is an operand. -/
def other (text : Text) : Token σ :=
  if isNegativeNumber text || text.contains ' ' then .operand text else .unknown

/-- What an argument before a double dash is. -/
def ofText (forms : List (Form σ)) (text : Text) : Except Dismissal (Token σ) :=
  match text with
  | '-' :: '-' :: _ =>
      let name := text.takeWhile (· != '=')
      let attached := if name.length < text.length then some (text.drop (name.length + 1)) else none
      match form? forms text, form? forms name, candidates forms name with
      | some form, _, _ => .ok (.option form none)
      | none, some form, _ => .ok (.option form attached)
      | none, none, [form] => .ok (.option form attached)
      | none, none, [] => .ok (other text)
      | none, none, _ => .error .misuse
  | '-' :: letter :: rest =>
      if (form? forms ['-', letter]).isSome then
        let (found, after) := letterForms forms (letter :: rest)
        .ok (.cluster found after)
      else .ok (other text)
  | _ => .ok (.operand text)

/-- What the arguments of a command line are. -/
def ofArguments (forms : List (Form σ)) : List Text → Except Dismissal (List (Token σ))
  | [] => .ok []
  | text :: rest =>
      if text = ['-', '-'] then .ok (.separator :: rest.map .operand)
      else do
        let token ← ofText forms text
        pure (token :: (← ofArguments forms rest))

/-- So many operands from the beginning, and what follows them. -/
def takeOperands? : Nat → List (Token σ) → Option (List Text × List (Token σ))
  | 0, tokens => some ([], tokens)
  | count + 1, .operand text :: tokens =>
      (takeOperands? count tokens).map fun (texts, rest) => (text :: texts, rest)
  | _ + 1, _ => none

theorem length_takeOperands? {count : Nat} {tokens rest : List (Token σ)} {texts : List Text}
    (h : takeOperands? count tokens = some (texts, rest)) : rest.length ≤ tokens.length := by
  fun_induction takeOperands? count tokens generalizing texts rest with
  | case1 tokens => simp_all
  | case2 count text tokens ih =>
      obtain ⟨⟨others, after⟩, found, same⟩ := Option.map_eq_some_iff.1 h
      simp only [Prod.mk.injEq] at same
      have := ih found
      simp only [List.length_cons, ← same.2]
      omega
  | case3 => simp at h

end Token

/-- A command: its options, and what its operand changes. -/
structure Grammar (σ : Type) where
  forms : List (Form σ)
  operand : Text → σ → σ

/-- What the arguments read so far ask for. -/
structure Progress (σ : Type) where
  settings : σ
  complete : Bool
  /-- Something has been met that has no place. -/
  surplus : Bool

namespace Grammar

variable {σ : Type} (grammar : Grammar σ)

/-- The progress after the operand, if that is still owed. -/
def withOperand (text : Text) (progress : Progress σ) : Progress σ :=
  if progress.complete then { progress with surplus := true }
  else { progress with settings := grammar.operand text progress.settings, complete := true }

/-- Follows what arguments ask for, from left to right; what comes after a dismissal is not looked
at. A double dash has a place only beside the operand. -/
def follow (progress : Progress σ) : List (Token σ) → Except Dismissal (Progress σ)
  | [] => .ok progress
  | .separator :: .operand text :: rest =>
      if progress.complete then .ok { progress with surplus := true }
      else follow (grammar.withOperand text progress) rest
  | .separator :: rest => follow { progress with surplus := true } rest
  | .operand text :: .separator :: rest => follow (grammar.withOperand text progress) rest
  | .operand text :: rest => follow (grammar.withOperand text progress) rest
  | .unknown :: rest => follow { progress with surplus := true } rest
  | .cluster forms after :: rest =>
      if after = .argument then .error .misuse
      else do
        let settings ← forms.foldlM (fun settings form => form.apply [] settings) progress.settings
        let surplus := progress.surplus || after == .unknown
        follow { progress with settings := settings, surplus := surplus } rest
  | .option form (some attached) :: rest =>
      if form.count = 1 then do
        let settings ← form.apply [attached] progress.settings
        follow { progress with settings := settings } rest
      else .error .misuse
  | .option form none :: rest =>
      match h : Token.takeOperands? form.count rest with
      | none => .error .misuse
      | some (texts, after) => do
          have := Token.length_takeOperands? h
          let settings ← form.apply texts progress.settings
          follow { progress with settings := settings } after
termination_by tokens => tokens.length

/-- The settings that arguments ask for, from those at the beginning. The flag tells that there is
something without a place, which is refused only after everything else. -/
def read (start : σ) (arguments : List Text) : Except Dismissal (σ × Bool) := do
  let tokens ← Token.ofArguments grammar.forms arguments
  let progress ← grammar.follow ⟨start, false, false⟩ tokens
  if progress.complete then pure (progress.settings, progress.surplus) else throw .misuse

end Grammar
end Tailor.CommandLine
