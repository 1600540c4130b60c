import Tailor.Text.Digit

/-! # Arithmetic in scripts

Expressions over whole numbers of 64 bits with the usual operators. A variable without value is
zero, and assignments change variables.
-/

namespace Tailor.Shell.Arithmetic

/-- Why an expression has no value. -/
inductive Flaw where
  | malformed
  | leftOver
  | divisionByZero
  | notNumber (value : Text)
deriving Repr, DecidableEq

/-- What is left of an expression, and the variables. -/
structure State where
  rest : Text
  bindings : List (Text × Text)

abbrev ArithmeticM := StateT State (Except Flaw)

/-- A number in the range of 64 bits. -/
def wrap (value : Int) : Int := Int.bmod value 0x10000000000000000

def skipBlanks : ArithmeticM Unit :=
  modify fun state =>
    { state with rest := state.rest.dropWhile fun c => c == ' ' || c == '\t' || c == '\n' }

/-- The binary operators, from those that bind most loosely. No operator that another one begins
with stands before that one in a row. -/
def levels : List (List String) :=
  [["||"], ["&&"], ["|"], ["^"], ["&"], ["==", "!="], ["<=", ">=", "<", ">"], ["<<", ">>"],
    ["+", "-"], ["*", "/", "%"]]

/-- An operator that only looks like one of a level: a longer one stands here. -/
def isLonger (operator : String) (rest : Text) : Bool :=
  match operator, rest with
  | "|", _ :: '|' :: _ => true
  | "&", _ :: '&' :: _ => true
  | "<", _ :: '<' :: _ => true
  | ">", _ :: '>' :: _ => true
  | _, _ => false

/-- Goes past an operator of a level if one stands here. -/
def operator? (level : List String) : ArithmeticM (Option String) := do
  skipBlanks
  let rest := (← get).rest
  let found := level.find? fun operator =>
    (Text.after? operator.toList rest).isSome && !isLonger operator rest
  if let some operator := found then
    modify fun state => { state with rest := state.rest.drop operator.length }
  pure found

def truth (value : Bool) : Int := if value then 1 else 0

def apply (operator : String) (a b : Int) : ArithmeticM Int :=
  let bits := fun (f : BitVec 64 → BitVec 64 → BitVec 64) =>
    (f (BitVec.ofInt 64 a) (BitVec.ofInt 64 b)).toInt
  match operator with
  | "+" => pure (wrap (a + b))
  | "-" => pure (wrap (a - b))
  | "*" => pure (wrap (a * b))
  | "/" => if b = 0 then throw .divisionByZero else pure (wrap (a.tdiv b))
  | "%" => if b = 0 then throw .divisionByZero else pure (wrap (a.tmod b))
  | "==" => pure (truth (a == b))
  | "!=" => pure (truth (a != b))
  | "<" => pure (truth (a < b))
  | ">" => pure (truth (b < a))
  | "<=" => pure (truth (a ≤ b))
  | ">=" => pure (truth (b ≤ a))
  | "&" => pure (bits (· &&& ·))
  | "|" => pure (bits (· ||| ·))
  | "^" => pure (bits (· ^^^ ·))
  | "<<" => pure (wrap (a * Int.pow 2 (b.toNat % 64)))
  | ">>" => pure (a.fdiv (Int.pow 2 (b.toNat % 64)))
  | "&&" => pure (truth (a != 0 && b != 0))
  | "||" => pure (truth (a != 0 || b != 0))
  | _ => throw .malformed

/-- The number that a numeral writes: hexadecimal after `0x`, octal after a zero. -/
def numeral? (text : Text) : Option Int :=
  let size :=
    match text with
    | '0' :: 'x' :: digits | '0' :: 'X' :: digits => Text.inBase? 16 digits
    | ['0'] => some 0
    | '0' :: digits => Text.inBase? 8 digits
    | digits => Text.inBase? 10 digits
  size.map fun (n : Nat) => wrap n

/-- The number that the value of a variable writes. -/
def valueOf (text : Text) : ArithmeticM Int :=
  let trimmed := Text.trim text
  match trimmed with
  | [] => pure 0
  | '-' :: rest =>
      match numeral? rest with
      | some value => pure (-value)
      | none => throw (.notNumber text)
  | _ =>
      match numeral? trimmed with
      | some value => pure value
      | none => throw (.notNumber text)

/-- The operators of assignments, each with the operator that it applies. -/
def assignments : List (String × Option String) :=
  [("<<=", some "<<"), (">>=", some ">>"), ("+=", some "+"), ("-=", some "-"), ("*=", some "*"),
    ("/=", some "/"), ("%=", some "%"), ("&=", some "&"), ("|=", some "|"), ("^=", some "^"),
    ("=", none)]

def isNameChar (c : Char) : Bool := c.isAlphanum || c == '_'

mutual

/-- A whole expression: an assignment or a choice between two values. -/
def expression : (steps : Nat) → ArithmeticM Int
  | 0 => throw .malformed
  | steps + 1 => do
      skipBlanks
      let rest := (← get).rest
      let name := rest.takeWhile isNameChar
      let after := (rest.drop name.length).dropWhile (· == ' ')
      let assigned := assignments.find? fun entry => (Text.after? entry.1.toList after).isSome
      let isName := (name.head?.map fun c => !c.isDigit).getD false
      match assigned with
      | some (spelling, operator) =>
          if isName && (Text.after? ['=', '='] after).isNone then
            modify fun state => { state with rest := after.drop spelling.length }
            let value ← expression steps
            let value ←
              match operator with
              | some operator => do
                  let old ← valueOf (((← get).bindings.lookup name).getD [])
                  apply operator old value
              | none => pure value
            modify fun state =>
              { state with bindings := (name, Text.ofInt value) :: state.bindings }
            pure value
          else choice steps
      | none => choice steps

/-- A choice between two values, or one value. -/
def choice : (steps : Nat) → ArithmeticM Int
  | 0 => throw .malformed
  | steps + 1 => do
      let test ← binary levels steps
      match ← operator? ["?"] with
      | none => pure test
      | some _ =>
          let first ← expression steps
          if (← operator? [":"]).isNone then throw .malformed
          let second ← expression steps
          pure (if test ≠ 0 then first else second)

/-- Operands joined by the operators of a level, or of those that bind more tightly. -/
def binary (levels : List (List String)) : (steps : Nat) → ArithmeticM Int
  | 0 => throw .malformed
  | steps + 1 => do
      match levels with
      | [] => operand steps
      | level :: tighter =>
          let first ← binary tighter steps
          binaryRest level tighter first steps

def binaryRest (level : List String) (tighter : List (List String)) (value : Int) :
    (steps : Nat) → ArithmeticM Int
  | 0 => throw .malformed
  | steps + 1 => do
      match ← operator? level with
      | none => pure value
      | some operator =>
          let second ← binary tighter steps
          let value ← apply operator value second
          binaryRest level tighter value steps

/-- A number, a variable, an expression in parentheses, or one of these after a sign. -/
def operand : (steps : Nat) → ArithmeticM Int
  | 0 => throw .malformed
  | steps + 1 => do
      skipBlanks
      match (← get).rest with
      | '(' :: rest => do
          modify fun state => { state with rest := rest }
          let value ← expression steps
          if (← operator? [")"]).isNone then throw .malformed
          pure value
      | '-' :: rest => do
          modify fun state => { state with rest := rest }
          pure (wrap (-(← operand steps)))
      | '+' :: rest => do
          modify fun state => { state with rest := rest }
          operand steps
      | '!' :: rest => do
          modify fun state => { state with rest := rest }
          pure (truth ((← operand steps) == 0))
      | '~' :: rest => do
          modify fun state => { state with rest := rest }
          pure (wrap (-(← operand steps) - 1))
      | rest =>
          let word := rest.takeWhile isNameChar
          modify fun state => { state with rest := rest.drop word.length }
          match word with
          | [] => throw .malformed
          | c :: _ =>
              if c.isDigit then
                match numeral? word with
                | some value => pure value
                | none => throw .leftOver
              else valueOf (((← get).bindings.lookup word).getD [])

end

/-- The value of an expression, and the variables after it. -/
def evaluate (text : Text) (bindings : List (Text × Text)) :
    Except Flaw (Int × List (Text × Text)) := do
  let start : State := ⟨text, bindings⟩
  let read : ArithmeticM Int := do
    let value ← expression (16 * text.length + 16)
    skipBlanks
    if !(← get).rest.isEmpty then throw .leftOver
    pure value
  let (value, state) ← read.run start
  pure (value, state.bindings)

end Tailor.Shell.Arithmetic
