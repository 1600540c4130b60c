import Tailor.Text.Digit

/-! # Conditions on texts and files

The conditions that `test` decides. What one to four arguments mean depends on their number first;
further ones are read as an expression with operators for negation, conjunction and disjunction.
-/

namespace Tailor.Shell

/-- What a path leads to. -/
inductive Place where
  | nothing
  | directory
  | file (size : Nat)
  | device
deriving Repr, DecidableEq

namespace Condition

/-- A condition has a verdict, or there is a complaint. -/
abbrev Verdict := Except Text Bool

def number (text : Text) : Except Text Int :=
  let trimmed := Text.trim text
  let (negative, digits) :=
    match trimmed with
    | '-' :: rest => (true, rest)
    | '+' :: rest => (false, rest)
    | _ => (false, trimmed)
  match Text.inBase? 10 digits with
  | some size => .ok (if negative then -(size : Int) else size)
  | none => .error ("Illegal number: ".toList ++ text)

/-- The test that an operator before an argument makes. -/
def unary? (places : Text → Place) (operator argument : Text) : Option Bool :=
  let place := places argument
  match String.ofList operator with
  | "-n" => some !argument.isEmpty
  | "-z" => some argument.isEmpty
  | "-e" | "-r" | "-w" => some (place != .nothing)
  | "-x" => some (place == .directory)
  | "-d" => some (place == .directory)
  | "-c" => some (place == .device)
  | "-f" => some (match place with | .file _ => true | _ => false)
  | "-s" => some (match place with | .file size => size != 0 | .directory => true | _ => false)
  | "-b" | "-h" | "-L" | "-p" | "-S" | "-t" | "-g" | "-u" | "-k" => some false
  | _ => none

/-- The test that an operator between two arguments makes. -/
def binary? (operator a b : Text) : Option Verdict :=
  let compared := fun (holds : Int → Int → Bool) => do
    let m ← number a
    let n ← number b
    pure (holds m n)
  match String.ofList operator with
  | "=" => some (.ok (a == b))
  | "!=" => some (.ok (a != b))
  | "<" => some (.ok (Text.precedes a b && a != b))
  | ">" => some (.ok (Text.precedes b a && a != b))
  | "-eq" => some (compared (· == ·))
  | "-ne" => some (compared (· != ·))
  | "-lt" => some (compared (· < ·))
  | "-le" => some (compared (· ≤ ·))
  | "-gt" => some (compared fun m n => decide (n < m))
  | "-ge" => some (compared fun m n => decide (n ≤ m))
  | _ => none

/-- The complaint about arguments that are left: it names the last one that was read. -/
def misplaced (arguments rest : List Text) : Text :=
  (arguments.getD (arguments.length - rest.length - 1) []) ++ ": unexpected operator".toList

mutual

/-- Conjunctions of which one has to hold, with the arguments that are left. -/
def disjunction (places : Text → Place) :
    (steps : Nat) → List Text → Except Text (Bool × List Text)
  | 0, _ => .ok (false, [])
  | steps + 1, arguments => do
      let (first, rest) ← conjunction places steps arguments
      match rest with
      | ['-', 'o'] :: rest =>
          let (second, rest) ← disjunction places steps rest
          pure (first || second, rest)
      | _ => pure (first, rest)

def conjunction (places : Text → Place) :
    (steps : Nat) → List Text → Except Text (Bool × List Text)
  | 0, _ => .ok (false, [])
  | steps + 1, arguments => do
      let (first, rest) ← single places steps arguments
      match rest with
      | ['-', 'a'] :: rest =>
          let (second, rest) ← conjunction places steps rest
          pure (first && second, rest)
      | _ => pure (first, rest)

/-- One test. A text alone holds if it is not empty. -/
def single (places : Text → Place) :
    (steps : Nat) → List Text → Except Text (Bool × List Text)
  | 0, _ => .ok (false, [])
  | _, [] => .error "argument expected".toList
  | steps + 1, first :: rest =>
      match rest with
      | operator :: b :: after =>
          match binary? operator first b with
          | some verdict => verdict.map (·, after)
          | none => other steps first rest
      | _ => other steps first rest
where
  other (steps : Nat) (first : Text) (rest : List Text) : Except Text (Bool × List Text) :=
    if first = ['!'] ∧ !rest.isEmpty then
      (single places steps rest).map fun (verdict, rest) => (!verdict, rest)
    else if first = ['('] ∧ !rest.isEmpty then do
      let (verdict, rest) ← disjunction places steps rest
      match rest with
      | [')'] :: rest => pure (verdict, rest)
      | _ => .error "closing paren expected".toList
    else
      match rest with
      | argument :: after =>
          match unary? places first argument with
          | some verdict => .ok (verdict, after)
          | none => .ok (!first.isEmpty, rest)
      | [] => .ok (!first.isEmpty, [])

end

def holds (places : Text → Place) (arguments : List Text) : Verdict :=
  match arguments with
  | [] => .ok false
  | [a] => .ok !a.isEmpty
  | _ =>
      match arguments with
      | [_, operator] =>
          if (binary? operator [] []).isSome then
            .error (operator ++ ": argument expected".toList)
          else whole
      | _ => whole
where
  whole : Verdict := do
    let (verdict, rest) ← disjunction places (4 * arguments.length + 4) arguments
    if rest.isEmpty then pure verdict else .error (misplaced arguments rest)

end Condition
end Tailor.Shell
