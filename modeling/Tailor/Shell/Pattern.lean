import Tailor.Text.Basic

/-! # Patterns

Patterns over texts: a star stands for any text, a question mark for any character, and brackets
for one of some characters. Quoted characters stand for themselves.
-/

namespace Tailor.Shell

/-- A character of a pattern, and whether it stands for itself. -/
structure PatternChar where
  char : Char
  quoted : Bool
deriving Repr, DecidableEq

abbrev Pattern := List PatternChar

namespace Pattern

/-- What a text as a whole may be. -/
inductive Item where
  | one (char : Char)
  | anyOne
  | anyText
  /-- One character in, or outside of, some ranges. -/
  | among (negated : Bool) (ranges : List (Char × Char))
deriving Repr, DecidableEq

/-- The ranges of a bracket, after its beginning, and what follows the bracket. A closing bracket
that stands first is one of the characters. -/
def ranges (first : Bool) : Pattern → Option (List (Char × Char) × Pattern)
  | [] => none
  | a :: rest =>
      if a.char = ']' ∧ !a.quoted ∧ !first then some ([], rest)
      else
        match rest with
        | dash :: b :: after =>
            if dash = ⟨'-', false⟩ ∧ b ≠ ⟨']', false⟩ then
              (ranges false after).map fun (r, s) => ((a.char, b.char) :: r, s)
            else (ranges false (dash :: b :: after)).map fun (r, s) => ((a.char, a.char) :: r, s)
        | rest => (ranges false rest).map fun (r, s) => ((a.char, a.char) :: r, s)
termination_by pattern => pattern.length

/-- The items of a pattern. A bracket that is not closed stands for itself. -/
def items : (steps : Nat) → Pattern → List Item
  | 0, _ => []
  | _, [] => []
  | steps + 1, c :: rest =>
      if c.quoted then .one c.char :: items steps rest
      else
        match c.char with
        | '*' => .anyText :: items steps rest
        | '?' => .anyOne :: items steps rest
        | '[' =>
            let (negated, inside) :=
              match rest with
              | ⟨'!', false⟩ :: inside => (true, inside)
              | _ => (false, rest)
            match ranges true inside with
            | some (found, after) => .among negated found :: items steps after
            | none => .one '[' :: items steps rest
        | char => .one char :: items steps rest

/-- One character is what an item stands for. -/
def Item.matchesChar : Item → Char → Bool
  | .one char, c => char == c
  | .anyOne, _ => true
  | .anyText, _ => false
  | .among negated ranges, c => (ranges.any fun (a, b) => a ≤ c && c ≤ b) != negated

/-- A text is what the items stand for one after another. -/
def matchesItems : List Item → Text → Bool
  | [], text => text.isEmpty
  | .anyText :: items, text => matchesStar items text
  | item :: items, c :: text => item.matchesChar c && matchesItems items text
  | _ :: _, [] => false
where
  /-- Some end of a text is what the items stand for. -/
  matchesStar (items : List Item) : Text → Bool
    | [] => matchesItems items []
    | c :: text => matchesItems items (c :: text) || matchesStar items text

/-- A text as a whole has a pattern. -/
def isMatch (pattern : Pattern) (text : Text) : Bool :=
  matchesItems (items pattern.length pattern) text

/-- A text without the beginning that has a pattern. -/
def dropStart (longest : Bool) (pattern : Pattern) (text : Text) : Text :=
  let cuts := List.range (text.length + 1)
  let cut := (if longest then cuts.reverse else cuts).find? fun (n : Nat) =>
    isMatch pattern (text.take n)
  text.drop (cut.getD 0)

/-- A text without the end that has a pattern. -/
def dropEnd (longest : Bool) (pattern : Pattern) (text : Text) : Text :=
  let cuts := List.range (text.length + 1)
  let cut := (if longest then cuts else cuts.reverse).find? fun (n : Nat) =>
    isMatch pattern (text.drop n)
  text.take (cut.getD text.length)

end Pattern
end Tailor.Shell
