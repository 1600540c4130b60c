import Tailor.Block.Basic
import Tailor.Expression.Value
import Tailor.Span.Basic

/-! # Substitution

Every span of a surviving line is replaced: by the value that the table has for its key, otherwise
by the value of the key as an expression. Under strict substitution a key must be in the table.
Replacements are not searched for spans.
-/

namespace Tailor

variable {σ : Type}

/-- Values by key; the first entry of a key counts. -/
abbrev Table := List (Text × Text)

/-- Sets the value of a key, at its old place if it has one. -/
def Table.set (key value : Text) : Table → Table
  | [] => [(key, value)]
  | entry :: rest =>
      if entry.1 = key then (key, value) :: rest else entry :: Table.set key value rest

/-- Setting a key changes the value of no other key. -/
theorem Table.lookup_set (table : Table) (key value other : Text) :
    List.lookup other (table.set key value) =
      if other = key then some value else List.lookup other table := by
  induction table with
  | nil =>
      by_cases same : other = key
      · subst same
        simp [Table.set]
      · simp [Table.set, List.lookup_cons, beq_false_of_ne same, same]
  | cons entry rest ih =>
      obtain ⟨first, held⟩ := entry
      by_cases here : first = key
      · subst here
        by_cases same : other = first
        · subst same
          simp [Table.set]
        · simp [Table.set, List.lookup_cons, beq_false_of_ne same, same]
      · by_cases same : other = first
        · subst same
          simp [Table.set, here]
        · simp [Table.set, here, List.lookup_cons, beq_false_of_ne same, ih]

/-- The first table with the entries of the second put over it. -/
def Table.merge (table upper : Table) : Table :=
  upper.foldl (fun merged entry => merged.set entry.1 entry.2) table

/-- How spans are replaced. -/
structure Substitution where
  table : Table
  strict : Bool

namespace Substitution

def replacement (world : World σ) (substitution : Substitution) (key : Text) : Act σ Text :=
  match substitution.table.lookup key with
  | some value => pure value
  | none =>
      if substitution.strict then Act.fail (.unknownKey key) else Expression.expand world key

/-- The text of a piece of a line. -/
def piece (world : World σ) (substitution : Substitution) : Piece → Act σ Text
  | .literal c => pure [c]
  | .span key => substitution.replacement world key

def pieces (world : World σ) (substitution : Substitution) : List Piece → Act σ Text
  | [] => pure []
  | first :: rest => do
      let text ← substitution.piece world first
      let others ← substitution.pieces world rest
      pure (text ++ others)

/-- A line with its spans replaced; without escapes it stays as it is. -/
def line (world : World σ) (substitution : Substitution) (escape? : Option Escape) (line : Text) :
    Act σ Text :=
  match escape? with
  | none => pure line
  | some escape => substitution.pieces world (escape.pieces line)

def lines (world : World σ) (substitution : Substitution) (escape? : Option Escape) :
    List Text → Act σ (List Text)
  | [] => pure []
  | first :: rest => do
      let text ← substitution.line world escape? first
      let others ← substitution.lines world escape? rest
      pure (text :: others)

/-- Several numbered lines in order; a problem gets the number of its line. -/
def numbered (world : World σ) (substitution : Substitution) (escape? : Option Escape) :
    List NumberedLine → Act σ (List Text)
  | [] => pure []
  | first :: rest => do
      let text ← Act.atLine first.number (substitution.line world escape? first.text)
      let others ← substitution.numbered world escape? rest
      pure (text :: others)

end Substitution
end Tailor
