import Tailor.Expression.Value
import Tailor.Proofs.Session.Outcome

/-! # Worlds with the same values

A world is steady if a command gives the same result whenever it is run. What
an expression has for a value then depends on nothing else, neither on the
moment nor on who answers the queries: worlds that are alike give the same
values to all expressions (`Tailor.Expression.expand_sameOutcome`).
-/

namespace Tailor

variable {σ τ α β : Type}

/-- Two worlds give every variable the same value and every command the same
result, at any time. -/
structure World.Alike (world : World σ) (other : World τ) : Prop where
  lookup : world.lookup = other.lookup
  run : ∀ command here there, (world.run command here).1 = (other.run command there).1

/-- A command gives the same result whenever it is run. -/
def World.Steady (world : World σ) : Prop :=
  ∀ command here there, (world.run command here).1 = (world.run command there).1

/-- Who answers the queries does not matter to a steady world. -/
theorem World.Steady.alike {world : World σ} (steady : world.Steady)
    (ask : Query → σ → Except Fault Answer × σ) : world.Alike { world with ask } :=
  ⟨rfl, steady⟩

namespace Act

/-- Two actions have the same result from all sessions. -/
def SameOutcome (action : Act σ α) (other : Act τ α) : Prop :=
  ∀ here there, (from_ here action).1 = (from_ there other).1

theorem sameOutcome_pure (value : α) :
    SameOutcome (pure value : Act σ α) (pure value : Act τ α) :=
  fun _ _ => rfl

theorem SameOutcome.bind {action : Act σ α} {other : Act τ α} {next : α → Act σ β}
    {otherNext : α → Act τ β} (first : SameOutcome action other)
    (second : ∀ value, SameOutcome (next value) (otherNext value)) :
    SameOutcome (action >>= next) (other >>= otherNext) := by
  intro here there
  have begun := first here there
  rw [from_bind, from_bind]
  generalize from_ here action = result at begun ⊢
  generalize from_ there other = otherResult at begun ⊢
  obtain ⟨outcome, after⟩ := result
  obtain ⟨otherOutcome, otherAfter⟩ := otherResult
  cases begun
  cases outcome with
  | ok value => exact second value after otherAfter
  | error fault => rfl

end Act

namespace Expression

variable {world : World σ} {other : World τ}

theorem value_sameOutcome (alike : world.Alike other) (token : Token) :
    Act.SameOutcome (token.value world) (token.value other) := by
  intro here there
  cases token with
  | literal | escapedDollar | flawed => rfl
  | «variable» name | bracedVariable name =>
      simp only [Token.value, variableValue, alike.lookup, Act.from_pure]
  | command body =>
      simp only [Token.value, Act.runCommand, Act.from_bind, Act.from_record, Act.from_useWorld]
      exact alike.run (unescape body) here.world there.world

theorem valueOfTokens_sameOutcome (alike : world.Alike other) (tokens : List Token) :
    Act.SameOutcome (valueOfTokens world tokens) (valueOfTokens other tokens) := by
  induction tokens with
  | nil => exact Act.sameOutcome_pure []
  | cons token tokens ih =>
      refine (value_sameOutcome alike token).bind fun first => ?_
      refine ih.bind fun others => ?_
      exact Act.sameOutcome_pure _

/-- Worlds that are alike give an expression the same value. -/
theorem expand_sameOutcome (alike : world.Alike other) (text : Text) :
    Act.SameOutcome (expand world text) (expand other text) :=
  valueOfTokens_sameOutcome alike (tokens true text)

theorem verdict_sameOutcome (alike : world.Alike other) (asked : Condition) :
    Act.SameOutcome (verdict world asked) (verdict other asked) := by
  cases asked with
  | equal left right =>
      refine (expand_sameOutcome alike left).bind fun leftValue => ?_
      refine (expand_sameOutcome alike right).bind fun rightValue => ?_
      exact Act.sameOutcome_pure _
  | defined argument | undefined argument =>
      refine (expand_sameOutcome alike argument).bind fun value => ?_
      exact Act.sameOutcome_pure _

end Expression

end Tailor
