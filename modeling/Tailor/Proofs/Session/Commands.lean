import Tailor.Proofs.Session.Effect

/-! # The commands of an expression

Which commands an expression runs is written in the expression: those of its
command references, from left to right (`Tailor.Expression.commands`). If it has
a value, each was run once, whatever the values of variables and the output of
other commands; if it has none, the first of them were run, as far as it came
(`Tailor.Expression.expand_runs`). Conditions and questions run what their arguments
run; resolving a query runs nothing.
-/

namespace Tailor

variable {σ α β : Type} {world : World σ} {session after : Session σ}

namespace Expression

/-- The command of a reference to the output of a command. -/
def Token.command? : Token → Option Text
  | .command body => some (unescape body)
  | _ => none

/-- The commands of an expression, from left to right. -/
def commands (text : Text) : List Text := (tokens true text).filterMap Token.command?

end Expression

/-- The commands of the arguments of a condition, those of the left side first. -/
def Condition.commands : Condition → List Text
  | .equal left right => Expression.commands left ++ Expression.commands right
  | .defined argument => Expression.commands argument
  | .undefined argument => Expression.commands argument

namespace Act

/-- The action runs commands in the order of a list: all of them if it succeeds, and the
first of them, as far as it comes, if it fails. -/
structure Runs (listed : List Text) (action : Act σ α) : Prop where
  all : ∀ {session after : Session σ} {value : α},
    from_ session action = (.ok value, after) → after.commands = session.commands ++ listed
  first : ∀ {session after : Session σ} {fault : Fault},
    from_ session action = (.error fault, after) →
      ∃ ran, ran <+: listed ∧ after.commands = session.commands ++ ran

theorem runs_pure (value : α) : Runs [] (pure value : Act σ α) where
  all succeeded := by
    cases succeeded
    exact (List.append_nil _).symm
  first failed := by cases failed

theorem runs_throw (listed : List Text) (fault : Fault) :
    Runs listed (throw fault : Act σ α) where
  all succeeded := by cases succeeded
  first failed := by
    cases failed
    exact ⟨[], List.nil_prefix, (List.append_nil _).symm⟩

/-- What the second action runs comes behind what the first one does. -/
theorem Runs.bind {listed others : List Text} {action : Act σ α} {next : α → Act σ β}
    (runs : Runs listed action) (further : ∀ value, Runs others (next value)) :
    Runs (listed ++ others) (action >>= next) where
  all succeeded := by
    obtain ⟨value, between, begun, ended⟩ := from_bind_eq_ok.mp succeeded
    rw [(further value).all ended, runs.all begun, List.append_assoc]
  first failed := by
    rcases from_bind_eq_error.mp failed with begun | ⟨value, between, begun, ended⟩
    · obtain ⟨ran, first, left⟩ := runs.first begun
      exact ⟨ran, first.trans (List.prefix_append listed others), left⟩
    · obtain ⟨ran, first, left⟩ := (further value).first ended
      refine ⟨listed ++ ran, (List.prefix_append_right_inj listed).mpr first, ?_⟩
      rw [left, runs.all begun, List.append_assoc]

/-- What is made of the value of an action runs nothing. -/
theorem Runs.bind_pure {listed : List Text} {action : Act σ α} (runs : Runs listed action)
    (value : α → β) : Runs listed (action >>= fun result => pure (value result)) := by
  rw [← List.append_nil listed]
  exact runs.bind fun result => runs_pure (value result)

theorem Runs.atLine {listed : List Text} {action : Act σ α} (runs : Runs listed action)
    (line : Nat) : Runs listed (Act.atLine line action) where
  all succeeded := runs.all (from_atLine_eq_ok.mp succeeded)
  first failed := by
    obtain ⟨found, begun, _⟩ := from_atLine_eq_error.mp failed
    exact runs.first begun

/-- However an action ends that leaves this behind, it ran these commands. -/
theorem runs_of_commands {listed : List Text} {action : Act σ α}
    (left : ∀ session, (from_ session action).2.commands = session.commands ++ listed) :
    Runs listed action where
  all {session after value} succeeded := by
    have ran := left session
    rw [succeeded] at ran
    exact ran
  first {session after fault} failed := by
    have ran := left session
    rw [failed] at ran
    exact ⟨listed, List.prefix_rfl, ran⟩

/-- A command that is run is the last one of the session that it leaves. -/
theorem runCommand_runs (world : World σ) (command : Text) :
    Runs [command] (runCommand world command) := by
  apply runs_of_commands
  intro session
  rw [runCommand, from_bind_of_ok (from_record session _), from_useWorld]
  simp [Session.commands]

/-- Resolving a query runs no command. -/
theorem resolve_runs (world : World σ) (query : Query) : Runs [] (resolve world query) := by
  apply runs_of_commands
  intro session
  rw [from_resolve]
  cases session.cache.get? query with
  | some answer => simp [Session.commands]
  | none =>
      rcases world.ask query session.world with ⟨outcome, left⟩
      cases outcome <;> simp [Session.commands]

end Act

namespace Expression

open Act

theorem value_runs (world : World σ) (token : Token) :
    Runs token.command?.toList (token.value world) := by
  cases token with
  | literal | escapedDollar | «variable» | bracedVariable => exact runs_pure _
  | command body => exact runCommand_runs world (unescape body)
  | flawed flaw => exact runs_throw [] _

theorem valueOfTokens_runs (world : World σ) (tokens : List Token) :
    Runs (tokens.filterMap Token.command?) (valueOfTokens world tokens) := by
  induction tokens with
  | nil => exact runs_pure []
  | cons token tokens ih =>
      have split : (token :: tokens).filterMap Token.command? =
          token.command?.toList ++ tokens.filterMap Token.command? := by
        cases token <;> rfl
      rw [split]
      exact (value_runs world token).bind fun first => ih.bind_pure _

/-- An expression runs its commands, each once and in order. -/
theorem expand_runs (world : World σ) (text : Text) : Runs (commands text) (expand world text) :=
  valueOfTokens_runs world (tokens true text)

/-- A condition runs its commands: both sides of an equality are expanded, whatever the
first one comes to. -/
theorem verdict_runs (world : World σ) (asked : Condition) :
    Runs asked.commands (verdict world asked) := by
  cases asked with
  | equal left right =>
      exact (expand_runs world left).bind fun leftValue =>
        (expand_runs world right).bind_pure _
  | defined argument | undefined argument => exact (expand_runs world argument).bind_pure _

end Expression

end Tailor
