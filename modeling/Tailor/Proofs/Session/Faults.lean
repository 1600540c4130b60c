import Tailor.Proofs.Block.Outline
import Tailor.Proofs.Session.Effect
import Tailor.Span.Substitution

/-! # Faults of actions

The faults that an action can end with are those of its parts (`Tailor.Act.FailsWith`).
An expression ends with the fault of a command that it runs or at a reference that is
none, the spans of a line may have an unknown key besides, and a query ends with the
fault of whoever was asked or with an answer that selects nothing. Whatever is said of
these faults holds of whatever lines of a document end with.
-/

namespace Tailor

variable {σ α β : Type} {world : World σ} {admitted : Fault → Prop}

namespace Act

/-- If the action fails, its fault is an admitted one. -/
def FailsWith (admitted : Fault → Prop) (action : Act σ α) : Prop :=
  ∀ session fault after, from_ session action = (.error fault, after) → admitted fault

theorem failsWith_pure (value : α) : FailsWith admitted (pure value : Act σ α) := by
  intro session fault after failed
  cases failed

theorem failsWith_throw {fault : Fault} (holds : admitted fault) :
    FailsWith admitted (throw fault : Act σ α) := by
  intro session found after failed
  cases failed
  exact holds

theorem failsWith_record (event : Event) : FailsWith admitted (record event : Act σ Unit) := by
  intro session fault after failed
  cases failed

theorem FailsWith.bind {action : Act σ α} {next : α → Act σ β}
    (first : FailsWith admitted action) (second : ∀ value, FailsWith admitted (next value)) :
    FailsWith admitted (action >>= next) := by
  intro session fault after failed
  rcases from_bind_eq_error.mp failed with begun | ⟨value, between, _, ended⟩
  · exact first session fault after begun
  · exact second value between fault after ended

/-- A line number on an admitted fault must be admitted too. -/
theorem FailsWith.atLine {action : Act σ α} (fails : FailsWith admitted action) (line : Nat)
    (holds : ∀ fault, admitted fault → admitted (fault.atLine line)) :
    FailsWith admitted (Act.atLine line action) := by
  intro session fault after failed
  obtain ⟨found, begun, rfl⟩ := from_atLine_eq_error.mp failed
  exact holds found (fails session found after begun)

/-- The fault of a world's call is the fault of the action. -/
theorem failsWith_useWorld {call : σ → Except Fault α × σ}
    (holds : ∀ state fault, (call state).1 = .error fault → admitted fault) :
    FailsWith admitted (useWorld call) := by
  intro session fault after failed
  rw [from_useWorld] at failed
  exact holds session.world fault (Prod.ext_iff.mp failed).1

end Act

/-- The commands of the world end with admitted faults only, and the references and keys
of a document as well. -/
structure Admissible (world : World σ) (admitted : Fault → Prop) : Prop where
  command : ∀ command state fault, (world.run command state).1 = .error fault → admitted fault
  reference : ∀ flaw, admitted (.problem (.reference flaw) none)
  key : ∀ key, admitted (.problem (.unknownKey key) none)

open Act

namespace Expression

theorem value_failsWith (admissible : Admissible world admitted) (token : Token) :
    FailsWith admitted (token.value world) := by
  cases token with
  | literal | escapedDollar | «variable» | bracedVariable => exact failsWith_pure _
  | command body =>
      have runs := failsWith_useWorld (admissible.command (unescape body))
      exact (failsWith_record (.ran (unescape body))).bind fun _ => runs
  | flawed flaw => exact failsWith_throw (admissible.reference flaw)

theorem expand_failsWith (admissible : Admissible world admitted) (text : Text) :
    FailsWith admitted (expand world text) := by
  unfold expand
  induction tokens true text with
  | nil => exact failsWith_pure []
  | cons token tokens ih =>
      exact (value_failsWith admissible token).bind fun first =>
        ih.bind fun others => failsWith_pure _

theorem verdict_failsWith (admissible : Admissible world admitted) (asked : Condition) :
    FailsWith admitted (verdict world asked) := by
  cases asked with
  | equal left right =>
      exact (expand_failsWith admissible left).bind fun leftValue =>
        (expand_failsWith admissible right).bind fun rightValue => failsWith_pure _
  | defined argument | undefined argument =>
      exact (expand_failsWith admissible argument).bind fun value => failsWith_pure _

end Expression

namespace Substitution

variable (substitution : Substitution)

theorem piece_failsWith (admissible : Admissible world admitted) (piece : Piece) :
    FailsWith admitted (substitution.piece world piece) := by
  cases piece with
  | literal c => exact failsWith_pure [c]
  | span key =>
      change FailsWith admitted (substitution.replacement world key)
      unfold replacement
      split
      · exact failsWith_pure _
      · split
        · exact failsWith_throw (admissible.key key)
        · exact Expression.expand_failsWith admissible key

theorem line_failsWith (admissible : Admissible world admitted) (escape? : Option Escape)
    (line : Text) : FailsWith admitted (substitution.line world escape? line) := by
  cases escape? with
  | none => exact failsWith_pure line
  | some escape =>
      change FailsWith admitted (substitution.pieces world (escape.pieces line))
      induction escape.pieces line with
      | nil => exact failsWith_pure []
      | cons first rest ih =>
          exact (piece_failsWith substitution admissible first).bind fun text =>
            ih.bind fun others => failsWith_pure _

theorem numbered_failsWith (admissible : Admissible world admitted)
    (holds : ∀ fault line, admitted fault → admitted (fault.atLine line))
    (escape? : Option Escape) (lines : List NumberedLine) :
    FailsWith admitted (substitution.numbered world escape? lines) := by
  induction lines with
  | nil => exact failsWith_pure []
  | cons first rest ih =>
      have replaced := line_failsWith substitution admissible escape? first.text
      exact (replaced.atLine first.number fun fault => holds fault first.number).bind
        fun text => ih.bind fun others => failsWith_pure _

end Substitution

/-- Without a recorded answer, a query ends with the fault of whoever was asked. -/
theorem Act.resolve_failsWith {query : Query}
    (asked : ∀ state fault, (world.ask query state).1 = .error fault → admitted fault) :
    FailsWith admitted (resolve world query) := by
  intro session fault after failed
  rw [from_resolve] at failed
  cases recorded : session.cache.get? query with
  | some answer =>
      rw [recorded] at failed
      cases failed
  | none =>
      rw [recorded] at failed
      cases put : world.ask query session.world with
      | mk outcome left =>
          rw [put] at failed
          cases outcome with
          | ok answer => cases failed
          | error found =>
              cases failed
              exact asked session.world fault (congrArg Prod.fst put)

/-- Besides, its answer may not fit. -/
theorem settleQuery_failsWith {query : Query}
    (asked : ∀ state fault, (world.ask query state).1 = .error fault → admitted fault)
    (misfit : ∀ answer,
      admitted (.problem (.query (.badAnswer answer query.options.length)) none)) :
    FailsWith admitted (settleQuery world query) := by
  refine (resolve_failsWith asked).bind fun answer => ?_
  split
  · exact failsWith_pure answer
  · exact failsWith_throw (misfit answer)

end Tailor
