import Tailor.Document.Processing
import Tailor.Proofs.Block.Acceptance
import Tailor.Proofs.Session.Effect

/-! # What processing is composed of

Processing a document is composed of running commands, resolving queries and
writing notes, one after another; beside the world only problems make it fail
(`Tailor.process_composed`). What holds of each of these and is handed on from
the parts of an action to the whole holds of every document, whatever its text
and however it ends: its outcome has nothing to do with what was traced before
(`Tailor.Act.Composed.coincide`), for one thing.
-/

namespace Tailor

variable {σ : Type}

/-- The action is composed of commands, queries, notes and problems. -/
inductive Act.Composed (world : World σ) : {α : Type} → Act σ α → Prop where
  | pure {α : Type} (value : α) : Composed world (pure value : Act σ α)
  | problem {α : Type} (what : Problem) (line : Option Nat) :
      Composed world (throw (.problem what line) : Act σ α)
  | command (command : Text) : Composed world (runCommand world command)
  | query (query : Query) : Composed world (resolve world query)
  | note (level : Level) (activity : Activity) (message : Text) :
      Composed world (note level activity message)
  | bind {α β : Type} {action : Act σ α} {next : α → Act σ β} (first : Composed world action)
      (second : ∀ value, Composed world (next value)) : Composed world (action >>= next)
  | atLine {α : Type} {action : Act σ α} (line : Nat) (inner : Composed world action) :
      Composed world (atLine line action)

variable (world : World σ)

namespace Expression

theorem value_composed (token : Token) : Act.Composed world (token.value world) := by
  cases token with
  | literal | escapedDollar | «variable» | bracedVariable => exact .pure _
  | command body => exact .command (unescape body)
  | flawed flaw => exact .problem (.reference flaw) none

theorem valueOfTokens_composed (tokens : List Token) :
    Act.Composed world (valueOfTokens world tokens) := by
  induction tokens with
  | nil => exact .pure []
  | cons token tokens ih =>
      exact (value_composed world token).bind fun first => ih.bind fun others => .pure _

theorem expand_composed (text : Text) : Act.Composed world (expand world text) :=
  valueOfTokens_composed world (tokens true text)

theorem verdict_composed (asked : Condition) : Act.Composed world (verdict world asked) := by
  cases asked with
  | equal left right =>
      refine (expand_composed world left).bind fun leftValue => ?_
      exact (expand_composed world right).bind fun rightValue => .pure _
  | defined argument | undefined argument =>
      exact (expand_composed world argument).bind fun value => .pure _

end Expression

theorem settleQuery_composed (query : Query) : Act.Composed world (settleQuery world query) := by
  refine (Act.Composed.query query).bind fun answer => ?_
  split
  · exact .pure answer
  · exact .problem _ none

mutual

theorem Outline.settle_composed : ∀ outline : Plan, Act.Composed world (outline.settle world)
  | .nil => .pure _
  | .content _ rest | .comment _ rest => (Outline.settle_composed rest).bind fun _ => .pure _
  | .condition opening asked _ body turn _ rest => by
      refine .bind (.atLine opening.number (Expression.verdict_composed world asked)) fun _ => ?_
      refine (Outline.settle_composed body).bind fun _ => ?_
      refine (Turn.settle_composed turn).bind fun _ => ?_
      exact (Outline.settle_composed rest).bind fun _ => .pure _
  | .ask opening argument body choices closing _ rest => by
      refine .bind (.atLine opening.number (Expression.expand_composed world argument)) fun _ => ?_
      refine (Outline.settle_composed body).bind fun _ => ?_
      refine (Choices.settle_composed choices).bind fun _ => ?_
      refine .bind (.atLine closing.number (settleQuery_composed world _)) fun _ => ?_
      exact (Outline.settle_composed rest).bind fun _ => .pure _

theorem Turn.settle_composed :
    ∀ turn : Turn Unit Unit, Act.Composed world (turn.settle world)
  | .absent => .pure _
  | .present _ body => (Outline.settle_composed body).bind fun _ => .pure _

theorem Choices.settle_composed :
    ∀ choices : Choices Unit Unit, Act.Composed world (choices.settle world)
  | .nil => .pure _
  | .option _ _ body rest => by
      refine (Outline.settle_composed body).bind fun _ => ?_
      exact (Choices.settle_composed rest).bind fun _ => .pure _

end

namespace Reading

theorem step_composed (marking : Marking) (reading : Reading) (line : NumberedLine) :
    Act.Composed world (reading.step world marking line) := by
  cases refused : refusal? reading.openBlocks.head? (Directive.ofLine marking.mark line.text) with
  | some category =>
      obtain ⟨problem, _, fails⟩ := step_refused world refused
      rw [fails]
      exact .problem problem (some line.number)
  | none =>
      obtain ⟨α, action, next, request, reads, _⟩ := exists_request world refused
      rw [reads]
      refine Act.Composed.bind ?_ fun reply => .pure _
      cases request with
      | nothing => exact .pure ()
      | verdict asked => exact .atLine line.number (Expression.verdict_composed world asked)
      | question argument => exact .atLine line.number (Expression.expand_composed world argument)
      | answer => exact .atLine line.number (settleQuery_composed world _)

theorem steps_composed (marking : Marking) (reading : Reading) (lines : List NumberedLine) :
    Act.Composed world (reading.steps world marking lines) := by
  induction lines generalizing reading with
  | nil => exact .pure reading
  | cons line lines ih => exact (step_composed world marking reading line).bind ih

theorem finish_composed (reading : Reading) :
    Act.Composed world (reading.finish : Act σ (List NumberedLine)) := by
  unfold finish
  split
  · exact .pure _
  · exact .problem _ _

end Reading

theorem survivors_composed (treatment : Treatment) (text : Text) :
    Act.Composed world (survivors world treatment text) := by
  unfold survivors
  split
  · exact (Reading.steps_composed world _ _ _).bind fun reading => reading.finish_composed world
  · exact .pure _

namespace Substitution

variable (substitution : Substitution)

theorem piece_composed (piece : Piece) : Act.Composed world (substitution.piece world piece) := by
  cases piece with
  | literal c => exact .pure [c]
  | span key =>
      change Act.Composed world (substitution.replacement world key)
      unfold replacement
      split
      · exact .pure _
      · split
        · exact .problem (.unknownKey key) none
        · exact Expression.expand_composed world key

theorem pieces_composed (pieces : List Piece) :
    Act.Composed world (substitution.pieces world pieces) := by
  induction pieces with
  | nil => exact .pure []
  | cons first rest ih =>
      exact (piece_composed world substitution first).bind fun text =>
        ih.bind fun others => .pure _

theorem line_composed (escape? : Option Escape) (line : Text) :
    Act.Composed world (substitution.line world escape? line) := by
  cases escape? with
  | none => exact .pure line
  | some escape => exact pieces_composed world substitution (escape.pieces line)

theorem numbered_composed (escape? : Option Escape) (lines : List NumberedLine) :
    Act.Composed world (substitution.numbered world escape? lines) := by
  induction lines with
  | nil => exact .pure []
  | cons first rest ih =>
      have replaced := line_composed world substitution escape? first.text
      exact (replaced.atLine first.number).bind fun text => ih.bind fun others => .pure _

end Substitution

theorem substituted_composed (treatment : Treatment) (substitution : Substitution)
    (lines : List NumberedLine) :
    Act.Composed world (substituted world treatment substitution lines) := by
  have replaced := Substitution.numbered_composed world substitution treatment.escape? lines
  unfold substituted
  split
  · exact (Act.Composed.note _ _ _).bind fun _ => replaced
  · exact replaced

/-- **Composition.** Whatever a document does, it does by commands, queries and
notes. -/
theorem process_composed (treatment : Treatment) (substitution : Substitution) (text : Text) :
    Act.Composed world (process world treatment substitution text) :=
  (survivors_composed world treatment text).bind fun surviving =>
    (substituted_composed world treatment substitution surviving).bind fun _ => .pure _

/-! ## Traces -/

/-- Two sessions differ in their traces only. -/
structure Session.Coincide (here there : Session σ) : Prop where
  world : here.world = there.world
  cache : here.cache = there.cache

/-- Where sessions differ in their traces only, the action comes to the same, and the
sessions that it leaves differ in nothing else. -/
theorem Act.Composed.coincide {world : World σ} {α : Type} {action : Act σ α}
    (composed : Composed world action) {here there : Session σ} (same : here.Coincide there) :
    (from_ here action).1 = (from_ there action).1 ∧
      (from_ here action).2.Coincide (from_ there action).2 := by
  induction composed generalizing here there with
  | pure | problem | note => exact ⟨rfl, same.world, same.cache⟩
  | command command =>
      rw [runCommand, from_bind_of_ok (from_record here _), from_bind_of_ok (from_record there _),
        from_useWorld, from_useWorld]
      dsimp only
      rw [same.world]
      exact ⟨rfl, rfl, same.cache⟩
  | query query =>
      rw [from_resolve, from_resolve, same.world, same.cache]
      cases there.cache.get? query with
      | some answer => exact ⟨rfl, rfl, rfl⟩
      | none =>
          rcases world.ask query there.world with ⟨outcome, left⟩
          cases outcome <;> exact ⟨rfl, rfl, rfl⟩
  | bind first second ihFirst ihSecond =>
      have begun := ihFirst same
      rw [from_bind, from_bind]
      generalize from_ here _ = result at begun ⊢
      generalize from_ there _ = otherResult at begun ⊢
      obtain ⟨outcome, after⟩ := result
      obtain ⟨otherOutcome, otherAfter⟩ := otherResult
      obtain ⟨rfl, left⟩ := begun
      cases outcome with
      | ok value => exact ihSecond value left
      | error fault => exact ⟨rfl, left⟩
  | atLine line inner ih =>
      have done := ih same
      rw [from_atLine, from_atLine]
      generalize from_ here _ = result at done ⊢
      generalize from_ there _ = otherResult at done ⊢
      obtain ⟨outcome, after⟩ := result
      obtain ⟨otherOutcome, otherAfter⟩ := otherResult
      obtain ⟨rfl, left⟩ := done
      cases outcome <;> exact ⟨rfl, left⟩

end Tailor
