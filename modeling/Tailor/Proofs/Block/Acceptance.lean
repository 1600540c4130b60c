import Tailor.Proofs.Block.Nesting
import Tailor.Proofs.Block.Walk

/-! # Which documents are accepted

Reading a document follows its open blocks: a line that may not follow is
refused under its category and its own number (`Tailor.Reading.step_refused`).
Any other line is read by one request to the world, and whatever the reply, the
blocks are open behind it that should be (`Tailor.Reading.exists_request`). What
holds of every line that is read follows from these two.
-/

namespace Tailor

variable {σ : Type} {world : World σ} {marking : Marking}

/-- A block of a reading as an open block. -/
def Block.toOpen : Block → OpenBlock
  | .condition _ line _ turned => .condition line turned
  | .ask line _ _ _ => .ask line

namespace Reading

/-- The open blocks of a reading, innermost first. -/
def openBlocks (reading : Reading) : List OpenBlock := reading.stack.map Block.toOpen

@[simp] theorem openBlocks_push (block : Block) (reading : Reading) :
    (reading.push block).openBlocks = block.toOpen :: reading.openBlocks := rfl

@[simp] theorem openBlocks_emitAll (lines : List NumberedLine) (reading : Reading) :
    (reading.emitAll lines).openBlocks = reading.openBlocks :=
  map_emitAll Block.toOpen (fun _ _ _ _ _ => rfl) lines reading

@[simp] theorem openBlocks_pass (lines : List NumberedLine) (reading : Reading) :
    (reading.pass lines).openBlocks = reading.openBlocks := by
  unfold pass
  split
  · exact openBlocks_emitAll lines reading
  · rfl

@[simp] theorem openBlocks_release (keeps : Slot → Bool) (held : List HeldLine)
    (reading : Reading) : (reading.release keeps held).openBlocks = reading.openBlocks := by
  rw [release_eq_emitAll, openBlocks_emitAll]

/-- A line that may not follow is refused under its number, and nothing else
happens. -/
theorem step_refused (world : World σ) {reading : Reading} {line : NumberedLine}
    {category : Category}
    (refused : refusal? reading.openBlocks.head? (Directive.ofLine marking.mark line.text) =
      some category) :
    ∃ problem : Problem, problem.category = category ∧
      reading.step world marking line = throw (.problem problem (some line.number)) := by
  obtain ⟨stack, output⟩ := reading
  unfold step
  match means : Directive.ofLine marking.mark line.text, stack with
  | .error malformation, _ =>
      rw [means] at refused
      cases refused
      exact ⟨.directive malformation, rfl, rfl⟩
  | .ok none, _ => simp [means, refusal?] at refused
  | .ok (some .comment), _ => simp [means, refusal?] at refused
  | .ok (some (.condition _)), _ => simp [means, refusal?] at refused
  | .ok (some (.ask _)), _ => simp [means, refusal?] at refused
  | .ok (some .otherwise), [] =>
      rw [means] at refused
      cases refused
      exact ⟨.nesting .strayOtherwise, rfl, rfl⟩
  | .ok (some .otherwise), .ask _ _ _ _ :: _ =>
      rw [means] at refused
      cases refused
      exact ⟨.nesting .strayOtherwise, rfl, rfl⟩
  | .ok (some .otherwise), .condition sort opened _ true :: _ =>
      rw [means] at refused
      cases refused
      exact ⟨.nesting (.repeatedOtherwise sort.keyword opened), rfl, rfl⟩
  | .ok (some .otherwise), .condition _ _ _ false :: _ =>
      simp [means, refusal?, openBlocks, Block.toOpen] at refused
  | .ok (some .endCondition), [] =>
      rw [means] at refused
      cases refused
      exact ⟨.nesting .strayEndCondition, rfl, rfl⟩
  | .ok (some .endCondition), .ask opened _ _ _ :: _ =>
      rw [means] at refused
      cases refused
      exact ⟨.nesting (.endConditionInAsk opened), rfl, rfl⟩
  | .ok (some .endCondition), .condition _ _ _ _ :: _ =>
      simp [means, refusal?, openBlocks, Block.toOpen] at refused
  | .ok (some .endAsk), [] =>
      rw [means] at refused
      cases refused
      exact ⟨.nesting .strayEndAsk, rfl, rfl⟩
  | .ok (some .endAsk), .condition sort opened _ _ :: _ =>
      rw [means] at refused
      cases refused
      exact ⟨.nesting (.endAskInCondition sort.keyword opened), rfl, rfl⟩
  | .ok (some .endAsk), .ask _ _ _ _ :: _ =>
      simp [means, refusal?, openBlocks, Block.toOpen] at refused
  | .ok (some (.option _)), [] =>
      rw [means] at refused
      cases refused
      exact ⟨.nesting .strayOption, rfl, rfl⟩
  | .ok (some (.option _)), .condition _ _ _ _ :: _ =>
      rw [means] at refused
      cases refused
      exact ⟨.nesting .strayOption, rfl, rfl⟩
  | .ok (some (.option _)), .ask _ _ _ _ :: _ =>
      simp [means, refusal?, openBlocks, Block.toOpen] at refused

/-- What reading a line asks of the world before anything else: nothing, the
verdict or the question of a block that it opens, or the answer of a block that
it closes. -/
inductive Request (world : World σ) (marking : Marking) (reading : Reading)
    (line : NumberedLine) : {α : Type} → Act σ α → Prop where
  | nothing : Request world marking reading line (pure ())
  | verdict (asked : Condition)
      (means : Directive.ofLine marking.mark line.text = .ok (some (.condition asked))) :
      Request world marking reading line
        (Act.atLine line.number (Expression.verdict world asked))
  | question (argument : Text)
      (means : Directive.ofLine marking.mark line.text = .ok (some (.ask argument))) :
      Request world marking reading line
        (Act.atLine line.number (Expression.expand world argument))
  | answer (opened : Nat) (question : Text) (offers : List Offer) (held : List HeldLine)
      (outer : List Block)
      (means : Directive.ofLine marking.mark line.text = .ok (some .endAsk))
      (closes : reading.stack = .ask opened question offers held :: outer) :
      Request world marking reading line
        (Act.atLine line.number (settleQuery world ⟨question, offers.map Offer.label⟩))

/-- The line is read by a request, and whatever the reply, the blocks are open
behind it that should be. -/
def ReadBy {α : Type} (world : World σ) (marking : Marking) (reading : Reading)
    (line : NumberedLine) (request : Act σ α) (next : α → Reading) : Prop :=
  Request world marking reading line request ∧
    reading.step world marking line = (request >>= fun reply => pure (next reply)) ∧
      ∀ reply, openBehindLine? reading.openBlocks
        (line, Directive.ofLine marking.mark line.text) = some (next reply).openBlocks

theorem readBy_nothing {reading next : Reading} {line : NumberedLine}
    (reads : reading.step world marking line = pure next)
    (follows : openBehindLine? reading.openBlocks
      (line, Directive.ofLine marking.mark line.text) = some next.openBlocks) :
    ReadBy world marking reading line (pure ()) fun _ => next := by
  refine ⟨.nothing, ?_, fun _ => follows⟩
  rw [reads, pure_bind]

/-- **Reading a line.** A line that may follow is read by one request. -/
theorem exists_request (world : World σ) {reading : Reading} {line : NumberedLine}
    (fits : refusal? reading.openBlocks.head? (Directive.ofLine marking.mark line.text) = none) :
    ∃ (α : Type) (request : Act σ α) (next : α → Reading),
      ReadBy world marking reading line request next := by
  obtain ⟨stack, output⟩ := reading
  match means : Directive.ofLine marking.mark line.text, stack with
  | .error _, _ =>
      rw [means] at fits
      cases fits
  | .ok none, _ =>
      refine ⟨_, _, _, readBy_nothing (step_content means) ?_⟩
      rw [means, openBlocks_pass]
      rfl
  | .ok (some .comment), _ =>
      refine ⟨_, _, _, readBy_nothing (step_comment means) ?_⟩
      rw [means, openBlocks_pass]
      rfl
  | .ok (some (.condition asked)), _ =>
      refine ⟨_, _, _, .verdict asked means, step_condition means, fun held => ?_⟩
      rw [means, openBlocks_push, openBlocks_pass]
      rfl
  | .ok (some (.ask argument)), _ =>
      refine ⟨_, _, _, .question argument means, step_ask means, fun question => ?_⟩
      rw [means, openBlocks_push, openBlocks_pass]
      rfl
  | .ok (some .otherwise), .condition sort opened verdict false :: outer =>
      have reads : ((Reading.mk outer output).push (.condition sort opened verdict false)).step
          world marking line = _ := step_otherwise means sort opened verdict
      refine ⟨_, _, _, readBy_nothing reads ?_⟩
      rw [means, openBlocks_push, openBlocks_pass]
      rfl
  | .ok (some .endCondition), .condition sort opened verdict turned :: outer =>
      have reads : ((Reading.mk outer output).push (.condition sort opened verdict turned)).step
          world marking line = _ := step_endCondition means sort opened verdict turned
      refine ⟨_, _, _, readBy_nothing reads ?_⟩
      rw [means, openBlocks_pass]
      rfl
  | .ok (some (.option label)), .ask opened question offers held :: outer =>
      have reads : ((Reading.mk outer output).push (.ask opened question offers held)).step
          world marking line = _ := step_option means opened question offers held
      refine ⟨_, _, _, readBy_nothing reads ?_⟩
      rw [means]
      rfl
  | .ok (some .endAsk), .ask opened question offers held :: outer =>
      have reads : ((Reading.mk outer output).push (.ask opened question offers held)).step
          world marking line = _ := step_endAsk means opened question offers held
      refine ⟨_, _, _, .answer opened question offers held outer means rfl, reads,
        fun answer => ?_⟩
      rw [means, openBlocks_pass, openBlocks_release]
      rfl
  | .ok (some .otherwise), [] | .ok (some .otherwise), .ask _ _ _ _ :: _
  | .ok (some .otherwise), .condition _ _ _ true :: _ | .ok (some .endCondition), []
  | .ok (some .endCondition), .ask _ _ _ _ :: _ | .ok (some .endAsk), []
  | .ok (some .endAsk), .condition _ _ _ _ :: _ | .ok (some (.option _)), []
  | .ok (some (.option _)), .condition _ _ _ _ :: _ =>
      rw [means] at fits
      cases fits

/-- Behind a line that is read, the blocks are open that should be. -/
theorem step_follows {reading next : Reading} {line : NumberedLine} {session after : Session σ}
    (succeeded : Act.from_ session (reading.step world marking line) = (.ok next, after)) :
    openBehindLine? reading.openBlocks (line, Directive.ofLine marking.mark line.text) =
      some next.openBlocks := by
  cases refused : refusal? reading.openBlocks.head? (Directive.ofLine marking.mark line.text) with
  | some category =>
      obtain ⟨problem, _, fails⟩ := step_refused world refused
      rw [fails, Act.from_throw] at succeeded
      cases succeeded
  | none =>
      obtain ⟨α, request, behind, _, reads, follows⟩ := exists_request world refused
      rw [reads, Act.from_bind_eq_ok] at succeeded
      obtain ⟨reply, between, _, last⟩ := succeeded
      cases last
      exact follows reply

/-- Behind lines that are read, the blocks are open that should be. -/
theorem steps_follow {reading next : Reading} {lines : List NumberedLine}
    {session after : Session σ}
    (succeeded : Act.from_ session (reading.steps world marking lines) = (.ok next, after)) :
    openBehind? reading.openBlocks (parsed marking.mark lines) = some next.openBlocks := by
  induction lines generalizing reading session with
  | nil =>
      cases succeeded
      rfl
  | cons line lines ih =>
      rw [steps_cons, Act.from_bind_eq_ok] at succeeded
      obtain ⟨middle, between, first, rest⟩ := succeeded
      change openBehind? reading.openBlocks ((line, Directive.ofLine marking.mark line.text) ::
        parsed marking.mark lines) = _
      rw [openBehind?_cons, step_follows first, Option.bind_some, ih rest]

/-- A document that ends outside of blocks has been read. -/
theorem from_finish {reading : Reading} {session after : Session σ} {output : List NumberedLine}
    (finished : Act.from_ session reading.finish = (.ok output, after)) :
    reading = ⟨[], output⟩ ∧ after = session := by
  obtain ⟨stack, written⟩ := reading
  cases stack with
  | nil =>
      cases finished
      exact ⟨rfl, rfl⟩
  | cons innermost outer => cases finished

end Reading

/-- A document that is evaluated has an outline. -/
theorem exists_outline_of_evaluate {lines : List Text} {session after : Session σ}
    {output : List NumberedLine}
    (succeeded : Act.from_ session (evaluate world marking lines) = (.ok output, after)) :
    ∃ outline : Plan, outline.Reads marking.mark (number lines) := by
  unfold evaluate at succeeded
  rw [Act.from_bind_eq_ok] at succeeded
  obtain ⟨reading, between, stepped, finished⟩ := succeeded
  obtain ⟨rfl, rfl⟩ := Reading.from_finish finished
  exact exists_outline_iff.mpr (Reading.steps_follow stepped)

end Tailor
