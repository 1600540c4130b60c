import Mathlib
import Tailor.Proofs.Block.Acceptance
import Tailor.Proofs.Block.Extent

/-! # Which lines survive

A document that is evaluated has an outline. Settling it along the run gives the
verdict or the answer of every block, and the lines that come out are those that
every block around them keeps, in their order
(`Tailor.evaluate_eq_survivors`).
-/

namespace Tailor

variable {σ : Type} {world : World σ} {marking : Marking}

mutual

/-- Settling an outline adds the marks and changes nothing else. -/
theorem Outline.forget_settle : ∀ (outline : Plan) {settled : Settled} {session after : Session σ},
    Act.from_ session (outline.settle world) = (.ok settled, after) → settled.forget = outline
  | .nil, _, _, _, succeeded => by
      cases succeeded
      rfl
  | .content line rest, _, _, _, succeeded | .comment line rest, _, _, _, succeeded => by
      rw [Outline.settle, Act.from_bind_eq_ok] at succeeded
      obtain ⟨settledRest, between, restSettled, last⟩ := succeeded
      cases last
      rw [← Outline.forget_settle rest restSettled]
      rfl
  | .condition opening asked _ body turn closing rest, _, _, _, succeeded => by
      simp only [Outline.settle, Act.from_bind_eq_ok] at succeeded
      obtain ⟨held, _, _, settledBody, _, bodySettled, settledTurn, _, turnSettled, settledRest, _,
        restSettled, last⟩ := succeeded
      cases last
      rw [← Outline.forget_settle body bodySettled, ← Turn.forget_settle turn turnSettled,
        ← Outline.forget_settle rest restSettled]
      rfl
  | .ask opening argument body choices closing _ rest, _, _, _, succeeded => by
      simp only [Outline.settle, Act.from_bind_eq_ok] at succeeded
      obtain ⟨question, _, _, settledBody, _, bodySettled, settledChoices, _, choicesSettled,
        answer, _, _, settledRest, _, restSettled, last⟩ := succeeded
      cases last
      rw [← Outline.forget_settle body bodySettled, ← Choices.forget_settle choices choicesSettled,
        ← Outline.forget_settle rest restSettled]
      rfl

@[inherit_doc Outline.forget_settle]
theorem Turn.forget_settle : ∀ (turn : Turn Unit Unit) {settled : Turn Bool Answer}
    {session after : Session σ},
    Act.from_ session (turn.settle world) = (.ok settled, after) → settled.forget = turn
  | .absent, _, _, _, succeeded => by
      cases succeeded
      rfl
  | .present line body, _, _, _, succeeded => by
      rw [Turn.settle, Act.from_bind_eq_ok] at succeeded
      obtain ⟨settledBody, between, bodySettled, last⟩ := succeeded
      cases last
      rw [← Outline.forget_settle body bodySettled]
      rfl

@[inherit_doc Outline.forget_settle]
theorem Choices.forget_settle : ∀ (choices : Choices Unit Unit) {settled : Choices Bool Answer}
    {session after : Session σ},
    Act.from_ session (choices.settle world) = (.ok settled, after) → settled.forget = choices
  | .nil, _, _, _, succeeded => by
      cases succeeded
      rfl
  | .option line label body rest, _, _, _, succeeded => by
      simp only [Choices.settle, Act.from_bind_eq_ok] at succeeded
      obtain ⟨settledBody, _, bodySettled, settledRest, _, restSettled, last⟩ := succeeded
      cases last
      rw [← Outline.forget_settle body bodySettled, ← Choices.forget_settle rest restSettled]
      rfl

end

/-- The lines of a document stand in the order of their numbers. -/
theorem pairwise_numberFrom (first : Nat) (lines : List Text) :
    (numberFrom first lines).Pairwise fun one other => one.number < other.number := by
  induction lines generalizing first with
  | nil => exact .nil
  | cons line lines ih =>
      rw [numberFrom_cons, List.pairwise_cons]
      refine ⟨?_, ih (first + 1)⟩
      intro other member
      obtain ⟨⟨text, place⟩, listed, rfl⟩ := List.mem_map.mp member
      exact List.le_snd_of_mem_zipIdx listed

theorem ordered_parsed (mark : Text) (lines : List Text) : Ordered (parsed mark (number lines)) :=
  List.pairwise_map.mpr (pairwise_numberFrom 1 lines)

/-- What a settled outline of a document writes are the lines of the document
that survive. -/
theorem Outline.written_eq_filter {lines : List Text} {settled : Settled}
    (reads : settled.Reads marking.mark (number lines)) :
    settled.written marking.keepDirectives = (number lines).filter fun line =>
      survives marking.keepDirectives settled.extents
        (line, Directive.ofLine marking.mark line.text) := by
  have ordered : Ordered settled.yield := by
    rw [reads]
    exact ordered_parsed marking.mark lines
  rw [← settled.surviving_eq marking.keepDirectives ordered, reads, surviving, parsed,
    List.filter_map, List.map_map]
  simp [Function.comp_def]

/-- **The surviving lines.** A document that is evaluated has an outline; with
the verdicts and answers of the run, its lines that every block around them
keeps survive, directive lines only if these are kept. -/
theorem evaluate_eq_survivors {lines : List Text} {session after : Session σ}
    {output : List NumberedLine}
    (succeeded : Act.from_ session (evaluate world marking lines) = (.ok output, after)) :
    (∃ outline : Plan, outline.Reads marking.mark (number lines)) ∧
      ∀ outline : Plan, outline.Reads marking.mark (number lines) →
        ∃ settled : Settled, Act.from_ session (outline.settle world) = (.ok settled, after) ∧
          output = (number lines).filter fun line =>
            survives marking.keepDirectives settled.extents
              (line, Directive.ofLine marking.mark line.text) := by
  refine ⟨exists_outline_of_evaluate succeeded, ?_⟩
  intro outline reads
  rw [outline.evaluate_eq marking lines reads, Act.from_bind_eq_ok] at succeeded
  obtain ⟨settled, between, settles, last⟩ := succeeded
  cases last
  refine ⟨settled, settles, Outline.written_eq_filter ?_⟩
  rw [← outline.forget_settle settles] at reads
  exact settled.yield_forget.symm.trans reads

/-- A question block whose first option has a conditional block behind it. -/
def questionLines : List Text :=
  ["#~ ASK Q?".toList, "#~ OPTION a".toList, "#~ IFDEF $V".toList, "x".toList, "#~ ELSE".toList,
    "y".toList, "#~ ENDIF".toList, "#~ OPTION b".toList, "z".toList, "#~ ENDASK".toList]

theorem from_evaluate_questionLines :
    Act.from_ (Session.start ()) (evaluate .obliging ⟨"#~".toList, true⟩ questionLines) =
      (.ok ((number questionLines).filter fun line => line.number ∉ [4, 9]),
        ⟨(), ⟨[(⟨"Q?".toList, ["a".toList, "b".toList]⟩, .choice 0)]⟩,
          [.consulted ⟨"Q?".toList, ["a".toList, "b".toList]⟩,
            .asked ⟨"Q?".toList, ["a".toList, "b".toList]⟩]⟩) := by cbv

theorem questionLines_survivors :
    ∃ output after,
      Act.from_ (Session.start ()) (evaluate .obliging ⟨"#~".toList, true⟩ questionLines) =
        (.ok output, after) ∧
      (∃ outline : Plan, outline.Reads "#~".toList (number questionLines)) ∧
      ∀ outline : Plan, outline.Reads "#~".toList (number questionLines) →
        ∃ settled : Settled,
          Act.from_ (Session.start ()) (outline.settle .obliging) = (.ok settled, after) ∧
          output = (number questionLines).filter fun line =>
            survives true settled.extents (line, Directive.ofLine "#~".toList line.text) :=
  ⟨_, _, from_evaluate_questionLines, evaluate_eq_survivors from_evaluate_questionLines⟩

end Tailor
