import Tailor.Proofs.Block.Outline

/-! # Pruned outlines

Pruning a settled outline takes out whatever its verdicts and answers drop, and
leaves the blocks that are kept with their turns and options
(`Tailor.Outline.prune`). The lines of the pruned outline are those that the
outline writes (`Tailor.Outline.lines_prune`), and the pruned outline writes
what the outline writes (`Tailor.Outline.written_prune`): nothing is lost from a
block that is kept except its contents.
-/

namespace Tailor

mutual

/-- A settled outline without what it does not write. -/
def Outline.prune : Settled → Settled
  | .nil => .nil
  | .content line rest => .content line rest.prune
  | .comment line rest => .comment line rest.prune
  | .condition opening asked held body turn closing rest =>
      .condition opening asked held (if held then body.prune else .nil) (turn.prune (!held))
        closing rest.prune
  | .ask opening argument body choices closing answer rest =>
      .ask opening argument (if choices.isEmpty && answer.holds then body.prune else .nil)
        (choices.prune answer 0) closing answer rest.prune

/-- A turn without what stands behind it, unless its side is taken. -/
def Turn.prune (taken : Bool) : Turn Bool Answer → Turn Bool Answer
  | .absent => .absent
  | .present line body => .present line (if taken then body.prune else .nil)

/-- Options from a position on without what stands behind those that the answer
does not select. -/
def Choices.prune (answer : Answer) (position : Nat) : Choices Bool Answer → Choices Bool Answer
  | .nil => .nil
  | .option line label body rest =>
      .option line label (if answer.selects position then body.prune else .nil)
        (rest.prune answer (position + 1))

end

/-- Pruning takes no option away. -/
theorem Choices.offers_prune (answer : Answer) (choices : Choices Bool Answer) (position : Nat) :
    (choices.prune answer position).offers = choices.offers := by
  cases choices with
  | nil => rfl
  | option line label body rest =>
      simp only [Choices.prune, Choices.offers, Choices.offers_prune answer rest]

theorem Choices.isEmpty_prune (answer : Answer) (position : Nat) (choices : Choices Bool Answer) :
    (choices.prune answer position).isEmpty = choices.isEmpty := by
  cases choices with
  | nil => rfl
  | option line label body rest => rfl

/-- A part that is pruned or taken out gets no further line. -/
theorem Outline.yield_prune_or_nil {body : Settled} (sublist : body.prune.yield.Sublist body.yield)
    (kept : Bool) : (if kept then body.prune else .nil).yield.Sublist body.yield := by
  cases kept with
  | false => exact List.nil_sublist _
  | true => exact sublist

mutual

/-- Pruning adds no line. -/
theorem Outline.yield_prune : ∀ outline : Settled, outline.prune.yield.Sublist outline.yield
  | .nil => .slnil
  | .content _ rest | .comment _ rest => (Outline.yield_prune rest).cons_cons _
  | .condition _ _ held body turn _ rest =>
      ((Outline.yield_prune_or_nil (Outline.yield_prune body) held).append
        ((Turn.yield_prune (!held) turn).append
          ((Outline.yield_prune rest).cons_cons _))).cons_cons _
  | .ask _ _ body choices _ answer rest =>
      ((Outline.yield_prune_or_nil (Outline.yield_prune body) _).append
        ((Choices.yield_prune answer choices 0).append
          ((Outline.yield_prune rest).cons_cons _))).cons_cons _

theorem Turn.yield_prune (taken : Bool) : ∀ turn : Turn Bool Answer,
    (turn.prune taken).yield.Sublist turn.yield
  | .absent => .slnil
  | .present _ body =>
      (Outline.yield_prune_or_nil (Outline.yield_prune body) taken).cons_cons _

theorem Choices.yield_prune (answer : Answer) :
    ∀ (choices : Choices Bool Answer) (position : Nat),
      (choices.prune answer position).yield.Sublist choices.yield
  | .nil, _ => .slnil
  | .option _ _ body rest, position =>
      ((Outline.yield_prune_or_nil (Outline.yield_prune body) _).append
        (Choices.yield_prune answer rest (position + 1))).cons_cons _

end

mutual

/-- The lines of a pruned outline are those that the outline writes. -/
theorem Outline.lines_prune : ∀ outline : Settled, outline.prune.lines = outline.written true
  | .nil => rfl
  | .content line rest => congrArg (line :: ·) (Outline.lines_prune rest)
  | .comment line rest => congrArg (line :: ·) (Outline.lines_prune rest)
  | .condition opening asked held body turn closing rest => by
      rw [Outline.prune, Outline.lines_condition, Turn.lines_prune (!held) turn,
        Outline.lines_prune rest]
      cases held with
      | false => rfl
      | true =>
          simp only [↓reduceIte, Outline.lines_prune body]
          rfl
  | .ask opening argument body choices closing answer rest => by
      rw [Outline.prune, Outline.lines_ask, Choices.lines_prune answer choices 0,
        Outline.lines_prune rest, Outline.written]
      split
      · rw [Outline.lines_prune body]
        rfl
      · rfl

theorem Turn.lines_prune (taken : Bool) : ∀ turn : Turn Bool Answer,
    (turn.prune taken).lines = turn.written true taken
  | .absent => rfl
  | .present line body => by
      cases taken with
      | false => rfl
      | true => exact congrArg (line :: ·) (Outline.lines_prune body)

theorem Choices.lines_prune (answer : Answer) :
    ∀ (choices : Choices Bool Answer) (position : Nat),
      (choices.prune answer position).lines = choices.written true answer position
  | .nil, _ => rfl
  | .option line label body rest, position => by
      rw [Choices.prune, Choices.lines_option, Choices.lines_prune answer rest (position + 1),
        Choices.written]
      split
      · rw [Outline.lines_prune body]
        rfl
      · rfl

end

section Written

variable (keep : Bool)

mutual

/-- A pruned outline writes what the outline writes. -/
theorem Outline.written_prune : ∀ outline : Settled,
    outline.prune.written keep = outline.written keep
  | .nil => rfl
  | .content line rest | .comment line rest => by
      simp only [Outline.prune, Outline.written, Outline.written_prune rest]
  | .condition opening asked held body turn closing rest => by
      simp only [Outline.prune, Outline.written, Turn.written_prune (!held) turn,
        Outline.written_prune rest]
      cases held with
      | false => rfl
      | true => simp only [↓reduceIte, Outline.written_prune body]
  | .ask opening argument body choices closing answer rest => by
      simp only [Outline.prune, Outline.written, Choices.isEmpty_prune,
        Choices.written_prune answer choices 0, Outline.written_prune rest]
      split
      · rw [Outline.written_prune body]
      · rfl

theorem Turn.written_prune (taken : Bool) : ∀ turn : Turn Bool Answer,
    (turn.prune taken).written keep taken = turn.written keep taken
  | .absent => rfl
  | .present line body => by
      cases taken with
      | false => rfl
      | true => simp only [Turn.prune, Turn.written, ↓reduceIte, Outline.written_prune body]

theorem Choices.written_prune (answer : Answer) :
    ∀ (choices : Choices Bool Answer) (position : Nat),
      (choices.prune answer position).written keep answer position =
        choices.written keep answer position
  | .nil, _ => rfl
  | .option line label body rest, position => by
      simp only [Choices.prune, Choices.written, Choices.written_prune answer rest (position + 1)]
      split
      · rw [Outline.written_prune body]
      · rfl

end

end Written

end Tailor
