import Tailor.Proofs.Block.Outline

/-! # Lines that nest

A row of lines leaves blocks open (`Tailor.LeavesOpen`): behind a whole document
stands, for each of them, its opening line with a document behind it, or the
turn or options that its block may have. Which blocks are open decides which
lines may follow (`Tailor.refusal?`), so it can be followed line by line
(`Tailor.openBehind?`), and the two accounts agree
(`Tailor.openBehind?_eq_some_iff`). In particular the lines of an outline are
those that leave no block open (`Tailor.exists_outline_iff`).
-/

namespace Tailor

/-- A block that is open, with the number of its opening line. -/
inductive OpenBlock where
  /-- A conditional block, and whether its turn is behind. -/
  | condition (line : Nat) (turned : Bool)
  | ask (line : Nat)
deriving Repr, DecidableEq

/-- The number of the opening line. -/
def OpenBlock.line : OpenBlock → Nat
  | .condition line _ => line
  | .ask line => line

/-- Why a line may not follow where a block is the innermost open one. -/
def refusal? (innermost? : Option OpenBlock) : Meaning → Option Category
  | .error _ => some .malformedDirective
  | .ok (some .otherwise) =>
      match innermost? with
      | some (.condition _ false) => none
      | some (.condition _ true) => some .duplicateElse
      | _ => some .unmatchedElse
  | .ok (some .endCondition) =>
      match innermost? with
      | some (.condition _ _) => none
      | _ => some .unmatchedEnd
  | .ok (some .endAsk) =>
      match innermost? with
      | some (.ask _) => none
      | _ => some .unmatchedEnd
  | .ok (some (.option _)) =>
      match innermost? with
      | some (.ask _) => none
      | _ => some .unmatchedOption
  | _ => none

/-- A row of lines leaves blocks open, innermost first. -/
inductive LeavesOpen : List (NumberedLine × Meaning) → List OpenBlock → Prop where
  | document (outline : Plan) : LeavesOpen outline.yield []
  | condition {before : List (NumberedLine × Meaning)} {outer : List OpenBlock}
      (leaves : LeavesOpen before outer) (opening : NumberedLine) (asked : Condition)
      (body : Plan) :
      LeavesOpen (before ++ (opening, .ok (some (.condition asked))) :: body.yield)
        (.condition opening.number false :: outer)
  | turned {before : List (NumberedLine × Meaning)} {outer : List OpenBlock}
      (leaves : LeavesOpen before outer) (opening : NumberedLine) (asked : Condition)
      (body : Plan) (line : NumberedLine) (other : Plan) :
      LeavesOpen (before ++ (opening, .ok (some (.condition asked))) ::
          (body.yield ++ (line, .ok (some .otherwise)) :: other.yield))
        (.condition opening.number true :: outer)
  | ask {before : List (NumberedLine × Meaning)} {outer : List OpenBlock}
      (leaves : LeavesOpen before outer) (opening : NumberedLine) (argument : Text)
      (body : Plan) :
      LeavesOpen (before ++ (opening, .ok (some (.ask argument))) :: body.yield)
        (.ask opening.number :: outer)
  | option {before : List (NumberedLine × Meaning)} {outer : List OpenBlock}
      (leaves : LeavesOpen before outer) (opening : NumberedLine) (argument : Text)
      (body : Plan) (choices : Choices Unit Unit) (line : NumberedLine) (label : Text)
      (last : Plan) :
      LeavesOpen (before ++ (opening, .ok (some (.ask argument))) ::
          (body.yield ++ (choices.yield ++ (line, .ok (some (.option label))) :: last.yield)))
        (.ask opening.number :: outer)

section Append

variable {κ α : Type}

/-- One outline behind another. -/
def Outline.append : Outline κ α → Outline κ α → Outline κ α
  | .nil, other => other
  | .content line rest, other => .content line (rest.append other)
  | .comment line rest, other => .comment line (rest.append other)
  | .condition opening asked mark body turn closing rest, other =>
      .condition opening asked mark body turn closing (rest.append other)
  | .ask opening argument body choices closing mark rest, other =>
      .ask opening argument body choices closing mark (rest.append other)

/-- Further options behind those of a block. -/
def Choices.append : Choices κ α → Choices κ α → Choices κ α
  | .nil, other => other
  | .option line label body rest, other => .option line label body (rest.append other)

@[simp] theorem Outline.yield_append :
    ∀ first second : Outline κ α, (first.append second).yield = first.yield ++ second.yield
  | .nil, _ => rfl
  | .content _ rest, second => by
      simp only [append, yield, yield_append rest second, List.cons_append]
  | .comment _ rest, second => by
      simp only [append, yield, yield_append rest second, List.cons_append]
  | .condition _ _ _ _ _ _ rest, second => by
      simp only [append, yield, yield_append rest second, List.cons_append, List.append_assoc]
  | .ask _ _ _ _ _ _ rest, second => by
      simp only [append, yield, yield_append rest second, List.cons_append, List.append_assoc]

@[simp] theorem Choices.yield_append :
    ∀ first second : Choices κ α, (first.append second).yield = first.yield ++ second.yield
  | .nil, _ => rfl
  | .option _ _ _ rest, second => by
      simp only [append, yield, yield_append rest second, List.cons_append, List.append_assoc]

end Append

namespace LeavesOpen

variable {parts : List (NumberedLine × Meaning)} {blocks : List OpenBlock}

/-- A document behind the lines leaves the same blocks open. -/
theorem append (leaves : LeavesOpen parts blocks) (more : Plan) :
    LeavesOpen (parts ++ more.yield) blocks := by
  cases leaves with
  | document outline =>
      rw [← Outline.yield_append]
      exact .document (outline.append more)
  | condition leaves opening asked body =>
      rw [List.append_assoc, List.cons_append, ← Outline.yield_append]
      exact .condition leaves opening asked (body.append more)
  | turned leaves opening asked body line other =>
      rw [List.append_assoc, List.cons_append, List.append_assoc, List.cons_append,
        ← Outline.yield_append]
      exact .turned leaves opening asked body line (other.append more)
  | ask leaves opening argument body =>
      rw [List.append_assoc, List.cons_append, ← Outline.yield_append]
      exact .ask leaves opening argument (body.append more)
  | option leaves opening argument body choices line label last =>
      rw [List.append_assoc, List.cons_append, List.append_assoc, List.append_assoc,
        List.cons_append, ← Outline.yield_append]
      exact .option leaves opening argument body choices line label (last.append more)

theorem opensCondition (leaves : LeavesOpen parts blocks) (opening : NumberedLine)
    (asked : Condition) :
    LeavesOpen (parts ++ [(opening, .ok (some (.condition asked)))])
      (.condition opening.number false :: blocks) :=
  .condition leaves opening asked .nil

theorem opensAsk (leaves : LeavesOpen parts blocks) (opening : NumberedLine) (argument : Text) :
    LeavesOpen (parts ++ [(opening, .ok (some (.ask argument)))])
      (.ask opening.number :: blocks) :=
  .ask leaves opening argument .nil

theorem turns {opened : Nat} (leaves : LeavesOpen parts (.condition opened false :: blocks))
    (line : NumberedLine) :
    LeavesOpen (parts ++ [(line, .ok (some .otherwise))]) (.condition opened true :: blocks) := by
  cases leaves with
  | condition leaves opening asked body =>
      rw [List.append_assoc, List.cons_append]
      exact .turned leaves opening asked body line .nil

theorem closesCondition {opened : Nat} {turned : Bool}
    (leaves : LeavesOpen parts (.condition opened turned :: blocks)) (closing : NumberedLine) :
    LeavesOpen (parts ++ [(closing, .ok (some .endCondition))]) blocks := by
  cases leaves with
  | condition leaves opening asked body =>
      have closed := leaves.append (.condition opening asked () body .absent closing .nil)
      simpa only [Outline.yield, Turn.yield, List.nil_append, List.append_assoc,
        List.cons_append] using closed
  | turned leaves opening asked body line other =>
      have closed := leaves.append
        (.condition opening asked () body (.present line other) closing .nil)
      simpa only [Outline.yield, Turn.yield, List.append_assoc, List.cons_append] using closed

theorem opensOption {opened : Nat} (leaves : LeavesOpen parts (.ask opened :: blocks))
    (line : NumberedLine) (label : Text) :
    LeavesOpen (parts ++ [(line, .ok (some (.option label)))]) (.ask opened :: blocks) := by
  cases leaves with
  | ask leaves opening argument body =>
      have offered := LeavesOpen.option leaves opening argument body .nil line label .nil
      simpa only [Choices.yield, Outline.yield, List.nil_append, List.append_assoc,
        List.cons_append] using offered
  | option leaves opening argument body choices first title last =>
      have offered := LeavesOpen.option leaves opening argument body
        (choices.append (.option first title last .nil)) line label .nil
      simpa only [Choices.yield_append, Choices.yield, Outline.yield, List.nil_append,
        List.append_nil, List.append_assoc, List.cons_append] using offered

theorem closesAsk {opened : Nat} (leaves : LeavesOpen parts (.ask opened :: blocks))
    (closing : NumberedLine) :
    LeavesOpen (parts ++ [(closing, .ok (some .endAsk))]) blocks := by
  cases leaves with
  | ask leaves opening argument body =>
      have closed := leaves.append (.ask opening argument body .nil closing () .nil)
      simpa only [Outline.yield, Choices.yield, List.nil_append, List.append_assoc,
        List.cons_append] using closed
  | option leaves opening argument body choices line label last =>
      have closed := leaves.append (.ask opening argument body
        (choices.append (.option line label last .nil)) closing () .nil)
      simpa only [Outline.yield, Choices.yield_append, Choices.yield, List.append_nil,
        List.append_assoc, List.cons_append] using closed

end LeavesOpen

/-- The blocks that are open behind a line, if it may follow. -/
def openBehindLine? (blocks : List OpenBlock) (part : NumberedLine × Meaning) :
    Option (List OpenBlock) :=
  match refusal? blocks.head? part.2 with
  | some _ => none
  | none =>
      match part.2, blocks with
      | .ok (some (.condition _)), blocks => some (.condition part.1.number false :: blocks)
      | .ok (some (.ask _)), blocks => some (.ask part.1.number :: blocks)
      | .ok (some .otherwise), .condition line _ :: outer => some (.condition line true :: outer)
      | .ok (some .endCondition), _ :: outer => some outer
      | .ok (some .endAsk), _ :: outer => some outer
      | _, blocks => some blocks

/-- The blocks that are open behind further lines, if all of them may follow. -/
def openBehind? (blocks : List OpenBlock) (parts : List (NumberedLine × Meaning)) :
    Option (List OpenBlock) :=
  parts.foldlM openBehindLine? blocks

theorem openBehind?_cons (blocks : List OpenBlock) (part : NumberedLine × Meaning)
    (parts : List (NumberedLine × Meaning)) :
    openBehind? blocks (part :: parts) =
      (openBehindLine? blocks part).bind fun next => openBehind? next parts := by
  simp only [openBehind?, List.foldlM_cons]
  rfl

theorem openBehind?_append (blocks : List OpenBlock)
    (first second : List (NumberedLine × Meaning)) :
    openBehind? blocks (first ++ second) =
      (openBehind? blocks first).bind fun next => openBehind? next second := by
  simp only [openBehind?, List.foldlM_append]
  rfl

/-- A line may follow exactly if it is not refused. -/
theorem openBehindLine?_eq_none_iff {blocks : List OpenBlock} {part : NumberedLine × Meaning} :
    openBehindLine? blocks part = none ↔ (refusal? blocks.head? part.2).isSome := by
  unfold openBehindLine?
  cases refusal? blocks.head? part.2 with
  | some category => simp
  | none =>
      simp only [Option.isSome_none, Bool.false_eq_true, iff_false]
      split <;> simp

/-- Behind a line that may follow, its blocks are open. -/
theorem LeavesOpen.line {parts : List (NumberedLine × Meaning)} {blocks next : List OpenBlock}
    (leaves : LeavesOpen parts blocks) {part : NumberedLine × Meaning}
    (follows : openBehindLine? blocks part = some next) : LeavesOpen (parts ++ [part]) next := by
  obtain ⟨line, meaning⟩ := part
  match meaning, blocks with
  | .error _, _ => cases follows
  | .ok none, _ =>
      cases follows
      exact leaves.append (.content line .nil)
  | .ok (some .comment), _ =>
      cases follows
      exact leaves.append (.comment line .nil)
  | .ok (some (.condition asked)), _ =>
      cases follows
      exact leaves.opensCondition line asked
  | .ok (some (.ask argument)), _ =>
      cases follows
      exact leaves.opensAsk line argument
  | .ok (some .otherwise), .condition opened false :: _ =>
      cases follows
      exact leaves.turns line
  | .ok (some .endCondition), .condition opened behind :: _ =>
      cases follows
      exact leaves.closesCondition line
  | .ok (some (.option label)), .ask opened :: _ =>
      cases follows
      exact leaves.opensOption line label
  | .ok (some .endAsk), .ask opened :: _ =>
      cases follows
      exact leaves.closesAsk line

mutual

/-- The lines of an outline may follow anywhere and leave the same blocks open. -/
theorem Outline.openBehind?_yield (blocks : List OpenBlock)
    (behind : List (NumberedLine × Meaning)) : ∀ outline : Plan,
      openBehind? blocks (outline.yield ++ behind) = openBehind? blocks behind
  | .nil => rfl
  | .content _ rest => Outline.openBehind?_yield blocks behind rest
  | .comment _ rest => Outline.openBehind?_yield blocks behind rest
  | .condition opening _ _ body turn closing rest => by
      simp only [Outline.yield, List.cons_append, List.append_assoc]
      change openBehind? (.condition opening.number false :: blocks) (body.yield ++ _) = _
      rw [Outline.openBehind?_yield _ _ body, Turn.openBehind?_yield _ _ _ _ turn,
        Outline.openBehind?_yield blocks behind rest]
  | .ask opening _ body choices closing _ rest => by
      simp only [Outline.yield, List.cons_append, List.append_assoc]
      change openBehind? (.ask opening.number :: blocks) (body.yield ++ _) = _
      rw [Outline.openBehind?_yield _ _ body, Choices.openBehind?_yield _ _ _ choices]
      exact Outline.openBehind?_yield blocks behind rest

/-- A turn and a closing line end the conditional block that is open. -/
theorem Turn.openBehind?_yield (blocks : List OpenBlock) (opened : Nat) (closing : NumberedLine)
    (behind : List (NumberedLine × Meaning)) : ∀ turn : Turn Unit Unit,
      openBehind? (.condition opened false :: blocks)
        (turn.yield ++ (closing, .ok (some .endCondition)) :: behind) = openBehind? blocks behind
  | .absent => rfl
  | .present line body => by
      change openBehind? (.condition opened true :: blocks) (body.yield ++ _) = _
      rw [Outline.openBehind?_yield _ _ body]
      rfl

/-- Options leave their question block open. -/
theorem Choices.openBehind?_yield (blocks : List OpenBlock) (opened : Nat)
    (behind : List (NumberedLine × Meaning)) : ∀ choices : Choices Unit Unit,
      openBehind? (.ask opened :: blocks) (choices.yield ++ behind) =
        openBehind? (.ask opened :: blocks) behind
  | .nil => rfl
  | .option line _ body rest => by
      simp only [Choices.yield, List.cons_append, List.append_assoc]
      change openBehind? (.ask opened :: blocks) (body.yield ++ _) = _
      rw [Outline.openBehind?_yield _ _ body]
      exact Choices.openBehind?_yield blocks opened behind rest

end

/-- Behind lines that leave blocks open, those blocks decide what may follow. -/
theorem LeavesOpen.openBehind?_append {parts : List (NumberedLine × Meaning)}
    {blocks : List OpenBlock} (leaves : LeavesOpen parts blocks)
    (behind : List (NumberedLine × Meaning)) :
    openBehind? [] (parts ++ behind) = openBehind? blocks behind := by
  induction leaves generalizing behind with
  | document outline => exact Outline.openBehind?_yield [] behind outline
  | condition _ opening asked body ih =>
      rw [List.append_assoc, ih]
      exact Outline.openBehind?_yield _ behind body
  | turned _ opening asked body line other ih =>
      rw [List.append_assoc, ih, List.cons_append, List.append_assoc]
      change openBehind? (.condition opening.number false :: _) (body.yield ++ _) = _
      rw [Outline.openBehind?_yield _ _ body]
      exact Outline.openBehind?_yield _ behind other
  | ask _ opening argument body ih =>
      rw [List.append_assoc, ih]
      exact Outline.openBehind?_yield _ behind body
  | option _ opening argument body choices line label last ih =>
      rw [List.append_assoc, ih, List.cons_append, List.append_assoc, List.append_assoc]
      change openBehind? (.ask opening.number :: _) (body.yield ++ _) = _
      rw [Outline.openBehind?_yield _ _ body, Choices.openBehind?_yield]
      exact Outline.openBehind?_yield _ behind last

/-- **Open blocks.** Following a row of lines finds the blocks that it leaves
open, and finds none if one of the lines may not follow. -/
theorem openBehind?_eq_some_iff {parts : List (NumberedLine × Meaning)}
    {blocks : List OpenBlock} : openBehind? [] parts = some blocks ↔ LeavesOpen parts blocks := by
  constructor
  · suffices following : ∀ (before : List (NumberedLine × Meaning)) (current : List OpenBlock),
        LeavesOpen before current → openBehind? current parts = some blocks →
          LeavesOpen (before ++ parts) blocks from
      fun found => following [] [] (.document .nil) found
    induction parts with
    | nil =>
        intro before current leaves found
        cases found
        simpa using leaves
    | cons part parts ih =>
        intro before current leaves found
        rw [openBehind?_cons, Option.bind_eq_some_iff] at found
        obtain ⟨next, follows, found⟩ := found
        have further := ih (before ++ [part]) next (leaves.line follows) found
        simpa using further
  · intro leaves
    have all := leaves.openBehind?_append []
    rw [List.append_nil] at all
    exact all

/-- The lines of outlines are those that leave no block open. -/
theorem exists_outline_iff {parts : List (NumberedLine × Meaning)} :
    (∃ outline : Plan, outline.yield = parts) ↔ openBehind? [] parts = some [] := by
  rw [openBehind?_eq_some_iff]
  constructor
  · rintro ⟨outline, rfl⟩
    exact .document outline
  · intro leaves
    cases leaves with
    | document outline => exact ⟨outline, rfl⟩

end Tailor
