import Tailor.Block.Evaluation

/-! # Outlines

An outline is a derivation of a document in the grammar of nested blocks

* a document is a row of content lines, comments, conditional blocks and
  question blocks;
* a conditional block is its opening line, a document, perhaps a turn with a
  document behind it, and its closing line;
* a question block is its opening line, a document, options with a document
  behind each, and its closing line.

An outline may carry a mark on each of its blocks: nothing while it is only
read, the verdict or the answer of the block once it is settled
(`Tailor.Outline.settle`). A settled outline says by itself which of its lines
are written (`Tailor.Outline.written`); no stack and no line held back is
involved.
-/

namespace Tailor

/-- What a line is read as: nothing for content, a directive, or neither. -/
abbrev Meaning := Except Malformation (Option Directive)

/-- The lines of a document, each with what it is read as. -/
def parsed (mark : Text) (lines : List NumberedLine) : List (NumberedLine × Meaning) :=
  lines.map fun line => (line, Directive.ofLine mark line.text)

/-- Lines with numbers counted from the first one on. -/
def numberFrom (first : Nat) (lines : List Text) : List NumberedLine :=
  (lines.zipIdx first).map fun (text, number) => ⟨number, text⟩

@[simp] theorem numberFrom_cons (first : Nat) (line : Text) (lines : List Text) :
    numberFrom first (line :: lines) = ⟨first, line⟩ :: numberFrom (first + 1) lines := rfl

/-- Further lines of a document are counted on. -/
theorem number_append (before behind : List Text) :
    number (before ++ behind) = number before ++ numberFrom (before.length + 1) behind := by
  simp only [number, numberFrom, List.zipIdx_append, List.map_append, Nat.add_comm]

theorem parsed_append (mark : Text) (before behind : List NumberedLine) :
    parsed mark (before ++ behind) = parsed mark before ++ parsed mark behind :=
  List.map_append

mutual

/-- The blocks and the other lines of a document in order; `κ` marks its
conditional blocks and `α` its question blocks. -/
inductive Outline (κ α : Type) where
  | nil
  | content (line : NumberedLine) (rest : Outline κ α)
  | comment (line : NumberedLine) (rest : Outline κ α)
  | condition (opening : NumberedLine) (asked : Condition) (mark : κ) (body : Outline κ α)
      (turn : Turn κ α) (closing : NumberedLine) (rest : Outline κ α)
  | ask (opening : NumberedLine) (argument : Text) (body : Outline κ α) (choices : Choices κ α)
      (closing : NumberedLine) (mark : α) (rest : Outline κ α)

/-- The turn of a conditional block, with what stands behind it. -/
inductive Turn (κ α : Type) where
  | absent
  | present (line : NumberedLine) (body : Outline κ α)

/-- The options of a question block, with what stands behind each. -/
inductive Choices (κ α : Type) where
  | nil
  | option (line : NumberedLine) (label : Text) (body : Outline κ α) (rest : Choices κ α)

end

/-- An outline of a document that is only read. -/
abbrev Plan := Outline Unit Unit

/-- An outline with the verdicts and the answers of a run. -/
abbrev Settled := Outline Bool Answer

section Yield

variable {κ α : Type}

mutual

/-- The lines of an outline in order, each with what it is read as. -/
def Outline.yield : Outline κ α → List (NumberedLine × Meaning)
  | .nil => []
  | .content line rest => (line, .ok none) :: rest.yield
  | .comment line rest => (line, .ok (some .comment)) :: rest.yield
  | .condition opening asked _ body turn closing rest =>
      (opening, .ok (some (.condition asked))) ::
        (body.yield ++ (turn.yield ++ (closing, .ok (some .endCondition)) :: rest.yield))
  | .ask opening argument body choices closing _ rest =>
      (opening, .ok (some (.ask argument))) ::
        (body.yield ++ (choices.yield ++ (closing, .ok (some .endAsk)) :: rest.yield))

@[inherit_doc Outline.yield]
def Turn.yield : Turn κ α → List (NumberedLine × Meaning)
  | .absent => []
  | .present line body => (line, .ok (some .otherwise)) :: body.yield

@[inherit_doc Outline.yield]
def Choices.yield : Choices κ α → List (NumberedLine × Meaning)
  | .nil => []
  | .option line label body rest => (line, .ok (some (.option label))) :: (body.yield ++ rest.yield)

end

section Map

variable {κ' α' : Type} (line : NumberedLine → NumberedLine) (verdict : κ → κ') (answer : α → α')

mutual

/-- The outline with other lines and other marks in its place. -/
def Outline.map : Outline κ α → Outline κ' α'
  | .nil => .nil
  | .content first rest => .content (line first) rest.map
  | .comment first rest => .comment (line first) rest.map
  | .condition opening asked mark body turn closing rest =>
      .condition (line opening) asked (verdict mark) body.map turn.map (line closing) rest.map
  | .ask opening argument body choices closing mark rest =>
      .ask (line opening) argument body.map choices.map (line closing) (answer mark) rest.map

@[inherit_doc Outline.map]
def Turn.map : Turn κ α → Turn κ' α'
  | .absent => .absent
  | .present first body => .present (line first) body.map

@[inherit_doc Outline.map]
def Choices.map : Choices κ α → Choices κ' α'
  | .nil => .nil
  | .option first label body rest => .option (line first) label body.map rest.map

end

mutual

theorem Outline.yield_map : ∀ outline : Outline κ α,
    (outline.map line verdict answer).yield = outline.yield.map (Prod.map line id)
  | .nil => rfl
  | .content _ rest | .comment _ rest => by
      simp only [Outline.map, Outline.yield, Outline.yield_map rest, List.map_cons, Prod.map_apply,
        id_eq]
  | .condition _ _ _ body turn _ rest => by
      simp only [Outline.map, Outline.yield, Outline.yield_map body, Turn.yield_map turn,
        Outline.yield_map rest, List.map_cons, List.map_append, Prod.map_apply, id_eq]
  | .ask _ _ body choices _ _ rest => by
      simp only [Outline.map, Outline.yield, Outline.yield_map body, Choices.yield_map choices,
        Outline.yield_map rest, List.map_cons, List.map_append, Prod.map_apply, id_eq]

theorem Turn.yield_map : ∀ turn : Turn κ α,
    (turn.map line verdict answer).yield = turn.yield.map (Prod.map line id)
  | .absent => rfl
  | .present _ body => by
      simp only [Turn.map, Turn.yield, Outline.yield_map body, List.map_cons, Prod.map_apply, id_eq]

theorem Choices.yield_map : ∀ choices : Choices κ α,
    (choices.map line verdict answer).yield = choices.yield.map (Prod.map line id)
  | .nil => rfl
  | .option _ _ body rest => by
      simp only [Choices.map, Choices.yield, Outline.yield_map body, Choices.yield_map rest,
        List.map_cons, List.map_append, Prod.map_apply, id_eq]

end

end Map

/-- The lines of an outline in order. -/
def Outline.lines (outline : Outline κ α) : List NumberedLine := outline.yield.map Prod.fst

@[inherit_doc Outline.lines]
def Turn.lines (turn : Turn κ α) : List NumberedLine := turn.yield.map Prod.fst

@[inherit_doc Outline.lines]
def Choices.lines (choices : Choices κ α) : List NumberedLine := choices.yield.map Prod.fst

section Lines

variable (line opening closing : NumberedLine) (body rest : Outline κ α) (turn : Turn κ α)
  (choices others : Choices κ α)

theorem Outline.lines_content : (Outline.content line rest).lines = line :: rest.lines := rfl

theorem Outline.lines_comment : (Outline.comment line rest).lines = line :: rest.lines := rfl

theorem Outline.lines_condition (asked : Condition) (mark : κ) :
    (Outline.condition opening asked mark body turn closing rest).lines =
      opening :: (body.lines ++ (turn.lines ++ closing :: rest.lines)) := by
  simp only [Outline.lines, Turn.lines, Outline.yield, List.map_cons, List.map_append]

theorem Outline.lines_ask (argument : Text) (mark : α) :
    (Outline.ask opening argument body choices closing mark rest).lines =
      opening :: (body.lines ++ (choices.lines ++ closing :: rest.lines)) := by
  simp only [Outline.lines, Choices.lines, Outline.yield, List.map_cons, List.map_append]

theorem Choices.lines_option (label : Text) :
    (Choices.option line label body others).lines = line :: (body.lines ++ others.lines) := by
  simp only [Outline.lines, Choices.lines, Choices.yield, List.map_cons, List.map_append]

end Lines

/-- The options as the block that offers them lists them. -/
def Choices.offers : Choices κ α → List Offer
  | .nil => []
  | .option line label _ rest => ⟨label, line.number⟩ :: rest.offers

/-- The labels of the options. -/
def Choices.labels (choices : Choices κ α) : List Text := choices.offers.map Offer.label

/-- The outline without its marks. -/
def Outline.forget (outline : Outline κ α) : Plan := outline.map id (fun _ => ()) fun _ => ()

@[inherit_doc Outline.forget]
def Turn.forget (turn : Turn κ α) : Turn Unit Unit := turn.map id (fun _ => ()) fun _ => ()

@[inherit_doc Outline.forget]
def Choices.forget (choices : Choices κ α) : Choices Unit Unit :=
  choices.map id (fun _ => ()) fun _ => ()

/-- The labels do not depend on the lines. -/
theorem Choices.labels_map {κ' α' : Type} (line : NumberedLine → NumberedLine) (verdict : κ → κ')
    (answer : α → α') : ∀ choices : Choices κ α,
      (choices.map line verdict answer).labels = choices.labels
  | .nil => rfl
  | .option _ label _ rest => congrArg (label :: ·) (Choices.labels_map line verdict answer rest)

theorem Outline.yield_forget (outline : Outline κ α) : outline.forget.yield = outline.yield := by
  rw [Outline.forget, Outline.yield_map, Prod.map_id, List.map_id]

/-- The outline is one of the document with these lines under a mark. -/
def Outline.Reads (outline : Outline κ α) (mark : Text) (lines : List NumberedLine) : Prop :=
  outline.yield = parsed mark lines

end Yield

/-- A question block may be closed with the answer: it selects one of the
options, or there is none to select. -/
def Answer.fits (count : Nat) : Answer → Bool
  | .yesNo _ => count == 0
  | .choice position => count == 0 || (decide (0 ≤ position) && decide (position < count))

/-- The answer selects the option at a position. -/
def Answer.selects (answer : Answer) (position : Nat) : Bool := answer == .choice position

/-- The answer to the query of a question block, which must fit. -/
def settleQuery {σ : Type} (world : World σ) (query : Query) : Act σ Answer := do
  let answer ← Act.resolve world query
  if answer.fits query.options.length then pure answer
  else Act.fail (.query (.badAnswer answer query.options.length))

section Settle

variable {σ : Type} (world : World σ)

mutual

/-- Finds the verdicts and answers of an outline in one walk from its first to
its last line: a condition holds or fails where its block opens, and a question
is expanded where its block opens and answered where it closes. -/
def Outline.settle : Plan → Act σ Settled
  | .nil => pure .nil
  | .content line rest => do
      let rest ← rest.settle
      pure (.content line rest)
  | .comment line rest => do
      let rest ← rest.settle
      pure (.comment line rest)
  | .condition opening asked _ body turn closing rest => do
      let held ← Act.atLine opening.number (Expression.verdict world asked)
      let body ← body.settle
      let turn ← turn.settle
      let rest ← rest.settle
      pure (.condition opening asked held body turn closing rest)
  | .ask opening argument body choices closing _ rest => do
      let question ← Act.atLine opening.number (Expression.expand world argument)
      let body ← body.settle
      let choices ← choices.settle
      let answer ← Act.atLine closing.number (settleQuery world ⟨question, choices.labels⟩)
      let rest ← rest.settle
      pure (.ask opening argument body choices closing answer rest)

@[inherit_doc Outline.settle]
def Turn.settle : Turn Unit Unit → Act σ (Turn Bool Answer)
  | .absent => pure .absent
  | .present line body => do
      let body ← body.settle
      pure (.present line body)

@[inherit_doc Outline.settle]
def Choices.settle : Choices Unit Unit → Act σ (Choices Bool Answer)
  | .nil => pure .nil
  | .option line label body rest => do
      let body ← body.settle
      let rest ← rest.settle
      pure (.option line label body rest)

end

end Settle

/-- No option was opened. -/
def Choices.isEmpty {κ α : Type} : Choices κ α → Bool
  | .nil => true
  | .option _ _ _ _ => false

section Written

variable (keep : Bool)

/-- A directive line, if directive lines are kept. -/
def keptLine (line : NumberedLine) : List NumberedLine := if keep then [line] else []

mutual

/-- The lines that a settled outline writes. A conditional block writes what
stands on the side of its verdict, a question block what stands behind the
selected option or, without options, everything if the answer holds. -/
def Outline.written : Settled → List NumberedLine
  | .nil => []
  | .content line rest => line :: rest.written
  | .comment line rest => keptLine keep line ++ rest.written
  | .condition opening _ held body turn closing rest =>
      keptLine keep opening ++ ((if held then body.written else []) ++
        (turn.written (!held) ++ (keptLine keep closing ++ rest.written)))
  | .ask opening _ body choices closing answer rest =>
      keptLine keep opening ++ ((if choices.isEmpty && answer.holds then body.written else []) ++
        (choices.written answer 0 ++ (keptLine keep closing ++ rest.written)))

/-- What the turn of a conditional block writes; `taken` tells whether its side
is that of the verdict. -/
def Turn.written (taken : Bool) : Turn Bool Answer → List NumberedLine
  | .absent => []
  | .present line body => keptLine keep line ++ (if taken then body.written else [])

/-- What the options from a position on write under an answer. -/
def Choices.written (answer : Answer) (position : Nat) : Choices Bool Answer → List NumberedLine
  | .nil => []
  | .option line _ body rest =>
      keptLine keep line ++ ((if answer.selects position then body.written else []) ++
        rest.written answer (position + 1))

end

theorem map_keptLine (line : NumberedLine → NumberedLine) (first : NumberedLine) :
    (keptLine keep first).map line = keptLine keep (line first) := by
  cases keep with
  | false => rfl
  | true => rfl

theorem Choices.isEmpty_map {κ α κ' α' : Type} (line : NumberedLine → NumberedLine)
    (verdict : κ → κ') (answer : α → α') (choices : Choices κ α) :
    (choices.map line verdict answer).isEmpty = choices.isEmpty := by
  cases choices with
  | nil => rfl
  | option first label body rest => rfl

section Map

variable (line : NumberedLine → NumberedLine)

mutual

/-- With other lines in its place an outline writes those. -/
theorem Outline.written_map : ∀ outline : Settled,
    (outline.map line id id).written keep = (outline.written keep).map line
  | .nil => rfl
  | .content first rest | .comment first rest => by
      simp only [Outline.map, Outline.written, Outline.written_map rest, List.map_cons,
        List.map_append, map_keptLine]
  | .condition opening asked held body turn closing rest => by
      simp only [Outline.map, Outline.written, Outline.written_map body, id_eq,
        Turn.written_map (!held) turn, Outline.written_map rest, List.map_append, map_keptLine]
      cases held <;> rfl
  | .ask opening argument body choices closing answer rest => by
      simp only [Outline.map, Outline.written, Outline.written_map body, id_eq,
        Choices.isEmpty_map, Choices.written_map answer choices 0, Outline.written_map rest,
        List.map_append, map_keptLine]
      split <;> rfl

theorem Turn.written_map (taken : Bool) : ∀ turn : Turn Bool Answer,
    (turn.map line id id).written keep taken = (turn.written keep taken).map line
  | .absent => rfl
  | .present first body => by
      simp only [Turn.map, Turn.written, Outline.written_map body, List.map_append, map_keptLine]
      cases taken <;> rfl

theorem Choices.written_map (answer : Answer) :
    ∀ (choices : Choices Bool Answer) (position : Nat),
      (choices.map line id id).written keep answer position =
        (choices.written keep answer position).map line
  | .nil, _ => rfl
  | .option first label body rest, position => by
      simp only [Choices.map, Choices.written, Outline.written_map body,
        Choices.written_map answer rest (position + 1), List.map_append, map_keptLine]
      split <;> rfl

end

end Map

end Written

end Tailor
