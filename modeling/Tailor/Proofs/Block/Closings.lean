import Tailor.Proofs.Block.Calls

/-! # The block that a line closes

A question block stands in a document with its opening line, a body, its options and its
closing line (`Tailor.QuestionBlock.StandsIn`). Where reading has come to a closing line,
the innermost open block is such a block up to there: its question is a value of the
argument in the opening line, its labels are those of the option lines
(`Tailor.Reading.exists_opening`).
-/

namespace Tailor

variable {σ : Type} {world : World σ} {marking : Marking}

/-- The block stands in a row of lines. Between its opening and its closing line there are
a document and the options, each with a document behind it. -/
def QuestionBlock.StandsIn (block : QuestionBlock) (parts : List (NumberedLine × Meaning)) :
    Prop :=
  ∃ (before : List (NumberedLine × Meaning)) (opening : NumberedLine) (body : Plan)
    (choices : Choices Unit Unit) (behind : List (NumberedLine × Meaning)),
    parts = before ++ (opening, .ok (some (.ask block.argument))) ::
        (body.yield ++ (choices.yield ++ (block.closing, .ok (some .endAsk)) :: behind)) ∧
      choices.labels = block.labels

/-- Behind an open question block stands a document, and then come options. -/
theorem LeavesOpen.exists_ask {parts : List (NumberedLine × Meaning)} {opened : Nat}
    {outer : List OpenBlock} (leaves : LeavesOpen parts (.ask opened :: outer)) :
    ∃ before opening argument, ∃ body : Plan, ∃ choices : Choices Unit Unit,
      parts = before ++ (opening, .ok (some (.ask argument))) :: (body.yield ++ choices.yield) := by
  cases leaves with
  | @ask before _ leaves opening argument body =>
      exact ⟨before, opening, argument, body, .nil, by rw [Choices.yield, List.append_nil]⟩
  | @option before _ leaves opening argument body choices line label last =>
      refine ⟨before, opening, argument, body, choices.append (.option line label last .nil), ?_⟩
      rw [Choices.yield_append, Choices.yield, Choices.yield, List.append_nil]

namespace Reading

/-- **The innermost question block.** Reading has come behind the opening line of the
block, a document and options: the question is a value of the argument that is asked, and
the offers have the labels of the options. -/
theorem exists_opening {before : List NumberedLine} {opened : Nat} {question : Text}
    {offers : List Offer} {held : List HeldLine} {outer : List Block}
    {output : List NumberedLine} {session after : Session σ}
    (read : Act.from_ session (start.steps world marking before) =
      (.ok ⟨.ask opened question offers held :: outer, output⟩, after)) :
    ∃ earlier opening argument, ∃ body : Plan, ∃ choices : Choices Unit Unit,
      parsed marking.mark before = earlier ++
          (opening, .ok (some (.ask argument))) :: (body.yield ++ choices.yield) ∧
        opening.number = opened ∧ choices.labels = offers.map Offer.label ∧
          ∃ start next, Act.from_ start (Expression.expand world argument) =
            (.ok question, next) := by
  have leaves := openBehind?_eq_some_iff.mp (steps_follow read)
  obtain ⟨earlier, opening, argument, body, choices, cut⟩ := leaves.exists_ask
  refine ⟨earlier, opening, argument, body, choices, cut, ?_⟩
  have agrees := marking.agrees_parsed before
  rw [cut, Marking.agrees_append, Marking.agrees_cons, Marking.agrees_append] at agrees
  obtain ⟨_, opens, inBody, inChoices⟩ := agrees
  -- The lines are read in the same pieces, so the reading comes to the block that is pushed.
  have pieces : before = earlier.map Prod.fst ++
      opening :: (body.lines ++ (choices.lines ++ [])) := by
    rw [← map_fst_parsed marking.mark before, cut]
    simp [Outline.lines, Choices.lines]
  rw [pieces, steps_append, Act.from_bind_eq_ok] at read
  obtain ⟨outside, between, _, read⟩ := read
  rw [steps_cons, step_ask opens, bind_assoc, Act.from_bind_eq_ok] at read
  obtain ⟨asked, _, expanded, read⟩ := read
  rw [pure_bind, Outline.steps_lines marking body inBody, Act.from_bind_eq_ok] at read
  obtain ⟨settled, _, _, read⟩ := read
  rw [pass_push_ask, Choices.steps_lines marking choices inChoices, Act.from_bind_eq_ok] at read
  obtain ⟨offered, _, settles, read⟩ := read
  cases read
  refine ⟨rfl, ?_, _, _, Act.from_atLine_eq_ok.mp expanded⟩
  rw [List.nil_append, ← Choices.forget_settle choices settles, Choices.forget,
    Choices.labels_map]
  rfl

end Reading

end Tailor
