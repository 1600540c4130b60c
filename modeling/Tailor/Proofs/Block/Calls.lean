import Mathlib.Data.List.Forall2
import Tailor.Proofs.Block.Acceptance
import Tailor.Proofs.Block.Survival
import Tailor.Proofs.Session.Commands

/-! # What evaluating a document calls for

A document that is evaluated calls for the same whatever comes of it: the
commands in the arguments of its conditions and questions, each once and in the
order of the lines, and one query for each of its question blocks, in the order
in which the blocks are closed (`Tailor.Outline.settle_calls`). No verdict, answer
or recorded answer spares a call, and no content line, comment or option makes
one. So two settings in which a document is evaluated cannot be told apart by
the commands that it runs or by the blocks that it asks for
(`Tailor.evaluate_calls`).
-/

namespace Tailor

variable {σ τ : Type}

/-- A question block of a document: the argument of its question, the labels of
its options and its closing line. -/
structure QuestionBlock where
  argument : Text
  labels : List Text
  closing : NumberedLine
deriving Repr, DecidableEq

/-- The query asks what the block asks: its question is a value of the argument,
its options are the labels. -/
def QuestionBlock.Puts (world : World σ) (block : QuestionBlock) (query : Query) : Prop :=
  (∃ before after,
    Act.from_ before (Expression.expand world block.argument) = (.ok query.question, after)) ∧
    query.options = block.labels

/-- The commands that a line is read to run. -/
def Meaning.commands : Meaning → List Text
  | .ok (some (.condition asked)) => asked.commands
  | .ok (some (.ask argument)) => Expression.commands argument
  | _ => []

/-- The commands that lines are read to run, in the order of the lines. -/
def commandsOf (parts : List (NumberedLine × Meaning)) : List Text :=
  parts.flatMap fun part => Meaning.commands part.2

/-- The line closes a question block. -/
def Meaning.closesAsk : Meaning → Bool
  | .ok (some .endAsk) => true
  | _ => false

/-- The lines that close question blocks, in order. -/
def closingLines (parts : List (NumberedLine × Meaning)) : List NumberedLine :=
  (parts.filter fun part => Meaning.closesAsk part.2).map Prod.fst

section Parts

variable (part : NumberedLine × Meaning) (parts others : List (NumberedLine × Meaning))

theorem commandsOf_cons :
    commandsOf (part :: parts) = Meaning.commands part.2 ++ commandsOf parts :=
  List.flatMap_cons

theorem commandsOf_append : commandsOf (parts ++ others) = commandsOf parts ++ commandsOf others :=
  List.flatMap_append

theorem closingLines_cons : closingLines (part :: parts) =
    if Meaning.closesAsk part.2 then part.1 :: closingLines parts else closingLines parts := by
  unfold closingLines
  rw [List.filter_cons]
  split <;> rfl

theorem closingLines_append :
    closingLines (parts ++ others) = closingLines parts ++ closingLines others := by
  simp only [closingLines, List.filter_append, List.map_append]

end Parts

section Questions

variable {κ α : Type}

mutual

/-- The question blocks of an outline in the order of their closing lines: a
block comes behind those inside it. -/
def Outline.questions : Outline κ α → List QuestionBlock
  | .nil => []
  | .content _ rest => rest.questions
  | .comment _ rest => rest.questions
  | .condition _ _ _ body turn _ rest => body.questions ++ (turn.questions ++ rest.questions)
  | .ask _ argument body choices closing _ rest =>
      body.questions ++ (choices.questions ++ ⟨argument, choices.labels, closing⟩ :: rest.questions)

@[inherit_doc Outline.questions]
def Turn.questions : Turn κ α → List QuestionBlock
  | .absent => []
  | .present _ body => body.questions

@[inherit_doc Outline.questions]
def Choices.questions : Choices κ α → List QuestionBlock
  | .nil => []
  | .option _ _ body rest => body.questions ++ rest.questions

end

mutual

/-- Every line that closes a question block closes one of these blocks. -/
theorem Outline.closing_questions : ∀ outline : Outline κ α,
    outline.questions.map QuestionBlock.closing = closingLines outline.yield
  | .nil => rfl
  | .content _ rest | .comment _ rest => Outline.closing_questions rest
  | .condition opening asked _ body turn closing rest => by
      simp only [Outline.questions, Outline.yield, List.map_append, closingLines_cons,
        closingLines_append, Meaning.closesAsk, Bool.false_eq_true, ↓reduceIte,
        Outline.closing_questions body, Turn.closing_questions turn, Outline.closing_questions rest]
  | .ask opening argument body choices closing _ rest => by
      simp only [Outline.questions, Outline.yield, List.map_append, List.map_cons,
        closingLines_cons, closingLines_append, Meaning.closesAsk, Bool.false_eq_true, ↓reduceIte,
        Outline.closing_questions body, Choices.closing_questions choices,
        Outline.closing_questions rest]

theorem Turn.closing_questions : ∀ turn : Turn κ α,
    turn.questions.map QuestionBlock.closing = closingLines turn.yield
  | .absent => rfl
  | .present _ body => Outline.closing_questions body

theorem Choices.closing_questions : ∀ choices : Choices κ α,
    choices.questions.map QuestionBlock.closing = closingLines choices.yield
  | .nil => rfl
  | .option line label body rest => by
      simp only [Choices.questions, Choices.yield, List.map_append, closingLines_cons,
        closingLines_append, Meaning.closesAsk, Bool.false_eq_true, ↓reduceIte,
        Outline.closing_questions body, Choices.closing_questions rest]

end

end Questions

/-- Between two sessions commands are run and the queries of question blocks are
resolved, each once and in order. -/
structure Session.Calls (world : World σ) (commands : List Text) (blocks : List QuestionBlock)
    (session after : Session σ) : Prop where
  commands : after.commands = session.commands ++ commands
  consulted : ∃ queries, after.consulted = session.consulted ++ queries ∧
    List.Forall₂ (QuestionBlock.Puts world) blocks queries

section Calls

variable {world : World σ} {session between after : Session σ}

namespace Session

theorem calls_nothing (world : World σ) (session : Session σ) :
    session.Calls world [] [] session where
  commands := (List.append_nil _).symm
  consulted := ⟨[], (List.append_nil _).symm, .nil⟩

theorem Calls.trans {commands moreCommands : List Text} {blocks moreBlocks : List QuestionBlock}
    (first : session.Calls world commands blocks between)
    (second : between.Calls world moreCommands moreBlocks after) :
    session.Calls world (commands ++ moreCommands) (blocks ++ moreBlocks) after where
  commands := by rw [second.commands, first.commands, List.append_assoc]
  consulted := by
    obtain ⟨queries, consulted, puts⟩ := first.consulted
    obtain ⟨more, consultedLater, putsLater⟩ := second.consulted
    refine ⟨queries ++ more, ?_, List.rel_append puts putsLater⟩
    rw [consultedLater, consulted, List.append_assoc]

/-- Where nothing happens that has to do with queries, only commands are run. -/
theorem Quiet.calls (quiet : session.Quiet after) {commands : List Text}
    (ran : after.commands = session.commands ++ commands) :
    session.Calls world commands [] after where
  commands := ran
  consulted := ⟨[], by rw [quiet.consulted, List.append_nil], .nil⟩

end Session

theorem Expression.verdict_calls {asked : Condition} {held : Bool}
    (succeeded : Act.from_ session (verdict world asked) = (.ok held, after)) :
    session.Calls world asked.commands [] after :=
  ((verdict_quiet world asked).of_eq succeeded).calls ((verdict_runs world asked).all succeeded)

theorem Expression.expand_calls {text value : Text}
    (succeeded : Act.from_ session (expand world text) = (.ok value, after)) :
    session.Calls world (commands text) [] after :=
  ((expand_quiet world text).of_eq succeeded).calls ((expand_runs world text).all succeeded)

/-- A query that is settled was resolved, once, and no command was run. -/
theorem settleQuery_calls {query : Query} {answer : Answer}
    (succeeded : Act.from_ session (settleQuery world query) = (.ok answer, after))
    {block : QuestionBlock} (puts : block.Puts world query) :
    session.Calls world [] [block] after := by
  rw [settleQuery, Act.from_bind_eq_ok] at succeeded
  obtain ⟨found, between, resolved, last⟩ := succeeded
  by_cases fits : found.fits query.options.length
  · rw [if_pos fits] at last
    cases last
    have consulted := Act.consulted_resolve world query session
    rw [resolved] at consulted
    exact ⟨(Act.resolve_runs world query).all resolved, [query], consulted, .cons puts .nil⟩
  · rw [if_neg fits] at last
    cases last

mutual

/-- **The calls of an outline.** An outline that is settled called for the
commands of its lines and for its question blocks, whatever the marks. -/
theorem Outline.settle_calls : ∀ (outline : Plan) {settled : Settled} {session after : Session σ},
    Act.from_ session (outline.settle world) = (.ok settled, after) →
      session.Calls world (commandsOf outline.yield) outline.questions after
  | .nil, _, session, _, succeeded => by
      cases succeeded
      exact session.calls_nothing world
  | .content _ rest, _, _, _, succeeded | .comment _ rest, _, _, _, succeeded => by
      rw [Outline.settle, Act.from_bind_eq_ok] at succeeded
      obtain ⟨_, _, restSettled, last⟩ := succeeded
      cases last
      exact Outline.settle_calls rest restSettled
  | .condition _ asked _ body turn _ rest, _, session, _, succeeded => by
      simp only [Outline.settle, Act.from_bind_eq_ok] at succeeded
      obtain ⟨held, _, decided, _, _, bodySettled, _, _, turnSettled, _, _, restSettled, last⟩ :=
        succeeded
      cases last
      have decided := Expression.verdict_calls (Act.from_atLine_eq_ok.mp decided)
      have inside := (Outline.settle_calls body bodySettled).trans
        ((Turn.settle_calls turn turnSettled).trans (Outline.settle_calls rest restSettled))
      simpa only [Outline.yield, Outline.questions, commandsOf_cons, commandsOf_append,
        Meaning.commands, List.nil_append] using decided.trans inside
  | .ask _ argument body choices closing _ rest, _, session, _, succeeded => by
      simp only [Outline.settle, Act.from_bind_eq_ok] at succeeded
      obtain ⟨question, _, expanded, _, _, bodySettled, settledChoices, _, choicesSettled, answer,
        _, answered, _, _, restSettled, last⟩ := succeeded
      cases last
      have labels : settledChoices.labels = choices.labels := by
        rw [← Choices.forget_settle choices choicesSettled, Choices.forget, Choices.labels_map]
      have puts : QuestionBlock.Puts world ⟨argument, choices.labels, closing⟩
          ⟨question, _⟩ := ⟨⟨_, _, Act.from_atLine_eq_ok.mp expanded⟩, labels⟩
      have expanded := Expression.expand_calls (Act.from_atLine_eq_ok.mp expanded)
      have answered := settleQuery_calls (Act.from_atLine_eq_ok.mp answered) puts
      have inside := (Outline.settle_calls body bodySettled).trans
        ((Choices.settle_calls choices choicesSettled).trans
          (answered.trans (Outline.settle_calls rest restSettled)))
      simpa only [Outline.yield, Outline.questions, commandsOf_cons, commandsOf_append,
        Meaning.commands, List.nil_append, List.cons_append] using expanded.trans inside

theorem Turn.settle_calls :
    ∀ (turn : Turn Unit Unit) {settled : Turn Bool Answer} {session after : Session σ},
      Act.from_ session (turn.settle world) = (.ok settled, after) →
        session.Calls world (commandsOf turn.yield) turn.questions after
  | .absent, _, session, _, succeeded => by
      cases succeeded
      exact session.calls_nothing world
  | .present _ body, _, _, _, succeeded => by
      rw [Turn.settle, Act.from_bind_eq_ok] at succeeded
      obtain ⟨_, _, bodySettled, last⟩ := succeeded
      cases last
      exact Outline.settle_calls body bodySettled

theorem Choices.settle_calls :
    ∀ (choices : Choices Unit Unit) {settled : Choices Bool Answer} {session after : Session σ},
      Act.from_ session (choices.settle world) = (.ok settled, after) →
        session.Calls world (commandsOf choices.yield) choices.questions after
  | .nil, _, session, _, succeeded => by
      cases succeeded
      exact session.calls_nothing world
  | .option _ _ body rest, _, _, _, succeeded => by
      simp only [Choices.settle, Act.from_bind_eq_ok] at succeeded
      obtain ⟨_, _, bodySettled, _, _, restSettled, last⟩ := succeeded
      cases last
      have calls := (Outline.settle_calls body bodySettled).trans
        (Choices.settle_calls rest restSettled)
      simpa only [Choices.yield, Choices.questions, commandsOf_cons, commandsOf_append,
        Meaning.commands, List.nil_append] using calls

end

/-- A document that is evaluated called for what its outline calls for. -/
theorem calls_of_evaluate {marking : Marking} {lines : List Text} {output : List NumberedLine}
    (succeeded : Act.from_ session (evaluate world marking lines) = (.ok output, after))
    {outline : Plan} (reads : outline.Reads marking.mark (number lines)) :
    session.Calls world (commandsOf (parsed marking.mark (number lines))) outline.questions
      after := by
  rw [outline.evaluate_eq marking lines reads, Act.from_bind_eq_ok] at succeeded
  obtain ⟨settled, between, settles, last⟩ := succeeded
  cases last
  rw [← reads]
  exact outline.settle_calls settles

end Calls

/-- **The calls of a document.** Let a document be evaluated in two settings,
whose worlds, sessions and treatment of directive lines may differ. In both the
same commands are run, those in the arguments of its conditions and questions in
the order of the lines, and one query is resolved for each of its question
blocks, in the order of the lines that close them. -/
theorem evaluate_calls {world : World σ} {other : World τ} {mark : Text} {lines : List Text}
    {keep otherKeep : Bool} {session after : Session σ} {otherSession otherAfter : Session τ}
    {output otherOutput : List NumberedLine}
    (succeeded : Act.from_ session (evaluate world ⟨mark, keep⟩ lines) = (.ok output, after))
    (otherSucceeded : Act.from_ otherSession (evaluate other ⟨mark, otherKeep⟩ lines) =
      (.ok otherOutput, otherAfter)) :
    (∃ outline : Plan, outline.Reads mark (number lines)) ∧
      ∀ outline : Plan, outline.Reads mark (number lines) →
        outline.questions.map QuestionBlock.closing = closingLines (parsed mark (number lines)) ∧
        session.Calls world (commandsOf (parsed mark (number lines))) outline.questions after ∧
        otherSession.Calls other (commandsOf (parsed mark (number lines))) outline.questions
          otherAfter := by
  refine ⟨exists_outline_of_evaluate succeeded, fun outline reads => ⟨?_, ?_, ?_⟩⟩
  · rw [outline.closing_questions, reads]
  · exact calls_of_evaluate succeeded reads
  · exact calls_of_evaluate otherSucceeded reads

/-- A world in which every variable is set, commands print something and the
second option is always taken. -/
def World.contrary : World Unit where
  lookup _ := some ['1']
  run _ state := (.ok ['1'], state)
  ask _ state := (.ok (.choice 1), state)

/-- A question block inside a conditional block. -/
def probeLines : List Text :=
  ["#~ IFDEF $(probe)".toList, "#~ ASK Use $(which)?".toList, "#~ OPTION $(a)".toList,
    "$(x)".toList, "#~ OPTION b".toList, "#~ ENDASK".toList, "#~ ENDIF".toList]

/-- The commands in the argument of the condition and in that of the question are run, and
no others; the question is put at the closing line. -/
theorem probeLines_calls :
    ∃ output after otherOutput otherAfter,
      Act.from_ (Session.start ()) (evaluate .obliging ⟨"#~".toList, false⟩ probeLines) =
        (.ok output, after) ∧
      Act.from_ (Session.start ()) (evaluate .contrary ⟨"#~".toList, true⟩ probeLines) =
        (.ok otherOutput, otherAfter) ∧
      after.trace = [.ran "probe".toList, .ran "which".toList,
        .consulted ⟨"Use ?".toList, ["$(a)".toList, "b".toList]⟩,
        .asked ⟨"Use ?".toList, ["$(a)".toList, "b".toList]⟩] ∧
      otherAfter.trace = [.ran "probe".toList, .ran "which".toList,
        .consulted ⟨"Use 1?".toList, ["$(a)".toList, "b".toList]⟩,
        .asked ⟨"Use 1?".toList, ["$(a)".toList, "b".toList]⟩] ∧
      commandsOf (parsed "#~".toList (number probeLines)) = ["probe".toList, "which".toList] ∧
      closingLines (parsed "#~".toList (number probeLines)) = [⟨6, "#~ ENDASK".toList⟩] ∧
      (∃ outline : Plan, outline.Reads "#~".toList (number probeLines)) ∧
      ∀ outline : Plan, outline.Reads "#~".toList (number probeLines) →
        outline.questions.map QuestionBlock.closing =
          closingLines (parsed "#~".toList (number probeLines)) ∧
        (Session.start ()).Calls .obliging (commandsOf (parsed "#~".toList (number probeLines)))
          outline.questions after ∧
        (Session.start ()).Calls .contrary (commandsOf (parsed "#~".toList (number probeLines)))
          outline.questions otherAfter := by
  have first : Act.from_ (Session.start ())
      (evaluate .obliging ⟨"#~".toList, false⟩ probeLines) =
        (.ok [], ⟨(), ⟨[(⟨"Use ?".toList, ["$(a)".toList, "b".toList]⟩, .choice 0)]⟩,
          [.ran "probe".toList, .ran "which".toList,
            .consulted ⟨"Use ?".toList, ["$(a)".toList, "b".toList]⟩,
            .asked ⟨"Use ?".toList, ["$(a)".toList, "b".toList]⟩]⟩) := by cbv
  have second : Act.from_ (Session.start ())
      (evaluate .contrary ⟨"#~".toList, true⟩ probeLines) =
        (.ok ((number probeLines).filter fun line => line.number ≠ 4),
          ⟨(), ⟨[(⟨"Use 1?".toList, ["$(a)".toList, "b".toList]⟩, .choice 1)]⟩,
            [.ran "probe".toList, .ran "which".toList,
              .consulted ⟨"Use 1?".toList, ["$(a)".toList, "b".toList]⟩,
              .asked ⟨"Use 1?".toList, ["$(a)".toList, "b".toList]⟩]⟩) := by cbv
  refine ⟨_, _, _, _, first, second, rfl, rfl, ?_, ?_, evaluate_calls first second⟩
  · cbv
  · cbv

end Tailor
