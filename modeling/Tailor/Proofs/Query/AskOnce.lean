import Tailor.Document.Processing
import Tailor.Proofs.Block.Closings
import Tailor.Proofs.Query.Ledger

/-! # Asking once over several documents

Documents that are processed one after another share one session. Whether they
succeed or fail, their run keeps a ledger: a line that closes a question block
resolves the query of the block (`Tailor.Reading.step_closes`) and any other line,
like the replacement of spans, leaves queries alone (`Tailor.Reading.step_quiet`).
What is closed are question blocks of the documents, in the order of their closing
lines (`Tailor.Reading.closings_blocks`).
-/

namespace Tailor

variable {σ : Type}

/-- A document to be processed. -/
structure Job where
  treatment : Treatment
  substitution : Substitution
  text : Text

/-- The processed form of the document. -/
def Job.process (world : World σ) (job : Job) : Act σ Text :=
  Tailor.process world job.treatment job.substitution job.text

/-- Processes documents in order, each with what the others before it left. -/
def processAll (world : World σ) : List Job → Session σ → List (Except Fault Text) × Session σ
  | [], session => ([], session)
  | job :: jobs, session =>
      let first := Act.from_ session (job.process world)
      let others := processAll world jobs first.2
      (first.1 :: others.1, others.2)

/-- The query of the question block that a line closes, if it closes one. -/
def Reading.query? (marking : Marking) (reading : Reading) (line : NumberedLine) : Option Query :=
  match Directive.ofLine marking.mark line.text, reading.stack with
  | .ok (some .endAsk), .ask _ question offers _ :: _ => some ⟨question, offers.map Offer.label⟩
  | _, _ => none

/-- The ends of question blocks that are read, as far as lines are read. -/
def Reading.closings (world : World σ) (marking : Marking) (reading : Reading)
    (session : Session σ) : List NumberedLine → List (Closing σ)
  | [] => []
  | line :: lines =>
      let stepped := Act.from_ session (reading.step world marking line)
      let closed := (reading.query? marking line).toList.map fun query =>
        ⟨query, session, stepped.2⟩
      match stepped with
      | (.ok next, after) => closed ++ next.closings world marking after lines
      | (.error _, _) => closed

/-- The ends of question blocks that are read while a document is processed. -/
def Job.closings (world : World σ) (job : Job) (session : Session σ) : List (Closing σ) :=
  match job.treatment.mark? with
  | some (c :: mark) =>
      Reading.start.closings world ⟨c :: mark, !job.treatment.removeDirectives⟩ session
        (number (Text.lines job.text))
  | _ => []

/-- The ends of question blocks that are read while documents are processed in
order. -/
def closingsAll (world : World σ) : List Job → Session σ → List (Closing σ)
  | [], _ => []
  | job :: jobs, session =>
      job.closings world session ++
        closingsAll world jobs (Act.from_ session (job.process world)).2

/-- The lines of the document as they are read, if it marks its directives. -/
def Job.parts (job : Job) : List (NumberedLine × Meaning) :=
  match job.treatment.mark? with
  | some (c :: mark) => parsed (c :: mark) (number (Text.lines job.text))
  | _ => []

/-- What is closed are question blocks that stand in a row of lines, each with a query that
it puts. They are closed in the order of these closing lines, and if reading is finished
at all of them. -/
structure Closes (world : World σ) (parts : List (NumberedLine × Meaning))
    (lines : List NumberedLine) (finished : Prop) (blocks : List QuestionBlock)
    (closings : List (Closing σ)) : Prop where
  standing : ∀ block ∈ blocks, block.StandsIn parts
  puts : List.Forall₂ (fun block closing => block.Puts world closing.query) blocks closings
  ordered : blocks.map QuestionBlock.closing <+: lines
  all : finished → blocks.map QuestionBlock.closing = lines

/-- What is closed while documents are processed in order, document by document: question
blocks of that document, and all of them if its directives are evaluated. -/
inductive ClosesAll (world : World σ) : List Job → Session σ → List (Closing σ) → Prop where
  | nil (session : Session σ) : ClosesAll world [] session []
  | cons {job : Job} {jobs : List Job} {session : Session σ} {blocks : List QuestionBlock}
      {closings others : List (Closing σ)}
      (closes : Closes world job.parts (closingLines job.parts)
        (∃ surviving after, Act.from_ session (survivors world job.treatment job.text) =
          (.ok surviving, after)) blocks closings)
      (further : ClosesAll world jobs (Act.from_ session (job.process world)).2 others) :
      ClosesAll world (job :: jobs) session (closings ++ others)

namespace Closes

variable {world : World σ} {parts : List (NumberedLine × Meaning)}
  {lines moreLines : List NumberedLine} {finished other : Prop}
  {blocks moreBlocks : List QuestionBlock} {closings moreClosings : List (Closing σ)}

/-- Reading goes on behind lines that are finished. -/
theorem append (first : Closes world parts lines finished blocks closings) (done : finished)
    (second : Closes world parts moreLines other moreBlocks moreClosings) :
    Closes world parts (lines ++ moreLines) other (blocks ++ moreBlocks)
      (closings ++ moreClosings) where
  standing block listed := (List.mem_append.mp listed).elim (first.standing block)
    (second.standing block)
  puts := List.rel_append first.puts second.puts
  ordered := by
    rw [List.map_append, first.all done]
    exact (List.prefix_append_right_inj lines).mpr second.ordered
  all last := by rw [List.map_append, first.all done, second.all last]

/-- Reading stops before it is finished. -/
theorem stop (first : Closes world parts lines finished blocks closings)
    (moreLines : List NumberedLine) (stopped : ¬ other) :
    Closes world parts (lines ++ moreLines) other blocks closings where
  standing := first.standing
  puts := first.puts
  ordered := first.ordered.trans (List.prefix_append lines moreLines)
  all last := absurd last stopped

end Closes

namespace Act

variable {α β : Type}

theorem from_atLine_snd (session : Session σ) (line : Nat) (action : Act σ α) :
    (from_ session (atLine line action)).2 = (from_ session action).2 := by
  rw [from_atLine]
  rcases from_ session action with ⟨outcome, after⟩
  cases outcome with
  | ok value => rfl
  | error fault => rfl

/-- What leaves every session as it is may follow unseen. -/
theorem from_bind_snd {next : α → Act σ β} (unseen : ∀ value, Relates Eq (next value))
    (session : Session σ) (action : Act σ α) :
    (from_ session (action >>= next)).2 = (from_ session action).2 := by
  rw [from_bind]
  rcases from_ session action with ⟨outcome, after⟩
  cases outcome with
  | ok value => exact (unseen value after).symm
  | error fault => rfl

end Act

namespace Reading

variable {world : World σ} {marking : Marking}

/-- Settling a query leaves the session that resolving it leaves. -/
theorem from_settleQuery_snd (query : Query) (session : Session σ) :
    (Act.from_ session (settleQuery world query)).2 =
      (Act.from_ session (Act.resolve world query)).2 := by
  refine Act.from_bind_snd (fun answer => ?_) session _
  split
  · exact Act.relates_pure _
  · exact Act.relates_throw _

/-- The line closes the block on top of the stack, which has the question and the labels. -/
theorem of_query? {reading : Reading} {line : NumberedLine} {query : Query}
    (closes : reading.query? marking line = some query) :
    Directive.ofLine marking.mark line.text = .ok (some .endAsk) ∧
      ∃ opened offers held outer,
        reading.stack = .ask opened query.question offers held :: outer ∧
          query.options = offers.map Offer.label := by
  unfold query? at closes
  split at closes
  · rename_i opened question offers held outer means top
    cases closes
    exact ⟨means, opened, offers, held, outer, top, rfl⟩
  · cases closes

/-- Closing a question block resolves its query. -/
theorem step_closes {reading : Reading} {line : NumberedLine} {query : Query}
    (closes : reading.query? marking line = some query) (session : Session σ) :
    (Act.from_ session (reading.step world marking line)).2 =
      (Act.from_ session (Act.resolve world query)).2 := by
  obtain ⟨means, opened, offers, held, outer, top, labels⟩ := of_query? closes
  obtain ⟨stack, output⟩ := reading
  obtain ⟨question, options⟩ := query
  cases top
  cases labels
  change (Act.from_ session (((Reading.mk outer output).push
    (.ask opened question offers held)).step world marking line)).2 = _
  rw [step_endAsk means, Act.from_bind_snd (fun _ => Act.relates_pure _), Act.from_atLine_snd,
    from_settleQuery_snd]

/-- Any other line leaves queries alone. -/
theorem step_quiet {reading : Reading} {line : NumberedLine}
    (closes : reading.query? marking line = none) :
    Act.Relates Session.Quiet (reading.step world marking line) := by
  cases refused : refusal? reading.openBlocks.head? (Directive.ofLine marking.mark line.text) with
  | some category =>
      obtain ⟨problem, _, fails⟩ := step_refused world refused
      rw [fails]
      exact Act.relates_throw _
  | none =>
      obtain ⟨α, action, next, request, reads, _⟩ := exists_request world refused
      rw [reads]
      refine Act.Relates.bind ?_ fun reply => Act.relates_pure _
      cases request with
      | nothing => exact Act.relates_pure _
      | verdict asked => exact (Expression.verdict_quiet world asked).atLine line.number
      | question argument => exact (Expression.expand_quiet world argument).atLine line.number
      | answer opened question offers held outer means inside =>
          unfold query? at closes
          rw [means, inside] at closes
          cases closes

/-- A line that closes a question block does so in a block that stands in the document. -/
theorem exists_block {before : List NumberedLine} {line : NumberedLine} {reading : Reading}
    {query : Query} {first session : Session σ}
    (read : Act.from_ first (start.steps world marking before) = (.ok reading, session))
    (closes : reading.query? marking line = some query) (behind : List NumberedLine) :
    ∃ block : QuestionBlock, block.closing = line ∧ block.Puts world query ∧
      block.StandsIn (parsed marking.mark (before ++ line :: behind)) := by
  obtain ⟨means, opened, offers, held, outer, top, labels⟩ := of_query? closes
  obtain ⟨stack, output⟩ := reading
  cases top
  obtain ⟨earlier, opening, argument, body, choices, cut, _, same, expanded⟩ :=
    exists_opening read
  refine ⟨⟨argument, choices.labels, line⟩, rfl, ⟨expanded, labels.trans same.symm⟩, ?_⟩
  refine ⟨earlier, opening, body, choices, parsed marking.mark behind, ?_, rfl⟩
  rw [parsed_append, cut, List.append_assoc, List.cons_append, List.append_assoc, ← means]
  rfl

/-- A line that is read and closes no question block is no closing line of one. -/
theorem closesAsk_of_step {reading next : Reading} {line : NumberedLine}
    {session after : Session σ} (closes : reading.query? marking line = none)
    (stepped : Act.from_ session (reading.step world marking line) = (.ok next, after)) :
    Meaning.closesAsk (Directive.ofLine marking.mark line.text) = false := by
  have follows := step_follows stepped
  obtain ⟨stack, output⟩ := reading
  unfold query? at closes
  match means : Directive.ofLine marking.mark line.text, stack with
  | .ok (some .endAsk), [] | .ok (some .endAsk), .condition _ _ _ _ :: _ =>
      rw [means] at follows
      cases follows
  | .ok (some .endAsk), .ask _ _ _ _ :: _ =>
      rw [means] at closes
      cases closes
  | .error _, _ | .ok none, _ | .ok (some .comment), _ | .ok (some (.condition _)), _
  | .ok (some (.ask _)), _ | .ok (some .otherwise), _ | .ok (some .endCondition), _
  | .ok (some (.option _)), _ => rfl

/-- The lines up to one that is read. -/
theorem from_steps_single {before : List NumberedLine} {line : NumberedLine}
    {reading next : Reading} {first session after : Session σ}
    (read : Act.from_ first (start.steps world marking before) = (.ok reading, session))
    (stepped : Act.from_ session (reading.step world marking line) = (.ok next, after)) :
    Act.from_ first (start.steps world marking (before ++ [line])) = (.ok next, after) := by
  rw [steps_append, Act.from_bind_of_ok read, steps_cons, Act.from_bind_of_ok stepped]
  rfl

/-- A line closes the question block that it is the closing line of, or none. -/
theorem step_blocks {before : List NumberedLine} {reading : Reading} {first session : Session σ}
    (read : Act.from_ first (start.steps world marking before) = (.ok reading, session))
    (line : NumberedLine) (behind : List NumberedLine) :
    ∃ blocks, Closes world (parsed marking.mark (before ++ line :: behind))
      (closingLines (parsed marking.mark [line]))
      (∃ next after, Act.from_ session (reading.step world marking line) = (.ok next, after))
      blocks
      ((reading.query? marking line).toList.map fun query =>
        ⟨query, session, (Act.from_ session (reading.step world marking line)).2⟩) := by
  cases closes : reading.query? marking line with
  | none =>
      refine ⟨[], by simp, .nil, List.nil_prefix, fun ⟨next, after, stepped⟩ => ?_⟩
      have other := closesAsk_of_step closes stepped
      simp [closingLines, parsed, other]
  | some query =>
      obtain ⟨block, closing, puts, stands⟩ := exists_block read closes behind
      have closingLine : closingLines (parsed marking.mark [line]) = [line] := by
        simp [closingLines, parsed, (of_query? closes).1, Meaning.closesAsk]
      rw [closingLine]
      refine ⟨[block], by simpa using stands, .cons puts .nil, ?_, fun _ => ?_⟩
      · rw [List.map_singleton, closing]
      · rw [List.map_singleton, closing]

/-- What is closed while lines are read are question blocks of the document. -/
theorem closings_blocks {before lines : List NumberedLine} {reading : Reading}
    {first session : Session σ}
    (read : Act.from_ first (start.steps world marking before) = (.ok reading, session)) :
    ∃ blocks, Closes world (parsed marking.mark (before ++ lines))
      (closingLines (parsed marking.mark lines))
      (∃ last after, Act.from_ session (reading.steps world marking lines) = (.ok last, after))
      blocks (reading.closings world marking session lines) := by
  induction lines generalizing before reading session with
  | nil => exact ⟨[], by simp, .nil, List.prefix_rfl, fun _ => rfl⟩
  | cons line lines ih =>
      obtain ⟨blocks, closed⟩ := step_blocks read line lines
      have split : closingLines (parsed marking.mark (line :: lines)) =
          closingLines (parsed marking.mark [line]) ++
            closingLines (parsed marking.mark lines) := by
        rw [← closingLines_append, ← parsed_append, List.singleton_append]
      rw [closings, split, steps_cons]
      cases stepped : Act.from_ session (reading.step world marking line) with
      | mk outcome after =>
      rw [stepped] at closed
      cases outcome with
      | error fault =>
          refine ⟨blocks, closed.stop _ fun ⟨last, left, read⟩ => ?_⟩
          rw [Act.from_bind_of_error stepped] at read
          cases read
      | ok next =>
          obtain ⟨others, further⟩ := ih (from_steps_single read stepped)
          rw [List.append_assoc, List.singleton_append] at further
          refine ⟨blocks ++ others, ?_⟩
          rw [Act.from_bind_of_ok stepped]
          exact closed.append ⟨next, after, rfl⟩ further

variable (world marking)

/-- Reading a line keeps a ledger. -/
theorem step_ledger (reading : Reading) (line : NumberedLine) (session : Session σ) :
    Ledger world session
      ((reading.query? marking line).toList.map fun query =>
        ⟨query, session, (Act.from_ session (reading.step world marking line)).2⟩)
      (Act.from_ session (reading.step world marking line)).2 := by
  cases closes : reading.query? marking line with
  | none => exact .quiet (step_quiet closes session)
  | some query =>
      exact .closing (refl_of Session.Quiet session) (step_closes closes session)
        (.quiet (refl_of Session.Quiet _))

/-- Reading lines keeps a ledger. -/
theorem ledger (reading : Reading) (lines : List NumberedLine) (session : Session σ) :
    Ledger world session (reading.closings world marking session lines)
      (Act.from_ session (reading.steps world marking lines)).2 := by
  induction lines generalizing reading session with
  | nil => exact .quiet (refl_of Session.Quiet session)
  | cons line lines ih =>
      have first := step_ledger world marking reading line session
      rw [steps, Act.from_bind, closings]
      generalize Act.from_ session (reading.step world marking line) = stepped at first ⊢
      obtain ⟨outcome, after⟩ := stepped
      cases outcome with
      | ok next => exact first.append (ih next after)
      | error fault => exact first

end Reading

section Substitution

variable (world : World σ) (substitution : Substitution)

namespace Substitution

theorem piece_quiet (piece : Piece) :
    Act.Relates Session.Quiet (substitution.piece world piece) := by
  cases piece with
  | literal c => exact Act.relates_pure _
  | span key =>
      change Act.Relates Session.Quiet (substitution.replacement world key)
      unfold replacement
      split
      · exact Act.relates_pure _
      · split
        · exact Act.relates_throw _
        · exact Expression.expand_quiet world key

theorem pieces_quiet (pieces : List Piece) :
    Act.Relates Session.Quiet (substitution.pieces world pieces) := by
  induction pieces with
  | nil => exact Act.relates_pure _
  | cons first rest ih =>
      exact (piece_quiet world substitution first).bind fun text =>
        ih.bind fun others => Act.relates_pure _

theorem line_quiet (escape? : Option Escape) (line : Text) :
    Act.Relates Session.Quiet (substitution.line world escape? line) := by
  cases escape? with
  | none => exact Act.relates_pure _
  | some escape => exact pieces_quiet world substitution (escape.pieces line)

theorem numbered_quiet (escape? : Option Escape) (lines : List NumberedLine) :
    Act.Relates Session.Quiet (substitution.numbered world escape? lines) := by
  induction lines with
  | nil => exact Act.relates_pure _
  | cons first rest ih =>
      exact ((line_quiet world substitution escape? first.text).atLine first.number).bind
        fun text => ih.bind fun others => Act.relates_pure _

end Substitution

theorem substituted_quiet (treatment : Treatment) (lines : List NumberedLine) :
    Act.Relates Session.Quiet (substituted world treatment substitution lines) := by
  unfold substituted
  split
  · exact (Act.note_quiet _ _ _).bind fun _ =>
      Substitution.numbered_quiet world substitution treatment.escape? lines
  · exact Substitution.numbered_quiet world substitution treatment.escape? lines

end Substitution

section Run

variable (world : World σ)

/-- Ending a document leaves the session as it is. -/
theorem Reading.finish_unseen (reading : Reading) :
    Act.Relates Eq (reading.finish : Act σ (List NumberedLine)) := by
  unfold finish
  split
  · exact Act.relates_pure _
  · exact Act.relates_throw _

/-- What leaves queries alone adds nothing to a ledger. -/
theorem Ledger.bind_quiet {α β : Type} {session : Session σ} {closings : List (Closing σ)}
    {action : Act σ α} {next : α → Act σ β}
    (ledger : Ledger world session closings (Act.from_ session action).2)
    (quiet : ∀ value, Act.Relates Session.Quiet (next value)) :
    Ledger world session closings (Act.from_ session (action >>= next)).2 := by
  rw [Act.from_bind]
  generalize Act.from_ session action = result at ledger ⊢
  obtain ⟨outcome, after⟩ := result
  cases outcome with
  | ok value =>
      have whole := ledger.append (.quiet (quiet value after))
      rw [List.append_nil] at whole
      exact whole
  | error fault => exact ledger

theorem Job.survivors_ledger (job : Job) (session : Session σ) :
    Ledger world session (job.closings world session)
      (Act.from_ session (survivors world job.treatment job.text)).2 := by
  unfold Job.closings survivors
  cases job.treatment.mark? with
  | none => exact .quiet (refl_of Session.Quiet session)
  | some mark =>
      cases mark with
      | nil => exact .quiet (refl_of Session.Quiet session)
      | cons c mark =>
          simp only [evaluate]
          rw [Act.from_bind_snd fun reading => Reading.finish_unseen reading]
          exact Reading.start.ledger world _ _ session

/-- Processing a document keeps a ledger, however it ends. -/
theorem Job.ledger (job : Job) (session : Session σ) :
    Ledger world session (job.closings world session)
      (Act.from_ session (job.process world)).2 := by
  refine (job.survivors_ledger world session).bind_quiet world fun surviving => ?_
  exact (substituted_quiet world job.substitution job.treatment surviving).bind fun lines =>
    Act.relates_pure _

/-- Processing documents keeps a ledger. -/
theorem processAll_ledger (jobs : List Job) (session : Session σ) :
    Ledger world session (closingsAll world jobs session) (processAll world jobs session).2 := by
  induction jobs generalizing session with
  | nil => exact .quiet (refl_of Session.Quiet session)
  | cons job jobs ih => exact (job.ledger world session).append (ih _)

/-- The question blocks that are closed while a document is processed, however it ends. -/
theorem Job.exists_closes (job : Job) (session : Session σ) :
    ∃ blocks, Closes world job.parts (closingLines job.parts)
      (∃ surviving after, Act.from_ session (survivors world job.treatment job.text) =
        (.ok surviving, after)) blocks (job.closings world session) := by
  unfold Job.parts Job.closings survivors
  cases job.treatment.mark? with
  | none => exact ⟨[], by simp, .nil, List.nil_prefix, fun _ => rfl⟩
  | some mark =>
      cases mark with
      | nil => exact ⟨[], by simp, .nil, List.nil_prefix, fun _ => rfl⟩
      | cons c mark =>
          have started : Act.from_ session (Reading.start.steps world
              ⟨c :: mark, !job.treatment.removeDirectives⟩ []) = (.ok .start, session) := rfl
          obtain ⟨blocks, closes⟩ := Reading.closings_blocks started
          refine ⟨blocks, closes.standing, closes.puts, closes.ordered, ?_⟩
          rintro ⟨surviving, after, succeeded⟩
          simp only [evaluate, Act.from_bind_eq_ok] at succeeded
          obtain ⟨last, between, read, _⟩ := succeeded
          exact closes.all ⟨last, between, read⟩

theorem processAll_closes (jobs : List Job) (session : Session σ) :
    ClosesAll world jobs session (closingsAll world jobs session) := by
  induction jobs generalizing session with
  | nil => exact .nil session
  | cons job jobs ih =>
      obtain ⟨blocks, closes⟩ := job.exists_closes world session
      exact .cons closes (ih _)

/-- **Asking once.** However documents end that are processed one after another,
a query is put to somebody until it is answered, and has that answer from then
on, in whatever document it stands. The queries are those of the question blocks
of the documents, in the order of their closing lines. -/
theorem processAll_askedOnce (jobs : List Job) (session : Session σ) :
    AskedOnce world session (closingsAll world jobs session)
        (processAll world jobs session).2 ∧
      ClosesAll world jobs session (closingsAll world jobs session) :=
  ⟨(processAll_ledger world jobs session).askedOnce, processAll_closes world jobs session⟩

end Run

/-- A world without commands, where answers are given as long as there are some. -/
def World.answering : World (List Answer) where
  lookup _ := none
  run _ state := (.ok [], state)
  ask _ := fun
    | [] => (.error (.problem (.query .inputEnded) none), [])
    | answer :: answers => (.ok answer, answers)

/-- The second document has a question of the first one again and then one that nobody
answers, and the third document has the other question of the first one. -/
def inquiryJobs : List Job :=
  ["#~ ASK A?\n#~ OPTION a\n#~ ASK B?\nw\n#~ ENDASK\n#~ OPTION b\n#~ ENDASK\n",
    "#~ ASK B?\ny\n#~ ENDASK\n#~ ASK C?\n#~ ENDASK\n",
    "#~ ASK A?\n#~ OPTION a\nz\n#~ OPTION b\n#~ ENDASK\n"].map
      fun text => ⟨⟨some "#~".toList, none, true⟩, ⟨[], false⟩, text.toList⟩

/-- One of the two answers is yes, the other one selects the first option. -/
def inquirySession : Session (List Answer) := .start [.yesNo true, .choice 0]

/-- The session behind these documents. -/
def inquiryEnd : Session (List Answer) := (processAll .answering inquiryJobs inquirySession).2

theorem inquiryJobs_askedOnce :
    (processAll .answering inquiryJobs inquirySession).1 =
        [.ok "w\n".toList, .error (.problem (.query .inputEnded) (some 5)), .ok "z\n".toList] ∧
      inquiryEnd.consulted.map Query.question =
        ["B?".toList, "A?".toList, "B?".toList, "C?".toList, "A?".toList] ∧
      inquiryEnd.asked.map Query.question = ["B?".toList, "A?".toList, "C?".toList] ∧
      inquiryEnd.cache.entries =
        [(⟨"B?".toList, []⟩, .yesNo true), (⟨"A?".toList, ["a".toList, "b".toList]⟩, .choice 0)] ∧
      AskedOnce .answering inquirySession (closingsAll .answering inquiryJobs inquirySession)
        inquiryEnd ∧
      ClosesAll .answering inquiryJobs inquirySession
        (closingsAll .answering inquiryJobs inquirySession) := by
  refine ⟨?_, ?_, ?_, ?_, processAll_askedOnce .answering inquiryJobs inquirySession⟩
  · cbv
  · cbv
  · cbv
  · cbv

end Tailor
