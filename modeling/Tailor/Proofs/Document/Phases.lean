import Tailor.Document.Processing
import Tailor.Proofs.Block.Calls
import Tailor.Proofs.Session.Faults

/-! # Where processing a document stops

Processing comes to a problem in one of two phases, under a line of the document
(`Tailor.process_eq_problem_iff`). Its directives stop it at the line that is being read,
or at the end, under the opening line of the innermost block that the document leaves open
(`Tailor.Reading.Stops`); what was run until then are commands of directives. Its spans
stop it at the first surviving line that cannot be replaced (`Tailor.Substitution.Stops`),
and then all directives of the document were evaluated.
-/

namespace Tailor

variable {σ α : Type} {world : World σ}

/-- If the fault is a problem, it has no line yet. -/
def Fault.Unnumbered (fault : Fault) : Prop :=
  ∀ what line?, fault = .problem what line? → line? = none

theorem Fault.unnumbered_problem (what : Problem) : (Fault.problem what none).Unnumbered := by
  intro _ _ same
  cases same
  rfl

/-- Neither commands nor whoever is asked put lines on their problems. -/
structure World.Unnumbered (world : World σ) : Prop where
  commands : ∀ command state fault, (world.run command state).1 = .error fault → fault.Unnumbered
  queries : ∀ query state fault, (world.ask query state).1 = .error fault → fault.Unnumbered

theorem World.Unnumbered.admissible (unnumbered : world.Unnumbered) :
    Admissible world Fault.Unnumbered where
  command := unnumbered.commands
  reference flaw := Fault.unnumbered_problem (.reference flaw)
  key key := Fault.unnumbered_problem (.unknownKey key)

/-- What fails without a line fails under the line that is put on it. -/
theorem Act.from_atLine_eq_problem {action : Act σ α} (fails : FailsWith Fault.Unnumbered action)
    {session after : Session σ} {line : Nat} {what : Problem} {line? : Option Nat} :
    from_ session (atLine line action) = (.error (.problem what line?), after) ↔
      line? = some line ∧ from_ session action = (.error (.problem what none), after) := by
  rw [from_atLine_eq_error]
  constructor
  · rintro ⟨found, failed, same⟩
    have unnumbered := fails session found after failed
    cases found with
    | crash how => cases same
    | problem first known =>
        obtain rfl : known = none := unnumbered first known rfl
        cases same
        exact ⟨rfl, failed⟩
  · rintro ⟨rfl, failed⟩
    exact ⟨_, failed, rfl⟩

/-! ## Lines and their numbers -/

/-- A numbered line of a document stands there under its number. -/
theorem bounds_of_mem_number {lines : List Text} {line : NumberedLine}
    (member : line ∈ number lines) : 1 ≤ line.number ∧ line.number ≤ lines.length := by
  obtain ⟨⟨text, place⟩, listed, rfl⟩ := List.mem_map.mp member
  have first := List.le_snd_of_mem_zipIdx listed
  have last := List.snd_lt_of_mem_zipIdx listed
  dsimp only at first last ⊢
  omega

/-! ## Directives -/

/-- A block that lines leave open is opened by one of them. -/
theorem LeavesOpen.exists_line {parts : List (NumberedLine × Meaning)} {opened : OpenBlock}
    {outer : List OpenBlock} (leaves : LeavesOpen parts (opened :: outer)) :
    ∃ part ∈ parts, part.1.number = opened.line := by
  cases leaves with
  | condition leaves opening | turned leaves opening | ask leaves opening
  | option leaves opening =>
      exact ⟨(opening, _), List.mem_append_right _ List.mem_cons_self, rfl⟩

theorem Block.line_toOpen (block : Block) : block.toOpen.line = block.openedAt := by
  cases block <;> rfl

namespace Reading

variable {marking : Marking} {session after : Session σ}

/-- A line that is not read fails under its number. -/
theorem step_line {reading : Reading} {line : NumberedLine} {what : Problem} {line? : Option Nat}
    (unnumbered : world.Unnumbered)
    (failed : Act.from_ session (reading.step world marking line) =
      (.error (.problem what line?), after)) : line? = some line.number := by
  cases refused : refusal? reading.openBlocks.head? (Directive.ofLine marking.mark line.text) with
  | some category =>
      obtain ⟨problem, _, fails⟩ := step_refused world refused
      rw [fails] at failed
      cases failed
      rfl
  | none =>
      obtain ⟨_, request, next, requested, reads, _⟩ := exists_request world refused
      rw [reads, Act.from_bind_pure_eq_error] at failed
      cases requested with
      | nothing => cases failed
      | verdict asked =>
          have fails := Expression.verdict_failsWith unnumbered.admissible asked
          exact ((Act.from_atLine_eq_problem fails).mp failed).1
      | question argument =>
          have fails := Expression.expand_failsWith unnumbered.admissible argument
          exact ((Act.from_atLine_eq_problem fails).mp failed).1
      | answer opened question offers =>
          have fails := settleQuery_failsWith
            (unnumbered.queries ⟨question, offers.map Offer.label⟩)
            fun answer => Fault.unnumbered_problem _
          exact ((Act.from_atLine_eq_problem fails).mp failed).1

/-- Reading lines fails at the first line that is not read. -/
theorem steps_eq_error {reading : Reading} {lines : List NumberedLine} {fault : Fault} :
    Act.from_ session (reading.steps world marking lines) = (.error fault, after) ↔
      ∃ before line behind next between, lines = before ++ line :: behind ∧
        Act.from_ session (reading.steps world marking before) = (.ok next, between) ∧
          Act.from_ between (next.step world marking line) = (.error fault, after) := by
  constructor
  · intro failed
    induction lines generalizing reading session with
    | nil => cases failed
    | cons line lines ih =>
        rw [steps_cons, Act.from_bind_eq_error] at failed
        rcases failed with stopped | ⟨next, between, stepped, failed⟩
        · exact ⟨[], line, lines, reading, session, rfl, rfl, stopped⟩
        · obtain ⟨before, later, behind, last, left, rfl, read, stopped⟩ := ih failed
          refine ⟨line :: before, later, behind, last, left, rfl, ?_, stopped⟩
          rw [steps_cons, Act.from_bind_of_ok stepped, read]
  · rintro ⟨before, line, behind, next, between, rfl, read, stops⟩
    rw [steps_append, Act.from_bind_of_ok read, steps_cons, Act.from_bind_of_error stops]

/-- The directives of a document come to a problem: a line is not read, which is the line
of the problem, or the document leaves blocks open, and the line that opened the innermost
one is that of the problem. -/
inductive Stops (world : World σ) (marking : Marking) (lines : List Text) (session : Session σ) :
    Problem → Nat → Session σ → Prop where
  | line {before behind : List NumberedLine} {line : NumberedLine} {reading : Reading}
      {between after : Session σ} {what : Problem}
      (split : number lines = before ++ line :: behind)
      (read : Act.from_ session (start.steps world marking before) = (.ok reading, between))
      (failed : Act.from_ between (reading.step world marking line) =
        (.error (.problem what (some line.number)), after)) :
      Stops world marking lines session what line.number after
  | unclosed {innermost : Block} {outer : List Block} {output : List NumberedLine}
      {opened : OpenBlock} {others : List OpenBlock} {after : Session σ}
      (read : Act.from_ session (start.steps world marking (number lines)) =
        (.ok ⟨innermost :: outer, output⟩, after))
      (leaves : LeavesOpen (parsed marking.mark (number lines)) (opened :: others)) :
      Stops world marking lines session
        (.nesting (.unterminated innermost.keyword
          ((opened :: others).map OpenBlock.line).reverse)) opened.line after

/-- The blocks on the stack of a reading are those that the lines leave open. -/
theorem openBlocks_of_leaves {lines : List NumberedLine} {reading : Reading}
    {blocks : List OpenBlock}
    (read : Act.from_ session (start.steps world marking lines) = (.ok reading, after))
    (leaves : LeavesOpen (parsed marking.mark lines) blocks) : reading.openBlocks = blocks := by
  have followed : openBehind? [] (parsed marking.mark lines) = some reading.openBlocks :=
    steps_follow read
  rw [openBehind?_eq_some_iff.mpr leaves] at followed
  exact (Option.some.inj followed).symm

/-- A document that ends inside of blocks names their opening lines. -/
theorem finish_unclosed (innermost : Block) (outer : List Block) (output : List NumberedLine) :
    (Reading.mk (innermost :: outer) output).finish = (throw (.problem
      (.nesting (.unterminated innermost.keyword
        ((innermost.toOpen :: outer.map Block.toOpen).map OpenBlock.line).reverse))
      (some innermost.toOpen.line)) : Act σ (List NumberedLine)) := by
  have lines : (innermost.toOpen :: outer.map Block.toOpen).map OpenBlock.line =
      (innermost :: outer).map Block.openedAt := by
    rw [← List.map_cons, List.map_map]
    exact List.map_congr_left fun block _ => block.line_toOpen
  rw [lines, innermost.line_toOpen]
  rfl

theorem evaluate_eq_problem_iff (unnumbered : world.Unnumbered) {lines : List Text}
    {what : Problem} {line? : Option Nat} :
    Act.from_ session (evaluate world marking lines) = (.error (.problem what line?), after) ↔
      ∃ number, line? = some number ∧ Stops world marking lines session what number after := by
  constructor
  · intro failed
    rw [evaluate, Act.from_bind_eq_error] at failed
    rcases failed with failed | ⟨reading, between, read, failed⟩
    · obtain ⟨before, line, behind, next, left, split, read, stopped⟩ := steps_eq_error.mp failed
      obtain rfl := step_line unnumbered stopped
      exact ⟨line.number, rfl, .line split read stopped⟩
    · obtain ⟨_ | ⟨innermost, outer⟩, output⟩ := reading
      · cases failed
      · have leaves := openBehind?_eq_some_iff.mp (steps_follow read)
        rw [finish_unclosed] at failed
        cases failed
        exact ⟨innermost.toOpen.line, rfl, .unclosed read leaves⟩
  · rintro ⟨number, rfl, stops⟩
    cases stops with
    | line split read failed =>
        have stopped := steps_eq_error.mpr ⟨_, _, _, _, _, split, read, failed⟩
        rw [evaluate, Act.from_bind_of_error stopped]
    | @unclosed innermost outer _ _ _ _ read leaves =>
        have blocks : innermost.toOpen :: outer.map Block.toOpen = _ :=
          openBlocks_of_leaves read leaves
        rw [evaluate, Act.from_bind_of_ok read, finish_unclosed, blocks]
        cases blocks
        rfl

/-- A problem of the directives has the number of a line. -/
theorem Stops.bounds {lines : List Text} {what : Problem} {number : Nat}
    (stops : Stops world marking lines session what number after) :
    1 ≤ number ∧ number ≤ lines.length := by
  cases stops with
  | line split =>
      apply bounds_of_mem_number
      rw [split]
      exact List.mem_append_right _ List.mem_cons_self
  | unclosed _ leaves =>
      obtain ⟨part, member, opens⟩ := leaves.exists_line
      obtain ⟨line, listed, rfl⟩ := List.mem_map.mp member
      rw [← opens]
      exact bounds_of_mem_number listed

section Runs

open Act

variable (world) (marking)

theorem keptBy_runs (answer : Answer) (offers : List Offer) :
    Runs [] (keptBy answer offers : Act σ (Slot → Bool)) := by
  rw [keptBy_eq]
  split
  · exact runs_pure _
  · exact runs_throw [] _

theorem directive_runs (keep : Bool) (line : NumberedLine) (reading : Reading)
    (read : Directive) :
    Runs (Meaning.commands (.ok (some read))) (reading.directive world keep line read) := by
  obtain ⟨stack, output⟩ := reading
  match read, stack with
  | .comment, _ => exact runs_pure _
  | .condition asked, _ => exact (Expression.verdict_runs world asked).bind_pure _
  | .ask argument, _ => exact (Expression.expand_runs world argument).bind_pure _
  | .otherwise, .condition _ _ _ false :: _ => exact runs_pure _
  | .endCondition, .condition _ _ _ _ :: _ => exact runs_pure _
  | .option _, .ask _ _ _ _ :: _ => exact runs_pure _
  | .endAsk, .ask _ question offers _ :: _ =>
      exact (resolve_runs world ⟨question, offers.map Offer.label⟩).bind fun answer =>
        (keptBy_runs answer offers).bind_pure _
  | .otherwise, [] | .otherwise, .ask _ _ _ _ :: _ | .otherwise, .condition _ _ _ true :: _
  | .endCondition, [] | .endCondition, .ask _ _ _ _ :: _ | .option _, []
  | .option _, .condition _ _ _ _ :: _ | .endAsk, [] | .endAsk, .condition _ _ _ _ :: _ =>
      exact runs_throw [] _

theorem step_runs (reading : Reading) (line : NumberedLine) :
    Runs (Meaning.commands (Directive.ofLine marking.mark line.text))
      (reading.step world marking line) := by
  unfold step
  match Directive.ofLine marking.mark line.text with
  | .error malformation => exact (runs_throw [] _).atLine line.number
  | .ok none => exact (runs_pure _).atLine line.number
  | .ok (some read) =>
      exact (directive_runs world marking.keepDirectives line reading read).atLine line.number

theorem steps_runs (reading : Reading) (lines : List NumberedLine) :
    Runs (commandsOf (parsed marking.mark lines)) (reading.steps world marking lines) := by
  induction lines generalizing reading with
  | nil => exact runs_pure reading
  | cons line lines ih => exact (step_runs world marking reading line).bind ih

/-- Until its directives stop a document, commands of its directives are run, in the order
of the lines, and no others. -/
theorem Stops.commands {lines : List Text} {what : Problem} {number : Nat}
    (stops : Stops world marking lines session what number after) :
    ∃ ran, ran <+: commandsOf (parsed marking.mark (Tailor.number lines)) ∧
      after.commands = session.commands ++ ran := by
  have runs := steps_runs world marking start (Tailor.number lines)
  cases stops with
  | line split read failed =>
      exact runs.first (steps_eq_error.mpr ⟨_, _, _, _, _, split, read, failed⟩)
  | unclosed read => exact ⟨_, List.prefix_rfl, runs.all read⟩

end Runs

end Reading

/-- The lines that survive are lines of the document, in its order. -/
theorem survivors_sublist {treatment : Treatment} {text : Text} {session after : Session σ}
    {surviving : List NumberedLine}
    (succeeded : Act.from_ session (survivors world treatment text) = (.ok surviving, after)) :
    surviving.Sublist (number (Text.lines text)) := by
  unfold survivors at succeeded
  split at succeeded
  · rename_i c mark _
    obtain ⟨outline, reads⟩ := exists_outline_of_evaluate succeeded
    rw [outline.evaluate_eq _ _ reads, Act.from_bind_eq_ok] at succeeded
    obtain ⟨settled, between, settles, last⟩ := succeeded
    cases last
    have readsSettled : settled.Reads (c :: mark) (number (Text.lines text)) := by
      rw [← outline.forget_settle settles] at reads
      exact settled.yield_forget.symm.trans reads
    rw [Outline.written_eq_filter readsSettled]
    exact List.filter_sublist
  · cases succeeded
    exact List.Sublist.refl _

/-! ## Spans -/

namespace Substitution

variable {substitution : Substitution} {session after : Session σ}

/-- The spans of surviving lines come to a problem: the first line that cannot be replaced
is the line of the problem. -/
inductive Stops (world : World σ) (substitution : Substitution) (escape : Escape)
    (surviving : List NumberedLine) (session : Session σ) :
    Problem → Nat → Session σ → Prop where
  | line {before behind : List NumberedLine} {line : NumberedLine} {texts : List Text}
      {between after : Session σ} {what : Problem}
      (split : surviving = before ++ line :: behind)
      (replaced : Act.from_ session (substitution.numbered world (some escape) before) =
        (.ok texts, between))
      (failed : Act.from_ between (substitution.line world (some escape) line.text) =
        (.error (.problem what none), after)) :
      Stops world substitution escape surviving session what line.number after

theorem numbered_append (escape? : Option Escape) (lines others : List NumberedLine) :
    substitution.numbered world escape? (lines ++ others) = (do
      let texts ← substitution.numbered world escape? lines
      let more ← substitution.numbered world escape? others
      pure (texts ++ more)) := by
  induction lines with
  | nil => simp [numbered]
  | cons line lines ih => simp [numbered, ih]

theorem numbered_eq_problem_iff (unnumbered : world.Unnumbered) {escape : Escape}
    {lines : List NumberedLine} {what : Problem} {line? : Option Nat} :
    Act.from_ session (substitution.numbered world (some escape) lines) =
        (.error (.problem what line?), after) ↔
      ∃ number, line? = some number ∧
        Stops world substitution escape lines session what number after := by
  have fails (line : Text) := line_failsWith substitution unnumbered.admissible (some escape) line
  constructor
  · intro failed
    induction lines generalizing session with
    | nil => cases failed
    | cons line lines ih =>
        rw [numbered, Act.from_bind_eq_error] at failed
        rcases failed with here | ⟨text, between, begun, failed⟩
        · obtain ⟨rfl, stopped⟩ := (Act.from_atLine_eq_problem (fails line.text)).mp here
          have first : line :: lines = [] ++ line :: lines := rfl
          exact ⟨line.number, rfl, .line first rfl stopped⟩
        · rw [Act.from_bind_pure_eq_error] at failed
          obtain ⟨number, rfl, stops⟩ := ih failed
          refine ⟨number, rfl, ?_⟩
          cases stops with
          | @line before behind later texts last _ _ split replaced stopped =>
              have longer : line :: lines = (line :: before) ++ later :: behind :=
                congrArg (line :: ·) split
              have further : Act.from_ session
                  (substitution.numbered world (some escape) (line :: before)) =
                    (.ok (text :: texts), last) := by
                rw [numbered, Act.from_bind_of_ok begun, Act.from_bind_of_ok replaced]
                rfl
              exact .line longer further stopped
  · rintro ⟨number, rfl, stops⟩
    cases stops with
    | @line _ _ line _ between _ _ split replaced stopped =>
        have failed : Act.from_ between (Act.atLine line.number
            (substitution.line world (some escape) line.text)) =
              (.error (.problem what (some line.number)), after) :=
          (Act.from_atLine_eq_problem (fails line.text)).mpr ⟨rfl, stopped⟩
        rw [split, numbered_append, Act.from_bind_of_ok replaced, numbered]
        simp only [bind_assoc]
        rw [Act.from_bind_of_error failed]

/-- A problem of the spans has the number of a surviving line. -/
theorem Stops.exists_line {escape : Escape} {surviving : List NumberedLine} {what : Problem}
    {number : Nat} (stops : Stops world substitution escape surviving session what number after) :
    ∃ line ∈ surviving, line.number = number := by
  cases stops with
  | @line _ _ line _ _ _ _ split =>
      refine ⟨line, ?_, rfl⟩
      rw [split]
      exact List.mem_append_right _ List.mem_cons_self

end Substitution

section Process

variable {treatment : Treatment} {substitution : Substitution} {text : Text}
  {session after : Session σ} {what : Problem}

/-- Processing a document stops in its directives. -/
def StopsInDirectives (world : World σ) (treatment : Treatment) (text : Text)
    (session : Session σ) (what : Problem) (number : Nat) (after : Session σ) : Prop :=
  ∃ c mark, treatment.mark? = some (c :: mark) ∧
    Reading.Stops world ⟨c :: mark, !treatment.removeDirectives⟩ (Text.lines text) session what
      number after

/-- Processing a document stops in its spans: all its directives were evaluated, and what
survives are lines of the document under their numbers. -/
def StopsInSpans (world : World σ) (treatment : Treatment) (substitution : Substitution)
    (text : Text) (session : Session σ) (what : Problem) (number : Nat) (after : Session σ) :
    Prop :=
  ∃ escape surviving between, treatment.escape? = some escape ∧
    Act.from_ session (survivors world treatment text) = (.ok surviving, between) ∧
      surviving.Sublist (Tailor.number (Text.lines text)) ∧
        Substitution.Stops world substitution escape surviving between what number after

theorem StopsInDirectives.bounds {number : Nat}
    (stops : StopsInDirectives world treatment text session what number after) :
    1 ≤ number ∧ number ≤ (Text.lines text).length := by
  obtain ⟨c, mark, _, stops⟩ := stops
  exact stops.bounds

theorem survivors_eq_problem_iff (unnumbered : world.Unnumbered) {line? : Option Nat} :
    Act.from_ session (survivors world treatment text) = (.error (.problem what line?), after) ↔
      ∃ number, line? = some number ∧
        StopsInDirectives world treatment text session what number after := by
  unfold survivors StopsInDirectives
  split
  · rename_i c mark marked
    rw [Reading.evaluate_eq_problem_iff unnumbered, marked]
    constructor
    · rintro ⟨number, known, stops⟩
      exact ⟨number, known, c, mark, rfl, stops⟩
    · rintro ⟨number, known, _, _, same, stops⟩
      cases same
      exact ⟨number, known, stops⟩
  · rename_i unmarked
    constructor
    · intro failed
      cases failed
    · rintro ⟨_, _, c, mark, marked, _⟩
      exact absurd marked (unmarked c mark)

/-- Without escapes nothing is replaced, and that does not fail. -/
theorem from_numbered_none (lines : List NumberedLine) :
    Act.from_ session (substitution.numbered world none lines) =
      (.ok (lines.map NumberedLine.text), session) := by
  induction lines with
  | nil => rfl
  | cons line lines ih =>
      have first : Act.from_ session (Act.atLine line.number
          (substitution.line world none line.text)) = (.ok line.text, session) := rfl
      rw [Substitution.numbered, Act.from_bind_of_ok first, Act.from_bind_of_ok ih]
      rfl

theorem substituted_eq_problem_iff (unnumbered : world.Unnumbered)
    {surviving : List NumberedLine} {line? : Option Nat} :
    Act.from_ session (substituted world treatment substitution surviving) =
        (.error (.problem what line?), after) ↔
      ∃ number, line? = some number ∧ ∃ escape, treatment.escape? = some escape ∧
        Substitution.Stops world substitution escape surviving session what number after := by
  unfold substituted
  cases escapes : treatment.escape? with
  | none =>
      constructor
      · intro failed
        simp only [Option.isNone_none, if_true, Act.note] at failed
        rw [Act.from_bind_of_ok (Act.from_record session _), from_numbered_none] at failed
        cases failed
      · rintro ⟨_, _, _, same, _⟩
        cases same
  | some escape =>
      simp only [Option.isNone_some, Bool.false_eq_true, if_false,
        Substitution.numbered_eq_problem_iff unnumbered, Option.some.injEq]
      constructor
      · rintro ⟨number, known, stops⟩
        exact ⟨number, known, escape, rfl, stops⟩
      · rintro ⟨number, known, _, rfl, stops⟩
        exact ⟨number, known, stops⟩

/-- **Where processing stops.** A document comes to a problem exactly if its directives
stop it, or if they are all evaluated and its spans stop it; the problem is that at which
they stop, and its line is a line of the document. A document that is stopped by its
directives ran none but commands of its directives. -/
theorem process_eq_problem_iff (unnumbered : world.Unnumbered) {line? : Option Nat} :
    (Act.from_ session (process world treatment substitution text) =
        (.error (.problem what line?), after) ↔
      ∃ number, line? = some number ∧ 1 ≤ number ∧ number ≤ (Text.lines text).length ∧
        (StopsInDirectives world treatment text session what number after ∨
          StopsInSpans world treatment substitution text session what number after)) ∧
    ∀ number, StopsInDirectives world treatment text session what number after →
      ∃ mark ran, treatment.mark? = some mark ∧
        ran <+: commandsOf (parsed mark (Tailor.number (Text.lines text))) ∧
          after.commands = session.commands ++ ran := by
  constructor
  · constructor
    · intro failed
      unfold process at failed
      rw [Act.from_bind_eq_error] at failed
      rcases failed with stopped | ⟨surviving, between, survived, failed⟩
      · obtain ⟨number, rfl, stops⟩ := (survivors_eq_problem_iff unnumbered).mp stopped
        obtain ⟨first, last⟩ := stops.bounds
        exact ⟨number, rfl, first, last, .inl stops⟩
      · rw [Act.from_bind_pure_eq_error] at failed
        obtain ⟨number, rfl, escape, escapes, stops⟩ :=
          (substituted_eq_problem_iff unnumbered).mp failed
        obtain ⟨line, member, rfl⟩ := stops.exists_line
        have among := survivors_sublist survived
        obtain ⟨first, last⟩ := bounds_of_mem_number (among.mem member)
        have stopsInSpans : StopsInSpans world treatment substitution text session what
            line.number after := ⟨escape, surviving, between, escapes, survived, among, stops⟩
        exact ⟨line.number, rfl, first, last, .inr stopsInSpans⟩
    · rintro ⟨number, rfl, _, _, stops | ⟨escape, surviving, between, escapes, survived, _, stops⟩⟩
      · have stopped := (survivors_eq_problem_iff unnumbered).mpr ⟨number, rfl, stops⟩
        rw [process, Act.from_bind_of_error stopped]
      · have stopped := (substituted_eq_problem_iff unnumbered).mpr
          ⟨number, rfl, escape, escapes, stops⟩
        rw [process, Act.from_bind_of_ok survived, Act.from_bind_of_error stopped]
  · rintro number ⟨c, mark, marked, stops⟩
    obtain ⟨ran, first, left⟩ := stops.commands
    exact ⟨c :: mark, ran, marked, first, left⟩

end Process

/-- A world without variables in which every command fails and nobody answers. -/
def World.refusing : World Unit where
  lookup _ := none
  run command state := (.error (.problem (.command (.failed command 1 [])) none), state)
  ask _ state := (.error (.problem (.query .inputEnded) none), state)

theorem World.refusing_unnumbered : World.refusing.Unnumbered where
  commands _ _ _ failed := by
    cases failed
    exact Fault.unnumbered_problem _
  queries _ _ _ failed := by
    cases failed
    exact Fault.unnumbered_problem _

/-- How these documents are written. -/
def errandTreatment : Treatment := ⟨some "#~".toList, some ⟨['<'], ['>']⟩, true⟩

/-- Both spans have a command, and the line of the first one is removed. -/
def errandLines : Text :=
  "#~ IFDEF $V\na <$(one)>\n#~ ENDIF\nb\n<$(two)>\n".toList

def failedErrand : Problem := .command (.failed "two".toList 1 [])

def errandEnd : Session Unit := ⟨(), .empty, [.ran "two".toList]⟩

/-- The first block inside the question block is closed, the second one is not. -/
def unclosedLines : Text :=
  "<$(one)>\n#~ ASK q\n#~ IFDEF $V\n#~ ENDIF\nb\n#~ IFNDEF $V\nc\n".toList

def unclosedBlocks : Problem := .nesting (.unterminated .ifUndefined [2, 6])

/-- Directives are evaluated before any span: the document with blocks that are not closed
runs no command, the other one runs that of its first surviving span. -/
theorem errandLines_stop :
    World.refusing.Unnumbered ∧
    (Act.from_ (.start ()) (process .refusing errandTreatment ⟨[], false⟩ errandLines) =
        (.error (.problem failedErrand (some 5)), errandEnd) ∧
      ∃ line, some 5 = some line ∧ 1 ≤ line ∧ line ≤ (Text.lines errandLines).length ∧
        (StopsInDirectives .refusing errandTreatment errandLines (.start ()) failedErrand line
            errandEnd ∨
          StopsInSpans .refusing errandTreatment ⟨[], false⟩ errandLines (.start ()) failedErrand
            line errandEnd)) ∧
    (Act.from_ (.start ()) (process .refusing errandTreatment ⟨[], false⟩ unclosedLines) =
        (.error (.problem unclosedBlocks (some 6)), .start ()) ∧
      ∃ line, some 6 = some line ∧ 1 ≤ line ∧ line ≤ (Text.lines unclosedLines).length ∧
        (StopsInDirectives .refusing errandTreatment unclosedLines (.start ()) unclosedBlocks line
            (.start ()) ∨
          StopsInSpans .refusing errandTreatment ⟨[], false⟩ unclosedLines (.start ())
            unclosedBlocks line (.start ()))) ∧
    ∀ line, StopsInDirectives .refusing errandTreatment unclosedLines (.start ()) unclosedBlocks
        line (.start ()) →
      ∃ mark ran, errandTreatment.mark? = some mark ∧
        ran <+: commandsOf (parsed mark (number (Text.lines unclosedLines))) ∧
          (Session.start ()).commands = (Session.start ()).commands ++ ran := by
  have errand : Act.from_ (.start ())
      (process .refusing errandTreatment ⟨[], false⟩ errandLines) =
        (.error (.problem failedErrand (some 5)), errandEnd) := by cbv
  have unclosed : Act.from_ (.start ())
      (process .refusing errandTreatment ⟨[], false⟩ unclosedLines) =
        (.error (.problem unclosedBlocks (some 6)), .start ()) := by cbv
  have stops (text : Text) (what : Problem) (line? : Option Nat) (after : Session Unit) :=
    @process_eq_problem_iff Unit .refusing errandTreatment ⟨[], false⟩ text (.start ()) after what
      World.refusing_unnumbered line?
  have unclosedStops := stops unclosedLines unclosedBlocks (some 6) (.start ())
  exact ⟨World.refusing_unnumbered,
    ⟨errand, (stops errandLines failedErrand (some 5) errandEnd).1.mp errand⟩,
    ⟨unclosed, unclosedStops.1.mp unclosed⟩, unclosedStops.2⟩

end Tailor
