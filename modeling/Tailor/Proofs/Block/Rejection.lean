import Mathlib
import Tailor.Proofs.Block.Acceptance
import Tailor.Proofs.Block.Viability

/-! # Where documents are refused

As long as no expression fails and every query gets an answer that fits, only
the nesting of blocks decides about a document. Reading goes through a viable
beginning (`Tailor.Reading.steps_accepted`) and stops at the first line behind
which the beginning is no longer viable, or at the end if blocks are still open
(`Tailor.evaluate_judges_nesting`).
-/

namespace Tailor

variable {σ : Type} {world : World σ} {marking : Marking}

/-- What a line asks of the world is granted: its arguments expand, and the
query of a block that it closes gets an answer that fits. -/
structure Undisturbed (world : World σ) (marking : Marking) (reading : Reading)
    (session : Session σ) (line : NumberedLine) : Prop where
  verdict : ∀ asked, Directive.ofLine marking.mark line.text = .ok (some (.condition asked)) →
    Act.Succeeds session (Expression.verdict world asked)
  question : ∀ argument, Directive.ofLine marking.mark line.text = .ok (some (.ask argument)) →
    Act.Succeeds session (Expression.expand world argument)
  answer : ∀ opened question offers held outer,
    Directive.ofLine marking.mark line.text = .ok (some .endAsk) →
      reading.stack = .ask opened question offers held :: outer →
        ∃ answer after, Act.from_ session
          (Act.resolve world ⟨question, offers.map Offer.label⟩) = (.ok answer, after) ∧
            answer.fits offers.length = true

/-- What the lines of a document ask of the world is granted as far as they are
read. -/
def UndisturbedRun (world : World σ) (marking : Marking) (lines : List Text)
    (session : Session σ) : Prop :=
  ∀ before line behind reading between, number lines = before ++ line :: behind →
    Act.from_ session (Reading.start.steps world marking before) = (.ok reading, between) →
      Undisturbed world marking reading between line

/-- An answer that fits settles its query. -/
theorem from_settleQuery_of_fits {query : Query} {answer : Answer} {session after : Session σ}
    (resolved : Act.from_ session (Act.resolve world query) = (.ok answer, after))
    (fits : answer.fits query.options.length = true) :
    Act.from_ session (settleQuery world query) = (.ok answer, after) := by
  rw [settleQuery, Act.from_bind_of_ok resolved, fits]
  rfl

namespace Reading

/-- A line that may follow is read if what it asks is granted. -/
theorem step_accepted {reading : Reading} {line : NumberedLine} {session : Session σ}
    (fits : refusal? reading.openBlocks.head? (Directive.ofLine marking.mark line.text) = none)
    (undisturbed : Undisturbed world marking reading session line) :
    Act.Succeeds session (reading.step world marking line) := by
  obtain ⟨α, action, next, request, reads, _⟩ := exists_request world fits
  rw [reads]
  refine Act.Succeeds.bind_pure ?_ next
  cases request with
  | nothing => exact Act.succeeds_pure session ()
  | verdict asked means => exact (undisturbed.verdict asked means).atLine line.number
  | question argument means => exact (undisturbed.question argument means).atLine line.number
  | answer opened question offers held outer means closes =>
      obtain ⟨answer, after, resolved, fits⟩ :=
        undisturbed.answer opened question offers held outer means closes
      rw [← List.length_map Offer.label] at fits
      exact Act.Succeeds.atLine ⟨answer, after, from_settleQuery_of_fits resolved fits⟩
        line.number

/-- A viable beginning is read, and leaves open what it should. -/
theorem steps_accepted {lines : List Text} {session : Session σ}
    (undisturbed : UndisturbedRun world marking lines session)
    {before behind : List NumberedLine} (split : number lines = before ++ behind)
    {blocks : List OpenBlock} (leaves : openBehind? [] (parsed marking.mark before) = some blocks) :
    ∃ reading between,
      Act.from_ session (start.steps world marking before) = (.ok reading, between) ∧
        reading.openBlocks = blocks := by
  suffices succeeds : Act.Succeeds session (start.steps world marking before) by
    obtain ⟨reading, between, stepped⟩ := succeeds
    refine ⟨reading, between, stepped, ?_⟩
    have followed := steps_follow stepped
    exact Option.some.inj (followed.symm.trans leaves)
  induction before using List.reverseRecOn generalizing behind blocks with
  | nil => exact Act.succeeds_pure session _
  | append_singleton before line ih =>
      rw [parsed_append, openBehind?_append, Option.bind_eq_some_iff] at leaves
      obtain ⟨outside, leavesBefore, follows⟩ := leaves
      have further : number lines = before ++ line :: behind := by
        rw [split, List.append_assoc, List.singleton_append]
      obtain ⟨reading, between, stepped⟩ := ih further leavesBefore
      have opened : outside = reading.openBlocks :=
        Option.some.inj (leavesBefore.symm.trans (steps_follow stepped))
      have fits : refusal? reading.openBlocks.head? (Directive.ofLine marking.mark line.text) =
          none := by
        cases refused : refusal? reading.openBlocks.head?
          (Directive.ofLine marking.mark line.text) with
        | none => rfl
        | some category =>
            have stops : openBehindLine? reading.openBlocks
                (line, Directive.ofLine marking.mark line.text) = none :=
              openBehindLine?_eq_none_iff.mpr (by rw [refused]; rfl)
            rw [opened, parsed, List.map_singleton, openBehind?_cons, stops] at follows
            cases follows
      obtain ⟨next, after, accepted⟩ :=
        step_accepted fits (undisturbed before line behind reading between further stepped)
      refine ⟨next, after, ?_⟩
      rw [steps_append, Act.from_bind_of_ok stepped, steps_cons, Act.from_bind_of_ok accepted]
      rfl

end Reading

section Judgement

variable {lines : List Text} {session : Session σ}

/-- A document that nests is evaluated. -/
theorem evaluate_of_nests (undisturbed : UndisturbedRun world marking lines session)
    (nests : Nests marking.mark lines) : Act.Succeeds session (evaluate world marking lines) := by
  have whole : number lines = number lines ++ [] := (List.append_nil _).symm
  obtain ⟨⟨stack, output⟩, between, stepped, closed⟩ :=
    Reading.steps_accepted undisturbed whole (exists_outline_iff.mp nests)
  have outside : stack = [] := List.map_eq_nil_iff.mp closed
  subst outside
  exact ⟨output, between, by rw [evaluate, Act.from_bind_of_ok stepped]; rfl⟩

/-- The first line that may not follow stops the evaluation, under its number
and the category that the open blocks decide. -/
theorem evaluate_stops_at_line (undisturbed : UndisturbedRun world marking lines session)
    {before : List Text} {line : Text} {behind : List Text}
    (split : lines = before ++ line :: behind) (viable : Viable marking.mark before)
    (beyond : ¬ Viable marking.mark (before ++ [line])) :
    ∃ blocks problem after, LeavesOpen (parsed marking.mark (number before)) blocks ∧
      refusal? blocks.head? (Directive.ofLine marking.mark line) = some problem.category ∧
        Act.from_ session (evaluate world marking lines) =
          (.error (.problem problem (some (before.length + 1))), after) := by
  obtain ⟨blocks, leaves⟩ := viable_iff.mp viable
  have counted : number lines = number before ++
      ⟨before.length + 1, line⟩ :: numberFrom (before.length + 1 + 1) behind := by
    rw [split, number_append, numberFrom_cons]
  obtain ⟨reading, between, stepped, opened⟩ :=
    Reading.steps_accepted undisturbed counted (openBehind?_eq_some_iff.mpr leaves)
  have stops : openBehindLine? blocks
      (⟨before.length + 1, line⟩, Directive.ofLine marking.mark line) = none := by
    cases follows : openBehindLine? blocks
        (⟨before.length + 1, line⟩, Directive.ofLine marking.mark line) with
    | none => rfl
    | some next =>
        refine absurd (viable_iff.mpr ⟨next, ?_⟩) beyond
        rw [number_append, parsed_append]
        exact leaves.line follows
  obtain ⟨category, refused⟩ := Option.isSome_iff_exists.mp (openBehindLine?_eq_none_iff.mp stops)
  have refusedHere : refusal? reading.openBlocks.head? (Directive.ofLine marking.mark
      (NumberedLine.mk (before.length + 1) line).text) = some category := by
    rw [opened]
    exact refused
  obtain ⟨problem, rfl, fails⟩ := Reading.step_refused world refusedHere
  refine ⟨blocks, problem, between, leaves, refused, ?_⟩
  rw [evaluate, counted, Reading.steps_append, bind_assoc, Act.from_bind_of_ok stepped,
    Reading.steps_cons, fails]
  rfl

/-- A document in which every beginning is viable but which does not nest leaves
a block open, and is refused under the line of the innermost one. -/
theorem evaluate_stops_at_end (undisturbed : UndisturbedRun world marking lines session)
    (viable : Viable marking.mark lines) (unclosed : ¬ Nests marking.mark lines) :
    ∃ innermost outer problem after,
      LeavesOpen (parsed marking.mark (number lines)) (innermost :: outer) ∧
        problem.category = .unterminatedBlock ∧
          Act.from_ session (evaluate world marking lines) =
            (.error (.problem problem (some innermost.line)), after) := by
  obtain ⟨blocks, leaves⟩ := viable_iff.mp viable
  have whole : number lines = number lines ++ [] := (List.append_nil _).symm
  obtain ⟨⟨stack, output⟩, between, stepped, opened⟩ :=
    Reading.steps_accepted undisturbed whole (openBehind?_eq_some_iff.mpr leaves)
  cases stack with
  | nil =>
      cases opened
      exact absurd (exists_outline_iff.mpr (openBehind?_eq_some_iff.mpr leaves)) unclosed
  | cons innermost outer =>
      cases opened
      refine ⟨_, _, .nesting (.unterminated innermost.keyword
        ((innermost :: outer).map Block.openedAt).reverse), between, leaves, rfl, ?_⟩
      rw [evaluate, Act.from_bind_of_ok stepped]
      cases innermost with
      | condition sort line verdict turned => rfl
      | ask line question offers held => rfl

/-- A document whose beginnings are not all viable has a first line behind which
they are not. -/
theorem exists_first_not_viable {mark : Text} (beyond : ¬ Viable mark lines) :
    ∃ before line behind, lines = before ++ line :: behind ∧ Viable mark before ∧
      ¬ Viable mark (before ++ [line]) := by
  induction lines using List.reverseRecOn with
  | nil => exact absurd ⟨[], .nil, rfl⟩ beyond
  | append_singleton lines line ih =>
      by_cases viable : Viable mark lines
      · exact ⟨lines, line, [], rfl, viable, beyond⟩
      · obtain ⟨before, first, behind, rfl, viableBefore, beyondFirst⟩ := ih viable
        exact ⟨before, first, behind ++ [line], by simp, viableBefore, beyondFirst⟩

/-- **Judging by the nesting.** If whatever a document asks of the world is
granted, it is evaluated exactly if it nests. Otherwise either it has a first
line behind which its beginning is not viable, and this line is refused under
its number and the category that the open blocks decide, or a block is open at
the end, and the innermost one is refused under its line. -/
theorem evaluate_judges_nesting (undisturbed : UndisturbedRun world marking lines session) :
    (Act.Succeeds session (evaluate world marking lines) ↔ Nests marking.mark lines) ∧
    (¬ Viable marking.mark lines → ∃ before line behind, lines = before ++ line :: behind ∧
      Viable marking.mark before ∧ ¬ Viable marking.mark (before ++ [line])) ∧
    (∀ before line behind, lines = before ++ line :: behind → Viable marking.mark before →
      ¬ Viable marking.mark (before ++ [line]) →
        ∃ blocks problem after, LeavesOpen (parsed marking.mark (number before)) blocks ∧
          refusal? blocks.head? (Directive.ofLine marking.mark line) = some problem.category ∧
            Act.from_ session (evaluate world marking lines) =
              (.error (.problem problem (some (before.length + 1))), after)) ∧
    (Viable marking.mark lines → ¬ Nests marking.mark lines →
      ∃ innermost outer problem after,
        LeavesOpen (parsed marking.mark (number lines)) (innermost :: outer) ∧
          problem.category = .unterminatedBlock ∧
            Act.from_ session (evaluate world marking lines) =
              (.error (.problem problem (some innermost.line)), after)) := by
  refine ⟨⟨?_, evaluate_of_nests undisturbed⟩, exists_first_not_viable, ?_,
    evaluate_stops_at_end undisturbed⟩
  · rintro ⟨output, after, succeeded⟩
    exact exists_outline_of_evaluate succeeded
  · intro before line behind split viable beyond
    exact evaluate_stops_at_line undisturbed split viable beyond

/-- A conditional block that is closed as a question block. -/
def strayLines : List Text := ["#~ IFDEF $V".toList, "#~ ENDASK".toList]

theorem strayLines_judged :
    UndisturbedRun .obliging ⟨"#~".toList, false⟩ strayLines (Session.start ()) ∧
    ∃ blocks problem after,
      LeavesOpen (parsed "#~".toList (number ["#~ IFDEF $V".toList])) blocks ∧
        refusal? blocks.head? (Directive.ofLine "#~".toList "#~ ENDASK".toList) =
          some problem.category ∧
        Act.from_ (Session.start ()) (evaluate .obliging ⟨"#~".toList, false⟩ strayLines) =
          (.error (.problem problem (some 2)), after) := by
  have undisturbed :
      UndisturbedRun .obliging ⟨"#~".toList, false⟩ strayLines (Session.start ()) := by
    intro before line behind reading between split stepped
    have lines : number strayLines =
        [⟨1, "#~ IFDEF $V".toList⟩, ⟨2, "#~ ENDASK".toList⟩] := rfl
    rw [lines] at split
    rcases before with _ | ⟨first, _ | ⟨second, before⟩⟩
    · cases split
      have means : Directive.ofLine "#~".toList "#~ IFDEF $V".toList =
          .ok (some (.condition (.defined "$V".toList))) := by cbv
      cases stepped
      refine ⟨?_, ?_, ?_⟩
      · intro asked reads
        cases means.symm.trans reads
        exact ⟨false, Session.start (), by cbv⟩
      · intro argument reads
        cases means.symm.trans reads
      · intro opened question offers held outer reads
        cases means.symm.trans reads
    · cases split
      have means : Directive.ofLine "#~".toList "#~ ENDASK".toList = .ok (some .endAsk) := by cbv
      have read : Act.from_ (Session.start ()) (Reading.start.steps World.obliging
          ⟨"#~".toList, false⟩ [⟨1, "#~ IFDEF $V".toList⟩]) =
            (.ok ⟨[.condition .defined 1 false false], []⟩, Session.start ()) := by cbv
      cases read.symm.trans stepped
      refine ⟨?_, ?_, ?_⟩
      · intro asked reads
        cases means.symm.trans reads
      · intro argument reads
        cases means.symm.trans reads
      · intro opened question offers held outer _ inside
        cases inside
    · simp at split
  have viable : Viable "#~".toList ["#~ IFDEF $V".toList] :=
    viable_iff.mpr ⟨[.condition 1 false], openBehind?_eq_some_iff.mp (by cbv)⟩
  have beyond : ¬ Viable "#~".toList
      (["#~ IFDEF $V".toList] ++ ["#~ ENDASK".toList]) := by
    intro viable
    obtain ⟨blocks, leaves⟩ := viable_iff.mp viable
    have none : openBehind? [] (parsed "#~".toList (number
      (["#~ IFDEF $V".toList] ++ ["#~ ENDASK".toList]))) = none := by cbv
    rw [openBehind?_eq_some_iff.mpr leaves] at none
    cases none
  exact ⟨undisturbed, (evaluate_judges_nesting undisturbed).2.2.1 _ _ [] rfl viable beyond⟩

end Judgement

end Tailor
