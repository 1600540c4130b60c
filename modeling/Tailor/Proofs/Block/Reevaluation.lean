import Tailor.Proofs.Block.Pruning
import Tailor.Proofs.Block.Survival
import Tailor.Proofs.Session.Alike
import Tailor.Proofs.Session.Effect

/-! # Evaluating what was written

A document whose directives were kept can be evaluated again: in a steady world
and with the answers of the first run nobody is asked, and every line survives
(`Tailor.evaluate_written`).

The second document has the pruned outline of the first, with the lines counted
anew. The first run leaves everything that its marks depend on in the cache or
in the steady values of expressions (`Tailor.Outline.repeats_of_settle`), pruning
asks for less (`Tailor.Outline.repeats_prune`), and where the marks are given,
settling finds them again (`Tailor.Outline.settle_of_repeats`).
-/

namespace Tailor

variable {σ τ : Type}

section Repeats

variable (world : World σ) (cache : Cache)

mutual

/-- The world and the cache give the marks of an outline: a condition has its
verdict from every session, and the answer to a question is recorded. -/
def Outline.Repeats : Settled → Prop
  | .nil => True
  | .content _ rest => rest.Repeats
  | .comment _ rest => rest.Repeats
  | .condition _ asked held body turn _ rest =>
      (∀ session, (Act.from_ session (Expression.verdict world asked)).1 = .ok held) ∧
        body.Repeats ∧ turn.Repeats ∧ rest.Repeats
  | .ask _ argument body choices _ answer rest =>
      (∃ question,
        (∀ session, (Act.from_ session (Expression.expand world argument)).1 = .ok question) ∧
          cache.get? ⟨question, choices.labels⟩ = some answer) ∧
        answer.fits choices.labels.length = true ∧
          body.Repeats ∧ choices.Repeats ∧ rest.Repeats

@[inherit_doc Outline.Repeats]
def Turn.Repeats : Turn Bool Answer → Prop
  | .absent => True
  | .present _ body => body.Repeats

@[inherit_doc Outline.Repeats]
def Choices.Repeats : Choices Bool Answer → Prop
  | .nil => True
  | .option _ _ body rest => body.Repeats ∧ rest.Repeats

end

end Repeats

section Settle

variable {world : World σ}

/-- A query that is settled has its answer recorded. -/
theorem recorded_of_settleQuery {query : Query} {answer : Answer} {session after : Session σ}
    (succeeded : Act.from_ session (settleQuery world query) = (.ok answer, after)) :
    after.cache.get? query = some answer ∧ answer.fits query.options.length = true := by
  rw [settleQuery, Act.from_bind_eq_ok] at succeeded
  obtain ⟨found, between, resolved, last⟩ := succeeded
  by_cases fits : found.fits query.options.length
  · rw [if_pos fits] at last
    cases last
    exact ⟨Act.recorded_of_resolve resolved, fits⟩
  · rw [if_neg fits] at last
    cases last

theorem settleQuery_grows (world : World σ) (query : Query) :
    Act.Relates Session.Grows (settleQuery world query) := by
  refine (Act.resolve_grows world query).bind fun answer => ?_
  split
  · exact Act.relates_pure answer
  · exact Act.relates_throw _

mutual

/-- Settling takes no recorded answer away. -/
theorem Outline.settle_grows (world : World σ) :
    ∀ outline : Plan, Act.Relates Session.Grows (outline.settle world)
  | .nil => Act.relates_pure _
  | .content _ rest | .comment _ rest =>
      (Outline.settle_grows world rest).bind fun _ => Act.relates_pure _
  | .condition opening asked _ body turn _ rest => by
      have verdict := ((Expression.verdict_quiet world asked).mono
        fun _ _ quiet => quiet.grows).atLine opening.number
      refine verdict.bind fun held => ?_
      refine (Outline.settle_grows world body).bind fun body => ?_
      refine (Turn.settle_grows world turn).bind fun turn => ?_
      exact (Outline.settle_grows world rest).bind fun rest => Act.relates_pure _
  | .ask opening argument body choices closing _ rest => by
      have question := ((Expression.expand_quiet world argument).mono
        fun _ _ quiet => quiet.grows).atLine opening.number
      refine question.bind fun question => ?_
      refine (Outline.settle_grows world body).bind fun body => ?_
      refine (Choices.settle_grows world choices).bind fun choices => ?_
      refine ((settleQuery_grows world _).atLine closing.number).bind fun answer => ?_
      exact (Outline.settle_grows world rest).bind fun rest => Act.relates_pure _

theorem Turn.settle_grows (world : World σ) :
    ∀ turn : Turn Unit Unit, Act.Relates Session.Grows (turn.settle world)
  | .absent => Act.relates_pure _
  | .present _ body => (Outline.settle_grows world body).bind fun _ => Act.relates_pure _

theorem Choices.settle_grows (world : World σ) :
    ∀ choices : Choices Unit Unit, Act.Relates Session.Grows (choices.settle world)
  | .nil => Act.relates_pure _
  | .option _ _ body rest =>
      (Outline.settle_grows world body).bind fun _ =>
        (Choices.settle_grows world rest).bind fun _ => Act.relates_pure _

end

end Settle

section Repeat

variable {world : World σ} {other : World τ} {cache : Cache}

mutual

/-- What a run leaves behind gives the marks that it found, in every world that
is alike. -/
theorem Outline.repeats_of_settle (alike : world.Alike other) :
    ∀ (outline : Plan) {settled : Settled} {session after : Session σ},
      Act.from_ session (outline.settle world) = (.ok settled, after) →
        after.cache.Precedes cache → settled.Repeats other cache
  | .nil, _, _, _, succeeded, _ => by
      cases succeeded
      trivial
  | .content _ rest, _, _, _, succeeded, within
  | .comment _ rest, _, _, _, succeeded, within => by
      rw [Outline.settle, Act.from_bind_eq_ok] at succeeded
      obtain ⟨settledRest, between, restSettled, last⟩ := succeeded
      cases last
      change Outline.Repeats other cache settledRest
      exact Outline.repeats_of_settle alike rest restSettled within
  | .condition _ asked _ body turn _ rest, _, session, _, succeeded, within => by
      simp only [Outline.settle, Act.from_bind_eq_ok] at succeeded
      obtain ⟨held, _, decided, _, _, bodySettled, _, _, turnSettled, _, _, restSettled, last⟩ :=
        succeeded
      cases last
      have withinTurn := ((rest.settle_grows world).of_eq restSettled).trans within
      have withinBody := ((turn.settle_grows world).of_eq turnSettled).trans withinTurn
      refine ⟨?_, Outline.repeats_of_settle alike body bodySettled withinBody,
        Turn.repeats_of_settle alike turn turnSettled withinTurn,
        Outline.repeats_of_settle alike rest restSettled within⟩
      intro there
      rw [← Expression.verdict_sameOutcome alike asked session there,
        Act.from_atLine_eq_ok.mp decided]
  | .ask _ argument body choices _ _ rest, _, session, _, succeeded, within => by
      simp only [Outline.settle, Act.from_bind_eq_ok] at succeeded
      obtain ⟨question, _, expanded, _, _, bodySettled, _, _, choicesSettled, answer, _, answered,
        _, _, restSettled, last⟩ := succeeded
      cases last
      have answered := Act.from_atLine_eq_ok.mp answered
      have withinAnswer := ((rest.settle_grows world).of_eq restSettled).trans within
      have withinChoices := ((settleQuery_grows world _).of_eq answered).trans withinAnswer
      have withinBody := ((choices.settle_grows world).of_eq choicesSettled).trans withinChoices
      obtain ⟨recorded, fits⟩ := recorded_of_settleQuery answered
      refine ⟨⟨question, ?_, withinAnswer.get? recorded⟩, fits,
        Outline.repeats_of_settle alike body bodySettled withinBody,
        Choices.repeats_of_settle alike choices choicesSettled withinChoices,
        Outline.repeats_of_settle alike rest restSettled within⟩
      intro there
      rw [← Expression.expand_sameOutcome alike argument session there,
        Act.from_atLine_eq_ok.mp expanded]

theorem Turn.repeats_of_settle (alike : world.Alike other) :
    ∀ (turn : Turn Unit Unit) {settled : Turn Bool Answer} {session after : Session σ},
      Act.from_ session (turn.settle world) = (.ok settled, after) →
        after.cache.Precedes cache → settled.Repeats other cache
  | .absent, _, _, _, succeeded, _ => by
      cases succeeded
      trivial
  | .present _ body, _, _, _, succeeded, within => by
      rw [Turn.settle, Act.from_bind_eq_ok] at succeeded
      obtain ⟨settledBody, between, bodySettled, last⟩ := succeeded
      cases last
      exact Outline.repeats_of_settle alike body bodySettled within

theorem Choices.repeats_of_settle (alike : world.Alike other) :
    ∀ (choices : Choices Unit Unit) {settled : Choices Bool Answer} {session after : Session σ},
      Act.from_ session (choices.settle world) = (.ok settled, after) →
        after.cache.Precedes cache → settled.Repeats other cache
  | .nil, _, _, _, succeeded, _ => by
      cases succeeded
      trivial
  | .option _ _ body rest, _, _, _, succeeded, within => by
      simp only [Choices.settle, Act.from_bind_eq_ok] at succeeded
      obtain ⟨_, _, bodySettled, _, _, restSettled, last⟩ := succeeded
      cases last
      have withinBody := ((rest.settle_grows world).of_eq restSettled).trans within
      exact ⟨Outline.repeats_of_settle alike body bodySettled withinBody,
        Choices.repeats_of_settle alike rest restSettled within⟩

end

/-- A recorded answer that fits settles its query, and nobody is asked. -/
theorem settleQuery_of_recorded (world : World σ) {query : Query} {answer : Answer}
    {session : Session σ} (recorded : session.cache.get? query = some answer)
    (fits : answer.fits query.options.length = true) :
    Act.Gives Session.Unasked session (settleQuery world query) answer := by
  have resolved : Act.Gives Session.Unasked session (Act.resolve world query) answer := by
    refine ⟨{ session with trace := session.trace ++ [.consulted query] }, ?_, rfl, ?_⟩
    · rw [Act.from_resolve, recorded]
    · simp [Session.asked]
  refine resolved.bind fun after _ => ?_
  rw [if_pos fits]
  exact Act.gives_pure after answer

mutual

/-- Where its marks are given, an outline is settled as it was, and nobody is
asked. -/
theorem Outline.settle_of_repeats : ∀ settled : Settled, settled.Repeats world cache →
    ∀ session : Session σ, session.cache = cache →
      Act.Gives Session.Unasked session (settled.forget.settle world) settled
  | .nil, _, session, _ => Act.gives_pure session _
  | .content _ rest, repeats, session, same | .comment _ rest, repeats, session, same =>
      (Outline.settle_of_repeats rest repeats session same).bind fun after _ =>
        Act.gives_pure after _
  | .condition opening asked held body turn _ rest, repeats, session, same => by
      obtain ⟨decides, ofBody, ofTurn, ofRest⟩ := repeats
      have decided := (((Expression.verdict_quiet world asked).mono
        fun _ _ quiet => quiet.unasked).gives (decides session)).atLine opening.number
      refine decided.bind fun first toFirst => ?_
      have same := toFirst.cache.trans same
      refine (Outline.settle_of_repeats body ofBody first same).bind fun second toSecond => ?_
      have same := toSecond.cache.trans same
      refine (Turn.settle_of_repeats turn ofTurn second same).bind fun third toThird => ?_
      have same := toThird.cache.trans same
      exact (Outline.settle_of_repeats rest ofRest third same).bind fun after _ =>
        Act.gives_pure after _
  | .ask opening argument body choices closing answer rest, repeats, session, same => by
      obtain ⟨⟨question, expands, recorded⟩, fits, ofBody, ofChoices, ofRest⟩ := repeats
      have expanded := (((Expression.expand_quiet world argument).mono
        fun _ _ quiet => quiet.unasked).gives (expands session)).atLine opening.number
      refine expanded.bind fun first toFirst => ?_
      have same := toFirst.cache.trans same
      refine (Outline.settle_of_repeats body ofBody first same).bind fun second toSecond => ?_
      have same := toSecond.cache.trans same
      refine (Choices.settle_of_repeats choices ofChoices second same).bind fun third toThird => ?_
      have same := toThird.cache.trans same
      rw [← same] at recorded
      have answered := (settleQuery_of_recorded world recorded fits).atLine closing.number
      refine answered.bind fun fourth toFourth => ?_
      have same := toFourth.cache.trans same
      exact (Outline.settle_of_repeats rest ofRest fourth same).bind fun after _ =>
        Act.gives_pure after _

theorem Turn.settle_of_repeats : ∀ settled : Turn Bool Answer, settled.Repeats world cache →
    ∀ session : Session σ, session.cache = cache →
      Act.Gives Session.Unasked session (settled.forget.settle world) settled
  | .absent, _, session, _ => Act.gives_pure session _
  | .present _ body, repeats, session, same =>
      (Outline.settle_of_repeats body repeats session same).bind fun after _ =>
        Act.gives_pure after _

theorem Choices.settle_of_repeats : ∀ settled : Choices Bool Answer,
    settled.Repeats world cache → ∀ session : Session σ, session.cache = cache →
      Act.Gives Session.Unasked session (settled.forget.settle world) settled
  | .nil, _, session, _ => Act.gives_pure session _
  | .option _ _ body rest, ⟨ofBody, ofRest⟩, session, same =>
      (Outline.settle_of_repeats body ofBody session same).bind fun first toFirst =>
        (Choices.settle_of_repeats rest ofRest first (toFirst.cache.trans same)).bind
          fun after _ => Act.gives_pure after _

end

section Prune

theorem Outline.repeats_prune_or_nil {body : Settled} (repeats : body.prune.Repeats world cache)
    (kept : Bool) : (if kept then body.prune else .nil).Repeats world cache := by
  cases kept with
  | false => trivial
  | true => exact repeats

mutual

/-- A pruned outline asks for no more than the outline. -/
theorem Outline.repeats_prune : ∀ settled : Settled, settled.Repeats world cache →
    settled.prune.Repeats world cache
  | .nil, _ => trivial
  | .content _ rest, repeats | .comment _ rest, repeats => Outline.repeats_prune rest repeats
  | .condition _ _ held body turn _ rest, ⟨decides, ofBody, ofTurn, ofRest⟩ =>
      ⟨decides, Outline.repeats_prune_or_nil (Outline.repeats_prune body ofBody) held,
        Turn.repeats_prune (!held) turn ofTurn, Outline.repeats_prune rest ofRest⟩
  | .ask _ _ body choices _ answer rest, ⟨known, fits, ofBody, ofChoices, ofRest⟩ => by
      have labels : (choices.prune answer 0).labels = choices.labels := by
        rw [Choices.labels, Choices.offers_prune, Choices.labels]
      rw [← labels] at known fits
      exact ⟨known, fits, Outline.repeats_prune_or_nil (Outline.repeats_prune body ofBody) _,
        Choices.repeats_prune answer choices 0 ofChoices, Outline.repeats_prune rest ofRest⟩

theorem Turn.repeats_prune (taken : Bool) : ∀ settled : Turn Bool Answer,
    settled.Repeats world cache → (settled.prune taken).Repeats world cache
  | .absent, _ => trivial
  | .present _ body, repeats =>
      Outline.repeats_prune_or_nil (Outline.repeats_prune body repeats) taken

theorem Choices.repeats_prune (answer : Answer) :
    ∀ (settled : Choices Bool Answer) (position : Nat), settled.Repeats world cache →
      (settled.prune answer position).Repeats world cache
  | .nil, _, _ => trivial
  | .option _ _ body rest, position, ⟨ofBody, ofRest⟩ =>
      ⟨Outline.repeats_prune_or_nil (Outline.repeats_prune body ofBody) _,
        Choices.repeats_prune answer rest (position + 1) ofRest⟩

end

end Prune

section Map

variable (line : NumberedLine → NumberedLine)

mutual

/-- What gives the marks of an outline does not look at its lines. -/
theorem Outline.repeats_map : ∀ settled : Settled, settled.Repeats world cache →
    (settled.map line id id).Repeats world cache
  | .nil, _ => trivial
  | .content _ rest, repeats | .comment _ rest, repeats => Outline.repeats_map rest repeats
  | .condition _ _ _ body turn _ rest, ⟨decides, ofBody, ofTurn, ofRest⟩ =>
      ⟨decides, Outline.repeats_map body ofBody, Turn.repeats_map turn ofTurn,
        Outline.repeats_map rest ofRest⟩
  | .ask _ _ body choices _ _ rest, ⟨known, fits, ofBody, ofChoices, ofRest⟩ => by
      rw [← Choices.labels_map line id id choices] at known fits
      exact ⟨known, fits, Outline.repeats_map body ofBody, Choices.repeats_map choices ofChoices,
        Outline.repeats_map rest ofRest⟩

theorem Turn.repeats_map : ∀ settled : Turn Bool Answer, settled.Repeats world cache →
    (settled.map line id id).Repeats world cache
  | .absent, _ => trivial
  | .present _ body, repeats => Outline.repeats_map body repeats

theorem Choices.repeats_map : ∀ settled : Choices Bool Answer, settled.Repeats world cache →
    (settled.map line id id).Repeats world cache
  | .nil, _ => trivial
  | .option _ _ body rest, ⟨ofBody, ofRest⟩ =>
      ⟨Outline.repeats_map body ofBody, Choices.repeats_map rest ofRest⟩

end

end Map

/-- Where the marks of an outline are given, its document is evaluated and nobody
is asked. -/
theorem evaluate_of_repeats (world : World σ) (marking : Marking) {lines : List Text}
    {settled : Settled} (reads : settled.Reads marking.mark (number lines)) {session : Session σ}
    (repeats : settled.Repeats world session.cache) :
    Act.Gives Session.Unasked session (evaluate world marking lines)
      (settled.written marking.keepDirectives) := by
  rw [settled.forget.evaluate_eq marking lines (settled.yield_forget.trans reads)]
  exact (settled.settle_of_repeats repeats session rfl).bind fun after _ =>
    Act.gives_pure after _

end Repeat

section Recount

/-- A line with its place in a row instead of its number. -/
def recount (row : List NumberedLine) (line : NumberedLine) : NumberedLine :=
  ⟨row.idxOf line + 1, line.text⟩

/-- Distinct lines with their places are the lines of a document of their texts. -/
theorem map_recount {row : List NumberedLine} (distinct : row.Nodup) :
    row.map (recount row) = number (row.map NumberedLine.text) := by
  apply List.ext_getElem
  · simp [number]
  · intro place inside _
    have here : place < row.length := by simpa using inside
    simp [recount, number, distinct.idxOf_getElem place here, Nat.add_comm]

theorem text_recount (row lines : List NumberedLine) :
    (lines.map (recount row)).map NumberedLine.text = lines.map NumberedLine.text := by
  rw [List.map_map]
  rfl

/-- The lines that a document with its directives writes have the pruned outline,
counted anew. -/
theorem Outline.reads_prune {mark : Text} {lines : List Text} {settled : Settled}
    (reads : settled.Reads mark (number lines)) :
    (settled.prune.map (recount (settled.written true)) id id).Reads mark
        (number ((settled.written true).map NumberedLine.text)) ∧
      (settled.written true).map (recount (settled.written true)) =
        number ((settled.written true).map NumberedLine.text) := by
  have sublist : (settled.written true).Sublist (number lines) := by
    have whole : settled.lines = number lines := by
      rw [Outline.lines, reads]
      simp [parsed, Function.comp_def]
    rw [← settled.lines_prune, ← whole]
    exact settled.yield_prune.map Prod.fst
  have distinct : (settled.written true).Nodup :=
    ((pairwise_numberFrom 1 lines).sublist sublist).imp fun before same => by
      rw [same] at before
      exact Nat.lt_irrefl _ before
  have counted := map_recount distinct
  refine ⟨?_, counted⟩
  unfold Outline.Reads
  rw [Outline.yield_map, ← counted, ← settled.lines_prune, Outline.lines, parsed, List.map_map,
    List.map_map]
  apply List.map_congr_left
  intro part member
  have listed := settled.yield_prune.subset member
  rw [reads] at listed
  obtain ⟨line, _, rfl⟩ := List.mem_map.mp listed
  rfl

end Recount

/-- **Evaluating what was written.** Let a document be evaluated in a steady
world, with its directives kept. Then from every session with the answers of
that run, and whoever answers, the written lines are evaluated to themselves,
nobody is asked and no answer is recorded; and with the directives removed they
come to what the document comes to. -/
theorem evaluate_written {world : World σ} (steady : world.Steady)
    (ask : Query → σ → Except Fault Answer × σ) {mark : Text} {lines : List Text}
    {session after later : Session σ} {output : List NumberedLine}
    (succeeded : Act.from_ session (evaluate world ⟨mark, true⟩ lines) = (.ok output, after))
    (answers : later.cache = after.cache) :
    Act.Gives Session.Unasked later
        (evaluate { world with ask } ⟨mark, true⟩ (output.map NumberedLine.text))
        (number (output.map NumberedLine.text)) ∧
      ∃ again original,
        Act.Gives Session.Unasked later
          (evaluate { world with ask } ⟨mark, false⟩ (output.map NumberedLine.text)) again ∧
        Act.Gives Session.Unasked later
          (evaluate { world with ask } ⟨mark, false⟩ lines) original ∧
        again.map NumberedLine.text = original.map NumberedLine.text := by
  obtain ⟨outline, reads⟩ := exists_outline_of_evaluate succeeded
  rw [outline.evaluate_eq ⟨mark, true⟩ lines reads, Act.from_bind_eq_ok] at succeeded
  obtain ⟨settled, between, settles, last⟩ := succeeded
  cases last
  rw [← outline.forget_settle settles] at reads
  have reads : settled.Reads mark (number lines) := settled.yield_forget.symm.trans reads
  have repeats : settled.Repeats { world with ask } later.cache := by
    rw [answers]
    exact outline.repeats_of_settle (steady.alike ask) settles (Cache.Precedes.refl _)
  obtain ⟨readsAgain, counted⟩ := Outline.reads_prune reads
  have repeatsAgain := Outline.repeats_map (recount (settled.written true)) _
    (settled.repeats_prune repeats)
  refine ⟨?_, _, _, evaluate_of_repeats _ ⟨mark, false⟩ readsAgain repeatsAgain,
    evaluate_of_repeats _ ⟨mark, false⟩ reads repeats, ?_⟩
  · have kept := evaluate_of_repeats _ ⟨mark, true⟩ readsAgain repeatsAgain
    rw [Outline.written_map, Outline.written_prune, counted] at kept
    exact kept
  · rw [Outline.written_map, Outline.written_prune, text_recount]

theorem questionLines_written :
    World.obliging.Steady ∧
    ∃ output after,
      Act.from_ (Session.start ()) (evaluate .obliging ⟨"#~".toList, true⟩ questionLines) =
        (.ok output, after) ∧
      Act.Gives Session.Unasked ⟨(), after.cache, []⟩
        (evaluate { World.obliging with
          ask := fun _ state => (.error (.problem (.query .inputEnded) none), state) }
          ⟨"#~".toList, true⟩ (output.map NumberedLine.text))
        (number (output.map NumberedLine.text)) := by
  have steady : World.obliging.Steady := fun _ _ _ => rfl
  refine ⟨steady, _, _, from_evaluate_questionLines, ?_⟩
  have again := evaluate_written steady
    (fun _ state => (.error (.problem (.query .inputEnded) none), state))
    from_evaluate_questionLines (show Session.cache ⟨(), _, []⟩ = _ from rfl)
  exact again.1

end Tailor
