import Tailor.Proofs.Block.Passage
import Tailor.Proofs.Session.Outcome

/-! # Reading a document along its outline

Reading line by line, with a stack of open blocks and lines held back, comes to
the same as settling the outline of the document in one walk and writing what
the settled outline writes (`Tailor.Outline.evaluate_eq`). The two are equal as
actions: they run the same commands, consult the same queries and fail alike.
The law behind it holds in the midst of a document too, whatever blocks are
open and whatever lines follow (`Tailor.Outline.steps_lines`).
-/

namespace Tailor

variable {σ : Type} {world : World σ}

/-- The slots whose lines an answer that fits keeps. -/
def Answer.keeps (answer : Answer) (count : Nat) : Slot → Bool
  | .always => true
  | .under 0 => count == 0 && answer.holds
  | .under (position + 1) => count != 0 && answer.selects position

namespace Reading

/-- The answer of a block must fit its options. -/
theorem keptBy_eq (answer : Answer) (offers : List Offer) :
    (keptBy answer offers : Act σ (Slot → Bool)) =
      if answer.fits offers.length then pure (answer.keeps offers.length)
      else Act.fail (.query (.badAnswer answer offers.length)) := by
  cases offers with
  | nil =>
      have keeps : (fun slot => slot == Slot.always || (answer.holds && slot == .under 0)) =
          answer.keeps 0 := by
        funext slot
        cases slot with
        | always => rfl
        | under opened => cases opened <;> simp [Answer.keeps]
      have fits : answer.fits 0 = true := by cases answer <;> rfl
      simp only [keptBy, List.isEmpty_nil, ↓reduceIte, List.length_nil, fits, keeps]
  | cons offer offers =>
      cases answer with
      | yesNo yes => simp [keptBy, Answer.fits]
      | choice position =>
          by_cases inside : 0 ≤ position ∧ position < (offer :: offers).length
          · have keeps : (fun slot => slot == Slot.always || slot == .under (position.toNat + 1)) =
                (Answer.choice position).keeps (offer :: offers).length := by
              funext slot
              cases slot with
              | always => rfl
              | under opened =>
                  cases opened with
                  | zero => simp [Answer.keeps]
                  | succ opened =>
                      simp only [Answer.keeps, Answer.selects, List.length_cons]
                      rw [Bool.eq_iff_iff]
                      simp
                      omega
            have fits : (Answer.choice position).fits (offer :: offers).length = true := by
              simp only [Answer.fits, inside, decide_true, Bool.and_self, Bool.or_true]
            simp only [keptBy, List.isEmpty_cons, Bool.false_eq_true, ↓reduceIte, inside,
              and_self, fits, keeps]
          · have misfit : (Answer.choice position).fits (offer :: offers).length = false := by
              simp only [Answer.fits, List.length_cons, Bool.or_eq_false_iff,
                Bool.and_eq_false_iff, decide_eq_false_iff_not]
              constructor
              · rfl
              · simp only [List.length_cons] at inside
                omega
            simp only [keptBy, List.isEmpty_cons, Bool.false_eq_true, ↓reduceIte, inside, misfit]

/-- Consulting a query and then judging its answer is settling the query. -/
theorem resolve_keptBy (question : Text) (offers : List Offer)
    (next : (Slot → Bool) → Reading) :
    (do
      let answer ← Act.resolve world ⟨question, offers.map Offer.label⟩
      let keeps ← keptBy answer offers
      pure (next keeps)) =
      (do
        let answer ← settleQuery world ⟨question, offers.map Offer.label⟩
        pure (next (answer.keeps offers.length))) := by
  simp only [settleQuery, bind_assoc, List.length_map]
  refine bind_congr fun answer => ?_
  rw [keptBy_eq]
  split
  · simp only [pure_bind]
  · rfl

end Reading

section Step

variable {marking : Marking} {reading : Reading} {line : NumberedLine}

namespace Reading

theorem step_content (means : Directive.ofLine marking.mark line.text = .ok none) :
    reading.step world marking line = pure (reading.pass [line]) := by
  simp only [step, means, Act.atLine_pure, content_eq_pass]

theorem step_comment (means : Directive.ofLine marking.mark line.text = .ok (some .comment)) :
    reading.step world marking line =
      pure (reading.pass (keptLine marking.keepDirectives line)) := by
  simp only [step, means, directive, Act.atLine_pure, echo_eq_pass]

theorem step_condition {asked : Condition}
    (means : Directive.ofLine marking.mark line.text = .ok (some (.condition asked))) :
    reading.step world marking line = (do
      let held ← Act.atLine line.number (Expression.verdict world asked)
      pure ((reading.pass (keptLine marking.keepDirectives line)).push
        (.condition asked.sort line.number held false))) := by
  simp only [step, means, directive, Act.atLine_bind_pure, echo_eq_pass]

theorem step_otherwise (means : Directive.ofLine marking.mark line.text = .ok (some .otherwise))
    (sort : Condition.Sort) (opened : Nat) (held : Bool) :
    (reading.push (.condition sort opened held false)).step world marking line =
      pure ((reading.pass (keptLine marking.keepDirectives line)).push
        (.condition sort opened (!held) true)) := by
  simp only [step, means, directive, push, Bool.false_eq_true, ↓reduceIte, Act.atLine_pure,
    echo_eq_pass]

theorem step_endCondition
    (means : Directive.ofLine marking.mark line.text = .ok (some .endCondition))
    (sort : Condition.Sort) (opened : Nat) (held turned : Bool) :
    (reading.push (.condition sort opened held turned)).step world marking line =
      pure (reading.pass (keptLine marking.keepDirectives line)) := by
  simp only [step, means, directive, push, Act.atLine_pure, echo_eq_pass]

theorem step_ask {argument : Text}
    (means : Directive.ofLine marking.mark line.text = .ok (some (.ask argument))) :
    reading.step world marking line = (do
      let question ← Act.atLine line.number (Expression.expand world argument)
      pure ((reading.pass (keptLine marking.keepDirectives line)).push
        (.ask line.number question [] []))) := by
  simp only [step, means, directive, Act.atLine_bind_pure, echo_eq_pass]

theorem step_option {label : Text}
    (means : Directive.ofLine marking.mark line.text = .ok (some (.option label)))
    (opened : Nat) (question : Text) (offers : List Offer) (held : List HeldLine) :
    (reading.push (.ask opened question offers held)).step world marking line =
      pure (reading.push (.ask opened question (offers ++ [⟨label, line.number⟩])
        (held ++ reaching reading.stack ((keptLine marking.keepDirectives line).map
          fun line => (⟨.always, line⟩ : HeldLine))))) := by
  have echoed := echoAlways_push_ask marking.keepDirectives line reading opened question
    (offers ++ [⟨label, line.number⟩]) held
  simp only [push] at echoed
  simp only [step, means, directive, push, Act.atLine_pure, echoed]

theorem step_endAsk (means : Directive.ofLine marking.mark line.text = .ok (some .endAsk))
    (opened : Nat) (question : Text) (offers : List Offer) (held : List HeldLine) :
    (reading.push (.ask opened question offers held)).step world marking line = (do
      let answer ← Act.atLine line.number
        (settleQuery world ⟨question, offers.map Offer.label⟩)
      pure ((reading.release (answer.keeps offers.length) held).pass
        (keptLine marking.keepDirectives line))) := by
  simp only [step, means, directive, push, resolve_keptBy, Act.atLine_bind_pure, echo_eq_pass]

end Reading

end Step

/-- The lines that the options of an open block hold back, when `opened` options
stand before them. -/
def Choices.held (keep : Bool) (opened : Nat) : Choices Bool Answer → List HeldLine
  | .nil => []
  | .option line _ body rest =>
      (keptLine keep line).map (fun line => ⟨.always, line⟩) ++
        ((body.written keep).map (fun line => ⟨.under (opened + 1), line⟩) ++
          rest.held keep (opened + 1))

/-- Of the lines that options hold back, an answer releases what they write
under it. -/
theorem Choices.filter_held (keep : Bool) (answer : Answer) (count : Nat) (offered : count ≠ 0)
    (choices : Choices Bool Answer) (opened : Nat) :
    ((choices.held keep opened).filter fun item => answer.keeps count item.slot).map
      HeldLine.line = choices.written keep answer opened := by
  cases choices with
  | nil => rfl
  | option line label body rest =>
      have ih := Choices.filter_held keep answer count offered rest (opened + 1)
      have selects : answer.keeps count (.under (opened + 1)) = answer.selects opened := by
        simp only [Answer.keeps, ne_eq, offered, not_false_eq_true, Bool.true_and,
          (bne_iff_ne).mpr]
      simp only [held, written, List.filter_append, List.map_append, ih, List.filter_map,
        List.map_map]
      congr 1
      · simp [Answer.keeps, Function.comp_def]
      · congr 1
        simp only [Function.comp_def, selects]
        cases answer.selects opened <;> simp

/-- What a question block holds back until it is closed, when every line
reaches it. -/
def Choices.heldWith (keep : Bool) (body : Settled) (choices : Choices Bool Answer) :
    List HeldLine :=
  (body.written keep).map (fun line => ⟨.under 0, line⟩) ++ choices.held keep 0

/-- An answer releases the lines that the block writes under it. -/
theorem Choices.filter_heldWith (keep : Bool) (answer : Answer) (body : Settled)
    (choices : Choices Bool Answer) :
    ((choices.heldWith keep body).filter fun item =>
      answer.keeps choices.offers.length item.slot).map HeldLine.line =
      (if choices.isEmpty && answer.holds then body.written keep else []) ++
        choices.written keep answer 0 := by
  cases choices with
  | nil =>
      simp only [heldWith, held, written, offers, List.length_nil, List.append_nil, isEmpty,
        Bool.true_and, List.filter_map, List.map_map, Function.comp_def, Answer.keeps]
      cases answer.holds <;> simp
  | option line label body' rest =>
      have offered : (Choices.option line label body' rest).offers.length ≠ 0 := by
        simp [offers]
      have dropped : answer.keeps (Choices.option line label body' rest).offers.length
          (.under 0) = false := by
        simp [Answer.keeps, offers]
      rw [heldWith, List.filter_append, List.map_append,
        Choices.filter_held keep answer _ offered]
      simp [dropped, List.filter_map, Function.comp_def, isEmpty]

/-- A block that is closed hands on what it writes under its answer. -/
theorem Reading.release_heldWith (keep : Bool) (answer : Answer) (body : Settled)
    (choices : Choices Bool Answer) (reading : Reading) :
    reading.release (answer.keeps choices.offers.length)
        (Reading.reaching reading.stack (choices.heldWith keep body)) =
      reading.pass ((if choices.isEmpty && answer.holds then body.written keep else []) ++
        choices.written keep answer 0) := by
  rw [← Choices.filter_heldWith, Reading.release_eq_emitAll]
  by_cases through : Reading.included reading.stack
  · simp only [Reading.reaching, Reading.pass, through, ↓reduceIte]
  · simp [Reading.reaching, Reading.pass, through]

section Steps

variable (marking : Marking)

theorem Reading.steps_cons (reading : Reading) (line : NumberedLine)
    (lines : List NumberedLine) :
    reading.steps world marking (line :: lines) = (do
      let next ← reading.step world marking line
      next.steps world marking lines) := rfl

theorem Reading.steps_append (reading : Reading) (lines others : List NumberedLine) :
    reading.steps world marking (lines ++ others) = (do
      let next ← reading.steps world marking lines
      next.steps world marking others) := by
  induction lines generalizing reading with
  | nil => simp only [List.nil_append, steps, pure_bind]
  | cons line lines ih => simp only [List.cons_append, steps, bind_assoc, ih]

/-- Every line is read as it is listed. -/
def Marking.Agrees (parts : List (NumberedLine × Meaning)) : Prop :=
  ∀ part ∈ parts, Directive.ofLine marking.mark part.1.text = part.2

@[simp] theorem Marking.agrees_cons (line : NumberedLine) (meaning : Meaning)
    (parts : List (NumberedLine × Meaning)) :
    marking.Agrees ((line, meaning) :: parts) ↔
      Directive.ofLine marking.mark line.text = meaning ∧ marking.Agrees parts :=
  List.forall_mem_cons

@[simp] theorem Marking.agrees_append (first second : List (NumberedLine × Meaning)) :
    marking.Agrees (first ++ second) ↔ marking.Agrees first ∧ marking.Agrees second :=
  List.forall_mem_append

mutual

/-- **Reading along an outline.** In the midst of a document the lines of an
outline are read as the outline is settled, and what it then writes is handed
on. -/
theorem Outline.steps_lines (outline : Plan) (agrees : marking.Agrees outline.yield)
    (reading : Reading) (behind : List NumberedLine) :
    reading.steps world marking (outline.lines ++ behind) = (do
      let settled ← outline.settle world
      (reading.pass (settled.written marking.keepDirectives)).steps world marking behind) := by
  cases outline with
  | nil =>
      rw [show Outline.nil.lines ++ behind = behind from rfl]
      simp only [Outline.settle, pure_bind, Outline.written, Reading.pass_nil]
  | content line rest =>
      obtain ⟨means, agrees⟩ := (marking.agrees_cons ..).mp agrees
      rw [Outline.lines_content, List.cons_append, Reading.steps_cons, Reading.step_content means,
        pure_bind, Outline.steps_lines rest agrees]
      simp only [Outline.settle, bind_assoc, pure_bind, Outline.written]
      refine bind_congr fun settled => ?_
      rw [← Reading.pass_append]
      rfl
  | comment line rest =>
      obtain ⟨means, agrees⟩ := (marking.agrees_cons ..).mp agrees
      rw [Outline.lines_comment, List.cons_append, Reading.steps_cons, Reading.step_comment means,
        pure_bind, Outline.steps_lines rest agrees]
      simp only [Outline.settle, bind_assoc, pure_bind, Outline.written, Reading.pass_append]
  | condition opening asked mark body turn closing rest =>
      simp only [Outline.yield, Marking.agrees_cons, Marking.agrees_append] at agrees
      obtain ⟨opens, inBody, inTurn, closes, agrees⟩ := agrees
      simp only [Outline.lines_condition, List.cons_append, List.append_assoc]
      rw [Reading.steps_cons, Reading.step_condition opens]
      simp only [Outline.settle, bind_assoc, pure_bind]
      refine bind_congr fun held => ?_
      rw [Outline.steps_lines body inBody]
      refine bind_congr fun body => ?_
      rw [Reading.pass_push_condition, Turn.steps_lines turn closing inTurn closes]
      refine bind_congr fun turn => ?_
      rw [Outline.steps_lines rest agrees]
      simp only [Outline.written, ← Reading.pass_append, List.append_assoc]
  | ask opening argument body choices closing mark rest =>
      simp only [Outline.yield, Marking.agrees_cons, Marking.agrees_append] at agrees
      obtain ⟨opens, inBody, inChoices, closes, agrees⟩ := agrees
      simp only [Outline.lines_ask, List.cons_append, List.append_assoc]
      rw [Reading.steps_cons, Reading.step_ask opens]
      simp only [Outline.settle, bind_assoc, pure_bind]
      refine bind_congr fun question => ?_
      rw [Outline.steps_lines body inBody]
      refine bind_congr fun body => ?_
      rw [Reading.pass_push_ask, Choices.steps_lines choices inChoices]
      refine bind_congr fun choices => ?_
      rw [Reading.steps_cons, Reading.step_endAsk closes]
      simp only [List.nil_append, List.length_nil, bind_assoc, pure_bind]
      refine bind_congr fun answer => ?_
      rw [Outline.steps_lines rest agrees]
      refine bind_congr fun rest => ?_
      have released := Reading.release_heldWith marking.keepDirectives answer body choices
        (reading.pass (keptLine marking.keepDirectives opening))
      rw [Choices.heldWith, Reading.reaching_append] at released
      rw [released]
      simp only [Outline.written, ← Reading.pass_append, List.append_assoc]

/-- Behind an open conditional block its turn and its closing line are read as
the turn is settled. -/
theorem Turn.steps_lines (turn : Turn Unit Unit) (closing : NumberedLine)
    (agrees : marking.Agrees turn.yield)
    (closes : Directive.ofLine marking.mark closing.text = .ok (some .endCondition))
    (reading : Reading) (sort : Condition.Sort) (opened : Nat) (held : Bool)
    (behind : List NumberedLine) :
    (reading.push (.condition sort opened held false)).steps world marking
        (turn.lines ++ closing :: behind) = (do
      let settled ← turn.settle world
      (reading.pass (settled.written marking.keepDirectives (!held) ++
        keptLine marking.keepDirectives closing)).steps world marking behind) := by
  cases turn with
  | absent =>
      rw [show Turn.absent.lines ++ closing :: behind = closing :: behind from rfl,
        Reading.steps_cons, Reading.step_endCondition closes]
      simp only [Turn.settle, pure_bind, Turn.written, List.nil_append]
  | present line body =>
      obtain ⟨turns, agrees⟩ := (marking.agrees_cons ..).mp agrees
      rw [show (Turn.present line body).lines ++ closing :: behind =
          line :: (body.lines ++ closing :: behind) from rfl,
        Reading.steps_cons, Reading.step_otherwise turns, pure_bind,
        Outline.steps_lines body agrees]
      simp only [Turn.settle, bind_assoc, pure_bind]
      refine bind_congr fun body => ?_
      rw [Reading.pass_push_condition, Reading.steps_cons, Reading.step_endCondition closes,
        pure_bind]
      simp only [Turn.written, ← Reading.pass_append, List.append_assoc]

/-- Behind an open question block options are read as they are settled: the
block lists them and holds their lines back. -/
theorem Choices.steps_lines (choices : Choices Unit Unit) (agrees : marking.Agrees choices.yield)
    (reading : Reading) (opened : Nat) (question : Text) (offers : List Offer)
    (held : List HeldLine) (behind : List NumberedLine) :
    (reading.push (.ask opened question offers held)).steps world marking
        (choices.lines ++ behind) = (do
      let settled ← choices.settle world
      (reading.push (.ask opened question (offers ++ settled.offers)
        (held ++ Reading.reaching reading.stack
          (settled.held marking.keepDirectives offers.length)))).steps world marking behind) := by
  cases choices with
  | nil =>
      have nothing : Reading.reaching reading.stack ([] : List HeldLine) = [] := by
        simp only [Reading.reaching, ite_self]
      rw [show Choices.nil.lines ++ behind = behind from rfl]
      simp only [Choices.settle, pure_bind, Choices.offers, Choices.held, nothing, List.append_nil]
  | option line label body rest =>
      simp only [Choices.yield, Marking.agrees_cons, Marking.agrees_append] at agrees
      obtain ⟨opens, inBody, agrees⟩ := agrees
      simp only [Choices.lines_option, List.cons_append, List.append_assoc]
      rw [Reading.steps_cons, Reading.step_option opens, pure_bind,
        Outline.steps_lines body inBody]
      simp only [Choices.settle, bind_assoc, pure_bind]
      refine bind_congr fun body => ?_
      rw [Reading.pass_push_ask, Choices.steps_lines rest agrees]
      refine bind_congr fun rest => ?_
      simp only [Choices.offers, Choices.held, List.append_assoc, List.cons_append,
        List.nil_append, List.length_append, List.length_singleton, Reading.reaching_append]

end

theorem Marking.agrees_parsed (lines : List NumberedLine) :
    marking.Agrees (parsed marking.mark lines) := by
  intro part member
  obtain ⟨line, _, rfl⟩ := List.mem_map.mp member
  rfl

theorem map_fst_parsed (mark : Text) (lines : List NumberedLine) :
    (parsed mark lines).map Prod.fst = lines := by
  simp [parsed, Function.comp_def]

/-- An outline lists the lines of its document, each as it is read. -/
theorem Outline.Reads.agrees {outline : Plan} {lines : List NumberedLine}
    (reads : outline.Reads marking.mark lines) : marking.Agrees outline.yield := by
  rw [reads]
  exact marking.agrees_parsed lines

theorem Outline.Reads.lines_eq {mark : Text} {outline : Plan} {lines : List NumberedLine}
    (reads : outline.Reads mark lines) : outline.lines = lines := by
  rw [Outline.lines, reads, map_fst_parsed]

/-- **Evaluation is settling.** The document of an outline is evaluated as the
outline is settled, and what the settled outline writes survives. -/
theorem Outline.evaluate_eq (lines : List Text) (outline : Plan)
    (reads : outline.Reads marking.mark (number lines)) :
    evaluate world marking lines = (do
      let settled ← outline.settle world
      pure (settled.written marking.keepDirectives)) := by
  have all : number lines = outline.lines ++ [] := by rw [List.append_nil, reads.lines_eq]
  unfold evaluate
  rw [all, Outline.steps_lines marking outline (reads.agrees marking)]
  simp only [bind_assoc, Reading.steps, pure_bind]
  refine bind_congr fun settled => ?_
  have outside : Reading.start.pass (settled.written marking.keepDirectives) =
      ⟨[], settled.written marking.keepDirectives⟩ :=
    Reading.emitAll_outside (settled.written marking.keepDirectives) []
  rw [outside]
  rfl

end Steps

end Tailor
