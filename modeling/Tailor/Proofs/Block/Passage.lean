import Tailor.Block.Evaluation
import Tailor.Proofs.Block.Outline

/-! # Lines on their way through open blocks

A line that passes the open conditional blocks goes to the innermost open
question block, or is written. Handing on a row of lines
(`Tailor.Reading.pass`) commutes with open conditional blocks, which let all of
it through or nothing (`Tailor.Reading.pass_push_condition`), and ends in an
open question block, which holds it back
(`Tailor.Reading.pass_push_ask`).
-/

namespace Tailor

namespace Reading

/-- Handing a line on changes no more of a block than the lines it holds back. -/
theorem map_deliver {α : Type} (view : Block → α)
    (blind : ∀ opened question offers held other,
      view (.ask opened question offers held) = view (.ask opened question offers other))
    (slot : List Offer → Slot) (line : NumberedLine) (stack : List Block)
    (output : List NumberedLine) :
    (deliver slot line stack output).stack.map view = stack.map view := by
  induction stack with
  | nil => rfl
  | cons block stack ih =>
      cases block with
      | condition sort opened verdict turned =>
          simp only [deliver, List.map_cons, ih]
      | ask opened question offers held =>
          simp only [deliver, List.map_cons]
          rw [blind opened question offers _ held]

/-- Hands a row of lines on, in order. -/
def emitAll (lines : List NumberedLine) (reading : Reading) : Reading :=
  lines.foldl (fun after line => after.emit line) reading

@[simp] theorem emitAll_nil (reading : Reading) : reading.emitAll [] = reading := rfl

theorem emitAll_cons (line : NumberedLine) (lines : List NumberedLine) (reading : Reading) :
    reading.emitAll (line :: lines) = (reading.emit line).emitAll lines := rfl

theorem emitAll_append (first second : List NumberedLine) (reading : Reading) :
    reading.emitAll (first ++ second) = (reading.emitAll first).emitAll second := by
  simp only [emitAll, List.foldl_append]

theorem map_emitAll {α : Type} (view : Block → α)
    (blind : ∀ opened question offers held other,
      view (.ask opened question offers held) = view (.ask opened question offers other))
    (lines : List NumberedLine) (reading : Reading) :
    (reading.emitAll lines).stack.map view = reading.stack.map view := by
  induction lines generalizing reading with
  | nil => rfl
  | cons line lines ih =>
      rw [emitAll_cons, ih]
      exact map_deliver view blind current line reading.stack reading.output

/-- With no block open, lines are written. -/
theorem emitAll_outside (lines output : List NumberedLine) :
    (Reading.mk [] output).emitAll lines = ⟨[], output ++ lines⟩ := by
  induction lines generalizing output with
  | nil => simp
  | cons line lines ih =>
      rw [emitAll_cons]
      change (Reading.mk [] (output ++ [line])).emitAll lines = _
      rw [ih, List.append_assoc]
      rfl

theorem emitAll_push_condition (lines : List NumberedLine) (reading : Reading)
    (sort : Condition.Sort) (opened : Nat) (verdict turned : Bool) :
    (reading.push (.condition sort opened verdict turned)).emitAll lines =
      (reading.emitAll lines).push (.condition sort opened verdict turned) := by
  induction lines generalizing reading with
  | nil => rfl
  | cons line lines ih =>
      rw [emitAll_cons, emitAll_cons, ← ih]
      rfl

theorem emitAll_push_ask (lines : List NumberedLine) (reading : Reading) (opened : Nat)
    (question : Text) (offers : List Offer) (held : List HeldLine) :
    (reading.push (.ask opened question offers held)).emitAll lines =
      reading.push (.ask opened question offers
        (held ++ lines.map fun line => ⟨.under offers.length, line⟩)) := by
  induction lines generalizing held with
  | nil => simp
  | cons line lines ih =>
      rw [emitAll_cons]
      change (reading.push (.ask opened question offers
        (held ++ [⟨.under offers.length, line⟩]))).emitAll lines = _
      rw [ih, List.append_assoc]
      rfl

/-- Whether lines are let through does not depend on what is held back. -/
theorem included_emitAll (lines : List NumberedLine) (reading : Reading) :
    included (reading.emitAll lines).stack = included reading.stack := by
  have same := map_emitAll Block.includes (fun _ _ _ _ _ => rfl) lines reading
  have through : ∀ stack, included stack = (stack.map Block.includes).all id := by
    intro stack
    rw [List.all_map]
    rfl
  rw [through, through, same]

@[simp] theorem included_push_condition (reading : Reading) (sort : Condition.Sort) (opened : Nat)
    (verdict turned : Bool) :
    included (reading.push (.condition sort opened verdict turned)).stack =
      (verdict && included reading.stack) := rfl

@[simp] theorem included_push_ask (reading : Reading) (opened : Nat) (question : Text)
    (offers : List Offer) (held : List HeldLine) :
    included (reading.push (.ask opened question offers held)).stack =
      included reading.stack := rfl

/-- Hands a row of lines on if every open conditional block lets it through. -/
def pass (lines : List NumberedLine) (reading : Reading) : Reading :=
  if included reading.stack then reading.emitAll lines else reading

@[simp] theorem pass_nil (reading : Reading) : reading.pass [] = reading := by
  simp [pass]

theorem pass_append (first second : List NumberedLine) (reading : Reading) :
    reading.pass (first ++ second) = (reading.pass first).pass second := by
  by_cases through : included reading.stack
  · have after : included (reading.emitAll first).stack := by
      rw [included_emitAll]
      exact through
    simp only [pass, through, after, ↓reduceIte, emitAll_append]
  · simp only [pass, through, ↓reduceIte, Bool.false_eq_true]

theorem content_eq_pass (line : NumberedLine) (reading : Reading) :
    reading.content line = reading.pass [line] := rfl

theorem echo_eq_pass (keep : Bool) (line : NumberedLine) (reading : Reading) :
    reading.echo keep line = reading.pass (keptLine keep line) := by
  cases keep with
  | false => simp [echo, keptLine]
  | true => rfl

/-- An open conditional block lets all lines through or none. -/
theorem pass_push_condition (lines : List NumberedLine) (reading : Reading)
    (sort : Condition.Sort) (opened : Nat) (verdict turned : Bool) :
    (reading.push (.condition sort opened verdict turned)).pass lines =
      (reading.pass (if verdict then lines else [])).push
        (.condition sort opened verdict turned) := by
  cases verdict with
  | false => simp [pass]
  | true =>
      by_cases through : included reading.stack
      · simp only [pass, included_push_condition, Bool.true_and, through, ↓reduceIte]
        exact emitAll_push_condition lines reading sort opened true turned
      · simp only [pass, included_push_condition, Bool.true_and, through, ↓reduceIte,
          Bool.false_eq_true]

/-- The lines that reach a stack. -/
def reaching {α : Type} (stack : List Block) (lines : List α) : List α :=
  if included stack then lines else []

theorem reaching_append {α : Type} (stack : List Block) (first second : List α) :
    reaching stack (first ++ second) = reaching stack first ++ reaching stack second := by
  unfold reaching
  split
  · rfl
  · rfl

/-- An open question block holds back the lines that reach it, under the last
of the options opened so far. -/
theorem pass_push_ask (lines : List NumberedLine) (reading : Reading) (opened : Nat)
    (question : Text) (offers : List Offer) (held : List HeldLine) :
    (reading.push (.ask opened question offers held)).pass lines =
      reading.push (.ask opened question offers
        (held ++ reaching reading.stack
          (lines.map fun line => (⟨.under offers.length, line⟩ : HeldLine)))) := by
  by_cases through : included reading.stack
  · simp only [pass, included_push_ask, through, ↓reduceIte, reaching]
    exact emitAll_push_ask lines reading opened question offers held
  · simp [pass, through, reaching]

/-- The line of an option is held back by its own block, whatever the answer. -/
theorem echoAlways_push_ask (keep : Bool) (line : NumberedLine) (reading : Reading) (opened : Nat)
    (question : Text) (offers : List Offer) (held : List HeldLine) :
    (reading.push (.ask opened question offers held)).echoAlways keep line =
      reading.push (.ask opened question offers
        (held ++ reaching reading.stack
          ((keptLine keep line).map fun line => (⟨.always, line⟩ : HeldLine)))) := by
  cases keep with
  | false => simp [echoAlways, keptLine, reaching]
  | true =>
      by_cases through : included reading.stack
      · simp only [echoAlways, included_push_ask, through, Bool.and_self, ↓reduceIte, keptLine,
          reaching]
        rfl
      · simp [echoAlways, through, reaching]

/-- Releasing held lines hands on those whose slot is kept. -/
theorem release_eq_emitAll (keeps : Slot → Bool) (held : List HeldLine) (reading : Reading) :
    reading.release keeps held =
      reading.emitAll ((held.filter fun item => keeps item.slot).map HeldLine.line) := by
  simp only [release, emitAll, List.foldl_map]

end Reading

end Tailor
