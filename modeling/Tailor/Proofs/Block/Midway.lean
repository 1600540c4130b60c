import Tailor.Proofs.Block.Removal
import Tailor.Proofs.Block.Survival

/-! # In the midst of a document

Behind any number of lines the open blocks, the lines that they hold back and the lines
written fit together (`Tailor.Reading.InOrder`): the lines written, and behind them the
lines held back from the outermost block to the innermost one, are lines that were read, in
their order, and so are the lines that opened the blocks and their options. A line that is
held back stands behind the line that opened its slot and before the next option
(`Tailor.HeldLine.Placed`). Whatever a line does (`Tailor.Reading.Move`) keeps this up.
-/

namespace Tailor

namespace Block

def isAsk : Block → Bool
  | .condition _ _ _ _ => false
  | .ask _ _ _ _ => true

/-- The verdict of the block was turned round. -/
def isTurned : Block → Bool
  | .condition _ _ _ turned => turned
  | .ask _ _ _ _ => false

def offers : Block → List Offer
  | .condition _ _ _ _ => []
  | .ask _ _ offers _ => offers

def held : Block → List HeldLine
  | .condition _ _ _ _ => []
  | .ask _ _ _ held => held

/-- The numbers of the lines that opened the block and then its options. -/
def marks (block : Block) : List Nat := block.openedAt :: block.offers.map Offer.line

end Block

/-- A line that is held back by a block stands behind the line that opened its slot and before
the next option; one that is always kept is the line of an option itself. -/
inductive HeldLine.Placed (opening : Nat) (offers : List Offer) : HeldLine → Prop where
  | always {line : NumberedLine} (own : line.number ∈ offers.map Offer.line) :
      Placed opening offers ⟨.always, line⟩
  | under {line : NumberedLine} {opened mark : Nat} (few : opened ≤ offers.length)
      (marked : (opening :: offers.map Offer.line)[opened]? = some mark)
      (behind : mark < line.number)
      (before : ∀ next, offers[opened]? = some next → line.number < next.line) :
      Placed opening offers ⟨.under opened, line⟩

namespace HeldLine

variable {opening : Nat} {offers : List Offer} {line : NumberedLine} {item : HeldLine}

/-- Behind all marks of its block a line stands under the last option. -/
theorem placed_current (beyond : ∀ mark ∈ opening :: offers.map Offer.line, mark < line.number) :
    Placed opening offers ⟨.under offers.length, line⟩ := by
  have last : offers.length < (opening :: offers.map Offer.line).length := by simp
  refine .under le_rfl (List.getElem?_eq_getElem last) (beyond _ (List.getElem_mem last)) ?_
  intro next further
  rw [List.getElem?_eq_none le_rfl] at further
  cases further

/-- A further option behind a line leaves it in its place. -/
theorem Placed.append (placed : item.Placed opening offers) {offer : Offer}
    (later : item.line.number < offer.line) : item.Placed opening (offers ++ [offer]) := by
  cases placed with
  | always own => exact .always (by simp [own])
  | @under line opened mark few marked behind before =>
      have longer : (opening :: (offers ++ [offer]).map Offer.line)[opened]? = some mark := by
        rw [List.map_append, ← List.cons_append, List.getElem?_append_left (by simp; omega)]
        exact marked
      refine .under (by simp; omega) longer behind fun next further => ?_
      rcases Nat.lt_or_eq_of_le few with inside | rfl
      · rw [List.getElem?_append_left inside] at further
        exact before next further
      · rw [List.getElem?_concat_length] at further
        cases further
        exact later

/-- A line that is held back stands behind the line that opened its block. -/
theorem Placed.behind_opening (placed : item.Placed opening offers)
    (sorted : (opening :: offers.map Offer.line).Pairwise (· < ·)) :
    opening < item.line.number := by
  have first : ∀ mark ∈ offers.map Offer.line, opening < mark := (List.pairwise_cons.mp sorted).1
  cases placed with
  | always own => exact first _ own
  | @under line opened mark few marked behind before =>
      cases opened with
      | zero =>
          cases marked
          exact behind
      | succ position => exact (first mark (List.mem_of_getElem? marked)).trans behind

end HeldLine

namespace Reading

/-! ## What a line does -/

/-- What a line can make of a state of reading. -/
inductive Move (keep : Bool) (line : NumberedLine) : Reading → Reading → Prop where
  | content (reading : Reading) : Move keep line reading (reading.pass [line])
  | comment (reading : Reading) : Move keep line reading (reading.pass (keptLine keep line))
  | condition (reading : Reading) (sort : Condition.Sort) (verdict : Bool) :
      Move keep line reading
        ((reading.pass (keptLine keep line)).push (.condition sort line.number verdict false))
  | otherwise (outer : Reading) (sort : Condition.Sort) (opened : Nat) (verdict : Bool) :
      Move keep line (outer.push (.condition sort opened verdict false))
        ((outer.pass (keptLine keep line)).push (.condition sort opened (!verdict) true))
  | endCondition (outer : Reading) (sort : Condition.Sort) (opened : Nat)
      (verdict turned : Bool) :
      Move keep line (outer.push (.condition sort opened verdict turned))
        (outer.pass (keptLine keep line))
  | ask (reading : Reading) (question : Text) :
      Move keep line reading
        ((reading.pass (keptLine keep line)).push (.ask line.number question [] []))
  | option (outer : Reading) (opened : Nat) (question : Text) (offers : List Offer)
      (held : List HeldLine) (label : Text) :
      Move keep line (outer.push (.ask opened question offers held))
        (outer.push (.ask opened question (offers ++ [⟨label, line.number⟩])
          (held ++ reaching outer.stack
            ((keptLine keep line).map fun line => (⟨.always, line⟩ : HeldLine)))))
  | endAsk (outer : Reading) (opened : Nat) (question : Text) (offers : List Offer)
      (held : List HeldLine) (keeps : Slot → Bool) :
      Move keep line (outer.push (.ask opened question offers held))
        ((outer.release keeps held).pass (keptLine keep line))

section Step

variable {σ : Type} {world : World σ} {marking : Marking} {reading next : Reading}
  {line : NumberedLine} {session after : Session σ}

/-- A line that is read does one of these. -/
theorem step_moves
    (stepped : Act.from_ session (reading.step world marking line) = (.ok next, after)) :
    Move marking.keepDirectives line reading next := by
  obtain ⟨stack, output⟩ := reading
  match means : Directive.ofLine marking.mark line.text, stack with
  | .ok none, _ =>
      rw [step_content means] at stepped
      cases stepped
      exact .content _
  | .ok (some .comment), _ =>
      rw [step_comment means] at stepped
      cases stepped
      exact .comment _
  | .ok (some (.condition asked)), _ =>
      rw [step_condition means, Act.from_bind_eq_ok] at stepped
      obtain ⟨verdict, _, _, rest⟩ := stepped
      cases rest
      exact .condition _ asked.sort verdict
  | .ok (some (.ask argument)), _ =>
      rw [step_ask means, Act.from_bind_eq_ok] at stepped
      obtain ⟨question, _, _, rest⟩ := stepped
      cases rest
      exact .ask _ question
  | .ok (some .otherwise), .condition sort opened verdict false :: outer =>
      rw [mk_cons, step_otherwise means] at stepped
      cases stepped
      exact .otherwise ⟨outer, output⟩ sort opened verdict
  | .ok (some .endCondition), .condition sort opened verdict turned :: outer =>
      rw [mk_cons, step_endCondition means] at stepped
      cases stepped
      exact .endCondition ⟨outer, output⟩ sort opened verdict turned
  | .ok (some (.option label)), .ask opened question offers held :: outer =>
      rw [mk_cons, step_option means] at stepped
      cases stepped
      exact .option ⟨outer, output⟩ opened question offers held label
  | .ok (some .endAsk), .ask opened question offers held :: outer =>
      rw [mk_cons, step_endAsk means, Act.from_bind_eq_ok] at stepped
      obtain ⟨answer, _, _, rest⟩ := stepped
      cases rest
      exact .endAsk ⟨outer, output⟩ opened question offers held (answer.keeps offers.length)
  | .error _, _ | .ok (some .otherwise), [] | .ok (some .otherwise), .ask _ _ _ _ :: _
  | .ok (some .otherwise), .condition _ _ _ true :: _ | .ok (some .endCondition), []
  | .ok (some .endCondition), .ask _ _ _ _ :: _ | .ok (some .endAsk), []
  | .ok (some .endAsk), .condition _ _ _ _ :: _ | .ok (some (.option _)), []
  | .ok (some (.option _)), .condition _ _ _ _ :: _ =>
      simp only [step, means] at stepped
      cases stepped

end Step

/-! ## What fits together -/

/-- The marks of the open blocks, from the outermost to the innermost. -/
def marks (reading : Reading) : List Nat := reading.stack.reverse.flatMap Block.marks

/-- The lines written, and behind them those held back, from the outermost block to the
innermost. -/
def lines (reading : Reading) : List NumberedLine :=
  reading.output ++ reading.stack.reverse.flatMap fun block => block.held.map HeldLine.line

/-- Every line that is held back stands where its slot says. -/
def Placed (reading : Reading) : Prop :=
  ∀ block ∈ reading.stack, ∀ item ∈ block.held, item.Placed block.openedAt block.offers

section Views

variable (reading : Reading) (block : Block) (further : List NumberedLine)

@[simp] theorem marks_push : (reading.push block).marks = reading.marks ++ block.marks := by
  simp [marks, push]

@[simp] theorem lines_push :
    (reading.push block).lines = reading.lines ++ block.held.map HeldLine.line := by
  simp [lines, push]

theorem placed_push_iff :
    (reading.push block).Placed ↔
      (∀ item ∈ block.held, item.Placed block.openedAt block.offers) ∧ reading.Placed :=
  List.forall_mem_cons

@[simp] theorem marks_emitAll : (reading.emitAll further).marks = reading.marks := by
  have same := map_emitAll Block.marks (fun _ _ _ _ _ => rfl) further reading
  simp only [marks, List.flatMap, List.map_reverse, same]

@[simp] theorem marks_pass : (reading.pass further).marks = reading.marks := by
  unfold pass
  split
  · exact marks_emitAll reading further
  · rfl

/-- Lines that are handed on come behind all others. -/
@[simp] theorem lines_emitAll : (reading.emitAll further).lines = reading.lines ++ further := by
  obtain ⟨stack, output⟩ := reading
  induction stack with
  | nil => simp [emitAll_outside, lines]
  | cons block stack ih =>
      rw [mk_cons]
      cases block with
      | condition sort opened verdict turned =>
          rw [emitAll_push_condition, lines_push, lines_push, ih]
          simp [Block.held]
      | ask opened question offers held =>
          rw [emitAll_push_ask, lines_push, lines_push]
          simp [Block.held, Function.comp_def]

theorem lines_pass :
    (reading.pass further).lines = reading.lines ++ reaching reading.stack further := by
  unfold pass reaching
  split
  · exact lines_emitAll reading further
  · simp

variable {reading further}

/-- Lines beyond all marks take their places when they are handed on. -/
theorem Placed.emitAll (placed : reading.Placed)
    (beyond : ∀ line ∈ further, ∀ mark ∈ reading.marks, mark < line.number) :
    (reading.emitAll further).Placed := by
  obtain ⟨stack, output⟩ := reading
  induction stack with
  | nil => simp [emitAll_outside, Placed]
  | cons block stack ih =>
      rw [mk_cons] at placed beyond ⊢
      obtain ⟨inBlock, outside⟩ := (placed_push_iff ..).mp placed
      rw [marks_push] at beyond
      cases block with
      | condition sort opened verdict turned =>
          rw [emitAll_push_condition, placed_push_iff]
          exact ⟨inBlock, ih outside fun line listed mark marked =>
            beyond line listed mark (List.mem_append_left _ marked)⟩
      | ask opened question offers held =>
          rw [emitAll_push_ask, placed_push_iff]
          refine ⟨fun item listed => ?_, outside⟩
          rcases List.mem_append.mp listed with old | new
          · exact inBlock item old
          · obtain ⟨line, added, rfl⟩ := List.mem_map.mp new
            exact HeldLine.placed_current fun mark marked =>
              beyond line added mark (List.mem_append_right _ marked)

theorem Placed.pass (placed : reading.Placed)
    (beyond : ∀ line ∈ further, ∀ mark ∈ reading.marks, mark < line.number) :
    (reading.pass further).Placed := by
  unfold Reading.pass
  split
  · exact placed.emitAll beyond
  · exact placed

end Views

/-- What a reading has of the lines that were read: where blocks and their options were
opened, and what is written or held back, each in the order of the lines, and what is held
back in its place. -/
structure InOrder (read : List NumberedLine) (reading : Reading) : Prop where
  marks : reading.marks.Sublist (read.map NumberedLine.number)
  lines : reading.lines.Sublist read
  placed : reading.Placed

theorem inOrder_start : InOrder [] start := ⟨.refl _, .refl _, by simp [Placed, start]⟩

theorem keptLine_sublist (keep : Bool) (line : NumberedLine) :
    (keptLine keep line).Sublist [line] := by
  cases keep with
  | false => exact List.nil_sublist _
  | true => exact .refl _

theorem reaching_sublist {α : Type} (stack : List Block) (lines : List α) :
    (reaching stack lines).Sublist lines := by
  unfold reaching
  split
  · exact .refl _
  · exact List.nil_sublist _

theorem reaching_map {α β : Type} (stack : List Block) (change : α → β) (lines : List α) :
    reaching stack (lines.map change) = (reaching stack lines).map change := by
  unfold reaching
  split
  · rfl
  · rfl

namespace InOrder

variable {read further : List NumberedLine} {reading outer next : Reading} {block old : Block}
  {line : NumberedLine} {keep : Bool}

/-- Without its innermost block a reading is still in order. -/
theorem of_push (order : InOrder read (outer.push block)) : InOrder read outer where
  marks := by
    have marks := order.marks
    rw [marks_push] at marks
    exact (List.sublist_append_left _ _).trans marks
  lines := by
    have lines := order.lines
    rw [lines_push] at lines
    exact (List.sublist_append_left _ _).trans lines
  placed := ((placed_push_iff ..).mp order.placed).2

section Fresh

variable (fresh : ∀ earlier ∈ read, earlier.number < line.number)

include fresh

theorem marks_before (order : InOrder read reading) :
    ∀ mark ∈ reading.marks, mark < line.number := by
  intro mark marked
  obtain ⟨earlier, listed, rfl⟩ := List.mem_map.mp (order.marks.subset marked)
  exact fresh earlier listed

theorem pass (order : InOrder read reading) (own : further.Sublist [line]) :
    InOrder (read ++ [line]) (reading.pass further) where
  marks := by
    rw [marks_pass, List.map_append]
    exact order.marks.trans (List.sublist_append_left _ _)
  lines := by
    rw [lines_pass]
    exact order.lines.append ((reaching_sublist _ _).trans own)
  placed := by
    refine order.placed.pass fun passed listed mark marked => ?_
    rw [List.mem_singleton.mp (own.subset listed)]
    exact order.marks_before fresh mark marked

/-- A line opens a block. -/
theorem opens (order : InOrder read reading) (own : further.Sublist [line])
    (marks : block.marks = [line.number]) (nothing : block.held = []) :
    InOrder (read ++ [line]) ((reading.pass further).push block) where
  marks := by
    rw [marks_push, marks_pass, marks, List.map_append]
    exact order.marks.append (.refl _)
  lines := by
    rw [lines_push, nothing, List.map_nil, List.append_nil]
    exact (order.pass fresh own).lines
  placed := by
    rw [placed_push_iff, nothing]
    exact ⟨by simp, (order.pass fresh own).placed⟩

/-- The innermost block holds nothing back and is replaced by one with its marks. -/
theorem replaces (order : InOrder read (outer.push old)) (own : further.Sublist [line])
    (marks : block.marks = old.marks) (nothing : block.held = []) :
    InOrder (read ++ [line]) ((outer.pass further).push block) where
  marks := by
    have before := order.marks
    rw [marks_push] at before
    rw [marks_push, marks_pass, marks, List.map_append]
    exact before.trans (List.sublist_append_left _ _)
  lines := by
    rw [lines_push, nothing, List.map_nil, List.append_nil]
    exact (order.of_push.pass fresh own).lines
  placed := by
    rw [placed_push_iff, nothing]
    exact ⟨by simp, (order.of_push.pass fresh own).placed⟩

/-- A line opens an option of the innermost block, which may hold it back. -/
theorem offers {opened : Nat} {question label : Text} {offers : List Offer}
    {held : List HeldLine} (order : InOrder read (outer.push (.ask opened question offers held)))
    (own : further.Sublist [line]) :
    InOrder (read ++ [line]) (outer.push (.ask opened question (offers ++ [⟨label, line.number⟩])
      (held ++ further.map fun line => ⟨.always, line⟩))) where
  marks := by
    have before := order.marks
    rw [marks_push] at before
    rw [marks_push, List.map_append]
    have longer : (Block.ask opened question (offers ++ [⟨label, line.number⟩])
        (held ++ further.map fun line => ⟨.always, line⟩)).marks =
          (Block.ask opened question offers held).marks ++ [line.number] := by
      simp [Block.marks, Block.offers, Block.openedAt]
    rw [longer, ← List.append_assoc]
    exact before.append (.refl _)
  lines := by
    have before := order.lines
    rw [lines_push, Block.held] at before
    rw [lines_push, Block.held, List.map_append, List.map_map, ← List.append_assoc]
    refine before.append ?_
    simpa [Function.comp_def] using own
  placed := by
    obtain ⟨inBlock, outside⟩ := (placed_push_iff ..).mp order.placed
    refine (placed_push_iff ..).mpr ⟨fun item listed => ?_, outside⟩
    rcases List.mem_append.mp listed with earlier | new
    · refine (inBlock item earlier).append (fresh item.line ?_)
      apply order.lines.subset
      rw [lines_push]
      exact List.mem_append_right _ (List.mem_map_of_mem earlier)
    · obtain ⟨passed, added, rfl⟩ := List.mem_map.mp new
      rw [List.mem_singleton.mp (own.subset added)]
      exact .always (by simp [Block.offers])

end Fresh

/-- A question block is closed, and lines that it held back are handed on. -/
theorem release {opened : Nat} {question : Text} {offers : List Offer} {held : List HeldLine}
    (order : InOrder read (outer.push (.ask opened question offers held)))
    (sorted : read.Pairwise fun one other => one.number < other.number) (keeps : Slot → Bool) :
    InOrder read (outer.release keeps held) := by
  have marks := order.marks
  have lines := order.lines
  rw [marks_push] at marks
  rw [lines_push, Block.held] at lines
  have sortedMarks := (List.pairwise_map.mpr sorted).sublist marks
  obtain ⟨_, inBlock, between⟩ := List.pairwise_append.mp sortedMarks
  rw [release_eq_emitAll]
  refine ⟨?_, ?_, ?_⟩
  · rw [marks_emitAll]
    exact (List.sublist_append_left _ _).trans marks
  · rw [lines_emitAll]
    exact ((List.Sublist.refl _).append (List.filter_sublist.map _)).trans lines
  · obtain ⟨placed, outside⟩ := (placed_push_iff ..).mp order.placed
    refine outside.emitAll fun passed listed mark marked => ?_
    obtain ⟨item, kept, rfl⟩ := List.mem_map.mp listed
    have behind := (placed item (List.mem_of_mem_filter kept)).behind_opening inBlock
    exact (between mark marked opened List.mem_cons_self).trans behind

end InOrder

/-- **One line.** What a line does keeps the reading in order, with the line among those
that were read. -/
theorem Move.inOrder {read : List NumberedLine} {reading next : Reading} {line : NumberedLine}
    {keep : Bool} (move : Move keep line reading next) (order : InOrder read reading)
    (sorted : (read ++ [line]).Pairwise fun one other => one.number < other.number) :
    InOrder (read ++ [line]) next := by
  obtain ⟨sortedRead, _, ahead⟩ := List.pairwise_append.mp sorted
  have fresh : ∀ earlier ∈ read, earlier.number < line.number :=
    fun earlier listed => ahead earlier listed line List.mem_cons_self
  have kept := keptLine_sublist keep line
  cases move with
  | content => exact order.pass fresh (.refl _)
  | comment => exact order.pass fresh kept
  | condition sort verdict => exact order.opens fresh kept rfl rfl
  | otherwise outer sort opened verdict => exact order.replaces fresh kept rfl rfl
  | endCondition outer sort opened verdict turned => exact order.of_push.pass fresh kept
  | ask question => exact order.opens fresh kept rfl rfl
  | option outer opened question offers held label =>
      rw [reaching_map]
      exact order.offers fresh ((reaching_sublist _ _).trans kept)
  | endAsk outer opened question offers held keeps =>
      exact (order.release sortedRead keeps).pass fresh kept

variable {σ : Type} {world : World σ} {marking : Marking} {session after : Session σ}

/-- Lines that are read one after the other keep the reading in order. -/
theorem InOrder.steps {read lines : List NumberedLine} {reading next : Reading}
    (order : InOrder read reading)
    (sorted : (read ++ lines).Pairwise fun one other => one.number < other.number)
    (stepped : Act.from_ session (reading.steps world marking lines) = (.ok next, after)) :
    InOrder (read ++ lines) next := by
  induction lines generalizing read reading session with
  | nil =>
      cases stepped
      rwa [List.append_nil]
  | cons line lines ih =>
      rw [steps_cons, Act.from_bind_eq_ok] at stepped
      obtain ⟨middle, between, first, rest⟩ := stepped
      rw [List.append_cons] at sorted ⊢
      have sortedHere := sorted.sublist (List.sublist_append_left (read ++ [line]) lines)
      exact ih ((step_moves first).inOrder order sortedHere) sorted rest

/-- The numbers of the opening lines are marks. -/
theorem openedAt_sublist_marks (stack : List Block) :
    (stack.map Block.openedAt).Sublist (stack.flatMap Block.marks) := by
  induction stack with
  | nil => exact .refl _
  | cons block stack ih =>
      rw [List.map_cons, List.flatMap_cons, Block.marks, List.cons_append]
      exact (ih.trans (List.sublist_append_right _ _)).cons_cons _

/-- The marks of a block are among those of the reading. -/
theorem marks_sublist {reading : Reading} {block : Block} (opened : block ∈ reading.stack) :
    block.marks.Sublist reading.marks := by
  obtain ⟨inner, outer, split⟩ := List.append_of_mem opened
  simp only [marks, split, List.reverse_append, List.reverse_cons, List.flatMap_append,
    List.flatMap_cons, List.flatMap_nil, List.append_nil]
  exact ((List.sublist_append_right _ _).trans (List.sublist_append_left _ _))

/-- The first lines of a document with their numbers. -/
theorem mem_take_number {lines : List Text} {count : Nat} {line : NumberedLine}
    (listed : line ∈ (number lines).take count) :
    0 < line.number ∧ line.number ≤ count ∧ lines[line.number - 1]? = some line.text := by
  obtain ⟨position, inside, rfl⟩ := List.mem_take_iff_getElem.mp listed
  have few : position < min count lines.length := by simpa [number] using inside
  simp only [number, List.getElem_map, List.getElem_zipIdx]
  refine ⟨by omega, by omega, ?_⟩
  rw [Nat.add_sub_cancel_left]
  exact List.getElem?_eq_getElem (by omega)

/-- **In the midst of a document.** Behind any number of lines the open blocks stand in the
order of the lines that opened them; only question blocks have options and hold lines back,
and they let lines through and are not turned round; the lines written and then those held
back, from the outermost block to the innermost, are lines that were read, in their order; and
a line that is held back stands behind the line that opened its block and in the place that
its slot says. The second of these needs no step: `Block` is a sum, in which only a question
block has room for options and lines, and none for a verdict or a turn. -/
theorem steps_inOrder {lines : List Text} {count : Nat} {reading : Reading}
    (stepped : Act.from_ session (start.steps world marking ((number lines).take count)) =
      (.ok reading, after)) :
    (reading.stack.reverse.map Block.openedAt).Pairwise (· < ·) ∧
    (∀ block ∈ reading.stack,
      (block.isAsk = false → block.offers = [] ∧ block.held = []) ∧
      (block.isAsk = true → block.includes = true ∧ block.isTurned = false)) ∧
    (reading.lines.Pairwise (fun one other => one.number < other.number) ∧
      (∀ line ∈ reading.lines, 0 < line.number ∧ line.number ≤ count ∧
        lines[line.number - 1]? = some line.text) ∧
      ∀ block ∈ reading.stack, ∀ item ∈ block.held, block.openedAt < item.line.number) ∧
    ∀ block ∈ reading.stack, ∀ item ∈ block.held, item.Placed block.openedAt block.offers := by
  have sorted : ((number lines).take count).Pairwise fun one other => one.number < other.number :=
    (pairwise_numberFrom 1 lines).sublist (List.take_sublist _ _)
  have order := inOrder_start.steps sorted stepped
  rw [List.nil_append] at order
  have sortedMarks := (List.pairwise_map.mpr sorted).sublist order.marks
  refine ⟨sortedMarks.sublist (openedAt_sublist_marks _), ?_, ⟨sorted.sublist order.lines,
    fun line listed => mem_take_number (order.lines.subset listed), ?_⟩, order.placed⟩
  · intro block _
    cases block with
    | condition sort opened verdict turned => simp [Block.isAsk, Block.offers, Block.held]
    | ask opened question offers held => simp [Block.isAsk, Block.includes, Block.isTurned]
  · intro block opened item listed
    exact (order.placed block opened item listed).behind_opening
      (sortedMarks.sublist (marks_sublist opened))

/-- A question block with another one inside it, which is closed, and a third one. -/
def surveyLines : List Text :=
  ["#~ ASK Q?".toList, "#~ OPTION a".toList, "x".toList, "#~ ASK R?".toList,
    "#~ OPTION b".toList, "y".toList, "#~ ENDASK".toList, "#~ OPTION c".toList,
    "#~ ASK S?".toList, "z".toList, "#~ ENDASK".toList, "#~ ENDASK".toList]

/-- The state behind the tenth of these lines. -/
def surveyReading : Reading :=
  ⟨[.ask 9 "S?".toList [] [⟨.under 0, ⟨10, "z".toList⟩⟩],
    .ask 1 "Q?".toList [⟨"a".toList, 2⟩, ⟨"c".toList, 8⟩]
      [⟨.always, ⟨2, "#~ OPTION a".toList⟩⟩, ⟨.under 1, ⟨3, "x".toList⟩⟩,
        ⟨.under 1, ⟨4, "#~ ASK R?".toList⟩⟩, ⟨.under 1, ⟨5, "#~ OPTION b".toList⟩⟩,
        ⟨.under 1, ⟨6, "y".toList⟩⟩, ⟨.under 1, ⟨7, "#~ ENDASK".toList⟩⟩,
        ⟨.always, ⟨8, "#~ OPTION c".toList⟩⟩, ⟨.under 2, ⟨9, "#~ ASK S?".toList⟩⟩]],
    [⟨1, "#~ ASK Q?".toList⟩]⟩

theorem from_steps_surveyLines :
    ∃ after, Act.from_ (Session.start ()) (start.steps .obliging ⟨"#~".toList, true⟩
      ((number surveyLines).take 10)) = (.ok surveyReading, after) := ⟨_, by cbv⟩

theorem surveyReading_inOrder :
    ∃ after, Act.from_ (Session.start ()) (start.steps .obliging ⟨"#~".toList, true⟩
        ((number surveyLines).take 10)) = (.ok surveyReading, after) ∧
      (surveyReading.stack.reverse.map Block.openedAt).Pairwise (· < ·) ∧
      (∀ block ∈ surveyReading.stack,
        (block.isAsk = false → block.offers = [] ∧ block.held = []) ∧
        (block.isAsk = true → block.includes = true ∧ block.isTurned = false)) ∧
      (surveyReading.lines.Pairwise (fun one other => one.number < other.number) ∧
        (∀ line ∈ surveyReading.lines, 0 < line.number ∧ line.number ≤ 10 ∧
          surveyLines[line.number - 1]? = some line.text) ∧
        ∀ block ∈ surveyReading.stack, ∀ item ∈ block.held, block.openedAt < item.line.number) ∧
      ∀ block ∈ surveyReading.stack, ∀ item ∈ block.held,
        item.Placed block.openedAt block.offers := by
  obtain ⟨after, stepped⟩ := from_steps_surveyLines
  exact ⟨after, stepped, steps_inOrder stepped⟩

end Reading

end Tailor
