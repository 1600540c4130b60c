import Tailor.Proofs.Block.Extent
import Tailor.Proofs.Block.Walk

/-! # Removing directive lines

Whether directive lines are kept matters to nothing but their presence. A reading
that keeps them, with its directive lines taken out (`Tailor.Reading.strip`), is
the reading that removes them, at every depth of open blocks. So the two take
the same steps (`Tailor.Reading.step_strip`): they run the same commands, resolve
the same queries and fail alike, and of what is written the content lines are
left (`Tailor.evaluate_removed`).
-/

namespace Tailor

variable {σ : Type} {world : World σ}

/-- The line is a content line under the mark. -/
def isContentLine (mark : Text) (line : NumberedLine) : Bool :=
  Meaning.isContent (Directive.ofLine mark line.text)

theorem isContentLine_of_content {mark : Text} {line : NumberedLine}
    (means : Directive.ofLine mark line.text = .ok none) : isContentLine mark line = true := by
  unfold isContentLine
  rw [means]
  rfl

theorem isContentLine_of_directive {mark : Text} {line : NumberedLine} {read : Directive}
    (means : Directive.ofLine mark line.text = .ok (some read)) :
    isContentLine mark line = false := by
  unfold isContentLine
  rw [means]
  rfl

section Strip

variable (wanted : NumberedLine → Bool)

namespace Block

/-- The block with only those of the lines held back that are wanted. -/
def strip : Block → Block
  | .condition sort line verdict turned => .condition sort line verdict turned
  | .ask line question offers held =>
      .ask line question offers (held.filter fun item => wanted item.line)

variable (block : Block)

theorem includes_strip : (block.strip wanted).includes = block.includes := by
  cases block <;> rfl

theorem openedAt_strip : (block.strip wanted).openedAt = block.openedAt := by
  cases block <;> rfl

theorem keyword_strip : (block.strip wanted).keyword = block.keyword := by
  cases block <;> rfl

end Block

namespace Reading

/-- The reading with only those of its lines that are wanted, written or held
back. -/
def strip (reading : Reading) : Reading :=
  ⟨reading.stack.map (Block.strip wanted), reading.output.filter wanted⟩

theorem mk_cons (block : Block) (outer : List Block) (output : List NumberedLine) :
    Reading.mk (block :: outer) output = (Reading.mk outer output).push block := rfl

theorem strip_start : start.strip wanted = start := rfl

theorem strip_push (block : Block) (reading : Reading) :
    (reading.push block).strip wanted = (reading.strip wanted).push (block.strip wanted) := rfl

/-- Which lines are let through does not depend on what is held back. -/
theorem included_strip (reading : Reading) :
    included (reading.strip wanted).stack = included reading.stack := by
  simp only [included, strip, List.all_map, Function.comp_def, Block.includes_strip]

/-- Of the lines that are handed on those are there behind it that are wanted. -/
theorem strip_emitAll (lines : List NumberedLine) (reading : Reading) :
    (reading.emitAll lines).strip wanted =
      (reading.strip wanted).emitAll (lines.filter wanted) := by
  obtain ⟨stack, output⟩ := reading
  induction stack with
  | nil =>
      rw [emitAll_outside]
      simp only [strip, List.map_nil, List.filter_append, emitAll_outside]
  | cons block stack ih =>
      rw [mk_cons, strip_push]
      cases block with
      | condition sort opened verdict turned =>
          rw [emitAll_push_condition, strip_push, ih, Block.strip, emitAll_push_condition]
      | ask opened question offers held =>
          rw [emitAll_push_ask, strip_push]
          simp only [Block.strip, List.filter_append, List.filter_map, Function.comp_def,
            emitAll_push_ask]

theorem strip_pass (lines : List NumberedLine) (reading : Reading) :
    (reading.pass lines).strip wanted = (reading.strip wanted).pass (lines.filter wanted) := by
  unfold pass
  rw [included_strip]
  split
  · exact strip_emitAll wanted lines reading
  · rfl

/-- A directive line that is kept is taken out again. -/
theorem strip_pass_keptLine {line : NumberedLine} (unwanted : wanted line = false)
    (reading : Reading) :
    (reading.pass (keptLine true line)).strip wanted =
      (reading.strip wanted).pass (keptLine false line) := by
  rw [strip_pass]
  simp [keptLine, unwanted]

/-- The line of an option that is kept is taken out again. -/
theorem strip_echoed_option {line : NumberedLine} (unwanted : wanted line = false)
    (reading : Reading) (opened : Nat) (question : Text) (offers : List Offer)
    (held : List HeldLine) :
    Block.strip wanted (.ask opened question offers (held ++ reaching reading.stack
        ((keptLine true line).map fun line => (⟨.always, line⟩ : HeldLine)))) =
      .ask opened question offers ((held.filter fun item => wanted item.line) ++
        reaching (reading.strip wanted).stack
          ((keptLine false line).map fun line => (⟨.always, line⟩ : HeldLine))) := by
  simp only [Block.strip, List.filter_append, reaching, included_strip]
  split <;> simp [keptLine, unwanted]

theorem strip_release (keeps : Slot → Bool) (held : List HeldLine) (reading : Reading) :
    (reading.release keeps held).strip wanted =
      (reading.strip wanted).release keeps (held.filter fun item => wanted item.line) := by
  rw [release_eq_emitAll, release_eq_emitAll, strip_emitAll, List.filter_map, List.filter_filter,
    List.filter_filter]
  simp only [Function.comp_def, Bool.and_comm]

end Reading

end Strip

namespace Reading

/-- **Reading without directive lines.** To remove directive lines while a line
is read is to take them out afterwards. -/
theorem step_strip (mark : Text) (reading : Reading) (line : NumberedLine) :
    (reading.strip (isContentLine mark)).step world ⟨mark, false⟩ line =
      strip (isContentLine mark) <$> reading.step world ⟨mark, true⟩ line := by
  obtain ⟨stack, output⟩ := reading
  match means : Directive.ofLine mark line.text, stack with
  | .error malformation, _ =>
      simp only [step, means]
      rfl
  | .ok none, _ =>
      rw [step_content means, step_content means, map_pure, strip_pass]
      simp [isContentLine_of_content means]
  | .ok (some .comment), _ =>
      rw [step_comment means, step_comment means, map_pure,
        strip_pass_keptLine _ (isContentLine_of_directive means)]
  | .ok (some (.condition asked)), _ =>
      rw [step_condition means, step_condition means, map_bind]
      refine bind_congr fun held => ?_
      rw [map_pure, strip_push, strip_pass_keptLine _ (isContentLine_of_directive means)]
      rfl
  | .ok (some (.ask argument)), _ =>
      rw [step_ask means, step_ask means, map_bind]
      refine bind_congr fun question => ?_
      rw [map_pure, strip_push, strip_pass_keptLine _ (isContentLine_of_directive means)]
      rfl
  | .ok (some .otherwise), .condition sort opened verdict false :: outer =>
      rw [mk_cons, strip_push, Block.strip, step_otherwise means, step_otherwise means,
        map_pure, strip_push, strip_pass_keptLine _ (isContentLine_of_directive means)]
      rfl
  | .ok (some .endCondition), .condition sort opened verdict turned :: outer =>
      rw [mk_cons, strip_push, Block.strip, step_endCondition means, step_endCondition means,
        map_pure, strip_pass_keptLine _ (isContentLine_of_directive means)]
  | .ok (some (.option label)), .ask opened question offers held :: outer =>
      rw [mk_cons, strip_push, Block.strip, step_option means, step_option means, map_pure,
        strip_push, strip_echoed_option _ (isContentLine_of_directive means)]
  | .ok (some .endAsk), .ask opened question offers held :: outer =>
      rw [mk_cons, strip_push, Block.strip, step_endAsk means, step_endAsk means, map_bind]
      refine bind_congr fun answer => ?_
      rw [map_pure, strip_pass_keptLine _ (isContentLine_of_directive means), strip_release]
  | .ok (some .otherwise), [] | .ok (some .otherwise), .ask _ _ _ _ :: _
  | .ok (some .otherwise), .condition _ _ _ true :: _ | .ok (some .endCondition), []
  | .ok (some .endCondition), .ask _ _ _ _ :: _ | .ok (some .endAsk), []
  | .ok (some .endAsk), .condition _ _ _ _ :: _ | .ok (some (.option _)), []
  | .ok (some (.option _)), .condition _ _ _ _ :: _ =>
      simp only [step, means]
      rfl

theorem steps_strip (mark : Text) (reading : Reading) (lines : List NumberedLine) :
    (reading.strip (isContentLine mark)).steps world ⟨mark, false⟩ lines =
      strip (isContentLine mark) <$> reading.steps world ⟨mark, true⟩ lines := by
  induction lines generalizing reading with
  | nil => simp only [steps, map_pure]
  | cons line lines ih =>
      rw [steps_cons, steps_cons, step_strip, bind_map_left, map_bind]
      refine bind_congr fun next => ?_
      rw [ih]

/-- A document that ends inside a block ends inside the stripped one. -/
theorem finish_strip (wanted : NumberedLine → Bool) (reading : Reading) :
    ((reading.strip wanted).finish : Act σ (List NumberedLine)) =
      List.filter wanted <$> reading.finish := by
  obtain ⟨stack, output⟩ := reading
  cases stack with
  | nil => rfl
  | cons innermost outer =>
      simp only [finish, strip, List.map_cons, List.map_map, Function.comp_def,
        Block.keyword_strip, Block.openedAt_strip]
      rfl

end Reading

theorem evaluate_strip (world : World σ) (mark : Text) (lines : List Text) :
    evaluate world ⟨mark, false⟩ lines =
      List.filter (isContentLine mark) <$> evaluate world ⟨mark, true⟩ lines := by
  unfold evaluate
  rw [← Reading.strip_start (isContentLine mark), Reading.steps_strip, bind_map_left, map_bind]
  refine bind_congr fun reading => ?_
  rw [Reading.finish_strip]

/-- **Removing directive lines.** A document is evaluated alike whether its
directive lines are kept or removed: the same session is left, with the same
commands, queries and answers in it, and the fault is the same if there is one.
Otherwise the content lines are left of what is written. -/
theorem evaluate_removed (world : World σ) (mark : Text) (lines : List Text)
    (session : Session σ) :
    Act.from_ session (evaluate world ⟨mark, false⟩ lines) =
      match Act.from_ session (evaluate world ⟨mark, true⟩ lines) with
      | (.ok output, after) => (.ok (output.filter (isContentLine mark)), after)
      | (.error fault, after) => (.error fault, after) := by
  rw [evaluate_strip, Act.from_map]
  rcases Act.from_ session (evaluate world ⟨mark, true⟩ lines) with ⟨outcome, after⟩
  cases outcome with
  | ok output => rfl
  | error fault => rfl

end Tailor
