import Tailor.Proofs.Block.Removal
import Tailor.Proofs.Query.AskOnce
import Tailor.Proofs.Session.Faults

/-! # Lines in other places

What a document does depends on its lines in order, not on the numbers under which they
stand. A reading whose lines have other numbers, and behind lines that are written already
(`Tailor.Reading.behind`), takes the same steps: it leaves the same session, and what it
comes to has the other numbers (`Tailor.Reading.step_behind`). The number of a line comes
up again only in the faults, which may be compared in any way that goes along with the
numbers (`Tailor.World.Tolerates`).
-/

namespace Tailor

variable {σ α β γ δ : Type}

/-- The second outcome is made of the first: its value from the value, its fault related to
the fault. -/
inductive Corresponds (related : Fault → Fault → Prop) (value : α → β) :
    Except Fault α → Except Fault β → Prop where
  | ok (result : α) : Corresponds related value (.ok result) (.ok (value result))
  | error {fault other : Fault} (faults : related fault other) :
      Corresponds related value (.error fault) (.error other)

namespace Act

variable {related : Fault → Fault → Prop} {action : Act σ α} {other : Act σ β} {value : α → β}

/-- From every session the two actions leave the same one, and the outcome of the second is
made of that of the first. -/
structure Mirrors (related : Fault → Fault → Prop) (value : α → β) (action : Act σ α)
    (other : Act σ β) : Prop where
  outcome : ∀ session,
    Corresponds related value (from_ session action).1 (from_ session other).1
  session : ∀ session, (from_ session other).2 = (from_ session action).2

theorem mirrors_pure (result : α) :
    Mirrors related value (pure result : Act σ α) (pure (value result) : Act σ β) where
  outcome _ := .ok result
  session _ := rfl

theorem mirrors_throw {fault found : Fault} (faults : related fault found) :
    Mirrors related value (throw fault : Act σ α) (throw found : Act σ β) where
  outcome _ := .error faults
  session _ := rfl

theorem Mirrors.bind {next : α → Act σ γ} {otherNext : β → Act σ δ} {change : γ → δ}
    (first : Mirrors related value action other)
    (second : ∀ result, Mirrors related change (next result) (otherNext (value result))) :
    Mirrors related change (action >>= next) (other >>= otherNext) := by
  have both : ∀ session,
      Corresponds related change (from_ session (action >>= next)).1
          (from_ session (other >>= otherNext)).1 ∧
        (from_ session (other >>= otherNext)).2 = (from_ session (action >>= next)).2 := by
    intro session
    have begun := first.outcome session
    have left := first.session session
    rw [from_bind, from_bind]
    generalize from_ session action = result at begun left ⊢
    generalize from_ session other = otherResult at begun left ⊢
    obtain ⟨outcome, after⟩ := result
    obtain ⟨otherOutcome, otherAfter⟩ := otherResult
    cases left
    cases begun with
    | ok result => exact ⟨(second result).outcome after, (second result).session after⟩
    | error faults => exact ⟨.error faults, rfl⟩
  exact ⟨fun session => (both session).1, fun session => (both session).2⟩

/-- An action mirrors itself under another line number if its faults allow it. -/
theorem mirrors_atLine {action : Act σ α} {line place : Nat}
    (fails : FailsWith (fun fault => related (fault.atLine line) (fault.atLine place)) action) :
    Mirrors related id (atLine line action) (atLine place action) where
  outcome session := by
    rw [from_atLine, from_atLine]
    cases ended : from_ session action with
    | mk outcome after =>
        cases outcome with
        | ok result => exact .ok result
        | error fault => exact .error (fails session fault after ended)
  session session := by rw [from_atLine_snd, from_atLine_snd]

end Act

section Renumber

variable (f : Nat → Nat)

/-- The line under another number. -/
def NumberedLine.renumber (line : NumberedLine) : NumberedLine := ⟨f line.number, line.text⟩

def Offer.renumber (offer : Offer) : Offer := ⟨offer.label, f offer.line⟩

def HeldLine.renumber (item : HeldLine) : HeldLine := ⟨item.slot, item.line.renumber f⟩

/-- The block with other numbers on its lines. -/
def Block.renumber : Block → Block
  | .condition sort line verdict turned => .condition sort (f line) verdict turned
  | .ask line question offers held =>
      .ask (f line) question (offers.map (Offer.renumber f)) (held.map (HeldLine.renumber f))

/-- The flaw with other numbers for the lines that it names. -/
def StructureFlaw.renumber : StructureFlaw → StructureFlaw
  | .unterminated innermost openLines => .unterminated innermost (openLines.map f)
  | .repeatedOtherwise keyword line => .repeatedOtherwise keyword (f line)
  | .endConditionInAsk line => .endConditionInAsk (f line)
  | .endAskInCondition keyword line => .endAskInCondition keyword (f line)
  | .strayOtherwise => .strayOtherwise
  | .strayEndCondition => .strayEndCondition
  | .strayEndAsk => .strayEndAsk
  | .strayOption => .strayOption

theorem Block.includes_renumber (block : Block) :
    (block.renumber f).includes = block.includes := by
  cases block <;> rfl

theorem Block.keyword_renumber (block : Block) : (block.renumber f).keyword = block.keyword := by
  cases block <;> rfl

theorem Block.openedAt_renumber (block : Block) :
    (block.renumber f).openedAt = f block.openedAt := by
  cases block <;> rfl

theorem Offer.labels_renumber (offers : List Offer) :
    (offers.map (Offer.renumber f)).map Offer.label = offers.map Offer.label := by
  rw [List.map_map]
  rfl

/-- What has another number has the same category. -/
theorem StructureFlaw.category_renumber (flaw : StructureFlaw) :
    (Problem.nesting (flaw.renumber f)).category = (Problem.nesting flaw).category := by
  cases flaw <;> rfl

namespace Reading

variable (written : List NumberedLine)

/-- The reading with other numbers on its lines, behind lines that are written already. -/
def behind (reading : Reading) : Reading :=
  ⟨reading.stack.map (Block.renumber f), written ++ reading.output.map (NumberedLine.renumber f)⟩

theorem behind_push (block : Block) (reading : Reading) :
    (reading.push block).behind f written =
      (reading.behind f written).push (block.renumber f) := rfl

theorem included_behind (reading : Reading) :
    included (reading.behind f written).stack = included reading.stack := by
  simp only [included, behind, List.all_map, Function.comp_def, Block.includes_renumber]

theorem behind_emitAll (lines : List NumberedLine) (reading : Reading) :
    (reading.emitAll lines).behind f written =
      (reading.behind f written).emitAll (lines.map (NumberedLine.renumber f)) := by
  obtain ⟨stack, output⟩ := reading
  induction stack with
  | nil =>
      rw [emitAll_outside]
      simp only [behind, List.map_nil, List.map_append, emitAll_outside, List.append_assoc]
  | cons block stack ih =>
      rw [mk_cons, behind_push]
      cases block with
      | condition sort opened verdict turned =>
          rw [emitAll_push_condition, behind_push, ih, Block.renumber, emitAll_push_condition]
      | ask opened question offers held =>
          rw [emitAll_push_ask, behind_push]
          simp only [Block.renumber, List.map_append, List.map_map, emitAll_push_ask,
            List.length_map]
          rfl

theorem behind_pass (lines : List NumberedLine) (reading : Reading) :
    (reading.pass lines).behind f written =
      (reading.behind f written).pass (lines.map (NumberedLine.renumber f)) := by
  unfold pass
  rw [included_behind]
  split
  · exact behind_emitAll f written lines reading
  · rfl

theorem behind_keptLine (keep : Bool) (line : NumberedLine) (reading : Reading) :
    (reading.pass (keptLine keep line)).behind f written =
      (reading.behind f written).pass (keptLine keep (line.renumber f)) := by
  rw [behind_pass, map_keptLine]

theorem behind_release (keeps : Slot → Bool) (held : List HeldLine) (reading : Reading) :
    (reading.release keeps held).behind f written =
      (reading.behind f written).release keeps (held.map (HeldLine.renumber f)) := by
  rw [release_eq_emitAll, release_eq_emitAll, behind_emitAll, List.filter_map, List.map_map,
    List.map_map]
  rfl

/-- The line of an option is held back by its own block under its number. -/
theorem renumber_echoed_option (keep : Bool) (line : NumberedLine) (reading : Reading)
    (opened : Nat) (question : Text) (offers : List Offer) (held : List HeldLine) :
    Block.renumber f (.ask opened question offers (held ++ reaching reading.stack
        ((keptLine keep line).map fun line => (⟨.always, line⟩ : HeldLine)))) =
      .ask (f opened) question (offers.map (Offer.renumber f))
        (held.map (HeldLine.renumber f) ++ reaching (reading.behind f written).stack
          ((keptLine keep (line.renumber f)).map fun line => (⟨.always, line⟩ : HeldLine))) := by
  simp only [Block.renumber, List.map_append, reaching, included_behind, ← map_keptLine]
  split <;> simp [HeldLine.renumber, Function.comp_def]

end Reading

end Renumber

/-- Faults of a document are related to those of a document with other numbers: whatever
arises at a line without naming one, and flaws of its blocks, which name lines. -/
structure World.Tolerates (world : World σ) (f : Nat → Nat)
    (related : Fault → Fault → Prop) : Prop where
  commands : ∀ command state fault, (world.run command state).1 = .error fault →
    ∀ line, related (fault.atLine line) (fault.atLine (f line))
  queries : ∀ query state fault, (world.ask query state).1 = .error fault →
    ∀ line, related (fault.atLine line) (fault.atLine (f line))
  problem : ∀ what line, related (.problem what (some line)) (.problem what (some (f line)))
  nesting : ∀ flaw line, related (.problem (.nesting flaw) (some line))
    (.problem (.nesting (flaw.renumber f)) (some (f line)))

section Tolerates

variable {world : World σ} {f : Nat → Nat} {related : Fault → Fault → Prop}

theorem World.Tolerates.admissible (tolerates : world.Tolerates f related) (line : Nat) :
    Admissible world fun fault => related (fault.atLine line) (fault.atLine (f line)) where
  command command state fault failed := tolerates.commands command state fault failed line
  reference _ := tolerates.problem _ line
  key _ := tolerates.problem _ line

theorem World.Tolerates.verdict (tolerates : world.Tolerates f related) (line : Nat)
    (asked : Condition) :
    Act.Mirrors related id (Act.atLine line (Expression.verdict world asked))
      (Act.atLine (f line) (Expression.verdict world asked)) :=
  Act.mirrors_atLine (Expression.verdict_failsWith (tolerates.admissible line) asked)

theorem World.Tolerates.expand (tolerates : world.Tolerates f related) (line : Nat)
    (text : Text) :
    Act.Mirrors related id (Act.atLine line (Expression.expand world text))
      (Act.atLine (f line) (Expression.expand world text)) :=
  Act.mirrors_atLine (Expression.expand_failsWith (tolerates.admissible line) text)

theorem World.Tolerates.settleQuery (tolerates : world.Tolerates f related) (line : Nat)
    (query : Query) :
    Act.Mirrors related id (Act.atLine line (settleQuery world query))
      (Act.atLine (f line) (settleQuery world query)) :=
  Act.mirrors_atLine (settleQuery_failsWith
    (fun state fault failed => tolerates.queries query state fault failed line)
    fun _ => tolerates.problem _ line)

namespace Reading

variable (tolerates : world.Tolerates f related) (written : List NumberedLine)

include tolerates

/-- **Reading in another place.** A line is read alike under another number, behind lines
that are written already. -/
theorem step_behind (marking : Marking) (reading : Reading) (line : NumberedLine) :
    Act.Mirrors related (behind f written) (reading.step world marking line)
      ((reading.behind f written).step world marking (line.renumber f)) := by
  obtain ⟨stack, output⟩ := reading
  have there : Directive.ofLine marking.mark (line.renumber f).text =
    Directive.ofLine marking.mark line.text := rfl
  match means : Directive.ofLine marking.mark line.text, stack with
  | .error malformation, _ =>
      simp only [step, means, there]
      exact Act.mirrors_throw (tolerates.problem (.directive malformation) line.number)
  | .ok none, _ =>
      rw [step_content means, step_content (there.trans means),
        show [line.renumber f] = [line].map (NumberedLine.renumber f) from rfl, ← behind_pass]
      exact Act.mirrors_pure _
  | .ok (some .comment), _ =>
      rw [step_comment means, step_comment (there.trans means), ← behind_keptLine]
      exact Act.mirrors_pure _
  | .ok (some (.condition asked)), _ =>
      rw [step_condition means, step_condition (there.trans means), ← behind_keptLine]
      exact (tolerates.verdict line.number asked).bind fun held => Act.mirrors_pure _
  | .ok (some (.ask argument)), _ =>
      rw [step_ask means, step_ask (there.trans means), ← behind_keptLine]
      exact (tolerates.expand line.number argument).bind fun question => Act.mirrors_pure _
  | .ok (some .otherwise), .condition sort opened verdict false :: outer =>
      rw [mk_cons, behind_push, Block.renumber, step_otherwise means,
        step_otherwise (there.trans means), ← behind_keptLine]
      exact Act.mirrors_pure _
  | .ok (some .endCondition), .condition sort opened verdict turned :: outer =>
      rw [mk_cons, behind_push, Block.renumber, step_endCondition means,
        step_endCondition (there.trans means), ← behind_keptLine]
      exact Act.mirrors_pure _
  | .ok (some (.option label)), .ask opened question offers held :: outer =>
      rw [mk_cons, behind_push, Block.renumber, step_option means,
        step_option (there.trans means)]
      have echoed := renumber_echoed_option f written marking.keepDirectives line
        (Reading.mk outer output) opened question (offers ++ [⟨label, line.number⟩]) held
      rw [List.map_append] at echoed
      rw [show [(⟨label, (line.renumber f).number⟩ : Offer)] =
        [⟨label, line.number⟩].map (Offer.renumber f) from rfl, ← echoed, ← behind_push]
      exact Act.mirrors_pure _
  | .ok (some .endAsk), .ask opened question offers held :: outer =>
      rw [mk_cons, behind_push, Block.renumber, step_endAsk means,
        step_endAsk (there.trans means), Offer.labels_renumber, List.length_map]
      refine (tolerates.settleQuery line.number _).bind fun answer => ?_
      rw [id_eq, ← behind_release, ← behind_keptLine]
      exact Act.mirrors_pure _
  -- Whatever is misplaced fails with a flaw that may name the line of the open block.
  | .ok (some .otherwise), [] | .ok (some .otherwise), .ask _ _ _ _ :: _
  | .ok (some .otherwise), .condition _ _ _ true :: _ | .ok (some .endCondition), []
  | .ok (some .endCondition), .ask _ _ _ _ :: _ | .ok (some .endAsk), []
  | .ok (some .endAsk), .condition _ _ _ _ :: _ | .ok (some (.option _)), []
  | .ok (some (.option _)), .condition _ _ _ _ :: _ =>
      simp only [step, means, there]
      exact Act.mirrors_throw (tolerates.nesting _ line.number)

theorem steps_behind (marking : Marking) (reading : Reading) (lines : List NumberedLine) :
    Act.Mirrors related (behind f written) (reading.steps world marking lines)
      ((reading.behind f written).steps world marking (lines.map (NumberedLine.renumber f))) := by
  induction lines generalizing reading with
  | nil => exact Act.mirrors_pure reading
  | cons line lines ih => exact (step_behind tolerates written marking reading line).bind ih

/-- A document that ends inside a block ends inside the one with the other number. -/
theorem finish_behind (reading : Reading) :
    Act.Mirrors related (fun lines => written ++ lines.map (NumberedLine.renumber f))
      (reading.finish : Act σ (List NumberedLine)) (reading.behind f written).finish := by
  obtain ⟨stack, output⟩ := reading
  cases stack with
  | nil => exact Act.mirrors_pure output
  | cons innermost outer =>
      have opened : (outer.map (Block.renumber f)).map Block.openedAt =
          (outer.map Block.openedAt).map f := by
        simp only [List.map_map, Function.comp_def, Block.openedAt_renumber]
      have unterminated := tolerates.nesting (.unterminated innermost.keyword
        (innermost.openedAt :: outer.map Block.openedAt).reverse) innermost.openedAt
      rw [StructureFlaw.renumber, List.map_reverse, List.map_cons, ← opened] at unterminated
      simp only [finish, behind, List.map_cons, Block.keyword_renumber, Block.openedAt_renumber]
      exact Act.mirrors_throw unterminated

end Reading

end Tolerates

end Tailor
