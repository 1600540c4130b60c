import Tailor.Proofs.Block.Renumbering
import Tailor.Proofs.Query.Sharing

/-! # Turning a conditional block round

A conditional block may ask the contrary and have its two sides exchanged. Commands and
questions then come in another order, but in a constant world that does not matter to what
actions come to if they succeed (`Tailor.Act.Constant.value?_bind`), and a balanced part of
a document is evaluated for itself, wherever it stands. So the document comes to the same
texts, or to none both times (`Tailor.evaluate_dual`).
-/

namespace Tailor

variable {σ α β : Type} {world : World σ}

/-! ## What actions come to -/

namespace Act

/-- What an action comes to from a session, if it succeeds. -/
def value? (session : Session σ) (action : Act σ α) : Option α :=
  (from_ session action).1.toOption

variable {session : Session σ} {action : Act σ α}

theorem value?_eq_some {value : α} :
    value? session action = some value ↔ ∃ after, from_ session action = (.ok value, after) := by
  unfold value?
  rcases from_ session action with ⟨outcome, after⟩
  cases outcome with
  | ok found => simp [Except.toOption]
  | error fault => simp [Except.toOption]

theorem value?_map (change : α → β) :
    value? session (change <$> action) = (value? session action).map change := by
  unfold value?
  rw [from_map]
  rcases from_ session action with ⟨outcome, after⟩
  cases outcome <;> rfl

theorem value?_atLine (line : Nat) :
    value? session (atLine line action) = value? session action := by
  unfold value?
  rw [from_atLine]
  rcases from_ session action with ⟨outcome, after⟩
  cases outcome <;> rfl

theorem Mirrors.value? {related : Fault → Fault → Prop} {change : α → β} {other : Act σ β}
    (mirrors : Mirrors related change action other) :
    value? session other = (Act.value? session action).map change := by
  have outcome := mirrors.outcome session
  unfold Act.value?
  generalize (from_ session action).1 = here at outcome ⊢
  generalize (from_ session other).1 = there at outcome ⊢
  cases outcome with
  | ok result => rfl
  | error faults => rfl

/-- In a constant world the second of two actions comes to what it comes to from the
start. -/
theorem Constant.value?_bind {next : α → Act σ β} (first : Constant world action)
    (second : ∀ value, Constant world (next value)) (agrees : session.cache.Agrees world) :
    value? session (action >>= next) =
      (value? session action).bind fun value => value? session (next value) := by
  have between := first.agrees session agrees
  unfold value?
  rw [from_bind]
  generalize from_ session action = result at between ⊢
  obtain ⟨outcome, after⟩ := result
  cases outcome with
  | ok value =>
      exact congrArg Except.toOption ((second value).outcome after session between agrees)
  | error fault => rfl

end Act

/-- An undefined argument is one that is not defined. -/
theorem Expression.verdict_undefined (argument : Text) :
    verdict world (.undefined argument) = Bool.not <$> verdict world (.defined argument) := by
  simp only [verdict, map_bind, map_pure, Bool.not_not]

/-! ## Balanced parts -/

/-- Goes on to read lines to the end of the document. -/
def Reading.conclude (world : World σ) (mark : Text) (lines : List NumberedLine)
    (reading : Reading) : Act σ (List NumberedLine) :=
  reading.steps world ⟨mark, false⟩ lines >>= Reading.finish

section Fork

variable {mark : Text} {opening turn closing : NumberedLine} {asked : Condition}

theorem Reading.conclude_constant (constant : world.Constant) (mark : Text)
    (lines : List NumberedLine) (reading : Reading) :
    Act.Constant world (reading.conclude world mark lines) :=
  (((reading.steps_composed world _ lines).bind fun next =>
    next.finish_composed world).constant constant)

/-- A conditional block with a turn. -/
def Outline.fork (opening : NumberedLine) (asked : Condition) (first : Plan) (turn : NumberedLine)
    (second : Plan) (closing : NumberedLine) : Plan :=
  .condition opening asked () first (.present turn second) closing .nil

variable {first second : List NumberedLine} {firstPlan secondPlan : Plan}

theorem Outline.Reads.lines_fork (readsFirst : firstPlan.Reads mark first)
    (readsSecond : secondPlan.Reads mark second) :
    (Outline.fork opening asked firstPlan turn secondPlan closing).lines =
      opening :: (first ++ turn :: (second ++ [closing])) := by
  rw [Outline.fork, Outline.lines_condition, readsFirst.lines_eq, ← readsSecond.lines_eq]
  simp [Turn.lines, Turn.yield, Outline.lines, Outline.yield]

/-- In the midst of a document a conditional block with a turn hands on what one of its
sides writes, when both are settled. -/
theorem Reading.conclude_fork
    (opens : Directive.ofLine mark opening.text = .ok (some (.condition asked)))
    (turns : Directive.ofLine mark turn.text = .ok (some .otherwise))
    (closes : Directive.ofLine mark closing.text = .ok (some .endCondition))
    (readsFirst : firstPlan.Reads mark first) (readsSecond : secondPlan.Reads mark second)
    (reading : Reading) (behind : List NumberedLine) :
    reading.conclude world mark
        (opening :: (first ++ turn :: (second ++ closing :: behind))) = (do
      let held ← Act.atLine opening.number (Expression.verdict world asked)
      let one ← firstPlan.settle world
      let other ← secondPlan.settle world
      conclude world mark behind
        (reading.pass (if held then one.written false else other.written false))) := by
  have agree : Marking.Agrees ⟨mark, false⟩
      (Outline.fork opening asked firstPlan turn secondPlan closing).yield := by
    simp only [Outline.fork, Outline.yield, Turn.yield, Marking.agrees_cons,
      Marking.agrees_append]
    exact ⟨opens, readsFirst.agrees ⟨mark, false⟩, ⟨turns, readsSecond.agrees ⟨mark, false⟩⟩, closes,
      List.forall_mem_nil _⟩
  have split : opening :: (first ++ turn :: (second ++ closing :: behind)) =
      (Outline.fork opening asked firstPlan turn secondPlan closing).lines ++ behind := by
    rw [readsFirst.lines_fork readsSecond]
    simp
  rw [split, conclude, Outline.steps_lines _ _ agree, Outline.fork]
  simp only [Outline.settle, Turn.settle, bind_assoc, pure_bind]
  refine bind_congr fun held => bind_congr fun one => bind_congr fun other => ?_
  cases held <;> simp [Outline.written, Turn.written, keptLine, conclude]

/-- In a constant world both sides are settled from the start. -/
theorem Reading.value?_fork (constant : world.Constant) {session : Session σ}
    (agrees : session.cache.Agrees world)
    (opens : Directive.ofLine mark opening.text = .ok (some (.condition asked)))
    (turns : Directive.ofLine mark turn.text = .ok (some .otherwise))
    (closes : Directive.ofLine mark closing.text = .ok (some .endCondition))
    (readsFirst : firstPlan.Reads mark first) (readsSecond : secondPlan.Reads mark second)
    (reading : Reading) (behind : List NumberedLine) :
    Act.value? session (reading.conclude world mark
        (opening :: (first ++ turn :: (second ++ closing :: behind)))) =
      (Act.value? session (Expression.verdict world asked)).bind fun held =>
        (Act.value? session (firstPlan.settle world)).bind fun one =>
          (Act.value? session (secondPlan.settle world)).bind fun other =>
            Act.value? session (conclude world mark behind
              (reading.pass (if held then one.written false else other.written false))) := by
  have verdict := ((Expression.verdict_composed world asked).constant constant).atLine
    opening.number
  have constantFirst := (firstPlan.settle_composed world).constant constant
  have constantSecond := (secondPlan.settle_composed world).constant constant
  have rest := Reading.conclude_constant constant mark behind
  have fromSecond (held : Bool) (one : Settled) := constantSecond.bind fun other =>
    rest (reading.pass (if held then one.written false else other.written false))
  have fromFirst (held : Bool) := constantFirst.bind (fromSecond held)
  rw [reading.conclude_fork opens turns closes readsFirst readsSecond,
    verdict.value?_bind fromFirst agrees, Act.value?_atLine]
  refine congrArg _ (funext fun held => ?_)
  rw [constantFirst.value?_bind (fromSecond held) agrees]
  refine congrArg _ (funext fun one => ?_)
  rw [constantSecond.value?_bind (fun other => rest _) agrees]

/-- **Turning round in the midst of a document.** A block that asks the contrary, with its
sides exchanged, comes to the same. -/
theorem Reading.value?_dual (constant : world.Constant) {session : Session σ}
    (agrees : session.cache.Agrees world) {argument : Text} {contrary : NumberedLine}
    (opens : Directive.ofLine mark opening.text = .ok (some (.condition (.defined argument))))
    (opensContrary :
      Directive.ofLine mark contrary.text = .ok (some (.condition (.undefined argument))))
    (turns : Directive.ofLine mark turn.text = .ok (some .otherwise))
    (closes : Directive.ofLine mark closing.text = .ok (some .endCondition))
    (readsFirst : firstPlan.Reads mark first) (readsSecond : secondPlan.Reads mark second)
    (reading : Reading) (behind : List NumberedLine) :
    Act.value? session (reading.conclude world mark
        (contrary :: (second ++ turn :: (first ++ closing :: behind)))) =
      Act.value? session (reading.conclude world mark
        (opening :: (first ++ turn :: (second ++ closing :: behind)))) := by
  rw [value?_fork constant agrees opensContrary turns closes readsSecond readsFirst,
    value?_fork constant agrees opens turns closes readsFirst readsSecond,
    Expression.verdict_undefined, Act.value?_map, Option.bind_map]
  -- The verdicts are contrary, so the same side is taken; what is left is the order in which
  -- the sides are settled.
  refine congrArg _ (funext fun held => ?_)
  rw [Function.comp_apply, Option.bind_comm]
  cases held <;> rfl

end Fork

/-! ## Documents -/

/-- The lines of a document under no numbers. -/
def unnumbered (lines : List Text) : List NumberedLine := lines.map fun text => ⟨0, text⟩

theorem renumber_number (lines : List Text) :
    (number lines).map (NumberedLine.renumber fun _ => 0) = unnumbered lines := by
  rw [unnumbered, number, ← List.zipIdx_map_fst 1 lines, List.map_map, List.map_map,
    List.zipIdx_map_fst]
  rfl

/-- An outline of a document is, under no numbers, one of its lines. -/
theorem Outline.Reads.unnumbered {mark : Text} {lines : List Text} {outline : Plan}
    (reads : outline.Reads mark (number lines)) :
    (outline.map (NumberedLine.renumber fun _ => 0) id id).Reads mark
      (Tailor.unnumbered lines) := by
  rw [Outline.Reads, Outline.yield_map, reads, ← renumber_number, parsed, parsed, List.map_map,
    List.map_map]
  rfl

/-- What does not look at faults tolerates any numbers. -/
theorem World.tolerates_any (world : World σ) (f : Nat → Nat) :
    world.Tolerates f fun _ _ => True where
  commands _ _ _ _ _ := trivial
  queries _ _ _ _ _ := trivial
  problem _ _ := trivial
  nesting _ _ := trivial

/-- The texts that a document comes to do not depend on its numbers. -/
theorem value?_evaluate (mark : Text) (lines : List Text) (session : Session σ) :
    (Act.value? session (evaluate world ⟨mark, false⟩ lines)).map
        (List.map NumberedLine.text) =
      (Act.value? session (Reading.start.conclude world mark (unnumbered lines))).map
        (List.map NumberedLine.text) := by
  have tolerates := world.tolerates_any fun _ => 0
  -- In the exchanged document every line has another number, so all numbers are made alike.
  have mirrors := (Reading.start.steps_behind tolerates [] ⟨mark, false⟩ (number lines)).bind
    (Reading.finish_behind tolerates [])
  rw [renumber_number] at mirrors
  have same : Act.value? session (Reading.start.conclude world mark (unnumbered lines)) = _ :=
    mirrors.value?
  rw [same, Option.map_map]
  congr 1
  funext output
  simp [NumberedLine.renumber, Function.comp_def]

/-- In a constant world the end of a document comes to what it comes to from the start. -/
theorem value?_conclude_append (constant : world.Constant) {session : Session σ}
    (agrees : session.cache.Agrees world) (mark : Text) (before rest : List Text) :
    Act.value? session (Reading.start.conclude world mark (unnumbered (before ++ rest))) =
      (Act.value? session
          (Reading.start.steps world ⟨mark, false⟩ (unnumbered before))).bind fun reading =>
        Act.value? session (reading.conclude world mark (unnumbered rest)) := by
  have begun := (Reading.start.steps_composed world ⟨mark, false⟩ (unnumbered before)).constant
    constant
  rw [← begun.value?_bind (Reading.conclude_constant constant mark _) agrees, unnumbered,
    List.map_append]
  simp only [Reading.conclude, Reading.steps_append, bind_assoc, unnumbered]
  rfl

/-- The texts to which a document comes are those to which its lines come without their
numbers, from whatever session. -/
theorem exists_output_iff (constant : world.Constant) {session : Session σ}
    (agrees : session.cache.Agrees world) (other : Session σ)
    (otherAgrees : other.cache.Agrees world) (mark : Text) (lines texts : List Text) :
    (∃ output after, Act.from_ session (evaluate world ⟨mark, false⟩ lines) =
        (.ok output, after) ∧ output.map NumberedLine.text = texts) ↔
      (Act.value? other (Reading.start.conclude world mark (unnumbered lines))).map
        (List.map NumberedLine.text) = some texts := by
  have same := (Reading.conclude_constant constant mark (unnumbered lines) .start).outcome
    other session otherAgrees agrees
  rw [Act.value?, same, ← Act.value?, ← value?_evaluate, Option.map_eq_some_iff]
  simp only [Act.value?_eq_some, exists_and_right]

/-- **Turning a conditional block round.** In a constant world, with nothing recorded at
first and directive lines removed, let a conditional block ask whether something is defined
and have two balanced sides. A document that has it, anywhere, is evaluated exactly if the
document is in which the block asks whether it is undefined and has its sides exchanged, and
then both come to the same texts. -/
theorem evaluate_dual (constant : world.Constant)
    {mark opening contrary turn closing argument : Text}
    (opens : Directive.ofLine mark opening = .ok (some (.condition (.defined argument))))
    (opensContrary :
      Directive.ofLine mark contrary = .ok (some (.condition (.undefined argument))))
    (turns : Directive.ofLine mark turn = .ok (some .otherwise))
    (closes : Directive.ofLine mark closing = .ok (some .endCondition))
    {first second : List Text} {firstPlan secondPlan : Plan}
    (readsFirst : firstPlan.Reads mark (number first))
    (readsSecond : secondPlan.Reads mark (number second))
    (before behind : List Text) (here there : σ) (texts : List Text) :
    (∃ output after, Act.from_ (Session.start here) (evaluate world ⟨mark, false⟩
        (before ++ opening :: (first ++ turn :: (second ++ closing :: behind)))) =
          (.ok output, after) ∧ output.map NumberedLine.text = texts) ↔
      ∃ output after, Act.from_ (Session.start there) (evaluate world ⟨mark, false⟩
        (before ++ contrary :: (second ++ turn :: (first ++ closing :: behind)))) =
          (.ok output, after) ∧ output.map NumberedLine.text = texts := by
  have agrees (state : σ) : (Session.start state).cache.Agrees world := Cache.agrees_empty world
  have split (opening : Text) (first second : List Text) :
      unnumbered (opening :: (first ++ turn :: (second ++ closing :: behind))) =
        ⟨0, opening⟩ :: (unnumbered first ++ ⟨0, turn⟩ ::
          (unnumbered second ++ ⟨0, closing⟩ :: unnumbered behind)) := by
    simp [unnumbered]
  have dual := Reading.value?_dual constant (agrees here)
    (show Directive.ofLine mark (NumberedLine.mk 0 opening).text = _ from opens)
    (show Directive.ofLine mark (NumberedLine.mk 0 contrary).text = _ from opensContrary)
    (show Directive.ofLine mark (NumberedLine.mk 0 turn).text = _ from turns)
    (show Directive.ofLine mark (NumberedLine.mk 0 closing).text = _ from closes)
    readsFirst.unnumbered readsSecond.unnumbered
  rw [exists_output_iff constant (agrees here) (Session.start here) (agrees here),
    exists_output_iff constant (agrees there) (Session.start here) (agrees here),
    value?_conclude_append constant (agrees here), value?_conclude_append constant (agrees here),
    split, split]
  simp only [dual]

/-- A question block. -/
def sidePlan : Plan :=
  .ask ⟨1, "#~ ASK Q?".toList⟩ "Q?".toList .nil
    (.option ⟨2, "#~ OPTION a".toList⟩ ['a'] (.content ⟨3, ['x']⟩ .nil) .nil)
    ⟨4, "#~ ENDASK".toList⟩ () .nil

/-- The side that asks is exchanged with one that does not, inside an option. -/
theorem sidePlan_dual :
    sidePlan.Reads "#~".toList
        (number (["#~ ASK Q?", "#~ OPTION a", "x", "#~ ENDASK"].map String.toList)) ∧
      (Outline.content ⟨1, ['y']⟩ .nil : Plan).Reads "#~".toList (number [['y']]) ∧
      (∃ output after, Act.from_ (Session.start ()) (evaluate .decided ⟨"#~".toList, false⟩
        (["#~ ASK R?", "#~ OPTION c", "#~ IFDEF v", "#~ ASK Q?", "#~ OPTION a", "x", "#~ ENDASK",
          "#~ ELSE", "y", "#~ ENDIF", "#~ ENDASK"].map String.toList)) =
            (.ok output, after) ∧ output.map NumberedLine.text = [['x']]) ∧
      ∃ output after, Act.from_ (Session.start ()) (evaluate .decided ⟨"#~".toList, false⟩
        (["#~ ASK R?", "#~ OPTION c", "#~ IFNDEF v", "y", "#~ ELSE", "#~ ASK Q?", "#~ OPTION a",
          "x", "#~ ENDASK", "#~ ENDIF", "#~ ENDASK"].map String.toList)) =
            (.ok output, after) ∧ output.map NumberedLine.text = [['x']] := by
  have reads : sidePlan.Reads "#~".toList
      (number (["#~ ASK Q?", "#~ OPTION a", "x", "#~ ENDASK"].map String.toList)) := by
    unfold Outline.Reads
    cbv
  have readsOther : (Outline.content ⟨1, ['y']⟩ .nil : Plan).Reads "#~".toList
      (number [['y']]) := by
    unfold Outline.Reads
    cbv
  have opens : Directive.ofLine "#~".toList "#~ IFDEF v".toList =
      .ok (some (.condition (.defined ['v']))) := by cbv
  have opensContrary : Directive.ofLine "#~".toList "#~ IFNDEF v".toList =
      .ok (some (.condition (.undefined ['v']))) := by cbv
  have turns : Directive.ofLine "#~".toList "#~ ELSE".toList = .ok (some .otherwise) := by cbv
  have closes : Directive.ofLine "#~".toList "#~ ENDIF".toList = .ok (some .endCondition) := by
    cbv
  have came : ∃ output after, Act.from_ (Session.start ()) (evaluate .decided ⟨"#~".toList, false⟩
      (["#~ ASK R?", "#~ OPTION c", "#~ IFDEF v", "#~ ASK Q?", "#~ OPTION a", "x", "#~ ENDASK",
        "#~ ELSE", "y", "#~ ENDIF", "#~ ENDASK"].map String.toList)) =
          (.ok output, after) ∧ output.map NumberedLine.text = [['x']] :=
    ⟨[⟨6, ['x']⟩], _, by cbv, rfl⟩
  have dual := (evaluate_dual World.decided_constant opens opensContrary turns closes reads
    readsOther (["#~ ASK R?", "#~ OPTION c"].map String.toList) ["#~ ENDASK".toList] () ()
    [['x']]).mp came
  exact ⟨reads, readsOther, came, dual⟩

end Tailor
