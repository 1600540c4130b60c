import Tailor.Proofs.Block.Renumbering
import Tailor.Proofs.Document.Phases

/-! # Documents one behind the other

A document that is evaluated leaves nothing of itself in the reading but the lines it has
written: no block is open. So what stands behind it is evaluated as a document of its own,
from the session that it leaves, with the lines counted on (`Tailor.evaluate_append`). That
holds of whatever stands there, also of what is not evaluated.
-/

namespace Tailor

variable {σ : Type} {world : World σ} {session between : Session σ}

/-- Lines that are counted on have their own numbers and those of the lines before them. -/
theorem numberFrom_eq_map (count : Nat) (lines : List Text) :
    numberFrom (count + 1) lines = (number lines).map (NumberedLine.renumber (· + count)) := by
  rw [number, numberFrom, ← List.map_snd_add_zipIdx_eq_zipIdx, List.map_map, List.map_map]
  rfl

/-- The fault where lines have other numbers. -/
inductive Fault.Renumbered (f : Nat → Nat) : Fault → Fault → Prop where
  | problem (what : Problem) (line : Nat) :
      Renumbered f (.problem what (some line)) (.problem what (some (f line)))
  | nesting (flaw : StructureFlaw) (line : Nat) :
      Renumbered f (.problem (.nesting flaw) (some line))
        (.problem (.nesting (flaw.renumber f)) (some (f line)))
  | crash (how : Crash) : Renumbered f (.crash how) (.crash how)

/-- A fault that names no line arises at any line. -/
theorem Fault.Unnumbered.renumbered {fault : Fault} (unnumbered : fault.Unnumbered)
    (f : Nat → Nat) (line : Nat) : Renumbered f (fault.atLine line) (fault.atLine (f line)) := by
  cases fault with
  | crash how => exact .crash how
  | problem what line? =>
      obtain rfl := unnumbered what line? rfl
      exact .problem what line

theorem World.Unnumbered.tolerates (unnumbered : world.Unnumbered) (f : Nat → Nat) :
    world.Tolerates f (Fault.Renumbered f) where
  commands command state fault failed line :=
    (unnumbered.commands command state fault failed).renumbered f line
  queries query state fault failed line :=
    (unnumbered.queries query state fault failed).renumbered f line
  problem := .problem
  nesting := .nesting

/-- What stands behind a document is evaluated from the session that the document leaves,
behind the lines that it writes. -/
theorem evaluate_behind {marking : Marking} {first : List Text} {output : List NumberedLine}
    (succeeded : Act.from_ session (evaluate world marking first) = (.ok output, between))
    (others : List Text) :
    Act.from_ session (evaluate world marking (first ++ others)) =
      Act.from_ between ((Reading.start.behind (· + first.length) output).steps world marking
        ((number others).map (NumberedLine.renumber (· + first.length))) >>= Reading.finish) := by
  rw [evaluate, Act.from_bind_eq_ok] at succeeded
  obtain ⟨reading, after, read, finished⟩ := succeeded
  obtain ⟨rfl, rfl⟩ := Reading.from_finish finished
  rw [evaluate, number_append, Reading.steps_append, bind_assoc, Act.from_bind_of_ok read,
    numberFrom_eq_map]
  simp only [Reading.behind, Reading.start, List.map_nil, List.append_nil]

/-- **Concatenation.** Let a document be evaluated, in a world whose own faults name no
lines. With any other lines behind it the commands and queries of the document come first
and then those of the other lines, from the session that it leaves; the same session is left
in the end. The outcome is that of the other lines: their lines are written behind those of
the document, or they fail with a problem of the same category or with the same crash, and
all their lines are counted on. -/
theorem evaluate_append (unnumbered : world.Unnumbered) {marking : Marking} {first : List Text}
    {output : List NumberedLine}
    (succeeded : Act.from_ session (evaluate world marking first) = (.ok output, between))
    (others : List Text) :
    (Act.from_ session (evaluate world marking (first ++ others))).2 =
        (Act.from_ between (evaluate world marking others)).2 ∧
      match (Act.from_ between (evaluate world marking others)).1 with
      | .ok lines =>
          (Act.from_ session (evaluate world marking (first ++ others))).1 =
            .ok (output ++ lines.map fun line => ⟨line.number + first.length, line.text⟩)
      | .error (.problem what line?) =>
          ∃ line other, line? = some line ∧ other.category = what.category ∧
            (Act.from_ session (evaluate world marking (first ++ others))).1 =
              .error (.problem other (some (line + first.length)))
      | .error (.crash how) =>
          (Act.from_ session (evaluate world marking (first ++ others))).1 =
            .error (.crash how) := by
  have tolerates := unnumbered.tolerates (· + first.length)
  have mirrors := (Reading.start.steps_behind tolerates output marking (number others)).bind
    (Reading.finish_behind tolerates output)
  rw [evaluate_behind succeeded others]
  refine ⟨mirrors.session between, ?_⟩
  have outcome := mirrors.outcome between
  -- The other lines for themselves are read from the start of a document.
  change Corresponds _ _ (Act.from_ between (evaluate world marking others)).1 _ at outcome
  generalize (Act.from_ between (evaluate world marking others)).1 = alone at outcome ⊢
  generalize (Act.from_ between _).1 = together at outcome ⊢
  cases outcome with
  | ok lines => rfl
  | error faults =>
      cases faults with
      | problem what line => exact ⟨line, what, rfl, rfl, rfl⟩
      | nesting flaw line => exact ⟨line, _, rfl, StructureFlaw.category_renumber _ flaw, rfl⟩
      | crash how => rfl

theorem World.obliging_unnumbered : World.obliging.Unnumbered where
  commands _ _ _ failed := by cases failed
  queries _ _ _ failed := by cases failed

/-- A question block. -/
def pollLines : List Text :=
  ["#~ ASK Q?", "#~ OPTION a", "x", "#~ ENDASK"].map String.toList

/-- The same question, and a conditional block that is turned twice. -/
def twistedLines : List Text :=
  ["#~ ASK Q?", "#~ OPTION a", "y", "#~ ENDASK", "#~ IFDEF v", "#~ ELSE", "#~ ELSE"].map
    String.toList

/-- The query of the question block. -/
def repeatedQuery : Query := ⟨"Q?".toList, [['a']]⟩

theorem pollLines_append :
    World.obliging.Unnumbered ∧
      Act.from_ (Session.start ()) (evaluate .obliging ⟨"#~".toList, false⟩ pollLines) =
        (.ok [⟨3, ['x']⟩], ⟨(), Cache.empty.add repeatedQuery (.choice 0),
          [.consulted repeatedQuery, .asked repeatedQuery]⟩) ∧
      ∃ other, other.category = .duplicateElse ∧
        Act.from_ (Session.start ())
            (evaluate .obliging ⟨"#~".toList, false⟩ (pollLines ++ twistedLines)) =
          (.error (.problem other (some 11)), ⟨(), Cache.empty.add repeatedQuery (.choice 0),
            [.consulted repeatedQuery, .asked repeatedQuery, .consulted repeatedQuery]⟩) := by
  have succeeded : Act.from_ (Session.start ())
      (evaluate .obliging ⟨"#~".toList, false⟩ pollLines) =
        (.ok [⟨3, ['x']⟩], ⟨(), Cache.empty.add repeatedQuery (.choice 0),
          [.consulted repeatedQuery, .asked repeatedQuery]⟩) := by cbv
  have failed : Act.from_ ⟨(), Cache.empty.add repeatedQuery (.choice 0),
        [.consulted repeatedQuery, .asked repeatedQuery]⟩
      (evaluate .obliging ⟨"#~".toList, false⟩ twistedLines) =
        (.error (.problem (.nesting (.repeatedOtherwise .ifDefined 5)) (some 7)),
          ⟨(), Cache.empty.add repeatedQuery (.choice 0),
            [.consulted repeatedQuery, .asked repeatedQuery, .consulted repeatedQuery]⟩) := by cbv
  have together := evaluate_append World.obliging_unnumbered succeeded twistedLines
  rw [failed] at together
  obtain ⟨left, line, other, found, category, stopped⟩ := together
  cases found
  exact ⟨World.obliging_unnumbered, succeeded, other, category, Prod.ext stopped left⟩

end Tailor
