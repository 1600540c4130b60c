import Tailor.Block.Basic
import Tailor.Expression.Value

/-! # Evaluating the directives of a document

The document is read line by line. A condition or a question is expanded where it stands, whatever
the verdicts around it; a query is resolved at the end of its block. Content lines survive where
every block around them keeps them; directive lines are dropped, or kept by the blocks around their
own block.
-/

namespace Tailor

variable {σ : Type}

/-- How a document marks its directives, and whether directive lines are kept. -/
structure Marking where
  mark : Text
  keepDirectives : Bool

namespace Reading

/-- Fails because the blocks do not nest. -/
def misplaced {α : Type} (flaw : StructureFlaw) : Act σ α := Act.fail (.nesting flaw)

/-- The slots whose lines an answer keeps: with no options those before the first, if the answer
holds; otherwise those of the selected option. -/
def keptBy (answer : Answer) (offers : List Offer) : Act σ (Slot → Bool) :=
  if offers.isEmpty then
    pure fun slot => slot == .always || (answer.holds && slot == .under 0)
  else
    match answer with
    | .choice position =>
        if 0 ≤ position ∧ position < offers.length then
          pure fun slot => slot == .always || slot == .under (position.toNat + 1)
        else Act.fail (.query (.badAnswer answer offers.length))
    | .yesNo _ => Act.fail (.query (.badAnswer answer offers.length))

def directive (world : World σ) (keep : Bool) (line : NumberedLine) (reading : Reading) :
    Directive → Act σ Reading
  | .comment => pure (reading.echo keep line)
  | .condition condition => do
      let verdict ← Expression.verdict world condition
      pure ((reading.echo keep line).push (.condition condition.sort line.number verdict false))
  | .otherwise =>
      match reading.stack with
      | .condition sort opened verdict turned :: outer =>
          if turned then misplaced (.repeatedOtherwise sort.keyword opened)
          else
            pure <| ((Reading.mk outer reading.output).echo keep line).push
              (.condition sort opened (!verdict) true)
      | _ => misplaced .strayOtherwise
  | .endCondition =>
      match reading.stack with
      | [] => misplaced .strayEndCondition
      | .ask opened _ _ _ :: _ => misplaced (.endConditionInAsk opened)
      | .condition _ _ _ _ :: outer => pure ((Reading.mk outer reading.output).echo keep line)
  | .ask argument => do
      let question ← Expression.expand world argument
      pure ((reading.echo keep line).push (.ask line.number question [] []))
  | .option label =>
      match reading.stack with
      | .ask opened question offers held :: outer =>
          let offers := offers ++ [⟨label, line.number⟩]
          pure ((Reading.mk (.ask opened question offers held :: outer) reading.output).echoAlways
            keep line)
      | _ => misplaced .strayOption
  | .endAsk =>
      match reading.stack with
      | [] => misplaced .strayEndAsk
      | .condition sort opened _ _ :: _ => misplaced (.endAskInCondition sort.keyword opened)
      | .ask _ question offers held :: outer => do
          let answer ← Act.resolve world ⟨question, offers.map Offer.label⟩
          let keeps ← keptBy answer offers
          pure (((Reading.mk outer reading.output).release keeps held).echo keep line)

/-- Reads one line; a problem gets its number. -/
def step (world : World σ) (marking : Marking) (reading : Reading) (line : NumberedLine) :
    Act σ Reading :=
  Act.atLine line.number <|
    match Directive.ofLine marking.mark line.text with
    | .error malformation => Act.fail (.directive malformation)
    | .ok none => pure (reading.content line)
    | .ok (some read) => reading.directive world marking.keepDirectives line read

def steps (world : World σ) (marking : Marking) (reading : Reading) :
    List NumberedLine → Act σ Reading
  | [] => pure reading
  | line :: lines => do
      let next ← reading.step world marking line
      next.steps world marking lines

/-- The lines written when the document ends, which may not be inside a block. -/
def finish (reading : Reading) : Act σ (List NumberedLine) :=
  match reading.stack with
  | [] => pure reading.output
  | innermost :: outer =>
      let openLines := ((innermost :: outer).map Block.openedAt).reverse
      throw (.problem (.nesting (.unterminated innermost.keyword openLines))
        (some innermost.openedAt))

end Reading

/-- The lines of a document with their numbers. -/
def number (lines : List Text) : List NumberedLine :=
  (lines.zipIdx 1).map fun (text, number) => ⟨number, text⟩

/-- The surviving lines of a document with their numbers. -/
def evaluate (world : World σ) (marking : Marking) (lines : List Text) :
    Act σ (List NumberedLine) := do
  let reading ← Reading.start.steps world marking (number lines)
  reading.finish

end Tailor
