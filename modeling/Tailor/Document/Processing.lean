import Tailor.Block.Evaluation
import Tailor.Span.Substitution

/-! # Processing a document

The lines of a document go through two phases: its directives are evaluated, if it has a mark, and
then the spans of the surviving lines are replaced, if it has escapes. No span is looked at before
all directives are evaluated.
-/

namespace Tailor

variable {σ : Type}

/-- How one document is processed. -/
structure Treatment where
  /-- The mark of directive lines; without one, or with an empty one, there are no directives. -/
  mark? : Option Text
  escape? : Option Escape
  removeDirectives : Bool
deriving Repr, DecidableEq

/-- The lines that survive the directives of a document. -/
def survivors (world : World σ) (treatment : Treatment) (text : Text) :
    Act σ (List NumberedLine) :=
  match treatment.mark? with
  | some (c :: mark) => evaluate world ⟨c :: mark, !treatment.removeDirectives⟩ (Text.lines text)
  | _ => pure (number (Text.lines text))

def substituted (world : World σ) (treatment : Treatment) (substitution : Substitution)
    (lines : List NumberedLine) : Act σ (List Text) := do
  if treatment.escape?.isNone then
    Act.note .info .processing
      "No escape characters defined, no substitution will be made".toList
  substitution.numbered world treatment.escape? lines

/-- The lines as a text, which ends in a line feed if the document does and a line survives. -/
def rejoin (text : Text) (lines : List Text) : Text :=
  Text.join ['\n'] lines ++
    (if !lines.isEmpty && text.getLast? == some '\n' then ['\n'] else [])

def process (world : World σ) (treatment : Treatment) (substitution : Substitution) (text : Text) :
    Act σ Text := do
  let surviving ← survivors world treatment text
  let lines ← substituted world treatment substitution surviving
  pure (rejoin text lines)

end Tailor
