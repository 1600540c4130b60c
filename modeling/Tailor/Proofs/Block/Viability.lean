import Mathlib
import Tailor.Proofs.Block.Nesting

/-! # Beginnings of documents

The beginning of a document is viable if lines can be put behind it so that the
whole nests (`Tailor.Viable`). These are the lines that leave blocks open
(`Tailor.viable_iff`): whatever stands open can be closed, because a line that
was read as a directive shows that lines under the mark can be read at all.
-/

namespace Tailor

/-- The lines are those of an outline. -/
def Nests (mark : Text) (lines : List Text) : Prop :=
  ∃ outline : Plan, outline.Reads mark (number lines)

/-- The lines begin a document that nests. -/
def Viable (mark : Text) (lines : List Text) : Prop :=
  ∃ further : List Text, Nests mark (lines ++ further)

section Mark

variable {mark line : Text}

/-- A mark under which a line is a directive does not begin with a blank. -/
theorem Directive.head_not_isBlank_of_ofLine {directive : Directive}
    (reads : Directive.ofLine mark line = .ok (some directive)) :
    ∃ (c : Char) (rest : Text), mark = c :: rest ∧ Text.isBlank c = false := by
  cases mark with
  | nil => cases reads
  | cons c rest =>
      refine ⟨c, rest, rfl, ?_⟩
      cases follows : Text.after? (c :: rest) (Text.trimLeft line) with
      | none =>
          simp [Directive.ofLine, Directive.payload?, follows] at reads
      | some payload =>
          have start : line.dropWhile Text.isBlank = c :: (rest ++ payload) :=
            Text.after?_eq_some_iff.mp follows
          have notBlank := List.head?_dropWhile_not Text.isBlank line
          rw [start] at notBlank
          exact notBlank

/-- What stands directly behind a mark is read as the payload. -/
theorem Directive.ofLine_mark_append {c : Char} (rest : Text) (notBlank : Text.isBlank c = false)
    (payload : Text) :
    Directive.ofLine (c :: rest) (c :: rest ++ payload) =
      (Directive.ofPayload (Text.trim payload)).map some := by
  have start : Text.trimLeft (c :: rest ++ payload) = c :: rest ++ payload := by
    simp [Text.trimLeft, notBlank]
  have follows : Text.after? (c :: rest) (c :: rest ++ payload) = some payload :=
    Text.after?_eq_some_iff.mpr rfl
  simp only [Directive.ofLine, Directive.payload?, List.isEmpty_cons, Bool.false_eq_true,
    ↓reduceIte, start, follows, Option.map_some]

end Mark

/-- A line that closes the block. -/
def OpenBlock.closer (mark : Text) : OpenBlock → Text
  | .condition _ _ => mark ++ Keyword.endCondition.spelling
  | .ask _ => mark ++ Keyword.endAsk.spelling

/-- Closing lines close their blocks. -/
theorem openBehind?_closers {c : Char} (rest : Text) (notBlank : Text.isBlank c = false)
    (blocks : List OpenBlock) (first : Nat) :
    openBehind? blocks (parsed (c :: rest)
      (numberFrom first (blocks.map (OpenBlock.closer (c :: rest))))) = some [] := by
  induction blocks generalizing first with
  | nil => rfl
  | cons block blocks ih =>
      have closes : openBehindLine? (block :: blocks)
          (⟨first, block.closer (c :: rest)⟩,
            Directive.ofLine (c :: rest) (block.closer (c :: rest))) = some blocks := by
        cases block with
        | condition line turned =>
            have reads : Directive.ofPayload (Text.trim Keyword.endCondition.spelling) =
                .ok .endCondition := by cbv
            rw [OpenBlock.closer, Directive.ofLine_mark_append rest notBlank, reads]
            rfl
        | ask line =>
            have reads : Directive.ofPayload (Text.trim Keyword.endAsk.spelling) =
                .ok .endAsk := by cbv
            rw [OpenBlock.closer, Directive.ofLine_mark_append rest notBlank, reads]
            rfl
      rw [List.map_cons, numberFrom_cons]
      change openBehind? _ ((⟨first, block.closer (c :: rest)⟩,
        Directive.ofLine (c :: rest) (block.closer (c :: rest))) :: parsed (c :: rest) _) = _
      rw [openBehind?_cons, closes, Option.bind_some]
      exact ih (first + 1)

/-- Lines that leave a block open have a directive among them. -/
theorem LeavesOpen.exists_directive {parts : List (NumberedLine × Meaning)}
    {innermost : OpenBlock} {outer : List OpenBlock}
    (leaves : LeavesOpen parts (innermost :: outer)) :
    ∃ line directive, (line, .ok (some directive)) ∈ parts := by
  cases leaves with
  | condition _ opening asked | turned _ opening asked =>
      exact ⟨opening, .condition asked, List.mem_append_right _ List.mem_cons_self⟩
  | ask _ opening argument | option _ opening argument =>
      exact ⟨opening, .ask argument, List.mem_append_right _ List.mem_cons_self⟩

/-- **Viable beginnings.** The lines that can be continued to a document that
nests are those that leave blocks open, or none. -/
theorem viable_iff {mark : Text} {lines : List Text} :
    Viable mark lines ↔ ∃ blocks, LeavesOpen (parsed mark (number lines)) blocks := by
  constructor
  · rintro ⟨further, outline, reads⟩
    have nests : openBehind? [] (parsed mark (number (lines ++ further))) = some [] :=
      exists_outline_iff.mp ⟨outline, reads⟩
    rw [number_append, parsed_append, openBehind?_append, Option.bind_eq_some_iff] at nests
    obtain ⟨blocks, found, _⟩ := nests
    exact ⟨blocks, openBehind?_eq_some_iff.mp found⟩
  · rintro ⟨blocks, leaves⟩
    cases blocks with
    | nil =>
        obtain ⟨outline, yields⟩ := exists_outline_iff.mpr (openBehind?_eq_some_iff.mpr leaves)
        refine ⟨[], outline, ?_⟩
        rw [List.append_nil]
        exact yields
    | cons innermost outer =>
        obtain ⟨line, directive, member⟩ := leaves.exists_directive
        obtain ⟨read, _, same⟩ := List.mem_map.mp member
        obtain ⟨c, rest, rfl, notBlank⟩ :=
          Directive.head_not_isBlank_of_ofLine (Prod.ext_iff.mp same).2
        refine ⟨(innermost :: outer).map (OpenBlock.closer (c :: rest)), ?_⟩
        rw [Nests, number_append]
        refine exists_outline_iff.mpr ?_
        rw [parsed_append, leaves.openBehind?_append]
        exact openBehind?_closers rest notBlank (innermost :: outer) _

end Tailor
