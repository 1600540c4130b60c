import Tailor.Proofs.Block.Outline

/-! # The extents of blocks

The extent of a block says where it opens and closes, by line number, and what
rules over the lines inside: for a conditional block its verdict and the line of
its turn, for a question block its answer and the lines of its options. From the
extents alone every line of a document can be judged (`Tailor.survives`). What a
settled outline writes are the lines that survive its extents
(`Tailor.Outline.written_eq_filter`), provided that the lines stand in the order
of their numbers.
-/

namespace Tailor

/-- What rules over the lines inside a block. -/
inductive Ruling where
  /-- A verdict, and the line of the turn if there is one. -/
  | condition (held : Bool) (turn? : Option Nat)
  /-- The lines of the options in order, and an answer. -/
  | ask (options : List Nat) (answer : Answer)
deriving Repr, DecidableEq

/-- The lines inside a block that belong to the block itself. -/
def Ruling.ownLines : Ruling → List Nat
  | .condition _ turn? => turn?.toList
  | .ask options _ => options

/-- A block of a document by the numbers of its lines. -/
structure Extent where
  opening : Nat
  closing : Nat
  ruling : Ruling
deriving Repr, DecidableEq

namespace Extent

/-- A line stands inside the block and does not belong to it. -/
def encloses (extent : Extent) (line : Nat) : Bool :=
  decide (extent.opening < line) && decide (line < extent.closing) &&
    !extent.ruling.ownLines.contains line

theorem encloses_of {extent : Extent} {line : Nat} (behind : extent.opening < line)
    (before : line < extent.closing) (other : line ∉ extent.ruling.ownLines) :
    extent.encloses line = true := by
  simp [encloses, behind, before, other]

/-- The block keeps a line inside. Under a verdict that holds these are the lines
before the turn, otherwise those behind it. A question block without options
keeps all lines if its answer holds; with options it keeps the lines behind the
selected option and before the next one. -/
def keeps (extent : Extent) (line : Nat) : Bool :=
  match extent.ruling with
  | .condition true turn? => turn?.all fun turn => decide (line < turn)
  | .condition false turn? => turn?.any fun turn => decide (turn < line)
  | .ask [] answer => answer.holds
  | .ask options (.choice position) =>
      decide (0 ≤ position) &&
        options[position.toNat]?.any (fun selected => decide (selected < line)) &&
        options[position.toNat + 1]?.all (fun next => decide (line < next))
  | .ask _ (.yesNo _) => false

end Extent

/-- A line is kept by every block around it. -/
def allowed (extents : List Extent) (line : Nat) : Bool :=
  extents.all fun extent => !extent.encloses line || extent.keeps line

/-- The line is neither a directive nor malformed. -/
def Meaning.isContent : Meaning → Bool
  | .ok none => true
  | _ => false

/-- A line survives if every block around it keeps it and if, unless it is a
content line, directive lines are kept. -/
def survives (keep : Bool) (extents : List Extent) (part : NumberedLine × Meaning) : Bool :=
  (part.2.isContent || keep) && allowed extents part.1.number

/-- The lines of the options. -/
def Choices.numbers {κ α : Type} (choices : Choices κ α) : List Nat :=
  choices.offers.map Offer.line

/-- The line of a turn, if there is one. -/
def Turn.number? {κ α : Type} : Turn κ α → Option Nat
  | .absent => none
  | .present line _ => some line.number

mutual

/-- The extents of the blocks of an outline. -/
def Outline.extents : Settled → List Extent
  | .nil => []
  | .content _ rest => rest.extents
  | .comment _ rest => rest.extents
  | .condition opening _ held body turn closing rest =>
      ⟨opening.number, closing.number, .condition held turn.number?⟩ ::
        (body.extents ++ (turn.extents ++ rest.extents))
  | .ask opening _ body choices closing answer rest =>
      ⟨opening.number, closing.number, .ask choices.numbers answer⟩ ::
        (body.extents ++ (choices.extents ++ rest.extents))

@[inherit_doc Outline.extents]
def Turn.extents : Turn Bool Answer → List Extent
  | .absent => []
  | .present _ body => body.extents

@[inherit_doc Outline.extents]
def Choices.extents : Choices Bool Answer → List Extent
  | .nil => []
  | .option _ _ body rest => body.extents ++ rest.extents

end

/-- The blocks open and close on lines of the list. -/
def Within (parts : List (NumberedLine × Meaning)) (extents : List Extent) : Prop :=
  ∀ extent ∈ extents, (∃ part ∈ parts, part.1.number = extent.opening) ∧
    ∃ part ∈ parts, part.1.number = extent.closing

namespace Within

variable {parts more : List (NumberedLine × Meaning)} {extents others : List Extent}

theorem mono (within : Within parts extents) (subset : parts ⊆ more) : Within more extents := by
  intro extent member
  obtain ⟨⟨first, firstMember, opens⟩, last, lastMember, closes⟩ := within extent member
  exact ⟨⟨first, subset firstMember, opens⟩, last, subset lastMember, closes⟩

theorem append (within : Within parts extents) (withinOthers : Within parts others) :
    Within parts (extents ++ others) := by
  intro extent member
  rcases List.mem_append.mp member with member | member
  · exact within extent member
  · exact withinOthers extent member

/-- Blocks do not enclose a line before all of theirs. -/
theorem allowed_before (within : Within parts extents) {line : Nat}
    (before : ∀ part ∈ parts, line < part.1.number) : allowed extents line = true := by
  unfold allowed
  rw [List.all_eq_true]
  intro extent member
  obtain ⟨⟨part, partMember, opens⟩, _⟩ := within extent member
  have later := before part partMember
  have outside : extent.encloses line = false := by
    simp only [Extent.encloses, Bool.and_eq_false_iff, decide_eq_false_iff_not]
    omega
  rw [outside]
  rfl

/-- Blocks do not enclose a line behind all of theirs. -/
theorem allowed_behind (within : Within parts extents) {line : Nat}
    (behind : ∀ part ∈ parts, part.1.number < line) : allowed extents line = true := by
  unfold allowed
  rw [List.all_eq_true]
  intro extent member
  obtain ⟨_, part, partMember, closes⟩ := within extent member
  have earlier := behind part partMember
  have outside : extent.encloses line = false := by
    simp only [Extent.encloses, Bool.and_eq_false_iff, decide_eq_false_iff_not]
    omega
  rw [outside]
  rfl

end Within

mutual

/-- The blocks of an outline open and close on its lines. -/
theorem Outline.extents_within : ∀ outline : Settled, Within outline.yield outline.extents
  | .nil => by simp [Within, Outline.extents]
  | .content _ rest => (Outline.extents_within rest).mono (List.subset_cons_self _ _)
  | .comment _ rest => (Outline.extents_within rest).mono (List.subset_cons_self _ _)
  | .condition opening asked held body turn closing rest => by
      have inside := (((Outline.extents_within body).mono (List.subset_append_left _ _)).append
        ((((Turn.extents_within turn).mono (List.subset_append_left _ _)).append
          ((Outline.extents_within rest).mono (fun _ member =>
            List.mem_append_right turn.yield (List.mem_cons_of_mem
              (closing, .ok (some .endCondition)) member)))).mono
                (List.subset_append_right body.yield _))).mono
        (List.subset_cons_self (opening, .ok (some (.condition asked))) _)
      intro extent member
      rcases List.mem_cons.mp member with rfl | member
      · refine ⟨⟨_, List.mem_cons_self, rfl⟩, (closing, .ok (some .endCondition)), ?_, rfl⟩
        simp [Outline.yield]
      · exact inside extent member
  | .ask opening argument body choices closing answer rest => by
      have inside := (((Outline.extents_within body).mono (List.subset_append_left _ _)).append
        ((((Choices.extents_within choices).mono (List.subset_append_left _ _)).append
          ((Outline.extents_within rest).mono (fun _ member =>
            List.mem_append_right choices.yield (List.mem_cons_of_mem
              (closing, .ok (some .endAsk)) member)))).mono
                (List.subset_append_right body.yield _))).mono
        (List.subset_cons_self (opening, .ok (some (.ask argument))) _)
      intro extent member
      rcases List.mem_cons.mp member with rfl | member
      · refine ⟨⟨_, List.mem_cons_self, rfl⟩, (closing, .ok (some .endAsk)), ?_, rfl⟩
        simp [Outline.yield]
      · exact inside extent member

@[inherit_doc Outline.extents_within]
theorem Turn.extents_within : ∀ turn : Turn Bool Answer, Within turn.yield turn.extents
  | .absent => by simp [Within, Turn.extents]
  | .present _ body => (Outline.extents_within body).mono (List.subset_cons_self _ _)

@[inherit_doc Outline.extents_within]
theorem Choices.extents_within :
    ∀ choices : Choices Bool Answer, Within choices.yield choices.extents
  | .nil => by simp [Within, Choices.extents]
  | .option _ _ body rest =>
      (((Outline.extents_within body).mono (List.subset_append_left _ _)).append
        ((Choices.extents_within rest).mono (List.subset_append_right _ _))).mono
          (List.subset_cons_self _ _)

end

section Judgement

variable {keep : Bool} {extent : Extent} {extents others : List Extent} {line : Nat}

theorem allowed_append : allowed (extents ++ others) line =
    (allowed extents line && allowed others line) := by
  simp only [allowed, List.all_append]

/-- A block judges the lines that it encloses. -/
theorem allowed_cons_of_encloses (encloses : extent.encloses line = true) :
    allowed (extent :: extents) line = (extent.keeps line && allowed extents line) := by
  simp only [allowed, List.all_cons, encloses, Bool.not_true, Bool.false_or]

/-- A block has no say about other lines. -/
theorem allowed_cons_of_not_encloses (outside : extent.encloses line = false) :
    allowed (extent :: extents) line = allowed extents line := by
  simp only [allowed, List.all_cons, outside, Bool.not_false, Bool.true_or, Bool.true_and]

/-- The lines that survive. -/
def surviving (keep : Bool) (extents : List Extent) (parts : List (NumberedLine × Meaning)) :
    List NumberedLine :=
  (parts.filter (survives keep extents)).map Prod.fst

theorem surviving_append (first second : List (NumberedLine × Meaning)) :
    surviving keep extents (first ++ second) =
      surviving keep extents first ++ surviving keep extents second := by
  simp only [surviving, List.filter_append, List.map_append]

theorem surviving_cons (part : NumberedLine × Meaning) (parts : List (NumberedLine × Meaning)) :
    surviving keep extents (part :: parts) =
      surviving keep extents [part] ++ surviving keep extents parts :=
  surviving_append [part] parts

theorem surviving_content {line : NumberedLine} (spared : allowed extents line.number = true) :
    surviving keep extents [(line, .ok none)] = [line] := by
  simp [surviving, survives, Meaning.isContent, spared]

theorem surviving_directive {line : NumberedLine} (directive : Directive)
    (spared : allowed extents line.number = true) :
    surviving keep extents [(line, .ok (some directive))] = keptLine keep line := by
  cases keep <;> simp [surviving, survives, Meaning.isContent, spared, keptLine]

/-- Where all lines are judged alike by some blocks, these can be left out. -/
theorem surviving_factor {parts : List (NumberedLine × Meaning)} {kept : Bool}
    (factor : ∀ part ∈ parts,
      allowed extents part.1.number = (kept && allowed others part.1.number)) :
    surviving keep extents parts = if kept then surviving keep others parts else [] := by
  cases kept with
  | true =>
      simp only [surviving, ↓reduceIte]
      congr 1
      apply List.filter_congr
      intro part member
      simp only [survives, factor part member, Bool.true_and]
  | false =>
      simp only [surviving, Bool.false_eq_true, ↓reduceIte, List.map_eq_nil_iff,
        List.filter_eq_nil_iff]
      intro part member
      simp only [survives, factor part member, Bool.false_and, Bool.and_false,
        Bool.false_eq_true, not_false_eq_true]

end Judgement

/-- Lines stand in the order of their numbers. -/
def Ordered (parts : List (NumberedLine × Meaning)) : Prop :=
  parts.Pairwise fun first second => first.1.number < second.1.number

/-- **The lines of a block.** Around a body that the block judges alike, the
opening and the closing line are judged from outside, and what stands between
the body and the closing line by the block and what is inside. -/
theorem surviving_block {keep : Bool} {opening closing : NumberedLine} {opens closes : Directive}
    {body middle rest : List (NumberedLine × Meaning)} {inBody inMiddle inRest : List Extent}
    (ruling : Ruling)
    (ordered : Ordered ((opening, .ok (some opens)) ::
      (body ++ (middle ++ (closing, .ok (some closes)) :: rest))))
    (withinBody : Within body inBody) (withinMiddle : Within middle inMiddle)
    (withinRest : Within rest inRest) (kept : Bool)
    (own : ∀ line ∈ ruling.ownLines, ∃ part ∈ middle, part.1.number = line)
    (keeps : ∀ part ∈ body,
      (Extent.mk opening.number closing.number ruling).keeps part.1.number = kept) :
    surviving keep (⟨opening.number, closing.number, ruling⟩ :: (inBody ++ (inMiddle ++ inRest)))
        ((opening, .ok (some opens)) ::
          (body ++ (middle ++ (closing, .ok (some closes)) :: rest))) =
      keptLine keep opening ++ ((if kept then surviving keep inBody body else []) ++
        (surviving keep (⟨opening.number, closing.number, ruling⟩ :: inMiddle) middle ++
          (keptLine keep closing ++ surviving keep inRest rest))) := by
  obtain ⟨afterOpening, ordered⟩ := List.pairwise_cons.mp ordered
  obtain ⟨_, ordered, afterBody⟩ := List.pairwise_append.mp ordered
  obtain ⟨_, ordered, afterMiddle⟩ := List.pairwise_append.mp ordered
  obtain ⟨afterClosing, _⟩ := List.pairwise_cons.mp ordered
  simp only [List.mem_append, List.mem_cons, or_imp, forall_and, forall_eq]
    at afterOpening afterBody afterMiddle
  obtain ⟨openingBody, openingMiddle, openingClosing, openingRest⟩ := afterOpening
  obtain ⟨bodyMiddle, bodyClosing, bodyRest⟩ := afterBody
  obtain ⟨middleClosing, middleRest⟩ := afterMiddle
  have outside : ∀ line : Nat, line ≤ opening.number ∨ closing.number ≤ line →
      (Extent.mk opening.number closing.number ruling).encloses line = false := by
    intro line away
    simp only [Extent.encloses, Bool.and_eq_false_iff, decide_eq_false_iff_not]
    omega
  rw [surviving_cons, surviving_append, surviving_append, surviving_cons (closing, _)]
  congr 1
  · apply surviving_directive
    rw [allowed_cons_of_not_encloses (outside _ (Or.inl (Nat.le_refl _))), allowed_append,
      allowed_append, withinBody.allowed_before openingBody, withinMiddle.allowed_before openingMiddle,
      withinRest.allowed_before openingRest]
    rfl
  congr 1
  · apply surviving_factor
    intro part member
    have encloses : (Extent.mk opening.number closing.number ruling).encloses part.1.number =
        true := by
      apply Extent.encloses_of (openingBody part member) (bodyClosing part member)
      intro belongs
      obtain ⟨other, otherMember, same⟩ := own _ belongs
      have := bodyMiddle part member other otherMember
      omega
    rw [allowed_cons_of_encloses encloses, keeps part member, allowed_append, allowed_append,
      withinMiddle.allowed_before (bodyMiddle part member),
      withinRest.allowed_before (bodyRest part member), Bool.and_self, Bool.and_true]
  congr 1
  · have factor : ∀ part ∈ middle, allowed (⟨opening.number, closing.number, ruling⟩ ::
        (inBody ++ (inMiddle ++ inRest))) part.1.number =
        (true && allowed (⟨opening.number, closing.number, ruling⟩ :: inMiddle)
          part.1.number) := by
      intro part member
      have behindBody := withinBody.allowed_behind fun other otherMember =>
        bodyMiddle other otherMember part member
      have beforeRest := withinRest.allowed_before (middleRest part member)
      simp only [allowed, List.all_cons, List.all_append] at behindBody beforeRest ⊢
      rw [behindBody, beforeRest, Bool.true_and, Bool.and_true, Bool.true_and]
    rw [surviving_factor factor]
    rfl
  congr 1
  · apply surviving_directive
    rw [allowed_cons_of_not_encloses (outside _ (Or.inr (Nat.le_refl _))), allowed_append,
      allowed_append, withinBody.allowed_behind bodyClosing, withinMiddle.allowed_behind middleClosing,
      withinRest.allowed_before afterClosing]
    rfl
  · have factor : ∀ part ∈ rest, allowed (⟨opening.number, closing.number, ruling⟩ ::
        (inBody ++ (inMiddle ++ inRest))) part.1.number =
        (true && allowed inRest part.1.number) := by
      intro part member
      have behind := afterClosing part member
      rw [allowed_cons_of_not_encloses (outside _ (Or.inr (Nat.le_of_lt behind))), allowed_append,
        allowed_append,
        withinBody.allowed_behind fun other otherMember => bodyRest other otherMember part member,
        withinMiddle.allowed_behind fun other otherMember =>
          middleRest other otherMember part member]
      rfl
    rw [surviving_factor factor]
    rfl

@[simp] theorem Answer.selects_choice (position : Int) (index : Nat) :
    (Answer.choice position).selects index = decide (position = index) := by
  by_cases same : position = index
  · simp [Answer.selects, same]
  · simp [Answer.selects, same]

/-- Among sorted options, the lines between two neighbours are kept exactly if
the first of the two is selected. -/
theorem Extent.keeps_between {opening closing line option : Nat} {before after : List Nat}
    (answer : Answer) (earlier : ∀ other ∈ before, other < option) (behind : option < line)
    (later : ∀ other ∈ after, line < other) :
    (Extent.mk opening closing (.ask (before ++ option :: after) answer)).keeps line =
      answer.selects before.length := by
  cases answer with
  | yesNo yes => cases before <;> rfl
  | choice position =>
      have opened : (Extent.mk opening closing
          (.ask (before ++ option :: after) (.choice position))).keeps line =
          (decide (0 ≤ position) &&
            (before ++ option :: after)[position.toNat]?.any (fun other => decide (other < line)) &&
            (before ++ option :: after)[position.toNat + 1]?.all
              (fun next => decide (line < next))) := by
        cases before <;> rfl
      rw [opened]
      by_cases negative : position < 0
      · have guard : ¬ 0 ≤ position := by omega
        have unequal : position ≠ before.length := by omega
        simp [guard, unequal]
      · obtain ⟨place, rfl⟩ := Int.eq_ofNat_of_zero_le (Int.not_lt.mp negative)
        simp only [Int.toNat_natCast, Int.natCast_nonneg, decide_true, Bool.true_and,
          Answer.selects_choice]
        rcases Nat.lt_trichotomy place before.length with below | same | above
        · -- The next option stands no later than `option`.
          have next : ∃ other ≤ option, (before ++ option :: after)[place + 1]? = some other := by
            by_cases last : place + 1 < before.length
            · refine ⟨before[place + 1], ?_, by simp [List.getElem?_append_left last]⟩
              exact Nat.le_of_lt (earlier _ (List.getElem_mem last))
            · have exact : place + 1 = before.length := by omega
              exact ⟨option, Nat.le_refl _, by simp [exact]⟩
          obtain ⟨other, bound, found⟩ := next
          have stops : ¬ line < other := by omega
          have unequal : (place : Int) ≠ before.length := by omega
          simp [found, stops, unequal]
        · subst same
          have selected : (before ++ option :: after)[before.length]? = some option := by simp
          have next : (before ++ option :: after)[before.length + 1]? = after[0]? := by
            rw [List.getElem?_append_right (Nat.le_succ _)]
            simp
          rw [selected, next]
          cases after with
          | nil => simp [behind]
          | cons other others => simp [behind, later other List.mem_cons_self]
        · -- The selected option stands behind the line, or there is none.
          have selected : (before ++ option :: after)[place]? =
              after[place - before.length - 1]? := by
            rw [List.getElem?_append_right (Nat.le_of_lt above)]
            obtain ⟨offset, shift⟩ : ∃ offset, place - before.length = offset + 1 :=
              ⟨place - before.length - 1, by omega⟩
            simp [shift]
          have unequal : (place : Int) ≠ before.length := by omega
          rw [selected]
          cases found : after[place - before.length - 1]? with
          | none => simp [unequal]
          | some other =>
              have beyond := later other (List.mem_of_getElem? found)
              have early : ¬ other < line := by omega
              simp [early, unequal]

/-- The lines of the options are lines of the block. -/
theorem Choices.mem_numbers {κ α : Type} (choices : Choices κ α) : ∀ number ∈ choices.numbers,
    ∃ part ∈ choices.yield, part.1.number = number := by
  cases choices with
  | nil => simp [Choices.numbers, Choices.offers]
  | option line label body rest =>
      intro number member
      rcases List.mem_cons.mp member with rfl | member
      · exact ⟨(line, .ok (some (.option label))), List.mem_cons_self, rfl⟩
      · obtain ⟨part, partMember, same⟩ := Choices.mem_numbers rest number member
        exact ⟨part, List.mem_cons_of_mem _ (List.mem_append_right _ partMember), same⟩

/-- The line of a turn is a line of the block. -/
theorem Turn.mem_number? {κ α : Type} (turn : Turn κ α) : ∀ number ∈ turn.number?.toList,
    ∃ part ∈ turn.yield, part.1.number = number := by
  cases turn with
  | absent => simp [Turn.number?]
  | present line body => simp [Turn.number?, Turn.yield]

namespace Extent

variable {opening closing line : Nat}

/-- Before its turn a conditional block keeps lines if its verdict holds. -/
theorem keeps_before_turn (held : Bool) {turn? : Option Nat}
    (before : ∀ turn ∈ turn?.toList, line < turn) :
    (Extent.mk opening closing (.condition held turn?)).keeps line = held := by
  cases turn? with
  | none => cases held <;> rfl
  | some turn =>
      have early : line < turn := before turn (by simp)
      have notBehind : ¬ turn < line := Nat.lt_asymm early
      cases held <;> simp [keeps, early, notBehind]

/-- Behind its turn a conditional block keeps lines if its verdict fails. -/
theorem keeps_behind_turn (held : Bool) {turn : Nat} (behind : turn < line) :
    (Extent.mk opening closing (.condition held (some turn))).keeps line = !held := by
  have notBefore : ¬ line < turn := Nat.lt_asymm behind
  cases held <;> simp [keeps, behind, notBefore]

/-- Before its options a question block keeps no lines; without options its
answer decides. -/
theorem keeps_before_options {options : List Nat} (answer : Answer)
    (before : ∀ option ∈ options, line < option) :
    (Extent.mk opening closing (.ask options answer)).keeps line =
      (options.isEmpty && answer.holds) := by
  cases options with
  | nil => rfl
  | cons option options =>
      cases answer with
      | yesNo yes => rfl
      | choice position =>
          have unselected : (option :: options)[position.toNat]?.any
              (fun selected => decide (selected < line)) = false := by
            rw [Option.any_eq_false]
            intro selected found
            have later := before selected (List.mem_of_getElem? found)
            simp only [decide_eq_false_iff_not, Nat.not_lt]
            omega
          simp only [keeps, unselected, Bool.and_false, Bool.false_and, List.isEmpty_cons]

end Extent

section Written

variable (keep : Bool)

mutual

/-- What a settled outline writes are the lines that survive its extents. -/
theorem Outline.surviving_eq : ∀ outline : Settled, Ordered outline.yield →
    surviving keep outline.extents outline.yield = outline.written keep
  | .nil, _ => rfl
  | .content line rest, ordered => by
      obtain ⟨after, ordered⟩ := List.pairwise_cons.mp ordered
      simp only [Outline.yield, Outline.extents, Outline.written]
      rw [surviving_cons, Outline.surviving_eq rest ordered,
        surviving_content (rest.extents_within.allowed_before after)]
      rfl
  | .comment line rest, ordered => by
      obtain ⟨after, ordered⟩ := List.pairwise_cons.mp ordered
      simp only [Outline.yield, Outline.extents, Outline.written]
      rw [surviving_cons, Outline.surviving_eq rest ordered,
        surviving_directive _ (rest.extents_within.allowed_before after)]
  | .condition opening asked held body turn closing rest, ordered => by
      obtain ⟨afterOpening, parts⟩ := List.pairwise_cons.mp ordered
      obtain ⟨orderedBody, parts, afterBody⟩ := List.pairwise_append.mp parts
      obtain ⟨orderedTurn, parts, afterTurn⟩ := List.pairwise_append.mp parts
      obtain ⟨_, orderedRest⟩ := List.pairwise_cons.mp parts
      have keeps : ∀ part ∈ body.yield, (Extent.mk opening.number closing.number
          (.condition held turn.number?)).keeps part.1.number = held := by
        intro part member
        apply Extent.keeps_before_turn
        intro number numberMember
        obtain ⟨other, otherMember, rfl⟩ := turn.mem_number? number numberMember
        exact afterBody part member other (List.mem_append_left _ otherMember)
      have inside : ∀ part ∈ turn.yield,
          opening.number < part.1.number ∧ part.1.number < closing.number := by
        intro part member
        exact ⟨afterOpening part (List.mem_append_right _ (List.mem_append_left _ member)),
          afterTurn part member _ List.mem_cons_self⟩
      simp only [Outline.yield, Outline.extents, Outline.written]
      rw [surviving_block (.condition held turn.number?) ordered body.extents_within
        turn.extents_within rest.extents_within held turn.mem_number? keeps,
        Outline.surviving_eq body orderedBody, Outline.surviving_eq rest orderedRest,
        Turn.surviving_eq opening.number closing.number held turn orderedTurn inside]
  | .ask opening argument body choices closing answer rest, ordered => by
      obtain ⟨afterOpening, parts⟩ := List.pairwise_cons.mp ordered
      obtain ⟨orderedBody, parts, afterBody⟩ := List.pairwise_append.mp parts
      obtain ⟨orderedChoices, parts, afterChoices⟩ := List.pairwise_append.mp parts
      obtain ⟨_, orderedRest⟩ := List.pairwise_cons.mp parts
      have empty : choices.numbers.isEmpty = choices.isEmpty := by cases choices <;> rfl
      have keeps : ∀ part ∈ body.yield, (Extent.mk opening.number closing.number
          (.ask choices.numbers answer)).keeps part.1.number =
            (choices.isEmpty && answer.holds) := by
        intro part member
        rw [← empty]
        apply Extent.keeps_before_options
        intro number numberMember
        obtain ⟨other, otherMember, rfl⟩ := choices.mem_numbers number numberMember
        exact afterBody part member other (List.mem_append_left _ otherMember)
      have inside : ∀ part ∈ choices.yield,
          opening.number < part.1.number ∧ part.1.number < closing.number := by
        intro part member
        exact ⟨afterOpening part (List.mem_append_right _ (List.mem_append_left _ member)),
          afterChoices part member _ List.mem_cons_self⟩
      have chosen := Choices.surviving_eq opening.number closing.number answer choices []
        orderedChoices inside (by simp)
      simp only [Outline.yield, Outline.extents, Outline.written]
      rw [surviving_block (.ask choices.numbers answer) ordered body.extents_within
        choices.extents_within rest.extents_within (choices.isEmpty && answer.holds)
        choices.mem_numbers keeps, Outline.surviving_eq body orderedBody,
        Outline.surviving_eq rest orderedRest]
      rw [List.nil_append] at chosen
      rw [chosen]
      rfl

/-- Under a verdict, the lines of a turn survive as the turn writes them. -/
theorem Turn.surviving_eq (opening closing : Nat) (held : Bool) :
    ∀ turn : Turn Bool Answer, Ordered turn.yield →
      (∀ part ∈ turn.yield, opening < part.1.number ∧ part.1.number < closing) →
        surviving keep (⟨opening, closing, .condition held turn.number?⟩ :: turn.extents)
          turn.yield = turn.written keep (!held)
  | .absent, _, _ => rfl
  | .present line body, ordered, inside => by
      obtain ⟨after, ordered⟩ := List.pairwise_cons.mp ordered
      have own : (Extent.mk opening closing (.condition held (some line.number))).encloses
          line.number = false := by
        simp [Extent.encloses, Ruling.ownLines]
      have factor : ∀ part ∈ body.yield,
          allowed (⟨opening, closing, .condition held (some line.number)⟩ :: body.extents)
            part.1.number = (!held && allowed body.extents part.1.number) := by
        intro part member
        have behind := after part member
        obtain ⟨opened, closed⟩ := inside part (List.mem_cons_of_mem _ member)
        have encloses : (Extent.mk opening closing (.condition held (some line.number))).encloses
            part.1.number = true := by
          apply Extent.encloses_of opened closed
          simp only [Ruling.ownLines, Option.toList_some, List.mem_singleton]
          exact (Nat.ne_of_lt behind).symm
        rw [allowed_cons_of_encloses encloses, Extent.keeps_behind_turn held behind]
      simp only [Turn.yield, Turn.extents, Turn.number?, Turn.written]
      rw [surviving_cons, surviving_factor factor, Outline.surviving_eq body ordered,
        surviving_directive]
      rw [allowed_cons_of_not_encloses own]
      exact body.extents_within.allowed_before after

/-- Under an answer, the lines of options survive as the options write them. -/
theorem Choices.surviving_eq (opening closing : Nat) (answer : Answer) :
    ∀ (choices : Choices Bool Answer) (before : List Nat), Ordered choices.yield →
      (∀ part ∈ choices.yield, opening < part.1.number ∧ part.1.number < closing) →
        (∀ other ∈ before, ∀ part ∈ choices.yield, other < part.1.number) →
          surviving keep
            (⟨opening, closing, .ask (before ++ choices.numbers) answer⟩ :: choices.extents)
              choices.yield = choices.written keep answer before.length
  | .nil, _, _, _, _ => rfl
  | .option line label body rest, before, ordered, inside, earlier => by
      obtain ⟨afterLine, parts⟩ := List.pairwise_cons.mp ordered
      obtain ⟨orderedBody, orderedRest, afterBody⟩ := List.pairwise_append.mp parts
      have split : before ++ (Choices.option line label body rest).numbers =
          before ++ line.number :: rest.numbers := rfl
      have own : (Extent.mk opening closing
          (.ask (before ++ line.number :: rest.numbers) answer)).encloses line.number = false := by
        simp [Extent.encloses, Ruling.ownLines]
      have inBody : ∀ part ∈ body.yield, allowed (⟨opening, closing,
          .ask (before ++ line.number :: rest.numbers) answer⟩ :: (body.extents ++ rest.extents))
            part.1.number =
              (answer.selects before.length && allowed body.extents part.1.number) := by
        intro part member
        have listed : part ∈ (Choices.option line label body rest).yield :=
          List.mem_cons_of_mem _ (List.mem_append_left _ member)
        have behind : line.number < part.1.number :=
          afterLine part (List.mem_append_left _ member)
        have later : ∀ other ∈ rest.numbers, part.1.number < other := by
          intro other otherMember
          obtain ⟨option, optionMember, rfl⟩ := rest.mem_numbers other otherMember
          exact afterBody part member option optionMember
        obtain ⟨opened, closed⟩ := inside part listed
        have encloses : (Extent.mk opening closing
            (.ask (before ++ line.number :: rest.numbers) answer)).encloses part.1.number =
              true := by
          apply Extent.encloses_of opened closed
          simp only [Ruling.ownLines, List.mem_append, List.mem_cons, not_or]
          exact ⟨fun belongs => Nat.lt_irrefl _ (earlier _ belongs part listed),
            (Nat.ne_of_lt behind).symm, fun belongs => Nat.lt_irrefl _ (later _ belongs)⟩
        rw [allowed_cons_of_encloses encloses, Extent.keeps_between answer
          (fun other otherMember => earlier other otherMember _ List.mem_cons_self) behind later,
          allowed_append, rest.extents_within.allowed_before (afterBody part member),
          Bool.and_true]
      have inRest : ∀ part ∈ rest.yield, allowed (⟨opening, closing,
          .ask (before ++ line.number :: rest.numbers) answer⟩ :: (body.extents ++ rest.extents))
            part.1.number =
              (true && allowed (⟨opening, closing,
                .ask (before ++ line.number :: rest.numbers) answer⟩ :: rest.extents)
                part.1.number) := by
        intro part member
        have behindBody := body.extents_within.allowed_behind fun other otherMember =>
          afterBody other otherMember part member
        simp only [allowed, List.all_cons, List.all_append] at behindBody ⊢
        rw [behindBody, Bool.true_and, Bool.true_and]
      have ih := Choices.surviving_eq opening closing answer rest (before ++ [line.number])
        orderedRest
        (fun part member => inside part (List.mem_cons_of_mem _ (List.mem_append_right _ member)))
        (fun other otherMember part member => by
          rcases List.mem_append.mp otherMember with otherMember | otherMember
          · exact earlier other otherMember part
              (List.mem_cons_of_mem _ (List.mem_append_right _ member))
          · rw [List.mem_singleton.mp otherMember]
            exact afterLine part (List.mem_append_right _ member))
      rw [List.append_assoc, List.singleton_append, List.length_append,
        List.length_singleton] at ih
      simp only [Choices.yield, Choices.extents, Choices.written, split]
      rw [surviving_cons, surviving_append, surviving_factor inBody, surviving_factor inRest,
        Outline.surviving_eq body orderedBody, surviving_directive]
      · simp only [↓reduceIte, ih]
      · rw [allowed_cons_of_not_encloses own, allowed_append,
          body.extents_within.allowed_before fun part member =>
            afterLine part (List.mem_append_left _ member),
          rest.extents_within.allowed_before fun part member =>
            afterLine part (List.mem_append_right _ member)]
        rfl

end

end Written

end Tailor
