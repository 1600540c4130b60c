import Tailor.Document.Processing
import Tailor.Proofs.Session.Outcome

/-! # Line ends

A text that is cut into lines and put together again loses the carriage returns
at the ends of its lines and nothing else (`Tailor.rejoin_lines`); so does one
that is processed without directives and spans (`Tailor.from_process_plain`).
Unifying newlines does more, for a carriage return that stands alone becomes a
line feed: it only drops the returns at line ends exactly if every carriage
return stands before a line feed (`Tailor.Text.unifyNewlines_eq_dropReturns_iff`).
-/

namespace Tailor

namespace Text

variable {c : Char} {text : Text}

/-- A line ends where the text ends and before a line feed. -/
def atLineEnd : (text : Text) → Bool
  | [] => true
  | c :: _ => c = '\n'

/-- The text without one carriage return at the end of each line. -/
def dropReturns : (text : Text) → Text
  | [] => []
  | c :: text => if c = '\r' ∧ atLineEnd text then dropReturns text else c :: dropReturns text

/-- Every carriage return stands directly before a line feed. -/
def ReturnsPaired (text : Text) : Prop :=
  ∀ before behind, text = before ++ '\r' :: behind → behind.head? = some '\n'

/-- Below the first character all carriage returns stand as they did. -/
theorem returnsPaired_cons :
    ReturnsPaired (c :: text) ↔ (c = '\r' → text.head? = some '\n') ∧ ReturnsPaired text := by
  constructor
  · intro paired
    constructor
    · intro same
      subst same
      exact paired [] text rfl
    · intro before behind split
      exact paired (c :: before) behind (congrArg (c :: ·) split)
  · rintro ⟨first, paired⟩ before behind split
    cases before with
    | nil =>
        cases split
        exact first rfl
    | cons other before =>
        obtain ⟨_, split⟩ := List.cons.inj split
        exact paired before behind split

theorem dropReturns_of_ne (other : c ≠ '\r') : dropReturns (c :: text) = c :: dropReturns text :=
  if_neg fun both => other both.1

/-- Without carriage returns nothing is dropped. -/
theorem dropReturns_of_not_mem (absent : '\r' ∉ text) : dropReturns text = text := by
  induction text with
  | nil => rfl
  | cons c text ih =>
      have other : c ≠ '\r' := fun same => absent (same ▸ List.mem_cons_self)
      rw [dropReturns_of_ne other, ih fun member => absent (List.mem_cons_of_mem c member)]

/-- Unified newlines have no carriage return. -/
theorem return_not_mem_unifyNewlines (text : Text) : '\r' ∉ unifyNewlines text := by
  fun_induction unifyNewlines text with
  | case1 => exact List.not_mem_nil
  | case2 text ih => exact List.not_mem_cons_of_ne_of_not_mem (by decide) ih
  | case3 c text unpaired ih =>
      refine List.not_mem_cons_of_ne_of_not_mem ?_ ih
      by_cases same : c = '\r'
      · rw [if_pos same]
        decide
      · rw [if_neg same]
        exact Ne.symm same

/-- **Unifying newlines.** It only drops the carriage returns at line ends
exactly if every carriage return stands directly before a line feed. -/
theorem unifyNewlines_eq_dropReturns_iff (text : Text) :
    unifyNewlines text = dropReturns text ↔ ReturnsPaired text := by
  fun_induction unifyNewlines text with
  | case1 => simp [dropReturns, ReturnsPaired]
  | case2 text ih =>
      have dropped : dropReturns ('\r' :: '\n' :: text) = '\n' :: dropReturns text := by
        simp [dropReturns, atLineEnd]
      rw [dropped, List.cons.injEq, ih, returnsPaired_cons, returnsPaired_cons]
      simp
  | case3 c text unpaired ih =>
      by_cases same : c = '\r'
      · subst same
        -- The line feed that stands for the return is in neither form of the text.
        have alone : text.head? ≠ some '\n' := by
          intro feeds
          obtain ⟨rest, split⟩ := List.head?_eq_some_iff.mp feeds
          exact unpaired rest rfl split
        have differ : '\n' :: unifyNewlines text ≠ dropReturns ('\r' :: text) := by
          cases text with
          | nil => simp [dropReturns, atLineEnd]
          | cons d rest =>
              have other : d ≠ '\n' := fun feeds => alone (congrArg some feeds)
              simp [dropReturns, atLineEnd, other]
        rw [if_pos rfl, returnsPaired_cons]
        exact iff_of_false differ fun paired => alone (paired.1 rfl)
      · rw [if_neg same, dropReturns_of_ne same, List.cons.injEq, ih, returnsPaired_cons]
        simp [same]

theorem rawLines_cons {line : Text} {others : List Text} (inside : c ≠ '\n')
    (behind : rawLines text = line :: others) : rawLines (c :: text) = (c :: line) :: others := by
  rw [rawLines, if_neg inside, behind]

/-- A text that is not empty has a first line; it is empty if a line feed comes
first, and not otherwise. -/
theorem exists_rawLines (c : Char) (text : Text) :
    ∃ line others, rawLines (c :: text) = line :: others ∧ (line = [] ↔ c = '\n') := by
  by_cases feeds : c = '\n'
  · exact ⟨[], rawLines text, if_pos feeds, iff_of_true rfl feeds⟩
  · rw [rawLines, if_neg feeds]
    cases rawLines text with
    | nil => exact ⟨[c], [], rfl, iff_of_false (List.cons_ne_nil c []) feeds⟩
    | cons line others =>
        exact ⟨c :: line, others, rfl, iff_of_false (List.cons_ne_nil c line) feeds⟩

theorem dropReturn_cons (c : Char) (line : Text) :
    dropReturn (c :: line) = if c = '\r' ∧ line = [] then [] else c :: dropReturn line := by
  cases line with
  | nil => by_cases same : c = '\r' <;> simp [dropReturn, same]
  | cons d rest =>
      rw [if_neg fun both => List.cons_ne_nil d rest both.2]
      simp only [dropReturn, List.getLast?_cons_cons]
      split <;> rfl

end Text

section Rejoin

variable {c d : Char} {line : Text} {lines : List Text} {text : Text}

theorem join_cons_cons (c : Char) (line : Text) (lines : List Text) (separator : Text) :
    Text.join separator ((c :: line) :: lines) = c :: Text.join separator (line :: lines) := by
  cases lines <;> simp [Text.join]

/-- What comes before the last character does not matter to the line feed at the
end. -/
theorem rejoin_cons_cons : rejoin (c :: d :: text) lines = rejoin (d :: text) lines := by
  unfold rejoin
  rw [List.getLast?_cons_cons]

theorem rejoin_cons_line :
    rejoin text ((c :: line) :: lines) = c :: rejoin text (line :: lines) := by
  unfold rejoin
  rw [join_cons_cons]
  rfl

theorem rejoin_cons_empty :
    rejoin text ([] :: line :: lines) = '\n' :: rejoin text (line :: lines) := by
  simp [rejoin, Text.join]

theorem rejoin_lines_lineFeed (text : Text) :
    rejoin ('\n' :: text) (Text.lines ('\n' :: text)) = '\n' :: rejoin text (Text.lines text) := by
  have whole : Text.lines ('\n' :: text) = [] :: Text.lines text := by
    simp [Text.lines, Text.rawLines, Text.dropReturn]
  rw [whole]
  cases text with
  | nil => decide
  | cons c text =>
      obtain ⟨line, others, split, _⟩ := Text.exists_rawLines c text
      rw [Text.lines, split, List.map_cons, rejoin_cons_cons, rejoin_cons_empty]

theorem rejoin_lines_inside (inside : c ≠ '\n') (text : Text) :
    rejoin (c :: text) (Text.lines (c :: text)) =
      if c = '\r' ∧ Text.atLineEnd text then rejoin text (Text.lines text)
      else c :: rejoin text (Text.lines text) := by
  cases text with
  | nil =>
      by_cases returns : c = '\r'
      · subst returns
        decide
      · simp [Text.lines, Text.rawLines, Text.dropReturn, rejoin, Text.join, inside, returns]
  | cons d rest =>
      obtain ⟨line, others, split, empty⟩ := Text.exists_rawLines d rest
      have whole : Text.lines (c :: d :: rest) =
          Text.dropReturn (c :: line) :: others.map Text.dropReturn := by
        rw [Text.lines, Text.rawLines_cons inside split, List.map_cons]
      have ends : line = [] ↔ Text.atLineEnd (d :: rest) = true := by
        rw [empty, Text.atLineEnd, decide_eq_true_eq]
      rw [whole, Text.dropReturn_cons, rejoin_cons_cons, Text.lines, split, List.map_cons]
      by_cases dropped : c = '\r' ∧ line = []
      · rw [if_pos dropped, if_pos ⟨dropped.1, ends.mp dropped.2⟩, dropped.2]
        rfl
      · rw [if_neg dropped, if_neg fun both => dropped ⟨both.1, ends.mpr both.2⟩,
          rejoin_cons_line]

/-- **Cutting and joining.** A text whose lines are put together again loses one
carriage return at the end of each line, and nothing else. -/
theorem rejoin_lines (text : Text) : rejoin text (Text.lines text) = Text.dropReturns text := by
  induction text with
  | nil => rfl
  | cons c text ih =>
      by_cases feeds : c = '\n'
      · subst feeds
        rw [rejoin_lines_lineFeed, ih]
        exact (Text.dropReturns_of_ne (by decide)).symm
      · rw [rejoin_lines_inside feeds, ih, Text.dropReturns]

end Rejoin

variable {σ : Type}

/-- Directives and spans are left as they are. -/
structure Treatment.Plain (treatment : Treatment) : Prop where
  unmarked : treatment.mark?.getD [] = []
  unescaped : treatment.escape? = none

/-- The session after the note that no spans are replaced. -/
def Session.unsubstituted (session : Session σ) : Session σ :=
  { session with
    trace := session.trace ++ [.noted ⟨.info, .processing,
      "No escape characters defined, no substitution will be made".toList⟩] }

section Process

variable (world : World σ) (substitution : Substitution) {treatment : Treatment}

theorem survivors_plain (plain : treatment.Plain) (text : Text) :
    survivors world treatment text = pure (number (Text.lines text)) := by
  have unmarked := plain.unmarked
  unfold survivors
  split
  · next c mark marked => simp [marked] at unmarked
  · rfl

theorem Substitution.numbered_unescaped (lines : List NumberedLine) :
    substitution.numbered world none lines = pure (lines.map NumberedLine.text) := by
  induction lines with
  | nil => rfl
  | cons first rest ih =>
      unfold numbered
      rw [ih]
      rfl

theorem from_substituted_plain (plain : treatment.Plain) (lines : List NumberedLine)
    (session : Session σ) :
    Act.from_ session (substituted world treatment substitution lines) =
      (.ok (lines.map NumberedLine.text), session.unsubstituted) := by
  unfold substituted
  rw [plain.unescaped, Substitution.numbered_unescaped]
  rfl

/-- Numbers are put on lines and on nothing in them. -/
theorem map_text_number (lines : List Text) :
    (number lines).map NumberedLine.text = lines := by
  simp [number, Function.comp_def]

/-- Processing a text without directives and spans drops the carriage returns at
the ends of its lines. -/
theorem from_process_plain (plain : treatment.Plain) (text : Text) (session : Session σ) :
    Act.from_ session (process world treatment substitution text) =
      (.ok (Text.dropReturns text), session.unsubstituted) := by
  unfold process
  rw [survivors_plain world plain, pure_bind, Act.from_bind,
    from_substituted_plain world substitution plain, map_text_number, ← rejoin_lines]
  rfl

end Process

end Tailor
