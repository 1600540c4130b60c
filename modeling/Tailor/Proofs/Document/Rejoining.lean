import Mathlib
import Tailor.Proofs.Document.LineEnds
import Tailor.Proofs.Text.Parts

/-! # Lines joined and cut again

Lines that have no line feed in them and no carriage return at their end are found again
where they are joined, if a line feed ends the text or its last line is not empty
(`Tailor.Text.lines_join_feed`, `Tailor.Text.lines_join`). So a document that ends in a
line feed comes out as a text whose lines are its replaced lines
(`Tailor.lines_kept`).
-/

namespace Tailor

namespace Text

variable {line : Text} {lines : List Text}

/-- What a text can have as a line: no line feed in it and no carriage return at its end. -/
structure IsLine (line : Text) : Prop where
  unbroken : '\n' ∉ line
  unreturned : line.getLast? ≠ some '\r'

theorem dropReturn_of_isLine (isLine : IsLine line) : dropReturn line = line :=
  if_neg isLine.unreturned

/-- The first line ends at the first line feed. -/
theorem rawLines_append (unbroken : '\n' ∉ line) (text : Text) :
    rawLines (line ++ '\n' :: text) = line :: rawLines text := by
  induction line with
  | nil => rw [List.nil_append, rawLines, if_pos rfl]
  | cons c line ih =>
      have inside : c ≠ '\n' := fun same => unbroken (same ▸ List.mem_cons_self)
      have later : '\n' ∉ line := fun member => unbroken (List.mem_cons_of_mem c member)
      rw [List.cons_append, rawLines_cons inside (ih later)]

/-- A text without line feeds is one line if it is not empty. -/
theorem rawLines_whole (some_ : line ≠ []) (unbroken : '\n' ∉ line) : rawLines line = [line] := by
  induction line with
  | nil => exact absurd rfl some_
  | cons c line ih =>
      have inside : c ≠ '\n' := fun same => unbroken (same ▸ List.mem_cons_self)
      have later : '\n' ∉ line := fun member => unbroken (List.mem_cons_of_mem c member)
      cases line with
      | nil => rw [rawLines, if_neg inside, rawLines]
      | cons d line => rw [rawLines_cons inside (ih (List.cons_ne_nil d line) later)]

theorem rawLines_join_feed (some_ : lines ≠ []) (unbroken : ∀ line ∈ lines, '\n' ∉ line) :
    rawLines (join ['\n'] lines ++ ['\n']) = lines := by
  induction lines with
  | nil => exact absurd rfl some_
  | cons first rest ih =>
      have here := unbroken first List.mem_cons_self
      cases rest with
      | nil => rw [join_single, rawLines_append here, rawLines]
      | cons second rest =>
          have later := fun line member => unbroken line (List.mem_cons_of_mem first member)
          rw [join_two, List.append_assoc, List.cons_append, rawLines_append here,
            ih (List.cons_ne_nil second rest) later]

theorem rawLines_join {last : Text} (ends : lines.getLast? = some last) (full : last ≠ [])
    (unbroken : ∀ line ∈ lines, '\n' ∉ line) : rawLines (join ['\n'] lines) = lines := by
  induction lines with
  | nil => cases ends
  | cons first rest ih =>
      have here := unbroken first List.mem_cons_self
      cases rest with
      | nil =>
          obtain rfl : first = last := Option.some.inj ends
          rw [join_single, rawLines_whole full here]
      | cons second rest =>
          have later := fun line member => unbroken line (List.mem_cons_of_mem first member)
          rw [List.getLast?_cons_cons] at ends
          rw [join_two, rawLines_append here, ih ends later]

theorem map_dropReturn (areLines : ∀ line ∈ lines, IsLine line) :
    lines.map dropReturn = lines := by
  rw [List.map_congr_left fun line member => dropReturn_of_isLine (areLines line member),
    List.map_id']

/-- Lines with a line feed behind each are found again. -/
theorem lines_join_feed (some_ : lines ≠ []) (areLines : ∀ line ∈ lines, IsLine line) :
    Text.lines (join ['\n'] lines ++ ['\n']) = lines := by
  rw [Text.lines, rawLines_join_feed some_ fun line member => (areLines line member).unbroken,
    map_dropReturn areLines]

/-- Lines with a line feed between neighbours are found again if the last one is not empty. -/
theorem lines_join (some_ : lines ≠ []) (full : lines.getLast? ≠ some [])
    (areLines : ∀ line ∈ lines, IsLine line) : Text.lines (join ['\n'] lines) = lines := by
  obtain ⟨last, ends⟩ := Option.isSome_iff_exists.mp (List.getLast?_isSome.mpr some_)
  have lastFull : last ≠ [] := fun nothing => full (ends.trans (congrArg some nothing))
  rw [Text.lines, rawLines_join ends lastFull fun line member => (areLines line member).unbroken,
    map_dropReturn areLines]

end Text

variable {σ : Type}

/-- If the document ends in a line feed, so does the text that is made of its lines. -/
theorem rejoin_eq_of_feed {text : Text} {lines : List Text} (ends : text.getLast? = some '\n')
    (some_ : lines ≠ []) : rejoin text lines = Text.join ['\n'] lines ++ ['\n'] := by
  have feeds : (!lines.isEmpty && text.getLast? == some '\n') = true := by
    rw [ends, List.isEmpty_eq_false_iff.mpr some_]
    rfl
  rw [rejoin, if_pos feeds]

/-- Every surviving line becomes one line. -/
theorem length_of_numbered {world : World σ} {substitution : Substitution}
    {escape? : Option Escape} {surviving : List NumberedLine} {lines : List Text}
    {session after : Session σ}
    (done : Act.from_ session (substitution.numbered world escape? surviving) =
      (.ok lines, after)) : lines.length = surviving.length := by
  induction surviving generalizing session lines with
  | nil =>
      cases done
      rfl
  | cons first rest ih =>
      rw [Substitution.numbered, Act.from_bind_eq_ok] at done
      obtain ⟨text, between, _, done⟩ := done
      obtain ⟨others, _, further, last⟩ := Act.from_bind_eq_ok.mp done
      cases last
      exact congrArg (· + 1) (ih further)

theorem length_of_substituted {world : World σ} {treatment : Treatment}
    {substitution : Substitution} {surviving : List NumberedLine} {lines : List Text}
    {session after : Session σ}
    (done : Act.from_ session (substituted world treatment substitution surviving) =
      (.ok lines, after)) : lines.length = surviving.length := by
  rw [substituted] at done
  split at done
  · obtain ⟨_, between, _, done⟩ := Act.from_bind_eq_ok.mp done
    exact length_of_numbered done
  · exact length_of_numbered done

/-- **Cutting and joining lose nothing.** Without directives and spans a text only loses the
carriage returns at the ends of its lines. Lines are found again where they are joined, with
a line feed at the end, or without one if the last line is not empty. And a document that
ends in a line feed comes out as its replaced lines, one for each surviving line, as far as
these are lines. -/
theorem lines_kept (world : World σ) (substitution : Substitution) (session : Session σ) :
    (∀ (treatment : Treatment) (text : Text), treatment.Plain →
      Act.from_ session (process world treatment substitution text) =
        (.ok (Text.dropReturns text), session.unsubstituted)) ∧
    (∀ lines : List Text, lines ≠ [] → (∀ line ∈ lines, Text.IsLine line) →
      Text.lines (Text.join ['\n'] lines ++ ['\n']) = lines ∧
        (lines.getLast? ≠ some [] → Text.lines (Text.join ['\n'] lines) = lines)) ∧
    ∀ (treatment : Treatment) (text result : Text) (after : Session σ),
      text.getLast? = some '\n' →
      Act.from_ session (process world treatment substitution text) = (.ok result, after) →
      ∃ surviving between replaced,
        Act.from_ session (survivors world treatment text) = (.ok surviving, between) ∧
        Act.from_ between (substituted world treatment substitution surviving) =
          (.ok replaced, after) ∧
        replaced.length = surviving.length ∧
        (surviving ≠ [] → (∀ line ∈ replaced, Text.IsLine line) →
          Text.lines result = replaced) := by
  refine ⟨?plain, ?joined, ?processed⟩
  case plain =>
    intro treatment text plain
    exact from_process_plain world substitution plain text session
  case joined =>
    intro lines some_ areLines
    exact ⟨Text.lines_join_feed some_ areLines,
      fun full => Text.lines_join some_ full areLines⟩
  case processed =>
    intro treatment text result after ends done
    obtain ⟨surviving, between, survived, done⟩ := Act.from_bind_eq_ok.mp done
    obtain ⟨replaced, _, substitutes, last⟩ := Act.from_bind_eq_ok.mp done
    cases last
    have count := length_of_substituted substitutes
    refine ⟨surviving, between, replaced, survived, substitutes, count, ?_⟩
    intro some_ areLines
    have replacedSome : replaced ≠ [] := by
      rw [← List.length_pos_iff] at some_ ⊢
      rwa [count]
    rw [rejoin_eq_of_feed ends replacedSome, Text.lines_join_feed replacedSome areLines]

/-- A span under a comment, and an empty line that ends in a carriage return. -/
def gaugeText : Text := "#~ # sizes\n<size>px\r\n\r\n".toList

/-- Directives begin with a mark, spans stand between angle brackets. -/
def gaugeTreatment : Treatment := ⟨some "#~".toList, some ⟨['<'], ['>']⟩, true⟩

def gaugeTable : Substitution := ⟨[("size".toList, "12".toList)], true⟩

theorem gaugeText_kept :
    (⟨none, none, true⟩ : Treatment).Plain ∧
    Act.from_ (Session.start ()) (process .obliging ⟨none, none, true⟩ gaugeTable gaugeText) =
      (.ok "#~ # sizes\n<size>px\n\n".toList, (Session.start ()).unsubstituted) ∧
    Text.lines (Text.join ['\n'] ["a".toList, []] ++ ['\n']) = ["a".toList, []] ∧
    Text.lines (Text.join ['\n'] [[], "a".toList]) = [[], "a".toList] ∧
    gaugeText.getLast? = some '\n' ∧
    Act.from_ (Session.start ()) (process .obliging gaugeTreatment gaugeTable gaugeText) =
      (.ok "12px\n\n".toList, .start ()) ∧
    Text.lines "12px\n\n".toList = ["12px".toList, []] := by
  have kept := lines_kept .obliging gaugeTable (Session.start ())
  have unmarked : (⟨none, none, true⟩ : Treatment).Plain := ⟨rfl, rfl⟩
  have ends : gaugeText.getLast? = some '\n' := by decide
  have processed : Act.from_ (Session.start ())
      (process .obliging gaugeTreatment gaugeTable gaugeText) =
      (.ok "12px\n\n".toList, .start ()) := by cbv
  have survived : Act.from_ (Session.start ()) (survivors .obliging gaugeTreatment gaugeText) =
      (.ok [⟨2, "<size>px".toList⟩, ⟨3, []⟩], .start ()) := by cbv
  have replaces : Act.from_ (Session.start ()) (substituted .obliging gaugeTreatment gaugeTable
      [⟨2, "<size>px".toList⟩, ⟨3, []⟩]) = (.ok ["12px".toList, []], .start ()) := by cbv
  have nothing : Text.IsLine [] := ⟨by decide, by decide⟩
  have letter : Text.IsLine "a".toList := ⟨by decide, by decide⟩
  have width : Text.IsLine "12px".toList := ⟨by decide, by decide⟩
  obtain ⟨surviving, between, replaced, sameSurvivors, sameReplaced, _, again⟩ :=
    kept.2.2 gaugeTreatment gaugeText _ _ ends processed
  cases survived.symm.trans sameSurvivors
  cases replaces.symm.trans sameReplaced
  refine ⟨unmarked, ?_, ?_, ?_, ends, processed, ?_⟩
  · have dropped : Text.dropReturns gaugeText = "#~ # sizes\n<size>px\n\n".toList := by cbv
    rw [kept.1 _ gaugeText unmarked, dropped]
  · exact (kept.2.1 ["a".toList, []] (List.cons_ne_nil _ _)
      (List.forall_mem_cons.mpr ⟨letter, List.forall_mem_singleton.mpr nothing⟩)).1
  · exact (kept.2.1 [[], "a".toList] (List.cons_ne_nil _ _)
      (List.forall_mem_cons.mpr ⟨nothing, List.forall_mem_singleton.mpr letter⟩)).2 (by decide)
  · exact again (List.cons_ne_nil _ _)
      (List.forall_mem_cons.mpr ⟨width, List.forall_mem_singleton.mpr nothing⟩)

end Tailor
