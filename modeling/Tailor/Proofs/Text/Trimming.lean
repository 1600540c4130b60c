import Mathlib.Data.List.DropRight
import Mathlib.Data.List.TakeWhile
import Tailor.Text.Basic

/-! # Trimmed texts

A trimmed text neither begins with a blank (`Tailor.Text.not_isBlank_of_head?_trim`) nor ends
in one (`Tailor.Text.not_isBlank_of_getLast?_trim`), blanks before a text do not matter to it
(`Tailor.Text.trim_append`), and exactly of blanks nothing is left
(`Tailor.Text.trim_eq_nil_iff`).
-/

namespace Tailor.Text

variable {c : Char} {gap text : Text}

theorem trim_append (blank : ∀ c ∈ gap, isBlank c = true) (text : Text) :
    trim (gap ++ text) = trim text := by
  rw [trim, trim, trimLeft, trimLeft, List.dropWhile_append_of_pos blank]

theorem not_isBlank_of_getLast?_trim (last : (trim text).getLast? = some c) :
    isBlank c = false := by
  rw [trim, trimRight, dropTrailing, List.getLast?_reverse] at last
  have ended := List.head?_dropWhile_not isBlank (trimLeft text).reverse
  rwa [last] at ended

theorem isBlank_of_trim_eq_nil (nothing : trim text = []) : ∀ c ∈ text, isBlank c = true := by
  rw [trim, trimRight, dropTrailing, List.reverse_eq_nil_iff, List.dropWhile_eq_nil_iff] at nothing
  have left : trimLeft text = [] := by
    cases starts : trimLeft text with
    | nil => rfl
    | cons c rest =>
        have first := List.head?_dropWhile_not isBlank text
        rw [← trimLeft, starts] at first
        have blank := nothing c (by simp [starts])
        exact absurd blank (Bool.eq_false_iff.mp first)
  rwa [trimLeft, List.dropWhile_eq_nil_iff] at left

theorem trim_eq_nil_iff : trim text = [] ↔ ∀ c ∈ text, isBlank c = true := by
  constructor
  · exact isBlank_of_trim_eq_nil
  · intro blank
    rw [← List.append_nil text, trim_append blank]
    rfl

/-- Without trailing characters a text begins as before, unless nothing is left. -/
theorem head?_of_head?_dropTrailing {drop : Char → Bool}
    (first : (dropTrailing drop text).head? = some c) : text.head? = some c := by
  obtain ⟨behind, split⟩ := List.rdropWhile_prefix drop text
  change dropTrailing drop text ++ behind = text at split
  rw [← split, List.head?_append, first]
  rfl

theorem head?_dropTrailing {drop : Char → Bool} (first : text.head? = some c)
    (keeps : drop c = false) : (dropTrailing drop text).head? = some c := by
  cases begins : (dropTrailing drop text).head? with
  | some d => rw [← first, head?_of_head?_dropTrailing begins]
  | none =>
      have dropped := List.rdropWhile_eq_nil_iff.mp (List.head?_eq_none_iff.mp begins) c
        (List.mem_of_mem_head? first)
      rw [keeps] at dropped
      cases dropped

/-- A trimmed text does not begin with a blank. -/
theorem not_isBlank_of_head?_trim (first : (trim text).head? = some c) : isBlank c = false := by
  have ended := List.head?_dropWhile_not isBlank text
  rw [trim, trimRight] at first
  have begins := head?_of_head?_dropTrailing first
  rw [trimLeft] at begins
  rwa [begins] at ended

end Tailor.Text
