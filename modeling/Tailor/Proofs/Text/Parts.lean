import Tailor.Text.Basic

/-! # Texts cut into parts

The parts of a text consist of its characters, and parts that are joined with a
character that none of them has are found again by cutting there
(`Tailor.Text.splitAll_join`). Where a text is cut only once, it is cut at the first
place at which the separator stands (`Tailor.Text.splitOnce?_eq_some_iff`).
-/

namespace Tailor.Text

variable {separator : Char}

@[simp] theorem join_single (separator part : Text) : join separator [part] = part := by
  simp [join]

theorem join_two (first second : Text) (rest : List Text) :
    join [separator] (first :: second :: rest) =
      first ++ separator :: join [separator] (second :: rest) := by
  simp [join]

/-- What is in a part is in the text. -/
theorem mem_of_mem_splitAll {text part : Text} {c : Char} (listed : part ∈ splitAll separator text)
    (inside : c ∈ part) : c ∈ text := by
  induction text generalizing part with
  | nil =>
      rw [splitAll, List.mem_singleton] at listed
      rwa [listed] at inside
  | cons first text ih =>
      rw [splitAll] at listed
      split at listed
      · rcases List.mem_cons.mp listed with rfl | later
        · cases inside
        · exact List.mem_cons_of_mem _ (ih later inside)
      · split at listed
        · rw [List.mem_singleton.mp listed, List.mem_singleton] at inside
          exact inside ▸ List.mem_cons_self ..
        · rename_i opening rest split
          rcases List.mem_cons.mp listed with rfl | later
          · rcases List.mem_cons.mp inside with rfl | further
            · exact List.mem_cons_self ..
            · exact List.mem_cons_of_mem _ (ih (by rw [split]; exact List.mem_cons_self ..) further)
          · exact List.mem_cons_of_mem _
              (ih (by rw [split]; exact List.mem_cons_of_mem _ later) inside)

/-- The separator is in no part. -/
theorem not_mem_of_mem_splitAll {text part : Text} (listed : part ∈ splitAll separator text) :
    separator ∉ part := by
  induction text generalizing part with
  | nil =>
      rw [splitAll, List.mem_singleton] at listed
      rw [listed]
      exact List.not_mem_nil
  | cons first text ih =>
      rw [splitAll] at listed
      split at listed
      · rcases List.mem_cons.mp listed with rfl | later
        · exact List.not_mem_nil
        · exact ih later
      · rename_i differs
        split at listed
        · rw [List.mem_singleton.mp listed, List.mem_singleton]
          exact fun same => differs same.symm
        · rename_i opening rest split
          rcases List.mem_cons.mp listed with rfl | later
          · intro inside
            rcases List.mem_cons.mp inside with same | further
            · exact differs same.symm
            · exact ih (by rw [split]; exact List.mem_cons_self ..) further
          · exact ih (by rw [split]; exact List.mem_cons_of_mem _ later)

/-- A joined text ends as its last part does. -/
theorem getLast?_join {parts : List Text} {last : Text} (listed : parts.getLast? = some last)
    (full : last ≠ []) : (join [separator] parts).getLast? = last.getLast? := by
  induction parts with
  | nil => cases listed
  | cons first rest ih =>
      cases rest with
      | nil =>
          rw [List.getLast?_singleton, Option.some.injEq] at listed
          rw [join_single, listed]
      | cons second rest =>
          have further : (join [separator] (second :: rest)).getLast? = last.getLast? :=
            ih (by simpa [List.getLast?_cons_cons] using listed)
          obtain ⟨c, ends⟩ := Option.isSome_iff_exists.mp
            (List.getLast?_isSome.mpr full)
          rw [join_two, List.getLast?_append, List.getLast?_cons, further, ends]
          rfl

/-- The first part ends at the first separator. -/
theorem splitAll_append {first : Text} (whole : separator ∉ first) (text : Text) :
    splitAll separator (first ++ separator :: text) = first :: splitAll separator text := by
  induction first with
  | nil => simp [splitAll]
  | cons c first ih =>
      have differs : c ≠ separator := fun same => whole (by simp [same])
      have others := fun inside => whole (List.mem_cons_of_mem c inside)
      rw [List.cons_append, splitAll, if_neg differs, ih others]

theorem splitAll_whole {part : Text} (whole : separator ∉ part) :
    splitAll separator part = [part] := by
  induction part with
  | nil => rfl
  | cons c part ih =>
      have differs : c ≠ separator := fun same => whole (by simp [same])
      have others := fun inside => whole (List.mem_cons_of_mem c inside)
      rw [splitAll, if_neg differs, ih others]

/-- Parts without the separator are found again. -/
theorem splitAll_join {parts : List Text} (some_ : parts ≠ [])
    (whole : ∀ part ∈ parts, separator ∉ part) :
    splitAll separator (join [separator] parts) = parts := by
  induction parts with
  | nil => exact absurd rfl some_
  | cons first rest ih =>
      have firstWhole := whole first (List.mem_cons_self ..)
      cases rest with
      | nil => rw [join_single, splitAll_whole firstWhole]
      | cons second rest =>
          rw [join_two, splitAll_append firstWhole,
            ih (by simp) fun part listed => whole part (List.mem_cons_of_mem _ listed)]

/-! ## One cut -/

/-- A part of characters of one kind is cut off where another character follows it. -/
theorem cut_append {ofKind : Char → Bool} {part rest : Text}
    (inside : ∀ c ∈ part, ofKind c = true)
    (ends : ∀ c, rest.head? = some c → ofKind c = false) :
    (part ++ rest).takeWhile ofKind = part ∧ (part ++ rest).dropWhile ofKind = rest := by
  rw [List.takeWhile_append_of_pos inside, List.dropWhile_append_of_pos inside]
  cases rest with
  | nil => simp
  | cons c rest => simp [ends c rfl]

/-- A text is cut at the first place at which the separator stands. -/
theorem splitOnce?_eq_some_iff {separator text before behind : Text} :
    splitOnce? separator text = some (before, behind) ↔
      text = before ++ (separator ++ behind) ∧
        ∀ other rest, text = other ++ (separator ++ rest) → before.length ≤ other.length := by
  induction text generalizing before with
  | nil =>
      rw [splitOnce?, Option.map_eq_some_iff]
      constructor
      · rintro ⟨rest, found, same⟩
        cases same
        have here := after?_eq_some_iff.mp found
        exact ⟨here, fun other rest _ => Nat.zero_le _⟩
      · rintro ⟨split, _⟩
        obtain ⟨rfl, rest⟩ := List.append_eq_nil_iff.mp split.symm
        exact ⟨behind, after?_eq_some_iff.mpr rest.symm, rfl⟩
  | cons c text ih =>
      rw [splitOnce?]
      cases found : after? separator (c :: text) with
      | some rest =>
          have here := after?_eq_some_iff.mp found
          constructor
          · intro same
            cases same
            exact ⟨here, fun other rest _ => Nat.zero_le _⟩
          · rintro ⟨split, first⟩
            obtain rfl : before = [] :=
              List.length_eq_zero_iff.mp (Nat.le_zero.mp (first [] rest here))
            rw [here, List.nil_append, List.append_cancel_left_eq] at split
            rw [split]
      | none =>
          have nowhere : ∀ rest, c :: text ≠ separator ++ rest := by
            intro rest here
            rw [after?_eq_some_iff.mpr here] at found
            cases found
          simp only [Option.map_eq_some_iff, Prod.exists, Prod.mk.injEq]
          constructor
          · rintro ⟨part, _, foundLater, rfl, rfl⟩
            obtain ⟨split, first⟩ := ih.mp foundLater
            refine ⟨congrArg (c :: ·) split, ?_⟩
            intro other rest here
            cases other with
            | nil => exact absurd here (nowhere rest)
            | cons d other =>
                cases here
                exact Nat.succ_le_succ (first other rest rfl)
          · rintro ⟨split, first⟩
            cases before with
            | nil => exact absurd split (nowhere behind)
            | cons d part =>
                cases split
                refine ⟨part, behind, ih.mpr ⟨rfl, ?_⟩, rfl, rfl⟩
                intro other rest here
                exact Nat.le_of_succ_le_succ (first (c :: other) rest (congrArg (c :: ·) here))

/-- A text is cut at the first occurrence of a character. -/
theorem splitOnce?_append {c : Char} {before : Text} (first : c ∉ before) (behind : Text) :
    splitOnce? [c] (before ++ c :: behind) = some (before, behind) := by
  induction before with
  | nil => simp [splitOnce?, after?]
  | cons d before ih =>
      have differs : c ≠ d := fun same => first (by simp [same])
      have later : c ∉ before := fun inside => first (List.mem_cons_of_mem d inside)
      rw [List.cons_append, splitOnce?]
      simp [after?, differs, ih later]

theorem splitOnce?_of_not_mem {c : Char} {text : Text} (missing : c ∉ text) :
    splitOnce? [c] text = none := by
  induction text with
  | nil => rfl
  | cons d text ih =>
      have differs : c ≠ d := fun same => missing (by simp [same])
      have later : c ∉ text := fun inside => missing (List.mem_cons_of_mem d inside)
      rw [splitOnce?]
      simp [after?, differs, ih later]

end Tailor.Text
