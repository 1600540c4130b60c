import Tailor.Files.Content
import Tailor.Proofs.Files.Delivery

/-! # What is found through links

A walk that follows links and finds something finds what stands where its names lead
(`Tailor.Files.leads_of_walk`). So paths that are resolved to one place are paths to one
thing: where something is found at both, both show the same text
(`Tailor.Files.readText_of_resolve`).
-/

namespace Tailor.Files

variable {files : Files} {place location : Location} {names : List Text} {entry : Entry}

theorem Grounded.stands (grounded : files.Grounded place) :
    files.get? place = some .directory := by
  cases grounded with
  | root => exact get?_root files
  | into _ _ _ _ stands => exact stands

/-- From the ground a walk that follows links finds what stands where its names lead. -/
theorem leads_of_walk {links : Nat} (grounded : files.Grounded place)
    (parts : ∀ name ∈ names, Path.IsPart name)
    (walked : files.walk true links place names = .ok (.found location entry)) :
    (∃ way, files.Leads place names way location) ∧ files.get? location = some entry := by
  have behind : ∀ {name : Text} {rest : List Text},
      (∀ other ∈ name :: rest, Path.IsPart other) → ∀ other ∈ rest, Path.IsPart other :=
    fun parts other listed => parts other (List.mem_cons_of_mem _ listed)
  -- a directory is found only where the walk stands, and it stands on the ground all the way
  fun_induction Files.walk files true links place names with
  | case1 =>
      cases walked
      exact ⟨⟨[], .here _⟩, grounded.stands⟩
  | case2 links place rest ih =>
      obtain ⟨⟨way, leads⟩, stands⟩ := ih grounded (behind parts) walked
      exact ⟨⟨way, .dot leads⟩, stands⟩
  | case3 links place rest _ ih =>
      obtain ⟨⟨way, leads⟩, stands⟩ := ih grounded.dropLast (behind parts) walked
      exact ⟨⟨way, .up leads⟩, stands⟩
  | case7 links place name rest dot up short directory ih =>
      have below : files.Grounded (place ++ [name]) :=
        .into grounded (parts name (List.mem_cons_self ..)) ⟨dot, up⟩ (Nat.le_of_not_lt short)
          directory
      obtain ⟨⟨way, leads⟩, stands⟩ := ih below (behind parts) walked
      exact ⟨⟨_, .into ⟨dot, up⟩ (linkAt?_of_directory directory) leads⟩, stands⟩
  | case8 links place name rest dot up short content file last =>
      cases walked
      cases List.isEmpty_iff.mp last
      exact ⟨⟨_, .into ⟨dot, up⟩ (linkAt?_of_file file) (.here _)⟩, file⟩
  | case10 _ _ _ rest _ _ _ _ _ unfollowed => simp at unfollowed
  | case13 place name rest dot up short target link _ links full ih =>
      have parts : ∀ other ∈ trail target ++ rest, Path.IsPart other := by
        intro other listed
        rcases List.mem_append.mp listed with held | later
        · exact isPart_of_mem_trail held
        · exact behind parts other later
      obtain ⟨⟨way, leads⟩, stands⟩ := ih (grounded.startOf target) parts walked
      exact ⟨⟨_, .along ⟨dot, up⟩ (linkAt?_eq_some.mpr link) leads⟩, stands⟩
  | _ => cases walked

/-- What is found is found where more stands, and also by following a link at the end if it
is none. -/
theorem walk_found_mono {before after : Files}
    (kept : ∀ location entry, before.get? location = some entry →
      after.get? location = some entry)
    {follow further : Bool} {links : Nat} {place : Location} {names : List Text}
    (alike : further = follow ∨ further = true ∧ ∀ held, entry ≠ .link held)
    (walked : before.walk follow links place names = .ok (.found location entry)) :
    after.walk further links place names = .ok (.found location entry) := by
  fun_induction Files.walk before follow links place names with
  | case1 =>
      rw [walk]
      exact walked
  | case2 _ _ _ ih =>
      rw [walk, if_pos rfl]
      exact ih walked
  | case3 _ _ _ dot ih =>
      rw [walk, if_neg dot, if_pos rfl]
      exact ih walked
  | case7 _ _ _ _ dot up short directory ih =>
      rw [walk, if_neg dot, if_neg up, if_neg short, kept _ _ directory]
      exact ih walked
  | case8 _ _ _ _ dot up short content file last =>
      rw [walk, if_neg dot, if_neg up, if_neg short, kept _ _ file]
      simpa only [last, if_true] using walked
  | case10 _ _ _ _ dot up short held link last =>
      -- the link itself was found, so it is not followed now either
      cases walked
      rcases alike with rfl | ⟨_, noLink⟩
      · rw [walk, if_neg dot, if_neg up, if_neg short, kept _ _ link]
        simp only [last, if_true]
      · exact absurd rfl (noLink held)
  | case13 _ _ rest dot up short held link passed links full ih =>
      have goesOn : (rest.isEmpty && !further) ≠ true := by
        rcases alike with rfl | ⟨rfl, _⟩
        · exact passed
        · simp
      rw [walk, if_neg dot, if_neg up, if_neg short, kept _ _ link]
      simp only [goesOn, full]
      exact ih walked
  | _ => cases walked

theorem place_found_mono {before after : Files} (here : after.here = before.here)
    (kept : ∀ location entry, before.get? location = some entry →
      after.get? location = some entry)
    {follow further : Bool} {path : Path}
    (alike : further = follow ∨ further = true ∧ ∀ held, entry ≠ .link held)
    (placed : before.place follow path = .ok (.found location entry)) :
    after.place further path = .ok (.found location entry) := by
  obtain ⟨whole, located⟩ := place_eq_ok.mp placed
  refine place_eq_ok.mpr ⟨whole, ?_⟩
  unfold locate at located ⊢
  split at located
  · cases located
  · rename_i short
    rw [if_neg short, base_eq_of_here here]
    exact walk_found_mono kept alike located

section Paths

variable {path other resolved : Path}

/-- What is found at a path stands where the path is settled. -/
theorem get?_settle (grounded : files.Grounded files.here) (proper : path.Proper)
    (located : files.locate true path = .ok (.found location entry)) :
    files.settle path = location ∧ files.get? location = some entry := by
  have base : files.Grounded (files.base path) := by
    unfold Files.base
    split
    · exact .root
    · exact grounded
  unfold locate at located
  split at located
  · cases located
  · obtain ⟨⟨way, leads⟩, stands⟩ := leads_of_walk base proper located
    exact ⟨settle_eq_of_leads leads, stands⟩

/-- Something is at a path if the path is located. -/
theorem isThere_eq_true :
    files.isThere path = .ok true ↔
      ∃ location entry, files.place true path = .ok (.found location entry) := by
  unfold isThere entryAt
  constructor
  · intro there
    cases placed : files.place true path with
    | ok spot =>
        cases spot with
        | found location entry => exact ⟨location, entry, rfl⟩
        | vacant directory name =>
            rw [placed] at there
            cases there
    | error fault =>
        rw [placed] at there
        cases fault with
        | refused refusal shown other? =>
            by_cases absent : meansAbsent refusal = true <;> simp [absent, Except.map] at there
        | _ => cases there
  · rintro ⟨location, entry, placed⟩
    rw [placed]
    rfl

/-- Paths that are resolved to one place are placed there both, if something is there. -/
theorem place_eq_of_resolve (grounded : files.Grounded files.here) (proper : path.Proper)
    (otherProper : other.Proper) (resolves : files.resolve path = .ok resolved)
    (same : files.resolve other = .ok resolved) (there : files.isThere path = .ok true)
    (otherThere : files.isThere other = .ok true) :
    files.place true path = files.place true other := by
  obtain ⟨location, entry, placed⟩ := isThere_eq_true.mp there
  obtain ⟨otherLocation, otherEntry, otherPlaced⟩ := isThere_eq_true.mp otherThere
  obtain ⟨settled, stands⟩ := get?_settle grounded proper (place_eq_ok.mp placed).2
  obtain ⟨otherSettled, otherStands⟩ :=
    get?_settle grounded otherProper (place_eq_ok.mp otherPlaced).2
  have one : Path.ofLocation location = Path.ofLocation otherLocation := by
    rw [← settled, ← otherSettled, ← resolve_eq_ok resolves, ← resolve_eq_ok same]
  cases one
  rw [stands] at otherStands
  cases otherStands
  rw [placed, otherPlaced]

/-- A path at which a text is read is one at which something is. -/
theorem isThere_of_readText {text : Text} (reads : files.readText path = .ok text) :
    files.isThere path = .ok true := by
  unfold readText read at reads
  cases placed : files.place true path with
  | error fault => simp [placed] at reads
  | ok spot =>
      cases spot with
      | vacant directory name => simp [placed] at reads
      | found location entry => exact isThere_eq_true.mpr ⟨location, entry, placed⟩

/-- **Paths to one thing.** Paths that are resolved to one place show the same text, if
something is found at both or at neither. -/
theorem readText_of_resolve (grounded : files.Grounded files.here) (proper : path.Proper)
    (otherProper : other.Proper) (resolves : files.resolve path = .ok resolved)
    (same : files.resolve other = .ok resolved)
    (alike : files.isThere path = .ok true ↔ files.isThere other = .ok true) (text : Text) :
    files.readText path = .ok text ↔ files.readText other = .ok text := by
  by_cases there : files.isThere path = .ok true
  · have placed := place_eq_of_resolve grounded proper otherProper resolves same there
      (alike.mp there)
    unfold readText read
    rw [placed]
    cases files.place true other with
    | error fault => simp
    | ok spot => rcases spot with ⟨_, _ | _ | _⟩ | _ <;> simp
  · constructor
    · intro reads
      exact absurd (isThere_of_readText reads) there
    · intro reads
      exact absurd (alike.mpr (isThere_of_readText reads)) there

end Paths

end Tailor.Files
