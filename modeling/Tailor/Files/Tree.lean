import Tailor.Files.Path
import Tailor.Text.Utf8

/-! # Trees of files

A tree holds files, links and directories at locations below its root, and knows the directory that
relative paths start from. The root is always a directory.
-/

namespace Tailor

/-- The names on the way from the root, none of them a link. -/
abbrev Location := List Text

/-- What stands at a location. -/
inductive Entry where
  | file (content : Bytes)
  /-- A symbolic link with the path that it holds. -/
  | link (target : Text)
  | directory
deriving Repr, DecidableEq

/-- A tree of files, and the directory that relative paths start from. -/
structure Files where
  entries : List (Location × Entry)
  here : Location
deriving Repr, DecidableEq

namespace Files

def get? (files : Files) (location : Location) : Option Entry :=
  if location = [] then some .directory else files.entries.lookup location

def erase (files : Files) (location : Location) : Files :=
  { files with entries := files.entries.filter fun item => item.1 != location }

/-- Puts an entry at a location, in the place of what stood there. -/
def put (files : Files) (location : Location) (entry : Entry) : Files :=
  { files with entries := (files.erase location).entries ++ [(location, entry)] }

/-- The locations of the links of the tree. -/
def links (files : Files) : List Location :=
  files.entries.filterMap fun item =>
    match item.2 with
    | .link _ => some item.1
    | _ => none

@[simp] theorem get?_root (files : Files) : files.get? [] = some .directory := rfl

/-- Taking away what stands at a location leaves all other locations as they are. -/
theorem get?_erase (files : Files) (location other : Location) :
    (files.erase location).get? other =
      if other = location ∧ other ≠ [] then none else files.get? other := by
  by_cases root : other = []
  · simp [root]
  · simp only [get?, erase, root, if_false, ne_eq, not_false_eq_true, and_true]
    induction files.entries with
    | nil => simp
    | cons entry rest ih =>
        obtain ⟨first, held⟩ := entry
        by_cases gone : first = location
        · subst gone
          by_cases same : other = first
          · subst same
            simpa using ih
          · simpa [List.lookup_cons, beq_false_of_ne same, same] using ih
        · by_cases same : other = first
          · subst same
            simp [gone]
          · simpa [List.lookup_cons, beq_false_of_ne same, same, gone] using ih

/-- Putting an entry at a location leaves all other locations as they are. -/
theorem get?_put (files : Files) (location other : Location) (entry : Entry) :
    (files.put location entry).get? other =
      if other = location ∧ other ≠ [] then some entry else files.get? other := by
  by_cases root : other = []
  · simp [root]
  · have erased := get?_erase files location other
    simp only [get?, root, if_false, ne_eq, not_false_eq_true, and_true] at erased ⊢
    by_cases same : other = location
    · subst same
      simp only [if_true] at erased
      simp [put, List.lookup_append, erased]
    · simp only [same, if_false] at erased
      simp [put, List.lookup_append, List.lookup_cons, erased, beq_false_of_ne same, same]

end Files
end Tailor
