import Tailor.Files.Delivery
import Tailor.Proofs.Outcome

/-! # Outcomes of actions on files

What an action on files comes to from a tree, and the tree that it leaves. Each
operation of the file system either fails and leaves the tree as it was, or puts or
takes one entry at the place that its path has (`Tailor.Files.create_cases`,
`Tailor.Files.remove_cases`, `Tailor.Files.write_cases`, `Tailor.Files.rename_cases`).
-/

namespace Tailor

/-- The fault is a refusal of the file system, or complains about a null character
where there is one. -/
inductive FileFault.Plain (nulled : Prop) : FileFault → Prop where
  | refused (refusal : Refusal) (shown : Text) (other? : Option Text) :
      Plain nulled (.refused refusal shown other?)
  | null (holds : nulled) : Plain nulled .nullCharacter

theorem FileFault.Plain.mono {nulled wider : Prop} {fault : FileFault}
    (plain : fault.Plain nulled) (implies : nulled → wider) : fault.Plain wider := by
  cases plain with
  | refused => exact .refused _ _ _
  | null holds => exact .null (implies holds)

/-- The location that a place is or would be. -/
def Place.spot : Place → Location
  | .found location _ => location
  | .vacant directory name => directory ++ [name]

/-- A place where a file or link stands, or nothing. -/
def Place.Replaceable : Place → Prop
  | .found _ entry => entry ≠ .directory
  | .vacant _ _ => True

namespace Files

variable {α β : Type}

@[simp] theorem perform_throw (files : Files) (fault : FileFault) :
    perform files (throw fault : FileAct α) = (.error fault, files) := rfl

@[simp] theorem perform_pure (files : Files) (value : α) :
    perform files (pure value : FileAct α) = (.ok value, files) := rfl

/-- Looking at the tree leaves it as it is. -/
theorem perform_get_bind (files : Files) (next : Files → FileAct α) :
    perform files (get >>= next) = perform files (next files) := rfl

/-- A question leaves the tree as it is. -/
@[simp] theorem perform_ofTree (files : Files) (question : Files → Except FileFault α) :
    perform files (ofTree question) = (question files, files) := by
  unfold ofTree
  rw [perform_get_bind]
  cases question files <;> rfl

/-- A bind goes on with the value and the tree of its first part; a fault ends it. -/
theorem perform_bind (files : Files) (action : FileAct α) (next : α → FileAct β) :
    perform files (action >>= next) =
      match perform files action with
      | (.ok value, after) => perform after (next value)
      | (.error fault, after) => (.error fault, after) := by
  unfold perform
  rw [outcome_bind]
  rcases action.run.run files with ⟨_ | value, after⟩ <;> rfl

/-- A bind comes to a value exactly if both of its parts do, one after the other. -/
theorem perform_bind_eq_ok {files last : Files} {action : FileAct α} {next : α → FileAct β}
    {result : β} :
    perform files (action >>= next) = (.ok result, last) ↔
      ∃ value between, perform files action = (.ok value, between) ∧
        perform between (next value) = (.ok result, last) :=
  outcome_bind_eq_ok

/-- A fault is dealt with in the tree that it left. -/
theorem perform_tryCatch (files : Files) (action : FileAct α) (handle : FileFault → FileAct α) :
    perform files (tryCatch action handle) =
      match perform files action with
      | (.ok value, after) => (.ok value, after)
      | (.error fault, after) => perform after (handle fault) := by
  unfold perform
  rw [outcome_tryCatch]
  rcases action.run.run files with ⟨_ | value, after⟩ <;> rfl

/-! ## Operations -/

/-- A path has a place, unless it holds a null character or leads nowhere. -/
theorem place_eq_ok {files : Files} {follow : Bool} {path : Path} {spot : Place} :
    files.place follow path = .ok spot ↔
      hasNull path = false ∧ files.locate follow path = .ok spot := by
  unfold place
  cases null : hasNull path with
  | true => simp
  | false => cases files.locate follow path <;> simp

theorem place_plain {files : Files} {follow : Bool} {path : Path} {fault : FileFault}
    (failed : files.place follow path = .error fault) : fault.Plain (hasNull path = true) := by
  unfold place at failed
  split at failed
  · rename_i null
    cases failed
    exact .null null
  · split at failed
    · cases failed
    · cases failed
      exact .refused _ _ _

variable (files : Files)

/-- A new entry is put where nothing stands. -/
theorem create_cases (path : Path) (entry : Entry) (shown : Text) (other? : Option Text) :
    (∃ fault, fault.Plain (hasNull path = true) ∧
        perform files (create path entry shown other?) = (.error fault, files)) ∨
      ∃ directory name, hasNull path = false ∧ isOverlong entry = false ∧
        files.locate false path = .ok (.vacant directory name) ∧
        perform files (create path entry shown other?) =
          (.ok (), files.put (directory ++ [name]) entry) := by
  unfold create
  rw [perform_get_bind]
  by_cases null : hasNull path = true
  · exact .inl ⟨_, .null null, by rw [if_pos null]; rfl⟩
  · rw [if_neg null]
    by_cases long : isOverlong entry = true
    · exact .inl ⟨_, .refused .nameTooLong shown other?, by rw [if_pos long]; rfl⟩
    · rw [if_neg long]
      cases located : files.locate false path with
      | error refusal => exact .inl ⟨_, .refused refusal shown other?, rfl⟩
      | ok place =>
          cases place with
          | found location stands => exact .inl ⟨_, .refused .exists shown other?, rfl⟩
          | vacant directory name =>
              exact .inr ⟨directory, name, by simpa using null, by simpa using long, rfl, rfl⟩

/-- The file or link of a path is taken away. -/
theorem remove_cases (path : Path) :
    (∃ fault, fault.Plain (hasNull path = true) ∧
        perform files (remove path) = (.error fault, files)) ∨
      ∃ location entry, hasNull path = false ∧ entry ≠ .directory ∧
        files.locate false path = .ok (.found location entry) ∧
        perform files (remove path) = (.ok (), files.erase location) := by
  unfold remove
  rw [perform_get_bind]
  cases placed : files.place false path with
  | error fault => exact .inl ⟨fault, place_plain placed, rfl⟩
  | ok place =>
      obtain ⟨null, located⟩ := place_eq_ok.mp placed
      cases place with
      | vacant directory name => exact .inl ⟨_, .refused .noEntry path.text none, rfl⟩
      | found location entry =>
          cases entry with
          | directory => exact .inl ⟨_, .refused .isDirectory path.text none, rfl⟩
          | file content => exact .inr ⟨location, _, null, by simp, located, rfl⟩
          | link target => exact .inr ⟨location, _, null, by simp, located, rfl⟩

/-- A file is written where its path leads, through a link that stands there. -/
theorem write_cases (path : Path) (content : Bytes) :
    (∃ fault, fault.Plain (hasNull path = true) ∧
        perform files (write path content) = (.error fault, files)) ∨
      ∃ place : Place, hasNull path = false ∧ place.Replaceable ∧
        files.locate true path = .ok place ∧
        perform files (write path content) = (.ok (), files.put place.spot (.file content)) := by
  unfold write
  rw [perform_get_bind]
  cases placed : files.place true path with
  | error fault => exact .inl ⟨fault, place_plain placed, rfl⟩
  | ok place =>
      obtain ⟨null, located⟩ := place_eq_ok.mp placed
      cases place with
      | vacant directory name => exact .inr ⟨.vacant directory name, null, trivial, located, rfl⟩
      | found location entry =>
          cases entry with
          | directory => exact .inl ⟨_, .refused .isDirectory path.text none, rfl⟩
          | file content => exact .inr ⟨_, null, by simp [Place.Replaceable], located, rfl⟩
          | link target => exact .inr ⟨_, null, by simp [Place.Replaceable], located, rfl⟩

/-- The file or link of a path is put in the place of another path. -/
theorem rename_cases (path other : Path) :
    (∃ fault, fault.Plain (hasNull path = true ∨ hasNull other = true) ∧
        perform files (rename path other) = (.error fault, files)) ∨
      ∃ location entry, ∃ goal : Place, entry ≠ .directory ∧ goal.Replaceable ∧
        files.locate false path = .ok (.found location entry) ∧
        files.locate false other = .ok goal ∧
        perform files (rename path other) =
          (.ok (), (files.erase location).put goal.spot entry) := by
  unfold rename
  rw [perform_get_bind]
  dsimp only
  have refused : ∀ refusal, FileFault.Plain (hasNull path = true ∨ hasNull other = true)
      (.refused refusal path.text (some other.text)) := fun refusal => .refused _ _ _
  by_cases null : (hasNull path || hasNull other) = true
  · exact .inl ⟨_, .null (by simpa using null), by rw [if_pos null]; rfl⟩
  · rw [if_neg null]
    by_cases unnamed : (!(endsInName path && endsInName other)) = true
    · exact .inl ⟨_, refused .busy, by rw [if_pos unnamed]; rfl⟩
    · rw [if_neg unnamed]
      cases files.locate false path with
      | error refusal => exact .inl ⟨_, refused refusal, rfl⟩
      | ok place =>
          cases files.locate false other with
          | error refusal => exact .inl ⟨_, refused refusal, rfl⟩
          | ok goal =>
              cases place with
              | vacant directory name => exact .inl ⟨_, refused .noEntry, rfl⟩
              | found location entry =>
                  cases entry with
                  | directory => exact .inl ⟨_, refused .isDirectory, rfl⟩
                  | file content | link target =>
                      cases goal with
                      | vacant directory name =>
                          exact .inr ⟨location, _, .vacant directory name, by simp, trivial, rfl,
                            rfl, rfl⟩
                      | found there stands =>
                          cases stands with
                          | directory => exact .inl ⟨_, refused .isDirectory, rfl⟩
                          | file content | link target =>
                              exact .inr ⟨location, _, _, by simp, by simp [Place.Replaceable],
                                rfl, rfl, rfl⟩

end Files

end Tailor
