import Tailor.Proofs.Files.Outcome
import Tailor.Proofs.Files.Way

/-! # The spots of paths

A path but for its last name leads along a way to a directory; the last name gives a
spot there (`Tailor.Files.Sits`). The file system gets to the spot if it gets past
everything on the way and all limits hold (`Tailor.Files.Reaches`), and what is looked
up, written, renamed or made at a path is at the spot that the path reaches
(`Tailor.Files.reaches_of_locate`).
-/

namespace Tailor

/-- What stands at a place, if anything does. -/
def Place.entry? : Place → Option Entry
  | .found _ entry => some entry
  | .vacant _ _ => none

namespace Files

/-- A path leads along a way to a directory and to a spot in it. -/
inductive Sits (files : Files) (path : Path) : List Location → Location → Prop where
  | at {way : List Location} {directory : Location} {name : Text}
      (leads : files.Leads (files.base path) path.names.dropLast way directory)
      (named : path.name? = some name) : Sits files path way (directory ++ [name])

variable {files : Files} {path : Path} {way : List Location} {spot : Location}

/-- A path has one spot only. -/
theorem Sits.unique {otherWay : List Location} {other : Location}
    (sits : files.Sits path way spot) (otherSits : files.Sits path otherWay other) :
    way = otherWay ∧ spot = other := by
  obtain ⟨leads, named⟩ := sits
  obtain ⟨otherLeads, otherNamed⟩ := otherSits
  obtain ⟨rfl, rfl⟩ := leads.deterministic otherLeads
  rw [named] at otherNamed
  cases otherNamed
  exact ⟨rfl, rfl⟩

/-- A path of one name sits in the directory where it starts. -/
theorem Sits.of_single {name : Text} (single : path.names = [name])
    (sits : files.Sits path way spot) : way = [] ∧ spot = files.base path ++ [name] := by
  have straight : files.Sits path [] (files.base path ++ [name]) := by
    refine .at ?_ (by rw [Path.name?, single]; rfl)
    rw [single]
    exact .here _
  exact sits.unique straight

/-- Where no link stands at the spot of a path, all of its names lead there. -/
theorem Sits.leads (sits : files.Sits path way spot)
    (proper : ∀ name, path.name? = some name → IsName name) (plain : files.linkAt? spot = none) :
    files.Leads (files.base path) path.names (way ++ [spot]) spot := by
  cases sits with
  | @«at» directory name leads named =>
      have whole : path.names.dropLast ++ [name] = path.names :=
        List.dropLast_append_getLast? name named
      rw [← whole]
      exact leads.append (.into (proper name named) plain (.here _))

/-- No file stands on a way. -/
def Clear (files : Files) (way : List Location) : Prop :=
  ∀ location ∈ way, ∀ content, files.get? location ≠ some (.file content)

theorem clear_of_passable (passable : ∀ location ∈ way, files.Passable location) :
    files.Clear way := by
  intro location passed content stands
  rcases (passable location passed).stands with directory | ⟨target, _, link⟩
  · rw [stands] at directory
    cases directory
  · rw [stands] at link
    cases link

/-- The file system gets along the way of a path to its spot. -/
structure Reaches (files : Files) (path : Path) (way : List Location) (spot : Location) :
    Prop where
  sits : files.Sits path way spot
  passable : ∀ location ∈ way, files.Passable location
  few : files.linksOn way ≤ linkLimit
  text : sizeInBytes path.text ≤ pathLimit
  proper : ∀ name, path.name? = some name → IsName name ∧ sizeInBytes name ≤ nameLimit

/-- What the last step of a walk finds, unless it is a link that is followed. -/
theorem walk_last {follow : Bool} {links : Nat} {directory : Location} {name : Text}
    {place : Place} (walked : files.walk follow links directory [name] = .ok place)
    (replaceable : place.Replaceable)
    (plain : follow = true → files.linkAt? (directory ++ [name]) = none) :
    (IsName name ∧ sizeInBytes name ≤ nameLimit) ∧ place.spot = directory ++ [name] ∧
      files.get? (directory ++ [name]) = place.entry? := by
  have isDirectory : ∀ location, files.walk follow links location [] = .ok place → False := by
    intro location ended
    rw [walk] at ended
    cases ended
    exact replaceable rfl
  rw [walk] at walked
  by_cases dot : name = ['.']
  · rw [if_pos dot] at walked
    exact (isDirectory _ walked).elim
  · rw [if_neg dot] at walked
    by_cases up : name = ['.', '.']
    · rw [if_pos up] at walked
      exact (isDirectory _ walked).elim
    · rw [if_neg up] at walked
      by_cases long : nameLimit < sizeInBytes name
      · rw [if_pos long] at walked
        cases walked
      · rw [if_neg long] at walked
        refine ⟨⟨⟨dot, up⟩, Nat.le_of_not_lt long⟩, ?_⟩
        cases stands : files.get? (directory ++ [name]) with
        | none =>
            simp only [stands, List.isEmpty_nil, if_true] at walked
            cases walked
            exact ⟨rfl, rfl⟩
        | some entry =>
            cases entry with
            | file content =>
                simp only [stands, List.isEmpty_nil, if_true] at walked
                cases walked
                exact ⟨rfl, rfl⟩
            | directory =>
                simp only [stands] at walked
                exact (isDirectory _ walked).elim
            | link target =>
                have unfollowed : follow = false := by
                  by_contra followed
                  have none_ := plain (by simpa using followed)
                  rw [linkAt?_eq_some.mpr stands] at none_
                  cases none_
                subst unfollowed
                simp only [stands, List.isEmpty_nil, Bool.not_false, Bool.and_self, if_true]
                  at walked
                cases walked
                exact ⟨rfl, rfl⟩

/-- To the directory of a path that is reached the file system goes first. -/
theorem locate_eq_walk {directory : Location} {name : Text}
    (leads : files.Leads (files.base path) path.names.dropLast way directory)
    (named : path.name? = some name) (passable : ∀ location ∈ way, files.Passable location)
    (few : files.linksOn way ≤ linkLimit) (text : sizeInBytes path.text ≤ pathLimit)
    (follow : Bool) :
    files.locate follow path =
      files.walk follow (linkLimit - files.linksOn way) directory [name] := by
  have whole : path.names.dropLast ++ [name] = path.names :=
    List.dropLast_append_getLast? name named
  unfold locate
  rw [if_neg (Nat.not_lt.mpr text), ← whole]
  exact walk_of_leads leads passable (by simp) few

/-- What is located is at a spot that the path reaches, unless a link that stands there
is followed. -/
theorem reaches_of_locate {follow : Bool} {place : Place}
    (located : files.locate follow path = .ok place) (replaceable : place.Replaceable)
    (plain : follow = true → ∀ way spot, files.Sits path way spot → files.Clear way →
      files.linkAt? spot = none) :
    ∃ way, files.Reaches path way place.spot ∧ files.get? place.spot = place.entry? := by
  cases named : path.name? with
  | none =>
      have nameless : path.names = [] := List.getLast?_eq_none_iff.mp named
      unfold locate at located
      split at located
      · cases located
      · rw [nameless, walk] at located
        cases located
        exact absurd rfl replaceable
  | some name =>
      have whole : path.names.dropLast ++ [name] = path.names :=
        List.dropLast_append_getLast? name named
      have text : sizeInBytes path.text ≤ pathLimit := by
        by_contra long
        rw [locate, if_pos (Nat.lt_of_not_le long)] at located
        cases located
      have walked : files.walk follow linkLimit (files.base path)
          (path.names.dropLast ++ [name]) = .ok place := by
        rw [whole]
        rwa [locate, if_neg (Nat.not_lt.mpr text)] at located
      obtain ⟨way, directory, leads, passable, few⟩ := exists_leads_of_walk (by simp) walked
      have sits : files.Sits path way (directory ++ [name]) := .at leads named
      rw [locate_eq_walk leads named passable few text] at located
      obtain ⟨proper, at_, stands⟩ :=
        walk_last located replaceable fun followed =>
          plain followed way _ sits (clear_of_passable passable)
      rw [at_]
      refine ⟨way, ⟨sits, passable, few, text, ?_⟩, stands⟩
      intro other same
      rw [named] at same
      cases same
      exact proper

/-- A new entry is put at the spot that its path reaches, where nothing stands. -/
theorem create_reaches (files : Files) (path : Path) (entry : Entry) (shown : Text)
    (other? : Option Text) :
    (∃ fault, fault.Plain (hasNull path = true) ∧
        perform files (create path entry shown other?) = (.error fault, files)) ∨
      ∃ way spot, files.Reaches path way spot ∧ hasNull path = false ∧
        files.get? spot = none ∧
        perform files (create path entry shown other?) = (.ok (), files.put spot entry) := by
  rcases create_cases files path entry shown other? with
    ⟨fault, plain, done⟩ | ⟨directory, name, whole, _, located, done⟩
  · exact .inl ⟨fault, plain, done⟩
  · obtain ⟨way, reaches, vacant⟩ := reaches_of_locate located trivial (by simp)
    exact .inr ⟨way, _, reaches, whole, vacant, done⟩

theorem Reaches.clear (reaches : files.Reaches path way spot) : files.Clear way :=
  clear_of_passable reaches.passable

/-- Where nothing stands no way passes. -/
theorem Reaches.not_mem_of_vacant {location : Location} (reaches : files.Reaches path way spot)
    (vacant : files.get? location = none) : location ∉ way := by
  intro passed
  rcases (reaches.passable location passed).stands with directory | ⟨_, _, link⟩
  · rw [vacant] at directory
    cases directory
  · rw [vacant] at link
    cases link

/-- A link is found at the spot that its path reaches. -/
theorem Reaches.locate_link {target : Text} (reaches : files.Reaches path way spot)
    (stands : files.get? spot = some (.link target)) :
    files.locate false path = .ok (.found spot (.link target)) := by
  obtain ⟨⟨leads, named⟩, passable, few, text, proper⟩ := reaches
  obtain ⟨isName, short⟩ := proper _ named
  rw [locate_eq_walk leads named passable few text, walk, if_neg isName.1, if_neg isName.2,
    if_neg (Nat.not_lt.mpr short), stands]
  rfl

/-- A file is found at the spot that its path reaches, whether links are followed or not. -/
theorem Reaches.locate_file {content : Bytes} (reaches : files.Reaches path way spot)
    (stands : files.get? spot = some (.file content)) (follow : Bool) :
    files.locate follow path = .ok (.found spot (.file content)) := by
  obtain ⟨⟨leads, named⟩, passable, few, text, proper⟩ := reaches
  obtain ⟨isName, short⟩ := proper _ named
  rw [locate_eq_walk leads named passable few text, walk, if_neg isName.1, if_neg isName.2,
    if_neg (Nat.not_lt.mpr short), stands]
  rfl

/-- Through a link the file system goes on where the link leads, as long as not too many
links lead to it. -/
theorem Reaches.locate_through {target : Text} (reaches : files.Reaches path way spot)
    (stands : files.get? spot = some (.link target)) (absolute : target.head? = some '/')
    (room : files.linksOn way < linkLimit) :
    ∃ links, files.locate true path = files.walk true links [] (trail target) := by
  obtain ⟨⟨leads, named⟩, passable, few, text, proper⟩ := reaches
  obtain ⟨isName, short⟩ := proper _ named
  obtain ⟨fewer, left⟩ : ∃ fewer, linkLimit - files.linksOn way = fewer + 1 :=
    ⟨linkLimit - files.linksOn way - 1, by omega⟩
  have full : target.isEmpty = false := by
    cases target with
    | nil => cases absolute
    | cons => rfl
  refine ⟨fewer, ?_⟩
  rw [locate_eq_walk leads named passable few text, walk, if_neg isName.1, if_neg isName.2,
    if_neg (Nat.not_lt.mpr short), stands, left]
  simp only [Bool.not_true, Bool.and_false, Bool.false_eq_true, if_false, full, startOf, absolute,
    if_true, List.append_nil]

end Files

end Tailor
