import Tailor.Proofs.Files.Effect

/-! # Directories on the way to a path

The directories above a path are made where nothing stood, and only where a beginning of
the path leads (`Tailor.Files.Paved`). That holds however far the making gets
(`Tailor.Files.ensureParents_paves`), and the directories are on the way still when an entry
is put at the spot that the path reaches then (`Tailor.Files.Paved.put`).
-/

namespace Tailor

/-- One path is a beginning of another one, short of its last name. -/
structure Path.Above (upper path : Path) : Prop where
  anchor : upper.anchor = path.anchor
  names : upper.names <+: path.names.dropLast

theorem Path.above_parent (path : Path) : path.parent.Above path := ⟨rfl, List.prefix_rfl⟩

theorem Path.Above.parent {upper path : Path} (above : upper.Above path) :
    upper.parent.Above path :=
  ⟨above.anchor, (List.dropLast_prefix upper.names).trans above.names⟩

/-- A path starts where a path above it does. -/
theorem Path.Above.base_eq {upper path : Path} (above : upper.Above path) (files : Files) :
    files.base upper = files.base path := by
  unfold Files.base Path.isAbsolute
  rw [above.anchor]

namespace Files

/-- A beginning of a path, short of its last name, leads to the location. -/
def OnWay (files : Files) (path : Path) (location : Location) : Prop :=
  ∃ names way, names <+: path.names.dropLast ∧
    files.Leads (files.base path) names way location

namespace OnWay

variable {path : Path} {location : Location} {before after : Files}

/-- Where no link changes, a location on the way stays there. -/
theorem congr (onWay : before.OnWay path location) (here : after.here = before.here)
    (same : ∀ location, after.linkAt? location = before.linkAt? location) :
    after.OnWay path location := by
  obtain ⟨names, way, begun, leads⟩ := onWay
  refine ⟨names, way, begun, ?_⟩
  rw [base_eq_of_here here]
  exact leads.congr fun location _ => same location

/-- What happens apart from the way of a path leaves the locations on it there. -/
theorem within {way : List Location} {spot : Location} {spots : List Location}
    (onWay : before.OnWay path location) (sits : before.Sits path way spot)
    (kept : Within spots before after) (outside : ∀ location ∈ way, location ∉ spots) :
    after.OnWay path location := by
  obtain ⟨names, begun, ⟨rest, whole⟩, leads⟩ := onWay
  refine ⟨names, begun, ⟨rest, whole⟩, ?_⟩
  rw [base_eq_of_here kept.here]
  obtain ⟨all, _⟩ := sits
  rw [← whole] at all
  obtain ⟨_, first, second, same, _, rfl⟩ := all.split
  obtain ⟨rfl, rfl⟩ := leads.deterministic same
  exact leads.congr fun location passed =>
    kept.linkAt? (outside location (List.mem_append_left _ passed))

end OnWay

/-- Between two trees something happens at some spots; elsewhere directories are made at
most, on the way to a path. -/
structure Paved (path : Path) (spots : List Location) (before after : Files) : Prop
    extends Within spots before after where
  onWay : ∀ location ∉ spots, before.get? location = none → after.get? location ≠ none →
    after.OnWay path location

namespace Paved

variable {path upper : Path} {spots : List Location} {before between after files : Files}

theorem refl (path : Path) (files : Files) : Paved path [] files files :=
  ⟨.refl [] files, fun _ _ nothing stands => absurd nothing stands⟩

theorem trans (first : Paved path [] before between) (second : Paved path [] between after) :
    Paved path [] before after where
  toWithin := first.toWithin.trans second.toWithin
  onWay location outside nothing stands := by
    by_cases made : between.get? location = none
    · exact second.onWay location outside made stands
    · exact (first.onWay location outside nothing made).congr second.here
        fun _ => second.linkAt? List.not_mem_nil

/-- A directory is made where a path above leads. -/
theorem made {way : List Location} {spot : Location} (above : upper.Above path)
    (reaches : files.Reaches upper way spot) (vacant : files.get? spot = none) :
    Paved path [] files (files.put spot .directory) where
  toWithin := .made vacant
  onWay location _ nothing stands := by
    rw [get?_put] at stands
    split at stands
    · rename_i there
      obtain ⟨rfl, _⟩ := there
      have leads := reaches.sits.leads (fun name named => (reaches.proper name named).1)
        (linkAt?_of_vacant vacant)
      rw [above.base_eq] at leads
      have onWay : files.OnWay path location := ⟨upper.names, _, above.names, leads⟩
      exact onWay.congr rfl fun _ => (Within.made vacant).linkAt? List.not_mem_nil
    · exact absurd nothing stands

/-- An entry is put at the spot that the path reaches, unless the path leads through it. -/
theorem put {way : List Location} {spot : Location} (paved : Paved path [] before between)
    (reaches : between.Reaches path way spot) (free : between.get? spot ≠ some .directory)
    (apart : spot ∉ way) (entry : Entry) :
    Paved path [spot] before (between.put spot entry) where
  toWithin := (paved.toWithin.mono (List.nil_subset _)).trans (.put free entry)
  onWay location outside nothing stands := by
    have elsewhere : location ≠ spot := fun same => outside (List.mem_singleton.mpr same)
    rw [get?_put, if_neg fun there => elsewhere there.1] at stands
    refine (paved.onWay location List.not_mem_nil nothing stands).within reaches.sits
      (.put free entry) ?_
    intro passed onWay there
    rw [List.mem_singleton.mp there] at onWay
    exact apart onWay

/-- What stands outside of the spots is not new, unless it is a directory on the way. -/
theorem old_or_onWay (paved : Paved path spots before after) {location : Location}
    (outside : location ∉ spots) {entry : Entry} (stands : after.get? location = some entry) :
    before.get? location = some entry ∨ entry = .directory ∧ after.OnWay path location := by
  rcases paved.apart location outside with same | ⟨nothing, made⟩
  · rw [← same, stands]
    exact .inl rfl
  · rw [made] at stands
    cases stands
    exact .inr ⟨rfl, paved.onWay location outside nothing (by simp [made])⟩

end Paved

/-- However the action ends, it makes directories on the way to a path at most. -/
def Paves (path : Path) {α : Type} (action : FileAct α) : Prop :=
  ∀ start, Ensures (Paved path [] start) action (fun _ => Paved path [] start)
    fun _ => Paved path [] start

theorem ensures_ofTree {α : Type} {required : Files → Prop}
    {question : Files → Except FileFault α} :
    Ensures required (ofTree question)
      (fun value files => required files ∧ question files = .ok value)
      fun fault files => required files ∧ question files = .error fault := by
  intro files holds
  have asked : (ofTree question).run.run files = (question files, files) :=
    perform_ofTree files question
  rw [asked]
  cases answer : question files with
  | ok value => exact ⟨holds, answer⟩
  | error fault => exact ⟨holds, answer⟩

section Paves

variable {α : Type} {path upper : Path}

theorem Paves.of_eq {action : FileAct α} (paves : Paves path action) {files after : Files}
    {outcome : Except FileFault α} (done : perform files action = (outcome, after)) :
    Paved path [] files after := by
  have paved := paves files files (.refl path files)
  unfold perform at done
  rw [done] at paved
  cases outcome <;> exact paved

theorem makeDirectory_paves (above : upper.Above path) : Paves path (makeDirectory upper) := by
  intro start files paved
  have done := create_reaches files upper .directory upper.text none
  unfold perform at done
  unfold makeDirectory
  rcases done with ⟨fault, _, done⟩ | ⟨way, spot, reaches, _, vacant, done⟩
  · rw [done]
    exact paved
  · rw [done]
    exact paved.trans (.made above reaches vacant)

theorem ensureDirectory_paves (above : upper.Above path) : Paves path (ensureDirectory upper) := by
  intro start
  refine (makeDirectory_paves above start).tryCatch fun fault => ?_
  split
  · exact ensures_throw fun _ paved => paved
  · have looked : Ensures (Paved path [] start) (ofTree (·.isDirectory upper))
        (fun _ => Paved path [] start) fun _ => Paved path [] start :=
      ensures_ofTree.mono (fun _ paved => paved) (fun _ _ held => held.1) fun _ _ held => held.1
    refine looked.bind fun there => ?_
    split
    · exact ensures_pure fun _ paved => paved
    · exact ensures_throw fun _ paved => paved
  · exact ensures_throw fun _ paved => paved

theorem ensureDirectories_paves (depth : Nat) (above : upper.Above path) :
    Paves path (ensureDirectories depth upper) := by
  induction depth generalizing upper with
  | zero => exact ensureDirectory_paves above
  | succ depth ih =>
      intro start
      refine (ensureDirectory_paves above start).tryCatch fun fault => ?_
      split
      · exact (ih above.parent start).bind fun _ => ensureDirectory_paves above start
      · exact ensures_throw fun _ paved => paved

/-- However far it gets, making the directories above a path makes missing ones on the way
to it. -/
theorem ensureParents_paves (path : Path) : Paves path (ensureParents path) :=
  ensureDirectories_paves _ path.above_parent

end Paves

end Files

end Tailor
