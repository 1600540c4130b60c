import Tailor.Proofs.Files.Ground
import Tailor.Proofs.Files.Reach

/-! # What actions on files leave alone

An action works at some locations and leaves all others as they are, but for
directories that it makes where nothing stood; and it takes no directory away
(`Tailor.Files.Within`). Ways along which the links are the same lead where they led
(`Tailor.Files.Leads.congr`).
-/

namespace Tailor.Files

/-- Between two trees something happens at some spots; elsewhere directories are made
at most. Directories stay. -/
structure Within (spots : List Location) (before after : Files) : Prop where
  here : after.here = before.here
  directories : ∀ location, before.get? location = some .directory →
    after.get? location = some .directory
  apart : ∀ location, location ∉ spots → after.get? location = before.get? location ∨
    before.get? location = none ∧ after.get? location = some .directory

namespace Within

variable {spots further : List Location} {before between after : Files}

theorem refl (spots : List Location) (files : Files) : Within spots files files :=
  ⟨rfl, fun _ stands => stands, fun _ _ => .inl rfl⟩

theorem trans (first : Within spots before between) (second : Within spots between after) :
    Within spots before after where
  here := second.here.trans first.here
  directories location stands := second.directories location (first.directories location stands)
  apart location outside := by
    rcases first.apart location outside with same | ⟨nothing, made⟩
    · rw [← same]
      exact second.apart location outside
    · exact .inr ⟨nothing, second.directories location made⟩

theorem mono (within : Within spots before after) (wider : spots ⊆ further) :
    Within further before after where
  here := within.here
  directories := within.directories
  apart location outside := within.apart location fun inside => outside (wider inside)

/-- What stands outside of the spots stays. -/
theorem stays (within : Within spots before after) {location : Location}
    (outside : location ∉ spots) {entry : Entry} (stands : before.get? location = some entry) :
    after.get? location = some entry := by
  rcases within.apart location outside with same | ⟨nothing, _⟩
  · rw [same, stands]
  · rw [nothing] at stands
    cases stands

/-- Outside of the spots the links are the same. -/
theorem linkAt? (within : Within spots before after) {location : Location}
    (outside : location ∉ spots) : after.linkAt? location = before.linkAt? location := by
  rcases within.apart location outside with same | ⟨nothing, made⟩
  · exact linkAt?_of_get? same
  · rw [linkAt?_of_vacant nothing, linkAt?_of_directory made]

/-- Putting an entry where no directory stands. -/
theorem put {files : Files} {spot : Location} (free : files.get? spot ≠ some .directory)
    (entry : Entry) : Within [spot] files (files.put spot entry) where
  here := rfl
  directories location stands := by
    rw [get?_put, if_neg]
    · exact stands
    · rintro ⟨rfl, _⟩
      exact free stands
  apart location outside := by
    rw [get?_put, if_neg]
    · exact .inl rfl
    · rintro ⟨rfl, _⟩
      exact outside (List.mem_cons_self ..)

/-- Taking away what is no directory. -/
theorem erase {files : Files} {spot : Location} (free : files.get? spot ≠ some .directory) :
    Within [spot] files (files.erase spot) where
  here := rfl
  directories location stands := by
    rw [get?_erase, if_neg]
    · exact stands
    · rintro ⟨rfl, _⟩
      exact free stands
  apart location outside := by
    rw [get?_erase, if_neg]
    · exact .inl rfl
    · rintro ⟨rfl, _⟩
      exact outside (List.mem_cons_self ..)

/-- Making a directory where nothing stands touches no spot. -/
theorem made {files : Files} {location : Location} (free : files.get? location = none) :
    Within [] files (files.put location .directory) where
  here := rfl
  directories other stands := by
    rw [get?_put, if_neg]
    · exact stands
    · rintro ⟨rfl, _⟩
      rw [free] at stands
      cases stands
  apart other _ := by
    rw [get?_put]
    split
    · rename_i same
      rw [same.1]
      exact .inr ⟨free, rfl⟩
    · exact .inl rfl

end Within

section Ways

variable {spots : List Location} {files before after : Files} {place goal : Location}
  {names : List Text} {way : List Location}

/-- Where the links are the same, names lead the same way. -/
theorem Leads.congr (leads : before.Leads place names way goal)
    (same : ∀ location ∈ way, after.linkAt? location = before.linkAt? location) :
    after.Leads place names way goal := by
  induction leads with
  | here => exact .here _
  | dot _ ih => exact .dot (ih same)
  | up _ ih => exact .up (ih same)
  | into named plain _ ih =>
      refine .into named ?_ (ih fun location later => same location (List.mem_cons_of_mem _ later))
      rw [same _ (List.mem_cons_self ..)]
      exact plain
  | along named link _ ih =>
      refine .along named ?_
        (ih fun location later => same location (List.mem_cons_of_mem _ later))
      rw [same _ (List.mem_cons_self ..)]
      exact link

theorem linksOn_congr
    (same : ∀ location ∈ way, after.linkAt? location = before.linkAt? location) :
    after.linksOn way = before.linksOn way := by
  unfold linksOn
  exact List.countP_congr fun location passed => by rw [same location passed]

/-- A path starts at the same location from the same directory. -/
theorem base_eq_of_here (here : after.here = before.here) (path : Path) :
    after.base path = before.base path := by
  unfold Files.base
  rw [here]

theorem Sits.congr {path : Path} {spot : Location} (sits : before.Sits path way spot)
    (here : after.here = before.here)
    (same : ∀ location ∈ way, after.linkAt? location = before.linkAt? location) :
    after.Sits path way spot := by
  obtain ⟨leads, named⟩ := sits
  refine .at ?_ named
  rw [base_eq_of_here here]
  exact leads.congr same

variable (kept : Within spots before after)

include kept

theorem Passable.within {location : Location} (passable : before.Passable location)
    (outside : location ∉ spots) : after.Passable location where
  stands := by
    rcases passable.stands with directory | ⟨target, full, link⟩
    · exact .inl (kept.directories location directory)
    · exact .inr ⟨target, full, kept.stays outside link⟩
  short := passable.short

theorem Grounded.within (grounded : before.Grounded place) : after.Grounded place := by
  induction grounded with
  | root => exact .root
  | into _ part named short stands ih =>
      exact .into ih part named short (kept.directories _ stands)

/-- A path whose way is left alone reaches its spot still. -/
theorem Reaches.within {path : Path} {spot : Location} (reaches : before.Reaches path way spot)
    (outside : ∀ location ∈ way, location ∉ spots) : after.Reaches path way spot where
  sits := reaches.sits.congr kept.here fun location passed =>
    kept.linkAt? (outside location passed)
  passable location passed :=
    (reaches.passable location passed).within kept (outside location passed)
  few := by
    rw [linksOn_congr fun location passed => kept.linkAt? (outside location passed)]
    exact reaches.few
  text := reaches.text
  proper := reaches.proper

end Ways

/-- A path reaches its spot still when an entry is put there, unless it leads through it. -/
theorem Reaches.put {files : Files} {path : Path} {way : List Location} {spot : Location}
    (reaches : files.Reaches path way spot) (free : files.get? spot ≠ some .directory)
    (apart : spot ∉ way) (entry : Entry) : (files.put spot entry).Reaches path way spot := by
  refine reaches.within (.put free entry) fun location passed there => ?_
  rw [List.mem_singleton.mp there] at passed
  exact apart passed

/-- A way on which there are no files now had none before directories were made. -/
theorem Clear.of_within {before after : Files} {way : List Location}
    (kept : Within [] before after) (clear : after.Clear way) : before.Clear way :=
  fun location passed content stands =>
    clear location passed content (kept.stays List.not_mem_nil stands)

end Tailor.Files
