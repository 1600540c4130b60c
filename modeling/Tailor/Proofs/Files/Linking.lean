import Mathlib
import Tailor.Proofs.Files.Landing
import Tailor.Proofs.Files.Paving

/-! # What linking spares

Linking a target takes away a link that stands at the target, makes directories on the way
to it and the link, and leaves everything else as it was, however far it gets
(`Tailor.Files.link_spares`). Where the link is made may be another spot than where one was
taken away, if the target leads through it.
-/

namespace Tailor.Files

variable {files after : Files} {output target source : Path} {location : Location}
  {entry : Entry}

/-! ## Targets that stand -/

theorem isLink_of_standing (placed : files.place false target = .ok (.found location entry))
    (noLink : ∀ held, entry ≠ .link held) : files.isLink target = .ok false := by
  unfold isLink entryAt
  rw [placed]
  cases entry with
  | link held => exact absurd rfl (noLink held)
  | file content => rfl
  | directory => rfl

theorem isThere_of_standing (placed : files.place false target = .ok (.found location entry))
    (noLink : ∀ held, entry ≠ .link held) : files.isThere target = .ok true := by
  have followed := place_found_mono rfl (fun _ _ stands => stands) (.inr ⟨rfl, noLink⟩) placed
  exact isThere_eq_true.mpr ⟨location, entry, followed⟩

/-- A target that stands and is no link refuses the link. -/
theorem link_of_standing (output : Path)
    (placed : files.place false target = .ok (.found location entry))
    (noLink : ∀ held, entry ≠ .link held) :
    (perform files (link output target)).1 = .error (.targetExists target.text) ∨
      ∃ fault, files.resolve output = .error fault ∧
        (perform files (link output target)).1 = .error fault := by
  unfold link clearTarget
  simp only [perform_bind, perform_ofTree]
  cases resolved : files.resolve output with
  | error fault => exact .inr ⟨fault, rfl, rfl⟩
  | ok source =>
      left
      simp only [isLink_of_standing placed noLink, Bool.false_eq_true, if_false, perform_bind,
        perform_ofTree, isThere_of_standing placed noLink, if_true, perform_throw]

/-! ## Linking -/

namespace Freed

variable {emptied : Files} (freed : files.Freed target emptied)

include freed

theorem here : emptied.here = files.here := by
  cases freed <;> rfl

/-- What stood stands still, unless it was a link at the target. -/
theorem kept (stands : files.get? location = some entry) :
    emptied.get? location = some entry ∨
      (∃ held, entry = .link held) ∧ files.place false target = .ok (.found location entry) := by
  cases freed with
  | untouched => exact .inl stands
  | @unlinked spot held placed =>
      rw [get?_erase]
      split
      · rename_i there
        obtain ⟨rfl, _⟩ := there
        obtain ⟨_, _, link⟩ := reaches_of_placed_link placed
        rw [link] at stands
        cases stands
        exact .inr ⟨⟨held, rfl⟩, placed⟩
      · exact .inl stands

/-- Nothing is new. -/
theorem old (stands : emptied.get? location = some entry) : files.get? location = some entry := by
  cases freed with
  | untouched => exact stands
  | unlinked =>
      rw [get?_erase] at stands
      split at stands
      · cases stands
      · exact stands

end Freed

/-- Linking fails and leaves the tree as it was; or the target is freed and directories are
made on the way to it, and then it fails otherwise than by a target that stands, or puts the
link where nothing stands. -/
theorem link_cases (files : Files) (output target : Path) :
    (∃ fault, perform files (link output target) = (.error fault, files)) ∨
      ∃ source emptied between, files.resolve output = .ok source ∧
        files.Freed target emptied ∧ Paved target [] emptied between ∧
        ((∃ fault, fault.Plain (hasNull target = true) ∧
            perform files (link output target) = (.error fault, between)) ∨
          ∃ way spot, between.Reaches target way spot ∧ hasNull target = false ∧
            between.get? spot = none ∧
            perform files (link output target) =
              (.ok target, between.put spot (.link source.text))) := by
  unfold link
  rw [perform_bind]
  rcases clearTarget_cases files output target with
    ⟨fault, done⟩ | ⟨source, emptied, resolved, freed, done⟩
  · refine .inl ⟨fault, ?_⟩
    rw [done]
  · rw [done, perform_bind]
    cases prepared : perform emptied (ensureParents target) with
    | mk prepares between =>
        refine .inr ⟨source, emptied, between, resolved, freed,
          (ensureParents_paves target).of_eq prepared, ?_⟩
        cases prepares with
        | error fault => exact .inl ⟨fault, (ensureParents_faults target).of_eq prepared, rfl⟩
        | ok =>
            unfold makeLink
            have put := create_reaches between target (.link source.text) source.text
              (some target.text)
            rcases put with ⟨fault, plain, done⟩ | ⟨way, spot, reaches, whole, vacant, done⟩
            · refine .inl ⟨fault, plain, ?_⟩
              simp only [perform_pure, perform_bind, done]
            · refine .inr ⟨way, spot, reaches, whole, vacant, ?_⟩
              simp only [perform_pure, perform_bind, done]

/-- A link that is put where nothing stands is found at the path that reaches the spot. -/
theorem place_of_linked {way : List Location} {spot : Location}
    (reaches : files.Reaches target way spot) (whole : hasNull target = false)
    (vacant : files.get? spot = none) (held : Text) :
    (files.put spot (.link held)).place false target = .ok (.found spot (.link held)) := by
  have reached := reaches.put (by simp [vacant]) (reaches.not_mem_of_vacant vacant) (.link held)
  refine place_eq_ok.mpr ⟨whole, reached.locate_link ?_⟩
  rw [get?_put, if_pos ⟨rfl, reaches.sits.ne_nil⟩]

/-- Between two trees a target was linked, or it was tried. -/
structure Spares (before after : Files) (target : Path) (outcome : Except FileFault Path) :
    Prop where
  here : after.here = before.here
  /-- What stood before stands still, unless it was a link at the target. -/
  kept : ∀ location entry, before.get? location = some entry →
    after.get? location = some entry ∨
      (∃ held, entry = .link held) ∧ before.place false target = .ok (.found location entry)
  /-- What is new is a directory on the way to the target, or the link at the target. -/
  new : ∀ location entry, after.get? location = some entry →
    before.get? location = some entry ∨ entry = .directory ∧ after.OnWay target location ∨
      outcome = .ok target ∧ (∃ held, entry = .link held) ∧
        after.place false target = .ok (.found location entry)

namespace Freed

variable {emptied between : Files} (freed : files.Freed target emptied)

include freed

theorem spares_of_failure (paved : Paved target [] emptied after) (fault : FileFault) :
    Spares files after target (.error fault) where
  here := paved.here.trans freed.here
  kept _ _ stands := (freed.kept stands).imp_left (paved.stays List.not_mem_nil)
  new _ _ stands := (paved.old_or_onWay List.not_mem_nil stands).imp freed.old .inl

theorem spares_of_link {way : List Location} {spot : Location}
    (paved : Paved target [] emptied between) (reaches : between.Reaches target way spot)
    (whole : hasNull target = false) (vacant : between.get? spot = none) (held : Text) :
    Spares files (between.put spot (.link held)) target (.ok target) := by
  have full : Paved target [spot] emptied (between.put spot (.link held)) :=
    paved.put reaches (by simp [vacant]) (reaches.not_mem_of_vacant vacant) _
  refine ⟨full.here.trans freed.here, ?kept, ?new⟩
  case kept =>
    intro location entry stands
    refine (freed.kept stands).imp_left fun remains => full.stays ?_ remains
    -- the spot was free already, so what stands still is elsewhere
    intro there
    rw [List.mem_singleton.mp there] at remains
    rw [paved.stays List.not_mem_nil remains] at vacant
    cases vacant
  case new =>
    intro location entry stands
    by_cases there : location = spot
    · rw [there, get?_put, if_pos ⟨rfl, reaches.sits.ne_nil⟩] at stands
      cases stands
      have placed := place_of_linked reaches whole vacant held
      exact .inr (.inr ⟨rfl, ⟨held, rfl⟩, there ▸ placed⟩)
    · refine (full.old_or_onWay ?_ stands).imp freed.old .inl
      rwa [List.mem_singleton]

end Freed

/-- **Linking destroys nothing.** However it ends, linking a target takes away a link at the
target at most, and adds directories on the way to it and the link at most. A success leaves
a link that holds where the output was resolved before; a target that stands and is no link
makes it fail, and a failure because of that leaves the tree as it was. -/
theorem link_spares {outcome : Except FileFault Path}
    (done : perform files (link output target) = (outcome, after)) :
    Spares files after target outcome ∧
      (∀ value, outcome = .ok value → value = target ∧ ∃ source location,
        files.resolve output = .ok source ∧ source.isAbsolute = true ∧
          after.place false target = .ok (.found location (.link source.text))) ∧
      (∀ location entry, files.place false target = .ok (.found location entry) →
        (∀ held, entry ≠ .link held) →
          outcome = .error (.targetExists target.text) ∨
            ∃ fault, files.resolve output = .error fault ∧ outcome = .error fault) ∧
      ∀ shown, outcome = .error (.targetExists shown) → after = files := by
  have refused : ∀ location entry, files.place false target = .ok (.found location entry) →
      (∀ held, entry ≠ .link held) →
        outcome = .error (.targetExists target.text) ∨
          ∃ fault, files.resolve output = .error fault ∧ outcome = .error fault := by
    intro location entry placed noLink
    have ended := link_of_standing output placed noLink
    rwa [done] at ended
  rcases link_cases files output target with
    ⟨fault, ended⟩ | ⟨source, emptied, between, resolved, freed, paved, ended⟩
  · cases done.symm.trans ended
    have spared := Freed.untouched.spares_of_failure (.refl target files) fault
    refine ⟨spared, ?_, refused, fun _ _ => rfl⟩
    intro _ succeeded
    cases succeeded
  · rcases ended with ⟨fault, plain, ended⟩ | ⟨way, spot, reaches, whole, vacant, ended⟩
    · cases done.symm.trans ended
      have notStanding : ∀ shown, fault ≠ .targetExists shown := by
        intro shown standing
        cases plain <;> cases standing
      refine ⟨freed.spares_of_failure paved fault, ?_, refused, fun shown standing =>
        absurd (Except.error.inj standing) (notStanding shown)⟩
      intro _ succeeded
      cases succeeded
    · cases done.symm.trans ended
      have absolute : source.isAbsolute = true := by
        rw [resolve_eq_ok resolved]
        rfl
      have placed := place_of_linked reaches whole vacant source.text
      refine ⟨freed.spares_of_link paved reaches whole vacant _, ?_, refused, ?_⟩
      · intro value succeeded
        cases succeeded
        exact ⟨rfl, source, spot, resolved, absolute, placed⟩
      · intro _ standing
        cases standing

/-- A note, and a link to the directory in which it stands. -/
def mirror : Files where
  entries := [(["home".toList], .link ".".toList),
    (["note".toList], .file (Utf8.encode "draft".toList))]
  here := []

/-- The link to the note behind a directory that was made where the other link stood. -/
def mirrorLinked : Files where
  entries := [(["note".toList], .file (Utf8.encode "draft".toList)),
    (["home".toList], .directory), (["home".toList, "home".toList], .link "/note".toList)]
  here := []

/-- The first target leads through the very link that stands at it; the second one is the note,
which refuses the link. -/
theorem mirror_spared :
    (perform mirror (link (.ofText "note".toList) (.ofText "home/home".toList)) =
        (.ok (.ofText "home/home".toList), mirrorLinked) ∧
      Spares mirror mirrorLinked (.ofText "home/home".toList)
        (.ok (.ofText "home/home".toList)) ∧
      ∃ source location, mirror.resolve (.ofText "note".toList) = .ok source ∧
        source.isAbsolute = true ∧ mirrorLinked.place false (.ofText "home/home".toList) =
          .ok (.found location (.link source.text))) ∧
    ∃ outcome after, perform mirror (link (.ofText "home".toList) (.ofText "note".toList)) =
        (outcome, after) ∧
      Spares mirror after (.ofText "note".toList) outcome ∧
      (outcome = .error (.targetExists "note".toList) ∨
        ∃ fault, mirror.resolve (.ofText "home".toList) = .error fault ∧
          outcome = .error fault) ∧ after = mirror := by
  have done : perform mirror (link (.ofText "note".toList) (.ofText "home/home".toList)) =
      (.ok (.ofText "home/home".toList), mirrorLinked) := by cbv
  have refused : perform mirror (link (.ofText "home".toList) (.ofText "note".toList)) =
      (.error (.targetExists "note".toList), mirror) := by cbv
  have stands : mirror.place false (.ofText "note".toList) =
      .ok (.found ["note".toList] (.file (Utf8.encode "draft".toList))) := by cbv
  obtain ⟨spared, linked, _⟩ := link_spares done
  obtain ⟨refusedSpared, _, refuses, same⟩ := link_spares refused
  refine ⟨⟨done, spared, (linked _ rfl).2⟩, _, _, refused, refusedSpared, ?_, same _ rfl⟩
  exact refuses _ _ stands fun held link => by cases link

end Tailor.Files
