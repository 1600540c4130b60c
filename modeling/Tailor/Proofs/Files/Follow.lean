import Tailor.Proofs.Files.Delivery

/-! # Deliveries one after another

Deliveries put files and links to files into a tree, where no way leads on. A tree
follows another one with such dead ends if all other links are the same
(`Tailor.Files.Follows`). Its ways are then those of the other tree
(`Tailor.Files.Follows.sits`), so that the paths of a later document sit where they sat
before the first delivery. A delivery that leaves the dead ends alone adds two of its
own (`Tailor.Files.Follows.deliver`, `Tailor.Files.Follows.link`).
-/

namespace Tailor.Files

/-- A file on the ground, or a link to one of several. -/
inductive DeadEnd (files : Files) (ends : List Location) : Location → Prop where
  | file {content : Bytes} {file : Location} (filed : files.Filed content file) :
      DeadEnd files ends file
  | link {content : Bytes} {link file : Location} (listed : file ∈ ends)
      (filed : files.Filed content file)
      (held : files.linkAt? link = some (Path.ofLocation file).text) : DeadEnd files ends link

/-- One tree has the links of another one, but for dead ends. -/
structure Follows (start now : Files) (ends : List Location) : Prop where
  here : now.here = start.here
  grounded : now.Grounded now.here
  links : ∀ location ∉ ends, now.linkAt? location = start.linkAt? location
  closed : ∀ location ∈ ends, now.DeadEnd ends location

variable {start now after : Files} {ends : List Location}

theorem follows_refl (grounded : start.Grounded start.here) : Follows start start [] :=
  ⟨rfl, grounded, fun _ _ => rfl, by simp⟩

/-- No way without files leads to a dead end. -/
theorem DeadEnd.not_mem {place goal location : Location} {names : List Text}
    {way : List Location} (dead : now.DeadEnd ends location)
    (leads : now.Leads place names way goal) (clear : now.Clear way) : location ∉ way := by
  cases dead with
  | file filed => exact fun passed => clear _ passed _ filed.stands
  | link _ filed held => exact leads.not_mem_of_shown clear filed held

namespace Follows

variable (follows : Follows start now ends)

include follows

/-- On a way without files the links are those of the tree that is followed. -/
theorem same_links {place goal : Location} {names : List Text} {way : List Location}
    (leads : now.Leads place names way goal) (clear : now.Clear way) :
    ∀ location ∈ way, start.linkAt? location = now.linkAt? location := by
  intro location passed
  refine (follows.links location fun listed => ?_).symm
  exact (follows.closed location listed).not_mem leads clear passed

theorem sits {path : Path} {way : List Location} {spot : Location}
    (sits : now.Sits path way spot) (clear : now.Clear way) : start.Sits path way spot := by
  refine sits.congr follows.here.symm ?_
  obtain ⟨leads, _⟩ := sits
  exact follows.same_links leads clear

theorem linksOn_eq {path : Path} {way : List Location} {spot : Location}
    (sits : now.Sits path way spot) (clear : now.Clear way) :
    now.linksOn way = start.linksOn way := by
  obtain ⟨leads, _⟩ := sits
  exact (linksOn_congr (follows.same_links leads clear)).symm

/-- What happens elsewhere keeps dead ends, and new ones may be added. -/
theorem extend {spots : List Location} (added : List Location)
    (kept : Within spots now after)
    (elsewhere : ∀ location ∈ spots, location ∉ ends)
    (closed : ∀ location ∈ added, after.DeadEnd (added ++ ends) location)
    (same : ∀ location ∈ spots, location ∉ added →
      after.linkAt? location = start.linkAt? location) :
    Follows start after (added ++ ends) where
  here := kept.here.trans follows.here
  grounded := by
    rw [kept.here]
    exact follows.grounded.within kept
  links location outside := by
    rw [List.mem_append, not_or] at outside
    by_cases touched : location ∈ spots
    · exact same location touched outside.1
    · rw [kept.linkAt? touched]
      exact follows.links location outside.2
  closed location listed := by
    rcases List.mem_append.mp listed with new | old
    · exact closed location new
    · have outside : ∀ {other}, other ∈ ends → other ∉ spots :=
        fun inside touched => elsewhere _ touched inside
      cases follows.closed location old with
      | file filed => exact .file (filed.within kept (outside old))
      | link inside filed held =>
          refine .link (List.mem_append_right _ inside) (filed.within kept (outside inside)) ?_
          rw [kept.linkAt? (outside old)]
          exact held

/-- A document is written where its path sat at the start, which is a dead end then. -/
theorem deliver {output beside written : Path} {content : Text}
    (named : output.extend? temporaryEnding = some beside) (proper : output.Proper)
    (temporary_free : ∀ way spot, start.Sits beside way spot →
      start.linkAt? spot = none ∧ spot ∉ ends)
    (output_free : ∀ way spot, start.Sits output way spot → spot ∉ way ∧ spot ∉ ends)
    (delivered : perform now (Files.deliver output content) = (.ok written, after)) :
    ∃ way temporary file, start.Sits beside way temporary ∧ start.Sits output way file ∧
      Within [temporary, file] now after ∧ Follows start after (file :: ends) ∧
      after.Filed (Utf8.encode content) file ∧ written = .ofLocation file := by
  have plain : ∀ way spot, now.Sits beside way spot → now.Clear way →
      now.linkAt? spot = none := by
    intro way spot sitsNow clear
    obtain ⟨linkless, free⟩ := temporary_free way spot (follows.sits sitsNow clear)
    rw [follows.links spot free]
    exact linkless
  have apart : ∀ way spot, now.Sits output way spot → now.Clear way → spot ∉ way :=
    fun way spot sitsNow clear => (output_free way spot (follows.sits sitsNow clear)).1
  obtain ⟨way, temporary, file, made, rfl⟩ :=
    delivered_of_deliver named proper follows.grounded plain apart delivered
  have sitsBeside := follows.sits made.sitsBeside made.clear
  have sitsOutput := follows.sits made.sits made.clear
  obtain ⟨linkless, temporaryFree⟩ := temporary_free way temporary sitsBeside
  have fileFree := (output_free way file sitsOutput).2
  refine ⟨way, temporary, file, sitsBeside, sitsOutput, made.within, ?_, made.filed, rfl⟩
  refine follows.extend [file] made.within ?_ ?_ ?_
  · simp [temporaryFree, fileFree]
  · intro location listed
    rw [List.mem_singleton.mp listed]
    exact .file made.filed
  · intro location touched new
    have there : location = temporary := by simpa [new] using touched
    rw [there, linkless]
    exact linkAt?_of_vacant made.gone

/-- A target is linked where its path sat at the start, and shows what it is linked to. -/
theorem link {between : Files} {target source : Path} {content : Bytes} {file : Location}
    (listed : file ∈ ends) (filed : now.Filed content file)
    (apart : ∀ way spot, start.Sits target way spot →
      spot ∉ way ∧ start.linksOn way < linkLimit ∧ ∀ location ∈ ends, location ≠ file →
        spot ≠ location)
    (cleared : perform now (clearTarget (.ofLocation file) target) = (.ok source, between))
    (linked : perform between (makeLink source target) = (.ok (), after)) :
    ∃ way spot, start.Sits target way spot ∧ Within [spot] now after ∧
      Follows start after (spot :: ends) ∧ after.Shows target way spot file content := by
  have notPassed : ∀ way spot, now.Sits target way spot → now.Clear way → spot ∉ way :=
    fun way spot sitsNow clear => (apart way spot (follows.sits sitsNow clear)).1
  obtain ⟨way, spot, made⟩ := linked_of_makeLink filed notPassed cleared linked
  have sits := follows.sits made.sits made.clear
  obtain ⟨_, room, free⟩ := apart way spot sits
  have outside : file ∉ [spot] := by
    rw [List.mem_singleton]
    exact made.apart.symm
  have filedAfter : after.Filed content file := filed.within made.within outside
  have goesOn : Follows start after (spot :: ends) := by
    refine follows.extend [spot] made.within ?_ ?_ ?_
    · intro location touched inside
      rw [List.mem_singleton] at touched
      subst touched
      exact free location inside made.apart rfl
    · intro location new
      rw [List.mem_singleton.mp new]
      exact .link (List.mem_append_right _ listed) filedAfter (linkAt?_eq_some.mpr made.link)
    · intro location touched new
      exact absurd touched new
  refine ⟨way, spot, sits, made.within, goesOn, made.reaches, ?_, made.whole, made.link,
    filedAfter⟩
  rw [goesOn.linksOn_eq made.reaches.sits made.reaches.clear]
  exact room

end Follows

end Tailor.Files
