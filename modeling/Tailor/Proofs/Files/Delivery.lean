import Tailor.Proofs.Files.Faults
import Tailor.Proofs.Files.Paving
import Tailor.Proofs.Files.Shown

/-! # What deliveries leave

A document that is delivered lies at the spot of its path, the temporary file is gone,
and nothing else changed but for directories that were made
(`Tailor.Files.delivered_of_deliver`). A target that is linked to it shows it
(`Tailor.Files.linked_of_makeLink`). Both need that the way to what they replace does
not lead through it.
-/

namespace Tailor

theorem Path.exists_of_extend {path extended : Path} {ending : Text}
    (extends_ : path.extend? ending = some extended) :
    ∃ name, path.name? = some name ∧
      extended = ⟨path.anchor, path.names.dropLast ++ [name ++ ending]⟩ := by
  obtain ⟨name, named, made⟩ := Option.map_eq_some_iff.mp extends_
  exact ⟨name, named, made.symm⟩

namespace Files

variable {files after : Files}

theorem Sits.ne_nil {path : Path} {way : List Location} {spot : Location}
    (sits : files.Sits path way spot) : spot ≠ [] := by
  cases sits
  simp

/-- A path with an ending sits beside the path without it. -/
theorem Sits.extend {path extended : Path} {ending : Text} {way : List Location}
    {spot : Location} (sits : files.Sits path way spot)
    (extends_ : path.extend? ending = some extended) (full : ending ≠ []) :
    ∃ beside, files.Sits extended way beside ∧ beside ≠ spot := by
  obtain ⟨name, named, rfl⟩ := Path.exists_of_extend extends_
  cases sits with
  | @«at» directory other leads same =>
      rw [named] at same
      cases same
      refine ⟨directory ++ [name ++ ending], .at ?_ List.getLast?_concat, by simp [full]⟩
      rw [List.dropLast_concat]
      exact leads

theorem entry?_ne_directory {place : Place} (replaceable : place.Replaceable) :
    place.entry? ≠ some .directory := by
  cases place with
  | vacant => simp [Place.entry?]
  | found location entry =>
      have notDirectory : entry ≠ .directory := replaceable
      simpa [Place.entry?] using notDirectory

theorem resolve_eq_ok {path resolved : Path} (found : files.resolve path = .ok resolved) :
    resolved = .ofLocation (files.settle path) := by
  rcases resolve_cases files path with ⟨fault, failed, _⟩ | ⟨_, settled⟩
  · rw [failed] at found
    cases found
  · rw [settled] at found
    cases found
    rfl

/-! ## Writing -/

/-- What writing leaves: the file at the spot of its path, with what is written. -/
theorem of_write_eq_ok {path : Path} {content : Bytes}
    (plain : ∀ way spot, files.Sits path way spot → files.Clear way → files.linkAt? spot = none)
    (written : perform files (write path content) = (.ok (), after)) :
    ∃ way spot, files.Reaches path way spot ∧ files.get? spot ≠ some .directory ∧
      after = files.put spot (.file content) := by
  rcases write_cases files path content with
    ⟨fault, _, done⟩ | ⟨place, _, replaceable, located, done⟩
  · rw [done] at written
    cases written
  · rw [done] at written
    cases written
    obtain ⟨way, reaches, stands⟩ := reaches_of_locate located replaceable fun _ => plain
    refine ⟨way, place.spot, reaches, ?_, rfl⟩
    rw [stands]
    exact entry?_ne_directory replaceable

/-- What renaming leaves: the one spot is free, at the other is what was there. -/
theorem of_rename_eq_ok {path other : Path}
    (renamed : perform files (rename path other) = (.ok (), after)) :
    ∃ way spot otherWay goal entry, files.Reaches path way spot ∧
      files.Reaches other otherWay goal ∧ files.get? spot = some entry ∧ entry ≠ .directory ∧
      files.get? goal ≠ some .directory ∧ after = (files.erase spot).put goal entry := by
  rcases rename_cases files path other with
    ⟨fault, _, done⟩ |
      ⟨location, entry, goal, notDirectory, replaceable, located, otherLocated, done⟩
  · rw [done] at renamed
    cases renamed
  · rw [done] at renamed
    cases renamed
    obtain ⟨way, reaches, stands⟩ := reaches_of_locate located notDirectory (by simp)
    obtain ⟨otherWay, otherReaches, otherStands⟩ :=
      reaches_of_locate otherLocated replaceable (by simp)
    refine ⟨way, location, otherWay, goal.spot, entry, reaches, otherReaches, stands, notDirectory,
      ?_, rfl⟩
    rw [otherStands]
    exact entry?_ne_directory replaceable

/-- A delivery in its steps. -/
theorem deliver_eq_ok {output beside written : Path} {content : Text}
    (named : output.extend? temporaryEnding = some beside)
    (delivered : perform files (deliver output content) = (.ok written, after)) :
    ∃ ready filled, perform files (ensureParents output) = (.ok (), ready) ∧
      perform ready (write beside (Utf8.encode content)) = (.ok (), filled) ∧
      perform filled (rename beside output) = (.ok (), after) ∧
      after.resolve output = .ok written := by
  have found : temporary output = pure beside := by
    unfold temporary
    rw [named]
  unfold deliver at delivered
  rw [found, pure_bind] at delivered
  obtain ⟨_, ready, prepared, delivered⟩ := perform_bind_eq_ok.mp delivered
  obtain ⟨_, moved, put, resolved⟩ := perform_bind_eq_ok.mp delivered
  rw [perform_ofTree] at resolved
  obtain ⟨settled, rfl⟩ := Prod.mk.inj resolved
  rw [perform_tryCatch] at put
  -- the handler only ever throws
  split at put
  · rename_i done
    cases put
    obtain ⟨_, filled, wrote, renamed⟩ := perform_bind_eq_ok.mp done
    exact ⟨ready, filled, prepared, wrote, renamed, settled⟩
  · obtain ⟨_, _, _, thrown⟩ := perform_bind_eq_ok.mp put
    rw [perform_throw] at thrown
    cases thrown

/-- A file was put over a path from beside it. -/
structure Replaced (before after : Files) (output beside : Path) (content : Bytes)
    (way : List Location) (temporary file : Location) : Prop where
  reaches : before.Reaches output way file
  sitsBeside : before.Sits beside way temporary
  within : Within [temporary, file] before after
  gone : after.get? temporary = none
  stands : after.get? file = some (.file content)

/-- A file that is renamed over the path beside which it stands is put at the spot of that
path. -/
theorem of_rename_beside {output beside : Path} {content : Bytes} {way : List Location}
    {temporary : Location} (named : output.extend? temporaryEnding = some beside)
    (sitsBeside : files.Sits beside way temporary)
    (held : files.get? temporary = some (.file content))
    (renamed : perform files (rename beside output) = (.ok (), after)) :
    ∃ file, files.Reaches output way file ∧ temporary ≠ file ∧
      files.get? file ≠ some .directory ∧
      after = (files.erase temporary).put file (.file content) := by
  obtain ⟨_, spot, outputWay, file, entry, reachesBeside, reaches, found, _, notDirectory, rfl⟩ :=
    of_rename_eq_ok renamed
  obtain ⟨other, sitsOther, apart⟩ := reaches.sits.extend named (by decide)
  obtain ⟨rfl, rfl⟩ := sitsOther.unique sitsBeside
  obtain ⟨_, rfl⟩ := reachesBeside.sits.unique sitsBeside
  rw [held] at found
  cases found
  exact ⟨file, reaches, apart, notDirectory, rfl⟩

/-- What stands beside a path is put over it. -/
theorem replaced_of_rename {output beside : Path} {content : Bytes} {way : List Location}
    {temporary : Location} (named : output.extend? temporaryEnding = some beside)
    (sitsBeside : files.Sits beside way temporary)
    (held : files.get? temporary = some (.file content))
    (renamed : perform files (rename beside output) = (.ok (), after)) :
    ∃ file, Replaced files after output beside content way temporary file := by
  obtain ⟨file, reaches, apart, notDirectory, rfl⟩ :=
    of_rename_beside named sitsBeside held renamed
  have emptied : Within [temporary] files (files.erase temporary) :=
    .erase (by rw [held]; simp)
  have put : Within [file] (files.erase temporary)
      ((files.erase temporary).put file (.file content)) := by
    refine .put ?_ _
    rw [get?_erase, if_neg fun same => apart same.1.symm]
    exact notDirectory
  refine ⟨file, reaches, sitsBeside, (emptied.mono (by simp)).trans (put.mono (by simp)), ?_, ?_⟩
  · rw [get?_put, if_neg fun same => apart same.1, get?_erase,
      if_pos ⟨rfl, sitsBeside.ne_nil⟩]
  · rw [get?_put, if_pos ⟨rfl, reaches.sits.ne_nil⟩]

/-- Putting a file where no link stands changes no link. -/
theorem linkAt?_put_file {spot : Location} (linkless : files.linkAt? spot = none)
    (content : Bytes) (location : Location) :
    (files.put spot (.file content)).linkAt? location = files.linkAt? location := by
  by_cases there : location = spot ∧ location ≠ []
  · obtain ⟨rfl, below⟩ := there
    rw [linkless]
    exact linkAt?_of_file (by rw [get?_put, if_pos ⟨rfl, below⟩])
  · exact linkAt?_of_get? (by rw [get?_put, if_neg there])

/-- A file that is written beside a path is put over it. -/
theorem replaced_of_write {filled : Files} {output beside : Path} {content : Bytes}
    (named : output.extend? temporaryEnding = some beside)
    (plain : ∀ way spot, files.Sits beside way spot → files.Clear way → files.linkAt? spot = none)
    (written : perform files (write beside content) = (.ok (), filled))
    (renamed : perform filled (rename beside output) = (.ok (), after)) :
    ∃ way temporary file, Replaced files after output beside content way temporary file := by
  obtain ⟨way, temporary, reaches, notDirectory, rfl⟩ := of_write_eq_ok plain written
  have wrote : Within [temporary] files (files.put temporary (.file content)) :=
    .put notDirectory _
  have links := linkAt?_put_file (plain way temporary reaches.sits reaches.clear) content
  have held : (files.put temporary (.file content)).get? temporary = some (.file content) := by
    rw [get?_put, if_pos ⟨rfl, reaches.sits.ne_nil⟩]
  have sitsBeside := reaches.sits.congr wrote.here fun location _ => links location
  obtain ⟨file, replaced⟩ := replaced_of_rename named sitsBeside held renamed
  have sits : files.Sits output way file :=
    replaced.reaches.sits.congr wrote.here.symm fun location _ => (links location).symm
  exact ⟨way, temporary, file, ⟨sits, reaches.passable, reaches.few, replaced.reaches.text,
    replaced.reaches.proper⟩, reaches.sits, (wrote.mono (by simp)).trans replaced.within,
    replaced.gone, replaced.stands⟩

/-- What a delivery leaves behind. -/
structure Delivered (before after : Files) (output beside : Path) (content : Bytes)
    (way : List Location) (temporary file : Location) : Prop where
  clear : before.Clear way
  sits : before.Sits output way file
  sitsBeside : before.Sits beside way temporary
  within : Within [temporary, file] before after
  gone : after.get? temporary = none
  filed : after.Filed content file

/-- A file that replaces what its path does not lead through is found at the path. -/
theorem Replaced.settle_eq {output beside : Path} {content : Bytes} {way : List Location}
    {temporary file : Location}
    (replaced : Replaced files after output beside content way temporary file)
    (linkless : files.linkAt? temporary = none) (apart : file ∉ way) :
    after.settle output = file := by
  have same : ∀ location ∈ way, after.linkAt? location = files.linkAt? location := by
    intro location passed
    by_cases there : location = temporary
    · subst there
      rw [linkless]
      exact linkAt?_of_vacant replaced.gone
    · refine replaced.within.linkAt? ?_
      have elsewhere : location ≠ file := fun same => apart (same ▸ passed)
      simp [there, elsewhere]
  have sits := replaced.reaches.sits.congr replaced.within.here same
  exact settle_eq_of_leads (sits.leads (fun name named => (replaced.reaches.proper name named).1)
    (linkAt?_of_file replaced.stands))

/-- A file at the spot that a path reached from the ground is there. -/
theorem Reaches.filed {path : Path} {content : Bytes} {way spots : List Location}
    {spot : Location} (reaches : files.Reaches path way spot) (path_proper : path.Proper)
    (grounded : files.Grounded files.here) (kept : Within spots files after)
    (stands : after.get? spot = some (.file content)) : after.Filed content spot := by
  obtain ⟨sits, passable, _, _, proper⟩ := reaches
  cases sits with
  | @«at» directory name leads named =>
      have start : files.Grounded (files.base path) := by
        unfold base
        split
        · exact .root
        · exact grounded
      have upper : files.Grounded directory :=
        leads.grounded start
          (fun name listed => path_proper name ((List.dropLast_sublist _).subset listed)) passable
      exact .at (upper.within kept) (path_proper name (List.mem_of_getLast? named))
        (proper name named).1 (proper name named).2 stands

theorem delivered_of_deliver {output beside written : Path} {content : Text}
    (named : output.extend? temporaryEnding = some beside) (proper : output.Proper)
    (grounded : files.Grounded files.here)
    (plain : ∀ way spot, files.Sits beside way spot → files.Clear way → files.linkAt? spot = none)
    (apart : ∀ way spot, files.Sits output way spot → files.Clear way → spot ∉ way)
    (delivered : perform files (deliver output content) = (.ok written, after)) :
    ∃ way temporary file,
      Delivered files after output beside (Utf8.encode content) way temporary file ∧
        written = .ofLocation file := by
  obtain ⟨ready, filled, prepared, wrote, renamed, resolved⟩ := deliver_eq_ok named delivered
  have made := ((ensureParents_paves output).of_eq prepared).toWithin
  have links : ∀ location, ready.linkAt? location = files.linkAt? location :=
    fun location => made.linkAt? List.not_mem_nil
  have back : ∀ {path way spot}, ready.Sits path way spot → files.Sits path way spot :=
    fun sits => sits.congr made.here.symm fun location _ => (links location).symm
  have plainReady : ∀ way spot, ready.Sits beside way spot → ready.Clear way →
      ready.linkAt? spot = none := by
    intro way spot sits clear
    rw [links]
    exact plain way spot (back sits) (clear.of_within made)
  obtain ⟨way, temporary, file, replaced⟩ := replaced_of_write named plainReady wrote renamed
  have clear : files.Clear way := replaced.reaches.clear.of_within made
  have sits : files.Sits output way file := back replaced.reaches.sits
  have settled : after.settle output = file :=
    replaced.settle_eq (plainReady way temporary replaced.sitsBeside replaced.reaches.clear)
      (apart way file sits clear)
  refine ⟨way, temporary, file, ⟨clear, sits, back replaced.sitsBeside,
    (made.mono (List.nil_subset _)).trans replaced.within, replaced.gone,
    replaced.reaches.filed proper ?_ replaced.within replaced.stands⟩, ?_⟩
  · rw [made.here]
    exact grounded.within made
  · rw [resolve_eq_ok resolved, settled]

/-! ## Linking -/

theorem isLink_eq_true {path : Path} (found : files.isLink path = .ok true) :
    hasNull path = false ∧
      ∃ location target, files.locate false path = .ok (.found location (.link target)) := by
  unfold isLink entryAt at found
  cases placed : files.place false path with
  | ok place =>
      obtain ⟨whole, located⟩ := place_eq_ok.mp placed
      rw [placed] at found
      cases place with
      | vacant directory name => cases found
      | found location entry =>
          cases entry with
          | link target => exact ⟨whole, location, target, located⟩
          | file content => cases found
          | directory => cases found
  | error fault =>
      rw [placed] at found
      cases place_plain placed with
      | null => cases found
      | refused refusal shown other? =>
          dsimp only at found
          split at found <;> cases found

section Room

variable {output target source : Path}

theorem reaches_of_placed_link {spot : Location} {held : Text}
    (placed : files.place false target = .ok (.found spot (.link held))) :
    ∃ way, files.Reaches target way spot ∧ files.get? spot = some (.link held) := by
  have notDirectory : Entry.link held ≠ .directory := by simp
  exact reaches_of_locate (place_eq_ok.mp placed).2 notDirectory (by simp)

/-- Nothing happened, or a link at the target was taken away. -/
inductive Freed (files : Files) (target : Path) : Files → Prop where
  | untouched : Freed files target files
  | unlinked {spot : Location} {held : Text}
      (placed : files.place false target = .ok (.found spot (.link held))) :
      Freed files target (files.erase spot)

/-- Taking away a link either fails or frees the target. -/
theorem remove_frees (looked : files.isLink target = .ok true) :
    (∃ fault, perform files (remove target) = (.error fault, files)) ∨
      ∃ emptied, files.Freed target emptied ∧
        perform files (remove target) = (.ok (), emptied) := by
  obtain ⟨whole, location, held, located⟩ := isLink_eq_true looked
  rcases remove_cases files target with
    ⟨fault, _, done⟩ | ⟨spot, entry, _, _, otherwise, done⟩
  · exact .inl ⟨fault, done⟩
  · rw [located] at otherwise
    cases otherwise
    exact .inr ⟨_, .unlinked (place_eq_ok.mpr ⟨whole, located⟩), done⟩

/-- Making room for a link fails and leaves the tree as it was, or it gets to making
directories. -/
theorem clearTarget_cases (files : Files) (output target : Path) :
    (∃ fault, perform files (clearTarget output target) = (.error fault, files)) ∨
      ∃ source emptied, files.resolve output = .ok source ∧ files.Freed target emptied ∧
        perform files (clearTarget output target) =
          perform emptied (do ensureParents target; pure source) := by
  unfold clearTarget
  simp only [perform_bind _ (ofTree _), perform_ofTree]
  cases files.resolve output with
  | error fault => exact .inl ⟨fault, rfl⟩
  | ok source =>
      dsimp only
      cases looked : files.isLink target with
      | error fault => exact .inl ⟨fault, rfl⟩
      | ok isLink =>
          cases isLink with
          | true =>
              simp only [if_true]
              rcases remove_frees looked with ⟨fault, done⟩ | ⟨emptied, freed, done⟩
              · refine .inl ⟨fault, ?_⟩
                rw [perform_bind, done]
              · refine .inr ⟨source, emptied, rfl, freed, ?_⟩
                rw [perform_bind, done]
          | false =>
              simp only [Bool.false_eq_true, if_false, perform_bind _ (ofTree _), perform_ofTree]
              cases files.isThere target with
              | error fault => exact .inl ⟨fault, rfl⟩
              | ok isThere =>
                  cases isThere with
                  | true => exact .inl ⟨_, rfl⟩
                  | false => exact .inr ⟨source, files, rfl, .untouched, rfl⟩

/-- Making room for a link in its steps. -/
theorem clearTarget_eq_ok
    (cleared : perform files (clearTarget output target) = (.ok source, after)) :
    files.resolve output = .ok source ∧ ∃ emptied, files.Freed target emptied ∧
      perform emptied (ensureParents target) = (.ok (), after) := by
  rcases clearTarget_cases files output target with
    ⟨fault, done⟩ | ⟨found, emptied, resolved, freed, done⟩
  · rw [done] at cleared
    cases cleared
  · rw [done] at cleared
    obtain ⟨_, between, prepared, ended⟩ := perform_bind_eq_ok.mp cleared
    cases ended
    exact ⟨resolved, emptied, freed, prepared⟩

end Room

/-- What making a link leaves: the link at the spot of its path, where nothing stood. -/
theorem of_makeLink_eq_ok {source target : Path}
    (linked : perform files (makeLink source target) = (.ok (), after)) :
    ∃ way spot, files.Reaches target way spot ∧ hasNull target = false ∧ files.get? spot = none ∧
      after = files.put spot (.link source.text) := by
  unfold makeLink at linked
  rcases create_reaches files target (.link source.text) source.text (some target.text) with
    ⟨fault, _, done⟩ | ⟨way, spot, reaches, whole, vacant, done⟩
  · rw [done] at linked
    cases linked
  · rw [done] at linked
    cases linked
    exact ⟨way, spot, reaches, whole, vacant, rfl⟩

/-- Room for a link is made at the spot where the link is made later: it was free, or a
link was taken away there. -/
theorem room_of_clearTarget {between : Files} {output target source : Path}
    {way : List Location} {spot : Location}
    (apart : ∀ way spot, files.Sits target way spot → files.Clear way → spot ∉ way)
    (cleared : perform files (clearTarget output target) = (.ok source, between))
    (reaches : between.Reaches target way spot) (vacant : between.get? spot = none) :
    files.Sits target way spot ∧ files.Clear way ∧ Within [spot] files between ∧
      ∀ content, files.get? spot ≠ some (.file content) := by
  obtain ⟨_, emptied, freed, prepared⟩ := clearTarget_eq_ok cleared
  have made := ((ensureParents_paves target).of_eq prepared).toWithin
  have links : ∀ location, between.linkAt? location = emptied.linkAt? location :=
    fun location => made.linkAt? List.not_mem_nil
  cases freed with
  | untouched =>
      have sits : files.Sits target way spot :=
        reaches.sits.congr made.here.symm fun location _ => (links location).symm
      refine ⟨sits, reaches.clear.of_within made, made.mono (by simp), fun content stands => ?_⟩
      rw [made.stays List.not_mem_nil stands] at vacant
      cases vacant
  | @unlinked spotBefore held placed =>
      obtain ⟨wayBefore, reachesBefore, stands⟩ := reaches_of_placed_link placed
      have free : Within [spotBefore] files (files.erase spotBefore) :=
        .erase (by rw [stands]; simp)
      have clear := reachesBefore.clear
      have notPassed : spotBefore ∉ wayBefore := apart wayBefore spotBefore reachesBefore.sits clear
      have same : ∀ location ∈ wayBefore, between.linkAt? location = files.linkAt? location := by
        intro location passed
        rw [links]
        refine free.linkAt? fun there => ?_
        rw [List.mem_singleton] at there
        exact notPassed (there ▸ passed)
      obtain ⟨rfl, rfl⟩ :=
        (reachesBefore.sits.congr (made.here.trans free.here) same).unique reaches.sits
      refine ⟨reachesBefore.sits, clear, free.trans (made.mono (by simp)), fun content filed => ?_⟩
      rw [stands] at filed
      cases filed

/-- What linking a target to a file leaves behind. -/
structure Linked (before after : Files) (target : Path) (way : List Location)
    (spot file : Location) : Prop where
  clear : before.Clear way
  sits : before.Sits target way spot
  within : Within [spot] before after
  reaches : after.Reaches target way spot
  whole : hasNull target = false
  link : after.get? spot = some (.link (Path.ofLocation file).text)
  apart : spot ≠ file

theorem linked_of_makeLink {between : Files} {target source : Path} {content : Bytes}
    {file : Location} (filed : files.Filed content file)
    (apart : ∀ way spot, files.Sits target way spot → files.Clear way → spot ∉ way)
    (cleared : perform files (clearTarget (.ofLocation file) target) = (.ok source, between))
    (linked : perform between (makeLink source target) = (.ok (), after)) :
    ∃ way spot, Linked files after target way spot file := by
  have found : source = .ofLocation file := by
    rw [resolve_eq_ok (clearTarget_eq_ok cleared).1, filed.settle_eq]
  obtain ⟨way, spot, reaches, whole, vacant, rfl⟩ := of_makeLink_eq_ok linked
  obtain ⟨sits, clear, room, noFile⟩ := room_of_clearTarget apart cleared reaches vacant
  have put : Within [spot] between (between.put spot (.link source.text)) :=
    .put (by rw [vacant]; simp) _
  have reached := reaches.put (by simp [vacant]) (reaches.not_mem_of_vacant vacant)
    (.link source.text)
  refine ⟨way, spot, clear, sits, room.trans put, reached, whole, ?_, ?_⟩
  · rw [get?_put, if_pos ⟨rfl, reaches.sits.ne_nil⟩, found]
  · rintro rfl
    exact noFile content filed.stands

end Files

end Tailor
