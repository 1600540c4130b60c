import Mathlib
import Tailor.Proofs.Files.Landing
import Tailor.Proofs.Files.Paving

/-! # What writing a document replaces

A document is written beside its path and renamed over it. Where no file and no link
stands at the path beside (`Tailor.Files.Unused`), the tree is left with the document put
at the spot of the path, or as it was but for directories on the way
(`Tailor.Files.deliver_cases`). If the path does not lead through the link that it names
(`Tailor.Files.Direct`), the document is found there then (`Tailor.Files.deliver_replaces`).
A link at the path beside is written through.
-/

namespace Tailor.Files

variable {files after : Files} {output beside : Path} {way : List Location} {spot : Location}

/-- At the spot of a path stands nothing or a directory. -/
def Unused (files : Files) (path : Path) : Prop :=
  ∀ way spot, files.Sits path way spot → ∀ entry, files.get? spot = some entry →
    entry = .directory

/-- A path does not lead through a link at its own spot. -/
def Direct (files : Files) (path : Path) : Prop :=
  ∀ way spot, files.Sits path way spot → spot ∈ way → files.linkAt? spot = none

/-- Where nothing stood, an entry that was put can be taken away again. -/
theorem erase_put (vacant : files.get? spot = none) (entry : Entry) :
    (files.put spot entry).erase spot = files := by
  have absent : ∀ item ∈ files.entries, item.1 ≠ spot := by
    intro item listed same
    unfold get? at vacant
    split at vacant
    · cases vacant
    · have differs := List.lookup_eq_none_iff.mp vacant item listed
      simp [same] at differs
  have kept : (files.entries.filter fun item => item.1 != spot) = files.entries := by
    refine List.filter_eq_self.mpr fun item listed => ?_
    simpa using absent item listed
  unfold put erase
  simp [kept]

namespace Unused

variable (unused : files.Unused beside)

include unused

theorem linkless (sits : files.Sits beside way spot) : files.linkAt? spot = none := by
  cases held : files.linkAt? spot with
  | none => rfl
  | some target =>
      cases unused way spot sits _ (linkAt?_eq_some.mp held)

theorem vacant (sits : files.Sits beside way spot) (free : files.get? spot ≠ some .directory) :
    files.get? spot = none := by
  cases stands : files.get? spot with
  | none => rfl
  | some entry =>
      rw [unused way spot sits entry stands] at stands
      exact absurd stands free

theorem within (kept : Within [] files after) : after.Unused beside := by
  intro way spot sits entry stands
  have before : files.Sits beside way spot :=
    sits.congr kept.here.symm fun _ _ => (kept.linkAt? List.not_mem_nil).symm
  rcases kept.apart spot List.not_mem_nil with same | ⟨_, made⟩
  · exact unused way spot before entry (same ▸ stands)
  · rw [made] at stands
    cases stands
    rfl

end Unused

/-! ## Clearing up -/

/-- A file that is found at a path is taken away. -/
theorem remove_of_file {path : Path} {content : Bytes}
    (placed : files.place false path = .ok (.found spot (.file content))) :
    perform files (remove path) = (.ok (), files.erase spot) := by
  unfold remove
  rw [perform_get_bind, placed]
  rfl

/-- Nothing is dropped where nothing was written. -/
theorem dropTemporary_of_unused (unused : files.Unused beside) :
    (perform files (dropTemporary beside)).2 = files := by
  unfold dropTemporary
  rw [perform_bind, perform_ofTree]
  cases files.isThere beside with
  | error fault => rfl
  | ok isThere =>
      cases isThere with
      | false => rfl
      | true =>
          simp only [if_true]
          rcases remove_cases files beside with
            ⟨fault, _, done⟩ | ⟨location, entry, _, notDirectory, located, _⟩
          · rw [done]
          · obtain ⟨way, reaches, stands⟩ := reaches_of_locate located notDirectory (by simp)
            exact absurd (unused way _ reaches.sits entry stands) notDirectory

/-- What was written is dropped. -/
theorem dropTemporary_of_put {content : Bytes} (reaches : files.Reaches beside way spot)
    (whole : hasNull beside = false) (vacant : files.get? spot = none) :
    (perform (files.put spot (.file content)) (dropTemporary beside)).2 = files := by
  have stands : (files.put spot (.file content)).get? spot = some (.file content) := by
    rw [get?_put, if_pos ⟨rfl, reaches.sits.ne_nil⟩]
  have reached := reaches.put (by simp [vacant]) (reaches.not_mem_of_vacant vacant)
    (.file content)
  have placed := fun follow => place_eq_ok.mpr ⟨whole, reached.locate_file stands follow⟩
  unfold dropTemporary
  rw [perform_bind, perform_ofTree, isThere_eq_true.mpr ⟨spot, _, placed true⟩]
  simp only [if_true]
  rw [remove_of_file (placed false), erase_put vacant]

theorem dropTemporary_throws (files : Files) (beside : Path) (fault : FileFault) :
    ∃ other, perform files (do dropTemporary beside; throw fault : FileAct Unit) =
      (.error other, (perform files (dropTemporary beside)).2) := by
  rw [perform_bind]
  rcases perform files (dropTemporary beside) with ⟨other | _, after⟩
  · exact ⟨other, rfl⟩
  · exact ⟨fault, rfl⟩

/-! ## Writing and renaming -/

/-- Where renaming fails, nothing happens. -/
theorem of_rename_eq_error {path other : Path} {fault : FileFault}
    (failed : perform files (rename path other) = (.error fault, after)) : after = files := by
  rcases rename_cases files path other with ⟨_, _, done⟩ | ⟨_, _, _, _, _, _, _, done⟩
  · rw [done] at failed
    cases failed
    rfl
  · rw [done] at failed
    cases failed

/-- What was written where nothing stood is renamed over a path, which is reached as it was
before. -/
theorem put_of_rename {content : Bytes} (named : output.extend? temporaryEnding = some beside)
    (reachesBeside : files.Reaches beside way spot) (vacant : files.get? spot = none)
    (renamed : perform (files.put spot (.file content)) (rename beside output) =
      (.ok (), after)) :
    ∃ file, files.Reaches output way file ∧ files.get? file ≠ some .directory ∧
      after = files.put file (.file content) := by
  have free : files.get? spot ≠ some .directory := by simp [vacant]
  have notPassed := reachesBeside.not_mem_of_vacant vacant
  have held : (files.put spot (.file content)).get? spot = some (.file content) := by
    rw [get?_put, if_pos ⟨rfl, reachesBeside.sits.ne_nil⟩]
  obtain ⟨file, reaches, apart, notDirectory, rfl⟩ :=
    of_rename_beside named (reachesBeside.put free notPassed _).sits held renamed
  have back : Within [spot] (files.put spot (.file content))
      ((files.put spot (.file content)).erase spot) := .erase (by simp [held])
  rw [erase_put vacant] at back ⊢
  refine ⟨file, reaches.within back fun location passed there => ?_, ?_, rfl⟩
  · rw [List.mem_singleton.mp there] at passed
    exact notPassed passed
  · rwa [get?_put, if_neg fun same => apart same.1.symm] at notDirectory

/-- Writing a document beside a path and renaming it fails in the tree as it was or with the
document beside the path, or it puts the document at the spot of the path. -/
theorem write_rename_cases (named : output.extend? temporaryEnding = some beside)
    (unused : files.Unused beside) (content : Bytes) :
    (∃ fault, perform files (do write beside content; rename beside output) =
        (.error fault, files)) ∨
      (∃ fault way spot, files.Reaches beside way spot ∧ hasNull beside = false ∧
        files.get? spot = none ∧
        perform files (do write beside content; rename beside output) =
          (.error fault, files.put spot (.file content))) ∨
      ∃ way file, files.Reaches output way file ∧ hasNull output = false ∧
        files.get? file ≠ some .directory ∧
        perform files (do write beside content; rename beside output) =
          (.ok (), files.put file (.file content)) := by
  rw [perform_bind]
  rcases write_cases files beside content with
    ⟨fault, _, done⟩ | ⟨place, whole, replaceable, located, done⟩
  · exact .inl ⟨fault, by rw [done]⟩
  · have plain : ∀ way spot, files.Sits beside way spot → files.Clear way →
        files.linkAt? spot = none := fun _ _ sits _ => unused.linkless sits
    obtain ⟨way, reaches, stands⟩ := reaches_of_locate located replaceable fun _ => plain
    have vacant : files.get? place.spot = none := by
      refine unused.vacant reaches.sits ?_
      rw [stands]
      exact entry?_ne_directory replaceable
    rw [done]
    dsimp only
    cases renamed : perform (files.put place.spot (.file content)) (rename beside output) with
    | mk outcome after =>
        cases outcome with
        | error fault =>
            obtain rfl := of_rename_eq_error renamed
            exact .inr (.inl ⟨fault, way, place.spot, reaches, whole, vacant, rfl⟩)
        | ok =>
            obtain ⟨file, reachesOutput, free, rfl⟩ := put_of_rename named reaches vacant renamed
            have wholeOutput : hasNull output = false := by
              rw [← hasNull_extend named (by decide), whole]
            exact .inr (.inr ⟨way, file, reachesOutput, wholeOutput, free, rfl⟩)

/-- Where nothing but a directory stands at the temporary path, a delivery fails and leaves
directories on the way at most; or it puts the document at the spot of the path, and ends with
where the path is resolved then. -/
theorem deliver_cases (content : Text)
    (unused : ∀ beside, output.extend? temporaryEnding = some beside → files.Unused beside) :
    (∃ fault ready, Paved output [] files ready ∧
        perform files (deliver output content) = (.error fault, ready)) ∨
      ∃ ready way file, Paved output [] files ready ∧ ready.Reaches output way file ∧
        hasNull output = false ∧ ready.get? file ≠ some .directory ∧
        perform files (deliver output content) =
          ((ready.put file (.file (Utf8.encode content))).resolve output,
            ready.put file (.file (Utf8.encode content))) := by
  unfold deliver
  rw [perform_bind]
  cases prepared : perform files (ensureParents output) with
  | mk prepares ready =>
      have paved := (ensureParents_paves output).of_eq prepared
      cases prepares with
      | error fault => exact .inl ⟨fault, ready, paved, rfl⟩
      | ok =>
          dsimp only
          unfold temporary
          cases named : output.extend? temporaryEnding with
          | none => exact .inl ⟨_, ready, paved, rfl⟩
          | some beside =>
              dsimp only
              have free : ready.Unused beside := (unused beside named).within paved.toWithin
              rw [pure_bind, perform_bind, perform_tryCatch]
              rcases write_rename_cases named free (Utf8.encode content) with
                ⟨fault, done⟩ | ⟨fault, way, spot, reaches, whole, vacant, done⟩ |
                  ⟨way, file, reaches, whole, notDirectory, done⟩
              · obtain ⟨other, ended⟩ := dropTemporary_throws ready beside fault
                rw [dropTemporary_of_unused free] at ended
                refine .inl ⟨other, ready, paved, ?_⟩
                simp only [done, ended]
              · obtain ⟨other, ended⟩ := dropTemporary_throws
                  (ready.put spot (.file (Utf8.encode content))) beside fault
                rw [dropTemporary_of_put reaches whole vacant] at ended
                refine .inl ⟨other, ready, paved, ?_⟩
                simp only [done, ended]
              · refine .inr ⟨ready, way, file, paved, reaches, whole, notDirectory, ?_⟩
                simp only [done, perform_ofTree]

/-- A path that is settled at a file is resolved to it. -/
theorem Filed.resolve_eq {path : Path} {content : Bytes} {file : Location}
    (filed : files.Filed content file) (whole : hasNull path = false)
    (settled : files.settle path = file) : files.resolve path = .ok (.ofLocation file) := by
  unfold resolve
  rw [if_neg (by simp [whole]), settled]
  have located : files.locate true (.ofLocation file) ≠ .error .tooManyLinks := by
    unfold locate
    split
    · simp
    · have walked := filed.walk_eq linkLimit
      unfold Path.ofLocation base
      simp [Path.isAbsolute, walked]
  dsimp only
  split
  · rename_i circle
    exact absurd circle located
  · rfl

/-- Where a path is direct it does not lead through a spot at which no directory stands. -/
theorem Direct.not_mem (direct : files.Direct output) (reaches : files.Reaches output way spot)
    (free : files.get? spot ≠ some .directory) : spot ∉ way := by
  intro passed
  rcases (reaches.passable spot passed).stands with directory | ⟨target, _, link⟩
  · exact free directory
  · have linkless := direct way spot reaches.sits passed
    rw [linkAt?_eq_some.mpr link] at linkless
    cases linkless

theorem Direct.within (direct : files.Direct output) (kept : Within [] files after) :
    after.Direct output := by
  intro way spot sits passed
  have same : ∀ location, after.linkAt? location = files.linkAt? location :=
    fun _ => kept.linkAt? List.not_mem_nil
  rw [same]
  exact direct way spot (sits.congr kept.here.symm fun _ _ => (same _).symm) passed

/-- **Writing replaces one entry.** Where nothing but a directory stands at the temporary path
and the path does not lead through the link that it names, a delivery either succeeds, and
then the file with the document is found at the path and nothing else is touched, or it fails
and what was found at the path is found there still. Beside that, directories are made on the
way at most. -/
theorem deliver_replaces {content : Text} {outcome : Except FileFault Path}
    (grounded : files.Grounded files.here) (proper : output.Proper)
    (unused : ∀ beside, output.extend? temporaryEnding = some beside → files.Unused beside)
    (direct : files.Direct output)
    (done : perform files (deliver output content) = (outcome, after)) :
    (∃ way file, files.Sits output way file ∧ outcome = .ok (.ofLocation file) ∧
        (∀ follow, after.place follow output =
          .ok (.found file (.file (Utf8.encode content)))) ∧
        Paved output [file] files after) ∨
      (∃ fault, outcome = .error fault) ∧ Paved output [] files after ∧
        ∀ follow location entry, files.place follow output = .ok (.found location entry) →
          after.place follow output = .ok (.found location entry) := by
  rcases deliver_cases content unused with
    ⟨fault, ready, paved, ended⟩ | ⟨ready, way, file, paved, reaches, whole, free, ended⟩
  · cases done.symm.trans ended
    refine .inr ⟨⟨fault, rfl⟩, paved, fun follow location entry placed => ?_⟩
    exact place_found_mono paved.here (fun _ _ => paved.stays List.not_mem_nil) (.inl rfl) placed
  · have apart := (direct.within paved.toWithin).not_mem reaches free
    have reached := reaches.put free apart (.file (Utf8.encode content))
    have stands : (ready.put file (.file (Utf8.encode content))).get? file =
        some (.file (Utf8.encode content)) := by
      rw [get?_put, if_pos ⟨rfl, reaches.sits.ne_nil⟩]
    have settled := settle_eq_of_leads
      (reached.sits.leads (fun name named => (reached.proper name named).1)
        (linkAt?_of_file stands))
    have groundedReady : ready.Grounded ready.here := by
      rw [paved.here]
      exact grounded.within paved.toWithin
    have filed := reaches.filed proper groundedReady (.put free _) stands
    rw [filed.resolve_eq whole settled] at ended
    cases done.symm.trans ended
    have sits : files.Sits output way file :=
      reaches.sits.congr paved.here.symm fun _ _ => (paved.linkAt? List.not_mem_nil).symm
    refine .inl ⟨way, file, sits, rfl, fun follow => ?_, paved.put reaches free apart _⟩
    exact place_eq_ok.mpr ⟨whole, reached.locate_file stands follow⟩

/-- A note, and a link to it. -/
def shelf : Files where
  entries := [(["note".toList], .file (Utf8.encode "old".toList)),
    (["copy".toList], .link "note".toList)]
  here := []

/-- The link is a file of its own now. -/
def shelfCopied : Files where
  entries := [(["note".toList], .file (Utf8.encode "old".toList)),
    (["copy".toList], .file (Utf8.encode "new".toList))]
  here := []

theorem shelf_unused : ∀ beside,
    (Path.ofText "copy".toList).extend? temporaryEnding = some beside →
      shelf.Unused beside := by
  intro beside named way spot sits entry stands
  cases named
  obtain ⟨rfl, rfl⟩ := sits.of_single (show _ = ["copy.tmp".toList] from rfl)
  cases stands

theorem shelf_direct : shelf.Direct (Path.ofText "copy".toList) := by
  intro way spot sits passed
  obtain ⟨rfl, _⟩ := sits.of_single (show _ = ["copy".toList] from rfl)
  cases passed

/-- A document that is written over a link leaves what the link leads to. -/
theorem shelf_replaced :
    perform shelf (deliver (.ofText "copy".toList) "new".toList) =
        (.ok (.ofLocation ["copy".toList]), shelfCopied) ∧
      ∃ way file, shelf.Sits (.ofText "copy".toList) way file ∧
        (.ok (.ofLocation ["copy".toList]) : Except FileFault Path) = .ok (.ofLocation file) ∧
        (∀ follow, shelfCopied.place follow (.ofText "copy".toList) =
          .ok (.found file (.file (Utf8.encode "new".toList)))) ∧
        Paved (.ofText "copy".toList) [file] shelf shelfCopied := by
  have done : perform shelf (deliver (.ofText "copy".toList) "new".toList) =
      (.ok (.ofLocation ["copy".toList]), shelfCopied) := by cbv
  rcases deliver_replaces .root (Path.proper_ofText _) shelf_unused shelf_direct done with
    succeeded | ⟨⟨_, failed⟩, _⟩
  · exact ⟨done, succeeded⟩
  · cases failed

/-- A note, and a link to it at the temporary path of a copy. -/
def desk : Files where
  entries := [(["note".toList], .file (Utf8.encode "old".toList)),
    (["copy.tmp".toList], .link "note".toList)]
  here := []

/-- The note is overwritten, and the link stands in the place of the copy. -/
def deskCopied : Files where
  entries := [(["note".toList], .file (Utf8.encode "new".toList)),
    (["copy".toList], .link "note".toList)]
  here := []

/-- A link at the temporary path is written through: what it leads to is lost, and no file
stands at the path that was written. -/
theorem desk_note_lost :
    perform desk (deliver (.ofText "copy".toList) "new".toList) =
        (.ok (.ofLocation ["note".toList]), deskCopied) ∧
      desk.get? ["note".toList] = some (.file (Utf8.encode "old".toList)) ∧
      deskCopied.get? ["note".toList] = some (.file (Utf8.encode "new".toList)) ∧
      deskCopied.place false (.ofText "copy".toList) =
        .ok (.found ["copy".toList] (.link "note".toList)) := by
  have done : perform desk (deliver (.ofText "copy".toList) "new".toList) =
      (.ok (.ofLocation ["note".toList]), deskCopied) := by cbv
  exact ⟨done, rfl, rfl, by cbv⟩

end Tailor.Files
