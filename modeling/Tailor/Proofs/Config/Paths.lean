import Tailor.Config.Load
import Tailor.Proofs.Files.Delivery

/-! # Paths of configurations

Every path of a configuration that was loaded is proper: its names are what stands between
slashes (`Tailor.Config.proper_of_load`).
-/

namespace Tailor

namespace Path

theorem Proper.under {directory path : Path} (above : directory.Proper) (proper : path.Proper) :
    (directory.under path).Proper := by
  unfold Path.under
  split
  · exact proper
  · intro name listed
    rcases List.mem_append.mp listed with first | second
    · exact above name first
    · exact proper name second

/-- A path in a home directory is proper. -/
theorem Proper.expandHome {homes : Homes} {path expanded : Path} (proper : path.Proper)
    (found : path.expandHome? homes = some expanded) : expanded.Proper := by
  unfold expandHome? at found
  split at found
  · rename_i account names anchor listed
    have below : ∀ name ∈ names, IsPart name := fun name inside =>
      proper name (by rw [listed]; exact List.mem_cons_of_mem _ inside)
    obtain ⟨home, _, found⟩ := Option.bind_eq_some_iff.mp found
    split at found
    · cases found
    · cases found
      exact below
    · cases found
      exact (proper_ofText _).under below
  · cases found
    exact proper

end Path

/-- The names of a settled location are proper where those of the path are. -/
theorem Files.proper_of_settle {files : Files} {path : Path} (grounded : files.Grounded files.here)
    (proper : path.Proper) : (Path.ofLocation (files.settle path)).Proper := by
  unfold Path.Proper Path.ofLocation settle
  refine forall_settleFrom (fun _ _ _ _ listed => isPart_of_mem_trail listed) _ _ _ _ ?_ proper
  unfold base
  split
  · simp
  · exact grounded.isPart

namespace Config

theorem bind_eq_ok {ε α β : Type} {action : Except ε α} {next : α → Except ε β} {result : β} :
    (action >>= next) = .ok result ↔ ∃ value, action = .ok value ∧ next value = .ok result := by
  cases action <;> simp [bind, Except.bind]

variable {around : Surroundings} (rooted : around.root.Proper)

include rooted

theorem checkPath_proper {value : Option Data} {place : Text} {checked : Checked (Option Path)}
    {path : Path} (done : checkPath around value place = .ok checked)
    (found : checked.value = some path) : path.Proper := by
  unfold checkPath at done
  split at done
  · cases done
    cases found
  · cases done
    cases found
  · split at done
    · cases done
      cases found
    · dsimp only at done
      split at done
      · cases done
      · split at done
        · rename_i expanded reached
          cases done
          cases found
          exact rooted.under ((Path.proper_ofText _).expandHome reached)
        · cases done
  · cases done
    cases found

/-- The paths of a document are proper. -/
theorem checkEntry_proper {defaults : Treatment} {place : Text} {entry : Data}
    {checked : Checked (Option DocumentConfig)} {document : DocumentConfig}
    (done : checkEntry around defaults place entry = .ok checked)
    (found : checked.value = some document) : document.source.Proper ∧ document.target.Proper := by
  unfold checkEntry at done
  split at done
  · obtain ⟨unknown, _, done⟩ := bind_eq_ok.mp done
    obtain ⟨source, sourceDone, done⟩ := bind_eq_ok.mp done
    obtain ⟨target, targetDone, done⟩ := bind_eq_ok.mp done
    obtain ⟨escape, _, done⟩ := bind_eq_ok.mp done
    cases done
    dsimp only at found
    split at found
    · rename_i sourceFound targetFound
      cases found
      exact ⟨checkPath_proper rooted sourceDone sourceFound,
        checkPath_proper rooted targetDone targetFound⟩
    · cases found
  · cases done
    cases found

theorem checkEntries_proper {defaults : Treatment} {index : Nat} {entries : List Data}
    {checked : Checked (List DocumentConfig)}
    (done : checkEntries around defaults index entries = .ok checked) :
    ∀ document ∈ checked.value, document.source.Proper ∧ document.target.Proper := by
  induction entries generalizing index checked with
  | nil =>
      cases done
      simp [clean]
  | cons entry entries ih =>
      rw [checkEntries] at done
      obtain ⟨first, firstDone, done⟩ := bind_eq_ok.mp done
      obtain ⟨others, othersDone, done⟩ := bind_eq_ok.mp done
      cases done
      intro document listed
      rcases List.mem_append.mp listed with here | later
      · exact checkEntry_proper rooted firstDone (Option.mem_toList.mp here)
      · exact ih othersDone document later

/-- The paths of a configuration that was built are proper. -/
theorem proper_of_build {raw : List (Scalar × Data)} {config : Config}
    (built : build around raw = .ok config) :
    ∀ document ∈ config.documents, document.source.Proper ∧ document.target.Proper := by
  unfold build at built
  split at built
  · cases built
  · rename_i checked done
    split at built
    · cases built
      unfold check at done
      obtain ⟨unknown, _, done⟩ := bind_eq_ok.mp done
      obtain ⟨escape, _, done⟩ := bind_eq_ok.mp done
      obtain ⟨table, _, done⟩ := bind_eq_ok.mp done
      obtain ⟨documents, documentsDone, done⟩ := bind_eq_ok.mp done
      cases done
      unfold checkDocuments at documentsDone
      split at documentsDone
      · cases documentsDone
        simp [clean]
      · exact checkEntries_proper rooted documentsDone
      · cases documentsDone
        simp [flawed]
    · cases built

omit rooted

/-- The directory of a configuration has proper names. -/
theorem root_proper {files : Files} {path place : Path} {wrap : FileFault → Failure}
    (grounded : files.Grounded files.here) (proper : path.Proper)
    (resolved : (files.resolve path).mapError wrap = .ok place) : place.parent.Proper := by
  cases found : files.resolve path with
  | error fault =>
      rw [found] at resolved
      cases resolved
  | ok settled =>
      rw [found] at resolved
      cases resolved
      rw [Files.resolve_eq_ok found]
      intro name listed
      exact Files.proper_of_settle grounded proper name ((List.dropLast_sublist _).subset listed)

/-- The paths of a configuration that was loaded are proper. -/
theorem proper_of_load {yaml : YamlReader} {lookup : Text → Option Text} {homes : Path.Homes}
    {files : Files} {path : Path} {config : Config} (grounded : files.Grounded files.here)
    (proper : path.Proper) (loaded : load yaml lookup homes files path = .ok config) :
    ∀ document ∈ config.documents, document.source.Proper ∧ document.target.Proper := by
  unfold load at loaded
  obtain ⟨data, _, loaded⟩ := bind_eq_ok.mp loaded
  dsimp only at loaded
  split at loaded
  all_goals
    obtain ⟨entries, listed, loaded⟩ := bind_eq_ok.mp loaded
  · obtain ⟨place, resolved, built⟩ := bind_eq_ok.mp loaded
    exact proper_of_build (root_proper grounded proper resolved) built
  · obtain ⟨place, resolved, built⟩ := bind_eq_ok.mp loaded
    exact proper_of_build (root_proper grounded proper resolved) built
  · cases listed

end Config

end Tailor
