import Tailor.Proofs.Files.Way
import Tailor.Proofs.Text.Parts

/-! # Locations on the ground

A location is on the ground if it and all locations above it are directories with
proper names (`Tailor.Files.Grounded`). Names lead there straight, without links, so
the path of a location on the ground leads back to it, also when a link holds the path
(`Tailor.Files.trail_text`).
-/

namespace Tailor

/-- What stands between slashes. -/
structure Path.IsPart (name : Text) : Prop where
  some_ : name ≠ []
  whole : '/' ∉ name

/-- The names of the path are what stands between slashes. -/
def Path.Proper (path : Path) : Prop := ∀ name ∈ path.names, IsPart name

/-- What is read as a path is proper. -/
theorem Path.proper_ofText (text : Text) : (Path.ofText text).Proper := by
  intro name listed
  obtain ⟨split, kept⟩ := List.mem_filter.mp listed
  refine ⟨?_, fun inside => Text.not_mem_of_mem_splitAll split inside⟩
  rintro rfl
  simp at kept

/-- An ending without slashes keeps a path proper. -/
theorem Path.Proper.extend {path extended : Path} {ending : Text} (proper : path.Proper)
    (extends_ : path.extend? ending = some extended) (whole : '/' ∉ ending) : extended.Proper := by
  obtain ⟨name, last, rfl⟩ := Option.map_eq_some_iff.mp extends_
  obtain ⟨some_, part⟩ := proper name (List.mem_of_getLast? last)
  intro other listed
  rcases List.mem_append.mp listed with above | new
  · exact proper other ((List.dropLast_sublist _).subset above)
  · rw [List.mem_singleton.mp new]
    refine ⟨by simp [some_], fun inside => ?_⟩
    rcases List.mem_append.mp inside with first | second
    · exact part first
    · exact whole second

namespace Files

theorem isPart_of_mem_trail {target name : Text} (listed : name ∈ trail target) :
    Path.IsPart name := by
  rcases List.mem_append.mp listed with part | slash
  · obtain ⟨split, full⟩ := List.mem_filter.mp part
    exact ⟨by simpa using full, fun inside => Text.not_mem_of_mem_splitAll split inside⟩
  · split at slash
    · rw [List.mem_singleton.mp slash]
      exact ⟨by decide, by decide⟩
    · cases slash

/-- A directory with a proper name, and only such ones above it. -/
inductive Grounded (files : Files) : Location → Prop where
  | root : Grounded files []
  | into {place : Location} {name : Text} (upper : Grounded files place) (part : Path.IsPart name)
      (named : IsName name) (short : sizeInBytes name ≤ nameLimit)
      (stands : files.get? (place ++ [name]) = some .directory) : Grounded files (place ++ [name])

variable {files : Files} {place goal : Location} {names : List Text} {way : List Location}

theorem Grounded.dropLast (grounded : files.Grounded place) : files.Grounded place.dropLast := by
  cases grounded with
  | root => exact .root
  | into upper => rwa [List.dropLast_concat]

theorem Grounded.startOf (grounded : files.Grounded place) (target : Text) :
    files.Grounded (startOf target place) := by
  unfold Files.startOf
  split
  · exact .root
  · exact grounded

/-- Over passable locations a way stays on the ground. -/
theorem Leads.grounded (leads : files.Leads place names way goal) (grounded : files.Grounded place)
    (parts : ∀ name ∈ names, Path.IsPart name)
    (passable : ∀ location ∈ way, files.Passable location) : files.Grounded goal := by
  induction leads with
  | here => exact grounded
  | dot _ ih =>
      exact ih grounded (fun name listed => parts name (List.mem_cons_of_mem _ listed)) passable
  | up _ ih =>
      exact ih grounded.dropLast (fun name listed => parts name (List.mem_cons_of_mem _ listed))
        passable
  | into named plain _ ih =>
      obtain ⟨stands, short⟩ := passable _ (List.mem_cons_self ..)
      refine ih ?_ (fun name listed => parts name (List.mem_cons_of_mem _ listed))
        fun location later => passable location (List.mem_cons_of_mem _ later)
      rcases stands with directory | ⟨target, _, link⟩
      · exact .into grounded (parts _ (List.mem_cons_self ..)) named (short _ (by simp)) directory
      · rw [linkAt?_eq_some.mpr link] at plain
        cases plain
  | @along place goal name target names way named link _ ih =>
      refine ih (grounded.startOf target) ?_
        fun location later => passable location (List.mem_cons_of_mem _ later)
      intro other listed
      rcases List.mem_append.mp listed with inside | behind
      · exact isPart_of_mem_trail inside
      · exact parts other (List.mem_cons_of_mem _ behind)

/-- To a location on the ground its names lead from the root, and without links. -/
theorem Grounded.leads (grounded : files.Grounded place) :
    ∃ way, files.Leads [] place way place ∧ (∀ location ∈ way, files.Passable location) ∧
      files.linksOn way = 0 := by
  induction grounded with
  | root => exact ⟨[], .here [], by simp, rfl⟩
  | @into place name upper part named short stands ih =>
      obtain ⟨way, leads, passable, counted⟩ := ih
      have plain : files.linkAt? (place ++ [name]) = none := linkAt?_of_directory stands
      refine ⟨way ++ [place ++ [name]], leads.append (.into named plain (.here _)), ?_, ?_⟩
      · intro location passed
        rcases List.mem_append.mp passed with above | last
        · exact passable location above
        · rw [List.mem_singleton.mp last]
          exact ⟨.inl stands, by simpa using short⟩
      · have last : files.linksOn [place ++ [name]] = 0 := by simp [linksOn, plain]
        unfold linksOn at counted last ⊢
        rw [List.countP_append, counted, last]

theorem Grounded.isPart (grounded : files.Grounded place) : ∀ name ∈ place, Path.IsPart name := by
  induction grounded with
  | root => simp
  | into upper part _ _ _ ih =>
      intro name listed
      rcases List.mem_append.mp listed with above | last
      · exact ih name above
      · rw [List.mem_singleton.mp last]
        exact part

/-- The path of a location that a link holds leads through its names. -/
theorem trail_text {location : Location} (below : location ≠ [])
    (parts : ∀ name ∈ location, Path.IsPart name) :
    trail (Path.ofLocation location).text = location := by
  have text : (Path.ofLocation location).text = '/' :: Text.join ['/'] location := by
    unfold Path.ofLocation Path.text
    rw [if_neg (by simp)]
    rfl
  have cut : Text.splitAll '/' ('/' :: Text.join ['/'] location) = [] :: location := by
    rw [Text.splitAll, if_pos rfl,
      Text.splitAll_join below fun name listed => (parts name listed).whole]
  have kept : (([] : Text) :: location).filter (fun name => !name.isEmpty) = location := by
    rw [List.filter_cons_of_neg (by simp), List.filter_eq_self]
    intro name listed
    simpa using (parts name listed).some_
  have open_ : ('/' :: Text.join ['/'] location).getLast? ≠ some '/' := by
    obtain ⟨upper, last, rfl⟩ := (List.eq_nil_or_concat location).resolve_left below
    have part := parts last (by simp)
    have ends : (Text.join ['/'] (upper.concat last)).getLast? = last.getLast? :=
      Text.getLast?_join (by simp) part.some_
    obtain ⟨c, lastly⟩ := Option.isSome_iff_exists.mp (List.getLast?_isSome.mpr part.some_)
    rw [List.getLast?_cons, ends, lastly]
    intro same
    cases same
    exact part.whole (List.mem_of_getLast? lastly)
  unfold trail
  rw [text, cut, kept, if_neg open_, List.append_nil]

end Files

end Tailor
