import Tailor.Proofs.Files.Effect

/-! # Links that show files

A file on the ground is found by the path of its location (`Tailor.Files.Filed`). A
path shows it if the path reaches a link with that path (`Tailor.Files.Shows`): the link
is a link, reading through it gives the content of the file, and both stay so as long as
nothing happens to them or on the way to the link. Nothing lies behind a file, so a way
that can be passed avoids it, and also the link.
-/

namespace Tailor.Files

/-- A file with a proper name in a directory on the ground. -/
inductive Filed (files : Files) (content : Bytes) : Location → Prop where
  | at {directory : Location} {name : Text} (upper : files.Grounded directory)
      (part : Path.IsPart name) (named : IsName name) (short : sizeInBytes name ≤ nameLimit)
      (stands : files.get? (directory ++ [name]) = some (.file content)) :
      Filed files content (directory ++ [name])

variable {files after : Files} {content : Bytes} {file : Location} {spots : List Location}

namespace Filed

theorem stands (filed : files.Filed content file) : files.get? file = some (.file content) := by
  cases filed
  assumption

theorem plain (filed : files.Filed content file) : files.linkAt? file = none :=
  linkAt?_of_file filed.stands

theorem within (filed : files.Filed content file) (kept : Within spots files after)
    (outside : file ∉ spots) : after.Filed content file := by
  cases filed with
  | «at» upper part named short stands =>
      exact .at (upper.within kept) part named short (kept.stays outside stands)

/-- The path of a file that a link holds leads to the file. -/
theorem trail_text (filed : files.Filed content file) :
    trail (Path.ofLocation file).text = file := by
  cases filed with
  | «at» upper part =>
      refine Files.trail_text (by simp) fun name listed => ?_
      rcases List.mem_append.mp listed with above | last
      · exact upper.isPart name above
      · rw [List.mem_singleton.mp last]
        exact part

theorem leads (filed : files.Filed content file) :
    ∃ way, files.Leads [] file way file ∧ file ∈ way := by
  have plain := filed.plain
  cases filed with
  | @«at» directory name upper _ named _ _ =>
      obtain ⟨way, leads, _, _⟩ := upper.leads
      exact ⟨way ++ [directory ++ [name]], leads.append (.into named plain (.here _)), by simp⟩

/-- A file's path is settled. -/
theorem settle_eq (filed : files.Filed content file) :
    files.settle (Path.ofLocation file) = file := by
  obtain ⟨way, leads, _⟩ := filed.leads
  exact settle_eq_of_leads leads

/-- Walking to a file follows no links. -/
theorem walk_eq (filed : files.Filed content file) (links : Nat) :
    files.walk true links [] file = .ok (.found file (.file content)) := by
  cases filed with
  | «at» upper _ named short stands =>
      obtain ⟨way, leads, passable, few⟩ := upper.leads
      rw [walk_of_leads leads passable (by simp) (by rw [few]; exact Nat.zero_le links), walk,
        if_neg named.1, if_neg named.2, if_neg (Nat.not_lt.mpr short), stands]
      rfl

end Filed

theorem head?_text_ofLocation (location : Location) :
    (Path.ofLocation location).text.head? = some '/' := by
  unfold Path.ofLocation Path.text
  rw [if_neg (by simp)]
  rfl

/-- On a way without files lies no link to a file. -/
theorem Leads.not_mem_of_shown {place goal link : Location} {names : List Text}
    {way : List Location} (leads : files.Leads place names way goal) (clear : files.Clear way)
    (filed : files.Filed content file)
    (held : files.linkAt? link = some (Path.ofLocation file).text) : link ∉ way := by
  induction leads with
  | here => exact List.not_mem_nil
  | dot _ ih => exact ih clear
  | up _ ih => exact ih clear
  | @into place _ name _ _ named plain _ ih =>
      intro passed
      rcases List.mem_cons.mp passed with rfl | later
      · rw [plain] at held
        cases held
      · exact ih (fun location listed => clear location (List.mem_cons_of_mem _ listed)) later
  | @along place _ name target names way named found rest ih =>
      have behind : files.Clear way :=
        fun location listed => clear location (List.mem_cons_of_mem _ listed)
      intro passed
      rcases List.mem_cons.mp passed with rfl | later
      · -- the way would go on to the file itself
        rw [found, Option.some.injEq] at held
        subst held
        obtain ⟨between, first, second, begun, _, rfl⟩ := rest.split
        obtain ⟨straight, leads, ends⟩ := filed.leads
        rw [filed.trail_text, startOf, if_pos (head?_text_ofLocation file)] at begun
        obtain ⟨rfl, _⟩ := leads.deterministic begun
        exact behind file (List.mem_append_left _ ends) content filed.stands
      · exact ih behind later

/-- A path reaches a link to a file, and the link can be followed. -/
structure Shows (files : Files) (path : Path) (way : List Location) (spot file : Location)
    (content : Bytes) : Prop where
  reaches : files.Reaches path way spot
  room : files.linksOn way < linkLimit
  whole : hasNull path = false
  link : files.get? spot = some (.link (Path.ofLocation file).text)
  filed : files.Filed content file

namespace Shows

variable {path : Path} {way : List Location} {spot : Location}

theorem isLink (shows_ : files.Shows path way spot file content) :
    files.isLink path = .ok true := by
  have placed : files.place false path = .ok (.found spot (.link (Path.ofLocation file).text)) :=
    place_eq_ok.mpr ⟨shows_.whole, shows_.reaches.locate_link shows_.link⟩
  unfold Files.isLink entryAt
  rw [placed]
  rfl

/-- Through the link the file is read. -/
theorem read (shows_ : files.Shows path way spot file content) :
    files.read path = .ok content := by
  obtain ⟨links, through⟩ := shows_.reaches.locate_through shows_.link (head?_text_ofLocation file)
    shows_.room
  have placed : files.place true path = .ok (.found file (.file content)) := by
    rw [place_eq_ok, through, shows_.filed.trail_text, shows_.filed.walk_eq]
    exact ⟨shows_.whole, rfl⟩
  unfold Files.read
  rw [placed]

/-- What is shown stays shown if nothing happens to the file, to the link or on the way. -/
theorem within (shows_ : files.Shows path way spot file content) (kept : Within spots files after)
    (outside : ∀ location ∈ spots, location ≠ file ∧ location ≠ spot ∧ location ∉ way) :
    after.Shows path way spot file content where
  reaches := shows_.reaches.within kept fun location passed inside =>
    (outside location inside).2.2 passed
  room := by
    rw [linksOn_congr fun location passed =>
      kept.linkAt? fun inside => (outside location inside).2.2 passed]
    exact shows_.room
  whole := shows_.whole
  link := kept.stays (fun inside => (outside spot inside).2.1 rfl) shows_.link
  filed := shows_.filed.within kept fun inside => (outside file inside).1 rfl

end Shows

end Tailor.Files
