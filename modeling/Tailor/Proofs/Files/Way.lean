import Mathlib.Data.List.Perm.Subperm
import Tailor.Files.Walk

/-! # Ways through a tree

Names lead from a location to a goal along a way of locations, with every link
followed (`Tailor.Files.Leads`). Names lead to one goal only. A walk of the file
system that is not refused went such a way and met nothing but directories and
links on it (`Tailor.Files.exists_leads_of_walk`), and a path that leads somewhere
is settled there (`Tailor.Files.settle_eq_of_leads`): a link that is met again
while it is followed cannot lie on a way.
-/

namespace Tailor.Files

/-- The path that the link at a location holds, if there is one. -/
def linkAt? (files : Files) (location : Location) : Option Text :=
  match files.get? location with
  | some (.link target) => some target
  | _ => none

theorem linkAt?_eq_some {files : Files} {location : Location} {target : Text} :
    files.linkAt? location = some target ↔ files.get? location = some (.link target) := by
  unfold linkAt?
  constructor
  · intro held
    split at held
    · rename_i found stands
      cases held
      exact stands
    · cases held
  · intro stands
    rw [stands]

theorem linkAt?_of_get? {files other : Files} {location : Location}
    (same : files.get? location = other.get? location) :
    files.linkAt? location = other.linkAt? location := by
  unfold linkAt?
  rw [same]

theorem linkAt?_of_vacant {files : Files} {location : Location}
    (vacant : files.get? location = none) : files.linkAt? location = none := by
  unfold linkAt?
  rw [vacant]

theorem linkAt?_of_directory {files : Files} {location : Location}
    (stands : files.get? location = some .directory) : files.linkAt? location = none := by
  unfold linkAt?
  rw [stands]

theorem linkAt?_of_file {files : Files} {location : Location} {content : Bytes}
    (stands : files.get? location = some (.file content)) : files.linkAt? location = none := by
  unfold linkAt?
  rw [stands]

/-- Dots are no names of entries. -/
def IsName (name : Text) : Prop := name ≠ ['.'] ∧ name ≠ ['.', '.']

/-- Names lead from a location along a way to a goal. What is no link is passed
whether it is there or not; the way lists what is passed, links included. -/
inductive Leads (files : Files) :
    Location → List Text → List Location → Location → Prop where
  | here (place : Location) : Leads files place [] [] place
  | dot {place goal : Location} {names : List Text} {way : List Location}
      (rest : Leads files place names way goal) : Leads files place (['.'] :: names) way goal
  | up {place goal : Location} {names : List Text} {way : List Location}
      (rest : Leads files place.dropLast names way goal) :
      Leads files place (['.', '.'] :: names) way goal
  | into {place goal : Location} {name : Text} {names : List Text} {way : List Location}
      (named : IsName name) (plain : files.linkAt? (place ++ [name]) = none)
      (rest : Leads files (place ++ [name]) names way goal) :
      Leads files place (name :: names) ((place ++ [name]) :: way) goal
  | along {place goal : Location} {name target : Text} {names : List Text}
      {way : List Location} (named : IsName name)
      (link : files.linkAt? (place ++ [name]) = some target)
      (rest : Leads files (startOf target place) (trail target ++ names) way goal) :
      Leads files place (name :: names) ((place ++ [name]) :: way) goal

variable {files : Files} {place goal : Location} {names : List Text} {way : List Location}

namespace Leads

/-- Names lead one way only. -/
theorem deterministic {otherWay : List Location} {otherGoal : Location}
    (leads : files.Leads place names way goal)
    (other : files.Leads place names otherWay otherGoal) :
    way = otherWay ∧ goal = otherGoal := by
  induction leads generalizing otherWay otherGoal with
  | here place =>
      cases other
      exact ⟨rfl, rfl⟩
  | dot _ ih =>
      cases other with
      | dot rest => exact ih rest
      | into named => exact absurd rfl named.1
      | along named => exact absurd rfl named.1
  | up _ ih =>
      cases other with
      | up rest => exact ih rest
      | into named => exact absurd rfl named.2
      | along named => exact absurd rfl named.2
  | into named plain _ ih =>
      cases other with
      | dot => exact absurd rfl named.1
      | up => exact absurd rfl named.2
      | into _ _ rest =>
          obtain ⟨rfl, rfl⟩ := ih rest
          exact ⟨rfl, rfl⟩
      | along _ link =>
          rw [plain] at link
          cases link
  | along named link _ ih =>
      cases other with
      | dot => exact absurd rfl named.1
      | up => exact absurd rfl named.2
      | into _ plain =>
          rw [plain] at link
          cases link
      | along _ otherLink rest =>
          rw [link] at otherLink
          cases otherLink
          obtain ⟨rfl, rfl⟩ := ih rest
          exact ⟨rfl, rfl⟩

theorem append {between : Location} {further : List Text} {furtherWay : List Location}
    (leads : files.Leads place names way between)
    (more : files.Leads between further furtherWay goal) :
    files.Leads place (names ++ further) (way ++ furtherWay) goal := by
  induction leads with
  | here place => exact more
  | dot _ ih => exact .dot (ih more)
  | up _ ih => exact .up (ih more)
  | into named plain _ ih => exact .into named plain (ih more)
  | @along place _ name target names way named link _ ih =>
      have rest : files.Leads (startOf target place) (trail target ++ (names ++ further))
          (way ++ furtherWay) goal := by
        rw [← List.append_assoc]
        exact ih more
      exact .along named link rest

/-- A way along names can be cut between any two of them. -/
theorem split {further : List Text} (leads : files.Leads place (names ++ further) way goal) :
    ∃ between first second, files.Leads place names first between ∧
      files.Leads between further second goal ∧ way = first ++ second := by
  generalize whole : names ++ further = all at leads
  induction leads generalizing names with
  | here place =>
      obtain ⟨rfl, rfl⟩ := List.append_eq_nil_iff.mp whole
      exact ⟨place, [], [], .here place, .here place, rfl⟩
  | @dot place goal rest way leads ih =>
      rcases List.append_eq_cons_iff.mp whole with ⟨rfl, rfl⟩ | ⟨tail, rfl, same⟩
      · exact ⟨place, [], way, .here place, .dot leads, rfl⟩
      · obtain ⟨between, first, second, begun, ended, rfl⟩ := ih same.symm
        exact ⟨between, first, second, .dot begun, ended, rfl⟩
  | @up place goal rest way leads ih =>
      rcases List.append_eq_cons_iff.mp whole with ⟨rfl, rfl⟩ | ⟨tail, rfl, same⟩
      · exact ⟨place, [], way, .here place, .up leads, rfl⟩
      · obtain ⟨between, first, second, begun, ended, rfl⟩ := ih same.symm
        exact ⟨between, first, second, .up begun, ended, rfl⟩
  | @into place goal name rest way named plain leads ih =>
      rcases List.append_eq_cons_iff.mp whole with ⟨rfl, rfl⟩ | ⟨tail, rfl, same⟩
      · exact ⟨place, [], _, .here place, .into named plain leads, rfl⟩
      · obtain ⟨between, first, second, begun, ended, rfl⟩ := ih same.symm
        exact ⟨between, _, second, .into named plain begun, ended, rfl⟩
  | @along place goal name target rest way named link leads ih =>
      rcases List.append_eq_cons_iff.mp whole with ⟨rfl, rfl⟩ | ⟨tail, rfl, same⟩
      · exact ⟨place, [], _, .here place, .along named link leads, rfl⟩
      · have inner : (trail target ++ tail) ++ further = trail target ++ rest := by
          rw [List.append_assoc, same]
        obtain ⟨between, first, second, begun, ended, rfl⟩ := ih inner
        exact ⟨between, _, second, .along named link begun, ended, rfl⟩

/-- Where a link lies on a way, the names that it holds lead a shorter one. -/
theorem exists_shorter {link : Location} {target : Text}
    (leads : files.Leads place names way goal) (passed : link ∈ way)
    (held : files.linkAt? link = some target) :
    ∃ between inner, files.Leads (startOf target link.dropLast) (trail target) inner between ∧
      inner.length < way.length := by
  induction leads with
  | here => cases passed
  | dot _ ih => exact ih passed
  | up _ ih => exact ih passed
  | into _ plain _ ih =>
      rcases List.mem_cons.mp passed with rfl | later
      · rw [plain] at held
        cases held
      · obtain ⟨between, inner, leads, shorter⟩ := ih later
        exact ⟨between, inner, leads, Nat.lt_succ_of_lt shorter⟩
  | along _ found rest ih =>
      rcases List.mem_cons.mp passed with rfl | later
      · rw [found] at held
        cases held
        obtain ⟨between, first, second, begun, _, rfl⟩ := rest.split
        refine ⟨between, first, by simpa using begun, ?_⟩
        rw [List.length_cons, List.length_append]
        omega
      · obtain ⟨between, inner, leads, shorter⟩ := ih later
        exact ⟨between, inner, leads, Nat.lt_succ_of_lt shorter⟩

/-- A link does not lie on the way that it leads itself. -/
theorem not_mem_of_link {link between : Location} {target : Text} {inner : List Location}
    (leads : files.Leads (startOf target link.dropLast) (trail target) inner between)
    (held : files.linkAt? link = some target) : link ∉ inner := by
  intro passed
  obtain ⟨_, shortened, again, shorter⟩ := leads.exists_shorter passed held
  obtain ⟨rfl, _⟩ := leads.deterministic again
  exact absurd shorter (Nat.lt_irrefl _)

end Leads

/-! ## Walks -/

/-- A location that a walk gets past: a directory, or a link that holds something. -/
structure Passable (files : Files) (location : Location) : Prop where
  stands : files.get? location = some .directory ∨
    ∃ target, target ≠ [] ∧ files.get? location = some (.link target)
  short : ∀ name, location.getLast? = some name → sizeInBytes name ≤ nameLimit

/-- How many links a way follows. -/
def linksOn (files : Files) (way : List Location) : Nat :=
  way.countP fun location => (files.linkAt? location).isSome

/-- What the first step of a walk to something further on comes to. -/
theorem walk_cons_eq_ok {follow : Bool} {links : Nat} {name : Text} {rest : List Text}
    {spot : Place} (further : rest ≠ [])
    (walked : files.walk follow links place (name :: rest) = .ok spot) :
    (name = ['.'] ∧ files.walk follow links place rest = .ok spot) ∨
      (name = ['.', '.'] ∧ files.walk follow links place.dropLast rest = .ok spot) ∨
      (IsName name ∧ sizeInBytes name ≤ nameLimit ∧
        files.get? (place ++ [name]) = some .directory ∧
        files.walk follow links (place ++ [name]) rest = .ok spot) ∨
      ∃ fewer target, IsName name ∧ sizeInBytes name ≤ nameLimit ∧ links = fewer + 1 ∧
        target ≠ [] ∧ files.get? (place ++ [name]) = some (.link target) ∧
        files.walk follow fewer (startOf target place) (trail target ++ rest) = .ok spot := by
  have notLast : rest.isEmpty = false := by simpa using further
  rw [walk] at walked
  by_cases dot : name = ['.']
  · rw [if_pos dot] at walked
    exact .inl ⟨dot, walked⟩
  · rw [if_neg dot] at walked
    by_cases up : name = ['.', '.']
    · rw [if_pos up] at walked
      exact .inr (.inl ⟨up, walked⟩)
    · rw [if_neg up] at walked
      by_cases long : nameLimit < sizeInBytes name
      · rw [if_pos long] at walked
        cases walked
      · rw [if_neg long] at walked
        have short : sizeInBytes name ≤ nameLimit := Nat.le_of_not_lt long
        cases stands : files.get? (place ++ [name]) with
        | none => simp [stands, notLast] at walked
        | some entry =>
            cases entry with
            | file content => simp [stands, notLast] at walked
            | directory =>
                simp only [stands] at walked
                exact .inr (.inr (.inl ⟨⟨dot, up⟩, short, rfl, walked⟩))
            | link target =>
                simp only [stands, notLast, Bool.false_and, Bool.false_eq_true, if_false]
                  at walked
                cases links with
                | zero => cases walked
                | succ fewer =>
                    by_cases empty : target.isEmpty = true
                    · simp [empty] at walked
                    · have some_ : target ≠ [] := by simpa using empty
                      simp only [empty, Bool.false_eq_true, if_false] at walked
                      exact .inr (.inr (.inr
                        ⟨fewer, target, ⟨dot, up⟩, short, rfl, some_, rfl, walked⟩))

/-- Along passable locations a walk goes on from the goal, with as many links less
as the way follows. -/
theorem walk_of_leads {behind : List Text} (leads : files.Leads place names way goal)
    (passable : ∀ location ∈ way, files.Passable location) (further : behind ≠ [])
    {follow : Bool} {links : Nat} (enough : files.linksOn way ≤ links) :
    files.walk follow links place (names ++ behind) =
      files.walk follow (links - files.linksOn way) goal behind := by
  induction leads generalizing links with
  | here place => rfl
  | dot _ ih =>
      rw [List.cons_append, walk, if_pos rfl]
      exact ih passable enough
  | up _ ih =>
      rw [List.cons_append, walk, if_neg (by decide), if_pos rfl]
      exact ih passable enough
  | @into place goal name names way named plain rest ih =>
      obtain ⟨stands, short⟩ := passable _ (List.mem_cons_self ..)
      have directory : files.get? (place ++ [name]) = some .directory := by
        rcases stands with directory | ⟨target, _, link⟩
        · exact directory
        · rw [linkAt?_eq_some.mpr link] at plain
          cases plain
      have counted : files.linksOn ((place ++ [name]) :: way) = files.linksOn way := by
        simp [linksOn, plain]
      rw [counted] at enough ⊢
      rw [List.cons_append, walk, if_neg named.1, if_neg named.2,
        if_neg (Nat.not_lt.mpr (short name (by simp))), directory]
      exact ih (fun location later => passable location (List.mem_cons_of_mem _ later)) enough
  | @along place goal name target names way named link rest ih =>
      obtain ⟨stands, short⟩ := passable _ (List.mem_cons_self ..)
      have stands : files.get? (place ++ [name]) = some (.link target) := linkAt?_eq_some.mp link
      have held : target ≠ [] := by
        rcases (passable _ (List.mem_cons_self ..)).stands with directory | ⟨other, full, found⟩
        · rw [directory] at stands
          cases stands
        · rw [found] at stands
          cases stands
          exact full
      have counted : files.linksOn ((place ++ [name]) :: way) = files.linksOn way + 1 := by
        simp [linksOn, link]
      rw [counted] at enough ⊢
      obtain ⟨fewer, rfl⟩ : ∃ fewer, links = fewer + 1 := ⟨links - 1, by omega⟩
      have notLast : (names ++ behind).isEmpty = false := by simp [further]
      have full : target.isEmpty = false := by simpa using held
      rw [List.cons_append, walk, if_neg named.1, if_neg named.2,
        if_neg (Nat.not_lt.mpr (short name (by simp))), stands]
      simp only [notLast, Bool.false_and, Bool.false_eq_true, if_false, full]
      rw [Nat.add_sub_add_right, ← List.append_assoc]
      exact ih (fun location later => passable location (List.mem_cons_of_mem _ later))
        (by omega)

/-- A walk that is not refused followed a way of passable locations. -/
theorem exists_leads_of_walk {behind : List Text} (further : behind ≠ []) {follow : Bool}
    {links : Nat} {spot : Place}
    (walked : files.walk follow links place (names ++ behind) = .ok spot) :
    ∃ way goal, files.Leads place names way goal ∧
      (∀ location ∈ way, files.Passable location) ∧ files.linksOn way ≤ links := by
  induction links using Nat.strongRecOn generalizing place names with
  | ind links ihLinks =>
  induction names generalizing place with
  | nil => exact ⟨[], place, .here place, by simp, by simp [linksOn]⟩
  | cons name names ih =>
      have notLast : names ++ behind ≠ [] := by simp [further]
      rcases walk_cons_eq_ok notLast walked with ⟨rfl, rest⟩ | ⟨rfl, rest⟩ |
        ⟨named, short, directory, rest⟩ | ⟨fewer, target, named, short, rfl, full, link, rest⟩
      · obtain ⟨way, goal, leads, passable, counted⟩ := ih rest
        exact ⟨way, goal, .dot leads, passable, counted⟩
      · obtain ⟨way, goal, leads, passable, counted⟩ := ih rest
        exact ⟨way, goal, .up leads, passable, counted⟩
      · obtain ⟨way, goal, leads, passable, counted⟩ := ih rest
        have plain : files.linkAt? (place ++ [name]) = none := linkAt?_of_directory directory
        refine ⟨_, goal, .into named plain leads, ?_, by simpa [linksOn, plain] using counted⟩
        intro location passed
        rcases List.mem_cons.mp passed with rfl | later
        · exact ⟨.inl directory, by simpa using short⟩
        · exact passable location later
      · rw [← List.append_assoc] at rest
        obtain ⟨way, goal, leads, passable, counted⟩ := ihLinks fewer (Nat.lt_succ_self _) rest
        have held : files.linkAt? (place ++ [name]) = some target := linkAt?_eq_some.mpr link
        refine ⟨_, goal, .along named held leads, ?_, ?_⟩
        · intro location passed
          rcases List.mem_cons.mp passed with rfl | later
          · exact ⟨.inr ⟨target, full, link⟩, by simpa using short⟩
          · exact passable location later
        · have more : files.linksOn ((place ++ [name]) :: way) = files.linksOn way + 1 := by
            simp [linksOn, held]
          omega

/-! ## Settling -/

theorem mem_links_of_linkAt? {location : Location} {target : Text}
    (held : files.linkAt? location = some target) : location ∈ files.links := by
  have stands := linkAt?_eq_some.mp held
  unfold get? at stands
  split at stands
  · cases stands
  · obtain ⟨before, behind, split, _⟩ := List.lookup_eq_some_iff.mp stands
    refine List.mem_filterMap.mpr ⟨(location, .link target), ?_, rfl⟩
    rw [split]
    simp

/-- Where names lead somewhere they are settled there, unless their way passes a
link that is being followed already. -/
theorem settleFrom_of_leads {fuel : Nat} {following : List Location}
    (leads : files.Leads place names way goal)
    (fresh : ∀ location ∈ way, (files.linkAt? location).isSome → location ∉ following)
    (distinct : following.Nodup) (links : following ⊆ files.links)
    (enough : files.links.length < fuel + following.length) :
    files.settleFrom fuel following place names = (true, goal) := by
  induction length : way.length using Nat.strongRecOn
    generalizing place goal names way fuel following with
  | ind size ih =>
  have few : following.length ≤ files.links.length := distinct.length_le_of_subset links
  obtain ⟨fuel, rfl⟩ : ∃ less, fuel = less + 1 := ⟨fuel - 1, by omega⟩
  induction leads with
  | here place => rw [settleFrom]
  | dot _ ihNames =>
      rw [settleFrom, if_pos rfl]
      exact ihNames fresh length
  | up _ ihNames =>
      rw [settleFrom, if_neg (by decide), if_pos rfl]
      exact ihNames fresh length
  | @into place goal name names way named plain rest =>
      have settled := ih way.length (by rw [← length]; exact Nat.lt_succ_self _) rest
        (fun location later => fresh location (List.mem_cons_of_mem _ later)) distinct links
        enough rfl
      have noLink : ∀ target, files.get? (place ++ [name]) ≠ some (.link target) := by
        intro target link
        rw [linkAt?_eq_some.mpr link] at plain
        cases plain
      rw [settleFrom, if_neg named.1, if_neg named.2]
      cases stands : files.get? (place ++ [name]) with
      | none => simpa only [stands] using settled
      | some entry =>
          cases entry with
          | link target => exact absurd stands (noLink target)
          | file content | directory => simpa only [stands] using settled
  | @along place goal name target names way named link rest =>
      obtain ⟨between, first, second, begun, ended, rfl⟩ := rest.split
      rw [List.length_cons, List.length_append] at length
      have unseen : place ++ [name] ∉ following :=
        fresh _ (List.mem_cons_self ..) (by rw [link]; rfl)
      have distinctInside : ((place ++ [name]) :: following).Nodup :=
        List.nodup_cons.mpr ⟨unseen, distinct⟩
      have linksInside : (place ++ [name]) :: following ⊆ files.links :=
        List.cons_subset.mpr ⟨mem_links_of_linkAt? link, links⟩
      -- the link does not lie on the way that it leads, so it may be added to those followed
      have apart : place ++ [name] ∉ first :=
        Leads.not_mem_of_link (by simpa using begun) link
      have inside : files.settleFrom fuel ((place ++ [name]) :: following)
          (startOf target place) (trail target) = (true, between) := by
        refine ih first.length (by omega) begun ?_ distinctInside linksInside
          (by rw [List.length_cons]; omega) rfl
        intro location passed isLink listed
        rcases List.mem_cons.mp listed with rfl | earlier
        · exact apart passed
        · exact fresh location (List.mem_cons_of_mem _ (List.mem_append_left _ passed)) isLink
            earlier
      have behind : files.settleFrom (fuel + 1) following between names = (true, goal) := by
        refine ih second.length (by omega) ended ?_ distinct links enough rfl
        intro location passed
        exact fresh location (List.mem_cons_of_mem _ (List.mem_append_right _ passed))
      rw [settleFrom, if_neg named.1, if_neg named.2]
      simp only [linkAt?_eq_some.mp link, List.contains_iff_mem, unseen, if_false, inside, behind,
        if_true]

/-- A path that leads somewhere is settled there. -/
theorem settle_eq_of_leads {path : Path}
    (leads : files.Leads (files.base path) path.names way goal) : files.settle path = goal := by
  have settled : files.settleFrom (files.links.length + 1) [] (files.base path) path.names =
      (true, goal) :=
    settleFrom_of_leads leads (by simp) List.nodup_nil (List.nil_subset _)
      (Nat.lt_succ_self files.links.length)
  unfold settle
  rw [settled]

end Tailor.Files
