import Tailor.Config.Load
import Tailor.Proofs.Text.Utf8

/-! # Configurations that only list documents

A configuration that gives its documents a source and a target and nothing else, each a
text that stands for itself, is valid: its documents get the usual treatment, and their
paths start at the root of the configuration (`Tailor.Config.build_listing`).
-/

namespace Tailor

namespace Expression

/-- In a text without dollar signs and backslashes every character stands for itself. -/
theorem tokens_plain (commands : Bool) {text : Text} (noDollar : '$' ∉ text)
    (noBackslash : '\\' ∉ text) : tokens commands text = text.map .literal := by
  induction text with
  | nil => rw [tokens, List.map_nil]
  | cons c text ih =>
      have here : firstToken commands c text = (.literal c, text) := by
        unfold firstToken
        split <;> simp_all
      have others := ih (fun inside => noDollar (List.mem_cons_of_mem _ inside))
        fun inside => noBackslash (List.mem_cons_of_mem _ inside)
      rw [tokens, here, List.map_cons, others]

theorem mapM_variableOnly_literal (lookup : Text → Option Text) (text : Text) :
    (text.map Token.literal).mapM (Token.variableOnly lookup) = .ok (text.map fun c => [c]) := by
  induction text with
  | nil => rfl
  | cons c text ih =>
      rw [List.map_cons, List.mapM_cons, ih]
      rfl

/-- A text without dollar signs and backslashes is its own expansion. -/
theorem expandVariables_plain (lookup : Text → Option Text) {text : Text}
    (noDollar : '$' ∉ text) (noBackslash : '\\' ∉ text) :
    expandVariables lookup text = .ok text := by
  have whole : (text.map fun c => [c]).flatten = text := by
    rw [← List.flatMap_def, List.flatMap_singleton']
  unfold expandVariables
  rw [tokens_plain false noDollar noBackslash, mapM_variableOnly_literal]
  exact congrArg Except.ok whole

end Expression

namespace Config

/-- A text that stands for itself as a path. -/
structure Literal (text : Text) : Prop where
  some_ : text ≠ []
  noDollar : '$' ∉ text
  noBackslash : '\\' ∉ text
  noAccount : (Path.ofText text).account? = none

/-- The fields of a document with its source and its target. -/
def bareFields (paths : Text × Text) : List (Scalar × Data) :=
  [(.text "source".toList, .scalar (.text paths.1)),
    (.text "target".toList, .scalar (.text paths.2))]

theorem get?_bareFields_source (paths : Text × Text) :
    Data.get? (bareFields paths) "source".toList = some (.scalar (.text paths.1)) := rfl

theorem get?_bareFields_target (paths : Text × Text) :
    Data.get? (bareFields paths) "target".toList = some (.scalar (.text paths.2)) := rfl

/-- The data of a configuration that lists documents. -/
def listing (entries : List (Text × Text)) : List (Scalar × Data) :=
  [(.text "config".toList, .list (entries.map fun paths => .map (bareFields paths)))]

/-- The usual treatment: neither directives nor escapes. -/
def usual : Treatment := ⟨none, none, true⟩

/-- The document of a source and a target below a root. -/
def bareDocument (root : Path) (paths : Text × Text) : DocumentConfig :=
  ⟨root.under (.ofText paths.1), root.under (.ofText paths.2), usual⟩

variable (around : Surroundings)

theorem checkPath_literal {text : Text} (literal : Literal text) (place : Text) :
    checkPath around (some (.scalar (.text text))) place =
      .ok (clean (some (around.root.under (.ofText text)))) := by
  obtain ⟨some_, noDollar, noBackslash, noAccount⟩ := literal
  have home : (Path.ofText text).expandHome? around.homes = some (.ofText text) := by
    unfold Path.account? at noAccount
    unfold Path.expandHome?
    split at noAccount
    · cases noAccount
    · rfl
  obtain ⟨c, text, rfl⟩ := List.exists_cons_of_ne_nil some_
  unfold checkPath
  dsimp only
  rw [Expression.expandVariables_plain around.lookup noDollar noBackslash]
  dsimp only
  rw [noAccount, home]
  rfl

theorem checkEntry_bare {paths : Text × Text} (source : Literal paths.1)
    (target : Literal paths.2) (place : Text) :
    checkEntry around usual place (.map (bareFields paths)) =
      .ok (clean (some (bareDocument around.root paths))) := by
  unfold checkEntry
  dsimp only
  rw [get?_bareFields_source, get?_bareFields_target, checkPath_literal around source,
    checkPath_literal around target]
  rfl

theorem checkEntries_bare {entries : List (Text × Text)}
    (literal : ∀ paths ∈ entries, Literal paths.1 ∧ Literal paths.2) (index : Nat) :
    checkEntries around usual index (entries.map fun paths => .map (bareFields paths)) =
      .ok (clean (entries.map (bareDocument around.root))) := by
  induction entries generalizing index with
  | nil => rfl
  | cons paths entries ih =>
      obtain ⟨source, target⟩ := literal paths (List.mem_cons_self ..)
      rw [List.map_cons, checkEntries, checkEntry_bare around source target,
        ih (fun other listed => literal other (List.mem_cons_of_mem _ listed))]
      rfl

/-- The check of a configuration that lists documents is that of its entries. -/
theorem check_listing (entries : List (Text × Text)) :
    check around (listing entries) = (do
      let documents ← checkEntries around usual 0
        (entries.map fun paths => .map (bareFields paths))
      pure ⟨⟨documents.value, ⟨[], false⟩, usual⟩, documents.problems⟩) := rfl

/-- **Configurations that only list documents.** They are valid, and each document gets
the usual treatment. -/
theorem build_listing {entries : List (Text × Text)}
    (literal : ∀ paths ∈ entries, Literal paths.1 ∧ Literal paths.2) :
    build around (listing entries) =
      .ok ⟨entries.map (bareDocument around.root), ⟨[], false⟩, usual⟩ := by
  unfold build
  rw [check_listing, checkEntries_bare around literal]
  rfl

/-- A file that lists documents is a configuration. -/
theorem load_listing {yaml : YamlReader} {lookup : Text → Option Text} {homes : Path.Homes}
    {files : Files} {path place : Path} {entries : List (Text × Text)} {text : Text}
    (reads : files.read path = .ok (Utf8.encode text)) (toml : path.hasEnding tomlEnding = true)
    (written : Toml.read text = .ok (listing entries))
    (resolves : files.resolve path = .ok place)
    (literal : ∀ paths ∈ entries, Literal paths.1 ∧ Literal paths.2) :
    load yaml lookup homes files path =
      .ok ⟨entries.map (bareDocument place.parent), ⟨[], false⟩, usual⟩ := by
  have data : fileData yaml files path = .ok (.map (listing entries)) := by
    unfold fileData tomlData
    rw [reads]
    show (if path.hasEnding tomlEnding = true then _ else _) = _
    rw [if_pos toml, Utf8.decode_encode]
    dsimp only
    rw [written]
    rfl
  unfold load
  rw [data, resolves]
  exact build_listing ⟨lookup, homes, place.parent⟩ literal

end Config

end Tailor
