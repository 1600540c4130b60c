import Tailor.Data.Basic
import Tailor.Yaml.Kind
import Tailor.Yaml.Node

/-! # YAML: data of nodes

A node becomes data of its kind. A mapping first takes the entries of the mappings that it merges,
so that its own entries come after and win. A collection that contains itself is repeated a few
times: its data would have no end.
-/

namespace Tailor.Yaml

/-- The collections around a node that have an anchor. -/
abbrev Surrounding := List (Text × Node)

/-- How often a collection is repeated inside itself. Configurations are never looked into more
deeply. -/
def repeatLimit : Nat := 4

namespace Node

/-- The kind of a node, if its tag names one. -/
def kind? : Node → Option Kind
  | .scalar none plain text => some (if plain then Kind.ofPlain text else .text)
  | .list none _ _ => some .list
  | .map none _ _ => some .map
  | .scalar (some tag) _ _ | .list (some tag) _ _ | .map (some tag) _ _ => Kind.ofTag? tag
  | .enclosing _ => none

def tagText : Node → Text
  | .scalar tag? _ text => tag?.getD text
  | .list tag? _ _ | .map tag? _ _ => tag?.getD []
  | .enclosing name => name

def around (surrounding : Surrounding) (anchor? : Option Text) (node : Node) : Surrounding :=
  match anchor? with
  | some name => (name, node) :: surrounding
  | none => surrounding

/-- A key that merges other mappings into its own. -/
def isMerge (key : Node) : Bool := key.kind? == some .merge

def key : Node → Except Fault Scalar
  | node@(.scalar tag? _ text) =>
      match node.kind? with
      | some .main => .ok (.text text)
      | some kind => kind.scalar text
      | none => .error (.flaw (.unreadableTag (tag?.getD [])))
  | _ => .error (.flaw .compoundKey)

mutual

def data (repeats : Nat) (surrounding : Surrounding) (node : Node) : Except Fault Data :=
  match node with
  | .scalar _ _ text =>
      match node.kind? with
      | some kind => (kind.scalar text).map .scalar
      | none => .error (.flaw (.unreadableTag node.tagText))
  | .list _ anchor? items => do
      let inside := around surrounding anchor? node
      match node.kind? with
      | some .list => pure (.list (← itemData repeats inside items))
      | some .entries => pure (.list (← pairData repeats inside items))
      | _ => throw (.flaw (.unreadableTag node.tagText))
  | .map _ anchor? entries => do
      let inside := around surrounding anchor? node
      let (merged, own) ← mapData repeats inside entries
      let all := Data.ofEntries (merged ++ own)
      match node.kind? with
      | some .map => pure (.map all)
      | some .set => pure (.set (all.map (·.1)))
      | _ => throw (.flaw (.unreadableTag node.tagText))
  | .enclosing name =>
      match repeats, surrounding.lookup name with
      | repeats + 1, some around => data repeats surrounding around
      | _, _ => .ok .null
termination_by (repeats, sizeOf node)

/-- The data of the items of a list. -/
def itemData (repeats : Nat) (surrounding : Surrounding) :
    List Node → Except Fault (List Data)
  | [] => .ok []
  | item :: others => do
      let first ← data repeats surrounding item
      pure (first :: (← itemData repeats surrounding others))
termination_by items => (repeats, sizeOf items)

/-- The data of a list of entries: each item is a mapping of one entry, which becomes a pair. -/
def pairData (repeats : Nat) (surrounding : Surrounding) :
    List Node → Except Fault (List Data)
  | [] => .ok []
  | .map _ _ [(key, value)] :: others => do
      let first ← data repeats surrounding key
      let second ← data repeats surrounding value
      pure (.list [first, second] :: (← pairData repeats surrounding others))
  | item :: _ => .error (.flaw (.unreadableTag item.tagText))
termination_by items => (repeats, sizeOf items)

/-- The entries that a mapping takes from others, and its own. -/
def mapData (repeats : Nat) (surrounding : Surrounding) :
    List (Node × Node) → Except Fault (List (Scalar × Data) × List (Scalar × Data))
  | [] => .ok ([], [])
  | (key, value) :: others => do
      if key.isMerge then
        let taken ← mergeData repeats surrounding value
        let (merged, own) ← mapData repeats surrounding others
        pure (taken ++ merged, own)
      else
        let key ← key.key
        let value ← data repeats surrounding value
        let (merged, own) ← mapData repeats surrounding others
        pure (merged, (key, value) :: own)
termination_by entries => (repeats, sizeOf entries)

/-- The entries of a mapping that is merged, or of the mappings in a list. -/
def mergeData (repeats : Nat) (surrounding : Surrounding) (node : Node) :
    Except Fault (List (Scalar × Data)) :=
  match node with
  | .map _ anchor? entries => do
      let (merged, own) ← mapData repeats (around surrounding anchor? node) entries
      pure (merged ++ own)
  | .list _ anchor? items => mergeItems repeats (around surrounding anchor? node) items
  | .enclosing name =>
      match repeats, surrounding.lookup name with
      | repeats + 1, some around => mergeData repeats surrounding around
      | _, _ => .ok []
  | .scalar _ _ _ => .error (.flaw .badMerge)
termination_by (repeats, sizeOf node)

/-- The entries of the mappings in a list, the last mapping first, so that the first one wins. -/
def mergeItems (repeats : Nat) (surrounding : Surrounding) :
    List Node → Except Fault (List (Scalar × Data))
  | [] => .ok []
  | .map tag? anchor? entries :: others => do
      let around := around surrounding anchor? (.map tag? anchor? entries)
      let (merged, own) ← mapData repeats around entries
      pure ((← mergeItems repeats surrounding others) ++ merged ++ own)
  | _ :: _ => .error (.flaw .badMerge)
termination_by items => (repeats, sizeOf items)

end

end Node

/-- The data that a text writes; an empty text writes no value. -/
def read (text : Text) : Except Fault Data := do
  match ← Node.read? text with
  | some root => root.data repeatLimit []
  | none => pure .null

end Tailor.Yaml
