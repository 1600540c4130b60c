import Tailor.Yaml.Token

/-! # YAML: nodes

The tokens of a document form a tree of nodes. Aliases are replaced by the nodes they name; only an
alias inside the very collection that it names stays, since that tree would have no end.
-/

namespace Tailor.Yaml

/-- A part of a document. Without tag, a node's kind follows from its form, and that of a plain
scalar from its text. -/
inductive Node where
  | scalar (tag? : Option Text) (plain : Bool) (text : Text)
  | list (tag? : Option Text) (anchor? : Option Text) (items : List Node)
  | map (tag? : Option Text) (anchor? : Option Text) (entries : List (Node × Node))
  /-- The collection around this place that has the anchor. -/
  | enclosing (anchor : Text)
deriving Inhabited

/-- A scalar that is not written. -/
def Node.blank : Node := .scalar none true []

def standardHandles : List (Text × Text) :=
  [(['!'], ['!']), (['!', '!'], "tag:yaml.org,2002:".toList)]

/-- The state of reading nodes. -/
structure Forest where
  tokens : List Token
  /-- The fault that cut the tokens short, if one did. -/
  cut : Option Fault
  /-- The nodes with an anchor; those that are not complete are named only. -/
  anchors : List (Text × Option Node)
  handles : List (Text × Text)

abbrev NodeM := StateT Forest (Except Fault)

namespace Forest

def flawed {α : Type} (flaw : Flaw) : NodeM α := throw (.flaw flaw)

/-- The next token, if there is one. -/
def peek? : NodeM (Option Token) := do
  let forest ← get
  match forest.tokens, forest.cut with
  | token :: _, _ => pure (some token)
  | [], some fault => throw fault
  | [], none => pure none

def advance : NodeM Unit := modify fun forest => { forest with tokens := forest.tokens.tail }

/-- Goes past the next token if it is the given one. -/
def accept (token : Token) : NodeM Bool := do
  if (← peek?) = some token then
    advance
    pure true
  else pure false

/-- Goes past the next token, which must be the given one. -/
def expect (token : Token) : NodeM Unit := do
  if !(← accept token) then flawed .misfit

/-- The next token is one of those given. -/
def stands (tokens : List Token) : NodeM Bool := do
  match ← peek? with
  | some token => pure (tokens.contains token)
  | none => pure false

def anchor? : NodeM (Option Text) := do
  match ← peek? with
  | some (.anchor name) =>
      advance
      pure (some name)
  | _ => pure none

def tag? : NodeM (Option Text) := do
  match ← peek? with
  | some (.tag none suffix) =>
      advance
      pure (some suffix)
  | some (.tag (some handle) suffix) =>
      advance
      match (← get).handles.lookup handle with
      | some stem => pure (some (stem ++ suffix))
      | none => flawed (.unknownHandle handle)
  | _ => pure none

/-- The anchor and the tag before a node, in either order. -/
def properties : NodeM (Option Text × Option Text) := do
  match ← anchor? with
  | some name => pure (some name, ← tag?)
  | none =>
      let tag ← tag?
      pure (← anchor?, tag)

def bind (anchor : Option Text) (node : Option Node) : NodeM Unit :=
  match anchor with
  | some name => modify fun forest => { forest with anchors := (name, node) :: forest.anchors }
  | none => pure ()

def named (name : Text) : NodeM Node := do
  match (← get).anchors.lookup name with
  | some (some node) => pure node
  | some none => pure (.enclosing name)
  | none => flawed (.unknownAlias name)

/-- The tag that says nothing: the kind of a node follows from its form, or from its text. -/
def silentTag : Text := ['!']

/-- Where a node stands: block collections, and lists that are not indented, are not allowed
everywhere. -/
structure Context where
  block : Bool
  unindented : Bool

mutual

def node (context : Context) : (steps : Nat) → NodeM Node
  | 0 => flawed .misfit
  | steps + 1 => do
      match ← peek? with
      | some (.alias name) =>
          advance
          named name
      | _ =>
          let (anchor?, tag?) ← properties
          if let some name := anchor? then
            if ((← get).anchors.lookup name).isSome then flawed (.repeatedAnchor name)
          bind anchor? none
          let built ← content context anchor? (tag?.filter (· ≠ silentTag)) tag?.isSome steps
          bind anchor? (some built)
          pure built

/-- The content of a node. It may be left out after an anchor or a tag. -/
def content (context : Context) (anchor? tag? : Option Text) (isTagged : Bool) :
    (steps : Nat) → NodeM Node
  | 0 => flawed .misfit
  | steps + 1 => do
      match ← peek? with
      | some .entry =>
          if context.unindented then pure (.list tag? anchor? (← unindentedItems steps))
          else absent
      | some (.scalar text plain) =>
          advance
          pure (.scalar tag? (plain || isTagged) text)
      | some .flowList =>
          advance
          pure (.list tag? anchor? (← flowItems true steps))
      | some .flowMap =>
          advance
          pure (.map tag? anchor? (← flowEntries true steps))
      | some .blockList =>
          if context.block then
            advance
            pure (.list tag? anchor? (← blockItems steps))
          else absent
      | some .blockMap =>
          if context.block then
            advance
            pure (.map tag? anchor? (← blockEntries steps))
          else absent
      | _ => absent
where
  absent : NodeM Node :=
    if anchor?.isSome || isTagged then pure (.scalar tag? true []) else flawed .misfit

/-- A node, or a scalar that is not written if one of some tokens stands here. -/
def nodeUnless (tokens : List Token) (context : Context) : (steps : Nat) → NodeM Node
  | 0 => flawed .misfit
  | steps + 1 => do
      if ← stands tokens then pure .blank else node context steps

/-- The value of an entry, if a colon stands here. -/
def valueUnless (tokens : List Token) (context : Context) : (steps : Nat) → NodeM Node
  | 0 => flawed .misfit
  | steps + 1 => do
      if ← accept .value then nodeUnless tokens context steps else pure .blank

def blockItems : (steps : Nat) → NodeM (List Node)
  | 0 => flawed .misfit
  | steps + 1 => do
      if ← accept .entry then
        let item ← nodeUnless [.entry, .blockEnd] ⟨true, false⟩ steps
        pure (item :: (← blockItems steps))
      else
        expect .blockEnd
        pure []

/-- The items of a list whose dashes stand under the key before it; nothing closes it. -/
def unindentedItems : (steps : Nat) → NodeM (List Node)
  | 0 => flawed .misfit
  | steps + 1 => do
      if ← accept .entry then
        let item ← nodeUnless [.entry, .key, .value, .blockEnd] ⟨true, false⟩ steps
        pure (item :: (← unindentedItems steps))
      else pure []

def blockEntries : (steps : Nat) → NodeM (List (Node × Node))
  | 0 => flawed .misfit
  | steps + 1 => do
      if ← accept .key then
        let ends := [Token.key, .value, .blockEnd]
        let key ← nodeUnless ends ⟨true, true⟩ steps
        let value ← valueUnless ends ⟨true, true⟩ steps
        pure ((key, value) :: (← blockEntries steps))
      else
        expect .blockEnd
        pure []

/-- The items of a flow list. An entry of a mapping may stand among them without braces. -/
def flowItems (first : Bool) : (steps : Nat) → NodeM (List Node)
  | 0 => flawed .misfit
  | steps + 1 => do
      if ← accept .flowListEnd then pure []
      else
        if !first then expect .comma
        if ← accept .key then
          let key ← nodeUnless [.value, .comma, .flowListEnd] ⟨false, false⟩ steps
          let value ← valueUnless [.comma, .flowListEnd] ⟨false, false⟩ steps
          pure (.map none none [(key, value)] :: (← flowItems false steps))
        else if ← accept .flowListEnd then pure []
        else
          let item ← node ⟨false, false⟩ steps
          pure (item :: (← flowItems false steps))

/-- The entries of a flow mapping. A key may stand alone. -/
def flowEntries (first : Bool) : (steps : Nat) → NodeM (List (Node × Node))
  | 0 => flawed .misfit
  | steps + 1 => do
      if ← accept .flowMapEnd then pure []
      else
        if !first then expect .comma
        if ← accept .key then
          let key ← nodeUnless [.value, .comma, .flowMapEnd] ⟨false, false⟩ steps
          let value ← valueUnless [.comma, .flowMapEnd] ⟨false, false⟩ steps
          pure ((key, value) :: (← flowEntries false steps))
        else if ← accept .flowMapEnd then pure []
        else
          let key ← node ⟨false, false⟩ steps
          pure ((key, .blank) :: (← flowEntries false steps))

end

def directives (versioned : Bool) (handles : List (Text × Text)) :
    (steps : Nat) → NodeM (List (Text × Text))
  | 0 => flawed .misfit
  | steps + 1 => do
      match ← peek? with
      | some (.directive (.version major)) =>
          advance
          if versioned then flawed .repeatedVersion
          if major ≠ 1 then flawed (.unknownVersion major)
          directives true handles steps
      | some (.directive (.handle handle stem)) =>
          advance
          if (handles.lookup handle).isSome then flawed (.repeatedHandle handle)
          directives versioned ((handle, stem) :: handles) steps
      | some (.directive .other) =>
          advance
          directives versioned handles steps
      | _ => pure handles

/-- The root of the only document; there may be none. -/
def root? (steps : Nat) : NodeM (Option Node) := do
  match ← peek? with
  | none => pure none
  | some (.directive _) | some .documentStart =>
      let declared ← directives false [] steps
      modify fun forest => { forest with handles := declared ++ standardHandles }
      expect .documentStart
      match ← peek? with
      | none | some (.directive _) | some .documentStart | some .documentEnd => pure (some .blank)
      | _ => pure (some (← node ⟨true, false⟩ steps))
  | _ => pure (some (← node ⟨true, false⟩ steps))

/-- Nothing but ends of documents may follow the root. -/
def nothingMore : (steps : Nat) → NodeM Unit
  | 0 => pure ()
  | steps + 1 => do
      if ← accept .documentEnd then nothingMore steps
      else if (← peek?).isSome then flawed .severalDocuments

end Forest

/-- The root of the document that a text writes. Between two tokens that are read stand at most four
steps, so the number of tokens bounds them. -/
def Node.read? (text : Text) : Except Fault (Option Node) := do
  let (tokens, cut) := tokens text
  let steps := 4 * tokens.length + 4
  let read : NodeM (Option Node) := do
    let root ← Forest.root? steps
    Forest.nothingMore (tokens.length + 1)
    pure root
  read.run' { tokens, cut, anchors := [], handles := standardHandles }

end Tailor.Yaml
