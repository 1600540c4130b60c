import Tailor.Text.Quoted

/-! # Paths

A path is a row of names below an anchor: none, the root, or the root written with exactly two
slashes. Empty names and single dots are dropped when a path is read; double dots are kept, because
what stands before them may be a link.
-/

namespace Tailor

/-- Where a path starts. -/
inductive Anchor where
  | relative
  | root
  | doubleRoot
deriving Repr, DecidableEq

/-- An anchor and the names below it. -/
structure Path where
  anchor : Anchor
  names : List Text
deriving Repr, DecidableEq

namespace Path

def anchorOf : Text → Anchor
  | '/' :: '/' :: '/' :: _ => .root
  | '/' :: '/' :: _ => .doubleRoot
  | '/' :: _ => .root
  | _ => .relative

def namesOf (text : Text) : List Text :=
  (Text.splitAll '/' text).filter fun name => !name.isEmpty && name != ['.']

def ofText (text : Text) : Path := ⟨anchorOf text, namesOf text⟩

def anchorText : Anchor → Text
  | .relative => []
  | .root => ['/']
  | .doubleRoot => ['/', '/']

/-- The text of a path; one without anchor and names is a single dot. -/
def text (path : Path) : Text :=
  if path.anchor = .relative ∧ path.names = [] then ['.']
  else anchorText path.anchor ++ Text.join ['/'] path.names

def isAbsolute (path : Path) : Bool := path.anchor != .relative

def under (directory path : Path) : Path :=
  if path.isAbsolute then path else ⟨directory.anchor, directory.names ++ path.names⟩

def name? (path : Path) : Option Text := path.names.getLast?

/-- The path without its last name; one without names stays as it is. -/
def parent (path : Path) : Path := ⟨path.anchor, path.names.dropLast⟩

/-- The path with something appended to its last name, if it has one. -/
def extend? (path : Path) (ending : Text) : Option Path :=
  path.name?.map fun name => ⟨path.anchor, path.names.dropLast ++ [name ++ ending]⟩

/-- The last name ends in the given dotted ending and has something before it. -/
def hasEnding (path : Path) (ending : Text) : Bool :=
  match path.name? with
  | some name =>
      match Text.after? ending.reverse name.reverse with
      | some before => !before.isEmpty
      | none => false
  | none => false

/-- The home directories of accounts; that of the empty name is the user's own. -/
abbrev Homes := Text → Option Text

/-- The account in whose home directory a path starts, if it does: a relative path whose first name
is a tilde and the account. -/
def account? (path : Path) : Option Text :=
  match path.anchor, path.names with
  | .relative, ('~' :: account) :: _ => some account
  | _, _ => none

/-- A relative path whose first name is a tilde and an account starts in that account's home
directory. The result is missing if the account has none, or one that starts with a tilde. -/
def expandHome? (homes : Homes) (path : Path) : Option Path :=
  match path.anchor, path.names with
  | .relative, ('~' :: account) :: names =>
      (homes account).bind fun home =>
        match Text.dropTrailing (· == '/') home with
        | '~' :: _ => none
        | [] => some ⟨.root, names⟩
        | directory => some ((ofText directory).under ⟨.relative, names⟩)
  | _, _ => some path

end Path
end Tailor
