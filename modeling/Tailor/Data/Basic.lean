import Tailor.Data.Scalar

/-! # Parsed data

The value of a configuration file before it is checked: scalars, lists and mappings. A mapping keeps
the order in which its keys first appeared.
-/

namespace Tailor

/-- A parsed value. -/
inductive Data where
  | scalar (value : Scalar)
  | list (items : List Data)
  | map (entries : List (Scalar × Data))
  | set (items : List Scalar)
deriving Inhabited

namespace Data

def typeName : Data → Text
  | .scalar value => value.typeName
  | .list _ => "list".toList
  | .map _ => "dict".toList
  | .set _ => "set".toList

def null : Data := .scalar .null

def ofText (text : Text) : Data := .scalar (.text text)

/-- The value of a text key among the entries of a mapping. -/
def get? (entries : List (Scalar × Data)) (key : Text) : Option Data :=
  (entries.find? fun entry => entry.1.sameKey (.text key)).map (·.2)

/-- Sets the value of a key: at the place of the same key if there is one, whose spelling stays, and
at the end otherwise. -/
def put (entries : List (Scalar × Data)) (key : Scalar) (value : Data) : List (Scalar × Data) :=
  match entries with
  | [] => [(key, value)]
  | entry :: rest =>
      if entry.1.sameKey key then (entry.1, value) :: rest else entry :: put rest key value

/-- The entries in order, later values over earlier ones of the same key. -/
def ofEntries (entries : List (Scalar × Data)) : List (Scalar × Data) :=
  entries.foldl (fun built entry => put built entry.1 entry.2) []

end Data
end Tailor
