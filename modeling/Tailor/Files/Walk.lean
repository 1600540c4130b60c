import Tailor.Files.Tree

/-! # Finding the place of a path

A path is walked name by name. A double dot leads to the directory above, a link to what it holds;
the last name may be missing, and whether a link there is followed depends on the operation.
-/

namespace Tailor

/-- Why the file system refuses an operation. -/
inductive Refusal where
  | noEntry
  | busy
  | exists
  | notDirectory
  | isDirectory
  | nameTooLong
  | notEmpty
  | tooManyLinks
deriving Repr, DecidableEq

def Refusal.number : Refusal → Nat
  | .noEntry => 2
  | .busy => 16
  | .exists => 17
  | .notDirectory => 20
  | .isDirectory => 21
  | .nameTooLong => 36
  | .notEmpty => 39
  | .tooManyLinks => 40

def Refusal.wording : Refusal → Text
  | .noEntry => "No such file or directory".toList
  | .busy => "Device or resource busy".toList
  | .exists => "File exists".toList
  | .notDirectory => "Not a directory".toList
  | .isDirectory => "Is a directory".toList
  | .nameTooLong => "File name too long".toList
  | .notEmpty => "Directory not empty".toList
  | .tooManyLinks => "Too many levels of symbolic links".toList

/-- Where a walk ends. -/
inductive Place where
  | found (location : Location) (entry : Entry)
  /-- The directory exists, the name in it does not. -/
  | vacant (directory : Location) (name : Text)
deriving Repr, DecidableEq

namespace Files

def linkLimit : Nat := 40

def nameLimit : Nat := 255

def pathLimit : Nat := 4095

def sizeInBytes (text : Text) : Nat := (Utf8.encode text).length

/-- The names that a link's path leads through; a slash at its end asks for a directory. -/
def trail (target : Text) : List Text :=
  ((Text.splitAll '/' target).filter fun name => !name.isEmpty) ++
    (if target.getLast? = some '/' then [['.']] else [])

/-- Where a link's path starts if the link stands in a directory. -/
def startOf (target : Text) (directory : Location) : Location :=
  if target.head? = some '/' then [] else directory

/-- Walks names from a directory, following at most so many links; `follow` tells whether a link at
the last name is followed. -/
def walk (files : Files) (follow : Bool) (links : Nat) (directory : Location)
    (names : List Text) : Except Refusal Place :=
  match names with
  | [] => .ok (.found directory .directory)
  | name :: rest =>
      if name = ['.'] then walk files follow links directory rest
      else if name = ['.', '.'] then walk files follow links directory.dropLast rest
      else if nameLimit < sizeInBytes name then .error .nameTooLong
      else
        match files.get? (directory ++ [name]) with
        | none => if rest.isEmpty then .ok (.vacant directory name) else .error .noEntry
        | some .directory => walk files follow links (directory ++ [name]) rest
        | some (.file content) =>
            if rest.isEmpty then .ok (.found (directory ++ [name]) (.file content))
            else .error .notDirectory
        | some (.link target) =>
            if rest.isEmpty && !follow then .ok (.found (directory ++ [name]) (.link target))
            else
              match links with
              | 0 => .error .tooManyLinks
              | links + 1 =>
                  if target.isEmpty then .error .noEntry
                  else walk files follow links (startOf target directory) (trail target ++ rest)
termination_by (links, names.length)

def base (files : Files) (path : Path) : Location :=
  if path.isAbsolute then [] else files.here

def locate (files : Files) (follow : Bool) (path : Path) : Except Refusal Place :=
  if pathLimit < sizeInBytes path.text then .error .nameTooLong
  else files.walk follow linkLimit (files.base path) path.names

/-- A row of names with the double dots taken literally: each takes away the name before it. -/
def plain (start : Location) (names : List Text) : Location :=
  names.foldl
    (fun location name =>
      if name = ['.'] then location
      else if name = ['.', '.'] then location.dropLast
      else location ++ [name])
    start

/-- Follows every link on the way through names from a location; names that do not exist are taken
as they are. A link that is met again while it is being followed is left with all that comes behind
it, and the result says so. `fuel` bounds the depth of links behind links. -/
def settleFrom (files : Files) :
    (fuel : Nat) → (open_ : List Location) → (location : Location) → (names : List Text) →
      Bool × Location
  | _, _, location, [] => (true, location)
  | 0, _, location, names => (false, plain location names)
  | fuel + 1, open_, location, name :: rest =>
      if name = ['.'] then settleFrom files (fuel + 1) open_ location rest
      else if name = ['.', '.'] then settleFrom files (fuel + 1) open_ location.dropLast rest
      else
        let next := location ++ [name]
        match files.get? next with
        | some (.link target) =>
            if open_.contains next then (false, plain next rest)
            else
              let (settled, reached) :=
                settleFrom files fuel (next :: open_) (startOf target location) (trail target)
              if settled then settleFrom files (fuel + 1) open_ reached rest
              else (false, plain reached rest)
        | _ => settleFrom files (fuel + 1) open_ next rest
termination_by fuel _ _ names => (fuel, names.length)

/-- The location of a path with every link followed, as far as the path exists. -/
def settle (files : Files) (path : Path) : Location :=
  (files.settleFrom (files.links.length + 1) [] (files.base path) path.names).2

end Files

def Path.ofLocation (location : Location) : Path := ⟨.root, location⟩

end Tailor
