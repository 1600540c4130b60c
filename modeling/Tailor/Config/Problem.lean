import Tailor.Data.Basic
import Tailor.Data.Literal
import Tailor.Document.Problem

/-! # Problems of configurations

A configuration is checked as a whole: all its problems are collected, each with the place at which
it was found. A breakdown ends the check at once.
-/

namespace Tailor.Config

/-- What is wrong at one place. -/
inductive Flaw where
  | unknownField (key : Scalar)
  /-- The file cannot be read or parsed, for a reason in words if it is known. -/
  | unreadable (reason : Text)
  | notMapping
  | documentsNotList
  | entryNotMapping
  | missing
  | notPath
  | badReference (flaw : Expression.Flaw)
  | blankMark
  | unknownEscapeFields (keys : List Scalar)
  | notEscape
  | badEscapeParts
  | notBoolean (value : Data)
  | tableNotMapping
  | notText (value : Data)

def Flaw.message : Flaw → Text
  | .unknownField key => "Unknown field '".toList ++ key.written ++ ['\'']
  | .unreadable reason => "Failed to load configuration: ".toList ++ reason
  | .notMapping => "Configuration must be a mapping".toList
  | .documentsNotList => "'config' must be a list of document entries".toList
  | .entryNotMapping => "Document entry must be a mapping".toList
  | .missing => "Field is required".toList
  | .notPath => "Must be a non-empty string".toList
  | .badReference flaw => flaw.message
  | .blankMark => "Prefix must be a non-empty string".toList
  | .unknownEscapeFields keys =>
      "Unknown escape fields: [".toList ++ Text.join [',', ' '] (keys.map Scalar.listed) ++ [']']
  | .notEscape =>
      "Escape must be a [start, end] list or a \x7bstart, end\x7d mapping".toList
  | .badEscapeParts => "Escape needs exactly two non-empty strings: start and end".toList
  | .notBoolean value => "Must be a boolean, got ".toList ++ value.typeName
  | .tableNotMapping => "'substitutions' must be a mapping of key to string".toList
  | .notText value => "Value must be a string, got ".toList ++ value.typeName

/-- A flaw and the place at which it was found; the place of the whole configuration is empty. -/
structure Problem where
  place : Text
  flaw : Flaw

/-- The wording of a problem with its place. -/
def Problem.message (problem : Problem) : Text :=
  if problem.place.isEmpty then "Validation error: ".toList ++ problem.flaw.message
  else
    "Validation error at '".toList ++ problem.place ++ "': ".toList ++ problem.flaw.message

/-- The status with which the program ends after a problem. -/
def Problem.exitStatus : Nat := 2

/-- What ends the check of a configuration at once. -/
inductive Breakdown where
  /-- The home directory that a path starts with is not known. -/
  | unknownHome
  /-- Two keys have no order, so they cannot be listed in order. -/
  | unordered (later earlier : Scalar)
  | nullCharacter
  /-- A text is marked as a value of a type that it does not write, or a key has no text. -/
  | literal (fault : LiteralFault)
  /-- Reading the file broke off for another reason, in words. -/
  | reading (reason : Text) (aboutValue : Bool)

/-- The type of a key in a complaint about order; days and times belong to the calendar. -/
def orderedType (key : Scalar) : Text :=
  match key with
  | .date _ | .moment _ _ _ | .time _ => "datetime.".toList ++ key.typeName
  | _ => key.typeName

def Breakdown.message : Breakdown → Text
  | .unknownHome => "Could not determine home directory.".toList
  | .unordered (.moment _ _ _) (.moment _ _ _) =>
      "can't compare offset-naive and offset-aware datetimes".toList
  | .unordered (.moment _ _ _) (.date _) | .unordered (.date _) (.moment _ _ _) =>
      "can't compare datetime.datetime to datetime.date".toList
  | .unordered later earlier =>
      "'<' not supported between instances of '".toList ++ orderedType later ++
        "' and '".toList ++ orderedType earlier ++ ['\'']
  | .nullCharacter => "embedded null byte".toList
  | .literal fault => fault.message
  | .reading reason _ => reason

/-- The breakdown is a complaint about a value. -/
def Breakdown.isAboutValue : Breakdown → Bool
  | .unknownHome | .unordered _ _ => false
  | .nullCharacter => true
  | .literal fault => fault.isAboutValue
  | .reading _ aboutValue => aboutValue

/-- Why there is no configuration: it has problems, or its check broke down. -/
inductive Failure where
  | invalid (problems : List Problem)
  | breakdown (breakdown : Breakdown)

end Tailor.Config
