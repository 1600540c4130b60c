import Tailor.Data.Scalar
import Tailor.Text.Base64
import Tailor.Yaml.Basic

/-! # YAML: kinds of scalars

A plain scalar without tag is of the kind whose form its text has, and a text otherwise. A tag names
the kind, and the text is then read as that kind whatever its form.
-/

namespace Tailor.Yaml

/-- What a node can stand for. -/
inductive Kind where
  | null
  | bool
  | int
  | float
  | binary
  | moment
  | text
  | list
  | map
  | set
  /-- A list of entries, each a mapping of one entry. -/
  | entries
  /-- The key under which a mapping takes the entries of others. -/
  | merge
  | main
deriving Repr, DecidableEq

namespace Kind

/-- What the tags of all kinds begin with. -/
def stem : Text := "tag:yaml.org,2002:".toList

def names : List (String × Kind) :=
  [("null", .null), ("bool", .bool), ("int", .int), ("float", .float), ("binary", .binary),
    ("timestamp", .moment), ("str", .text), ("seq", .list), ("map", .map), ("set", .set),
    ("omap", .entries), ("pairs", .entries), ("merge", .merge), ("value", .main)]

def ofTag? (tag : Text) : Option Kind :=
  (Text.after? stem tag).bind fun name =>
    (names.find? fun entry => entry.1.toList == name).map (·.2)

/-! ## Forms -/

def isWord (words : List String) (text : Text) : Bool := words.any fun word => word.toList == text

/-- The text without one sign before it. -/
def unsigned (text : Text) : Text :=
  match text with
  | '-' :: rest => rest
  | '+' :: rest => rest
  | _ => text

def isSpaced (isDigit : Char → Bool) (text : Text) : Bool := text.all fun c => isDigit c || c == '_'

/-- The text begins with an ASCII digit and has digits and underscores after it. -/
def isDecimal (text : Text) : Bool :=
  (text.head?.map Char.isDigit).getD false && isSpaced Char.isDigit text

/-- A place of a numeral in base sixty: one digit, or two up to 59. -/
def isSixtieth (text : Text) : Bool :=
  match text with
  | [a] => a.isDigit
  | [a, b] => '0' ≤ a && a ≤ '5' && b.isDigit
  | _ => false

/-- Whole numbers: binary, octal, decimal, hexadecimal, and in base sixty with colons. -/
def isInt (text : Text) : Bool :=
  match unsigned text with
  | ['0'] => true
  | '0' :: 'b' :: digits => !digits.isEmpty && isSpaced (fun c => c == '0' || c == '1') digits
  | '0' :: 'x' :: digits =>
      !digits.isEmpty && isSpaced (fun c => (Text.baseDigit? 16 c).isSome) digits
  | '0' :: digits => isSpaced (fun c => (Text.baseDigit? 8 c).isSome) digits
  | digits =>
      match Text.splitAll ':' digits with
      | first :: places => isDecimal first && places.all isSixtieth
      | [] => false

/-- An exponent with its mark and sign, or nothing. -/
def isExponent (text : Text) : Bool :=
  match text with
  | [] => true
  | mark :: sign :: digits =>
      (mark == 'e' || mark == 'E') && (sign == '+' || sign == '-') && !digits.isEmpty &&
        digits.all Char.isDigit
  | _ => false

/-- Digits and underscores, then an exponent. -/
def isFraction (text : Text) : Bool :=
  isExponent (text.dropWhile fun c => c.isDigit || c == '_')

/-- Numbers with a point: decimal with an optional exponent, in base sixty with colons, and the
names of infinity and of the undefined number. -/
def isFloat (text : Text) : Bool :=
  if isWord [".nan", ".NaN", ".NAN"] text then true
  else if isWord [".inf", ".Inf", ".INF"] (unsigned text) then true
  else
    match Text.splitOnce? ['.'] (unsigned text) with
    | none => false
    | some ([], fraction) =>
        text.head? == some '.' && (fraction.head?.map Char.isDigit).getD false &&
          isFraction fraction
    | some (whole, fraction) =>
        match Text.splitAll ':' whole with
        | [_] => isDecimal whole && isFraction fraction
        | first :: places =>
            isDecimal first && places.all isSixtieth && isSpaced Char.isDigit fraction
        | [] => false

/-- The parts of a moment as digits. -/
structure MomentText where
  year : Text
  month : Text
  day : Text
  clock? : Option (Text × Text × Text × Text)
  /-- The sign, hours and minutes of the distance from universal time. -/
  zone? : Option (Bool × Text × Text)
deriving Repr

/-- A number of ASCII digits between two bounds, as many as there are. -/
def digits? (least most : Nat) (text : Text) : Option (Text × Text) :=
  let digits := (text.take most).takeWhile Char.isDigit
  if digits.length < least then none else some (digits, text.drop digits.length)

/-- The zone at the end of a moment. -/
def zone? (text : Text) : Option (Option (Bool × Text × Text)) :=
  match text, text.dropWhile isSpace with
  | [], _ => some none
  | _, ['Z'] => some (some (false, ['0'], ['0']))
  | _, sign :: rest => do
      if sign ≠ '+' ∧ sign ≠ '-' then none
      let (hours, rest) ← digits? 1 2 rest
      let minutes ←
        match rest with
        | [] => some ['0']
        | ':' :: rest =>
            match digits? 2 2 rest with
            | some (minutes, []) => some minutes
            | _ => none
        | _ => none
      some (some (sign == '-', hours, minutes))
  | _, [] => none

/-- The time of a moment, with what follows it. -/
def clock? (text : Text) : Option ((Text × Text × Text × Text) × Text) := do
  let (hour, rest) ← digits? 1 2 text
  let rest ← Text.after? [':'] rest
  let (minute, rest) ← digits? 2 2 rest
  let rest ← Text.after? [':'] rest
  let (second, rest) ← digits? 2 2 rest
  match rest with
  | '.' :: rest =>
      some ((hour, minute, second, rest.takeWhile Char.isDigit), rest.dropWhile Char.isDigit)
  | _ => some ((hour, minute, second, []), rest)

/-- A day, alone or with a time after a letter or white space. -/
def momentText? (text : Text) : Option MomentText := do
  let (year, rest) ← digits? 4 4 text
  let rest ← Text.after? ['-'] rest
  let (month, rest) ← digits? 1 2 rest
  let rest ← Text.after? ['-'] rest
  let (day, rest) ← digits? 1 2 rest
  match rest with
  | [] => some ⟨year, month, day, none, none⟩
  | c :: after => do
      let rest ←
        if c = 'T' ∨ c = 't' then some after
        else if isSpace c then some (after.dropWhile isSpace)
        else none
      let (clock, rest) ← clock? rest
      let zone ← zone? rest
      some ⟨year, month, day, some clock, zone⟩

/-- A moment, or a day whose month and day have two digits each. -/
def isMoment (text : Text) : Bool :=
  match momentText? text with
  | some parts => parts.clock?.isSome || (parts.month.length == 2 && parts.day.length == 2)
  | none => false

/-- The truth values by their names in lower case. -/
def truths : List (String × Bool) :=
  [("yes", true), ("true", true), ("on", true), ("no", false), ("false", false), ("off", false)]

/-- A word in lower case, in upper case, or with a capital. -/
def isCased (words : List String) (text : Text) : Bool :=
  words.any fun word =>
    let lower := word.toList
    let capital :=
      match lower with
      | c :: rest => c.toUpper :: rest
      | [] => []
    text == lower || text == capital || text == lower.map Char.toUpper

/-- The kind of a plain scalar by its form. -/
def ofPlain (text : Text) : Kind :=
  if isCased (truths.map (·.1)) text then .bool
  else if isFloat text then .float
  else if isInt text then .int
  else if text = ['<', '<'] then .merge
  else if text.isEmpty || text == ['~'] || isCased ["null"] text then .null
  else if isMoment text then .moment
  else if text = ['='] then .main
  else .text

/-! ## Values -/

/-- The sign of a numeral, and its digits without underscores. -/
def signed (text : Text) : Except LiteralFault (Bool × Text) :=
  match text.filter (· ≠ '_') with
  | [] => .error .emptyNumeral
  | '-' :: rest => .ok (true, rest)
  | '+' :: rest => .ok (false, rest)
  | digits => .ok (false, digits)

def integerSize (digits : Text) : Except LiteralFault Int :=
  match digits with
  | [] => .error .emptyNumeral
  | ['0'] => .ok 0
  | '0' :: 'b' :: rest => Literal.integer 2 rest
  | '0' :: 'x' :: rest => Literal.integer 16 rest
  | '0' :: _ => Literal.integer 8 digits
  | _ =>
      if ':' ∈ digits then do
        let places ← (Text.splitAll ':' digits).mapM (Literal.integer 10)
        pure (places.foldl (fun value place => value * 60 + place) 0)
      else Literal.integer 10 digits

def integerOf (text : Text) : Except LiteralFault Int := do
  let (negative, digits) ← signed text
  let size ← integerSize digits
  pure (if negative then -size else size)

def decimal (text : Text) : Except LiteralFault Float :=
  match Decimal.read? text with
  | some value => .ok value
  | none => .error (.notFloat text)

/-- The sum of places in base sixty, the last one counting once. -/
def sixtieths (places : List Float) : Float :=
  (places.reverse.foldl (fun (sum, base) place => (sum + place * base, base * 60)) (0.0, 1.0)).1

/-- The size of a number with a point. -/
def floatSize (digits : Text) : Except LiteralFault Float :=
  if digits = ".inf".toList then .ok (1.0 / 0.0)
  else if digits = ".nan".toList then .ok (0.0 / 0.0)
  else if ':' ∈ digits then do
    let places ← (Text.splitAll ':' digits).mapM decimal
    pure (sixtieths places)
  else decimal digits

def floatOf (text : Text) : Except LiteralFault Float := do
  let (negative, digits) ← signed (text.map Char.toLower)
  let size ← floatSize digits
  pure (if negative then -size else size)

def truthOf (text : Text) : Except LiteralFault Bool :=
  let lower := text.map Char.toLower
  match truths.find? fun entry => entry.1.toList == lower with
  | some (_, value) => .ok value
  | none => .error (.notBoolean lower)

def number (digits : Text) : Nat := (Text.inBase? 10 digits).getD 0

/-- A day or a moment. Of the fraction of a second, six digits count. -/
def momentOf (text : Text) : Except LiteralFault Scalar :=
  match momentText? text with
  | none => .error .notMoment
  | some ⟨year, month, day, clock?, zone?⟩ =>
      let date := Date.make (number year) (number month) (number day)
      match clock? with
      | none => (date.map Scalar.date).mapError .calendar
      | some (hour, minute, second, fraction) =>
          let six := fraction.take 6
          let micro := number (six ++ List.replicate (6 - six.length) '0')
          let offset : Except CalendarFault (Option Int) :=
            match zone? with
            | none => .ok none
            | some (negative, hours, minutes) =>
                let size : Int := number hours * 60 + number minutes
                (zoneOffset (if negative then -size else size)).map some
          let built : Except CalendarFault Scalar := do
            let offset ← offset
            let date ← date
            let time ← TimeOfDay.make (number hour) (number minute) (number second) micro
            pure (.moment date time offset)
          built.mapError .calendar

/-- The bytes of a text in base 64. -/
def binary? (text : Text) : Option Bytes :=
  if text.all (·.toNat < 0x80) then Base64.decode? text else none

def scalar (kind : Kind) (text : Text) : Except Fault Scalar :=
  let literal := fun (read : Except LiteralFault Scalar) => read.mapError Fault.literal
  match kind with
  | .null => .ok .null
  | .text => .ok (.text text)
  | .bool => literal ((truthOf text).map .bool)
  | .int => literal ((integerOf text).map .int)
  | .float => literal ((floatOf text).map .float)
  | .moment => literal (momentOf text)
  | .binary =>
      match binary? text with
      | some bytes => .ok (.bytes bytes)
      | none => .error (.flaw (.unreadableTag (stem ++ "binary".toList)))
  | _ => .error (.flaw (.unreadableTag text))

end Kind
end Tailor.Yaml
