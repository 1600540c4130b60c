/-! # Texts

A text is the list of its characters. This module holds the cuts that the rest of the library makes
in texts: trimming blanks, taking a fixed beginning off, splitting at a separator or at line feeds.
-/

namespace Tailor

/-- A text is the list of its characters; lengths and positions count characters. -/
abbrev Text := List Char

namespace Text

/-- The blank characters: Unicode white space and the four information separators
U+001C to U+001F. -/
def isBlank (c : Char) : Bool :=
  let n := c.toNat
  (0x09 ≤ n && n ≤ 0x0D) || (0x1C ≤ n && n ≤ 0x20) || n == 0x85 || n == 0xA0 || n == 0x1680 ||
    (0x2000 ≤ n && n ≤ 0x200A) || n == 0x2028 || n == 0x2029 || n == 0x202F || n == 0x205F ||
    n == 0x3000

/-- The text without its leading blanks. -/
def trimLeft (text : Text) : Text := text.dropWhile isBlank

/-- The text without its trailing characters that satisfy a test. -/
def dropTrailing (drop : Char → Bool) (text : Text) : Text :=
  (text.reverse.dropWhile drop).reverse

/-- The text without its trailing blanks. -/
def trimRight (text : Text) : Text := dropTrailing isBlank text

/-- The text without leading and trailing blanks. -/
def trim (text : Text) : Text := trimRight (trimLeft text)

/-- What follows a given beginning, if the text has that beginning. -/
def after? : (start : Text) → (text : Text) → Option Text
  | [], text => some text
  | _ :: _, [] => none
  | s :: start, c :: text => if s = c then after? start text else none

/-- The text before and the text after the first occurrence of a separator. -/
def splitOnce? (separator : Text) : (text : Text) → Option (Text × Text)
  | [] => (after? separator []).map ([], ·)
  | c :: text =>
      match after? separator (c :: text) with
      | some rest => some ([], rest)
      | none => (splitOnce? separator text).map fun parts => (c :: parts.1, parts.2)

/-- The parts of a text between the occurrences of one character; never empty. -/
def splitAll (separator : Char) : (text : Text) → List Text
  | [] => [[]]
  | c :: text =>
      if c = separator then [] :: splitAll separator text
      else
        match splitAll separator text with
        | [] => [[c]]
        | part :: parts => (c :: part) :: parts

/-- The line without one carriage return at its end. -/
def dropReturn (line : Text) : Text :=
  if line.getLast? = some '\r' then line.dropLast else line

/-- The parts of a text that end at a line feed or at the end of the text, without the line feed.
An empty text has no part, and a line feed at the very end opens no further one. -/
def rawLines : (text : Text) → List Text
  | [] => []
  | c :: text =>
      if c = '\n' then [] :: rawLines text
      else
        match rawLines text with
        | [] => [[c]]
        | line :: lines => (c :: line) :: lines

/-- The lines of a text. Only a line feed ends a line; one carriage return at the end of a line is
dropped. -/
def lines (text : Text) : List Text := (rawLines text).map dropReturn

/-- The texts in order with a separator between neighbours. -/
def join (separator : Text) (parts : List Text) : Text := separator.intercalate parts

/-- Carriage return and line feed together, and a carriage return alone, become one line feed. -/
def unifyNewlines : (text : Text) → Text
  | [] => []
  | '\r' :: '\n' :: text => '\n' :: unifyNewlines text
  | c :: text => (if c = '\r' then '\n' else c) :: unifyNewlines text

/-- The text padded on the left to a width. -/
def padLeft (fill : Char) (width : Nat) (text : Text) : Text :=
  List.replicate (width - text.length) fill ++ text

/-- The digits of a number in base ten. -/
def ofNat (n : Nat) : Text := Nat.toDigits 10 n

/-- A sign if the number is negative, then its digits in base ten. -/
def ofInt : Int → Text
  | .ofNat n => ofNat n
  | .negSucc n => '-' :: ofNat (n + 1)

/-- The order of texts by the code points of their characters. -/
def precedes (a b : Text) : Bool := compare a b != .gt

/-- What follows a beginning is what the text has behind it. -/
theorem after?_eq_some_iff {start text rest : Text} :
    after? start text = some rest ↔ text = start ++ rest := by
  fun_induction after? start text with
  | case1 => simp
  | case2 => simp
  | case3 s start text ih => simpa using ih
  | case4 s start c text differ => simp [Ne.symm differ]

theorem length_after? {start text after : Text} (h : after? start text = some after) :
    after.length ≤ text.length := by
  fun_induction after? start text with
  | case1 => simp_all
  | case2 => simp at h
  | case3 s start text ih => have := ih h; simp; omega
  | case4 => simp at h

theorem length_splitOnce? {separator text before after : Text}
    (h : splitOnce? separator text = some (before, after)) : after.length ≤ text.length := by
  fun_induction splitOnce? separator text generalizing before after with
  | case1 =>
      obtain ⟨a, found, same⟩ := Option.map_eq_some_iff.1 h
      have := length_after? found
      simp only [Prod.mk.injEq] at same
      simp_all
  | case2 c text rest found =>
      have := length_after? found
      simp_all
  | case3 c text _ ih =>
      obtain ⟨⟨b, a⟩, found, same⟩ := Option.map_eq_some_iff.1 h
      simp only [Prod.mk.injEq] at same
      have := ih found
      simp only [List.length_cons, ← same.2]
      omega

theorem length_dropWhile_le (test : Char → Bool) (text : Text) :
    (text.dropWhile test).length ≤ text.length := by
  induction text with
  | nil => simp
  | cons c text ih => by_cases h : test c <;> simp [h]; omega

end Text
end Tailor
