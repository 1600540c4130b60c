import Tailor.Text.Printable

/-! # Quoted texts

Messages quote a text between single quotes, or between double quotes if it holds a single quote and
no double one. Inside, the backslash and the enclosing quote are escaped, line feed, carriage return
and tab have a letter each, and every other character that is not printable is written by its code
point in two, four or eight hexadecimal digits.
-/

namespace Tailor.Text

def enclosingQuote (text : Text) : Char :=
  if text.contains '\'' && !text.contains '"' then '"' else '\''

/-- A number in hexadecimal digits of lower case, padded with zeros to a width. -/
def hex (width : Nat) (n : Nat) : Text := padLeft '0' width (Nat.toDigits 16 n)

def quotedChar (quote : Char) (c : Char) : Text :=
  if c = quote ∨ c = '\\' then ['\\', c]
  else if c = '\n' then ['\\', 'n']
  else if c = '\r' then ['\\', 'r']
  else if c = '\t' then ['\\', 't']
  else if isPrintable c then [c]
  else if c.toNat < 0x100 then '\\' :: 'x' :: hex 2 c.toNat
  else if c.toNat < 0x10000 then '\\' :: 'u' :: hex 4 c.toNat
  else '\\' :: 'U' :: hex 8 c.toNat

def quoted (text : Text) : Text :=
  let quote := enclosingQuote text
  quote :: text.flatMap (quotedChar quote) ++ [quote]

/-- Several texts, each between quotes, in a bracketed list. -/
def quotedList (texts : List Text) : Text :=
  '[' :: join [',', ' '] (texts.map quoted) ++ [']']

end Tailor.Text
