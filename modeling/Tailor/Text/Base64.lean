import Tailor.Text.Utf8

/-! # Base 64

Four characters of the base write three bytes. Characters outside the base do not count, and signs
of padding that complete a group end the text.
-/

namespace Tailor.Base64

/-- The value of a character of the base. -/
def value? (c : Char) : Option Nat :=
  let n := c.toNat
  if 'A' ≤ c ∧ c ≤ 'Z' then some (n - 65)
  else if 'a' ≤ c ∧ c ≤ 'z' then some (n - 71)
  else if '0' ≤ c ∧ c ≤ '9' then some (n + 4)
  else if c = '+' then some 62
  else if c = '/' then some 63
  else none

/-- The bytes that are complete in a group of values. -/
def bytesOf : List Nat → Bytes
  | [a, b] => [UInt8.ofNat (a * 4 + b / 16)]
  | [a, b, c] => [UInt8.ofNat (a * 4 + b / 16), UInt8.ofNat (b % 16 * 16 + c / 4)]
  | [a, b, c, d] =>
      [UInt8.ofNat (a * 4 + b / 16), UInt8.ofNat (b % 16 * 16 + c / 4),
        UInt8.ofNat (c % 4 * 64 + d)]
  | _ => []

/-- The bytes from a place on, after the values of an open group and its padding. -/
def decodeFrom (group : List Nat) (padding : Nat) : Text → Option Bytes
  | [] => if group.isEmpty then some [] else none
  | c :: rest =>
      if c = '=' then
        if 2 ≤ group.length ∧ 4 ≤ group.length + padding + 1 then some (bytesOf group)
        else decodeFrom group (if 2 ≤ group.length then padding + 1 else padding) rest
      else
        match value? c with
        | none => decodeFrom group padding rest
        | some value =>
            if group.length = 3 then
              (decodeFrom [] 0 rest).map (bytesOf (group ++ [value]) ++ ·)
            else decodeFrom (group ++ [value]) 0 rest

def decode? (text : Text) : Option Bytes := decodeFrom [] 0 text

end Tailor.Base64
