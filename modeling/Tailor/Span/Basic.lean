import Tailor.Text.Basic

/-! # Spans

A span of a line is a key between an opening and a closing escape. An opening escape directly behind
a backslash opens nothing. The key is the shortest text up to a closing escape that is not empty and
does not end in a backslash; a line feed may only be its last character. Spans are found from left
to right and do not overlap.
-/

namespace Tailor

/-- The texts that enclose a key. -/
structure Escape where
  opening : Text
  closing : Text
deriving Repr, DecidableEq

/-- A piece of a line. -/
inductive Piece where
  | literal (c : Char)
  | span (key : Text)
deriving Repr, DecidableEq

namespace Escape

/-- The key at the beginning of a text and what follows its closing escape. -/
def splitKey? (closing : Text) : Text → Option (Text × Text)
  | [] => none
  | c :: rest =>
      match if c = '\\' then none else Text.after? closing rest with
      | some after => some ([c], after)
      | none =>
          if c = '\n' then none
          else (splitKey? closing rest).map fun (key, after) => (c :: key, after)

/-- The key of a span at the beginning of a text and what follows the span. -/
def splitSpan? (escape : Escape) (text : Text) : Option (Text × Text) :=
  (Text.after? escape.opening text).bind (splitKey? escape.closing)

theorem length_splitKey? {closing text key after : Text}
    (h : splitKey? closing text = some (key, after)) : after.length < text.length := by
  fun_induction splitKey? closing text generalizing key after with
  | case1 => simp at h
  | case2 c rest found same =>
      simp only [Option.some.injEq, Prod.mk.injEq] at h
      split at same
      · simp at same
      · have := Text.length_after? same
        simp only [List.length_cons, ← h.2]
        omega
  | case3 => simp at h
  | case4 c rest _ _ ih =>
      obtain ⟨⟨k, a⟩, found, same⟩ := Option.map_eq_some_iff.1 h
      simp only [Prod.mk.injEq] at same
      have := ih found
      simp only [List.length_cons, ← same.2]
      omega

theorem length_splitSpan? {escape : Escape} {text key after : Text}
    (h : escape.splitSpan? text = some (key, after)) : after.length < text.length := by
  obtain ⟨inner, opened, found⟩ := Option.bind_eq_some_iff.1 h
  have := length_splitKey? found
  have := Text.length_after? opened
  omega

/-- The last character of a text followed by another, if any. -/
def lastOf (first second : Text) : Option Char :=
  match second.getLast? with
  | some c => some c
  | none => first.getLast?

/-- The pieces of a text; `previous` is the character before it. -/
def piecesFrom (escape : Escape) (previous : Option Char) : (text : Text) → List Piece
  | [] => []
  | c :: rest =>
      match _found : if previous = some '\\' then none else escape.splitSpan? (c :: rest) with
      | some (key, after) =>
          .span key :: piecesFrom escape (lastOf key escape.closing) after
      | none => .literal c :: piecesFrom escape (some c) rest
termination_by text => text.length
decreasing_by
  · split at _found
    · simp at _found
    · exact length_splitSpan? _found
  · simp

def pieces (escape : Escape) (line : Text) : List Piece := piecesFrom escape none line

end Escape
end Tailor
