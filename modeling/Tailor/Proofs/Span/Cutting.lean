import Tailor.Proofs.Session.Outcome
import Tailor.Span.Substitution

/-! # Lines cut at their spans

The spans of a line are the leftmost ones, each with the shortest key that it can
have. This says which texts between them are gaps and which are keys, and it says so
without going through the line: a line is cut in one way only
(`Tailor.Escape.cuts_iff`). Replacing its spans resolves the keys of that cutting from
left to right and puts the values in their places
(`Tailor.Substitution.line_eq_of_cutting`).
-/

namespace Tailor

/-- A line cut at spans: the gap before each span with the key of the span, and what is
left behind the last one. -/
structure Cutting where
  spans : List (Text × Text)
  rest : Text
deriving Repr, DecidableEq

namespace Cutting

def keys (cutting : Cutting) : List Text := cutting.spans.map Prod.snd

/-- The gaps in order, each with a text behind it in the place of its span. -/
def filled (cutting : Cutting) (texts : List Text) : Text :=
  (cutting.spans.zipWith (fun span text => span.1 ++ text) texts).flatten ++ cutting.rest

theorem filled_cons (gap key : Text) (spans : List (Text × Text)) (rest text : Text)
    (texts : List Text) :
    filled ⟨(gap, key) :: spans, rest⟩ (text :: texts) =
      gap ++ (text ++ filled ⟨spans, rest⟩ texts) := by
  simp [filled]

end Cutting

namespace Escape

/-- A key is not empty and does not end in a backslash; a line feed may only be its last
character. -/
structure IsKey (key : Text) : Prop where
  ends : ∃ c, key.getLast? = some c ∧ c ≠ '\\'
  unbroken : '\n' ∉ key.dropLast

section Cuts

variable (escape : Escape)

/-- The span of a key. -/
def written (key : Text) : Text := escape.opening ++ (key ++ escape.closing)

/-- The text, which comes behind `before`, begins with the span of a key. An opening
escape directly behind a backslash opens nothing. -/
structure Begins (before text key behind : Text) : Prop where
  unguarded : before.getLast? ≠ some '\\'
  isKey : IsKey key
  split : text = escape.written key ++ behind

/-- No span begins inside a gap. -/
def Free (before gap behind : Text) : Prop :=
  ∀ part c more, gap = part ++ c :: more →
    ∀ key rest, ¬ escape.Begins (before ++ part) (c :: more ++ behind) key rest

/-- The text, which comes behind `before`, is cut at its spans: each begins as far to the
left as one can, and has the shortest key that it can have. -/
inductive Cuts : (before text : Text) → Cutting → Prop where
  | rest {before text : Text} (free : escape.Free before text []) : Cuts before text ⟨[], text⟩
  | span {before gap key behind : Text} {cutting : Cutting}
      (free : escape.Free before gap (escape.written key ++ behind))
      (begins : escape.Begins (before ++ gap) (escape.written key ++ behind) key behind)
      (shortest : ∀ shorter rest,
        escape.Begins (before ++ gap) (escape.written key ++ behind) shorter rest →
          key.length ≤ shorter.length)
      (further : Cuts (before ++ gap ++ escape.written key) behind cutting) :
      Cuts before (gap ++ (escape.written key ++ behind))
        ⟨(gap, key) :: cutting.spans, cutting.rest⟩

end Cuts

/-! ## Finding a key -/

theorem IsKey.ne_nil {key : Text} (isKey : IsKey key) : key ≠ [] := by
  rintro rfl
  obtain ⟨c, last, _⟩ := isKey.ends
  cases last

theorem isKey_single {c : Char} : IsKey [c] ↔ c ≠ '\\' := by
  constructor
  · intro isKey
    obtain ⟨d, last, differs⟩ := isKey.ends
    cases last
    exact differs
  · intro differs
    exact ⟨⟨c, rfl, differs⟩, List.not_mem_nil⟩

/-- A longer key is a key with something before it that is no line feed. -/
theorem isKey_cons {c : Char} {key : Text} (longer : key ≠ []) :
    IsKey (c :: key) ↔ c ≠ '\n' ∧ IsKey key := by
  obtain ⟨d, key, rfl⟩ := List.exists_cons_of_ne_nil longer
  constructor
  · rintro ⟨ends, unbroken⟩
    rw [List.dropLast_cons_cons, List.mem_cons, not_or] at unbroken
    rw [List.getLast?_cons_cons] at ends
    exact ⟨Ne.symm unbroken.1, ends, unbroken.2⟩
  · rintro ⟨differs, ends, unbroken⟩
    constructor
    · rw [List.getLast?_cons_cons]
      exact ends
    · rw [List.dropLast_cons_cons, List.mem_cons, not_or]
      exact ⟨Ne.symm differs, unbroken⟩

section Find

variable {closing text key after : Text}

/-- What is found is a key with the closing escape behind it. -/
theorem of_splitKey? (found : splitKey? closing text = some (key, after)) :
    IsKey key ∧ text = key ++ (closing ++ after) := by
  fun_induction splitKey? closing text generalizing key after with
  | case1 => cases found
  | case2 c rest behind closed =>
      cases found
      split at closed
      · cases closed
      · rename_i differs
        rw [Text.after?_eq_some_iff] at closed
        rw [closed]
        exact ⟨isKey_single.mpr differs, rfl⟩
  | case3 => cases found
  | case4 c rest _ differs ih =>
      obtain ⟨⟨inner, behind⟩, foundInner, same⟩ := Option.map_eq_some_iff.mp found
      cases same
      obtain ⟨isKey, split⟩ := ih foundInner
      rw [isKey_cons isKey.ne_nil, split]
      exact ⟨⟨differs, isKey⟩, rfl⟩

/-- Where there is a key one is found, and none that is longer. -/
theorem exists_splitKey? (isKey : IsKey key) (closing after : Text) :
    ∃ shortest rest, splitKey? closing (key ++ (closing ++ after)) = some (shortest, rest) ∧
      shortest.length ≤ key.length := by
  induction key with
  | nil => exact absurd rfl isKey.ne_nil
  | cons c key ih =>
      rw [List.cons_append, splitKey?]
      split
      · rename_i rest _
        exact ⟨[c], rest, rfl, Nat.le_add_left 1 key.length⟩
      · rename_i unclosed
        by_cases single : key = []
        · -- behind a single character the closing escape would have been found
          subst single
          rw [if_neg (isKey_single.mp isKey), List.nil_append,
            Text.after?_eq_some_iff.mpr rfl] at unclosed
          cases unclosed
        · obtain ⟨differs, isKeyInner⟩ := (isKey_cons single).mp isKey
          obtain ⟨shortest, rest, found, short⟩ := ih isKeyInner
          rw [if_neg differs, found]
          exact ⟨c :: shortest, rest, rfl, Nat.succ_le_succ short⟩

variable {escape : Escape}

theorem of_splitSpan? (found : escape.splitSpan? text = some (key, after)) :
    IsKey key ∧ text = escape.written key ++ after := by
  obtain ⟨inner, opened, foundKey⟩ := Option.bind_eq_some_iff.mp found
  obtain ⟨isKey, rfl⟩ := of_splitKey? foundKey
  rw [Text.after?_eq_some_iff] at opened
  refine ⟨isKey, ?_⟩
  rw [opened, written, List.append_assoc, List.append_assoc]

theorem exists_splitSpan? (isKey : IsKey key) (escape : Escape) (after : Text) :
    ∃ shortest rest, escape.splitSpan? (escape.written key ++ after) = some (shortest, rest) ∧
      shortest.length ≤ key.length := by
  obtain ⟨shortest, rest, found, short⟩ := exists_splitKey? isKey escape.closing after
  refine ⟨shortest, rest, ?_, short⟩
  have opened : Text.after? escape.opening (escape.written key ++ after) =
      some (key ++ (escape.closing ++ after)) := by
    rw [Text.after?_eq_some_iff, written, List.append_assoc, List.append_assoc]
  rw [splitSpan?, opened]
  exact found

end Find

/-! ## Going through a text -/

section Pieces

variable {escape : Escape} {before text key behind : Text}

/-- A span that begins a text is a span with the shortest key. -/
theorem exists_shortest (begins : escape.Begins before text key behind) :
    ∃ shortest rest, escape.splitSpan? text = some (shortest, rest) ∧
      escape.Begins before text shortest rest ∧
        ∀ other further, escape.Begins before text other further →
          shortest.length ≤ other.length := by
  obtain ⟨unguarded, isKey, rfl⟩ := begins
  obtain ⟨shortest, rest, found, _⟩ := exists_splitSpan? isKey escape behind
  obtain ⟨isShortest, split⟩ := of_splitSpan? found
  refine ⟨shortest, rest, found, ⟨unguarded, isShortest, split⟩, ?_⟩
  rintro other further ⟨_, isOther, same⟩
  obtain ⟨again, _, foundAgain, short⟩ := exists_splitSpan? isOther escape further
  rw [← same, found] at foundAgain
  cases foundAgain
  exact short

/-- Two keys that begin the same text and are equally long are the same. -/
theorem Begins.unique {other further : Text} (begins : escape.Begins before text key behind)
    (again : escape.Begins before text other further) (long : key.length = other.length) :
    key = other ∧ behind = further := by
  have same : escape.written key ++ behind = escape.written other ++ further :=
    begins.split.symm.trans again.split
  simp only [written, List.append_assoc] at same
  obtain ⟨rfl, rest⟩ := List.append_inj (List.append_cancel_left same) long
  exact ⟨rfl, List.append_cancel_left rest⟩

theorem getLast?_written (isKey : IsKey key) (before : Text) :
    (before ++ escape.written key).getLast? = lastOf key escape.closing := by
  obtain ⟨c, last, _⟩ := isKey.ends
  unfold lastOf
  simp only [written, List.getLast?_append, last]
  cases escape.closing.getLast? <;> rfl

/-- Where the span with the shortest key begins, it is the first piece. -/
theorem piecesFrom_of_begins (begins : escape.Begins before text key behind)
    (shortest : ∀ other further, escape.Begins before text other further →
      key.length ≤ other.length) :
    escape.piecesFrom before.getLast? text =
      .span key :: escape.piecesFrom (before ++ escape.written key).getLast? behind := by
  obtain ⟨least, rest, found, beginsLeast, short⟩ := exists_shortest begins
  have long : key.length = least.length :=
    Nat.le_antisymm (shortest least rest beginsLeast) (short key behind begins)
  obtain ⟨rfl, rfl⟩ := begins.unique beginsLeast long
  cases text with
  | nil =>
      have short := length_splitSpan? found
      exact absurd short (Nat.not_lt_zero _)
  | cons c text =>
      rw [piecesFrom, getLast?_written begins.isKey]
      split
      · rename_i other after same
        rw [if_neg begins.unguarded, found] at same
        cases same
        rfl
      · rename_i none_
        rw [if_neg begins.unguarded, found] at none_
        cases none_

/-- Where no span begins, the first piece is a character. -/
theorem piecesFrom_of_not_begins {c : Char}
    (free : ∀ key behind, ¬ escape.Begins before (c :: text) key behind) :
    escape.piecesFrom before.getLast? (c :: text) =
      .literal c :: escape.piecesFrom (before ++ [c]).getLast? text := by
  rw [piecesFrom, List.getLast?_concat]
  split
  · rename_i key behind found
    split at found
    · cases found
    · rename_i unguarded
      obtain ⟨isKey, split⟩ := of_splitSpan? found
      exact absurd ⟨unguarded, isKey, split⟩ (free key behind)
  · rfl

theorem Free.head {c : Char} {gap : Text} (free : escape.Free before (c :: gap) behind) :
    ∀ key rest, ¬ escape.Begins before (c :: (gap ++ behind)) key rest := by
  have first := free [] c gap rfl
  rw [List.append_nil] at first
  exact first

theorem Free.tail {c : Char} {gap : Text} (free : escape.Free before (c :: gap) behind) :
    escape.Free (before ++ [c]) gap behind := by
  intro part d more split
  rw [List.append_assoc]
  exact free (c :: part) d more (congrArg (c :: ·) split)

theorem Free.cons {c : Char} {gap : Text}
    (first : ∀ key rest, ¬ escape.Begins before (c :: gap ++ behind) key rest)
    (free : escape.Free (before ++ [c]) gap behind) : escape.Free before (c :: gap) behind := by
  intro part d more split
  cases part with
  | nil =>
      cases split
      rw [List.append_nil]
      exact first
  | cons _ part =>
      cases split
      have later := free part d more rfl
      rw [List.append_assoc] at later
      exact later

/-- A gap is cut into its characters. -/
theorem piecesFrom_of_free {gap : Text} (free : escape.Free before gap behind) :
    escape.piecesFrom before.getLast? (gap ++ behind) =
      gap.map .literal ++ escape.piecesFrom (before ++ gap).getLast? behind := by
  induction gap generalizing before with
  | nil => rw [List.append_nil, List.nil_append, List.map_nil, List.nil_append]
  | cons c gap ih =>
      rw [List.cons_append, piecesFrom_of_not_begins free.head, ih free.tail, List.append_assoc]
      rfl

end Pieces

end Escape

namespace Cutting

/-- The cutting whose first gap has a character more. -/
def prepend (c : Char) : Cutting → Cutting
  | ⟨[], rest⟩ => ⟨[], c :: rest⟩
  | ⟨(gap, key) :: spans, rest⟩ => ⟨(c :: gap, key) :: spans, rest⟩

/-- The cutting that pieces make. -/
def ofPieces : List Piece → Cutting
  | [] => ⟨[], []⟩
  | .literal c :: pieces => (ofPieces pieces).prepend c
  | .span key :: pieces => ⟨([], key) :: (ofPieces pieces).spans, (ofPieces pieces).rest⟩

theorem ofPieces_literals (text : Text) : ofPieces (text.map .literal) = ⟨[], text⟩ := by
  induction text with
  | nil => rfl
  | cons c text ih =>
      rw [List.map_cons, ofPieces, ih]
      rfl

theorem ofPieces_span (gap key : Text) (pieces : List Piece) :
    ofPieces (gap.map .literal ++ .span key :: pieces) =
      ⟨(gap, key) :: (ofPieces pieces).spans, (ofPieces pieces).rest⟩ := by
  induction gap with
  | nil => rfl
  | cons c gap ih =>
      rw [List.map_cons, List.cons_append, ofPieces, ih]
      rfl

end Cutting

namespace Escape

variable {escape : Escape} {before text : Text} {cutting : Cutting}

theorem Cuts.prepend {c : Char} (cuts : escape.Cuts (before ++ [c]) text cutting)
    (free : ∀ key behind, ¬ escape.Begins before (c :: text) key behind) :
    escape.Cuts before (c :: text) (cutting.prepend c) := by
  cases cuts with
  | rest freeBehind =>
      apply Cuts.rest
      apply Free.cons _ freeBehind
      rw [List.append_nil]
      exact free
  | @span _ gap key behind cutting freeGap begins shortest further =>
      have shifted : before ++ [c] ++ gap = before ++ c :: gap := by
        rw [List.append_assoc, List.singleton_append]
      rw [shifted] at begins shortest further
      exact .span (Free.cons free freeGap) begins shortest further

/-- The pieces of a text cut it. -/
theorem cuts_ofPieces (escape : Escape) (before text : Text) :
    escape.Cuts before text (.ofPieces (escape.piecesFrom before.getLast? text)) := by
  induction length : text.length using Nat.strongRecOn generalizing before text with
  | ind size ih =>
  subst length
  cases text with
  | nil =>
      rw [piecesFrom]
      apply Cuts.rest
      intro part c more split
      simp at split
  | cons c text =>
      by_cases begun : ∃ key behind, escape.Begins before (c :: text) key behind
      · obtain ⟨_, _, someBegins⟩ := begun
        obtain ⟨key, behind, found, begins, shortest⟩ := exists_shortest someBegins
        rw [piecesFrom_of_begins begins shortest]
        have further := ih _ (length_splitSpan? found) (before ++ escape.written key) behind rfl
        have nothing : escape.Free before [] (escape.written key ++ behind) := by
          intro part d more impossible
          simp at impossible
        have split := begins.split
        rw [split] at begins shortest ⊢
        rw [← List.append_nil before] at begins shortest
        refine .span nothing begins shortest ?_
        rw [List.append_nil]
        exact further
      · have free : ∀ key behind, ¬ escape.Begins before (c :: text) key behind := by
          intro key behind begins
          exact begun ⟨key, behind, begins⟩
        rw [piecesFrom_of_not_begins free]
        have further := ih text.length (Nat.lt_succ_self _) (before ++ [c]) text rfl
        exact further.prepend free

/-- **One cutting.** A text is cut at its spans in one way only: into its pieces. -/
theorem cuts_iff : escape.Cuts before text cutting ↔
    cutting = .ofPieces (escape.piecesFrom before.getLast? text) := by
  constructor
  · intro cuts
    induction cuts with
    | @rest before text free =>
        have pieces := piecesFrom_of_free free
        rw [List.append_nil] at pieces
        rw [pieces, piecesFrom, List.append_nil, Cutting.ofPieces_literals]
    | span free begins shortest _ ih =>
        rw [piecesFrom_of_free free, piecesFrom_of_begins begins shortest,
          Cutting.ofPieces_span, ← ih]
  · rintro rfl
    exact cuts_ofPieces escape before text

/-- A text is put together again from its gaps and spans. -/
theorem Cuts.filled_eq (cuts : escape.Cuts before text cutting) :
    cutting.filled (cutting.keys.map escape.written) = text := by
  induction cuts with
  | rest => rfl
  | @span before gap key behind cutting _ _ _ _ ih =>
      rw [Cutting.keys, List.map_cons, List.map_cons, Cutting.filled_cons]
      exact congrArg (fun text => gap ++ (escape.written key ++ text)) ih

end Escape

/-! ## Replacing spans -/

namespace Substitution

variable {σ : Type} (world : World σ) (substitution : Substitution)

/-- Pieces come to the values of their keys, one after the other, in the gaps between
them. -/
theorem pieces_eq_ofPieces (pieces : List Piece) :
    substitution.pieces world pieces = (do
      let values ← (Cutting.ofPieces pieces).keys.mapM (substitution.replacement world)
      pure ((Cutting.ofPieces pieces).filled values)) := by
  induction pieces with
  | nil => rfl
  | cons first pieces ih =>
      rw [Substitution.pieces, ih]
      cases first with
      | literal c =>
          -- the character stands in the first gap, or behind the last one if there is none
          rw [Cutting.ofPieces, piece, pure_bind, bind_assoc]
          rcases Cutting.ofPieces pieces with ⟨_ | ⟨⟨gap, key⟩, spans⟩, rest⟩
          · rfl
          · simp only [Cutting.prepend, Cutting.keys, List.map_cons, List.mapM_cons, bind_assoc,
              pure_bind, Cutting.filled_cons]
            rfl
      | span key =>
          simp only [Cutting.ofPieces, Cutting.keys, List.map_cons, List.mapM_cons, bind_assoc,
            pure_bind, piece, Cutting.filled_cons]
          rfl

/-- **The line with its values.** There is one cutting of a line at its spans, and its
gaps and spans make the line again. The line comes to the values of its keys, found from
left to right, in the gaps of that cutting: what the table has for a key as it is,
otherwise, unless the table is all there is, the value of the key as an expression. -/
theorem line_eq_of_cutting (escape : Escape) (line : Text) : ∃ cutting : Cutting,
    (∀ other, escape.Cuts [] line other ↔ other = cutting) ∧
    cutting.filled (cutting.keys.map escape.written) = line ∧
    substitution.line world (some escape) line = (do
      let values ← cutting.keys.mapM fun key =>
        match substitution.table.lookup key with
        | some value => pure value
        | none =>
            if substitution.strict then Act.fail (.unknownKey key)
            else Expression.expand world key
      pure (cutting.filled values)) := by
  refine ⟨.ofPieces (escape.pieces line), fun other => Escape.cuts_iff, ?_, ?_⟩
  · exact (Escape.cuts_ofPieces escape [] line).filled_eq
  · exact pieces_eq_ofPieces world substitution (escape.pieces line)

/-- Equal escapes that overlap: the second one cannot open what the first one closed. -/
example : Escape.pieces ⟨"%".toList, "%".toList⟩ "a%b%c%%%".toList =
    [.literal 'a', .span ['b'], .literal 'c', .span ['%']] := by
  cbv

end Substitution
end Tailor
