import Mathlib
import Tailor.Proofs.Span.Cutting

/-! # Lines settled by one pass

A line whose spans have been replaced may have spans again: a replacement may bring escapes
or backslashes of its own, and one that is empty joins what stands around it. Otherwise no
span is left. In a gap before a span every opening escape stands behind a backslash, for
any other one would begin a span further to the left
(`Tailor.Escape.begins_further`), and a replacement neither completes such an escape nor
takes the backslash away from it. So the pieces of the new line are its characters
(`Tailor.Escape.Cuts.free_filled`), and replacing its spans once more changes nothing
(`Tailor.Substitution.line_settled`).
-/

namespace Tailor

namespace Escape

/-- The text makes no span where it replaces one. -/
structure Inert (escape : Escape) (value : Text) : Prop where
  full : value ≠ []
  apart : ∀ c ∈ value, c ∉ escape.opening
  noBackslash : '\\' ∉ value

section Free

variable {escape : Escape} {before other gap more key behind value rest further : Text}
  {cutting : Cutting}

theorem Free.append (first : escape.Free before gap (more ++ behind))
    (second : escape.Free (before ++ gap) more behind) :
    escape.Free before (gap ++ more) behind := by
  induction gap generalizing before with
  | nil => rwa [List.append_nil] at second
  | cons c gap ih =>
      rw [← List.singleton_append, ← List.append_assoc] at second
      have begun := first.head
      rw [← List.append_assoc] at begun
      exact Free.cons begun (ih first.tail second)

/-- Behind a text that has a backslash at its end where the other has one, what follows
both does not differ in this. -/
theorem guards_append (guards : before.getLast? = some '\\' → other.getLast? = some '\\')
    (part : Text) : (before ++ part).getLast? = some '\\' →
      (other ++ part).getLast? = some '\\' := by
  rw [List.getLast?_append, List.getLast?_append]
  cases part.getLast? with
  | none => exact guards
  | some c => exact id

theorem Free.mono (free : escape.Free before gap behind)
    (guards : before.getLast? = some '\\' → other.getLast? = some '\\') :
    escape.Free other gap behind := by
  rintro part c more split key rest ⟨unguarded, isKey, written⟩
  have unguarded := mt (guards_append guards part) unguarded
  exact free part c more split key rest ⟨unguarded, isKey, written⟩

/-- An opening escape that begins before an inert text ends before it. -/
theorem Inert.exists_opening (inert : escape.Inert value)
    (opened : gap ++ (value ++ rest) = escape.opening ++ further) :
    ∃ more, gap = escape.opening ++ more := by
  rcases List.append_eq_append_iff.mp opened with ⟨common, split, same⟩ | ⟨more, split, _⟩
  · cases common with
    | nil => exact ⟨[], by rw [split, List.append_nil, List.append_nil]⟩
    | cons c common =>
        obtain ⟨d, value, rfl⟩ := List.exists_cons_of_ne_nil inert.full
        obtain rfl : d = c := (List.cons.inj same).1
        refine absurd ?_ (inert.apart d List.mem_cons_self)
        rw [split]
        exact List.mem_append_right _ List.mem_cons_self
  · exact ⟨more, split⟩

/-- No span begins inside an inert text. -/
theorem Inert.free (inert : escape.Inert value) (opens : escape.opening ≠ []) (before rest : Text) :
    escape.Free before value rest := by
  rintro part c more rfl key behind ⟨_, _, split⟩
  obtain ⟨o, opening, same⟩ := List.exists_cons_of_ne_nil opens
  rw [written, same] at split
  obtain rfl : c = o := (List.cons.inj split).1
  refine inert.apart c (List.mem_append_right _ List.mem_cons_self) ?_
  rw [same]
  exact List.mem_cons_self

/-- An opening escape that is not behind a backslash begins a span if a span follows on the
line. -/
theorem begins_further (unguarded : before.getLast? ≠ some '\\') (isKey : IsKey key)
    (unbroken : '\n' ∉ escape.opening ++ more ++ escape.written key) (behind : Text) :
    escape.Begins before (escape.opening ++ more ++ (escape.written key ++ behind))
      (more ++ (escape.opening ++ key)) behind where
  unguarded := unguarded
  isKey := by
    obtain ⟨c, last, differs⟩ := isKey.ends
    refine ⟨⟨c, ?_, differs⟩, fun inside => unbroken ?_⟩
    · rw [List.getLast?_append, List.getLast?_append, last]
      rfl
    · have inside := List.mem_of_mem_dropLast inside
      simp only [written, List.mem_append] at inside ⊢
      rcases inside with within | within | within
      · exact .inl (.inr within)
      · exact .inl (.inl within)
      · exact .inr (.inr (.inl within))
  split := by simp only [written, List.append_assoc]

/-- The gap before a span stays free where an inert text replaces the span. -/
theorem Free.before_replaced (free : escape.Free before gap (escape.written key ++ behind))
    (isKey : IsKey key) (unbroken : '\n' ∉ gap ++ escape.written key)
    (inert : escape.Inert value)
    (guards : before.getLast? = some '\\' → other.getLast? = some '\\') (rest : Text) :
    escape.Free other gap (value ++ rest) := by
  rintro part c more rfl key' behind' ⟨unguarded, _, split⟩
  rw [written, List.append_assoc] at split
  obtain ⟨more', opened⟩ := inert.exists_opening split
  have unguarded := mt (guards_append guards part) unguarded
  have unbroken : '\n' ∉ escape.opening ++ more' ++ escape.written key := by
    rw [← opened]
    rw [List.append_assoc] at unbroken
    exact fun inside => unbroken (List.mem_append_right part inside)
  have begins := begins_further unguarded isKey unbroken behind
  rw [← opened] at begins
  exact free part c more rfl _ _ begins

/-- A span does not end in a backslash if its closing escape does not. -/
theorem IsKey.getLast?_written (isKey : IsKey key) (ends : escape.closing.getLast? ≠ some '\\')
    (before : Text) : (before ++ escape.written key).getLast? ≠ some '\\' := by
  obtain ⟨c, last, differs⟩ := isKey.ends
  rw [Escape.getLast?_written isKey, lastOf]
  cases closes : escape.closing.getLast? with
  | none =>
      rw [last]
      exact fun same => differs (Option.some.inj same)
  | some d => rwa [closes] at ends

/-- The replacements of spans leave no span: neither in the gaps nor in themselves, and
none that reaches from one into another. -/
theorem Cuts.free_filled (opens : escape.opening ≠ []) (ends : escape.closing.getLast? ≠ some '\\')
    {text : Text} (cuts : escape.Cuts before text cutting) (unbroken : '\n' ∉ text)
    {values : List Text} (count : values.length = cutting.spans.length)
    (inert : ∀ value ∈ values, escape.Inert value)
    (guards : before.getLast? = some '\\' → other.getLast? = some '\\') :
    escape.Free other (cutting.filled values) [] := by
  -- What stands before a text matters to it only by being a backslash or not, and neither
  -- a span nor what replaces it ends in one.
  induction cuts generalizing values other with
  | rest free =>
      rw [Cutting.filled, List.zipWith_nil_left]
      exact free.mono guards
  | @span before gap key behind cutting free begins _ _ ih =>
      obtain ⟨value, values, rfl⟩ := List.exists_cons_of_length_eq_add_one count
      have inertHere := inert value List.mem_cons_self
      rw [← List.append_assoc, List.mem_append, not_or] at unbroken
      have behindSpan : (before ++ gap ++ escape.written key).getLast? = some '\\' →
          (other ++ (gap ++ value)).getLast? = some '\\' := by
        intro guarded
        exact absurd guarded (begins.isKey.getLast?_written ends (before ++ gap))
      have later := ih unbroken.2 (Nat.succ.inj count)
        (fun value member => inert value (List.mem_cons_of_mem _ member)) behindSpan
      rw [Cutting.filled_cons, ← List.append_assoc]
      refine Free.append (Free.append ?_ (inertHere.free opens _ _)) later
      exact free.before_replaced begins.isKey unbroken.1 inertHere guards _

end Free

end Escape

namespace Substitution

open Act

variable {σ τ : Type} {world : World σ} {substitution : Substitution} {escape : Escape}
  {session after : Session σ} {line result : Text}

/-- The text is one of those that replace the spans of the line. -/
def Uses (world : World σ) (substitution : Substitution) (escape : Escape)
    (session : Session σ) (line value : Text) : Prop :=
  ∃ cutting values after, escape.Cuts [] line cutting ∧
    from_ session (cutting.keys.mapM (substitution.replacement world)) = (.ok values, after) ∧
      value ∈ values

/-- Every key comes to one value. -/
theorem length_of_mapM {keys values : List Text}
    (found : from_ session (keys.mapM (substitution.replacement world)) = (.ok values, after)) :
    values.length = keys.length := by
  induction keys generalizing session values with
  | nil =>
      cases found
      rfl
  | cons key keys ih =>
      rw [List.mapM_cons, from_bind_eq_ok] at found
      obtain ⟨value, between, _, found⟩ := found
      obtain ⟨others, _, further, last⟩ := from_bind_eq_ok.mp found
      cases last
      exact congrArg (· + 1) (ih further)

/-- A line in which no span begins stays as it is. -/
theorem line_of_free (free : escape.Free [] line []) (world : World σ)
    (substitution : Substitution) : substitution.line world (some escape) line = pure line := by
  have cutting := Escape.cuts_iff.mp (Escape.Cuts.rest free)
  change substitution.pieces world (escape.pieces line) = pure line
  rw [pieces_eq_ofPieces, Escape.pieces]
  rw [List.getLast?_nil] at cutting
  rw [← cutting]
  simp [Cutting.keys, Cutting.filled]

/-- **One pass settles a line.** Let a line be one without line feeds, and the closing escape
one that does not end in a backslash. If its spans are replaced by texts that are inert, no
span is left, and replacing spans again changes nothing and does nothing, whatever the world
and the table. -/
theorem line_settled (opens : escape.opening ≠ []) (ends : escape.closing.getLast? ≠ some '\\')
    (unbroken : '\n' ∉ line)
    (replaced : from_ session (substitution.line world (some escape) line) = (.ok result, after))
    (inert : ∀ value, substitution.Uses world escape session line value → escape.Inert value) :
    escape.Free [] result [] ∧
      ∀ {τ : Type} (elsewhere : World τ) (again : Substitution),
        again.line elsewhere (some escape) result = pure result := by
  have cuts := Escape.cuts_ofPieces escape [] line
  change from_ session (substitution.pieces world (escape.pieces line)) = _ at replaced
  rw [pieces_eq_ofPieces, from_bind_eq_ok] at replaced
  obtain ⟨values, between, found, filled⟩ := replaced
  cases filled
  have count := length_of_mapM found
  rw [Cutting.keys, List.length_map] at count
  have free := cuts.free_filled opens ends unbroken count
    (fun value member => inert value ⟨_, values, _, cuts, found, member⟩) id
  exact ⟨free, fun elsewhere again => line_of_free free elsewhere again⟩

/-- Percent signs as both escapes, one of which is left over. -/
def percent : Escape := ⟨['%'], ['%']⟩

/-- A table with one key. -/
def sizes : Substitution := ⟨[("size".toList, "12".toList)], false⟩

def widthLine : Text := "%size%px, 100%".toList

theorem from_line_widthLine :
    from_ (Session.start ()) (sizes.line .obliging (some percent) widthLine) =
      (.ok "12px, 100%".toList, Session.start ()) := by
  cbv

theorem inert_of_uses_widthLine (value : Text)
    (uses : sizes.Uses .obliging percent (Session.start ()) widthLine value) :
    percent.Inert value := by
  obtain ⟨cutting, values, after, cuts, found, member⟩ := uses
  obtain rfl := Escape.cuts_iff.mp cuts
  have replaced : from_ (Session.start ()) ((Cutting.ofPieces (percent.pieces widthLine)).keys.mapM
      (sizes.replacement .obliging)) = (.ok ["12".toList], Session.start ()) := by cbv
  cases replaced.symm.trans found
  obtain rfl := List.mem_singleton.mp member
  exact ⟨by decide, by simp [percent], by decide⟩

theorem widthLine_settled :
    percent.opening ≠ [] ∧ percent.closing.getLast? ≠ some '\\' ∧ '\n' ∉ widthLine ∧
      from_ (Session.start ()) (sizes.line .obliging (some percent) widthLine) =
        (.ok "12px, 100%".toList, Session.start ()) ∧
      (∀ value, sizes.Uses .obliging percent (Session.start ()) widthLine value →
        percent.Inert value) ∧
      percent.Free [] "12px, 100%".toList [] ∧
        ∀ {τ : Type} (elsewhere : World τ) (again : Substitution),
          again.line elsewhere (some percent) "12px, 100%".toList = pure "12px, 100%".toList := by
  have opens : percent.opening ≠ [] := by decide
  have ends : percent.closing.getLast? ≠ some '\\' := by decide
  have unbroken : '\n' ∉ widthLine := by decide
  exact ⟨opens, ends, unbroken, from_line_widthLine, inert_of_uses_widthLine,
    line_settled opens ends unbroken from_line_widthLine inert_of_uses_widthLine⟩

end Substitution

end Tailor
