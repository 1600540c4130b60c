import Mathlib.Data.List.Forall2
import Tailor.Directive.Line
import Tailor.Proofs.Text.Parts
import Tailor.Proofs.Text.Trimming

/-! # The forms of directives

A line under a mark holds a payload, and the payload is a directive exactly if it has one of
nine forms (`Tailor.Directive.Forms`): a comment, or one of the keywords with what it needs
behind it. The word that a payload begins with is one keyword at most, so no payload is read
in two forms (`Tailor.Directive.Form.unique`), whatever the order in which they are tried. A
payload does not end in a blank, so an argument that is found is never blank. The two facts
together say what every line is (`Tailor.Directive.ofLine_forms`).
-/

namespace Tailor

namespace Keyword

/-- A character that stands for a capital letter in a keyword: the letter in either case, and
what counts as one of its cases. -/
def CountsAs (letter c : Char) : Prop :=
  c.toUpper = letter ∨ letter = 'I' ∧ (c = '\u0130' ∨ c = '\u0131') ∨
    letter = 'S' ∧ c = '\u017F' ∨ letter = 'K' ∧ c = '\u212A'

/-- The word is the keyword in any case. -/
def Spelt (keyword : Keyword) (word : Text) : Prop :=
  List.Forall₂ CountsAs keyword.spelling word

/-- The payload is the keyword, spaces and tabs, and an argument on the same line. -/
inductive Argues (keyword : Keyword) : (payload argument : Text) → Prop where
  | intro {word gap argument : Text} (spelt : keyword.Spelt word) (some_ : gap ≠ [])
      (isGap : ∀ c ∈ gap, c = ' ' ∨ c = '\t') (full : argument ≠ [])
      (unbroken : '\n' ∉ argument) : Argues keyword (word ++ (gap ++ argument)) argument

end Keyword

namespace Directive

/-- The payload is a keyword with an argument that is cut at its first pair of equality
signs. -/
structure Sides (payload left right : Text) : Prop where
  argues : Keyword.ifEqual.Argues payload (left ++ (['=', '='] ++ right))
  first : ∀ other rest, left ++ (['=', '='] ++ right) = other ++ (['=', '='] ++ rest) →
    left.length ≤ other.length

/-- The payload has the form of the directive. -/
inductive Forms : (payload : Text) → Directive → Prop where
  | comment {rest : Text} : Forms ('#' :: rest) .comment
  | defined {payload argument : Text} (argues : Keyword.ifDefined.Argues payload argument) :
      Forms payload (.condition (.defined (Text.trim argument)))
  | undefined {payload argument : Text} (argues : Keyword.ifUndefined.Argues payload argument) :
      Forms payload (.condition (.undefined (Text.trim argument)))
  | equal {payload left right : Text} (sides : Sides payload left right)
      (leftFull : Text.trim left ≠ []) (rightFull : Text.trim right ≠ []) :
      Forms payload (.condition (.equal (Text.trim left) (Text.trim right)))
  | ask {payload argument : Text} (argues : Keyword.ask.Argues payload argument) :
      Forms payload (.ask (Text.trim argument))
  | option {payload argument : Text} (argues : Keyword.option.Argues payload argument) :
      Forms payload (.option (Text.trim argument))
  | otherwise {payload : Text} (spelt : Keyword.otherwise.Spelt payload) :
      Forms payload .otherwise
  | endCondition {payload : Text} (spelt : Keyword.endCondition.Spelt payload) :
      Forms payload .endCondition
  | endAsk {payload : Text} (spelt : Keyword.endAsk.Spelt payload) : Forms payload .endAsk

/-- Behind the leading blanks of the line comes the mark, and the payload is what follows,
trimmed. -/
def Marked (mark line payload : Text) : Prop :=
  mark ≠ [] ∧ ∃ rest, Text.trimLeft line = mark ++ rest ∧ payload = Text.trim rest

/-- The nine forms: a comment, and one for each keyword. -/
inductive Form where
  | comment
  | keyword (keyword : Keyword)
deriving Repr, DecidableEq

/-- What is made of a payload that has the form. -/
def Form.read? (payload : Text) : Form → Option (Except Malformation Directive)
  | .comment => if payload.head? = some '#' then some (.ok .comment) else none
  | .keyword .ifDefined => (argument? .ifDefined payload).map <|
      withArgument .ifDefined fun text => .condition (.defined text)
  | .keyword .ifUndefined => (argument? .ifUndefined payload).map <|
      withArgument .ifUndefined fun text => .condition (.undefined text)
  | .keyword .ifEqual => (sides? payload).map fun (left, right) =>
      if left.isEmpty || right.isEmpty then .error (.blankSide payload)
      else .ok (.condition (.equal left right))
  | .keyword .ask => (argument? .ask payload).map (withArgument .ask .ask)
  | .keyword .option => (argument? .option payload).map (withArgument .option .option)
  | .keyword .otherwise => if isBare .otherwise payload then some (.ok .otherwise) else none
  | .keyword .endCondition =>
      if isBare .endCondition payload then some (.ok .endCondition) else none
  | .keyword .endAsk => if isBare .endAsk payload then some (.ok .endAsk) else none

end Directive

/-! ## Keywords -/

namespace Keyword

variable {keyword : Keyword} {letter c : Char} {capitals text payload rest : Text}

theorem capital_eq_iff (upper : letter.isUpper = true) :
    capital c = letter ↔ CountsAs letter c := by
  unfold CountsAs
  by_cases special : c = '\u0130' ∨ c = '\u0131' ∨ c = '\u017F' ∨ c = '\u212A'
  · have differs : c.toUpper ≠ letter := by
      rintro rfl
      rcases special with rfl | rfl | rfl | rfl <;> cases upper
    simp only [differs, false_or]
    rcases special with rfl | rfl | rfl | rfl <;> simp [capital, eq_comm (a := letter)]
  · simp only [not_or] at special
    simp [capital, special]

theorem isUpper_of_mem_spelling : ∀ letter ∈ keyword.spelling, letter.isUpper = true := by
  cases keyword <;> exact List.all_eq_true.mp rfl

theorem afterCapitals?_eq_some_iff (upper : ∀ letter ∈ capitals, letter.isUpper = true) :
    afterCapitals? capitals text = some rest ↔
      ∃ word, text = word ++ rest ∧ List.Forall₂ CountsAs capitals word := by
  induction capitals generalizing text with
  | nil =>
      rw [afterCapitals?, Option.some.injEq]
      constructor
      · rintro rfl
        exact ⟨[], rfl, .nil⟩
      · rintro ⟨word, rfl, counts⟩
        cases counts
        rfl
  | cons letter capitals ih =>
      obtain ⟨upperHere, upperLater⟩ := List.forall_mem_cons.mp upper
      cases text with
      | nil =>
          constructor
          · intro found
            cases found
          · rintro ⟨word, split, counts⟩
            cases counts with
            | cons => cases split
      | cons c text =>
          rw [afterCapitals?]
          by_cases same : capital c = letter
          · rw [if_pos same, ih upperLater]
            rw [capital_eq_iff upperHere] at same
            constructor
            · rintro ⟨word, rfl, counts⟩
              exact ⟨c :: word, rfl, .cons same counts⟩
            · rintro ⟨word, split, counts⟩
              cases counts with
              | cons _ counts =>
                  cases split
                  exact ⟨_, rfl, counts⟩
          · rw [if_neg same]
            rw [capital_eq_iff upperHere] at same
            constructor
            · intro found
              cases found
            · rintro ⟨word, split, counts⟩
              cases counts with
              | cons here _ =>
                  cases split
                  exact absurd here same

/-- What stands behind a keyword is what follows a word that spells it. -/
theorem after?_eq_some_iff : keyword.after? payload = some rest ↔
    ∃ word, payload = word ++ rest ∧ keyword.Spelt word :=
  afterCapitals?_eq_some_iff isUpper_of_mem_spelling

end Keyword

namespace Directive

open Keyword

variable {keyword other : Keyword} {payload rest argument left right : Text}

theorem isGap_iff {c : Char} : isGap c = true ↔ c = ' ' ∨ c = '\t' := by
  simp [isGap]

/-- The characters of a gap are blanks. -/
theorem isBlank_of_isGap {gap : Text} (isGap : ∀ c ∈ gap, c = ' ' ∨ c = '\t') :
    ∀ c ∈ gap, Text.isBlank c = true := by
  intro c inside
  rcases isGap c inside with rfl | rfl <;> rfl

theorem behindGap?_eq_some_iff : behindGap? rest = some argument ↔
    ∃ c, rest = c :: argument ∧ (c = ' ' ∨ c = '\t') ∧ argument ≠ [] ∧ '\n' ∉ argument := by
  cases rest with
  | nil => simp [behindGap?]
  | cons c rest =>
      simp only [behindGap?, Option.ite_none_right_eq_some, Bool.and_eq_true, Bool.not_eq_true',
        isGap_iff, List.isEmpty_eq_false_iff, List.contains_eq_mem, decide_eq_false_iff_not,
        Option.some.injEq]
      constructor
      · rintro ⟨⟨⟨gap, full⟩, unbroken⟩, rfl⟩
        exact ⟨c, rfl, gap, full, unbroken⟩
      · rintro ⟨_, same, gap, full, unbroken⟩
        cases same
        exact ⟨⟨⟨gap, full⟩, unbroken⟩, rfl⟩

/-- What stands behind the first character of the gap is an argument. -/
theorem argues_of_behindGap? (found : (keyword.after? payload).bind behindGap? = some rest) :
    keyword.Argues payload rest := by
  obtain ⟨_, after, gapped⟩ := Option.bind_eq_some_iff.mp found
  obtain ⟨word, rfl, spelt⟩ := Keyword.after?_eq_some_iff.mp after
  obtain ⟨c, rfl, gap, full, unbroken⟩ := behindGap?_eq_some_iff.mp gapped
  have isGap : ∀ d ∈ [c], d = ' ' ∨ d = '\t' := by
    intro d member
    rwa [List.mem_singleton.mp member]
  exact .intro spelt (List.cons_ne_nil c []) isGap full unbroken

/-- An argument is found with the rest of its gap before it. -/
theorem Argues.exists_gap (argues : keyword.Argues payload argument) :
    ∃ gap, (keyword.after? payload).bind behindGap? = some (gap ++ argument) ∧
      ∀ c ∈ gap, c = ' ' ∨ c = '\t' := by
  cases argues with
  | @intro word gap _ spelt some_ isGap full unbroken =>
      obtain ⟨c, gap, rfl⟩ := List.exists_cons_of_ne_nil some_
      obtain ⟨here, later⟩ := List.forall_mem_cons.mp isGap
      have noBreak : '\n' ∉ gap ++ argument := by
        intro inside
        rcases List.mem_append.mp inside with within | within
        · rcases later _ within with same | same <;> cases same
        · exact unbroken within
      refine ⟨gap, Option.bind_eq_some_iff.mpr ⟨c :: gap ++ argument, ?_, ?_⟩, later⟩
      · exact Keyword.after?_eq_some_iff.mpr ⟨word, rfl, spelt⟩
      · exact behindGap?_eq_some_iff.mpr
          ⟨c, rfl, here, List.append_ne_nil_of_right_ne_nil gap full, noBreak⟩

theorem argument?_eq_some_iff {value : Text} : argument? keyword payload = some value ↔
    ∃ argument, keyword.Argues payload argument ∧ value = Text.trim argument := by
  rw [argument?, Option.map_eq_some_iff]
  constructor
  · rintro ⟨rest, found, rfl⟩
    exact ⟨rest, argues_of_behindGap? found, rfl⟩
  · rintro ⟨argument, argues, rfl⟩
    obtain ⟨gap, found, isGap⟩ := Argues.exists_gap argues
    exact ⟨gap ++ argument, found, Text.trim_append (isBlank_of_isGap isGap) argument⟩

/-- What has no equality sign does not matter to the first pair of them. -/
theorem Sides.length_le (sides : Sides payload left right) {gap before behind : Text}
    (apart : '=' ∉ gap)
    (split : gap ++ (left ++ (['=', '='] ++ right)) = before ++ (['=', '='] ++ behind)) :
    (gap ++ left).length ≤ before.length := by
  rw [List.length_append]
  rcases List.append_eq_append_iff.mp split with ⟨later, rfl, same⟩ | ⟨early, rfl, same⟩
  · have long := sides.first later behind same
    rw [List.length_append]
    omega
  · cases early with
    | nil =>
        have long := sides.first [] behind same.symm
        simp only [List.length_nil, List.append_nil] at long ⊢
        omega
    | cons c early =>
        -- The pair begins before the argument, so there is a sign in the gap.
        obtain rfl : '=' = c := (List.cons.inj same).1
        exact absurd (List.mem_append_right before List.mem_cons_self) apart

theorem sides?_eq_some_iff {values : Text × Text} : sides? payload = some values ↔
    ∃ left right, Sides payload left right ∧ values = (Text.trim left, Text.trim right) := by
  rw [sides?, Option.bind_eq_some_iff]
  simp only [Option.map_eq_some_iff]
  constructor
  · rintro ⟨rest, found, ⟨left, right⟩, cut, rfl⟩
    obtain ⟨rfl, first⟩ := Text.splitOnce?_eq_some_iff.mp cut
    exact ⟨left, right, ⟨argues_of_behindGap? found, first⟩, rfl⟩
  · rintro ⟨left, right, sides, rfl⟩
    obtain ⟨gap, found, isGap⟩ := Argues.exists_gap sides.argues
    have apart : '=' ∉ gap := by
      intro inside
      rcases isGap _ inside with same | same <;> cases same
    refine ⟨_, found, (gap ++ left, right), Text.splitOnce?_eq_some_iff.mpr ⟨?_, ?_⟩, ?_⟩
    · rw [List.append_assoc]
    · exact fun before behind split => sides.length_le apart split
    · rw [Text.trim_append (isBlank_of_isGap isGap)]

theorem isBare_iff : isBare keyword payload = true ↔
    ∃ word gap, payload = word ++ gap ∧ keyword.Spelt word ∧ ∀ c ∈ gap, c = ' ' ∨ c = '\t' := by
  rw [isBare]
  split
  · rename_i rest found
    obtain ⟨word, rfl, spelt⟩ := Keyword.after?_eq_some_iff.mp found
    simp only [List.all_eq_true, isGap_iff]
    constructor
    · exact fun isGap => ⟨word, rest, rfl, spelt, isGap⟩
    · rintro ⟨other, gap, same, speltOther, isGap⟩
      rw [Keyword.after?_eq_some_iff.mpr ⟨other, same, speltOther⟩] at found
      cases found
      exact isGap
  · rename_i missing
    constructor
    · intro holds
      cases holds
    · rintro ⟨word, gap, same, spelt, _⟩
      rw [Keyword.after?_eq_some_iff.mpr ⟨word, same, spelt⟩] at missing
      cases missing

/-! ## One form at most -/

/-- The word that a payload begins with, in capitals. -/
def firstWord (payload : Text) : Text := (payload.takeWhile fun c => !isGap c).map capital

theorem spelling_injective (same : keyword.spelling = other.spelling) : keyword = other := by
  cases keyword <;> cases other <;> simp_all [Keyword.spelling]

/-- A word that spells a keyword, in capitals, is the keyword, and there is no gap in it. -/
theorem capitals_of_counts {capitals word : Text}
    (upper : ∀ letter ∈ capitals, letter.isUpper = true)
    (counts : List.Forall₂ CountsAs capitals word) :
    word.map capital = capitals ∧ ∀ c ∈ word, isGap c = false := by
  induction counts with
  | nil => exact ⟨rfl, List.forall_mem_nil _⟩
  | @cons letter c _ _ here _ ih =>
      obtain ⟨upperHere, upperLater⟩ := List.forall_mem_cons.mp upper
      obtain ⟨same, apart⟩ := ih upperLater
      have counted := (Keyword.capital_eq_iff upperHere).mpr here
      refine ⟨by rw [List.map_cons, counted, same], List.forall_mem_cons.mpr ⟨?_, apart⟩⟩
      apply Bool.eq_false_iff.mpr
      intro gap
      rw [← counted] at upperHere
      rcases isGap_iff.mp gap with rfl | rfl <;> cases upperHere

theorem firstWord_append {word : Text} (spelt : keyword.Spelt word)
    (ends : ∀ c, rest.head? = some c → isGap c = true) :
    firstWord (word ++ rest) = keyword.spelling := by
  obtain ⟨same, apart⟩ := capitals_of_counts Keyword.isUpper_of_mem_spelling spelt
  have taken : ((word ++ rest).takeWhile fun c => !isGap c) = word :=
    (Text.cut_append (by simpa using apart) (by simpa using ends)).1
  rw [firstWord, taken, same]

theorem firstWord_of_argues (argues : keyword.Argues payload argument) :
    firstWord payload = keyword.spelling := by
  cases argues with
  | @intro word gap _ spelt some_ isGap _ _ =>
      obtain ⟨d, gap, rfl⟩ := List.exists_cons_of_ne_nil some_
      apply firstWord_append spelt
      rintro c ⟨⟩
      exact isGap_iff.mpr (isGap d List.mem_cons_self)

theorem firstWord_of_argument? (found : (argument? keyword payload).isSome = true) :
    firstWord payload = keyword.spelling := by
  obtain ⟨value, found⟩ := Option.isSome_iff_exists.mp found
  obtain ⟨argument, argues, _⟩ := argument?_eq_some_iff.mp found
  exact firstWord_of_argues argues

theorem firstWord_of_isBare (bare : isBare keyword payload = true) :
    firstWord payload = keyword.spelling := by
  obtain ⟨word, gap, rfl, spelt, isGap⟩ := isBare_iff.mp bare
  apply firstWord_append spelt
  intro c starts
  exact isGap_iff.mpr (isGap c (List.mem_of_head? starts))

/-- A payload that is read as a keyword begins with it. -/
theorem firstWord_of_read? (read : (Form.read? payload (.keyword keyword)).isSome = true) :
    firstWord payload = keyword.spelling := by
  cases keyword with
  | ifEqual =>
      rw [Form.read?, Option.isSome_map] at read
      obtain ⟨value, found⟩ := Option.isSome_iff_exists.mp read
      obtain ⟨left, right, sides, _⟩ := sides?_eq_some_iff.mp found
      exact firstWord_of_argues sides.argues
  | ifDefined | ifUndefined | ask | option =>
      rw [Form.read?, Option.isSome_map] at read
      exact firstWord_of_argument? read
  | otherwise | endCondition | endAsk =>
      rw [Form.read?, Option.isSome_ite] at read
      exact firstWord_of_isBare read

/-- What begins as a comment begins with no keyword. -/
theorem firstWord_of_comment (read : (Form.read? payload .comment).isSome = true) :
    firstWord payload ≠ keyword.spelling := by
  rw [Form.read?, Option.isSome_ite] at read
  obtain ⟨rest, rfl⟩ := List.head?_eq_some_iff.mp read
  have first : (firstWord ('#' :: rest)).head? = some '#' := rfl
  intro same
  rw [same] at first
  cases keyword <;> cases first

/-- **One form at most.** No payload is read in two of the forms. -/
theorem Form.unique {first second : Form} (read : (first.read? payload).isSome = true)
    (again : (second.read? payload).isSome = true) : first = second := by
  cases first with
  | comment =>
      cases second with
      | comment => rfl
      | keyword keyword => exact absurd (firstWord_of_read? again) (firstWord_of_comment read)
  | keyword keyword =>
      cases second with
      | comment => exact absurd (firstWord_of_read? read) (firstWord_of_comment again)
      | keyword other =>
          have same := (firstWord_of_read? read).symm.trans (firstWord_of_read? again)
          rw [spelling_injective same]

/-- The forms in the order in which they are tried. -/
def Form.inOrder : List Form :=
  .comment :: [.ifDefined, .ifUndefined, .ifEqual, .ask, .option, .otherwise, .endCondition,
    .endAsk].map .keyword

theorem ofPayload_eq (payload : Text) : ofPayload payload =
    (Form.inOrder.findSome? (Form.read? payload)).getD (.error (.unrecognized payload)) := by
  -- Where a form is not there, both go on with the next one.
  have step : ∀ form forms,
      ((form :: forms).findSome? (Form.read? payload)).getD (.error (.unrecognized payload)) =
        match form.read? payload with
        | some outcome => outcome
        | none => (forms.findSome? (Form.read? payload)).getD (.error (.unrecognized payload)) := by
    intro form forms
    rw [List.findSome?_cons]
    cases form.read? payload <;> rfl
  simp only [ofPayload, Form.inOrder, List.map_cons, List.map_nil, step, Form.read?]
  by_cases comment : payload.head? = some '#'
  · simp only [if_pos comment]
  simp only [if_neg comment]
  cases argument? .ifDefined payload with
  | some value => rfl
  | none =>
  cases argument? .ifUndefined payload with
  | some value => rfl
  | none =>
  cases sides? payload with
  | some values => rfl
  | none =>
  cases argument? .ask payload with
  | some value => rfl
  | none =>
  cases argument? .option payload with
  | some value => rfl
  | none =>
  cases isBare .otherwise payload with
  | true => rfl
  | false =>
  cases isBare .endCondition payload with
  | true => rfl
  | false =>
  cases isBare .endAsk payload with
  | true => rfl
  | false => rfl

/-! ## Payloads in their forms -/

section Order

variable {order : List Form} {outcome : Except Malformation Directive}

theorem read_in_order (complete : ∀ form, form ∈ order) :
    order.findSome? (Form.read? payload) = some outcome ↔
      ∃ form, Form.read? payload form = some outcome := by
  constructor
  · intro found
    obtain ⟨form, _, read⟩ := List.exists_of_findSome?_eq_some found
    exact ⟨form, read⟩
  · rintro ⟨form, read⟩
    cases found : order.findSome? (Form.read? payload) with
    | none =>
        have unread := List.findSome?_eq_none_iff.mp found form (complete form)
        rw [unread] at read
        cases read
    | some other =>
        obtain ⟨again, _, readAgain⟩ := List.exists_of_findSome?_eq_some found
        have same : again = form := Form.unique (by rw [readAgain]; rfl) (by rw [read]; rfl)
        rw [← readAgain, same, read]

theorem Form.mem_inOrder (form : Form) : form ∈ Form.inOrder := by
  cases form with
  | comment => exact List.mem_cons_self
  | keyword keyword => cases keyword <;> decide

/-- The forms can be tried in any order. -/
theorem ofPayload_in_order (complete : ∀ form, form ∈ order) (payload : Text) :
    ofPayload payload =
      (order.findSome? (Form.read? payload)).getD (.error (.unrecognized payload)) := by
  have same : order.findSome? (Form.read? payload) =
      Form.inOrder.findSome? (Form.read? payload) := by
    apply Option.ext
    intro outcome
    rw [read_in_order complete, read_in_order Form.mem_inOrder]
  rw [ofPayload_eq, same]

/-- A payload that is recognized is read in one of the forms. -/
theorem ofPayload_eq_iff (recognized : outcome ≠ .error (.unrecognized payload)) :
    ofPayload payload = outcome ↔ ∃ form, Form.read? payload form = some outcome := by
  rw [← read_in_order Form.mem_inOrder, ofPayload_eq]
  cases Form.inOrder.findSome? (Form.read? payload) with
  | none => simp [recognized.symm]
  | some other => simp

end Order

section Trimmed

/-- The text does not end in a blank. -/
def Trimmed (text : Text) : Prop := ∀ c, text.getLast? = some c → Text.isBlank c = false

variable {directive : Directive}

theorem withArgument_eq_ok {make : Text → Directive} :
    withArgument keyword make argument = .ok directive ↔
      argument ≠ [] ∧ directive = make argument := by
  cases argument with
  | nil => simp [withArgument]
  | cons c argument => simp [withArgument, eq_comm]

/-- The argument of a trimmed payload is not blank. -/
theorem trim_ne_nil_of_argues (trimmed : Trimmed payload)
    (argues : keyword.Argues payload argument) : Text.trim argument ≠ [] := by
  cases argues with
  | @intro word gap _ _ _ _ full _ =>
      obtain ⟨c, last⟩ := Option.isSome_iff_exists.mp (List.getLast?_isSome.mpr full)
      have ends : (word ++ (gap ++ argument)).getLast? = some c := by
        rw [List.getLast?_append, List.getLast?_append, last]
        rfl
      intro nothing
      have blank := Text.isBlank_of_trim_eq_nil nothing c (List.mem_of_getLast? last)
      rw [trimmed c ends] at blank
      cases blank

/-- Behind a bare keyword a trimmed payload has nothing. -/
theorem isBare_iff_spelt (trimmed : Trimmed payload) :
    isBare keyword payload = true ↔ keyword.Spelt payload := by
  rw [isBare_iff]
  constructor
  · rintro ⟨word, gap, rfl, spelt, isGap⟩
    cases last : gap.getLast? with
    | none => rwa [List.getLast?_eq_none_iff.mp last, List.append_nil]
    | some c =>
        have ends : (word ++ gap).getLast? = some c := by
          rw [List.getLast?_append, last]
          rfl
        have blank := isBlank_of_isGap isGap c (List.mem_of_getLast? last)
        rw [trimmed c ends] at blank
        cases blank
  · intro spelt
    exact ⟨payload, [], (List.append_nil payload).symm, spelt, List.forall_mem_nil _⟩

theorem read_argument_iff (trimmed : Trimmed payload) {make : Text → Directive} :
    (argument? keyword payload).map (withArgument keyword make) = some (.ok directive) ↔
      ∃ argument, keyword.Argues payload argument ∧ directive = make (Text.trim argument) := by
  simp only [Option.map_eq_some_iff, argument?_eq_some_iff, withArgument_eq_ok]
  constructor
  · rintro ⟨_, ⟨argument, argues, rfl⟩, _, rfl⟩
    exact ⟨argument, argues, rfl⟩
  · rintro ⟨argument, argues, rfl⟩
    exact ⟨_, ⟨argument, argues, rfl⟩, trim_ne_nil_of_argues trimmed argues, rfl⟩

theorem read_sides_iff : Form.read? payload (.keyword .ifEqual) = some (.ok directive) ↔
    ∃ left right, Sides payload left right ∧ Text.trim left ≠ [] ∧ Text.trim right ≠ [] ∧
      directive = .condition (.equal (Text.trim left) (Text.trim right)) := by
  rw [Form.read?, Option.map_eq_some_iff]
  simp only [sides?_eq_some_iff]
  constructor
  · rintro ⟨_, ⟨left, right, sides, rfl⟩, read⟩
    split at read
    · cases read
    · rename_i full
      cases read
      simp only [Bool.or_eq_true, List.isEmpty_iff, not_or] at full
      exact ⟨left, right, sides, full.1, full.2, rfl⟩
  · rintro ⟨left, right, sides, leftFull, rightFull, rfl⟩
    refine ⟨_, ⟨left, right, sides, rfl⟩, ?_⟩
    simp [leftFull, rightFull]

theorem read_bare_iff (trimmed : Trimmed payload) {made : Directive} :
    (if isBare keyword payload then some (.ok made) else none : Option (Except Malformation _)) =
        some (.ok directive) ↔ keyword.Spelt payload ∧ directive = made := by
  simp [isBare_iff_spelt trimmed, eq_comm]

/-- A trimmed payload has the form of the directive that it is read as. -/
theorem forms_iff_read? (trimmed : Trimmed payload) :
    Forms payload directive ↔ ∃ form, Form.read? payload form = some (.ok directive) := by
  constructor
  · intro forms
    cases forms with
    | comment => exact ⟨.comment, rfl⟩
    | defined argues =>
        exact ⟨.keyword .ifDefined, (read_argument_iff trimmed).mpr ⟨_, argues, rfl⟩⟩
    | undefined argues =>
        exact ⟨.keyword .ifUndefined, (read_argument_iff trimmed).mpr ⟨_, argues, rfl⟩⟩
    | equal sides leftFull rightFull =>
        exact ⟨.keyword .ifEqual, read_sides_iff.mpr ⟨_, _, sides, leftFull, rightFull, rfl⟩⟩
    | ask argues => exact ⟨.keyword .ask, (read_argument_iff trimmed).mpr ⟨_, argues, rfl⟩⟩
    | option argues => exact ⟨.keyword .option, (read_argument_iff trimmed).mpr ⟨_, argues, rfl⟩⟩
    | otherwise spelt => exact ⟨.keyword .otherwise, (read_bare_iff trimmed).mpr ⟨spelt, rfl⟩⟩
    | endCondition spelt =>
        exact ⟨.keyword .endCondition, (read_bare_iff trimmed).mpr ⟨spelt, rfl⟩⟩
    | endAsk spelt => exact ⟨.keyword .endAsk, (read_bare_iff trimmed).mpr ⟨spelt, rfl⟩⟩
  · rintro ⟨form, read⟩
    cases form with
    | comment =>
        rw [Form.read?, Option.ite_none_right_eq_some] at read
        obtain ⟨starts, same⟩ := read
        obtain ⟨rest, rfl⟩ := List.head?_eq_some_iff.mp starts
        cases same
        exact .comment
    | keyword keyword =>
        cases keyword with
        | ifDefined =>
            obtain ⟨argument, argues, rfl⟩ := (read_argument_iff trimmed).mp read
            exact .defined argues
        | ifUndefined =>
            obtain ⟨argument, argues, rfl⟩ := (read_argument_iff trimmed).mp read
            exact .undefined argues
        | ifEqual =>
            obtain ⟨left, right, sides, leftFull, rightFull, rfl⟩ := read_sides_iff.mp read
            exact .equal sides leftFull rightFull
        | ask =>
            obtain ⟨argument, argues, rfl⟩ := (read_argument_iff trimmed).mp read
            exact .ask argues
        | option =>
            obtain ⟨argument, argues, rfl⟩ := (read_argument_iff trimmed).mp read
            exact .option argues
        | otherwise =>
            obtain ⟨spelt, rfl⟩ := (read_bare_iff trimmed).mp read
            exact .otherwise spelt
        | endCondition =>
            obtain ⟨spelt, rfl⟩ := (read_bare_iff trimmed).mp read
            exact .endCondition spelt
        | endAsk =>
            obtain ⟨spelt, rfl⟩ := (read_bare_iff trimmed).mp read
            exact .endAsk spelt

theorem ofPayload_eq_ok (trimmed : Trimmed payload) :
    ofPayload payload = .ok directive ↔ Forms payload directive := by
  have recognized : (.ok directive : Except Malformation Directive) ≠
      .error (.unrecognized payload) := nofun
  rw [forms_iff_read? trimmed, ofPayload_eq_iff recognized]

theorem read_argument_ne_blankArgument (trimmed : Trimmed payload) {make : Text → Directive} :
    (argument? keyword payload).map (withArgument keyword make) ≠
      some (.error (.blankArgument other)) := by
  intro read
  obtain ⟨value, found, blank⟩ := Option.map_eq_some_iff.mp read
  obtain ⟨argument, argues, rfl⟩ := argument?_eq_some_iff.mp found
  have full := trim_ne_nil_of_argues trimmed argues
  rw [withArgument, if_neg (by simpa using full)] at blank
  cases blank

/-- A trimmed payload never lacks an argument. -/
theorem ofPayload_ne_blankArgument (trimmed : Trimmed payload) (keyword : Keyword) :
    ofPayload payload ≠ .error (.blankArgument keyword) := by
  intro failed
  have recognized : (.error (.blankArgument keyword) : Except Malformation Directive) ≠
      .error (.unrecognized payload) := nofun
  obtain ⟨form, read⟩ := (ofPayload_eq_iff recognized).mp failed
  cases form with
  | comment =>
      rw [Form.read?, Option.ite_none_right_eq_some] at read
      cases read.2
  | keyword form =>
      cases form with
      | ifDefined | ifUndefined | ask | option => exact read_argument_ne_blankArgument trimmed read
      | ifEqual =>
          rw [Form.read?, Option.map_eq_some_iff] at read
          obtain ⟨⟨left, right⟩, _, blank⟩ := read
          dsimp only at blank
          split at blank <;> cases blank
      | otherwise | endCondition | endAsk =>
          rw [Form.read?, Option.ite_none_right_eq_some] at read
          cases read.2

end Trimmed

/-! ## Lines -/

section Lines

variable {mark line : Text} {directive : Directive}

theorem payload?_eq_some_iff : payload? mark line = some payload ↔ Marked mark line payload := by
  cases mark with
  | nil => simp [payload?, Marked]
  | cons c mark =>
      simp only [payload?, List.isEmpty_cons, Bool.false_eq_true, ↓reduceIte,
        Option.map_eq_some_iff, Text.after?_eq_some_iff]
      constructor
      · rintro ⟨rest, split, rfl⟩
        exact ⟨List.cons_ne_nil c mark, rest, split, rfl⟩
      · rintro ⟨_, rest, split, rfl⟩
        exact ⟨rest, split, rfl⟩

theorem payload?_eq_none_iff :
    payload? mark line = none ↔ mark = [] ∨ ¬ mark <+: Text.trimLeft line := by
  rw [Option.eq_none_iff_forall_ne_some]
  simp only [ne_eq, payload?_eq_some_iff]
  constructor
  · intro unmarked
    by_cases empty : mark = []
    · exact .inl empty
    · refine .inr ?_
      rintro ⟨rest, split⟩
      exact unmarked _ ⟨empty, rest, split.symm, rfl⟩
  · rintro (empty | apart) payload ⟨some_, rest, split, _⟩
    · exact some_ empty
    · exact apart ⟨rest, split.symm⟩

theorem Marked.trimmed (marked : Marked mark line payload) : Trimmed payload := by
  obtain ⟨_, rest, _, rfl⟩ := marked
  exact fun c last => Text.not_isBlank_of_getLast?_trim last

/-- A line is a content line exactly if it has no payload. -/
theorem ofLine_eq_none : ofLine mark line = .ok none ↔ payload? mark line = none := by
  rw [ofLine]
  cases payload? mark line with
  | none => exact iff_of_true rfl rfl
  | some payload => cases read : ofPayload payload <;> simp [read, Except.map]

theorem map_some_injective {first second : Except Malformation Directive}
    (same : first.map some = second.map some) : first = second := by
  cases first <;> cases second <;> cases same <;> rfl

/-- What is not a content line is read as its payload is. -/
theorem ofLine_eq_iff {outcome : Except Malformation Directive} :
    ofLine mark line = outcome.map some ↔
      ∃ payload, Marked mark line payload ∧ ofPayload payload = outcome := by
  simp only [← payload?_eq_some_iff]
  rw [ofLine]
  cases payload? mark line with
  | none =>
      constructor
      · intro content
        cases outcome <;> cases content
      · rintro ⟨_, found, _⟩
        cases found
  | some payload =>
      constructor
      · intro same
        exact ⟨payload, rfl, map_some_injective same⟩
      · rintro ⟨_, found, rfl⟩
        cases found
        rfl

theorem ofLine_eq_some : ofLine mark line = .ok (some directive) ↔
    ∃ payload, Marked mark line payload ∧ ofPayload payload = .ok directive :=
  @ofLine_eq_iff _ _ (.ok directive)

theorem ofLine_eq_error {malformation : Malformation} : ofLine mark line = .error malformation ↔
    ∃ payload, Marked mark line payload ∧ ofPayload payload = .error malformation :=
  @ofLine_eq_iff _ _ (.error malformation)

end Lines

/-- **Lines read exactly.** A line is a content line exactly if its mark is empty or does not
begin it behind its leading blanks. Any other line is the directive whose form its payload
has, and malformed if it has none; a missing argument is never the reason. No payload is
read in two forms, so they can be tried in any order. -/
theorem ofLine_forms (mark line : Text) :
    (ofLine mark line = .ok none ↔ mark = [] ∨ ¬ mark <+: Text.trimLeft line) ∧
    (∀ directive, ofLine mark line = .ok (some directive) ↔
      ∃ payload, Marked mark line payload ∧ Forms payload directive) ∧
    ((∃ malformation, ofLine mark line = .error malformation) ↔
      ∃ payload, Marked mark line payload ∧ ∀ directive, ¬ Forms payload directive) ∧
    (∀ keyword, ofLine mark line ≠ .error (.blankArgument keyword)) ∧
    ∀ payload : Text,
      (∀ first second : Form, (first.read? payload).isSome = true →
        (second.read? payload).isSome = true → first = second) ∧
      ∀ order : List Form, (∀ form, form ∈ order) → ofPayload payload =
        (order.findSome? (Form.read? payload)).getD (.error (.unrecognized payload)) := by
  refine ⟨?_, fun directive => ?_, ?_, fun keyword failed => ?_, fun payload => ⟨?_, ?_⟩⟩
  · rw [ofLine_eq_none, payload?_eq_none_iff]
  · rw [ofLine_eq_some]
    exact exists_congr fun payload => and_congr_right fun marked => ofPayload_eq_ok marked.trimmed
  · simp only [ofLine_eq_error]
    rw [exists_comm]
    refine exists_congr fun payload => ?_
    rw [exists_and_left]
    refine and_congr_right fun marked => ?_
    simp only [← ofPayload_eq_ok marked.trimmed]
    cases ofPayload payload <;> simp
  · obtain ⟨payload, marked, failed⟩ := ofLine_eq_error.mp failed
    exact ofPayload_ne_blankArgument marked.trimmed keyword failed
  · exact fun first second read again => Form.unique read again
  · exact fun order complete => ofPayload_in_order complete payload

theorem ofLine_forms_equal :
    Marked "#~".toList " #~ if a==b ".toList "if a==b".toList ∧
      Forms "if a==b".toList (.condition (.equal ['a'] ['b'])) ∧
      (Form.read? "if a==b".toList (.keyword .ifEqual)).isSome = true ∧
      (∀ form, form ∈ Form.inOrder.reverse) ∧
      ofLine "#~".toList " #~ if a==b ".toList =
        .ok (some (.condition (.equal ['a'] ['b']))) ∧
      (Form.inOrder.reverse.find? fun form => (form.read? "if a==b".toList).isSome) =
        some (.keyword .ifEqual) ∧
      (Form.inOrder.reverse.findSome? (Form.read? "if a==b".toList)).getD
          (.error (.unrecognized "if a==b".toList)) = .ok (.condition (.equal ['a'] ['b'])) := by
  have marked : Marked "#~".toList " #~ if a==b ".toList "if a==b".toList :=
    payload?_eq_some_iff.mp (by decide)
  have made : Forms "if a==b".toList (.condition (.equal ['a'] ['b'])) :=
    (ofPayload_eq_ok marked.trimmed).mp (by decide)
  have read : (Form.read? "if a==b".toList (.keyword .ifEqual)).isSome = true := by decide
  have complete : ∀ form, form ∈ Form.inOrder.reverse :=
    fun form => List.mem_reverse.mpr form.mem_inOrder
  obtain ⟨_, directives, _, _, forms⟩ := ofLine_forms "#~".toList " #~ if a==b ".toList
  obtain ⟨unique, inOrder⟩ := forms "if a==b".toList
  refine ⟨marked, made, read, complete, (directives _).mpr ⟨_, marked, made⟩, ?_, ?_⟩
  · cases found : Form.inOrder.reverse.find? fun form => (form.read? "if a==b".toList).isSome with
    | none => exact absurd read (List.find?_eq_none.mp found _ (complete _))
    | some form =>
        have again := List.find?_some found
        rw [unique form _ again read]
  · rw [← inOrder _ complete]
    exact (ofPayload_eq_ok marked.trimmed).mpr made

end Directive

end Tailor
