import Mathlib.Data.List.Basic
import Tailor.Expression.Token
import Tailor.Proofs.Text.Parts

/-! # Expressions split into tokens

An expression is split from left to right. Which token stands at the beginning of a
text is said by what the token writes and by what follows it
(`Tailor.Expression.Stands`), so a reference that cannot be read has an end as well, and
the split goes on behind it. A text has one split (`Tailor.Expression.exists_split`), whose
tokens write it (`Tailor.Expression.Scans.split`), and the tokens of an expression are those
of its split up to the first reference that cannot be read
(`Tailor.Expression.Splits.tokens_eq`).
-/

namespace Tailor.Expression

/-! ## Bodies of commands -/

/-- Every closing parenthesis in the text, which comes behind `before`, stands directly
behind a backslash. -/
def Guarded (before text : Text) : Prop :=
  ∀ part more, text = part ++ ')' :: more → (before ++ part).getLast? = some '\\'

/-- What a closing parenthesis that does not stand directly behind a backslash ends, if it
is the first one. -/
structure IsBody (body : Text) : Prop where
  guarded : Guarded [] body
  ends : body.getLast? ≠ some '\\'

/-- How often a character stands directly behind another one. -/
def countBehind (previous c : Char) (text : Text) : Nat :=
  (text.zip text.tail).count (previous, c)

/-- The parentheses that open without a backslash directly before them are no more than
those that close behind one. -/
def Balanced (body : Text) : Prop :=
  body.count '(' - countBehind '\\' '(' body ≤ countBehind '\\' ')' body

def isParenthesis (c : Char) : Bool := c == '(' || c == ')'

/-- The text without the backslashes that stand directly before parentheses. -/
def withoutGuards (text : Text) : Text :=
  ((text.zip (text.tail.map some ++ [none])).filter fun (c, next?) =>
    !(c == '\\' && next?.any isParenthesis)).map Prod.fst

section Guarded

variable {c : Char} {before other text body after : Text}

theorem guarded_nil (before : Text) : Guarded before [] := by
  intro part more split
  simp at split

theorem guarded_cons : Guarded before (c :: text) ↔
    (c = ')' → before.getLast? = some '\\') ∧ Guarded (before ++ [c]) text := by
  constructor
  · intro guarded
    constructor
    · rintro rfl
      have ends := guarded [] text rfl
      rwa [List.append_nil] at ends
    · rintro part more rfl
      rw [List.append_assoc]
      exact guarded (c :: part) more rfl
  · rintro ⟨first, later⟩ part more split
    cases part with
    | nil =>
        cases split
        rw [List.append_nil]
        exact first rfl
    | cons d part =>
        cases split
        have ends := later part more rfl
        rwa [List.append_assoc] at ends

/-- What comes before a text matters only to a closing parenthesis at its beginning. -/
theorem guarded_congr (same : text.head? = some ')' →
    (before.getLast? = some '\\' ↔ other.getLast? = some '\\')) :
    Guarded before text ↔ Guarded other text := by
  unfold Guarded
  refine forall_congr' fun part => forall_congr' fun more => forall_congr' fun split => ?_
  cases part with
  | nil =>
      rw [List.append_nil, List.append_nil]
      exact same (by rw [split]; rfl)
  | cons d part => rw [List.getLast?_append_cons, List.getLast?_append_cons]

/-- A closing parenthesis goes with the backslash before it. -/
theorem guarded_escaped : Guarded [] ('\\' :: ')' :: text) ↔ Guarded [] text := by
  have behind : Guarded ['\\', ')'] text ↔ Guarded [] text := by
    apply guarded_congr
    simp
  simp [guarded_cons, behind]

/-- Any other character is guarded for itself unless it is a closing parenthesis. -/
theorem guarded_single (other : ∀ rest, c = '\\' → text ≠ ')' :: rest) :
    Guarded [] (c :: text) ↔ c ≠ ')' ∧ Guarded [] text := by
  have behind : Guarded [c] text ↔ Guarded [] text := by
    apply guarded_congr
    intro closes
    obtain ⟨rest, rfl⟩ := List.head?_eq_some_iff.mp closes
    have differs : c ≠ '\\' := fun same => other rest same rfl
    simp [differs]
  simp [guarded_cons, behind]

theorem isBody_nil : IsBody [] := ⟨guarded_nil [], by simp⟩

theorem isBody_escaped : IsBody ('\\' :: ')' :: text) ↔ IsBody text := by
  have ends : ('\\' :: ')' :: text).getLast? = some '\\' ↔ text.getLast? = some '\\' := by
    rw [List.getLast?_cons_cons, List.getLast?_cons]
    cases text.getLast? <;> simp
  constructor
  · rintro ⟨guarded, last⟩
    exact ⟨guarded_escaped.mp guarded, fun same => last (ends.mpr same)⟩
  · rintro ⟨guarded, last⟩
    exact ⟨guarded_escaped.mpr guarded, fun same => last (ends.mp same)⟩

/-- So is it in a body that a closing parenthesis follows. -/
theorem isBody_single (other : ∀ rest, c = '\\' → text ++ ')' :: after ≠ ')' :: rest) :
    IsBody (c :: text) ↔ c ≠ ')' ∧ IsBody text := by
  have single : Guarded [] (c :: text) ↔ c ≠ ')' ∧ Guarded [] text := by
    apply guarded_single
    rintro more same rfl
    exact other _ same rfl
  have ends : (c :: text).getLast? = some '\\' ↔ text.getLast? = some '\\' := by
    cases text with
    | nil => simpa using fun same => other _ same rfl
    | cons d text => rw [List.getLast?_cons_cons]
  constructor
  · rintro ⟨guarded, last⟩
    exact ⟨(single.mp guarded).1, (single.mp guarded).2, mt ends.mpr last⟩
  · rintro ⟨differs, guarded, last⟩
    exact ⟨single.mpr ⟨differs, guarded⟩, mt ends.mp last⟩

theorem splitBody?_eq_none_iff : splitBody? text = none ↔ Guarded [] text := by
  fun_induction splitBody? text with
  | case1 => simp [guarded_nil]
  | case2 rest ih => rw [Option.map_eq_none_iff, ih, guarded_escaped]
  | case3 rest => simp [guarded_cons]
  | case4 c rest other differs ih =>
      rw [Option.map_eq_none_iff, ih, guarded_single fun r same split => other r same split]
      simp [differs]

/-- A body is found up to the first closing parenthesis that is not guarded. -/
theorem splitBody?_eq_some_iff :
    splitBody? text = some (body, after) ↔ text = body ++ ')' :: after ∧ IsBody body := by
  fun_induction splitBody? text generalizing body after with
  | case1 => simp
  | case2 rest ih =>
      simp only [Option.map_eq_some_iff, Prod.exists, Prod.mk.injEq]
      constructor
      · rintro ⟨inner, _, found, rfl, rfl⟩
        obtain ⟨rfl, isBody⟩ := ih.mp found
        exact ⟨rfl, isBody_escaped.mpr isBody⟩
      · rintro ⟨split, isBody⟩
        cases body with
        | nil => cases split
        | cons c body =>
            obtain ⟨rfl, split⟩ := List.cons.inj split
            cases body with
            | nil => exact absurd rfl isBody.ends
            | cons d inner =>
                cases split
                exact ⟨inner, after, ih.mpr ⟨rfl, isBody_escaped.mp isBody⟩, rfl, rfl⟩
  | case3 rest =>
      simp only [Option.some.injEq, Prod.mk.injEq]
      constructor
      · rintro ⟨rfl, rfl⟩
        exact ⟨rfl, isBody_nil⟩
      · rintro ⟨split, isBody⟩
        cases body with
        | nil =>
            cases split
            exact ⟨rfl, rfl⟩
        | cons c body =>
            cases split
            cases isBody.guarded [] body rfl
  | case4 c rest other differs ih =>
      simp only [Option.map_eq_some_iff, Prod.exists, Prod.mk.injEq]
      constructor
      · rintro ⟨inner, _, found, rfl, rfl⟩
        obtain ⟨rfl, isBody⟩ := ih.mp found
        exact ⟨rfl, (isBody_single other).mpr ⟨differs, isBody⟩⟩
      · rintro ⟨split, isBody⟩
        cases body with
        | nil =>
            cases split
            exact absurd rfl differs
        | cons d inner =>
            cases split
            exact ⟨inner, after, ih.mpr ⟨rfl, ((isBody_single other).mp isBody).2⟩, rfl, rfl⟩

end Guarded

section Counts

variable {previous c a : Char} {text body : Text}

theorem countBehind_cons : countBehind previous c (a :: text) =
    countBehind previous c text + if a = previous ∧ text.head? = some c then 1 else 0 := by
  cases text with
  | nil => simp [countBehind]
  | cons b text => simp [countBehind, List.count_cons]

/-- The parentheses that open are those behind backslashes and the others. -/
theorem openings_add_countBehind (body : Text) :
    openings body + countBehind '\\' '(' body = body.count '(' := by
  fun_induction openings body with
  | case1 => rfl
  | case2 rest ih =>
      simp only [countBehind_cons, List.count_cons]
      simp
      omega
  | case3 c rest other ih =>
      have apart : ¬ (c = '\\' ∧ rest.head? = some '(') := by
        rintro ⟨same, opens⟩
        obtain ⟨more, split⟩ := List.head?_eq_some_iff.mp opens
        exact other more same split
      simp only [countBehind_cons, if_neg apart, List.count_cons, beq_iff_eq]
      omega

/-- Where all closing parentheses stand behind backslashes these are all that there are. -/
theorem count_eq_countBehind (guarded : Guarded [a] text) :
    text.count ')' = countBehind '\\' ')' (a :: text) := by
  induction text generalizing a with
  | nil => rfl
  | cons b text ih =>
      obtain ⟨first, later⟩ := guarded_cons.mp guarded
      have further : Guarded [b] text := (guarded_congr (by simp)).mp later
      rw [countBehind_cons, ← ih further, List.count_cons, List.head?_cons]
      by_cases closes : b = ')'
      · have escaped : a = '\\' := by simpa using first closes
        simp [closes, escaped]
      · simp [closes]

theorem IsBody.count_eq (isBody : IsBody body) : body.count ')' = countBehind '\\' ')' body := by
  cases body with
  | nil => rfl
  | cons b body =>
      obtain ⟨first, later⟩ := guarded_cons.mp isBody.guarded
      have differs : b ≠ ')' := by
        intro same
        cases first same
      rw [List.count_cons_of_ne differs]
      exact count_eq_countBehind later

theorem IsBody.balanced_iff (isBody : IsBody body) :
    Balanced body ↔ openings body ≤ body.count ')' := by
  have total := openings_add_countBehind body
  rw [Balanced, isBody.count_eq]
  omega

theorem withoutGuards_cons : withoutGuards (c :: text) =
    if c = '\\' ∧ text.head?.any isParenthesis then withoutGuards text
    else c :: withoutGuards text := by
  cases text with
  | nil => simp [withoutGuards]
  | cons d text =>
      by_cases guards : c = '\\' ∧ isParenthesis d
      · simp [withoutGuards, guards]
      · have kept : ¬ c = '\\' ∨ isParenthesis d = false := by
          simpa using not_and_or.mp guards
        simp [withoutGuards, guards, kept]

theorem unescape_eq (body : Text) : unescape body = withoutGuards body := by
  fun_induction unescape body with
  | case1 => rfl
  | case2 rest ih | case3 rest ih =>
      rw [ih, withoutGuards_cons, withoutGuards_cons]
      simp [isParenthesis]
  | case4 c rest noOpening noClosing ih =>
      rw [ih, withoutGuards_cons, if_neg]
      rintro ⟨same, guards⟩
      cases rest with
      | nil => cases guards
      | cons d rest =>
          simp only [List.head?_cons, Option.any_some, isParenthesis, Bool.or_eq_true,
            beq_iff_eq] at guards
          rcases guards with rfl | rfl
          · exact noOpening rest same rfl
          · exact noClosing rest same rfl

end Counts

/-! ## Tokens in their place -/

/-- The letters of names. -/
def IsLetter (c : Char) : Prop := 'A' ≤ c ∧ c ≤ 'Z' ∨ 'a' ≤ c ∧ c ≤ 'z' ∨ c = '_'

/-- A name is not empty and has only such letters. -/
def IsName (name : Text) : Prop := name ≠ [] ∧ ∀ c ∈ name, IsLetter c

def Flaw.written : Flaw → Text
  | .openName rest => '$' :: '{' :: rest
  | .badName name => '$' :: '{' :: (name ++ ['}'])
  | .ambiguousEnd body => '$' :: '(' :: (body ++ [')'])
  | .openCommand rest => '$' :: '(' :: rest

/-- What a token takes of the text. -/
def Token.written : Token → Text
  | .literal c => [c]
  | .escapedDollar => ['\\', '$']
  | .variable name => '$' :: name
  | .bracedVariable name => '$' :: '{' :: (name ++ ['}'])
  | .command body => '$' :: '(' :: (body ++ [')'])
  | .flawed flaw => flaw.written

/-- The flaw is what a text with this behind it begins with. -/
inductive Flaw.Stands : Flaw → (behind : Text) → Prop where
  | openName {rest : Text} (unclosed : '}' ∉ rest) : Stands (.openName rest) []
  | badName {name behind : Text} (first : '}' ∉ name) (noName : ¬ IsName name) :
      Stands (.badName name) behind
  | ambiguousEnd {body behind : Text} (isBody : IsBody body) (unbalanced : ¬ Balanced body) :
      Stands (.ambiguousEnd body) behind
  | openCommand {rest : Text} (unclosed : Guarded [] rest) : Stands (.openCommand rest) []

/-- The token is what a text with this behind it begins with. -/
inductive Stands : Token → (behind : Text) → Prop where
  /-- A character that is no dollar sign, and no backslash before one. -/
  | literal {c : Char} {behind : Text} (noDollar : c ≠ '$')
      (noEscape : c = '\\' → behind.head? ≠ some '$') : Stands (.literal c) behind
  /-- A dollar sign that begins no reference. -/
  | dollar {behind : Text} (bare : ∀ c, behind.head? = some c →
      ¬ IsLetter c ∧ c ≠ '{' ∧ c ≠ '(') : Stands (.literal '$') behind
  | escapedDollar {behind : Text} : Stands .escapedDollar behind
  /-- A name that goes on as long as it can. -/
  | variable {name behind : Text} (isName : IsName name)
      (longest : ∀ c, behind.head? = some c → ¬ IsLetter c) :
      Stands (.variable name) behind
  | bracedVariable {name behind : Text} (isName : IsName name) :
      Stands (.bracedVariable name) behind
  | command {body behind : Text} (isBody : IsBody body) (balanced : Balanced body) :
      Stands (.command body) behind
  | flawed {flaw : Flaw} {behind : Text} (stands : flaw.Stands behind) :
      Stands (.flawed flaw) behind

/-- The text begins with these tokens, one after the other, and goes on with the rest. -/
inductive Scans : (text : Text) → List Token → (rest : Text) → Prop where
  | done {rest : Text} : Scans rest [] rest
  | token {token : Token} {behind rest : Text} {tokens : List Token}
      (stands : Stands token behind) (further : Scans behind tokens rest) :
      Scans (token.written ++ behind) (token :: tokens) rest

/-- The whole text is split into these tokens. -/
def Splits (text : Text) (tokens : List Token) : Prop := Scans text tokens []

/-- What is left behind a token: a reference that cannot be read ends an expression. -/
def Token.left (behind : Text) : Token → Text
  | .flawed _ => []
  | _ => behind

section Stands

variable {c : Char} {text behind rest : Text} {token : Token}

theorem isNameChar_iff {c : Char} : isNameChar c = true ↔ IsLetter c := by
  have upper : c.isUpper = true ↔ 'A' ≤ c ∧ c ≤ 'Z' := decide_eq_true_iff
  have lower : c.isLower = true ↔ 'a' ≤ c ∧ c ≤ 'z' :=
    Bool.and_eq_true_iff.trans (and_congr decide_eq_true_iff decide_eq_true_iff)
  change (c.isUpper || c.isLower || c == '_') = true ↔ _
  rw [Bool.or_eq_true, Bool.or_eq_true, upper, lower, beq_iff_eq, or_assoc, IsLetter]

theorem isName_iff {name : Text} :
    IsName name ↔ (!name.isEmpty && name.all isNameChar) = true := by
  simp [IsName, isNameChar_iff]

theorem IsName.not_mem {name : Text} (isName : IsName name) : '}' ∉ name := by
  intro inside
  cases isNameChar_iff.mpr (isName.2 _ inside)

theorem bracedToken_append {name : Text} (first : '}' ∉ name) (behind : Text) :
    bracedToken (name ++ '}' :: behind) =
      if !name.isEmpty && name.all isNameChar then (.bracedVariable name, behind)
      else (.flawed (.badName name), []) := by
  rw [bracedToken, Text.splitOnce?_append first]

theorem commandToken_append {body : Text} (isBody : IsBody body) (behind : Text) :
    commandToken (body ++ ')' :: behind) =
      if openings body > body.count ')' then (.flawed (.ambiguousEnd body), [])
      else (.command body, behind) := by
  rw [commandToken, splitBody?_eq_some_iff.mpr ⟨rfl, isBody⟩]

theorem firstToken_literal (commands : Bool) (noDollar : c ≠ '$')
    (noEscape : c = '\\' → rest.head? ≠ some '$') :
    firstToken commands c rest = (.literal c, rest) := by
  unfold firstToken
  split
  · exact absurd rfl (noEscape rfl)
  · exact absurd rfl noDollar
  · exact absurd rfl noDollar
  · exact absurd rfl noDollar
  · rfl

/-- Behind a dollar sign that opens neither a brace nor a parenthesis a name is read. -/
theorem firstToken_dollar (commands : Bool)
    (unopened : ∀ c, rest.head? = some c → c ≠ '{' ∧ c ≠ '(') :
    firstToken commands '$' rest =
      if (rest.takeWhile isNameChar).isEmpty then (.literal '$', rest)
      else (.variable (rest.takeWhile isNameChar), rest.dropWhile isNameChar) := by
  cases rest with
  | nil => rfl
  | cons d rest =>
      obtain ⟨noBrace, noParenthesis⟩ := unopened d rfl
      simp [firstToken, noBrace, noParenthesis]

/-- A name ends where the first other character stands. -/
theorem cut_name {name : Text} (letters : ∀ c ∈ name, IsLetter c)
    (longest : ∀ c, behind.head? = some c → ¬ IsLetter c) :
    (name ++ behind).takeWhile isNameChar = name ∧
      (name ++ behind).dropWhile isNameChar = behind := by
  simp only [← isNameChar_iff, Bool.not_eq_true] at letters longest
  exact Text.cut_append letters longest

theorem Flaw.Stands.firstToken {flaw : Flaw} (stands : flaw.Stands behind)
    (split : c :: rest = flaw.written ++ behind) :
    firstToken true c rest = (.flawed flaw, []) := by
  cases stands with
  | openName unclosed =>
      rw [List.append_nil] at split
      cases split
      change bracedToken _ = _
      rw [bracedToken, Text.splitOnce?_of_not_mem unclosed]
  | badName first noName =>
      simp only [Flaw.written, List.cons_append, List.append_assoc] at split
      cases split
      rw [isName_iff] at noName
      exact (bracedToken_append first behind).trans (if_neg noName)
  | ambiguousEnd isBody unbalanced =>
      simp only [Flaw.written, List.cons_append, List.append_assoc] at split
      cases split
      rw [isBody.balanced_iff, Nat.not_le] at unbalanced
      exact (commandToken_append isBody behind).trans (if_pos unbalanced)
  | openCommand unclosed =>
      rw [List.append_nil] at split
      cases split
      change commandToken _ = _
      rw [commandToken, splitBody?_eq_none_iff.mpr unclosed]

/-- The token that a text begins with is found. -/
theorem Stands.firstToken (stands : Stands token behind)
    (split : c :: rest = token.written ++ behind) :
    firstToken true c rest = (token, token.left behind) := by
  cases stands with
  | literal noDollar noEscape =>
      cases split
      exact firstToken_literal true noDollar noEscape
  | dollar bare =>
      rw [Token.written, List.singleton_append] at split
      cases split
      rw [firstToken_dollar true fun c starts => (bare c starts).2]
      have nothing : ∀ c ∈ ([] : Text), IsLetter c := List.forall_mem_nil _
      have unnamed := (cut_name nothing fun c starts => (bare c starts).1).1
      rw [List.nil_append] at unnamed
      rw [unnamed]
      rfl
  | escapedDollar =>
      cases split
      rfl
  | @«variable» name behind isName longest =>
      rw [Token.written, List.cons_append] at split
      cases split
      obtain ⟨taken, dropped⟩ := cut_name isName.2 longest
      obtain ⟨n, name, rfl⟩ := List.exists_cons_of_ne_nil isName.1
      rw [firstToken_dollar, taken, dropped]
      · rfl
      · intro c starts
        obtain rfl : n = c := Option.some.inj starts
        have isChar := isNameChar_iff.mpr (isName.2 n List.mem_cons_self)
        constructor
        · rintro rfl
          cases isChar
        · rintro rfl
          cases isChar
  | bracedVariable isName =>
      simp only [Token.written, List.cons_append, List.append_assoc] at split
      cases split
      exact (bracedToken_append isName.not_mem behind).trans (if_pos (isName_iff.mp isName))
  | command isBody balanced =>
      simp only [Token.written, List.cons_append, List.append_assoc] at split
      cases split
      rw [isBody.balanced_iff, ← Nat.not_lt] at balanced
      exact (commandToken_append isBody behind).trans (if_neg balanced)
  | flawed stands => exact Flaw.Stands.firstToken stands split

/-- What begins with a dollar sign and a brace is a token, well formed or not. -/
theorem exists_stands_brace (after : Text) :
    ∃ token behind, '$' :: '{' :: after = token.written ++ behind ∧ Stands token behind := by
  by_cases closed : '}' ∈ after
  · obtain ⟨name, behind, rfl, first⟩ := List.eq_append_cons_of_mem closed
    by_cases isName : IsName name
    · exact ⟨.bracedVariable name, behind, by simp [Token.written], .bracedVariable isName⟩
    · exact ⟨.flawed (.badName name), behind, by simp [Token.written, Flaw.written],
        .flawed (.badName first isName)⟩
  · exact ⟨.flawed (.openName after), [], by simp [Token.written, Flaw.written],
      .flawed (.openName closed)⟩

theorem exists_stands_parenthesis (after : Text) :
    ∃ token behind, '$' :: '(' :: after = token.written ++ behind ∧ Stands token behind := by
  cases found : splitBody? after with
  | none =>
      exact ⟨.flawed (.openCommand after), [], by simp [Token.written, Flaw.written],
        .flawed (.openCommand (splitBody?_eq_none_iff.mp found))⟩
  | some parts =>
      obtain ⟨body, behind⟩ := parts
      obtain ⟨rfl, isBody⟩ := splitBody?_eq_some_iff.mp found
      by_cases balanced : Balanced body
      · exact ⟨.command body, behind, by simp [Token.written], .command isBody balanced⟩
      · exact ⟨.flawed (.ambiguousEnd body), behind, by simp [Token.written, Flaw.written],
          .flawed (.ambiguousEnd isBody balanced)⟩

theorem exists_stands_dollar (rest : Text) :
    ∃ token behind, '$' :: rest = token.written ++ behind ∧ Stands token behind := by
  cases rest with
  | nil => exact ⟨.literal '$', [], rfl, .dollar (by simp)⟩
  | cons d rest =>
      by_cases brace : d = '{'
      · subst brace
        exact exists_stands_brace rest
      · by_cases parenthesis : d = '('
        · subst parenthesis
          exact exists_stands_parenthesis rest
        · by_cases named : isNameChar d = true
          · refine ⟨.variable ((d :: rest).takeWhile isNameChar),
              (d :: rest).dropWhile isNameChar, ?_, .variable ⟨?_, ?_⟩ ?_⟩
            · rw [Token.written, List.cons_append, List.takeWhile_append_dropWhile]
            · simp [named]
            · intro c taken
              exact isNameChar_iff.mp (List.all_eq_true.mp List.all_takeWhile c taken)
            · intro c starts
              have ended := List.head?_dropWhile_not isNameChar (d :: rest)
              rw [starts] at ended
              rw [← isNameChar_iff, ended]
              exact Bool.false_ne_true
          · refine ⟨.literal '$', d :: rest, rfl, .dollar ?_⟩
            rintro c ⟨⟩
            exact ⟨fun letter => named (isNameChar_iff.mpr letter), brace, parenthesis⟩

/-- Every text begins with a token. -/
theorem exists_stands (c : Char) (rest : Text) :
    ∃ token behind, c :: rest = token.written ++ behind ∧ Stands token behind := by
  by_cases dollar : c = '$'
  · subst dollar
    exact exists_stands_dollar rest
  · by_cases escaped : c = '\\' ∧ rest.head? = some '$'
    · obtain ⟨rfl, starts⟩ := escaped
      obtain ⟨behind, rfl⟩ := List.head?_eq_some_iff.mp starts
      exact ⟨.escapedDollar, behind, rfl, .escapedDollar⟩
    · exact ⟨.literal c, rest, rfl, .literal dollar fun same starts => escaped ⟨same, starts⟩⟩

theorem Token.exists_written (token : Token) : ∃ c rest, token.written = c :: rest := by
  cases token with
  | flawed flaw => cases flaw <;> exact ⟨_, _, rfl⟩
  | _ => exact ⟨_, _, rfl⟩

/-- Only one token stands at the beginning of a text. -/
theorem Stands.unique {other : Token} {further : Text} (stands : Stands token behind)
    (again : Stands other further) (same : token.written ++ behind = other.written ++ further) :
    token = other ∧ behind = further := by
  obtain ⟨c, rest, begins⟩ := token.exists_written
  have split : c :: (rest ++ behind) = token.written ++ behind := by rw [begins, List.cons_append]
  have found := stands.firstToken split
  rw [again.firstToken (split.trans same), Prod.mk.injEq] at found
  obtain ⟨rfl, _⟩ := found
  exact ⟨rfl, List.append_cancel_left same⟩

end Stands

/-! ## The split of a text -/

section Splits

variable {text rest : Text} {before tokens others : List Token}

theorem Scans.append (first : Scans text before rest) (further : Splits rest tokens) :
    Splits text (before ++ tokens) := by
  induction first with
  | done => exact further
  | token stands _ ih => exact .token stands (ih further)

/-- Scanning a text takes from it what the tokens write. -/
theorem Scans.split (scans : Scans text before rest) :
    text = before.flatMap Token.written ++ rest := by
  induction scans with
  | done => rfl
  | token _ _ ih => rw [List.flatMap_cons, List.append_assoc, ← ih]

theorem splits_nil : Splits [] tokens ↔ tokens = [] := by
  constructor
  · intro splits
    generalize whole : ([] : Text) = text at splits
    cases splits with
    | done => rfl
    | @token token behind _ _ _ _ =>
        obtain ⟨c, more, begins⟩ := token.exists_written
        simp [begins] at whole
  · rintro rfl
    exact .done

theorem Splits.unique (splits : Splits text tokens) (again : Splits text others) :
    tokens = others := by
  induction tokens generalizing text others with
  | nil =>
      cases splits
      exact (splits_nil.mp again).symm
  | cons token tokens ih =>
      generalize whole : text = same at again
      cases splits with
      | token stands further =>
          cases again with
          | done =>
              obtain ⟨c, more, begins⟩ := token.exists_written
              simp [begins] at whole
          | token standsAgain furtherAgain =>
              obtain ⟨rfl, rfl⟩ := stands.unique standsAgain whole
              rw [ih further furtherAgain]

theorem exists_splits (text : Text) : ∃ tokens, Splits text tokens := by
  induction length : text.length using Nat.strongRecOn generalizing text with
  | ind size ih =>
  subst length
  cases text with
  | nil => exact ⟨[], .done⟩
  | cons c rest =>
      obtain ⟨token, behind, split, stands⟩ := exists_stands c rest
      obtain ⟨d, more, begins⟩ := token.exists_written
      -- No token is empty, so what is left behind it is shorter.
      have shorter : behind.length < (c :: rest).length := by
        rw [split, begins, List.length_append, List.length_cons]
        omega
      obtain ⟨tokens, splits⟩ := ih _ shorter behind rfl
      rw [split]
      exact ⟨token :: tokens, .token stands splits⟩

/-- **One split.** A text is split into tokens in one way only. -/
theorem exists_split (text : Text) :
    ∃ tokens, ∀ others, Splits text others ↔ others = tokens := by
  obtain ⟨tokens, splits⟩ := exists_splits text
  refine ⟨tokens, fun others => ⟨fun again => again.unique splits, ?_⟩⟩
  rintro rfl
  exact splits

/-- The tokens up to the first reference that cannot be read. -/
def untilFlaw : List Token → List Token
  | [] => []
  | .flawed flaw :: _ => [.flawed flaw]
  | token :: tokens => token :: untilFlaw tokens

/-- An expression has the tokens of its split up to the first reference that cannot be
read. -/
theorem Splits.tokens_eq (splits : Splits text tokens) :
    Expression.tokens true text = untilFlaw tokens := by
  induction tokens generalizing text with
  | nil =>
      cases splits
      rw [Expression.tokens, untilFlaw]
  | cons token tokens ih =>
      cases splits with
      | @token _ behind _ _ stands further =>
          obtain ⟨c, rest, begins⟩ := token.exists_written
          have split : c :: (rest ++ behind) = token.written ++ behind := by
            rw [begins, List.cons_append]
          rw [← split, Expression.tokens, stands.firstToken split]
          cases token with
          | flawed flaw => rw [untilFlaw, Token.left, Expression.tokens]
          | _ => exact congrArg _ (ih further)

end Splits

end Tailor.Expression
