import Mathlib
import Tailor.Expression.Value
import Tailor.Proofs.Expression.Splitting

/-! # Variables alone

Where only the variables of a text are filled in, no reference to a command is recognized:
its dollar sign and its parentheses stand for themselves, and what is between them is filled
in like any other part of the text (`Tailor.Expression.expandVariables_reference`). So a
reference stays as it is written if its body refers to no variable, and otherwise its body
changes (`Tailor.Expression.body_filled`).
-/

namespace Tailor.Expression

variable {lookup : Text → Option Text} {c d : Char} {text rest more value : Text}

/-- No token of a text takes in this character where it comes behind the text. -/
structure StandsApart (text : Text) (d : Char) : Prop where
  noLetter : ¬ IsLetter d
  noOpening : d ≠ '{'
  noClosing : d ≠ '}'
  noEscape : d = '$' → text.getLast? ≠ some '\\'

theorem StandsApart.of_suffix (apart : StandsApart text d) (suffix : rest <:+ text) :
    StandsApart rest d where
  noLetter := apart.noLetter
  noOpening := apart.noOpening
  noClosing := apart.noClosing
  noEscape dollar ends := by
    obtain ⟨before, rfl⟩ := suffix
    refine apart.noEscape dollar ?_
    rw [List.getLast?_append, ends, Option.some_or]

/-- The token has no value, whatever the variables. -/
def Token.IsFlawed (token : Token) : Prop := ∃ flaw, token = .flawed flaw

/-- What stands between braces and is no name is a flaw, and so is a brace that is not
closed. -/
theorem bracedToken_flawed (open_ : '}' ∉ text) (noClosing : d ≠ '}') (noLetter : ¬ IsLetter d)
    (more : Text) : (bracedToken (text ++ d :: more)).1.IsFlawed := by
  by_cases closed : '}' ∈ more
  · obtain ⟨name, behind, rfl, first⟩ := List.eq_append_cons_of_mem closed
    have unclosed : '}' ∉ text ++ d :: name := by simp [open_, noClosing.symm, first]
    have noName : ¬ IsName (text ++ d :: name) := fun isName => noLetter (isName.2 d (by simp))
    rw [isName_iff] at noName
    have found := bracedToken_append unclosed behind
    rw [if_neg noName, List.append_assoc, List.cons_append] at found
    exact ⟨_, congrArg Prod.fst found⟩
  · have unclosed : '}' ∉ text ++ d :: more := by simp [open_, noClosing.symm, closed]
    refine ⟨.openName (text ++ d :: more), ?_⟩
    rw [bracedToken, Text.splitOnce?_of_not_mem unclosed]

/-- The first token of a text is the same with more behind it. -/
structure Persists (c : Char) (text more : Text) : Prop where
  same : firstToken false c (text ++ more) =
    ((firstToken false c text).1, (firstToken false c text).2 ++ more)
  suffix : (firstToken false c text).2 <:+ text

theorem persists_of_literal (here : firstToken false c text = (.literal c, text))
    (there : firstToken false c (text ++ more) = (.literal c, text ++ more)) :
    Persists c text more where
  same := by rw [here, there]
  suffix := by simp only [here, List.suffix_rfl]

/-- A brace behind a dollar sign persists if it is closed; otherwise it is a flaw both
times. -/
theorem firstToken_brace (apart : StandsApart text d) (more : Text) :
    Persists '$' ('{' :: text) (d :: more) ∨
      (firstToken false '$' ('{' :: text)).1.IsFlawed ∧
        (firstToken false '$' ('{' :: text ++ d :: more)).1.IsFlawed := by
  by_cases closed : '}' ∈ text
  · obtain ⟨name, behind, rfl, first⟩ := List.eq_append_cons_of_mem closed
    have here := bracedToken_append first behind
    have there := bracedToken_append first (behind ++ d :: more)
    rw [← List.cons_append, ← List.append_assoc] at there
    by_cases isName : !name.isEmpty && name.all isNameChar
    · rw [if_pos isName] at here there
      refine .inl ⟨?_, ?_⟩
      · exact there.trans (by rw [show firstToken false '$' ('{' :: _) = _ from here])
      · rw [show firstToken false '$' ('{' :: _) = _ from here]
        exact ⟨'{' :: (name ++ ['}']), by simp⟩
    · rw [if_neg isName] at here there
      exact .inr ⟨⟨_, congrArg Prod.fst here⟩, ⟨_, congrArg Prod.fst there⟩⟩
  · have there := bracedToken_flawed closed apart.noClosing apart.noLetter more
    refine .inr ⟨⟨.openName text, ?_⟩, there⟩
    change (bracedToken text).1 = _
    rw [bracedToken, Text.splitOnce?_of_not_mem closed]

/-- A dollar sign stands for itself before what begins neither a name nor a brace. -/
theorem firstToken_bare (noLetter : ¬ IsLetter c) (noOpening : c ≠ '{') (rest : Text) :
    firstToken false '$' (c :: rest) = (.literal '$', c :: rest) := by
  by_cases parenthesis : c = '('
  · subst parenthesis
    rfl
  · have unnamed : (c :: rest).takeWhile isNameChar = [] := by
      rw [← isNameChar_iff] at noLetter
      rw [List.takeWhile_cons, if_neg noLetter]
    rw [firstToken_dollar false, unnamed]
    · rfl
    · intro e starts
      cases starts
      exact ⟨noOpening, parenthesis⟩

/-- A name behind a dollar sign ends where the text does, if not before. -/
theorem firstToken_name (letter : IsLetter c) (noLetter : ¬ IsLetter d) (text more : Text) :
    Persists '$' (c :: text) (d :: more) := by
  have unopened : ∀ rest e, (c :: rest : Text).head? = some e → e ≠ '{' ∧ e ≠ '(' := by
    intro rest e starts
    cases starts
    constructor
    · intro same
      subst same
      exact absurd (isNameChar_iff.mpr letter) (by decide)
    · intro same
      subst same
      exact absurd (isNameChar_iff.mpr letter) (by decide)
  have ends : ∀ e, ((c :: text).dropWhile isNameChar ++ d :: more).head? = some e →
      ¬ IsLetter e := by
    intro e starts
    have ended := List.head?_dropWhile_not isNameChar (c :: text)
    cases dropped : (c :: text).dropWhile isNameChar with
    | nil =>
        rw [dropped] at starts
        cases starts
        exact noLetter
    | cons first behind =>
        rw [dropped] at starts ended
        cases starts
        rw [← isNameChar_iff]
        exact Bool.eq_false_iff.mp ended
  have letters : ∀ e ∈ (c :: text).takeWhile isNameChar, IsLetter e := fun e taken =>
    isNameChar_iff.mp (List.all_eq_true.mp List.all_takeWhile e taken)
  obtain ⟨taken, dropped⟩ := cut_name letters ends
  rw [← List.append_assoc, List.takeWhile_append_dropWhile] at taken dropped
  have named : ((c :: text).takeWhile isNameChar).isEmpty = false := by
    rw [List.takeWhile_cons, if_pos (isNameChar_iff.mpr letter)]
    rfl
  have here := firstToken_dollar false (unopened text)
  have there := firstToken_dollar false (unopened (text ++ d :: more))
  rw [← List.cons_append, taken, dropped] at there
  rw [named] at here there
  refine ⟨?_, ?_⟩
  · rw [here]
    exact there
  · rw [here]
    exact List.dropWhile_suffix isNameChar

/-- The first token of a text is the same with more behind it, or it is a flaw both times. -/
theorem firstToken_append (apart : StandsApart (c :: text) d) (more : Text) :
    Persists c text (d :: more) ∨
      (firstToken false c text).1.IsFlawed ∧
        (firstToken false c (text ++ d :: more)).1.IsFlawed := by
  have further := apart.of_suffix (List.suffix_cons c text)
  by_cases dollar : c = '$'
  · subst dollar
    cases text with
    | nil => exact .inl ⟨firstToken_bare apart.noLetter apart.noOpening more, List.suffix_rfl⟩
    | cons e text =>
        by_cases brace : e = '{'
        · subst brace
          exact firstToken_brace (further.of_suffix (List.suffix_cons _ text)) more
        · by_cases letter : IsLetter e
          · exact .inl (firstToken_name letter apart.noLetter text more)
          · have here := firstToken_bare letter brace text
            have there := firstToken_bare letter brace (text ++ d :: more)
            exact .inl (persists_of_literal here there)
  · by_cases escaped : c = '\\' ∧ text.head? = some '$'
    · obtain ⟨rfl, starts⟩ := escaped
      obtain ⟨behind, rfl⟩ := List.head?_eq_some_iff.mp starts
      exact .inl ⟨rfl, List.suffix_cons '$' behind⟩
    · have here : firstToken false c text = (.literal c, text) :=
        firstToken_literal false dollar fun same starts => escaped ⟨same, starts⟩
      have there : firstToken false c (text ++ d :: more) = (.literal c, text ++ d :: more) := by
        refine firstToken_literal false dollar fun same starts => ?_
        cases text with
        | nil =>
            cases starts
            exact apart.noEscape rfl (congrArg some same)
        | cons e text => exact escaped ⟨same, starts⟩
      exact .inl (persists_of_literal here there)

section Fill

/-- A text is filled in token by token. -/
theorem expandVariables_cons_eq_ok : expandVariables lookup (c :: text) = .ok value ↔
    ∃ first others, (firstToken false c text).1.variableOnly lookup = .ok first ∧
      expandVariables lookup (firstToken false c text).2 = .ok others ∧
      value = first ++ others := by
  unfold expandVariables
  rw [tokens, List.mapM_cons]
  cases (firstToken false c text).1.variableOnly lookup with
  | error flaw => simp [bind, Except.bind, Except.map]
  | ok first =>
      cases (tokens false (firstToken false c text).2).mapM (Token.variableOnly lookup) with
      | error flaw => simp [bind, Except.bind, Except.map]
      | ok others => simp [bind, Except.bind, Except.map, pure, Except.pure, eq_comm]

theorem Token.IsFlawed.variableOnly_ne {token : Token} (flawed : token.IsFlawed) (value : Text) :
    token.variableOnly lookup ≠ .ok value := by
  obtain ⟨flaw, rfl⟩ := flawed
  intro filled
  cases filled

/-- **Filling in part by part.** Where no token takes in the character behind a text, the
text and what is behind it are filled in each for itself. -/
theorem expandVariables_append (apart : StandsApart text d) (more : Text) :
    expandVariables lookup (text ++ d :: more) = .ok value ↔
      ∃ first others, expandVariables lookup text = .ok first ∧
        expandVariables lookup (d :: more) = .ok others ∧ value = first ++ others := by
  -- By the length of the text, since its first token may be longer than one character.
  induction length : text.length using Nat.strongRecOn generalizing text value with
  | ind size ih =>
  subst length
  cases text with
  | nil => simp [expandVariables, tokens, Except.map, pure, Except.pure]
  | cons c text =>
      rw [List.cons_append, expandVariables_cons_eq_ok]
      simp only [expandVariables_cons_eq_ok (c := c)]
      rcases firstToken_append apart more with persists | ⟨here, there⟩
      · have shorter := Nat.lt_succ_of_le (length_firstToken false c text)
        have further := apart.of_suffix (persists.suffix.trans (List.suffix_cons c text))
        rw [persists.same]
        simp only [ih _ shorter further rfl]
        constructor
        · intro whole
          obtain ⟨first, _, filled, ⟨others, last, filledText, filledMore, rfl⟩, rfl⟩ := whole
          refine ⟨first ++ others, last, ⟨first, others, filled, filledText, rfl⟩, filledMore, ?_⟩
          rw [List.append_assoc]
        · intro parts
          obtain ⟨_, last, ⟨first, others, filled, filledText, rfl⟩, filledMore, rfl⟩ := parts
          refine ⟨first, others ++ last, filled, ⟨others, last, filledText, filledMore, rfl⟩, ?_⟩
          rw [List.append_assoc]
      · constructor
        · intro whole
          obtain ⟨first, _, filled, _⟩ := whole
          exact absurd filled (there.variableOnly_ne first)
        · intro parts
          obtain ⟨_, _, ⟨first, _, filled, _⟩, _⟩ := parts
          exact absurd filled (here.variableOnly_ne first)

/-- A character that begins no token with others stands for itself. -/
theorem expandVariables_literal (noDollar : c ≠ '$') (noBackslash : c ≠ '\\') (text : Text) :
    expandVariables lookup (c :: text) = .ok value ↔
      ∃ others, expandVariables lookup text = .ok others ∧ value = c :: others := by
  have here : firstToken false c text = (.literal c, text) :=
    firstToken_literal false noDollar fun same => absurd same noBackslash
  rw [expandVariables_cons_eq_ok, here]
  simp [Token.variableOnly]

/-- The body of a reference is filled in for itself. -/
theorem expandVariables_written (body rest : Text) :
    expandVariables lookup (Token.written (.command body) ++ rest) = .ok value ↔
      ∃ inside others, expandVariables lookup body = .ok inside ∧
        expandVariables lookup rest = .ok others ∧
        value = Token.written (.command inside) ++ others := by
  have apart : StandsApart body ')' := ⟨by simp [IsLetter], by decide, by decide, by simp⟩
  have bare : firstToken false '$' ('(' :: (body ++ ')' :: rest)) = (.literal '$', _) := rfl
  simp only [Token.written, List.cons_append, List.append_assoc, List.nil_append]
  rw [expandVariables_cons_eq_ok, bare]
  simp only [Token.variableOnly, expandVariables_literal (c := '(') (by decide) (by decide),
    expandVariables_append apart, expandVariables_literal (c := ')') (by decide) (by decide)]
  constructor
  · intro whole
    obtain ⟨_, _, same, ⟨_, ⟨inside, _, filled, ⟨others, filledRest, rfl⟩, rfl⟩, rfl⟩, rfl⟩ := whole
    cases same
    exact ⟨inside, others, filled, filledRest, rfl⟩
  · intro parts
    obtain ⟨inside, others, filled, filledRest, rfl⟩ := parts
    exact ⟨_, _, rfl, ⟨_, ⟨inside, _, filled, ⟨others, filledRest, rfl⟩, rfl⟩, rfl⟩, rfl⟩

/-- What is before a reference, its body and what is behind it are filled in each for
itself. -/
theorem expandVariables_around {before : Text} (apart : StandsApart before '$') (body rest : Text) :
    expandVariables lookup (before ++ (Token.written (.command body) ++ rest)) = .ok value ↔
      ∃ first inside last, expandVariables lookup before = .ok first ∧
        expandVariables lookup body = .ok inside ∧ expandVariables lookup rest = .ok last ∧
        value = first ++ (Token.written (.command inside) ++ last) := by
  apply (expandVariables_append apart ('(' :: (body ++ [')']) ++ rest)).trans
  constructor
  · intro filledWhole
    obtain ⟨first, _, filled, filledReference, rfl⟩ := filledWhole
    obtain ⟨inside, last, filledBody, filledRest, rfl⟩ :=
      (expandVariables_written body rest).mp filledReference
    exact ⟨first, inside, last, filled, filledBody, filledRest, rfl⟩
  · intro filledParts
    obtain ⟨first, inside, last, filled, filledBody, filledRest, rfl⟩ := filledParts
    have filledReference := (expandVariables_written body rest).mpr
      ⟨inside, last, filledBody, filledRest, rfl⟩
    exact ⟨first, _, filled, filledReference, rfl⟩

end Fill

/-- No dollar sign in the text begins a reference to a variable: behind it stands neither a
letter nor a brace, unless there is a backslash directly before it. -/
def Unreferring (text : Text) : Prop :=
  ∀ part c more, text = part ++ '$' :: c :: more →
    part.getLast? = some '\\' ∨ ¬ IsLetter c ∧ c ≠ '{'

theorem Unreferring.of_append {before : Text} (unreferring : Unreferring (before ++ text))
    (noEscape : text.head? = some '$' → before.getLast? ≠ some '\\') : Unreferring text := by
  intro part c more split
  subst split
  have whole := unreferring (before ++ part) c more (List.append_assoc ..).symm
  cases part with
  | nil =>
      rw [List.append_nil] at whole
      exact .inr (whole.resolve_left (noEscape rfl))
  | cons e part =>
      rwa [List.getLast?_append, List.getLast?_cons, Option.some_or, ← List.getLast?_cons] at whole

/-- A character that stands for itself is followed by a text without references. -/
theorem Unreferring.of_cons (unreferring : Unreferring (c :: text))
    (noEscape : c = '\\' → text.head? ≠ some '$') : Unreferring text := by
  apply Unreferring.of_append (show Unreferring ([c] ++ text) from unreferring)
  intro starts ends
  exact noEscape (Option.some.inj ends) starts

/-- Where no reference begins every character stands for itself. -/
theorem Unreferring.filled (unreferring : Unreferring text) :
    expandVariables lookup text = .ok text := by
  induction length : text.length using Nat.strongRecOn generalizing text with
  | ind size ih =>
  subst length
  cases text with
  | nil =>
      rw [expandVariables, tokens]
      rfl
  | cons c text =>
      rw [expandVariables_cons_eq_ok]
      by_cases escaped : c = '\\' ∧ text.head? = some '$'
      · obtain ⟨rfl, starts⟩ := escaped
        obtain ⟨behind, rfl⟩ := List.head?_eq_some_iff.mp starts
        have shorter : behind.length < ('\\' :: '$' :: behind).length := by
          simp only [List.length_cons]
          omega
        have further : Unreferring behind := by
          apply Unreferring.of_append (show Unreferring (['\\', '$'] ++ behind) from unreferring)
          simp
        exact ⟨['\\', '$'], behind, rfl, ih _ shorter further rfl, rfl⟩
      · have noEscape : c = '\\' → text.head? ≠ some '$' := fun same starts =>
          escaped ⟨same, starts⟩
        have here : firstToken false c text = (.literal c, text) := by
          by_cases dollar : c = '$'
          · subst dollar
            cases text with
            | nil => rfl
            | cons e text =>
                obtain ⟨noLetter, noBrace⟩ := (unreferring [] e text rfl).resolve_left (by simp)
                exact firstToken_bare noLetter noBrace text
          · exact firstToken_literal false dollar noEscape
        have others := ih _ (Nat.lt_succ_self _) (unreferring.of_cons noEscape) rfl
        rw [here]
        exact ⟨[c], text, rfl, others, rfl⟩

section Scans

variable {tokens before others : List Token} {token : Token} {behind : Text}

theorem getLast?_closed (closes : c ≠ '\\') (before : Text) :
    (before ++ [c]).getLast? ≠ some '\\' := by
  rw [List.getLast?_concat]
  exact fun same => closes (Option.some.inj same)

theorem Stands.ends (stands : Stands token behind) (starts : behind.head? = some '$') :
    token.written.getLast? ≠ some '\\' := by
  cases stands with
  | literal _ noEscape =>
      intro ends
      exact noEscape (Option.some.inj ends) starts
  | dollar | escapedDollar => decide
  | @«variable» name _ isName =>
      intro ends
      rcases List.mem_cons.mp (List.mem_of_getLast? ends) with same | inside
      · cases same
      · exact absurd (isNameChar_iff.mpr (isName.2 _ inside)) (by decide)
  | bracedVariable => exact getLast?_closed (by decide) ('$' :: '{' :: _)
  | command => exact getLast?_closed (by decide) ('$' :: '(' :: _)
  | flawed flawed =>
      cases flawed with
      | openName | openCommand => cases starts
      | badName => exact getLast?_closed (by decide) ('$' :: '{' :: _)
      | ambiguousEnd => exact getLast?_closed (by decide) ('$' :: '(' :: _)

/-- What a scan takes before a dollar sign does not end in a backslash. -/
theorem Scans.ends (scans : Scans text tokens rest) (starts : rest.head? = some '$') :
    (tokens.flatMap Token.written).getLast? ≠ some '\\' := by
  induction scans with
  | done => simp
  | @token token behind rest tokens stands further ih =>
      rw [List.flatMap_cons, List.getLast?_append]
      cases last : (tokens.flatMap Token.written).getLast? with
      | some c =>
          rw [Option.some_or, ← last]
          exact ih starts
      | none =>
          have nothing := List.getLast?_eq_none_iff.mp last
          have same := further.split
          rw [nothing, List.nil_append] at same
          exact stands.ends (same ▸ starts)

/-- A scan goes on behind the first of its tokens. -/
theorem Scans.of_append (scans : Scans text (before ++ others) rest) :
    ∃ between, Scans text before between ∧ Scans between others rest := by
  induction before generalizing text with
  | nil => exact ⟨text, .done, scans⟩
  | cons token before ih =>
      cases scans with
      | token stands further =>
          obtain ⟨between, first, last⟩ := ih further
          exact ⟨between, .token stands first, last⟩

end Scans

/-- **Variables around a reference.** Let a text be read up to a reference to a command.
Where only variables are filled in, what stands before the reference, its body and what
stands behind it are filled in each for itself, and the dollar sign and the parentheses of
the reference stay. So the reference stays as it is if its body refers to no variable. -/
theorem expandVariables_reference (lookup : Text → Option Text) {p b s : Text}
    {before : List Token}
    (scans : Scans (p ++ (Token.written (.command b) ++ s)) (before ++ [.command b]) s) :
    (∀ value, expandVariables lookup (p ++ (Token.written (.command b) ++ s)) = .ok value ↔
      ∃ first inside last, expandVariables lookup p = .ok first ∧
        expandVariables lookup b = .ok inside ∧ expandVariables lookup s = .ok last ∧
        value = first ++ (Token.written (.command inside) ++ last)) ∧
    (Unreferring b →
      ∀ value, expandVariables lookup (p ++ (Token.written (.command b) ++ s)) = .ok value ↔
        ∃ first last, expandVariables lookup p = .ok first ∧
          expandVariables lookup s = .ok last ∧
          value = first ++ (Token.written (.command b) ++ last)) := by
  obtain ⟨between, first, last⟩ := scans.of_append
  have whole := last.split
  rw [List.flatMap_singleton] at whole
  subst whole
  have exactly := List.append_cancel_right first.split
  have ends : p.getLast? ≠ some '\\' := by
    rw [exactly]
    exact first.ends rfl
  have apart : StandsApart p '$' := ⟨by simp [IsLetter], by decide, by decide, fun _ => ends⟩
  refine ⟨fun value => expandVariables_around apart b s, fun unreferring value => ?_⟩
  rw [expandVariables_around apart, unreferring.filled]
  constructor
  · intro whole
    obtain ⟨first, inside, last, filled, same, filledRest, rfl⟩ := whole
    cases same
    exact ⟨first, last, filled, filledRest, rfl⟩
  · intro around
    obtain ⟨first, last, filled, filledRest, rfl⟩ := around
    exact ⟨first, b, last, filled, rfl, filledRest, rfl⟩

/-- One variable has a value. -/
def home (name : Text) : Option Text := if name = ['H'] then some "/max".toList else none

/-- In the body of a reference between variables stand a dollar sign and a parenthesis, each
behind a backslash. -/
theorem reference_kept :
    Scans ("$H".toList ++ (Token.written (.command "\\$H\\)".toList) ++ "$H".toList))
        ([.variable ['H']] ++ [.command "\\$H\\)".toList]) "$H".toList ∧
      Unreferring "\\$H\\)".toList ∧
      expandVariables home "$H$(\\$H\\))$H".toList = .ok "/max$(\\$H\\))/max".toList := by
  have isBody : IsBody "\\$H\\)".toList :=
    (splitBody?_eq_some_iff.mp (show splitBody? "\\$H\\))$H".toList = _ from rfl)).2
  have reference : Stands (.command "\\$H\\)".toList) "$H".toList :=
    .command isBody (isBody.balanced_iff.mpr (by decide))
  have scans : Scans ("$H".toList ++ (Token.written (.command "\\$H\\)".toList) ++ "$H".toList))
      ([.variable ['H']] ++ [.command "\\$H\\)".toList]) "$H".toList := by
    have name : IsName ['H'] := ⟨List.cons_ne_nil _ _, by simp [IsLetter]⟩
    refine .token (.variable name ?_) (.token reference .done)
    intro c starts
    cases starts
    simp [IsLetter]
  have unreferring : Unreferring "\\$H\\)".toList := by
    intro part c more split
    change ['\\', '$', 'H', '\\', ')'] = _ at split
    cases part with
    | nil => cases split
    | cons first part =>
        obtain ⟨rfl, further⟩ := List.cons.inj split
        cases part with
        | nil => exact .inl rfl
        | cons second part =>
            have inside : '$' ∈ ['H', '\\', ')'] := by
              rw [(List.cons.inj further).2]
              simp
            exact absurd inside (by decide)
  have filled := ((expandVariables_reference home scans).2 unreferring _).mpr
    ⟨"/max".toList, "/max".toList, by cbv, by cbv, rfl⟩
  exact ⟨scans, unreferring, filled⟩

/-- The variable in the body of a reference does not stay. -/
theorem body_filled :
    Scans ([] ++ (Token.written (.command "echo $H".toList) ++ []))
        ([] ++ [.command "echo $H".toList]) [] ∧
      expandVariables home [] = .ok [] ∧
      expandVariables home "$(echo $H)".toList = .ok "$(echo /max)".toList := by
  have isBody : IsBody "echo $H".toList :=
    (splitBody?_eq_some_iff.mp (show splitBody? "echo $H)".toList = _ from rfl)).2
  have reference : Stands (.command "echo $H".toList) [] :=
    .command isBody (isBody.balanced_iff.mpr (by decide))
  exact ⟨.token reference .done, by cbv, by cbv⟩

end Tailor.Expression
