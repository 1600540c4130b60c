import Tailor.Proofs.Expression.Values

/-! # References to commands

A command is written into an expression with a backslash before each of its parentheses.
Wherever an expression is read up to such a reference, exactly that command is run and
reading goes on behind the reference. Only a command that ends in a backslash cannot be
written: its last character would guard the parenthesis that closes the reference. No
other expression runs such a command either, so the commands that expressions run are
those that do not end in a backslash (`Tailor.Expression.expand_reference`).
-/

namespace Tailor

variable {σ : Type}

theorem Session.commands_ran (session : Session σ) (commands : List Text) (left : σ) :
    (session.ran commands left).commands = session.commands ++ commands := by
  simp [ran, Session.commands]

namespace Expression

/-- The text with a backslash before every parenthesis. -/
def withGuards (text : Text) : Text :=
  text.flatMap fun c => if isParenthesis c then ['\\', c] else [c]

/-- The reference to the output of a command. -/
def reference (command : Text) : Text := '$' :: '(' :: (withGuards command ++ [')'])

section Guards

variable {c : Char} {text body before command : Text}

theorem withGuards_cons : withGuards (c :: text) =
    if isParenthesis c then '\\' :: c :: withGuards text else c :: withGuards text := by
  unfold withGuards
  rw [List.flatMap_cons]
  split <;> rfl

/-- No parenthesis comes first: there is a backslash before it. -/
theorem head?_withGuards : (withGuards text).head?.any isParenthesis = false := by
  cases text with
  | nil => rfl
  | cons c text =>
      rw [withGuards_cons]
      split
      · rfl
      · rename_i noParenthesis
        exact Bool.eq_false_iff.mpr noParenthesis

/-- What is guarded is what is left without the guards. -/
theorem withoutGuards_withGuards (text : Text) : withoutGuards (withGuards text) = text := by
  induction text with
  | nil => rfl
  | cons c text ih =>
      rw [withGuards_cons]
      by_cases parenthesis : isParenthesis c = true
      · have differs : c ≠ '\\' := by
          rintro rfl
          cases parenthesis
        simp [withoutGuards_cons, parenthesis, differs, ih]
      · simp [withoutGuards_cons, parenthesis, head?_withGuards, ih]

theorem guarded_withGuards (before text : Text) : Guarded before (withGuards text) := by
  induction text generalizing before with
  | nil => exact guarded_nil before
  | cons c text ih =>
      rw [withGuards_cons]
      split
      · refine guarded_cons.mpr ⟨nofun, guarded_cons.mpr ⟨fun _ => ?_, ih _⟩⟩
        rw [List.getLast?_concat]
      · rename_i noParenthesis
        refine guarded_cons.mpr ⟨?_, ih _⟩
        rintro rfl
        exact absurd rfl noParenthesis

theorem getLast?_withGuards (text : Text) : (withGuards text).getLast? = text.getLast? := by
  induction text with
  | nil => rfl
  | cons c text ih =>
      rw [withGuards_cons]
      split
      · rw [List.getLast?_cons_cons, List.getLast?_cons, List.getLast?_cons, ih]
      · rw [List.getLast?_cons, List.getLast?_cons, ih]

theorem isBody_withGuards (ends : command.getLast? ≠ some '\\') : IsBody (withGuards command) :=
  ⟨guarded_withGuards [] command, by rwa [getLast?_withGuards]⟩

theorem count_withGuards (text : Text) :
    (withGuards text).count '(' = countBehind '\\' '(' (withGuards text) := by
  induction text with
  | nil => rfl
  | cons c text ih =>
      have unopened : (withGuards text).head? ≠ some '(' := by
        intro opens
        have first : (withGuards text).head?.any isParenthesis = false := head?_withGuards
        rw [opens] at first
        cases first
      rw [withGuards_cons]
      split
      · simp [countBehind_cons, List.count_cons, ih, unopened]
      · rename_i noParenthesis
        have differs : c ≠ '(' := by
          rintro rfl
          exact noParenthesis rfl
        simp [countBehind_cons, ih, unopened, differs]

/-- What is guarded stands for itself between the parentheses of a reference. -/
theorem balanced_withGuards (text : Text) : Balanced (withGuards text) := by
  rw [Balanced, count_withGuards, Nat.sub_self]
  exact Nat.zero_le _

/-- The last character of a text guards nothing, so it stays. -/
theorem getLast?_withoutGuards (text : Text) :
    (withoutGuards text).getLast? = text.getLast? := by
  induction text with
  | nil => rfl
  | cons c text ih =>
      rw [withoutGuards_cons]
      split
      · rename_i guards
        cases text with
        | nil => cases guards.2
        | cons d text => rw [ih, List.getLast?_cons_cons]
      · rw [List.getLast?_cons, List.getLast?_cons, ih]

/-- A reference is read as the command that it names. -/
theorem stands_reference (ends : command.getLast? ≠ some '\\') (behind : Text) :
    Stands (.command (withGuards command)) behind :=
  .command (isBody_withGuards ends) (balanced_withGuards command)

/-- No token runs a command that ends in a backslash. -/
theorem Scans.handed_ends {tokens : List Token} {rest : Text} (scans : Scans text tokens rest)
    (member : command ∈ tokens.flatMap Token.handed) : command.getLast? ≠ some '\\' := by
  induction scans with
  | done => cases member
  | token stands _ ih =>
      rw [List.flatMap_cons, List.mem_append] at member
      rcases member with here | later
      · cases stands with
        | command isBody _ =>
            rw [Token.handed, List.mem_singleton] at here
            rw [here, getLast?_withoutGuards]
            exact isBody.ends
        | _ => cases here
      · exact ih later

end Guards

section Runs

open Act

variable {world : World σ} {session : Session σ} {command : Text}

/-- However an expression ends, the commands that it ran are those of its first tokens. -/
theorem exists_ran {text : Text} {tokens : List Token} (splits : Splits text tokens)
    (world : World σ) (session : Session σ) : ∃ before, before <+: tokens ∧
      (from_ session (expand world text)).2.commands =
        session.commands ++ before.flatMap Token.handed := by
  cases ends : from_ session (expand world text) with
  | mk outcome after =>
      rw [expand_eq splits] at ends
      cases outcome with
      | ok value =>
          obtain ⟨texts, left, _, _, rfl⟩ := valueOfTokens_eq_ok.mp ends
          exact ⟨tokens, List.prefix_rfl, session.commands_ran _ left⟩
      | error fault =>
          obtain ⟨before, token, behind, _, _, left, rfl, _, _, rfl⟩ :=
            valueOfTokens_eq_error.mp ends
          refine ⟨before ++ [token], ?_, session.commands_ran _ left⟩
          exact ⟨behind, by rw [List.append_assoc, List.singleton_append]⟩

/-- Behind tokens that yield texts a reference runs its command, and the value goes on
behind the reference. -/
theorem expand_before_reference (ends : command.getLast? ≠ some '\\') {text s : Text}
    {before : List Token} (scans : Scans text before (reference command ++ s))
    {texts : List Text} {left : σ} (yields : Yields world before session.world texts left) :
    from_ session (expand world text) =
      from_ (session.ran (before.flatMap Token.handed) left) (do
        let output ← runCommand world command
        let value ← expand world s
        pure (texts.flatten ++ (output ++ value))) := by
  obtain ⟨others, further⟩ := exists_splits s
  have splits : Splits text (before ++ .command (withGuards command) :: others) :=
    scans.append (.token (stands_reference ends s) further)
  rw [expand_eq splits, valueOfTokens_append yields, expand_eq further]
  simp only [valueOfTokens, Token.value, unescape_eq, withoutGuards_withGuards, bind_assoc,
    pure_bind]

/-- The reference to a command, for itself, runs this command and no other. -/
theorem commands_reference (ends : command.getLast? ≠ some '\\') :
    (from_ session (expand world (reference command))).2.commands =
      session.commands ++ [command] := by
  have splits : Splits (reference command) [.command (withGuards command)] := by
    rw [← List.append_nil (reference command)]
    exact .token (stands_reference ends []) .done
  rw [expand_eq splits, valueOfTokens, from_bind, from_value_command, withoutGuards_withGuards]
  rcases world.run command session.world with ⟨outcome, left⟩
  cases outcome with
  | ok output | error fault => exact session.commands_ran [command] left

end Runs

/-- **Commands in expressions.** Where a text is read up to the reference to a command that
does not end in a backslash, and no token before the reference fails, exactly this command
is run, and if it succeeds reading goes on behind the reference. The commands that some text
runs are those that do not end in a backslash. -/
theorem expand_reference (command : Text) :
    (command.getLast? ≠ some '\\' → ∀ (p s : Text) (before : List Token),
      Scans (p ++ (reference command ++ s)) before (reference command ++ s) →
      ∀ {σ : Type} (world : World σ) (session : Session σ) (texts : List Text) (left : σ),
        Yields world before session.world texts left →
        Act.from_ session (expand world (p ++ (reference command ++ s))) =
          Act.from_ (session.ran (before.flatMap Token.handed) left) (do
            let output ← Act.runCommand world command
            let value ← expand world s
            pure (texts.flatten ++ (output ++ value)))) ∧
    ∀ {σ : Type} (world : World σ) (session : Session σ),
      (∃ text ran, (Act.from_ session (expand world text)).2.commands = session.commands ++ ran ∧
        command ∈ ran) ↔ command.getLast? ≠ some '\\' := by
  refine ⟨fun ends p s before scans σ world session texts left yields =>
    expand_before_reference ends scans yields, fun world session => ⟨?_, fun ends => ?_⟩⟩
  · rintro ⟨text, ran, commands, member⟩
    obtain ⟨tokens, splits⟩ := exists_splits text
    obtain ⟨before, ⟨behind, rfl⟩, commandsBefore⟩ := exists_ran splits world session
    rw [commands, List.append_cancel_left_eq] at commandsBefore
    rw [commandsBefore] at member
    apply Scans.handed_ends splits
    rw [List.flatMap_append]
    exact List.mem_append_left _ member
  · exact ⟨reference command, [command], commands_reference ends, List.mem_singleton_self command⟩

/-- A command with a backslash of its own before a parenthesis, behind a variable and before
another command. -/
theorem expand_reference_nested :
    "a\\(b)".toList.getLast? ≠ some '\\' ∧
      Scans ("$V=".toList ++ (reference "a\\(b)".toList ++ "$(c)".toList))
        [.variable ['V'], .literal '='] (reference "a\\(b)".toList ++ "$(c)".toList) ∧
      Yields World.obliging [.variable ['V'], .literal '='] () [[], ['=']] () ∧
      Act.from_ (Session.start ())
          (expand .obliging ("$V=".toList ++ (reference "a\\(b)".toList ++ "$(c)".toList))) =
        Act.from_ ((Session.start ()).ran [] ()) (do
          let output ← Act.runCommand .obliging "a\\(b)".toList
          let value ← expand .obliging "$(c)".toList
          pure (['='] ++ (output ++ value))) := by
  have ends : "a\\(b)".toList.getLast? ≠ some '\\' := by decide
  have scans : Scans ("$V=".toList ++ (reference "a\\(b)".toList ++ "$(c)".toList))
      [.variable ['V'], .literal '='] (reference "a\\(b)".toList ++ "$(c)".toList) := by
    have name : IsName ['V'] := ⟨List.cons_ne_nil _ _, by simp [IsLetter]⟩
    have noLetter : ¬ IsLetter '=' := by simp [IsLetter]
    have noEscape : '=' = '\\' → (reference "a\\(b)".toList ++ "$(c)".toList).head? ≠ some '$' := by
      intro same
      cases same
    have longest : ∀ c, some '=' = some c → ¬ IsLetter c := by
      rintro c ⟨⟩
      exact noLetter
    refine .token (.variable name ?_) (.token (.literal (by decide) noEscape) .done)
    exact longest
  have yields : Yields World.obliging [.variable ['V'], .literal '='] () [[], ['=']] () :=
    .cons .variable (.cons .literal .nil)
  have begins := (expand_reference _).1 ends _ _ _ scans _ (Session.start ()) _ _ yields
  exact ⟨ends, scans, yields, begins⟩

end Expression

end Tailor
