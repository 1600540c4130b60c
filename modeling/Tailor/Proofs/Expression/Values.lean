import Tailor.Expression.Value
import Tailor.Proofs.Expression.Splitting
import Tailor.Proofs.Session.Outcome

/-! # What expressions come to

The split of an expression decides what becomes of it. Where every token yields a text,
the expression has these texts for its value, one behind the other
(`Tailor.Expression.Yields`); otherwise the first token that does not decides the
failure (`Tailor.Expression.Token.Fails`). Commands are run once each in the order of their
tokens, up to the one that fails, and nothing else happens to the session. The split does
not depend on the world, so no value and no output is ever read as an expression
(`Tailor.Expression.expand_of_split`).
-/

namespace Tailor

variable {σ : Type}

/-- The session behind commands that were run, which left the world in this state. -/
def Session.ran (session : Session σ) (commands : List Text) (left : σ) : Session σ :=
  { session with world := left, trace := session.trace ++ commands.map Event.ran }

namespace Session

variable {session : Session σ} {first second : List Text} {state left : σ}

@[simp] theorem world_ran : (session.ran first left).world = left := rfl

@[simp] theorem ran_nil : session.ran [] session.world = session := by
  simp [ran]

theorem ran_ran :
    (session.ran first state).ran second left = session.ran (first ++ second) left := by
  simp [ran]

end Session

namespace Expression

/-- The command that is run for a token. -/
def Token.handed : Token → List Text
  | .command body => [withoutGuards body]
  | _ => []

/-- From a state of the world, a token yields a text and leaves a state. -/
inductive Token.Yields (world : World σ) : Token → σ → Text → σ → Prop where
  | literal {c : Char} {state : σ} : Yields world (.literal c) state [c] state
  | escapedDollar {state : σ} : Yields world .escapedDollar state ['\\', '$'] state
  | variable {name : Text} {state : σ} :
      Yields world (.variable name) state ((world.lookup name).getD []) state
  | bracedVariable {name : Text} {state : σ} :
      Yields world (.bracedVariable name) state ((world.lookup name).getD []) state
  | command {body output : Text} {state left : σ}
      (ran : world.run (withoutGuards body) state = (.ok output, left)) :
      Yields world (.command body) state output left

/-- From a state of the world, a token fails and leaves a state. -/
inductive Token.Fails (world : World σ) : Token → σ → Fault → σ → Prop where
  | flawed {flaw : Flaw} {state : σ} :
      Fails world (.flawed flaw) state (.problem (.reference flaw) none) state
  | command {body : Text} {state left : σ} {fault : Fault}
      (ran : world.run (withoutGuards body) state = (.error fault, left)) :
      Fails world (.command body) state fault left

/-- Tokens yield their texts one after the other. -/
inductive Yields (world : World σ) : List Token → σ → List Text → σ → Prop where
  | nil {state : σ} : Yields world [] state [] state
  | cons {token : Token} {tokens : List Token} {state between left : σ} {text : Text}
      {texts : List Text} (first : token.Yields world state text between)
      (others : Yields world tokens between texts left) :
      Yields world (token :: tokens) state (text :: texts) left

section Tokens

open Act

variable {world : World σ} {session after : Session σ} {token : Token} {tokens : List Token}
  {value : Text} {fault : Fault}

theorem from_value_command (body : Text) (session : Session σ) :
    from_ session (Token.value world (.command body)) =
      ((world.run (withoutGuards body) session.world).1,
        session.ran [withoutGuards body] (world.run (withoutGuards body) session.world).2) := by
  rw [Token.value, unescape_eq, runCommand, from_bind_of_ok (from_record session _), from_useWorld]
  rfl

theorem pure_eq_ok {text : Text} :
    from_ session (pure text : Act σ Text) = (.ok value, after) ↔
      value = text ∧ after = session := by
  rw [from_pure, Prod.mk.injEq, Except.ok.injEq]
  exact and_congr eq_comm eq_comm

theorem value_eq_ok : from_ session (token.value world) = (.ok value, after) ↔
    ∃ left, token.Yields world session.world value left ∧
      after = session.ran token.handed left := by
  cases token with
  | command body =>
      rw [from_value_command]
      constructor
      · intro same
        obtain ⟨outcome, rfl⟩ := Prod.mk.inj same
        exact ⟨_, .command (Prod.ext outcome rfl), rfl⟩
      · rintro ⟨left, yields, rfl⟩
        cases yields with
        | command ran => rw [ran, Token.handed]
  | flawed flaw =>
      constructor
      · intro same
        cases same
      · rintro ⟨left, yields, _⟩
        cases yields
  | _ =>
      constructor
      · intro same
        cases same
        exact ⟨_, by constructor, Session.ran_nil.symm⟩
      · rintro ⟨left, yields, rfl⟩
        cases yields
        exact pure_eq_ok.mpr ⟨rfl, Session.ran_nil⟩

theorem value_eq_error : from_ session (token.value world) = (.error fault, after) ↔
    ∃ left, token.Fails world session.world fault left ∧
      after = session.ran token.handed left := by
  cases token with
  | command body =>
      rw [from_value_command]
      constructor
      · intro same
        obtain ⟨outcome, rfl⟩ := Prod.mk.inj same
        exact ⟨_, .command (Prod.ext outcome rfl), rfl⟩
      · rintro ⟨left, fails, rfl⟩
        cases fails with
        | command ran => rw [ran, Token.handed]
  | flawed flaw =>
      constructor
      · intro same
        cases same
        exact ⟨session.world, .flawed, Session.ran_nil.symm⟩
      · rintro ⟨left, fails, rfl⟩
        cases fails
        exact congrArg (Prod.mk _) Session.ran_nil.symm
  | _ =>
      constructor
      · intro same
        cases same
      · rintro ⟨left, fails, _⟩
        cases fails

/-- Tokens have a value if each yields a text, and then it is made of these texts. -/
theorem valueOfTokens_eq_ok :
    from_ session (valueOfTokens world tokens) = (.ok value, after) ↔
      ∃ texts left, Yields world tokens session.world texts left ∧ value = texts.flatten ∧
        after = session.ran (tokens.flatMap Token.handed) left := by
  induction tokens generalizing session value after with
  | nil =>
      constructor
      · intro same
        cases same
        exact ⟨[], _, .nil, rfl, Session.ran_nil.symm⟩
      · rintro ⟨texts, left, yields, rfl, rfl⟩
        cases yields
        exact congrArg (Prod.mk _) Session.ran_nil.symm
  | cons token tokens ih =>
      simp only [valueOfTokens, from_bind_eq_ok, value_eq_ok, ih, pure_eq_ok]
      constructor
      · intro succeeded
        obtain ⟨text, _, ⟨between, first, rfl⟩, rest, _, further, rfl, rfl⟩ := succeeded
        obtain ⟨texts, left, others, rfl, rfl⟩ := further
        exact ⟨text :: texts, left, .cons first others, rfl, Session.ran_ran⟩
      · intro made
        obtain ⟨_, left, yields, rfl, rfl⟩ := made
        cases yields with
        | @cons _ _ _ between _ text texts first others =>
            exact ⟨text, _, ⟨between, first, rfl⟩, texts.flatten, _,
              ⟨texts, left, others, rfl, rfl⟩, rfl, Session.ran_ran.symm⟩

/-- Tokens fail as the first one does that yields no text. -/
theorem valueOfTokens_eq_error :
    from_ session (valueOfTokens world tokens) = (.error fault, after) ↔
      ∃ before token behind texts between left, tokens = before ++ token :: behind ∧
        Yields world before session.world texts between ∧
        token.Fails world between fault left ∧
        after = session.ran ((before ++ [token]).flatMap Token.handed) left := by
  induction tokens generalizing session after with
  | nil =>
      constructor
      · intro failed
        cases failed
      · rintro ⟨before, token, behind, _, _, _, split, _⟩
        simp at split
  | cons token tokens ih =>
      rw [valueOfTokens, from_bind_eq_error]
      constructor
      · intro failed
        rcases failed with failedHere | ⟨text, _, succeeded, failedLater⟩
        · obtain ⟨left, fails, rfl⟩ := value_eq_error.mp failedHere
          exact ⟨[], token, tokens, [], session.world, left, rfl, .nil, fails, by simp⟩
        · obtain ⟨between, first, rfl⟩ := value_eq_ok.mp succeeded
          obtain ⟨before, last, behind, texts, final, left, rfl, yields, fails, rfl⟩ :=
            ih.mp (from_bind_pure_eq_error.mp failedLater)
          exact ⟨token :: before, last, behind, text :: texts, final, left, rfl,
            .cons first yields, fails, Session.ran_ran⟩
      · rintro ⟨before, last, behind, texts, final, left, split, yields, fails, rfl⟩
        cases yields with
        | nil =>
            cases split
            exact .inl (value_eq_error.mpr ⟨left, fails, by simp⟩)
        | cons first others =>
            cases split
            refine .inr ⟨_, _, value_eq_ok.mpr ⟨_, first, rfl⟩, from_bind_pure_eq_error.mpr ?_⟩
            exact ih.mpr ⟨_, last, behind, _, final, left, rfl, others, fails,
              Session.ran_ran.symm⟩

/-- Behind tokens that yield texts the value goes on with that of the others. -/
theorem valueOfTokens_append {before : List Token} {texts : List Text} {left : σ}
    (yields : Yields world before session.world texts left) :
    from_ session (valueOfTokens world (before ++ tokens)) =
      from_ (session.ran (before.flatMap Token.handed) left) (do
        let others ← valueOfTokens world tokens
        pure (texts.flatten ++ others)) := by
  induction before generalizing session texts with
  | nil =>
      cases yields
      simp
  | cons token before ih =>
      cases yields with
      | @cons _ _ _ between _ text texts first others =>
          have begun := value_eq_ok.mpr ⟨between, first, rfl⟩
          rw [List.cons_append, valueOfTokens, from_bind_of_ok begun, from_bind, ih others,
            ← from_bind, Session.ran_ran]
          simp

/-- Behind a reference that cannot be read nothing matters. -/
theorem valueOfTokens_untilFlaw (world : World σ) (tokens : List Token) :
    valueOfTokens world (untilFlaw tokens) = valueOfTokens world tokens := by
  induction tokens with
  | nil => rfl
  | cons token tokens ih =>
      cases token with
      | flawed flaw => rfl
      | _ => simp only [untilFlaw, valueOfTokens, ih]

theorem expand_eq {text : Text} (splits : Splits text tokens) :
    expand world text = valueOfTokens world tokens := by
  rw [expand, splits.tokens_eq, valueOfTokens_untilFlaw]

end Tokens

/-- **The split decides.** There is one split of a text, whatever the world. The expression
has a value exactly if all tokens of the split yield texts: it is what these make in their
order, and each command was run once, in order. It fails exactly if a token fails before
which all others yield texts: with the fault of that token, after the commands up to it. -/
theorem expand_of_split (text : Text) : ∃ tokens : List Token,
    (∀ others, Splits text others ↔ others = tokens) ∧
    ∀ {σ : Type} (world : World σ) (session after : Session σ),
      (∀ value, Act.from_ session (expand world text) = (.ok value, after) ↔
        ∃ texts left, Yields world tokens session.world texts left ∧ value = texts.flatten ∧
          after = session.ran (tokens.flatMap Token.handed) left) ∧
      ∀ fault, Act.from_ session (expand world text) = (.error fault, after) ↔
        ∃ before token behind texts between left, tokens = before ++ token :: behind ∧
          Yields world before session.world texts between ∧
          token.Fails world between fault left ∧
          after = session.ran ((before ++ [token]).flatMap Token.handed) left := by
  obtain ⟨tokens, one⟩ := exists_split text
  refine ⟨tokens, one, fun world session after => ?_⟩
  rw [expand_eq ((one tokens).mpr rfl)]
  exact ⟨fun value => valueOfTokens_eq_ok, fun fault => valueOfTokens_eq_error⟩

/-- A dollar sign behind a backslash opens no command, and one before a digit no name. -/
example : tokens true "$A_b1\\$(c)$2$(d \\(\\))$(e".toList =
    [.variable "A_b".toList, .literal '1', .escapedDollar, .literal '(', .literal 'c', .literal ')',
      .literal '$', .literal '2', .command "d \\(\\)".toList,
      .flawed (.openCommand "e".toList)] := by
  cbv

end Expression

end Tailor
