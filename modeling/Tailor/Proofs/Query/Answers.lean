import Mathlib.Logic.Relation
import Tailor.Proofs.Document.Composition
import Tailor.Proofs.Query.AskOnce
import Tailor.Proofs.Query.Input
import Tailor.Proofs.Session.Faults

/-! # Answers that come from a terminal

A session moves by commands, queries and notes, and whatever a document does is made of
such moves (`Tailor.Act.Composed.reaches`). If queries are put at a terminal, every move
keeps the recorded answers of the kind that their queries ask for
(`Tailor.Session.Sound.move`), so they are in every session that can be reached. A block
is then never closed with an answer that selects nothing: as far as queries go, documents
only fail because the input has ended (`Tailor.processAll_sound`).
-/

namespace Tailor

variable {σ α : Type}

/-- The answer is of the kind that the query asks for: yes or no without options,
otherwise the position of one of them. -/
inductive Query.Admits (query : Query) : Answer → Prop where
  | yesNo (unoffered : query.options = []) (yes : Bool) : Admits query (.yesNo yes)
  | choice {position : Nat} (offered : position < query.options.length) :
      Admits query (.choice position)

/-- Such an answer may close a block. -/
theorem Query.Admits.fits {query : Query} {answer : Answer} (admits : query.Admits answer) :
    answer.fits query.options.length = true := by
  cases admits with
  | yesNo unoffered => simp [Answer.fits, unoffered]
  | choice offered => simp [Answer.fits, offered]

/-! ## The terminal -/

namespace Terminal

theorem judgeYesNo_eq_answer {line : Text} {answer : Answer}
    (judged : judgeYesNo line = .answer answer) : ∃ yes, answer = .yesNo yes := by
  unfold judgeYesNo at judged
  dsimp only at judged
  split at judged
  · cases judged
    exact ⟨true, rfl⟩
  · split at judged
    · cases judged
      exact ⟨false, rfl⟩
    · cases judged

/-- Numbers are counted from one, positions from zero. -/
theorem judgeChoice_eq_answer {count : Nat} {line : Text} {answer : Answer}
    (judged : judgeChoice count line = .answer answer) :
    ∃ position : Nat, position < count ∧ answer = .choice position := by
  unfold judgeChoice at judged
  dsimp only at judged
  split at judged
  · cases judged
  · rename_i number _
    split at judged
    · cases judged
    · split at judged
      · rename_i inside
        cases judged
        exact ⟨number - 1, by omega, rfl⟩
      · cases judged

/-- An answer is what a line is judged to be. -/
theorem readUntil_eq_ok {prompt : Text} {judge : Text → Judgement} {unread : List Text}
    {written : Text} {answer : Answer}
    (answered : (readUntil prompt judge unread written).1 = .ok answer) :
    ∃ line ∈ unread, judge line = .answer answer := by
  induction unread generalizing written with
  | nil => cases answered
  | cons line unread ih =>
      unfold readUntil at answered
      cases judged : judge line with
      | again =>
          rw [judged] at answered
          obtain ⟨later, read, found⟩ := ih answered
          exact ⟨later, List.mem_cons_of_mem _ read, found⟩
      | answer found =>
          rw [judged] at answered
          cases answered
          exact ⟨line, List.mem_cons_self, judged⟩
      | crash how =>
          rw [judged] at answered
          cases answered

/-- Reading has no problem but the end of the input. -/
theorem readUntil_eq_problem {prompt : Text} {judge : Text → Judgement} {unread : List Text}
    {written : Text} {what : Problem} {line? : Option Nat}
    (failed : (readUntil prompt judge unread written).1 = .error (.problem what line?)) :
    what = .query .inputEnded := by
  induction unread generalizing written with
  | nil =>
      cases failed
      rfl
  | cons line unread ih =>
      unfold readUntil at failed
      cases judged : judge line with
      | again =>
          rw [judged] at failed
          exact ih failed
      | answer found =>
          rw [judged] at failed
          cases failed
      | crash how =>
          rw [judged] at failed
          cases failed

/-- At a terminal a query gets an answer of the kind that it asks for. -/
theorem ask_admits {query : Query} {terminal : Terminal} {answer : Answer}
    (answered : (ask query terminal).1 = .ok answer) : query.Admits answer := by
  unfold ask at answered
  split at answered
  · rename_i unoffered
    obtain ⟨line, _, judged⟩ := readUntil_eq_ok answered
    obtain ⟨yes, rfl⟩ := judgeYesNo_eq_answer judged
    exact .yesNo (List.isEmpty_iff.mp unoffered) yes
  · obtain ⟨line, _, judged⟩ := readUntil_eq_ok answered
    obtain ⟨position, offered, rfl⟩ := judgeChoice_eq_answer judged
    exact .choice offered

theorem ask_eq_problem {query : Query} {terminal : Terminal} {what : Problem}
    {line? : Option Nat} (failed : (ask query terminal).1 = .error (.problem what line?)) :
    what = .query .inputEnded := by
  unfold ask at failed
  split at failed
  · exact readUntil_eq_problem failed
  · exact readUntil_eq_problem failed

end Terminal

/-- Queries are put at the terminal that a state of the world shows. Commands leave some
terminal, whatever they read and write there, and their faults are no problems of
queries. -/
structure World.AsksAt (world : World σ) (shows : σ → Terminal → Prop) : Prop where
  ask : ∀ query state terminal, shows state terminal →
    (world.ask query state).1 = (terminal.ask query).1 ∧
      shows (world.ask query state).2 (terminal.ask query).2
  run : ∀ command state terminal, shows state terminal →
    ∃ left, shows (world.run command state).2 left
  failed : ∀ command state fault, (world.run command state).1 = .error fault →
    ∀ failure line?, fault ≠ .problem (.query failure) line?

/-- Where all that is typed can be decoded, the respondent shows the terminal. -/
theorem World.ofShell_asksAt {τ : Type} (lookup : Text → Option Text)
    (shell : Command.Shell (τ × Files)) (limit? : Option Seconds) :
    (World.ofShell lookup shell limit?).AsksAt fun state terminal =>
      state.1.1 = .terminal terminal [] where
  ask query state terminal here := by
    obtain ⟨⟨respondent, others⟩, files⟩ := state
    cases here
    exact Prod.ext_iff.mp (Respondent.askThere_nil query terminal)
  run command state terminal here :=
    ⟨terminal, (Act.run_ofShell lookup shell limit? command state).trans here⟩
  failed command state fault failed failure line? same := by
    rcases Act.run_ofShell_failed lookup shell limit? failed with
      ⟨found, rfl⟩ | ⟨reason, _, rfl⟩ <;> cases same

/-! ## Moves -/

namespace Session

/-- A session moves: a command is run, a query is resolved or a note is written. -/
inductive Moves (world : World σ) (session : Session σ) : Session σ → Prop where
  | command (command : Text) :
      Moves world session (Act.from_ session (Act.runCommand world command)).2
  | query (query : Query) : Moves world session (Act.from_ session (Act.resolve world query)).2
  | note (level : Level) (activity : Activity) (message : Text) :
      Moves world session (Act.from_ session (Act.note level activity message)).2

/-- A session comes to be another one by moves. -/
def Reaches (world : World σ) : Session σ → Session σ → Prop :=
  Relation.ReflTransGen (Moves world)

instance (world : World σ) : IsPreorder (Session σ) (Reaches world) where
  refl _ := .refl
  trans _ _ _ := .trans

end Session

/-- Whatever is composed of commands, queries and notes goes on by moves. -/
theorem Act.Composed.reaches {world : World σ} {action : Act σ α}
    (composed : Composed world action) : Relates (Session.Reaches world) action := by
  induction composed with
  | pure value => exact relates_pure value
  | problem what line => exact relates_throw _
  | command command => exact fun session => .single (.command command)
  | query query => exact fun session => .single (.query query)
  | note level activity message => exact fun session => .single (.note level activity message)
  | bind _ _ first second => exact first.bind second
  | atLine line _ inner => exact inner.atLine line

section Sound

variable {shows : σ → Terminal → Prop} {world : World σ}

/-- Every recorded answer is of the kind that its query asks for. -/
def Cache.Sound (cache : Cache) : Prop :=
  ∀ query answer, (query, answer) ∈ cache.entries → query.Admits answer

namespace Cache

variable {cache : Cache} {query : Query} {answer : Answer}

theorem sound_empty : empty.Sound := by
  intro query answer recorded
  cases recorded

theorem Sound.admits (sound : cache.Sound) (recorded : cache.get? query = some answer) :
    query.Admits answer := by
  obtain ⟨before, behind, split, _⟩ := List.lookup_eq_some_iff.mp recorded
  apply sound
  rw [split]
  exact List.mem_append_right _ List.mem_cons_self

theorem Sound.add (sound : cache.Sound) (admits : query.Admits answer) :
    (cache.add query answer).Sound := by
  intro other found member
  rcases List.mem_append.mp member with earlier | last
  · exact sound other found earlier
  · cases List.mem_singleton.mp last
    exact admits

end Cache

/-- There is a terminal, and every recorded answer is of the kind that its query asks
for. -/
structure Session.Sound (shows : σ → Terminal → Prop) (session : Session σ) : Prop where
  terminal : ∃ terminal, shows session.world terminal
  cache : session.cache.Sound

/-- As far as queries go, the fault is that the input has ended. -/
def Fault.Ended (fault : Fault) : Prop :=
  ∀ failure line?, fault = .problem (.query failure) line? → failure = .inputEnded

theorem Fault.Ended.atLine {fault : Fault} (ended : fault.Ended) (line : Nat) :
    (fault.atLine line).Ended := by
  intro failure line? same
  cases fault with
  | crash how => cases same
  | problem what known =>
      cases known with
      | none =>
          cases same
          exact ended failure none rfl
      | some number =>
          cases same
          exact ended failure (some number) rfl

theorem World.AsksAt.admissible (asks : world.AsksAt shows) : Admissible world Fault.Ended where
  command command state fault failed failure line? same :=
    absurd same (asks.failed command state fault failed failure line?)
  reference flaw failure line? same := by cases same
  key key failure line? same := by cases same

/-- A query that is resolved is answered as it asks, or the input has ended. -/
theorem Act.resolve_sound (asks : world.AsksAt shows) (query : Query) :
    Ensures (Session.Sound shows) (resolve world query)
      (fun answer after => after.Sound shows ∧ query.Admits answer)
      fun fault after => after.Sound shows ∧ fault.Ended := by
  rintro session ⟨⟨terminal, here⟩, sound⟩
  obtain ⟨same, left⟩ := asks.ask query session.world terminal here
  have resolved := from_resolve world session query
  unfold from_ at resolved
  rw [resolved]
  cases recorded : session.cache.get? query with
  | some answer => exact ⟨⟨⟨terminal, here⟩, sound⟩, sound.admits recorded⟩
  | none =>
      generalize world.ask query session.world = put at same left
      obtain ⟨outcome, state⟩ := put
      cases outcome with
      | ok answer =>
          have admits : query.Admits answer := Terminal.ask_admits same.symm
          exact ⟨⟨⟨_, left⟩, sound.add admits⟩, admits⟩
      | error fault =>
          refine ⟨⟨⟨_, left⟩, sound⟩, fun failure line? known => ?_⟩
          subst known
          cases Terminal.ask_eq_problem same.symm
          rfl

/-- **Moves keep answers sound.** -/
theorem Session.Sound.move {session after : Session σ} (sound : session.Sound shows)
    (asks : world.AsksAt shows) (moves : session.Moves world after) : after.Sound shows := by
  cases moves with
  | command command =>
      obtain ⟨⟨terminal, here⟩, cache⟩ := sound
      rw [Act.runCommand, Act.from_bind_of_ok (Act.from_record session _), Act.from_useWorld]
      exact ⟨asks.run command session.world terminal here, cache⟩
  | query query =>
      have resolved := Act.resolve_sound asks query
      cases ended : Act.from_ session (Act.resolve world query) with
      | mk outcome after =>
          cases outcome with
          | ok answer => exact (Act.promised_of_ensures resolved sound ended).1
          | error fault => exact (Act.admitted_of_ensures resolved sound ended).1
  | note level activity message => exact ⟨sound.terminal, sound.cache⟩

theorem Session.Sound.reaches {session after : Session σ} (sound : session.Sound shows)
    (asks : world.AsksAt shows) (reaches : session.Reaches world after) : after.Sound shows := by
  induction reaches with
  | refl => exact sound
  | tail _ moves ih => exact ih.move asks moves

/-! ## Documents -/

/-- From a sound session the action comes to a sound one, and as far as queries go, it
fails only because the input has ended. -/
def Act.Sound (shows : σ → Terminal → Prop) (action : Act σ α) : Prop :=
  Ensures (Session.Sound shows) action (fun _ => Session.Sound shows) fun fault _ => fault.Ended

/-- Where no query is settled, this is a matter of the faults alone. -/
theorem Act.Composed.sound {action : Act σ α} (composed : Composed world action)
    (asks : world.AsksAt shows) (fails : FailsWith Fault.Ended action) : Sound shows action := by
  intro session sound
  have left := sound.reaches asks (composed.reaches session)
  have ended := fails session
  unfold from_ at left ended
  generalize action.run.run session = result at left ended ⊢
  obtain ⟨outcome, after⟩ := result
  cases outcome with
  | ok value => exact left
  | error fault => exact ended fault after rfl

theorem Act.Sound.atLine {action : Act σ α} (sound : Sound shows action) (line : Nat) :
    Sound shows (Act.atLine line action) :=
  Ensures.tryCatch sound fun _ => ensures_throw fun _ ended => Fault.Ended.atLine ended line

/-- An answer that is as the query asks fits. -/
theorem settleQuery_sound (asks : world.AsksAt shows) (query : Query) :
    Act.Sound shows (settleQuery world query) := by
  have resolved := (Act.resolve_sound asks query).mono (fun _ sound => sound)
    (fun _ _ answered => answered) fun _ _ (failed : _ ∧ _) => failed.2
  refine resolved.bind fun answer session answered => ?_
  rw [answered.2.fits]
  exact answered.1

namespace Reading

variable {marking : Marking}

/-- A line that may not follow is no matter of queries. -/
theorem refusal?_ne_queryInput (innermost? : Option OpenBlock) (meaning : Meaning) :
    refusal? innermost? meaning ≠ some .queryInput := by
  unfold refusal?
  split <;> (try split) <;> simp

/-- Reading a line is sound. -/
theorem step_sound (asks : world.AsksAt shows) (reading : Reading) (line : NumberedLine) :
    Act.Sound shows (reading.step world marking line) := by
  cases refused : refusal? reading.openBlocks.head? (Directive.ofLine marking.mark line.text) with
  | some category =>
      obtain ⟨problem, kind, fails⟩ := step_refused world refused
      rw [fails]
      refine ensures_throw fun _ _ failure line? same => ?_
      cases same
      exact absurd (refused.trans (congrArg some kind.symm)) (refusal?_ne_queryInput _ _)
  | none =>
      obtain ⟨_, request, next, requested, reads, _⟩ := exists_request world refused
      rw [reads]
      refine Ensures.bind ?_ fun reply => ensures_pure fun _ sound => sound
      cases requested with
      | nothing => exact ensures_pure fun _ sound => sound
      | verdict asked =>
          have fails := Expression.verdict_failsWith asks.admissible asked
          exact ((Expression.verdict_composed world asked).sound asks fails).atLine line.number
      | question argument =>
          have fails := Expression.expand_failsWith asks.admissible argument
          exact ((Expression.expand_composed world argument).sound asks fails).atLine line.number
      | answer opened question offers => exact (settleQuery_sound asks _).atLine line.number

theorem steps_sound (asks : world.AsksAt shows) (reading : Reading) (lines : List NumberedLine) :
    Act.Sound shows (reading.steps world marking lines) := by
  induction lines generalizing reading with
  | nil => exact ensures_pure fun _ sound => sound
  | cons line lines ih => exact Ensures.bind (step_sound asks reading line) ih

theorem finish_sound (reading : Reading) :
    Act.Sound shows (reading.finish : Act σ (List NumberedLine)) := by
  unfold finish
  split
  · exact ensures_pure fun _ sound => sound
  · refine ensures_throw fun _ _ failure line? same => ?_
    cases same

end Reading

theorem survivors_sound (asks : world.AsksAt shows) (treatment : Treatment) (text : Text) :
    Act.Sound shows (survivors world treatment text) := by
  unfold survivors
  split
  · exact Ensures.bind (Reading.steps_sound asks _ _) Reading.finish_sound
  · exact ensures_pure fun _ sound => sound

theorem substituted_sound (asks : world.AsksAt shows) (treatment : Treatment)
    (substitution : Substitution) (lines : List NumberedLine) :
    Act.Sound shows (substituted world treatment substitution lines) := by
  have fails := Substitution.numbered_failsWith substitution asks.admissible
    (fun _ line ended => Fault.Ended.atLine ended line) treatment.escape? lines
  apply (substituted_composed world treatment substitution lines).sound asks
  unfold substituted
  split
  · exact (Act.failsWith_record _).bind fun _ => fails
  · exact fails

/-- A document is sound. -/
theorem process_sound (asks : world.AsksAt shows) (treatment : Treatment)
    (substitution : Substitution) (text : Text) :
    Act.Sound shows (process world treatment substitution text) := by
  refine Ensures.bind (survivors_sound asks treatment text) fun surviving => ?_
  refine Ensures.bind (substituted_sound asks treatment substitution surviving) fun lines => ?_
  exact ensures_pure fun _ sound => sound

end Sound

section Run

variable {world : World σ}

theorem processAll_reaches (jobs : List Job) (session : Session σ) :
    session.Reaches world (processAll world jobs session).2 := by
  induction jobs generalizing session with
  | nil => exact .refl
  | cons job jobs ih =>
      have processed := process_composed world job.treatment job.substitution job.text
      exact (processed.reaches session).trans (ih _)

theorem processAll_ended {shows : σ → Terminal → Prop} (asks : world.AsksAt shows)
    (jobs : List Job) {session : Session σ} (sound : session.Sound shows) :
    ∀ outcome ∈ (processAll world jobs session).1,
      ∀ fault, outcome = .error fault → fault.Ended := by
  induction jobs generalizing session with
  | nil =>
      intro outcome listed
      cases listed
  | cons job jobs ih =>
      have processed := process_sound asks job.treatment job.substitution job.text
      have reached := sound.reaches asks (processAll_reaches [job] session)
      intro outcome listed fault failed
      rcases List.mem_cons.mp listed with rfl | later
      · exact Act.admitted_of_ensures processed sound (Prod.ext failed rfl)
      · exact ih reached outcome later fault failed

/-- **Answers that come from a terminal.** With nothing recorded at first, whatever the
input, every answer that is recorded in a session that can be reached is of the kind that
its query asks for, and so is every answer that a query is resolved with there. Documents
that are processed one after another reach such sessions with every line, and none of
them has a problem with a query but that the input has ended. -/
theorem processAll_sound {shows : σ → Terminal → Prop} (asks : world.AsksAt shows) {state : σ}
    {input : Text} (begins : shows state (.ofInput input)) :
    (∀ session, (Session.start state).Reaches world session → session.cache.Sound ∧
      ∀ query answer after, Act.from_ session (Act.resolve world query) = (.ok answer, after) →
        query.Admits answer) ∧
    ∀ jobs : List Job,
      (∀ marking lines, (Session.start state).Reaches world
        (Act.from_ (processAll world jobs (Session.start state)).2
          (Reading.start.steps world marking lines)).2) ∧
      ∀ outcome ∈ (processAll world jobs (Session.start state)).1, ∀ failure line?,
        outcome = .error (.problem (.query failure) line?) → failure = .inputEnded := by
  have first : (Session.start state).Sound shows :=
    ⟨⟨.ofInput input, begins⟩, Cache.sound_empty⟩
  refine ⟨fun session reached => ?_, fun jobs => ⟨fun marking lines => ?_, ?_⟩⟩
  · have sound := first.reaches asks reached
    refine ⟨sound.cache, fun query answer after resolved => ?_⟩
    exact (Act.promised_of_ensures (Act.resolve_sound asks query) sound resolved).2
  · exact (processAll_reaches jobs _).trans
      ((Reading.steps_composed world marking .start lines).reaches _)
  · intro outcome listed failure line? failed
    exact processAll_ended asks jobs first outcome listed _ failed failure line? rfl

/-- A world without commands, where somebody answers at a terminal. -/
def World.manned : World ((Respondent × Unit) × Files) :=
  .ofShell (fun _ => none) (fun _ state => (.notStarted "no shell".toList, state)) none

/-- Two lines are typed at the terminal. -/
def ballotSession : Session ((Respondent × Unit) × Files) :=
  .start ((.terminal (.ofInput "7\n2\n".toList) [], ()), ⟨[], []⟩)

/-- The first line selects none of two options, the second one selects the last. -/
theorem ballotSession_sound :
    (Act.from_ ballotSession
      (Act.resolve .manned ⟨"Q?".toList, ["a".toList, "b".toList]⟩)).1 = .ok (.choice 1) ∧
    (∀ session, ballotSession.Reaches .manned session → session.cache.Sound ∧
      ∀ query answer after,
        Act.from_ session (Act.resolve .manned query) = (.ok answer, after) →
          query.Admits answer) ∧
    ∀ jobs : List Job,
      (∀ marking lines, ballotSession.Reaches .manned
        (Act.from_ (processAll .manned jobs ballotSession).2
          (Reading.start.steps .manned marking lines)).2) ∧
      ∀ outcome ∈ (processAll .manned jobs ballotSession).1, ∀ failure line?,
        outcome = .error (.problem (.query failure) line?) → failure = .inputEnded :=
  have asks : World.manned.AsksAt fun state terminal => state.1.1 = .terminal terminal [] :=
    World.ofShell_asksAt _ (fun _ state => (.notStarted "no shell".toList, state)) none
  ⟨rfl, processAll_sound asks rfl⟩

end Run

end Tailor
