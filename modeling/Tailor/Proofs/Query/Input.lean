import Tailor.Proofs.Document.Composition
import Tailor.Proofs.Outcome
import Tailor.Proofs.Session.Effect
import Tailor.Query.Respondent

/-! # Input that is typed

Processing reads lines at a terminal, and only one kind of line makes it crash: at
the prompt for an option, a numeral with more digits than a number is read from. Any
other line answers the query or makes it prompt again, and an input that ends is a
problem of the document. Beside such numerals it is bytes that cannot be decoded and
commands that cannot be handed to a process that processing crashes at
(`Tailor.Act.Composed.provoked`).
-/

namespace Tailor

/-- A numeral with more digits than a number is read from. -/
structure Text.Overlong (line : Text) : Prop where
  numeral : (natural? (trim line)).isSome = true
  long : digitLimit < (trim line).length

namespace Terminal

theorem judgeYesNo_ne_crash (line : Text) (crash : Crash) : judgeYesNo line ≠ .crash crash := by
  unfold judgeYesNo
  dsimp only
  split
  · simp
  · split <;> simp

/-- The prompt for an option breaks down at numerals that are too long, and at no
other line. -/
theorem judgeChoice_eq_crash {count : Nat} {line : Text} {crash : Crash} :
    judgeChoice count line = .crash crash ↔
      Text.Overlong line ∧ crash = .tooManyDigits (Text.trim line).length := by
  unfold judgeChoice
  dsimp only
  constructor
  · intro judged
    split at judged
    · cases judged
    · rename_i number read
      by_cases long : (Text.trim line).length > Text.digitLimit
      · rw [if_pos long] at judged
        cases judged
        exact ⟨⟨by rw [read]; rfl, long⟩, rfl⟩
      · rw [if_neg long] at judged
        split at judged <;> cases judged
  · rintro ⟨⟨numeral, long⟩, rfl⟩
    obtain ⟨number, read⟩ := Option.isSome_iff_exists.mp numeral
    rw [read]
    exact if_pos long

/-- Lines are read from the front. -/
theorem readUntil_unread (prompt : Text) (judge : Text → Judgement) (unread : List Text)
    (written : Text) : (readUntil prompt judge unread written).2.unread <:+ unread := by
  induction unread generalizing written with
  | nil => exact List.suffix_rfl
  | cons line unread ih =>
      unfold readUntil
      cases judge line with
      | again => exact (ih (written ++ prompt)).trans (List.suffix_cons line unread)
      | answer answer => exact List.suffix_cons line unread
      | crash crash => exact List.suffix_cons line unread

/-- Reading crashes at a line that is judged so. -/
theorem readUntil_crash {prompt : Text} {judge : Text → Judgement} {unread : List Text}
    {written : Text} {crash : Crash}
    (crashed : (readUntil prompt judge unread written).1 = .error (.crash crash)) :
    ∃ line ∈ unread, judge line = .crash crash := by
  induction unread generalizing written with
  | nil => cases crashed
  | cons line unread ih =>
      unfold readUntil at crashed
      cases judged : judge line with
      | again =>
          rw [judged] at crashed
          obtain ⟨later, read, found⟩ := ih crashed
          exact ⟨later, List.mem_cons_of_mem _ read, found⟩
      | answer answer =>
          rw [judged] at crashed
          cases crashed
      | crash found =>
          rw [judged] at crashed
          cases crashed
          exact ⟨line, List.mem_cons_self .., judged⟩

theorem ask_unread (query : Query) (terminal : Terminal) :
    (ask query terminal).2.unread <:+ terminal.unread := by
  unfold ask
  split
  · exact readUntil_unread _ _ _ _
  · exact readUntil_unread _ _ _ _

theorem ask_crash {query : Query} {terminal : Terminal} {crash : Crash}
    (crashed : (ask query terminal).1 = .error (.crash crash)) :
    ∃ line ∈ terminal.unread, Text.Overlong line ∧
      crash = .tooManyDigits (Text.trim line).length := by
  unfold ask at crashed
  split at crashed
  · obtain ⟨line, _, judged⟩ := readUntil_crash crashed
    exact absurd judged (judgeYesNo_ne_crash line crash)
  · obtain ⟨line, read, judged⟩ := readUntil_crash crashed
    exact ⟨line, read, judgeChoice_eq_crash.mp judged⟩

/-- Such a numeral ends the asking. -/
theorem ask_overlong {query : Query} (options : query.isYesNo = false) {line : Text}
    (long : Text.Overlong line) (later : List Text) (written : Text) :
    (ask query ⟨line :: later, written⟩).1 =
      .error (.crash (.tooManyDigits (Text.trim line).length)) := by
  have judged : judgeChoice query.options.length line =
      .crash (.tooManyDigits (Text.trim line).length) :=
    judgeChoice_eq_crash.mpr ⟨long, rfl⟩
  unfold ask
  rw [options, if_neg Bool.false_ne_true]
  unfold readUntil
  rw [judged]

end Terminal

/-- Where all that is typed can be decoded, a query is put at the terminal alone. -/
theorem Respondent.askThere_nil (query : Query) (terminal : Terminal) :
    askThere query terminal [] =
      ((terminal.ask query).1, .terminal (terminal.ask query).2 []) := by
  unfold askThere
  split
  · rename_i nothing
    cases nothing
  · rename_i asked _
    rw [asked]

/-- What may be typed at a terminal: lines, and bytes with faults of decoding. -/
structure Typing where
  lines : List Text
  faults : List Utf8.Fault

/-- What is typed at a terminal from now on. -/
def Typing.at (terminal : Terminal) (later : List (Utf8.Fault × List Text)) : Typing :=
  ⟨terminal.unread ++ later.flatMap (·.2), later.map (·.1)⟩

/-- Somebody at a terminal answers, and what is not read yet may be typed there. -/
inductive Respondent.Within (typing : Typing) : Respondent → Prop where
  | terminal {terminal : Terminal} {later : List (Utf8.Fault × List Text)}
      (unread : terminal.unread ⊆ typing.lines)
      (behind : ∀ fault lines, (fault, lines) ∈ later →
        fault ∈ typing.faults ∧ lines ⊆ typing.lines) :
      Within typing (.terminal terminal later)

theorem Typing.within (terminal : Terminal) (later : List (Utf8.Fault × List Text)) :
    (Respondent.terminal terminal later).Within (.at terminal later) := by
  refine .terminal (List.subset_append_left ..) fun fault lines listed => ⟨?_, fun line typed => ?_⟩
  · exact List.mem_map_of_mem listed
  · exact List.mem_append_right _ (List.mem_flatMap.mpr ⟨_, listed, typed⟩)

/-- What makes processing crash: a numeral or undecodable bytes that may be typed, or a
command that was run and cannot be handed to a process. -/
inductive Crash.Provoked {ρ : Type} (typing : Typing) (shell : Command.Shell ρ)
    (commands : List Text) : Crash → Prop where
  | numeral {line : Text} (typed : line ∈ typing.lines) (long : Text.Overlong line) :
      Provoked typing shell commands (.tooManyDigits (Text.trim line).length)
  | undecodable {fault : Utf8.Fault} (typed : fault ∈ typing.faults) :
      Provoked typing shell commands (.undecodable fault)
  | command {command reason : Text} {state : ρ} (ran : command ∈ commands)
      (unfit : (shell command state).1 = .unfit reason) :
      Provoked typing shell commands (.unfitCommand reason)

/-- If the fault is a crash, something made processing crash. -/
def Fault.Provoked {ρ : Type} (typing : Typing) (shell : Command.Shell ρ)
    (commands : List Text) (fault : Fault) : Prop :=
  ∀ crash, fault = .crash crash → crash.Provoked typing shell commands

section Provoked

variable {ρ : Type} {typing : Typing} {shell : Command.Shell ρ} {commands : List Text}

theorem Fault.provoked_problem (what : Problem) (line : Option Nat) :
    Fault.Provoked typing shell commands (.problem what line) := by
  intro crash same
  cases same

theorem Fault.Provoked.atLine {fault : Fault} (provoked : fault.Provoked typing shell commands)
    (line : Nat) : (fault.atLine line).Provoked typing shell commands := by
  cases fault with
  | problem what known => cases known <;> exact provoked_problem what _
  | crash how => exact provoked

/-- A query that is put leaves less to be typed, and crashes at something that is typed. -/
theorem Respondent.Within.ask {respondent : Respondent} (within : respondent.Within typing)
    (query : Query) :
    (respondent.ask query).2.Within typing ∧
      ∀ fault, (respondent.ask query).1 = .error fault →
        fault.Provoked typing shell commands := by
  obtain @⟨terminal, later, unread, behind⟩ := within
  have left : (terminal.ask query).2.unread ⊆ typing.lines :=
    List.Subset.trans (Terminal.ask_unread query terminal).subset unread
  have crashes := @Terminal.ask_crash query terminal
  change (askThere query terminal later).2.Within typing ∧
    ∀ fault, (askThere query terminal later).1 = .error fault →
      fault.Provoked typing shell commands
  unfold askThere
  split
  · rename_i line? after fault lines rest put
    obtain ⟨known, among⟩ := behind fault lines (List.mem_cons_self ..)
    refine ⟨.terminal among fun other typed listed =>
      behind other typed (List.mem_cons_of_mem _ listed), ?_⟩
    rintro _ ⟨rfl⟩ _ ⟨rfl⟩
    exact .undecodable known
  · rename_i outcome after put _
    rw [put] at left crashes
    refine ⟨.terminal left behind, ?_⟩
    rintro fault failed crash rfl
    obtain ⟨line, read, long, rfl⟩ := crashes failed
    exact .numeral (unread read) long

/-- A command that gives no output has failed, unless it could not be handed over. -/
theorem Command.output_eq_error {limit? : Option Seconds} {command : Text} {attempt : Attempt}
    {fault : Command.Fault} (given : output limit? command attempt = .error fault) :
    (∃ failure, fault = .failed failure) ∨
      ∃ reason, attempt = .unfit reason ∧ fault = .unfit reason := by
  cases attempt with
  | unfit reason =>
      cases given
      exact .inr ⟨reason, rfl, rfl⟩
  | notStarted reason =>
      cases given
      exact .inl ⟨_, rfl⟩
  | ends time report =>
      unfold output execute at given
      dsimp only at given
      cases exceeded : limit?.filter time.exceeds with
      | some limit =>
          rw [exceeded] at given
          cases given
          exact .inl ⟨_, rfl⟩
      | none =>
          rw [exceeded] at given
          dsimp only [bind, Except.bind] at given
          split at given
          · cases given
          · cases given
            exact .inl ⟨_, rfl⟩

/-- Behind its check a shell that takes every command refuses those with a null character,
and no others. -/
theorem Command.Shell.checked_eq_unfit_iff
    (takes : ∀ command state reason, (shell command state).1 ≠ .unfit reason)
    {command reason : Text} {state : ρ} :
    (shell.checked command state).1 = .unfit reason ↔
      command.contains '\x00' = true ∧ reason = "embedded null byte".toList := by
  unfold Command.Shell.checked
  split
  · rename_i null
    simp only [Command.Attempt.unfit.injEq, null, true_and]
    exact eq_comm
  · rename_i clean
    exact iff_of_false (takes command state reason) fun ⟨null, _⟩ => clean null

/-- So a command with which processing crashes there has a null character. -/
theorem Crash.Provoked.exists_null
    (takes : ∀ command state reason, (shell command state).1 ≠ .unfit reason) {reason : Text}
    (provoked : Provoked typing shell.checked commands (.unfitCommand reason)) :
    ∃ command ∈ commands, command.contains '\x00' = true := by
  cases provoked with
  | command ran unfit =>
      exact ⟨_, ran, ((Command.Shell.checked_eq_unfit_iff takes).mp unfit).1⟩

end Provoked

namespace Act

variable {α τ : Type} {typing : Typing}

/-- At a terminal the action goes on reading what may be typed, and crashes only if
something made it. -/
def KeepsTo {ρ : Type} (typing : Typing) (shell : Command.Shell ρ)
    (action : Act ((Respondent × τ) × Files) α) : Prop :=
  Ensures (fun session => session.world.1.1.Within typing) action
    (fun _ session => session.world.1.1.Within typing)
    fun fault session =>
      fault.Provoked typing shell session.commands ∧ session.world.1.1.Within typing

section KeepsTo

variable (lookup : Text → Option Text) (shell : Command.Shell (τ × Files))
  (limit? : Option Seconds)

theorem keepsTo_of_from {action : Act ((Respondent × τ) × Files) α}
    (ends : ∀ session : Session ((Respondent × τ) × Files), session.world.1.1.Within typing →
      (from_ session action).2.world.1.1.Within typing ∧
        ∀ fault, (from_ session action).1 = .error fault →
          fault.Provoked typing shell (from_ session action).2.commands) :
    KeepsTo typing shell action := by
  intro session within
  have ended := ends session within
  unfold from_ at ended
  generalize action.run.run session = result at ended ⊢
  rcases result with ⟨fault | value, after⟩
  · exact ⟨ended.2 fault rfl, ended.1⟩
  · exact ended.1

/-- A command says nothing to the respondent. -/
theorem run_ofShell (command : Text) (state : (Respondent × τ) × Files) :
    ((World.ofShell lookup shell limit?).run command state).2.1.1 = state.1.1 := rfl

/-- The failure of a command is a problem, unless the command cannot be handed over. -/
theorem run_ofShell_failed {command : Text} {state : (Respondent × τ) × Files} {fault : Fault}
    (failed : ((World.ofShell lookup shell limit?).run command state).1 = .error fault) :
    (∃ failure, fault = .problem (.command failure) none) ∨
      ∃ reason, (shell command (state.1.2, state.2)).1 = .unfit reason ∧
        fault = .crash (.unfitCommand reason) := by
  change (Command.output limit? command (shell command (state.1.2, state.2)).1).mapError
    Command.Fault.toFault = .error fault at failed
  cases given : Command.output limit? command (shell command (state.1.2, state.2)).1 with
  | ok output =>
      rw [given] at failed
      cases failed
  | error found =>
      rw [given] at failed
      cases failed
      rcases Command.output_eq_error given with ⟨failure, rfl⟩ | ⟨reason, unfit, rfl⟩
      · exact .inl ⟨failure, rfl⟩
      · exact .inr ⟨reason, unfit, rfl⟩

theorem runCommand_keepsTo (command : Text) :
    KeepsTo typing shell (runCommand (World.ofShell lookup shell limit?) command) := by
  apply keepsTo_of_from
  intro session within
  rw [runCommand, from_bind_of_ok (from_record session _), from_useWorld]
  refine ⟨within, fun fault failed crash same => ?_⟩
  have ran : command ∈
      Session.commands { session with trace := session.trace ++ [.ran command] } := by
    simp [Session.commands]
  rcases run_ofShell_failed lookup shell limit? failed with
    ⟨failure, rfl⟩ | ⟨reason, unfit, rfl⟩
  · cases same
  · cases same
    exact .command ran unfit

theorem resolve_keepsTo (query : Query) :
    KeepsTo typing shell (resolve (World.ofShell lookup shell limit?) query) := by
  apply keepsTo_of_from
  rintro ⟨⟨⟨respondent, others⟩, files⟩, cache, trace⟩ within
  have asked : (World.ofShell lookup shell limit?).ask query ((respondent, others), files) =
      ((respondent.ask query).1, (((respondent.ask query).2, others), files)) := rfl
  rw [from_resolve, asked]
  cases cache.get? query with
  | some answer => exact ⟨within, fun fault failed => by cases failed⟩
  | none =>
      have put := @Respondent.Within.ask _ typing shell
        (Session.commands ⟨(), cache, trace ++ [.consulted query, .asked query]⟩) _ within query
      generalize respondent.ask query = result at put ⊢
      obtain ⟨left, fails⟩ := put
      rcases result with ⟨fault | answer, after⟩
      · refine ⟨left, fun found failed => ?_⟩
        cases failed
        exact fails fault rfl
      · exact ⟨left, fun fault failed => by cases failed⟩

/-- A query with options crashes if a numeral that is too long is typed first. -/
theorem resolve_overlong {query : Query} (options : query.isYesNo = false) {line : Text}
    (long : Text.Overlong line) {unread : List Text} {written : Text}
    {later : List (Utf8.Fault × List Text)} {session : Session ((Respondent × τ) × Files)}
    (fresh : session.cache.get? query = none)
    (here : session.world.1.1 = .terminal ⟨line :: unread, written⟩ later) :
    ∃ after, from_ session (resolve (World.ofShell lookup shell limit?) query) =
      (.error (.crash (.tooManyDigits (Text.trim line).length)), after) := by
  obtain ⟨⟨⟨respondent, others⟩, files⟩, cache, trace⟩ := session
  obtain rfl : respondent = .terminal ⟨line :: unread, written⟩ later := here
  have crashes := Terminal.ask_overlong options long unread written
  have asked : ∃ left, (World.ofShell lookup shell limit?).ask query
      ((.terminal ⟨line :: unread, written⟩ later, others), files) =
        (.error (.crash (.tooManyDigits (Text.trim line).length)), left) := by
    refine ⟨_, Prod.ext ?_ rfl⟩
    change (Respondent.askThere query _ later).1 = _
    unfold Respondent.askThere
    generalize Terminal.ask query _ = result at crashes ⊢
    obtain ⟨outcome, after⟩ := result
    cases crashes
    rfl
  obtain ⟨left, asked⟩ := asked
  rw [from_resolve, fresh, asked]
  exact ⟨_, rfl⟩

/-- **Typed input.** Whatever a document does at a terminal, it crashes only if something
that was typed or run made it. -/
theorem Composed.provoked {action : Act ((Respondent × τ) × Files) α}
    (composed : Composed (World.ofShell lookup shell limit?) action) :
    KeepsTo typing shell action := by
  induction composed with
  | pure value => exact ensures_pure fun _ within => within
  | problem what line =>
      exact ensures_throw fun _ within => ⟨Fault.provoked_problem what line, within⟩
  | command command => exact runCommand_keepsTo lookup shell limit? command
  | query query => exact resolve_keepsTo lookup shell limit? query
  | note level activity message => exact fun _ within => within
  | bind _ _ first second => exact Ensures.bind first second
  | atLine line _ inner =>
      exact Ensures.tryCatch inner fun fault =>
        ensures_throw fun _ failed => ⟨failed.1.atLine line, failed.2⟩

end KeepsTo

end Act

end Tailor
