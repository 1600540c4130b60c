import Tailor.Command.Failure
import Tailor.Text.Utf8

/-! # Running commands

A shell turns a command into an attempt: the process ends with a status and two streams of bytes
after some time, or it cannot be started, or the command cannot even be handed over to it. While it
runs, the command may change whatever state the shell works on. What a caller sees of an attempt
depends on the time limit; undecodable output shows replacement characters.
-/

namespace Tailor.Command

/-- What a process leaves when it ends: a status, negative if a signal ended it, and its output. -/
structure Report where
  status : Int
  output : Bytes
  errorOutput : Bytes

/-- What becomes of a command. -/
inductive Attempt where
  | ends (after : Seconds) (report : Report)
  /-- No process can be started, for a reason in words. -/
  | notStarted (reason : Text)
  /-- The command is none that a process can be given, for a reason in words. -/
  | unfit (reason : Text)

/-- The result of a command that ended within its limit. -/
structure Result where
  command : Text
  status : Int
  output : Text
  errorOutput : Text

/-- Why a command gave no output: it failed, or it is none that a process can be given. -/
inductive Fault where
  | failed (failure : CommandFailure)
  | unfit (reason : Text)

/-- A shell: what becomes of each command, and what the command makes of a state. -/
abbrev Shell (τ : Type) := Text → τ → Attempt × τ

/-- The shell behind a check: a command with a null character is never handed over. -/
def Shell.checked {τ : Type} (shell : Shell τ) : Shell τ := fun command state =>
  if command.contains '\x00' then (.unfit "embedded null byte".toList, state)
  else shell command state

/-- The result of a command under an optional time limit, whatever its status. -/
def execute (limit? : Option Seconds) (command : Text) : Attempt → Except Fault Result
  | .unfit reason => .error (.unfit reason)
  | .notStarted reason => .error (.failed (.notStarted command reason))
  | .ends time report =>
      match limit?.filter time.exceeds with
      | some limit => .error (.failed (.timedOut command limit))
      | none =>
          .ok ⟨command, report.status, Utf8.decodeLenient report.output,
            Utf8.decodeLenient report.errorOutput⟩

/-- The output of a command without the line feeds at its end; a status other than zero is a
failure. -/
def output (limit? : Option Seconds) (command : Text) (attempt : Attempt) : Except Fault Text := do
  let result ← execute limit? command attempt
  if result.status = 0 then .ok (Text.dropTrailing (· == '\n') result.output)
  else .error (.failed (.failed command result.status result.errorOutput))

end Tailor.Command
