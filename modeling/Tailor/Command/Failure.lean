import Tailor.Command.Seconds
import Tailor.Text.Quoted

/-! # Failures of commands -/

namespace Tailor

/-- Why a command gave no output. -/
inductive CommandFailure where
  | timedOut (command : Text) (limit : Seconds)
  /-- It could not be started, for a reason in words. -/
  | notStarted (command : Text) (reason : Text)
  /-- It ended with a status other than zero; its error output is kept. -/
  | failed (command : Text) (status : Int) (errorOutput : Text)

namespace CommandFailure

def command : CommandFailure → Text
  | .timedOut command _ => command
  | .notStarted command _ => command
  | .failed command _ _ => command

def status? : CommandFailure → Option Int
  | .failed _ status _ => some status
  | _ => none

/-- The error output of a command that ended. -/
def errorOutput : CommandFailure → Text
  | .failed _ _ output => output
  | _ => []

/-- The wording of a failure; error output that is not blank follows a colon. -/
def message : CommandFailure → Text
  | .timedOut command limit =>
      "Command timed out after ".toList ++ limit.text ++ " seconds: ".toList ++ command
  | .notStarted command reason =>
      "Failed to execute command ".toList ++ Text.quoted command ++ ": ".toList ++ reason
  | .failed command status output =>
      let shown := Text.trim output
      "Command ".toList ++ Text.quoted command ++ " exited with status ".toList ++
        Text.ofInt status ++ (if shown.isEmpty then [] else ": ".toList ++ shown)

end CommandFailure
end Tailor
