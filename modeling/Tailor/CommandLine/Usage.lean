import Tailor.Document.Session

/-! # Texts for the user

The help text of the program, and the lines in which notes are shown.
-/

namespace Tailor.CommandLine

def usage : Text :=
  (String.intercalate "\n"
    ["usage: tailor run CONFIG [options]",
      "       tailor render SOURCE [options]",
      "",
      "Tailors configuration files to the machine they are used on.",
      "",
      "run: process every document of a configuration and link it",
      "  --dry-run                 process documents without writing or linking",
      "  --no-link                 write processed files, but create no links",
      "  --on-error stop|continue  what to do when a document fails (default: stop)",
      "  --command-timeout SEC     limit on the time of each $(...) command (default: none)",
      "  --debug, --verbose        show all notes",
      "  --quiet                   show errors only",
      "  --log-level LEVEL         debug, info, warn or error (default: info)",
      "",
      "render: process one document and print it",
      "  --config FILE             configuration with substitutions and defaults",
      "  --prefix MARK             mark of directive lines",
      "  --escape START END        escapes around substitution keys",
      "  --keep-instructions       keep directive lines in the output",
      "  --sub KEY=VALUE           substitution; may be given several times",
      "  --log-level LEVEL         debug, info, warn or error (default: warn)",
      ""]).toList

/-- The name of a level in lines for the user. -/
def levelName : Level → Text
  | .info => "info".toList
  | .warning => "warning".toList
  | .error => "error".toList

/-- The line in which a note is shown. -/
def noteLine (written : Note) : Text :=
  "tailor: ".toList ++ levelName written.level ++ ": ".toList ++ written.message ++ ['\n']

end Tailor.CommandLine
