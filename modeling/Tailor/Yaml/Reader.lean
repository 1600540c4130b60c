import Tailor.Config.Load
import Tailor.Yaml.Value

/-! # YAML: the reader of the program

Loading a configuration is given what reads YAML. Where the program is run this is the reading of
this library, which knows the part of YAML that configurations are written in; nothing that is
proved about loading depends on it.
-/

namespace Tailor.Yaml

/-- What reads YAML where the program is run. -/
def reader : Config.YamlReader := fun text =>
  (read text).mapError fun
    | .flaw flaw => .malformed flaw.message
    | .literal fault => .literal fault

end Tailor.Yaml
