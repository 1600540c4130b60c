import Tailor.CommandLine.Program

/-! # What requests look at

Before a request is carried out, the files that it looks at have to be known. Which these are shows
step by step: the configuration names the documents, and links lead on to further places.
-/

namespace Tailor.CommandLine

/-- The paths of the documents of a configuration, as far as it can be read. -/
def documentPaths {τ : Type} (around : Around τ) (files : Files) (config : Path) : List Path :=
  match Config.load around.yaml around.lookup around.homes files config with
  | .ok config =>
      config.documents.flatMap fun document =>
        [document.source, document.target] ++ document.output?.toList
  | .error _ => []

/-- The paths that a request looks at, as far as the known files tell. -/
def Request.paths {τ : Type} (around : Around τ) (files : Files) : Request → List Path
  | .run request =>
      let config := Path.ofText request.config
      config :: documentPaths around files config
  | .render request =>
      let source := Path.ofText request.source
      match request.config? with
      | some (c :: rest) =>
          let config := Path.ofText (c :: rest)
          source :: config :: documentPaths around files config
      | _ => [source]

/-- The locations on the way to a path, those above it first: both with the known links followed and
with the names as they stand. -/
def locationsTo (files : Files) (path : Path) : List Location :=
  let ends := [files.settle path, Files.plain (files.base path) path.names]
  ends.flatMap fun location =>
    (List.range location.length).map fun (count : Nat) => location.take (count + 1)

/-- The locations that a request looks at, as far as the known files tell. -/
def Request.locations {τ : Type} (around : Around τ) (files : Files) (request : Request) :
    List Location :=
  ((request.paths around files).flatMap (locationsTo files)).eraseDups

end Tailor.CommandLine
