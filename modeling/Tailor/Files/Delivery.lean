import Tailor.Files.Operation

/-! # Delivering documents

A processed document is written to a temporary file beside its place, which is then renamed over
it, so nobody sees half of it. A target becomes a link to the written document; what is no link is
left alone there.
-/

namespace Tailor.Files

def temporaryEnding : Text := ".tmp".toList

def temporary (output : Path) : FileAct Path :=
  match output.extend? temporaryEnding with
  | some path => pure path
  | none => throw (.nameless output.text)

/-- Takes away the temporary file, if it is there. -/
def dropTemporary (path : Path) : FileAct Unit := do
  if ← ofTree (·.isThere path) then remove path

/-- Writes a text to a path; the result is the path with every link followed. -/
def deliver (output : Path) (content : Text) : FileAct Path := do
  ensureParents output
  let beside ← temporary output
  tryCatch
    (do
      write beside (Utf8.encode content)
      rename beside output)
    fun fault => do
      dropTemporary beside
      throw fault
  ofTree (·.resolve output)

/-- Makes room for a link at a target: a link there is taken away, anything else stays and refuses,
and the directories above are made. The result is what the link shall hold. -/
def clearTarget (output target : Path) : FileAct Path := do
  let source ← ofTree (·.resolve output)
  if ← ofTree (·.isLink target) then remove target
  else if ← ofTree (·.isThere target) then throw (.targetExists target.text)
  ensureParents target
  pure source

/-- Makes a target a link to an output. -/
def link (output target : Path) : FileAct Path := do
  let source ← clearTarget output target
  makeLink source target
  pure target

/-- The outcome of an action on a tree, and the tree it leaves. -/
def perform {α : Type} (files : Files) (action : FileAct α) : Except FileFault α × Files :=
  action.run.run files

end Tailor.Files
