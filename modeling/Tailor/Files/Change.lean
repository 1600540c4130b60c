import Tailor.Files.Tree

/-! # Changes of trees

What has to be done to make one tree of files from another: entries are taken away first, and what
is put is put in the order of its location, so a directory comes before what stands in it.
-/

namespace Tailor

/-- A step from one tree to another. -/
inductive Change where
  | removal (location : Location)
  | addition (location : Location) (entry : Entry)
deriving Repr, DecidableEq

def Files.changes (before after : Files) : List Change :=
  let gone := before.entries.filter fun item => after.entries.lookup item.1 != some item.2
  let added := after.entries.filter fun item => before.entries.lookup item.1 != some item.2
  let ordered := added.mergeSort fun a b => a.1.length ≤ b.1.length
  gone.map (fun item => .removal item.1) ++ ordered.map fun item => .addition item.1 item.2

end Tailor
