import Tailor.Files.Operation

/-! # Reading texts from files

A file's bytes are read as UTF-8; carriage returns that end lines become line feeds.
-/

namespace Tailor

/-- Why a file gives no text. -/
inductive ReadFault where
  | file (fault : FileFault)
  | undecodable (fault : Utf8.Fault)
deriving Repr, DecidableEq

def ReadFault.message : ReadFault → Text
  | .file fault => fault.message
  | .undecodable fault => fault.message

/-- The text that bytes write, with line feeds at the ends of lines. -/
def Files.textOf (content : Bytes) : Except ReadFault Text :=
  match Utf8.decode content with
  | .ok text => .ok (Text.unifyNewlines text)
  | .error fault => .error (.undecodable fault)

/-- The text of the file at a path. -/
def Files.readText (files : Files) (path : Path) : Except ReadFault Text :=
  match files.read path with
  | .ok content => textOf content
  | .error fault => .error (.file fault)

end Tailor
