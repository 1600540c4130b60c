import Tailor.Command.Report
import Tailor.Text.Digit

/-! # Programs

Small programs that a script can call: each maps its arguments and its input to a report and the
input that it leaves.
-/

namespace Tailor.Shell

/-- What a program is called with. -/
structure Call where
  arguments : List Text
  input : Bytes
  environment : List (Text × Text)
  content? : Text → Option Bytes

/-- What a program leaves. -/
structure Reply where
  report : Command.Report
  input : Bytes

namespace Program

def success (output : Bytes) : Command.Report := ⟨0, output, []⟩

def failure (status : Int) (complaint : Text) : Command.Report :=
  ⟨status, [], Utf8.encode (complaint ++ ['\n'])⟩

/-- A report of its own, with all input left. -/
def alone (report : Command.Report) (call : Call) : Reply := ⟨report, call.input⟩

/-- The lines of bytes, each with its line feed. -/
def lines : Bytes → List Bytes
  | [] => []
  | b :: rest =>
      if b = 10 then [10] :: lines rest
      else
        match lines rest with
        | [] => [[b]]
        | line :: others => (b :: line) :: others

/-- The options before the first operand, and the operands. -/
def options : List Text → List Text × List Text
  | [] => ([], [])
  | ['-', '-'] :: rest => ([], rest)
  | ('-' :: c :: option) :: rest =>
      let (others, operands) := options rest
      (('-' :: c :: option) :: others, operands)
  | rest => ([], rest)

/-- The content of the files that operands name, or the input if there are none; a file that is
missing gives a complaint. -/
def contents (name : Text) (operands : List Text) (call : Call) :
    List Bytes × Command.Report × Bytes :=
  let step := fun (found : List Bytes × Command.Report × Bytes) (operand : Text) =>
    let (all, report, input) := found
    if operand = ['-'] then (all ++ [input], report, [])
    else
      match call.content? operand with
      | some bytes => (all ++ [bytes], report, input)
      | none =>
          let complaint := name ++ ": ".toList ++ operand ++ ": No such file or directory\n".toList
          let complaints := report.errorOutput ++ Utf8.encode complaint
          (all, { report with status := 1, errorOutput := complaints }, input)
  (if operands.isEmpty then [['-']] else operands).foldl step ([], success [], call.input)

/-- Programs that map the content of their operands to output. -/
def filter (name : Text) (change : Bytes → Bytes) (operands : List Text) (call : Call) : Reply :=
  let (all, report, input) := contents name operands call
  ⟨{ report with output := change all.flatten }, input⟩

/-- The number and the unit of an option such as `-n 3`, `-3` or `-c 3`: lines or bytes. -/
def amount : List Text → Nat × Bool × List Text
  | ('-' :: option) :: rest =>
      match Text.inBase? 10 option with
      | some count => (count, true, rest)
      | none =>
          match option, rest with
          | ['n'], count :: rest => ((Text.inBase? 10 count).getD 0, true, rest)
          | ['c'], count :: rest => ((Text.inBase? 10 count).getD 0, false, rest)
          | 'n' :: count, _ => ((Text.inBase? 10 count).getD 0, true, rest)
          | 'c' :: count, _ => ((Text.inBase? 10 count).getD 0, false, rest)
          | _, _ => (10, true, ('-' :: option) :: rest)
  | rest => (10, true, rest)

def head (call : Call) : Reply :=
  let (count, isLines, operands) := amount call.arguments
  let cut := fun (bytes : Bytes) =>
    if isLines then ((lines bytes).take count).flatten else bytes.take count
  filter "head".toList cut operands call

def tail (call : Call) : Reply :=
  let (count, isLines, operands) := amount call.arguments
  let cut := fun (bytes : Bytes) =>
    let all := lines bytes
    if isLines then (all.drop (all.length - count)).flatten else bytes.drop (bytes.length - count)
  filter "tail".toList cut operands call

def wordCount (bytes : Bytes) : Nat :=
  let isSpace := fun (b : UInt8) => b = 32 || (9 ≤ b && b ≤ 13)
  let starts := fun (before after : UInt8) => isSpace before && !isSpace after
  ((32 :: bytes).zip bytes).countP fun pair => starts pair.1 pair.2

/-- Counts of lines, words and bytes of the input. -/
def wc (call : Call) : Reply :=
  let (chosen, operands) := options call.arguments
  let counts := fun (bytes : Bytes) =>
    let all := [('l', bytes.count 10), ('w', wordCount bytes), ('c', bytes.length)]
    let letters := chosen.flatMap (·.drop 1)
    let shown := if letters.isEmpty then all else all.filter (letters.contains ·.1)
    let width := if shown.length > 1 then 7 else 0
    let numbers := shown.map fun entry => Text.padLeft ' ' width (Text.ofNat entry.2)
    Utf8.encode (Text.join [' '] numbers ++ ['\n'])
  filter "wc".toList counts operands call

/-- The characters that a set writes, with its ranges. -/
def characters : Text → Text
  | [] => []
  | '\\' :: 'n' :: rest => '\n' :: characters rest
  | '\\' :: 't' :: rest => '\t' :: characters rest
  | '\\' :: c :: rest => c :: characters rest
  | a :: '-' :: b :: rest =>
      let count := b.toNat + 1 - a.toNat
      (List.range count).map (fun (n : Nat) => Char.ofNat (a.toNat + n)) ++ characters rest
  | c :: rest => c :: characters rest

/-- Characters replaced by others, or deleted. -/
def tr (call : Call) : Reply :=
  let (chosen, operands) := options call.arguments
  let replaced := characters (operands.headD [])
  let images := characters ((operands.drop 1).headD [])
  let change := fun (bytes : Bytes) =>
    let text := Utf8.decodeLenient bytes
    let text :=
      if chosen.contains "-d".toList then text.filter (!replaced.contains ·)
      else
        text.map fun c =>
          match replaced.idxOf? c with
          | some index => (images[index]? <|> images.getLast?).getD c
          | none => c
    Utf8.encode text
  filter "tr".toList change [] call

def sort (call : Call) : Reply :=
  let (chosen, operands) := options call.arguments
  let change := fun (bytes : Bytes) =>
    let all := (lines bytes).map fun line => line.takeWhile (· != 10)
    let key := fun (line : Bytes) =>
      if chosen.contains "-n".toList then
        ((Text.inBase? 10 (Utf8.decodeLenient line)).getD 0, line)
      else (0, line)
    let precedes := fun (a b : Bytes) =>
      let (m, x) := key a
      let (n, y) := key b
      m < n || (m == n && compare (x.map (·.toNat)) (y.map (·.toNat)) != .gt)
    let sorted := all.mergeSort precedes
    let sorted := if chosen.contains "-u".toList then sorted.eraseDups else sorted
    (if chosen.contains "-r".toList then sorted.reverse else sorted).flatMap (· ++ [10])
  filter "sort".toList change operands call

/-- A row of whole numbers, one a line. -/
def seq (call : Call) : Reply :=
  let number := fun (text : Text) =>
    match text with
    | '-' :: digits => (Text.inBase? 10 digits).map fun (n : Nat) => -(n : Int)
    | digits => (Text.inBase? 10 digits).map Int.ofNat
  let row := fun (first step last : Int) =>
    let count := if step = 0 then 0 else ((last - first).fdiv step + 1).toNat
    let numbers := (List.range count).map fun (n : Nat) => first + step * n
    alone (success (Utf8.encode (numbers.flatMap (Text.ofInt · ++ ['\n'])))) call
  match call.arguments.mapM number with
  | some [last] => row 1 1 last
  | some [first, last] => row first 1 last
  | some [first, step, last] => row first step last
  | _ => alone (failure 1 "seq: missing operand".toList) call

/-- A text without the slashes at its end; a text of slashes is one slash. -/
def withoutSlashes (path : Text) : Text :=
  match Text.dropTrailing (· == '/') path with
  | [] => path.take 1
  | rest => rest

/-- The last name of a path, without a given ending. -/
def basename (call : Call) : Reply :=
  let path := withoutSlashes (call.arguments.headD [])
  let name := if path = ['/'] then path else (path.reverse.takeWhile (· != '/')).reverse
  let ending := (call.arguments.drop 1).headD []
  let kept :=
    match Text.after? ending.reverse name.reverse with
    | some rest => if rest.isEmpty then name else rest.reverse
    | none => name
  alone (success (Utf8.encode (kept ++ ['\n']))) call

/-- A path without its last name. -/
def dirname (call : Call) : Reply :=
  let path := withoutSlashes (call.arguments.headD [])
  let before := (path.reverse.dropWhile (· != '/')).reverse
  let parent := if before.isEmpty then ['.'] else withoutSlashes before
  alone (success (Utf8.encode (parent ++ ['\n']))) call

/-- A line for each variable of the environment. -/
def env (call : Call) : Reply :=
  let lines := call.environment.map fun (name, value) => name ++ '=' :: value ++ ['\n']
  alone (success (Utf8.encode lines.flatten)) call

/-- The values of variables of the environment; one that is missing is a failure. -/
def printenv (call : Call) : Reply :=
  if call.arguments.isEmpty then env call
  else
    let values := call.arguments.filterMap fun name => call.environment.lookup name
    let status := if values.length < call.arguments.length then 1 else 0
    alone ⟨status, Utf8.encode (values.flatMap (· ++ ['\n'])), []⟩ call

end Program

def program? (name : Text) : Option (Call → Reply) :=
  match String.ofList name with
  | "cat" => some fun call =>
      let (_, operands) := Program.options call.arguments
      Program.filter name id operands call
  | "head" => some Program.head
  | "tail" => some Program.tail
  | "wc" => some Program.wc
  | "tr" => some Program.tr
  | "sort" => some Program.sort
  | "seq" => some Program.seq
  | "basename" => some Program.basename
  | "dirname" => some Program.dirname
  | "env" => some Program.env
  | "printenv" => some Program.printenv
  | _ => none

end Tailor.Shell
