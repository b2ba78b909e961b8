import ExtensionBuild.Environment
import ExtensionBuild.Script
import ExtensionBuild.Toolbox.Interpreter

/-! Programs installed in a file tree, each answering by a table over its arguments, and how a
command reaches them: a program with a slash in its name is started where it stands, any other is
sought in the search path. An executable text is started through its interpreter. Programs are
started by paths and arguments of bytes, since the first line of such a text need not be well-formed
text. -/
namespace ExtensionBuild

/-- Which argument lines a row of the table is for. -/
inductive ArgumentPattern
  | any
  | of (pattern : Pattern)
deriving DecidableEq, Repr

def ArgumentPattern.accepts (args : List UInt8) : ArgumentPattern → Bool
  | any => true
  | of (.exact s) => args == Text.Utf8.encode s
  | of (.start s) => (Text.Utf8.encode s).isPrefixOf args
  | of (.part s) => Text.occursIn (Text.Utf8.encode s) args

/-- A row of a program's table; without a code the program ends by a signal. -/
structure ToolRow where
  pattern : ArgumentPattern
  code : Option Int
  stdout : List UInt8
  stderr : List UInt8
deriving Repr

structure Tool where
  rows : List ToolRow
deriving Repr

structure Toolbox where
  tool? : Place → Option Tool

namespace Tool

/-- The first row that accepts the arguments answers; without one the program fails silently. -/
def run (tool : Tool) (args : List (List UInt8)) : Output :=
  match tool.rows.find? fun row => row.pattern.accepts (Text.joined [0x20] args) with
  | some row =>
    ⟨row.code, Text.Utf8.decodeLossy row.stdout, Text.Utf8.decodeLossy row.stderr⟩
  | none => ⟨some 127, "", ""⟩

end Tool

namespace Toolbox

/-- The longest argument that a program can be started with, in bytes. -/
def longestArgument : Nat := 131071

/-- How many files are read on the way from a text to the program that reads it. -/
def longestChain : Nat := 6

/-- The place and the content of a file that may be started. -/
def opened (here : Surroundings) (p : List UInt8) : Except Fault (Place × List UInt8) := do
  let place ← here.files.placeOfBytes here.cwd p
  match here.files.entryAt place with
  | none => .error .missing
  | some (.file content true) => .ok (place, content)
  | some _ => .error .denied

/-- Starts the file at `p`, reading at most so many files. A text is handed to its interpreter by
its path, in front of the arguments. An installed program is such a text itself, and what reads it
stands outside the tree, so one file more must be within the limit. -/
def startWithin (box : Toolbox) (here : Surroundings) :
    Nat → List UInt8 → List (List UInt8) → Except Fault Output
  | 0, p, _ => do
    let _ ← opened here p
    .error .tooManyLevels
  | levels + 1, p, args => do
    let (place, content) ← opened here p
    if args.any (longestArgument < ·.length) then .error .argumentsTooLong
    else match box.tool? place, Interpreter.ofContent? content with
      | some tool, _ => if levels == 0 then .error .tooManyLevels else .ok (tool.run args)
      | none, none => .error .notExecutable
      | none, some i =>
        if i.program.isEmpty then .error .denied
        else startWithin box here levels i.program (i.argument.toList ++ p :: args)

def start (box : Toolbox) (here : Surroundings) (p : Path) (args : List String) :
    Except Fault Output :=
  box.startWithin here longestChain (Text.Utf8.encode p.text) (args.map Text.Utf8.encode)

/-- Starts the first of the files that can be started. If there is none, the fault of the last one
is reported, unless one before it may not be started. -/
def startFirst (box : Toolbox) (here : Surroundings) (args : List String) :
    Fault → List Path → Except Fault Output
  | fault, [] => .error fault
  | fault, p :: rest =>
    let later (now : Fault) : Fault := if fault == .denied then .denied else now
    match box.start here p args with
    | .ok o => .ok o
    | .error .denied => startFirst box here args .denied rest
    | .error .missing => startFirst box here args (later .missing) rest
    | .error .notDirectory => startFirst box here args (later .notDirectory) rest
    | .error other => .error other

/-- The files that a bare name may stand for along the search path, in order. An empty entry is the
working directory, and so is one that is longer than a path may be, unless it is the last. -/
def alternatives (program : Path) : List (List Char) → List Path
  | [] => []
  | e :: rest =>
    if FileTree.longestPath < (String.ofList e).utf8ByteSize then
      if rest.isEmpty then [] else program :: alternatives program rest
    else if e.isEmpty then program :: alternatives program rest
    else ⟨e ++ '/' :: program.chars⟩ :: alternatives program rest

def startAny (box : Toolbox) (here : Surroundings) (c : Command) : Except Fault Output :=
  if c.program.chars.contains '\x00' || c.args.any (·.toList.contains '\x00') then
    .error .nulInCommand
  else if c.program.chars.contains '/' || c.program.chars.isEmpty then
    box.start here c.program c.args
  else
    let entries := match here.vars.value? "PATH" with
      | none => ["/bin".toList, "/usr/bin".toList]
      | some path => Text.pieces (· == ':') path.toList
    box.startFirst here c.args .missing (alternatives c.program entries)

def answer (box : Toolbox) (here : Surroundings) (c : Command) : Answer :=
  (box.startAny here c).mapError fun fault => .failed c.program fault.message

def executor (box : Toolbox) (here : Surroundings) : Executor Unit :=
  Executor.ofFunction (box.answer here)

end Toolbox
end ExtensionBuild
