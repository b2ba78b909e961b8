import ExtensionBuild.Path
import ExtensionBuild.Text.Utf8

/-! A file system seen by one run: what stands at each place below the root. A place is the list of
names that leads to it. Paths are walked segment by segment from the working directory, and every
segment but the last must stand at a directory. -/
namespace ExtensionBuild

inductive Entry
  | directory
  | file (content : List UInt8) (executable : Bool)
deriving DecidableEq, Repr

abbrev Place := List Segment

inductive Fault
  | missing
  | notDirectory
  | isDirectory
  | denied
  | notExecutable
  | tooLong
  | argumentsTooLong
  | tooManyLevels
  | nulCharacter
  | nulInCommand
  | notText
deriving DecidableEq, Repr

namespace Fault

def message : Fault → String
  | missing => "No such file or directory (os error 2)"
  | notDirectory => "Not a directory (os error 20)"
  | isDirectory => "Is a directory (os error 21)"
  | denied => "Permission denied (os error 13)"
  | notExecutable => "Exec format error (os error 8)"
  | tooLong => "File name too long (os error 36)"
  | argumentsTooLong => "Argument list too long (os error 7)"
  | tooManyLevels => "Too many levels of symbolic links (os error 40)"
  | nulCharacter => "file name contained an unexpected NUL byte"
  | nulInCommand => "nul byte found in provided data"
  | notText => "stream did not contain valid UTF-8"

end Fault

def Place.path (place : Place) : Path := ⟨'/' :: Path.ofSegments place⟩

structure FileTree where
  entryAt : Place → Option Entry

namespace FileTree

/-- The longest name a directory can hold, in bytes. -/
def longestName : Nat := 255

/-- The longest text of a path, in bytes. -/
def longestPath : Nat := 4095

/-- The fault of a path's text, which shows before anything is looked at. -/
def textFault (p : Path) : Option Fault :=
  if p.chars.isEmpty then some .missing
  else if p.chars.contains '\x00' then some .nulCharacter
  else if longestPath < p.text.utf8ByteSize then some .tooLong
  else none

/-- The place reached from `here` by the segments; what the last of them names need not exist. -/
def walk (tree : FileTree) (here : Place) : List Segment → Except Fault Place
  | [] => .ok here
  | s :: rest =>
    match tree.entryAt here with
    | none => .error .missing
    | some (.file ..) => .error .notDirectory
    | some .directory =>
      if Path.isFiller s then walk tree here rest
      else if s == ['.', '.'] then walk tree here.dropLast rest
      else if longestName < (String.ofList s).utf8ByteSize then .error .tooLong
      else walk tree (here ++ [s]) rest

/-- The place of an absolute path in which only names occur. -/
def placeOf (p : Path) : Place := (Path.segments p.chars).filter (! Path.isFiller ·)

def place (tree : FileTree) (cwd p : Path) : Except Fault Place :=
  match textFault p with
  | some fault => .error fault
  | none => walk tree (if p.isAbsolute then [] else placeOf cwd) (Path.segments p.chars)

/-- A segment given as bytes. Names are text without NUL, so bytes that are no text become as many
NULs, the name of nothing. -/
def segmentOfBytes (bytes : List UInt8) : Segment :=
  match Text.Utf8.decode? bytes with
  | some s => s.toList
  | none => List.replicate bytes.length '\x00'

/-- The place that a path of bytes without NUL means in the working directory `cwd`. -/
def placeOfBytes (tree : FileTree) (cwd : Path) (p : List UInt8) : Except Fault Place :=
  if p.isEmpty then .error .missing
  else if longestPath < p.length then .error .tooLong
  else
    let names := (Text.pieces (· == 0x2F) p).map segmentOfBytes
    tree.walk (if p.head? == some 0x2F then [] else placeOf cwd) names

def lookup (tree : FileTree) (cwd p : Path) : Except Fault Entry := do
  match tree.entryAt (← tree.place cwd p) with
  | none => .error .missing
  | some e => .ok e

def isPresent (tree : FileTree) (cwd p : Path) : Bool :=
  match tree.lookup cwd p with
  | .ok _ => true
  | .error _ => false

def isFile (tree : FileTree) (cwd p : Path) : Bool :=
  match tree.lookup cwd p with
  | .ok (.file ..) => true
  | _ => false

def isProgram (tree : FileTree) (cwd p : Path) : Bool :=
  match tree.lookup cwd p with
  | .ok (.file _ executable) => executable
  | _ => false

def read (tree : FileTree) (cwd p : Path) : Except Fault String := do
  match ← tree.lookup cwd p with
  | .directory => .error .isDirectory
  | .file content _ =>
    match Text.Utf8.decode? content with
    | none => .error .notText
    | some text => .ok text

def set (tree : FileTree) (target : Place) (e : Entry) : FileTree :=
  ⟨fun other => if other = target then some e else tree.entryAt other⟩

/-- The tree after `content` was written to the file at `p`, which is made if its directory exists.
-/
def write (tree : FileTree) (cwd p : Path) (content : List UInt8) : Except Fault FileTree := do
  match textFault p with
  | some fault => .error fault
  | none =>
    let named := (Path.segments p.chars).filter (! ·.isEmpty)
    let parent ← walk tree (if p.isAbsolute then [] else placeOf cwd) named.dropLast
    match tree.entryAt parent, named.getLast? with
    | none, _ => .error .missing
    | some (.file ..), _ => .error .notDirectory
    | some .directory, none => .error .isDirectory
    | some .directory, some last =>
      if p.chars.getLast? == some '/' || Path.isFiller last || last == ['.', '.'] then
        .error .isDirectory
      else if longestName < (String.ofList last).utf8ByteSize then .error .tooLong
      else match tree.entryAt (parent ++ [last]) with
        | some .directory => .error .isDirectory
        | some (.file _ executable) => .ok (tree.set (parent ++ [last]) (.file content executable))
        | none => .ok (tree.set (parent ++ [last]) (.file content false))

theorem entryAt_set_of_ne (tree : FileTree) {target other : Place} (e : Entry)
    (h : other ≠ target) :
    (tree.set target e).entryAt other = tree.entryAt other := by
  simp [set, h]

theorem entryAt_set_self (tree : FileTree) (target : Place) (e : Entry) :
    (tree.set target e).entryAt target = some e := by
  simp [set]

end FileTree
end ExtensionBuild
