import ExtensionBuild.FileTree

/-! The surroundings of one run: environment variables, working directory and files. Programs named
without a directory are found through the search path. -/
namespace ExtensionBuild

/-- Environment variables by name; of two settings of one name the later counts. -/
structure Variables where
  settings : List (String × String)
deriving Repr, Inhabited

namespace Variables

def value? (vars : Variables) (name : String) : Option String :=
  (vars.settings.reverse.find? (·.1 == name)).map (·.2)

def isSet (vars : Variables) (name : String) : Bool := (vars.value? name).isSome

/-- The value of a variable that is set and not empty. -/
def nonempty? (vars : Variables) (name : String) : Option String :=
  (vars.value? name).filter (! ·.isEmpty)

/-- The home directory, which an empty variable does not name. -/
def home? (vars : Variables) : Option Path := (vars.nonempty? "HOME").map Path.ofText

theorem isSet_iff_mem (vars : Variables) (name : String) :
    vars.isSet name = true ↔ name ∈ vars.settings.map (·.1) := by
  simp [isSet, value?, Option.isSome_map, List.find?_isSome]

end Variables

structure Surroundings where
  vars : Variables
  cwd : Path
  files : FileTree

namespace Surroundings

def isFile (here : Surroundings) (p : Path) : Bool := here.files.isFile here.cwd p

def isPresent (here : Surroundings) (p : Path) : Bool := here.files.isPresent here.cwd p

def isProgram (here : Surroundings) (p : Path) : Bool := here.files.isProgram here.cwd p

def read (here : Surroundings) (p : Path) : Except Fault String := here.files.read here.cwd p

/-- An entry of the search path that begins with the tilde component starts from the home
directory. -/
def expandTilde (here : Surroundings) (p : Path) : Path :=
  match p.components, here.vars.home? with
  | .name ['~'] :: rest, some home => home.joinComponents rest
  | _, _ => p

/-- A relative path continued from the working directory; inner dots and doubled slashes vanish. -/
def absolute (here : Surroundings) (p : Path) : Path :=
  if p.isAbsolute then p
  else here.cwd.joinComponents (p.components.filter (· != .here))

/-- The directory of an entry of the search path. One that still begins with the tilde component is
left as it is. -/
def searchDirectory (here : Surroundings) (entry : Path) : Path :=
  let p := here.expandTilde entry
  if p.components.head? == some (.name ['~']) then p else here.absolute p

/-- The directories of the search path in order; unset means none. -/
def searchPath (here : Surroundings) : List Path :=
  match here.vars.value? "PATH" with
  | none => []
  | some entries => (Text.pieces (· == ':') entries.toList).map fun e => here.searchDirectory ⟨e⟩

/-- The places where a program may be found, best first. A name with a directory is looked up in the
working directory alone. -/
def candidates (here : Surroundings) (program : Path) : List Path :=
  if 1 < program.components.length then [here.absolute program]
  else here.searchPath.map (·.join program)

def findProgram (here : Surroundings) (program : Path) : Option Path :=
  (here.candidates program).find? here.isProgram

end Surroundings
end ExtensionBuild
