import ExtensionBuild.Diagnostic
import ExtensionBuild.Flags
import ExtensionBuild.Session
import ExtensionBuild.Text.Blank
import ExtensionBuild.Text.Slice

/-! One question to pkg-config: the flags of one category for one library. The words of the answer
lose the switch in front of them, as many characters as the category's row of the table says. -/
namespace ExtensionBuild

structure Query where
  category : Category
  option : String
  /-- How many characters every word of the answer loses. -/
  strip : Nat
deriving DecidableEq, Repr

namespace Query

/-- The questions asked for every library, in order. -/
def table : List Query := [
  ⟨.includeDirs, "--cflags-only-I", 2⟩,
  ⟨.libraryDirs, "--libs-only-L", 2⟩,
  ⟨.libraries, "--libs-only-l", 2⟩,
  ⟨.compileArgs, "--cflags-only-other", 0⟩,
  ⟨.linkArgs, "--libs-only-other", 0⟩]

def items (q : Query) (stdout : String) : List String :=
  (Text.words stdout.toList).map fun word => Text.withoutFirst (String.ofList word) q.strip

theorem items_eq (q : Query) (stdout : String) :
    q.items stdout =
      (Text.words stdout.toList).map fun word => String.ofList (word.drop q.strip) := by
  simp [items, Text.withoutFirst_eq]

end Query

structure QueryFailure where
  library : String
  category : Category
  command : String
  reason : String
deriving DecidableEq, Repr

namespace QueryFailure

def installLibrary : String :=
  "Install the library's development package or add its .pc directory to PKG_CONFIG_PATH"

def installPkgConfig : String := "Install pkg-config (or pkgconf) or set PKG_CONFIG"

def diagnostic (f : QueryFailure) (skipped : List String) : Diagnostic where
  message := s!"pkg-config could not resolve `{f.library}`; continuing with partial flags"
  context := [s!"query: {f.command}", f.reason] ++
    if skipped.isEmpty then [] else ["not queried: " ++ Text.joinedStrings ", " skipped]
  suggestions := [installLibrary, installPkgConfig]

end QueryFailure

/-- How pkg-config is called: the program and an argument placed before every question. -/
structure PkgConfig where
  program : Path
  flag : Option String
deriving DecidableEq, Repr

namespace PkgConfig

/-- An empty flag is no flag. -/
def ofSettings (program : Path) (flag : Option String) : PkgConfig :=
  ⟨program, flag.filter (! ·.isEmpty)⟩

def command (p : PkgConfig) (q : Query) (library : String) : Command :=
  ⟨p.program, p.flag.toList ++ [q.option, library]⟩

def reason (o : Output) : String :=
  let exited := s!"exited with code {Output.codeText o.code}"
  if Text.isBlankText o.stderr then exited else exited ++ ": " ++ Text.trimmed o.stderr

def read (p : PkgConfig) (q : Query) (library : String) (a : Answer) :
    Except QueryFailure (List String) :=
  let failure (reason : String) : QueryFailure :=
    ⟨library, q.category, (p.command q library).display, reason⟩
  match a with
  | .error e => .error (failure e.message)
  | .ok o => if o.succeeded then .ok (q.items o.stdout) else .error (failure (reason o))

def query (executor : Executor σ) (p : PkgConfig) (q : Query) (library : String) :
    Session σ (Except QueryFailure (List String)) := do
  return p.read q library (← Session.run executor (p.command q library))

end PkgConfig
end ExtensionBuild
