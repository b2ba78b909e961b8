import ExtensionBuild.Environment
import ExtensionBuild.Flags.Encoding
import ExtensionBuild.Text.Blank
import ExtensionBuild.Toml.Typed

/-! The manifest of an extension: its name, its source, the libraries it links against and the flags
it adds of its own. Unknown keys are refused, and the name must not be blank. A manifest is found by
looking upward from a directory. -/
namespace ExtensionBuild

structure Extension where
  name : String
  source : Option Path
  libraries : List String
  pkgConfigFlag : Option String
  macros : List Define
  includeDirs : List String
  libraryDirs : List String
  linkLibraries : List String
  compileArgs : List String
  linkArgs : List String
deriving DecidableEq, Repr

namespace Extension

def strings : Schema.Decoder (List String) := Schema.listOf Schema.string

def defines : Schema.Decoder (List Define) := Schema.listOf (Define.decode .toml)

def record : Schema.Record where
  title := "struct ExtensionSection"
  fields := [
    Schema.field "name" Schema.string true,
    Schema.field "source" Schema.pathText true,
    Schema.field "libraries" strings false,
    Schema.field "pkg-config-flag" Schema.string true,
    Schema.field "define-macros" defines false,
    Schema.field "include-dirs" strings false,
    Schema.field "library-dirs" strings false,
    Schema.field "link-libraries" strings false,
    Schema.field "extra-compile-args" strings false,
    Schema.field "extra-link-args" strings false]
  closed := true

def decode : Schema.Decoder Extension := fun d => do
  let entries ← record.entries .toml d
  let list (key : String) := Schema.defaulted entries key strings []
  return {
    name := ← Schema.required entries "name" Schema.string
    source := (← Schema.optional entries "source" Schema.pathText).map Path.ofText
    libraries := ← list "libraries"
    pkgConfigFlag := ← Schema.optional entries "pkg-config-flag" Schema.string
    macros := ← Schema.defaulted entries "define-macros" defines []
    includeDirs := ← list "include-dirs"
    libraryDirs := ← list "library-dirs"
    linkLibraries := ← list "link-libraries"
    compileArgs := ← list "extra-compile-args"
    linkArgs := ← list "extra-link-args" }

end Extension

structure Manifest where
  extension : Extension
  dir : Path
deriving DecidableEq, Repr

namespace Manifest

def fileName : String := "Extconf.toml"

inductive Error
  | unreadable (path : Path) (fault : Fault)
  | invalid (path : Path) (cause : Toml.Error)
  | blankName (path : Path)
  | notFound (start : Path)
deriving Repr

namespace Error

def message : Error → String
  | unreadable path _ => s!"failed to read manifest: {path.text}"
  | invalid path _ => s!"failed to parse {path.text}"
  | blankName path => s!"manifest at {path.text} has an empty extension name"
  | notFound start => s!"could not find `{fileName}` in `{start.text}` or any parent directory"

def report (e : Error) : String :=
  match e with
  | unreadable _ fault => e.message ++ ": " ++ fault.message
  | invalid _ cause => e.message ++ ": " ++ cause.report
  | _ => e.message

end Error

def record : Schema.Record where
  title := "struct RawManifest"
  fields := [Schema.field "extension" Extension.decode true]
  closed := true

def decode : Schema.Decoder Extension := fun d => do
  let entries ← record.entries .toml d
  Schema.required entries "extension" Extension.decode

def parse (content : String) (path : Path) : Except Error Manifest :=
  match Toml.decode decode content with
  | .error e => .error (.invalid path e)
  | .ok extension =>
    if Text.isBlankText extension.name then .error (.blankName path)
    else .ok ⟨extension, path.parent.getD (Path.ofText ".")⟩

def load (here : Surroundings) (path : Path) : Except Error Manifest :=
  match here.read path with
  | .error fault => .error (.unreadable path fault)
  | .ok content => parse content path

/-- The source path without its extension; it defaults to the extension's name. -/
def sourceStem (m : Manifest) : Path :=
  m.dir.join (m.extension.source.getD (Path.ofText m.extension.name))

def baseFlags (m : Manifest) : Flags where
  includeDirs := m.extension.includeDirs
  libraryDirs := m.extension.libraryDirs
  libraries := m.extension.linkLibraries
  compileArgs := m.extension.compileArgs
  linkArgs := m.extension.linkArgs
  macros := m.extension.macros

def find (here : Surroundings) (start : Path) : Except Error Path :=
  match (start.selfAndAncestors.map (·.joinText fileName)).find? here.isFile with
  | some path => .ok path
  | none => .error (.notFound start)

end Manifest
end ExtensionBuild
