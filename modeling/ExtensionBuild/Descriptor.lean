import ExtensionBuild.Path
import ExtensionBuild.Toggles
import ExtensionBuild.Flags.Encoding
import ExtensionBuild.Json.Printer

/-! The build unit handed to the packaging tool: a named extension, its source file and its flags.
The kind of the source is read off its file extension. -/
namespace ExtensionBuild

inductive SourceKind
  | cython
  | c
deriving DecidableEq, Repr

namespace SourceKind

def extension : SourceKind → String
  | cython => "pyx"
  | c => "c"

def name : SourceKind → String
  | cython => "cython"
  | c => "c"

def ofRegenerate (regenerate : Bool) : SourceKind := if regenerate then cython else c

/-- The kind that a path shows by its extension, if it is a known one. -/
def ofPath? (p : Path) : Option SourceKind :=
  match p.extension with
  | some ['p', 'y', 'x'] => some cython
  | some ['c'] => some c
  | _ => none

end SourceKind

def sourcePath (stem : Path) (kind : SourceKind) : Path := stem.append ("." ++ kind.extension)

structure Descriptor where
  name : String
  source : Path
  generatedFrom : Option Path
  flags : Flags
deriving DecidableEq, Repr

namespace Descriptor

def kind? (d : Descriptor) : Option SourceKind := SourceKind.ofPath? d.source

def needsTranslator (d : Descriptor) : Bool := d.kind? == some .cython

/-- The flat table that the packaging tool reads; a source that was not generated has no key for its
origin. -/
def data (d : Descriptor) : Data :=
  .table ([("name", .string d.name), ("source", .string d.source.text)] ++
    (match d.generatedFrom with
      | none => []
      | some origin => [("generated_from", .string origin.text)]) ++
    d.flags.entries)

def json (d : Descriptor) : String := Json.pretty d.data

def coverageMacro : Define := ⟨"CYTHON_TRACE_NOGIL", some "1"⟩

/-- The descriptor of an extension before it is translated: its source kind follows the first
switch, and the coverage macro comes behind the macros that were given. -/
def assemble (toggles : Toggles) (flags : Flags) (name : String) (stem : Path) : Descriptor where
  name
  source := sourcePath stem (.ofRegenerate toggles.regenerate)
  generatedFrom := none
  flags := if toggles.tracesLines then flags.define coverageMacro else flags

end Descriptor
end ExtensionBuild
