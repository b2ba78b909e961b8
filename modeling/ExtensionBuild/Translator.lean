import ExtensionBuild.BuildError
import ExtensionBuild.Descriptor
import ExtensionBuild.Session
import ExtensionBuild.Settings
import ExtensionBuild.Text.Blank

/-! Translating the source of an extension into the file that is compiled. A descriptor that points
at no translatable source passes unchanged. -/
namespace ExtensionBuild

structure Directives where
  languageLevel : UInt8
  embedSignature : Bool
  lineTrace : Bool
deriving DecidableEq, Repr

namespace Directives

/-- Lines are traced whenever coverage is switched on. -/
def ofSettings (translate : TranslateOptions) (toggles : Toggles) : Directives :=
  ⟨translate.languageLevel, translate.embedSignature, toggles.coverage⟩

def truth (b : Bool) : String := if b then "True" else "False"

def args (d : Directives) : List String :=
  [s!"language_level={d.languageLevel.toNat}", s!"embedsignature={truth d.embedSignature}",
    s!"linetrace={truth d.lineTrace}"].flatMap fun directive => ["-X", directive]

end Directives

namespace Translator

/-- The translator's program: a name with a directory must be a file, any other is looked up in the
search path. -/
def locate (here : Surroundings) (program : Path) : Except BuildError Path :=
  let found :=
    if 1 < program.components.length || program.isAbsolute then
      if here.isFile program then some program else none
    else here.findProgram program
  match found with
  | some path => .ok path
  | none => .error (.unavailable program)

def command (program input output : Path) (directives : Directives) : Command :=
  ⟨program, directives.args ++ [input.text, "-o", output.text]⟩

def target (source : Path) : Path := source.withExtension SourceKind.c.extension.toList

def finish (program : Path) (c : Command) (d : Descriptor) : Answer → Except BuildError Descriptor
  | .error _ => .error (.unavailable program)
  | .ok o =>
    if o.succeeded then
      .ok { d with source := target d.source, generatedFrom := some d.source }
    else
      let stderr := if Text.isBlankText o.stderr then none else some (Text.trimmed o.stderr)
      .error (.failed c.display o.code stderr)

def translate (executor : Executor σ) (here : Surroundings) (program : Path) (d : Descriptor)
    (directives : Directives) : Session σ (Except BuildError Descriptor) :=
  if ! d.needsTranslator then return .ok d
  else if ! here.isFile d.source then return .error (.missingSource d.source)
  else do
    let output := target d.source
    let c := command program d.source output directives
    Session.note (Log.info s!"Cythonizing {d.source.text} -> {output.text}")
    return finish program c d (← Session.run executor c)

end Translator
end ExtensionBuild
