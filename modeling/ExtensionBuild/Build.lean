import ExtensionBuild.Libraries.Resolution
import ExtensionBuild.Manifest
import ExtensionBuild.Translator

/-! Preparing an extension: its libraries are resolved, its descriptor is assembled and, when the
source is made anew, translated. Libraries that cannot be resolved are reported and tolerated; a
translator that is missing or fails ends the build. -/
namespace ExtensionBuild

structure Outcome where
  toggles : Toggles
  descriptor : Descriptor
  failure : Option QueryFailure
  /-- The libraries that were not asked about because of it. -/
  skipped : List String
deriving DecidableEq, Repr

structure BuildOptions where
  translate : Bool
deriving DecidableEq, Repr

namespace Build

def announcement (toggles : Toggles) (name : String) : Log.Line :=
  Log.info (if toggles.regenerate then s!"Using Cython to re-compile the {name} bindings."
    else s!"Compiling {name} bindings from C file without Cython.")

/-- Resolves the libraries of a manifest and assembles its descriptor; the translator is not run. -/
def resolve (executor : Executor σ) (manifest : Manifest) (settings : Settings)
    (toggles : Toggles) : Session σ Outcome := do
  let extension := manifest.extension
  Session.note (announcement toggles extension.name)
  let pkgConfig := PkgConfig.ofSettings settings.pkgConfig extension.pkgConfigFlag
  let resolution ← pkgConfig.resolve executor extension.libraries manifest.baseFlags
  return {
    toggles
    descriptor :=
      Descriptor.assemble toggles resolution.flags extension.name manifest.sourceStem
    failure := resolution.failure
    skipped := resolution.skipped }

def build (executor : Executor σ) (here : Surroundings) (manifest : Manifest)
    (settings : Settings) (toggles : Toggles) (options : BuildOptions) :
    Session σ (Except BuildError Outcome) := do
  let outcome ← resolve executor manifest settings toggles
  if toggles.regenerate && options.translate then
    match Translator.locate here settings.cython with
    | .error e => return .error e
    | .ok program =>
      let directives := Directives.ofSettings settings.translate toggles
      match ← Translator.translate executor here program outcome.descriptor directives with
      | .error e => return .error e
      | .ok descriptor => return .ok { outcome with descriptor }
  else return .ok outcome

end Build
end ExtensionBuild
