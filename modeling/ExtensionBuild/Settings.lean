import ExtensionBuild.Environment
import ExtensionBuild.Log
import ExtensionBuild.Toml.Typed

/-! Settings of the tools: which programs to run and how to translate. They come from two files and
from the environment. A program set later replaces one set earlier, each on its own; the
translate section of a file that has one replaces the whole section. -/
namespace ExtensionBuild

structure Tools where
  pkgConfig : Option Path
  cython : Option Path
deriving DecidableEq, Repr

structure TranslateOptions where
  languageLevel : UInt8
  embedSignature : Bool
deriving DecidableEq, Repr

structure Settings where
  tools : Tools
  translate : TranslateOptions
deriving DecidableEq, Repr

namespace Tools

def none : Tools := ⟨.none, .none⟩

def record : Schema.Record where
  title := "struct ToolsConfig"
  fields := [
    Schema.field "pkg-config" Schema.pathText false,
    Schema.field "cython" Schema.pathText false]
  closed := false

def decode : Schema.Decoder Tools := fun d => do
  let entries ← record.entries .toml d
  return {
    pkgConfig := (← Schema.optional entries "pkg-config" Schema.pathText).map Path.ofText
    cython := (← Schema.optional entries "cython" Schema.pathText).map Path.ofText }

end Tools

namespace TranslateOptions

def standard : TranslateOptions := ⟨3, true⟩

def record : Schema.Record where
  title := "struct TranslateConfig"
  fields := [
    Schema.field "language-level" Schema.byte false,
    Schema.field "embed-signature" Schema.boolean false]
  closed := false

def decode : Schema.Decoder TranslateOptions := fun d => do
  let entries ← record.entries .toml d
  return {
    languageLevel := ←
      Schema.defaulted entries "language-level" Schema.byte standard.languageLevel
    embedSignature := ←
      Schema.defaulted entries "embed-signature" Schema.boolean standard.embedSignature }

end TranslateOptions

namespace Settings

def standard : Settings := ⟨.none, .standard⟩

/-- The key of the section that is replaced as a whole. -/
def translateKey : String := "translate"

def record : Schema.Record where
  title := "struct Config"
  fields := [
    Schema.field "tools" Tools.decode false,
    Schema.field translateKey TranslateOptions.decode false]
  closed := false

def decode : Schema.Decoder Settings := fun d => do
  let entries ← record.entries .toml d
  return {
    tools := ← Schema.defaulted entries "tools" Tools.decode .none
    translate := ← Schema.defaulted entries translateKey TranslateOptions.decode .standard }

def parse (content : String) : Except Toml.Error Settings := Toml.decode decode content

inductive Error
  | unreadable (path : Path) (fault : Fault)
  | invalid (path : Path) (cause : Toml.Error)
deriving Repr

namespace Error

def message : Error → String
  | unreadable path _ => s!"failed to read config file: {path.text}"
  | invalid path _ => s!"failed to parse config file: {path.text}"

def report (e : Error) : String :=
  e.message ++ ": " ++ match e with
    | unreadable _ fault => fault.message
    | invalid _ cause => cause.report

end Error

def load (here : Surroundings) (path : Path) : Except Error Settings :=
  match here.read path with
  | .error fault => .error (.unreadable path fault)
  | .ok content => (parse content).mapError (.invalid path)

/-- The settings of a file, or the standard ones with a warning when a file is there but does not
load. -/
def loadOrStandard (here : Surroundings) (path : Path) : Settings × List Log.Line :=
  if here.isPresent path then
    match load here path with
    | .ok settings => (settings, [])
    | .error e =>
      (standard, [Log.warn s!"Failed to load config from {path.text}: {e.report}"])
  else (standard, [])

/-- Settings with those of a later layer over them. -/
def merge (s layer : Settings) (hasTranslate : Bool) : Settings where
  tools := {
    pkgConfig := layer.tools.pkgConfig <|> s.tools.pkgConfig
    cython := layer.tools.cython <|> s.tools.cython }
  translate := if hasTranslate then layer.translate else s.translate

def hasTranslate (here : Surroundings) (path : Path) : Bool :=
  match here.read path with
  | .ok content => Toml.hasKey translateKey content
  | .error _ => false

def layer (here : Surroundings) (s : Settings) (path : Path) : Settings × List Log.Line :=
  if here.isPresent path then
    let (upper, lines) := loadOrStandard here path
    (s.merge upper (hasTranslate here path), lines)
  else (s, [])

/-- The settings of the user's file with those of the project's file over them. -/
def ofFiles (here : Surroundings) (global : Option Path) (project : Path) :
    Settings × List Log.Line :=
  (global.toList ++ [project]).foldl (fun (s, lines) path =>
    let (next, more) := layer here s path
    (next, lines ++ more)) (standard, [])

def pkgConfigVariable : String := "PKG_CONFIG"

def cythonVariable : String := "CYTHON"

/-- The programs that non-empty environment variables name go over the settings. -/
def withVariables (s : Settings) (vars : Variables) : Settings :=
  { s with tools := {
      pkgConfig := (vars.nonempty? pkgConfigVariable).map Path.ofText <|> s.tools.pkgConfig
      cython := (vars.nonempty? cythonVariable).map Path.ofText <|> s.tools.cython } }

def pkgConfig (s : Settings) : Path := s.tools.pkgConfig.getD (Path.ofText "pkg-config")

def cython (s : Settings) : Path := s.tools.cython.getD (Path.ofText "cython")

private def optionalPath (p : Option Path) : Data :=
  match p with
  | none => .null
  | some p => .string p.text

def data (s : Settings) : Data :=
  .table [
    ("tools", .table [
      ("pkg-config", optionalPath s.tools.pkgConfig),
      ("cython", optionalPath s.tools.cython)]),
    (translateKey, .table [
      ("language-level", .integer s.translate.languageLevel.toNat),
      ("embed-signature", .boolean s.translate.embedSignature)])]

end Settings
end ExtensionBuild
