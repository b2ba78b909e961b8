import ExtensionBuild.Doctor.Report
import ExtensionBuild.Translator

/-! Checking what a build depends on: pkg-config, which is required when there are libraries; the
translator, which is required when the source is made anew; and, where pkg-config answers, each
library, which is never required. -/
namespace ExtensionBuild.Doctor

structure Options where
  toggles : Toggles
  pkgConfig : Path
  cython : Path
  libraries : List String
deriving Repr

/-- The first line of a program's answer about its version. Some programs give it on the error
stream. -/
def versionLine (o : Output) : String :=
  let text := if Text.isBlankText o.stdout then o.stderr else o.stdout
  Text.trimmed (String.ofList (text.toList.takeWhile (· != '\n')))

def versionOf : Answer → Option String
  | .error _ => none
  | .ok o => if o.succeeded then some (versionLine o) else none

def toolVersion (executor : Executor σ) (program : Path) : Session σ (Option String) := do
  return versionOf (← Session.run executor ⟨program, ["--version"]⟩)

def available (program : Path) : String := s!"{program.text} is available"

def pkgConfigCheck (here : Surroundings) (program : Path) : Option String → Check
  | none => Check.fail "pkg-config"
      s!"{program.text} not found; library flags cannot be discovered"
  | some version =>
    let check := (Check.pass "pkg-config" (available program)).withVersion version
    match here.findProgram program with
    | none => check
    | some path => check.withPath path

def checkPkgConfig (executor : Executor σ) (here : Surroundings) (program : Path) :
    Session σ Check := do
  return pkgConfigCheck here program (← toolVersion executor program)

def checkCython (executor : Executor σ) (here : Surroundings) (program : Path) :
    Session σ Check :=
  match Translator.locate here program with
  | .error e => return Check.fail "Cython" e.message
  | .ok path => do
    let check := (Check.pass "Cython" (available program)).withPath path
    match ← toolVersion executor path with
    | none => return check
    | some version => return check.withVersion version

def libraryCheck (library : String) (a : Answer) : Check :=
  let name := s!"library `{library}`"
  let missing := Check.fail name
    "not found by pkg-config; its flags will be missing from the build"
  let check := match a with
    | .error _ => missing
    | .ok o =>
      if o.succeeded then
        (Check.pass name "known to pkg-config").withVersion (Text.trimmed o.stdout)
      else missing
  check.optional

def checkLibrary (executor : Executor σ) (program : Path) (library : String) :
    Session σ Check := do
  return libraryCheck library (← Session.run executor ⟨program, ["--modversion", library]⟩)

def facts (toggles : Toggles) : Variables := ⟨[
  ("os", "linux"),
  ("regenerate", toString toggles.regenerate),
  ("coverage", toString toggles.coverage)]⟩

def checkLibraries (executor : Executor σ) (program : Path) :
    List String → Session σ (List Check)
  | [] => return []
  | library :: rest => do
    let check ← checkLibrary executor program library
    return check :: (← checkLibraries executor program rest)

def examine (executor : Executor σ) (here : Surroundings) (options : Options) :
    Session σ Report := do
  let pkgConfig ← checkPkgConfig executor here options.pkgConfig
  let cython ← checkCython executor here options.cython
  let libraries ←
    if pkgConfig.passed then checkLibraries executor options.pkgConfig options.libraries
    else pure []
  return {
    checks := pkgConfig.requiredIf (! options.libraries.isEmpty) ::
      cython.requiredIf options.toggles.regenerate :: libraries
    facts := facts options.toggles }

end ExtensionBuild.Doctor
