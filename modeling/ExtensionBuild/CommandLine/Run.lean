import ExtensionBuild.Build
import ExtensionBuild.CommandLine.Arguments
import ExtensionBuild.CommandLine.Completions
import ExtensionBuild.Context
import ExtensionBuild.Doctor

/-! One run of the program: from the arguments and the surroundings to the exit code, the two output
streams and the files afterwards. Log lines, warnings and errors go to the error stream. -/
namespace ExtensionBuild.CommandLine

structure Result where
  code : Nat
  stdout : String
  stderr : String
  files : FileTree

namespace Result

def success (files : FileTree) (stdout stderr : String) : Result := ⟨0, stdout, stderr, files⟩

def failure (files : FileTree) (logged message : String) (help : Option String) : Result where
  code := 1
  stdout := ""
  stderr := logged ++ "error: " ++ message ++ "\n" ++
    match help with
    | some text => "help: " ++ text ++ "\n"
    | none => ""
  files

end Result

def logText (c : Context) (lines : List Log.Line) : String :=
  String.join ((lines.filter (·.level.isShown c.verbose)).map (Log.Line.render c.colour))

def eventLines (j : Journal σ) : List Log.Line := j.events.map Event.line

/-- The warning about libraries that were not resolved, if there are any. -/
def warningText (c : Context) (outcome : Outcome) : String :=
  match outcome.failure with
  | some failure => (failure.diagnostic outcome.skipped).render c.colour
  | none => ""

/-- Hands the descriptor to standard output or writes it to a file. -/
def emit (c : Context) (here : Surroundings) (name : String) (descriptor : Descriptor)
    (out : Option Path) (logged : String) : Result :=
  let text := descriptor.json ++ "\n"
  match out with
  | none => .success here.files text logged
  | some path =>
    match here.files.write here.cwd path (Text.Utf8.encode text) with
    | .error fault =>
      .failure here.files logged
        (s!"failed to write descriptor: {path.text}" ++ ": " ++ fault.message) none
    | .ok files =>
      let note := Log.info s!"Wrote descriptor for `{name}` to {path.text}"
      .success files "" (logged ++ logText c [note])

def runBuild (executor : Executor σ) (state : σ) (c : Context) (here : Surroundings)
    (toggles : Toggles) (manifest : Option Path) (out : Option Path) (translate : Bool) : Result :=
  match c.loadProject here manifest with
  | .error e => .failure here.files "" e.report none
  | .ok (project, lines) =>
    let (result, journal) :=
      Build.build executor here project.manifest project.settings toggles ⟨translate⟩
        (.start state)
    let logged := logText c (lines ++ eventLines journal)
    match result with
    | .error e => .failure here.files logged e.message e.help
    | .ok outcome =>
      emit c here project.manifest.extension.name outcome.descriptor out
        (logged ++ warningText c outcome)

def flagLines (title : String) (flags : List String) : List String :=
  title :: flags.map ("  " ++ ·)

/-- The flags of a descriptor as shown to the user, for the compiler, the linker or both. -/
def flagsText (d : Descriptor) (compile link : Bool) : String :=
  let forCompiler := if link then [] else
    flagLines s!"# Compile flags for `{d.name}` ({d.source.text}):" d.flags.compileFlags
  let between := if compile || link then [] else [""]
  let forLinker := if compile then [] else
    flagLines s!"# Link flags for `{d.name}`:" d.flags.linkFlags
  String.join ((forCompiler ++ between ++ forLinker).map (· ++ "\n"))

def runFlags (executor : Executor σ) (state : σ) (c : Context) (here : Surroundings)
    (toggles : Toggles) (manifest : Option Path) (compile link : Bool) : Result :=
  match c.loadProject here manifest with
  | .error e => .failure here.files "" e.report none
  | .ok (project, lines) =>
    let (outcome, journal) :=
      Build.resolve executor project.manifest project.settings toggles (.start state)
    .success here.files (flagsText outcome.descriptor compile link)
      (logText c (lines ++ eventLines journal) ++ warningText c outcome)

/-- The libraries and the settings for the checks. Without a manifest there are no libraries, and
the settings beside it are those of the working directory. -/
def doctorInput (c : Context) (here : Surroundings) (manifest : Option Path) :
    List String × Settings × List Log.Line :=
  match c.loadProject here manifest with
  | .ok (project, lines) => (project.manifest.extension.libraries, project.settings, lines)
  | .error e =>
    let (settings, lines) := c.loadSettings here c.cwdSettings
    ([], settings, Log.debug s!"no manifest: {e.report}" :: lines)

def runDoctor (executor : Executor σ) (state : σ) (c : Context) (here : Surroundings)
    (toggles : Toggles) (manifest : Option Path) : Result :=
  let (libraries, settings, lines) := doctorInput c here manifest
  let options : Doctor.Options := ⟨toggles, settings.pkgConfig, settings.cython, libraries⟩
  let (report, journal) := Doctor.examine executor here options (.start state)
  { code := if report.allRequiredPassed then 0 else 1
    stdout := report.text c.verbose
    stderr := logText c (lines ++ eventLines journal)
    files := here.files }

def runHalt (here : Surroundings) : Halt → Result
  | .usage e => ⟨2, "", e.text (demandsColour here.vars), here.files⟩
  | .help t => .success here.files (t.text (demandsColour here.vars)) ""
  | .nothing => ⟨2, "", Topic.program.text (demandsColour here.vars), here.files⟩
  | .version => .success here.files (versionText ++ "\n") ""

def run (executor : Executor σ) (state : σ) (here : Surroundings) (args : List String) : Result :=
  let (toggles, rest) := Toggles.resolve here.vars args
  match parse rest with
  | .error halt => runHalt here halt
  | .ok i =>
    let c := ((Context.ofCwd here.vars here.cwd).withVerbose i.verbose).withColour i.colour
    match i.request with
    | .build out translate =>
      runBuild executor state c here toggles i.manifestPath out translate
    | .flags compile link => runFlags executor state c here toggles i.manifestPath compile link
    | .doctor => runDoctor executor state c here toggles i.manifestPath
    | .completions shell => .success here.files (Completions.text shell) ""

end ExtensionBuild.CommandLine
