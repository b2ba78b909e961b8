import ExtensionBuild.CommandLine.Reach
import ExtensionBuild.Transcript

/-! The program. What a run depends on is read first; the run itself is a function; then its output
is written. Other programs are not started but answered from a transcript, whose file an environment
variable names. -/
namespace ExtensionBuild.Main
open CommandLine

abbrev Snapshot := List (Place × Option Entry)

def Snapshot.files (known : Snapshot) : FileTree where
  entryAt place := (known.lookup place).join

def probe (place : Place) : IO (Option Entry) := do
  try
    let content ← IO.FS.readBinFile place.path.text
    return some (.file content.toList true)
  catch
    | .inappropriateType .. => return some .directory
    | .permissionDenied .. => return some (.file [] false)
    | _ => return none

def look (cwd : Path) (known : Snapshot) (paths : List Path) : IO Snapshot :=
  (paths.flatMap (placesAlong cwd)).foldlM (fun known place => do
    if (known.lookup place).isSome then return known
    else return (place, ← probe place) :: known) known

def transcriptVariable : String := "EXTCONF_TRANSCRIPT"

def variableNames : List String :=
  ["PATH", "HOME", Settings.pkgConfigVariable, Settings.cythonVariable, forceColourVariable,
    noColourVariable] ++ Toggle.all.map Toggle.variableName

def readVariables : IO Variables := do
  let settings ← variableNames.filterMapM fun name => do
    return (← IO.getEnv name).map ((name, ·))
  return ⟨settings⟩

def readScript : IO Script := do
  match ← IO.getEnv transcriptVariable with
  | none => return Transcript.ofRules []
  | some name =>
    match Transcript.parse (← IO.FS.readFile name) with
    | some script => return script
    | none => throw (IO.userError s!"{name} is no transcript")

/-- Writes what the run left at a path, if that is new. -/
def writeBack (before : Surroundings) (after : FileTree) (path : Path) : IO Unit := do
  match before.files.place before.cwd path with
  | .error _ => return ()
  | .ok place =>
    match after.entryAt place with
    | some (.file content executable) =>
      if before.files.entryAt place != some (.file content executable) then
        IO.FS.writeBinFile place.path.text ⟨content.toArray⟩
    | _ => return ()

def run (args : List String) : IO Nat := do
  let vars ← readVariables
  let cwd := Path.ofText (toString (← IO.currentDir))
  let surroundings (known : Snapshot) : Surroundings := ⟨vars, cwd, known.files⟩
  let start ← look cwd [] [cwd]
  let known ← (List.range rounds).foldlM (fun known _ =>
    look cwd known (reach (surroundings known) args)) start
  let here := surroundings known
  let result := CommandLine.run Script.executor (← readScript) here args
  for path in reach here args do
    writeBack here result.files path
  (← IO.getStdout).putStr result.stdout
  (← IO.getStderr).putStr result.stderr
  return result.code

end ExtensionBuild.Main

def main (args : List String) : IO UInt32 := do
  return UInt32.ofNat (← ExtensionBuild.Main.run args)
