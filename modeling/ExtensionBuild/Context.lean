import ExtensionBuild.Manifest
import ExtensionBuild.Settings

/-! The paths and the output settings of one call: the working directory, the directory of the
user's settings, and where the manifest and the settings of a project are looked for. -/
namespace ExtensionBuild

structure Context where
  cwd : Path
  /-- The directory of the user's settings, when there is a home. -/
  userDir : Option Path
  verbose : Bool
  colour : Bool
deriving DecidableEq, Repr

namespace Context

def settingsDir : String := ".extconf"

def settingsFile : String := "config.toml"

def ofCwd (vars : Variables) (cwd : Path) : Context where
  cwd
  userDir := vars.home?.map (·.joinText settingsDir)
  verbose := false
  colour := true

def withVerbose (c : Context) (verbose : Bool) : Context := { c with verbose }

def withColour (c : Context) (colour : Bool) : Context := { c with colour }

def settingsIn (dir : Path) : Path := (dir.joinText settingsDir).joinText settingsFile

def userSettings (c : Context) : Option Path := c.userDir.map (·.joinText settingsFile)

def projectSettings (c : Context) (manifest : Path) : Path :=
  settingsIn (manifest.parent.getD c.cwd)

def cwdSettings (c : Context) : Path := settingsIn c.cwd

/-- The manifest: the one that is asked for, seen from the working directory, or the nearest one
upward. -/
def findManifest (c : Context) (here : Surroundings) (explicit : Option Path) :
    Except Manifest.Error Path :=
  match explicit with
  | some path => .ok (c.cwd.join path)
  | none => Manifest.find here c.cwd

/-- A manifest with the settings that count for it. -/
structure Project where
  manifest : Manifest
  settings : Settings
deriving DecidableEq, Repr

/-- The settings of the user's file, of the given file and of the environment, each over the ones
before. -/
def loadSettings (c : Context) (here : Surroundings) (project : Path) :
    Settings × List Log.Line :=
  let (settings, lines) := Settings.ofFiles here c.userSettings project
  (settings.withVariables here.vars, lines)

def loadProject (c : Context) (here : Surroundings) (explicit : Option Path) :
    Except Manifest.Error (Project × List Log.Line) := do
  let path ← c.findManifest here explicit
  let manifest ← Manifest.load here path
  let (settings, lines) := c.loadSettings here (c.projectSettings path)
  return (⟨manifest, settings⟩, lines)

end Context
end ExtensionBuild
