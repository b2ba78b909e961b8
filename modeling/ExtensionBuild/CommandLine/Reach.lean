import ExtensionBuild.CommandLine.Run

/-! What a run may look at. Before a run the places that it depends on are listed from what is
already known of them: a manifest names a source, settings name programs. Listing again with more
known reaches further, and three rounds reach everything. -/
namespace ExtensionBuild.CommandLine

def manifestPaths (c : Context) (explicit : Option Path) : List Path :=
  match explicit with
  | some path => [c.cwd.join path]
  | none => c.cwd.selfAndAncestors.map (·.joinText Manifest.fileName)

def settingsPaths (c : Context) (manifests : List Path) : List Path :=
  c.userSettings.toList ++ c.cwdSettings :: manifests.map c.projectSettings

def programPaths (here : Surroundings) (s : Settings) : List Path :=
  [s.pkgConfig, s.cython].flatMap fun program => program :: here.candidates program

def projectPaths (c : Context) (here : Surroundings) (explicit : Option Path) : List Path :=
  match c.loadProject here explicit with
  | .ok (project, _) =>
    sourcePath project.manifest.sourceStem .cython :: programPaths here project.settings
  | .error _ => programPaths here (c.loadSettings here c.cwdSettings).1

def outPaths (i : Invocation) : List Path :=
  match i.request with
  | .build (some out) _ => [out]
  | _ => []

def reach (here : Surroundings) (args : List String) : List Path :=
  match parse (Toggles.resolve here.vars args).2 with
  | .error _ => []
  | .ok i =>
    let c := Context.ofCwd here.vars here.cwd
    let manifests := manifestPaths c i.manifestPath
    manifests ++ settingsPaths c manifests ++ projectPaths c here i.manifestPath ++ outPaths i

/-- The rounds after which nothing new is reached: manifests and settings, then what they name. -/
def rounds : Nat := 3

def placesAlong (cwd p : Path) : List Place :=
  ((Path.segments (cwd.join p).chars).foldl (fun (here, seen) s =>
    if Path.isFiller s then (here, seen)
    else
      let next := if s == ['.', '.'] then here.dropLast else here ++ [s]
      (next, seen ++ [next])) (([] : Place), [([] : Place)])).2

end ExtensionBuild.CommandLine
