import ExtensionBuild.Context
import ExtensionBuild.Proofs.Ancestors
import ExtensionBuild.Proofs.Decoding
import ExtensionBuild.Proofs.Endings
import ExtensionBuild.Proofs.Precedence

/-! Absolute paths stay absolute: under joining, walking up, appending and another extension. A
project is therefore read from one absolute directory, that of its manifest, with the settings that
stand there, and what is built from it names its files by absolute paths. Only a path of the root
has no directory above it, and there is no manifest to read there. -/
namespace ExtensionBuild

namespace Path

theorem isAbsolute_iff (p : Path) : p.isAbsolute = true ↔ ∃ rest, p.chars = '/' :: rest := by
  unfold isAbsolute
  cases p.chars <;> simp

theorem isAbsolute_append {p : Path} (absolute : p.isAbsolute = true) (suffix : String) :
    (p.append suffix).isAbsolute = true := by
  obtain ⟨rest, spelled⟩ := p.isAbsolute_iff.mp absolute
  exact (isAbsolute_iff _).mpr ⟨rest ++ suffix.toList, by simp [append, spelled]⟩

theorem isAbsolute_join {p : Path} (absolute : p.isAbsolute = true) (q : Path) :
    (p.join q).isAbsolute = true := by
  obtain ⟨rest, spelled⟩ := p.isAbsolute_iff.mp absolute
  unfold join
  split
  · assumption
  split
  · exact (isAbsolute_iff _).mpr ⟨rest ++ q.chars, by simp [spelled]⟩
  · exact (isAbsolute_iff _).mpr ⟨rest ++ '/' :: q.chars, by simp [spelled]⟩

/-- All relative texts are put behind the same front. -/
theorem exists_joinText_eq (p : Path) : ∃ before, ∀ s : String,
    (ofText s).isAbsolute = false → p.joinText s = ⟨before ++ s.toList⟩ := by
  by_cases closed : (p.chars.isEmpty || p.chars.getLast? == some '/') = true
  · refine ⟨p.chars, fun s relative => ?_⟩
    rw [joinText, join, relative, if_neg Bool.false_ne_true, if_pos closed]
    rfl
  · refine ⟨p.chars ++ ['/'], fun s relative => ?_⟩
    rw [joinText, join, relative, if_neg Bool.false_ne_true, if_neg closed, List.append_assoc]
    rfl

theorem lead_of_isAbsolute {p : Path} (absolute : p.isAbsolute = true) : lead p.chars = ['/'] := by
  obtain ⟨rest, spelled⟩ := p.isAbsolute_iff.mp absolute
  rw [spelled]
  rfl

theorem isAbsolute_parent {p q : Path} (absolute : p.isAbsolute = true)
    (above : p.parent = some q) : q.isAbsolute = true := by
  rw [isAbsolute_of_parent above]
  exact absolute

theorem isAbsolute_of_mem_selfAndAncestors {p q : Path} (absolute : p.isAbsolute = true)
    (member : q ∈ p.selfAndAncestors) : q.isAbsolute = true := by
  fun_induction selfAndAncestors p with
  | case1 p top =>
    rw [List.mem_singleton.mp member]
    exact absolute
  | case2 p above up ih =>
    rcases List.mem_cons.mp member with rfl | later
    · exact absolute
    · exact ih (isAbsolute_parent absolute up) later

/-- An absolute path has no parent only if nothing in it names anything: it is a path of the root. -/
theorem isFiller_of_parent_eq_none {p : Path} (absolute : p.isAbsolute = true)
    (top : p.parent = none) : ∀ s ∈ segments p.chars, isFiller s = true := by
  obtain ⟨rest, spelled⟩ := p.isAbsolute_iff.mp absolute
  have walked : backwards p = [] := by
    unfold parent at top
    split at top
    · assumption
    · cases top
  rw [backwards, body, lead_of_isAbsolute absolute, List.dropWhile_eq_nil_iff] at walked
  intro s member
  have parts : segments p.chars = [] :: segments rest := by
    rw [spelled]
    rfl
  rw [parts] at member
  rcases List.mem_cons.mp member with rfl | later
  · rfl
  · apply walked
    rw [List.mem_reverse, spelled]
    exact later

theorem extension_length_lt {name ext : Segment} (shown : (stemAndExtension name).2 = some ext) :
    ext.length < name.length := by
  unfold stemAndExtension at shown
  have whole := congrArg List.length (List.takeWhile_append_dropWhile (p := (· != '.'))
    (l := name.reverse))
  rw [List.length_append, List.length_reverse] at whole
  split at shown
  · cases shown
  · cases shown
  · rename_i dot stem _ behind
    rw [behind, List.length_cons] at whole
    rw [← Option.some.inj shown, List.length_reverse]
    omega

theorem isAbsolute_setExtension {p : Path} (absolute : p.isAbsolute = true) (ext : Segment) :
    (p.setExtension ext).isAbsolute = true := by
  unfold setExtension
  split
  · rw [lead_of_isAbsolute absolute]
    rfl
  · exact absolute

/-- The extension that is cut off stands behind the root, so the root is never cut. -/
theorem isAbsolute_withExtension {p : Path} (absolute : p.isAbsolute = true) (ext : Segment) :
    (p.withExtension ext).isAbsolute = true := by
  obtain ⟨rest, spelled⟩ := p.isAbsolute_iff.mp absolute
  unfold withExtension
  cases shown : p.extension with
  | none => exact isAbsolute_setExtension absolute ext
  | some previous =>
    apply isAbsolute_setExtension
    obtain ⟨name, named, cut⟩ := Option.bind_eq_some_iff.mp shown
    obtain ⟨before, walked⟩ := fileName_eq_some named
    have listed : name ∈ segments rest := by
      have member := mem_segments_of_mem_backwards (p := p) (s := name) (by simp [walked])
      rw [body, lead_of_isAbsolute absolute, spelled] at member
      exact member
    have short := extension_length_lt cut
    have inside := (Text.of_mem_pieces listed).1.length_le
    obtain ⟨n, kept⟩ : ∃ n, p.chars.length - previous.length = n + 1 := by
      refine ⟨rest.length - previous.length, ?_⟩
      rw [spelled, List.length_cons]
      omega
    exact (isAbsolute_iff _).mpr ⟨rest.take n, by rw [kept, spelled, List.take_succ_cons]⟩

end Path

namespace FileTree

theorem walk_of_fillers {tree : FileTree} {here place : Place} {segments : List Segment}
    (fillers : ∀ s ∈ segments, Path.isFiller s = true)
    (walked : tree.walk here segments = .ok place) :
    place = here ∧ (segments ≠ [] → tree.entryAt here = some .directory) := by
  induction segments with
  | nil => exact ⟨(Except.ok.inj walked).symm, fun some => absurd rfl some⟩
  | cons s rest ih =>
    rw [walk] at walked
    cases standing : tree.entryAt here with
    | none =>
      rw [standing] at walked
      cases walked
    | some entry =>
      rw [standing] at walked
      cases entry with
      | file content executable => cases walked
      | directory =>
        simp only [fillers s List.mem_cons_self, if_true] at walked
        have later := ih (fun t member => fillers t (List.mem_cons_of_mem _ member)) walked
        exact ⟨later.1, fun _ => rfl⟩

/-- The root is no file to read, whatever way it is written. -/
theorem read_ne_ok_of_root (tree : FileTree) (cwd : Path) {p : Path}
    (absolute : p.isAbsolute = true) (top : p.parent = none) (content : String) :
    tree.read cwd p ≠ .ok content := by
  intro readable
  obtain ⟨entry, found, rest⟩ := Schema.bind_ok readable
  obtain ⟨place, walked, standing⟩ := Schema.bind_ok found
  have fillers := Path.isFiller_of_parent_eq_none absolute top
  unfold FileTree.place at walked
  split at walked
  · cases walked
  · rw [absolute] at walked
    obtain ⟨rfl, root⟩ := walk_of_fillers fillers walked
    rw [root (Text.pieces_ne_nil _ _)] at standing
    rw [← Except.ok.inj standing] at rest
    cases rest

end FileTree

namespace Manifest

theorem parse_dir {content : String} {path : Path} {m : Manifest}
    (parsed : parse content path = .ok m) : m.dir = path.parent.getD (Path.ofText ".") := by
  unfold parse at parsed
  split at parsed
  · cases parsed
  · split at parsed
    · cases parsed
    · rw [← Except.ok.inj parsed]

theorem load_parent {here : Surroundings} {path : Path} (absolute : path.isAbsolute = true)
    {m : Manifest} (loaded : load here path = .ok m) : path.parent = some m.dir := by
  unfold load at loaded
  split at loaded
  · cases loaded
  · rename_i content readable
    cases above : path.parent with
    | none => exact absurd readable (here.files.read_ne_ok_of_root here.cwd absolute above content)
    | some dir => rw [parse_dir loaded, above, Option.getD_some]

end Manifest

namespace Descriptor

structure IsAbsolute (d : Descriptor) : Prop where
  source : d.source.isAbsolute = true
  origin : ∀ origin ∈ d.generatedFrom, origin.isAbsolute = true

end Descriptor

namespace Build

section

variable (executor : Executor σ) (here : Surroundings) {manifest : Manifest}
  (absolute : manifest.dir.isAbsolute = true) (settings : Settings) (toggles : Toggles)
  (options : BuildOptions) (j : Journal σ)

include absolute

theorem isAbsolute_resolve :
    (resolve executor manifest settings toggles j).1.descriptor.IsAbsolute := by
  obtain ⟨-, source, origin, -⟩ := resolve_descriptor executor manifest settings toggles j
  refine ⟨?_, ?_⟩
  · rw [source]
    exact Path.isAbsolute_append (Path.isAbsolute_join absolute _) _
  · rw [origin]
    intro origin member
    cases member

theorem isAbsolute_build {outcome : Outcome}
    (ok : (build executor here manifest settings toggles options j).1 = .ok outcome) :
    outcome.descriptor.IsAbsolute := by
  have resolved := isAbsolute_resolve executor absolute settings toggles j
  obtain ⟨ran, course, -⟩ := build_course executor here manifest settings toggles options j
  rw [ok] at course
  cases course with
  | untranslated | passed => exact resolved
  | translated =>
    refine ⟨Path.isAbsolute_withExtension resolved.source _, ?_⟩
    intro origin member
    rw [← Option.some.inj member]
    exact resolved.source

end

end Build

namespace Context

theorem settingsIn_eq (dir : Path) : settingsIn dir = dir.joinText ".extconf/config.toml" := by
  obtain ⟨before, onto⟩ := dir.exists_joinText_eq
  rw [settingsIn, settingsDir, settingsFile, onto ".extconf" rfl, onto _ rfl]
  simp [Path.joinText, Path.join, Path.ofText, Path.isAbsolute, List.getLast?_append]

theorem isAbsolute_of_findManifest {c : Context} {here : Surroundings} {explicit : Option Path}
    (absolute : c.cwd.isAbsolute = true) {path : Path}
    (found : c.findManifest here explicit = .ok path) : path.isAbsolute = true := by
  cases explicit with
  | some given =>
    rw [← Except.ok.inj found]
    exact Path.isAbsolute_join absolute given
  | none =>
    unfold findManifest Manifest.find at found
    dsimp only at found
    split at found
    · rename_i candidate first
      obtain ⟨dir, above, rfl⟩ := List.mem_map.mp (List.mem_of_find?_eq_some first)
      rw [← Except.ok.inj found]
      exact Path.isAbsolute_join (Path.isAbsolute_of_mem_selfAndAncestors absolute above) _
    · cases found

/-- Of all files only the user's and the project's settings are consulted. -/
theorem loadSettings_congr (c : Context) {here there : Surroundings} {project : Path}
    (vars : there.vars = here.vars)
    (same : ∀ path, path ∈ c.userSettings ∨ path = project →
      there.read path = here.read path ∧ there.isPresent path = here.isPresent path) :
    c.loadSettings there project = c.loadSettings here project := by
  rw [loadSettings, loadSettings, Settings.ofFiles_congr same, vars]

theorem loadProject_ok {c : Context} {here : Surroundings} {explicit : Option Path}
    {project : Project} {lines : List Log.Line}
    (loaded : c.loadProject here explicit = .ok (project, lines)) :
    ∃ path, c.findManifest here explicit = .ok path ∧
      Manifest.load here path = .ok project.manifest ∧
      c.loadSettings here (c.projectSettings path) = (project.settings, lines) := by
  obtain ⟨path, found, rest⟩ := Schema.bind_ok loaded
  obtain ⟨manifest, read, rest⟩ := Schema.bind_ok rest
  cases Except.ok.inj rest
  exact ⟨path, found, read, rfl⟩

/-- A project that is loaded in an absolute directory has one directory for everything, that of its
manifest, and it is absolute. The file of settings there decides, with the user's and the
environment, the settings of the project, and no other file does; and whatever is resolved or built
from the manifest names its source and its origin by absolute paths. -/
theorem loadProject_absolute (c : Context) (here : Surroundings) (explicit : Option Path)
    (absolute : c.cwd.isAbsolute = true) {project : Project} {lines : List Log.Line}
    (loaded : c.loadProject here explicit = .ok (project, lines)) :
    let manifest := project.manifest
    let user := c.userDir.map (·.joinText "config.toml")
    let file := manifest.dir.joinText ".extconf/config.toml"
    (∃ path, c.findManifest here explicit = .ok path ∧
      Manifest.load here path = .ok manifest ∧
      path.isAbsolute = true ∧ path.parent = some manifest.dir ∧
      c.projectSettings path = file) ∧
    manifest.dir.isAbsolute = true ∧
    project.settings = (Settings.ofFiles here user file).1.withVariables here.vars ∧
    (∀ lower upper, Settings.HoldsIfAny here user lower → Settings.Holds here file upper →
      Settings.DecidedBy (lower.toList ++ upper.toList) here.vars project.settings) ∧
    (∀ there : Surroundings, there.vars = here.vars →
      (∀ path, path ∈ user ∨ path = file →
        there.read path = here.read path ∧ there.isPresent path = here.isPresent path) →
      c.loadSettings there file = (project.settings, lines)) ∧
    ∀ {σ : Type} (executor : Executor σ) (there : Surroundings) (settings : Settings)
      (toggles : Toggles) (options : BuildOptions) (j : Journal σ),
      (Build.resolve executor manifest settings toggles j).1.descriptor.IsAbsolute ∧
      ∀ outcome, (Build.build executor there manifest settings toggles options j).1 = .ok outcome →
        outcome.descriptor.IsAbsolute := by
  intro manifest user file
  obtain ⟨path, found, read, consulted⟩ := loadProject_ok loaded
  have rooted := isAbsolute_of_findManifest absolute found
  have above := Manifest.load_parent rooted read
  have placed : manifest.dir.isAbsolute = true := Path.isAbsolute_parent rooted above
  have looked : c.projectSettings path = file := by
    rw [projectSettings, above, Option.getD_some]
    exact settingsIn_eq manifest.dir
  rw [looked] at consulted
  have settings : project.settings =
      (Settings.ofFiles here user file).1.withVariables here.vars :=
    (congrArg Prod.fst consulted).symm
  refine ⟨⟨path, found, read, rooted, above, looked⟩, placed, settings, ?_, ?_, ?_⟩
  · intro lower upper below present
    rw [settings]
    exact Settings.decidedBy_ofFiles here.vars below present
  · intro there vars same
    rw [loadSettings_congr c vars same, consulted]
  · intro σ executor there settings toggles options j
    exact ⟨Build.isAbsolute_resolve executor placed settings toggles j,
      fun outcome ok => Build.isAbsolute_build executor there placed settings toggles options j ok⟩

/-- A manifest that is asked for by a winding path, with settings in its directory. These are the
project's, and by the translator that they name both the source and its origin are absolute. -/
theorem loadProject_absolute_of_winding_path :
    let content := "[extension]\nname = \"osd\"\nsource = \"src/osd\"\n"
    let config := "[tools]\ncython = \"/opt/cython\"\n[translate]\nlanguage-level = 2\n"
    let bytes (s : String) : List UInt8 := s.toList.map fun c => c.toNat.toUInt8
    let place (p : Place) : Option Entry :=
      if p = ["py".toList, "Extconf.toml".toList] then some (.file (bytes content) false)
      else if p = ["py".toList, ".extconf".toList, "config.toml".toList] then
        some (.file (bytes config) false)
      else if p.length < 2 ∨ p = ["py".toList, "src".toList] ∨ p = ["py".toList, ".extconf".toList]
        then some .directory
      else some (.file [] true)
    let here : Surroundings := ⟨⟨[]⟩, Path.ofText "/work", ⟨place⟩⟩
    let c := Context.ofCwd here.vars here.cwd
    let explicit := some (Path.ofText "..//py/./Extconf.toml")
    let manifest : Manifest :=
      ⟨⟨"osd", some (Path.ofText "src/osd"), [], none, [], [], [], [], [], []⟩,
        Path.ofText "/work/..//py"⟩
    let settings : Settings := ⟨⟨none, some (Path.ofText "/opt/cython")⟩, ⟨2, true⟩⟩
    let executor : Executor Unit := .ofFunction fun _ => .ok ⟨some 0, "", ""⟩
    let built := (Build.build executor here manifest settings ⟨true, true⟩ ⟨true⟩ (.start ())).1
    c.cwd.isAbsolute = true ∧
    (c.loadProject here explicit).toOption = some (⟨manifest, settings⟩, []) ∧
    (∃ upper : Settings.Document, upper.content = config ∧
      here.read (Path.ofText "/work/..//py/.extconf/config.toml") = .ok config ∧
      Settings.DecidedBy [upper] here.vars settings) ∧
    ∃ d, built.toOption.map (·.descriptor) = some d ∧
      d.source = Path.ofText "/work/..//py/src/osd.c" ∧
      d.generatedFrom = some (Path.ofText "/work/..//py/src/osd.pyx") ∧ d.IsAbsolute := by
  intro content config bytes place here c explicit manifest settings executor built
  let upper : Settings.Document := ⟨config, settings, by decide +kernel⟩
  have absolute : c.cwd.isAbsolute = true := by decide
  have found : (c.loadProject here explicit).toOption = some (⟨manifest, settings⟩, []) := by
    decide +kernel
  have readable : here.read (Path.ofText "/work/..//py/.extconf/config.toml") = .ok config := by
    decide +kernel
  have ends : built.toOption.map (fun o => (o.descriptor.source, o.descriptor.generatedFrom)) =
      some (Path.ofText "/work/..//py/src/osd.c",
        some (Path.ofText "/work/..//py/src/osd.pyx")) := by decide +kernel
  refine ⟨absolute, found, ?_⟩
  cases loaded : c.loadProject here explicit with
  | error e =>
    rw [loaded] at found
    cases found
  | ok project =>
    rw [loaded] at found
    cases Option.some.inj found
    obtain ⟨-, -, -, decided, -, paths⟩ := loadProject_absolute c here explicit absolute loaded
    have law := paths executor here settings ⟨true, true⟩ ⟨true⟩ (.start ())
    refine ⟨⟨upper, rfl, readable, decided none (some upper) rfl readable⟩, ?_⟩
    cases ok : built with
    | error e =>
      rw [ok] at ends
      cases ends
    | ok outcome =>
      rw [ok] at ends
      obtain ⟨source, origin⟩ := Prod.mk.inj (Option.some.inj ends)
      exact ⟨outcome.descriptor, rfl, source, origin, law.2 outcome ok⟩

end Context
end ExtensionBuild
