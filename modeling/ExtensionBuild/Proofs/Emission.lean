import ExtensionBuild.CommandLine.Run
import ExtensionBuild.Proofs.Arguments
import ExtensionBuild.Proofs.DescriptorText
import ExtensionBuild.Proofs.SharedResolution
import ExtensionBuild.Proofs.Writing

/-! What a build leaves behind. Its descriptor is handed out as a whole or not at all: to standard
output, or with the same bytes to one file. A build that fails prints nothing and writes nothing,
and whether it fails does not hang on what is answered about the libraries. -/
namespace ExtensionBuild

namespace Build

/-- A run of the translator is one for every executor that answers its command alike. -/
theorem Runs.of_agree {first : Executor σ} {second : Executor τ} {here : Surroundings}
    {manifest : Manifest} {settings : Settings} {toggles : Toggles} {options : BuildOptions}
    {asked again : Outcome} {s : σ} {t : τ} {program : Path} {c : Command} {a : Answer}
    (agree : ∀ c ∈ translatorCommand? here manifest settings toggles options,
      ∀ s t, (first.step c s).1 = (second.step c t).1)
    (source : asked.descriptor.source =
      sourcePath manifest.sourceStem (.ofRegenerate toggles.regenerate))
    (same : again.descriptor.source = asked.descriptor.source)
    (runs : Runs first here settings toggles options asked s program c a) :
    Runs second here settings toggles options again t program c a where
  on := runs.on
  located := runs.located
  cython := same ▸ runs.cython
  present := same ▸ runs.present
  command := by rw [runs.command, Translator.commandFor, Translator.commandFor, same]
  answer := by rw [runs.answer, agree c (runs.mem_translatorCommand? source) s t]

/-- Executors that agree on the translator's command build alike, as far as success goes. -/
theorem build_isOk_of_agree (first : Executor σ) (second : Executor τ) (here : Surroundings)
    (manifest : Manifest) (settings : Settings) (toggles : Toggles) (options : BuildOptions)
    (j : Journal σ) (k : Journal τ)
    (agree : ∀ c ∈ translatorCommand? here manifest settings toggles options,
      ∀ s t, (first.step c s).1 = (second.step c t).1) {outcome : Outcome}
    (ok : (build first here manifest settings toggles options j).1 = .ok outcome) :
    ∃ other, (build second here manifest settings toggles options k).1 = .ok other := by
  obtain ⟨_, course, -⟩ := build_course first here manifest settings toggles options j
  obtain ⟨_, course', -⟩ := build_course second here manifest settings toggles options k
  have source := (resolve_descriptor first manifest settings toggles j).2.1
  have source' := (resolve_descriptor second manifest settings toggles k).2.1
  rw [course'.ok_iff, source']
  refine (course.ok_iff.mp ⟨outcome, ok⟩).imp_right ?_
  rintro ⟨program, located, undone⟩
  refine ⟨program, located, ?_⟩
  rw [source] at undone
  refine undone.imp_right ?_
  rintro ⟨c, o, runs, code⟩
  exact ⟨c, o, runs.of_agree agree source (source'.trans source.symm), code⟩

end Build

namespace CommandLine

def Invocation.context (i : Invocation) (here : Surroundings) : Context :=
  ((Context.ofCwd here.vars here.cwd).withVerbose i.verbose).withColour i.colour

section

variable (executor : Executor σ) (state : σ) (here : Surroundings) (toggles : Toggles)
  (translate : Bool) (i : Invocation)

/-- The project of a call is loaded, and its build succeeds with this outcome. -/
structure Builds (project : Context.Project) (outcome : Outcome) : Prop where
  loaded : ∃ lines, (i.context here).loadProject here i.manifestPath = .ok (project, lines)
  built : (Build.build executor here project.manifest project.settings toggles ⟨translate⟩
    (.start state)).1 = .ok outcome

/-- The descriptor went to where it was asked for, and nothing else happened: to standard output, or
to the one file that the path leads to. -/
def Emitted (text : String) (out : Option Path) (done : Result) : Prop :=
  match out with
  | none => done.stdout = text ∧ done.files = here.files
  | some path => done.stdout = "" ∧ ∃ place executable,
      here.files.place here.cwd path = .ok place ∧
      done.files.lookup here.cwd path = .ok (.file text.toUTF8.toList executable) ∧
      ∀ other, other ≠ place → done.files.entryAt other = here.files.entryAt other

/-- Whether a file can be written at the path, with whatever content. -/
def Writable : Option Path → Prop
  | none => True
  | some path => ∃ after, here.files.write here.cwd path [] = .ok after

end

section

variable {executor : Executor σ} {state : σ} {here : Surroundings} {toggles : Toggles}
  {translate : Bool} {i : Invocation} {project : Context.Project} {outcome : Outcome}

theorem emit_emitted (c : Context) (name : String) (d : Descriptor) {out : Option Path}
    (logged : String) (writable : Writable here out) :
    (emit c here name d out logged).code = 0 ∧
      Emitted here (d.json ++ "\n") out (emit c here name d out logged) := by
  cases out with
  | none => exact ⟨rfl, rfl, rfl⟩
  | some path =>
    obtain ⟨after, ok⟩ := writable
    obtain ⟨place, executable, leads, solid, written⟩ := FileTree.write_ok ok
    rw [emit]
    dsimp only
    rw [written]
    refine ⟨rfl, rfl, place, executable, leads, FileTree.lookup_set leads solid, ?_⟩
    intro other apart
    exact FileTree.entryAt_set_of_ne _ _ apart

theorem emit_failed (c : Context) (name : String) (d : Descriptor) {out : Option Path}
    (logged : String) (barred : ¬ Writable here out) :
    let done := emit c here name d out logged
    done.code = 1 ∧ done.stdout = "" ∧ done.files = here.files := by
  cases out with
  | none => exact absurd trivial barred
  | some path =>
    rw [emit]
    dsimp only
    cases ok : here.files.write here.cwd path (Text.Utf8.encode (d.json ++ "\n")) with
    | error fault => exact ⟨rfl, rfl, rfl⟩
    | ok after =>
      obtain ⟨place, executable, -, -, written⟩ := FileTree.write_ok ok
      exact absurd ⟨_, written []⟩ barred

theorem runBuild_of_builds (builds : Builds executor state here toggles translate i project outcome)
    (out : Option Path) :
    ∃ logged, runBuild executor state (i.context here) here toggles i.manifestPath out translate =
      emit (i.context here) here project.manifest.extension.name outcome.descriptor out logged := by
  obtain ⟨⟨lines, loaded⟩, built⟩ := builds
  rw [runBuild, loaded]
  dsimp only
  rcases whole : Build.build executor here project.manifest project.settings toggles ⟨translate⟩
    (.start state) with ⟨result, journal⟩
  obtain rfl : result = .ok outcome := by rw [← built, whole]
  exact ⟨_, rfl⟩

theorem runBuild_of_not_builds
    (fails : ∀ project outcome, ¬ Builds executor state here toggles translate i project outcome)
    (out : Option Path) :
    let done := runBuild executor state (i.context here) here toggles i.manifestPath out translate
    done.code = 1 ∧ done.stdout = "" ∧ done.files = here.files := by
  rw [runBuild]
  cases loaded : (i.context here).loadProject here i.manifestPath with
  | error e => exact ⟨rfl, rfl, rfl⟩
  | ok found =>
    obtain ⟨project, lines⟩ := found
    dsimp only
    rcases whole : Build.build executor here project.manifest project.settings toggles ⟨translate⟩
      (.start state) with ⟨result, journal⟩
    cases result with
    | error e => exact ⟨rfl, rfl, rfl⟩
    | ok outcome => exact absurd ⟨⟨lines, loaded⟩, congrArg Prod.fst whole⟩ (fails project outcome)

theorem run_of_parses (executor : Executor σ) (state : σ) {args : List String} {out : Option Path}
    (parses : Parses here.vars args toggles i) (request : i.request = .build out translate) :
    run executor state here args =
      runBuild executor state (i.context here) here toggles i.manifestPath out translate := by
  obtain ⟨switches, parsed⟩ := parses
  rw [run]
  dsimp only
  rw [parsed, switches]
  dsimp only
  rw [request]
  rfl

/-- The answers about the libraries decide no success: the executors need to agree on the translator's
command alone. -/
theorem Builds.of_agree {second : Executor τ}
    (agree : ∀ project lines,
      (i.context here).loadProject here i.manifestPath = .ok (project, lines) →
      ∀ c ∈ Build.translatorCommand? here project.manifest project.settings toggles ⟨translate⟩,
        ∀ s t, (executor.step c s).1 = (second.step c t).1)
    (builds : Builds executor state here toggles translate i project outcome) (t : τ) :
    ∃ other, Builds second t here toggles translate i project other := by
  obtain ⟨⟨lines, loaded⟩, built⟩ := builds
  obtain ⟨other, again⟩ := Build.build_isOk_of_agree executor second here project.manifest
    project.settings toggles ⟨translate⟩ (.start state) (.start t) (agree project lines loaded) built
  exact ⟨other, ⟨lines, loaded⟩, again⟩

theorem run_of_builds {args : List String} (out : Option Path)
    (parses : Parses here.vars args toggles i) (request : i.request = .build out translate)
    (builds : Builds executor state here toggles translate i project outcome)
    (writable : Writable here out) :
    (run executor state here args).code = 0 ∧
      Emitted here (outcome.descriptor.json ++ "\n") out (run executor state here args) := by
  obtain ⟨logged, emits⟩ := runBuild_of_builds builds out
  rw [run_of_parses executor state parses request, emits]
  exact emit_emitted _ _ _ _ writable

theorem run_of_fails {args : List String} {out : Option Path}
    (parses : Parses here.vars args toggles i) (request : i.request = .build out translate)
    (fails : ¬ ((∃ project outcome, Builds executor state here toggles translate i project outcome) ∧
      Writable here out)) :
    let done := run executor state here args
    done.code = 1 ∧ done.stdout = "" ∧ done.files = here.files := by
  rw [run_of_parses executor state parses request]
  by_cases built : ∃ project outcome,
      Builds executor state here toggles translate i project outcome
  · obtain ⟨project, outcome, builds⟩ := built
    obtain ⟨logged, emits⟩ := runBuild_of_builds builds out
    rw [emits]
    exact emit_failed _ _ _ _ fun writable => fails ⟨⟨project, outcome, builds⟩, writable⟩
  · exact runBuild_of_not_builds (fun project outcome builds => built ⟨project, outcome, builds⟩) out

theorem run_code_eq_zero_iff (executor : Executor σ) (state : σ) {args : List String}
    {out : Option Path}
    (parses : Parses here.vars args toggles i) (request : i.request = .build out translate) :
    (run executor state here args).code = 0 ↔
      (∃ project outcome, Builds executor state here toggles translate i project outcome) ∧
        Writable here out := by
  constructor
  · intro success
    by_contra fails
    rw [(run_of_fails parses request fails).1] at success
    cases success
  · rintro ⟨⟨project, outcome, builds⟩, writable⟩
    exact (run_of_builds out parses request builds writable).1

theorem run_code_of_agree {second : Executor τ} {args : List String} {out : Option Path}
    (parses : Parses here.vars args toggles i) (request : i.request = .build out translate)
    (agree : ∀ project lines,
      (i.context here).loadProject here i.manifestPath = .ok (project, lines) →
      ∀ c ∈ Build.translatorCommand? here project.manifest project.settings toggles ⟨translate⟩,
        ∀ s t, (executor.step c s).1 = (second.step c t).1) (t : τ) :
    (run second t here args).code = (run executor state here args).code := by
  -- The outcomes may differ in their flags and failures; that there is one is what carries over.
  by_cases succeeds : (∃ project outcome,
      Builds executor state here toggles translate i project outcome) ∧ Writable here out
  · obtain ⟨⟨project, outcome, builds⟩, writable⟩ := succeeds
    obtain ⟨other, again⟩ := builds.of_agree agree t
    rw [(run_of_builds out parses request builds writable).1,
      (run_of_builds out parses request again writable).1]
  · have fails : ¬ ((∃ project outcome,
        Builds second t here toggles translate i project outcome) ∧ Writable here out) := by
      rintro ⟨⟨project, outcome, builds⟩, writable⟩
      obtain ⟨other, again⟩ := builds.of_agree
        (fun project lines loaded c member s t => (agree project lines loaded c member t s).symm)
        state
      exact succeeds ⟨⟨project, other, again⟩, writable⟩
    rw [(run_of_fails parses request succeeds).1, (run_of_fails parses request fails).1]

end

/-- A build hands out its descriptor as a whole or not at all, wherever it is to go. It succeeds if
the project is loaded, the extension is built and the destination can be written; else nothing is
printed and no file changes. The text ends with a line feed and reads back, in front of it, to the
entries that show the descriptor. What goes to a file is what the same call without a file prints,
and nothing else changes. Whether it succeeds does not hang on the answers about the libraries. -/
theorem run_build_whole_or_nothing (executor : Executor σ) (state : σ) (here : Surroundings)
    (args : List String) (toggles : Toggles) (i : Invocation) (out : Option Path) (translate : Bool)
    (parses : Parses here.vars args toggles i) (request : i.request = .build out translate) :
    let done := run executor state here args
    let builds := Builds executor state here toggles translate i
    let bare := { i with request := .build none translate }
    (done.code = 0 ↔ (∃ project outcome, builds project outcome) ∧ Writable here out) ∧
    (done.code ≠ 0 → done.stdout = "" ∧ done.files = here.files) ∧
    (done.code = 0 → ∃ project outcome, builds project outcome ∧
      Emitted here (outcome.descriptor.json ++ "\n") out done ∧
      ∃ entries, Json.read outcome.descriptor.json = some (.table entries) ∧
        outcome.descriptor.ShownBy entries) ∧
    (∃ without, Parses here.vars without toggles bare) ∧
    (done.code = 0 → ∀ without, Parses here.vars without toggles bare →
      let shown := run executor state here without
      shown.code = 0 ∧ shown.files = here.files ∧ Emitted here shown.stdout out done) ∧
    (∀ (τ : Type) (second : Executor τ) (t : τ),
      (∀ project lines, (i.context here).loadProject here i.manifestPath = .ok (project, lines) →
        ∀ c ∈ Build.translatorCommand? here project.manifest project.settings toggles ⟨translate⟩,
          ∀ s t, (executor.step c s).1 = (second.step c t).1) →
      (run second t here args).code = done.code) := by
  intro done builds bare
  have succeeds := run_code_eq_zero_iff executor state parses request
  refine ⟨succeeds, ?_, ?_, ?_, ?_, ?_⟩
  · intro failed
    exact (run_of_fails parses request (mt succeeds.mpr failed)).2
  · intro success
    obtain ⟨⟨project, outcome, built⟩, writable⟩ := succeeds.mp success
    exact ⟨project, outcome, built, (run_of_builds out parses request built writable).2,
      outcome.descriptor.exists_read_json⟩
  · exact ⟨_, parses.retarget none translate (fun _ absent => by cases absent)⟩
  · intro success without again shown
    obtain ⟨⟨project, outcome, built⟩, writable⟩ := succeeds.mp success
    have built' : Builds executor state here toggles translate bare project outcome :=
      ⟨built.loaded, built.built⟩
    obtain ⟨code, stdout, files⟩ := run_of_builds none again rfl built' trivial
    refine ⟨code, files, ?_⟩
    rw [show shown.stdout = _ from stdout]
    exact (run_of_builds out parses request built writable).2
  · intro τ second t agree
    exact run_code_of_agree parses request agree t

/-- Without a library tool the descriptor is still written, and the file holds what would have been
printed. -/
theorem run_build_without_library_tool :
    let content := "[extension]\nname = \"osd\"\nlibraries = [\"osd\"]\n"
    let bytes : List UInt8 := content.toList.map fun c => c.toNat.toUInt8
    let place (p : Place) : Option Entry :=
      if p = [] then some .directory
      else if p = ["Extconf.toml".toList] then some (.file bytes false) else none
    let here : Surroundings := ⟨⟨[]⟩, Path.ofText "/", ⟨place⟩⟩
    let executor : Executor Unit := .ofFunction fun c => .error (.failed c.program "not found")
    let out := Path.ofText "d.json"
    let done := run executor () here ["build", "--out", "d.json"]
    let shown := run executor () here ["build"]
    let text := "\x7b\n  \"name\": \"osd\",\n  \"source\": \"/osd.c\",\n" ++
      "  \"include_dirs\": [],\n  \"library_dirs\": [],\n  \"libraries\": [],\n" ++
      "  \"extra_compile_args\": [],\n  \"extra_link_args\": [],\n  \"define_macros\": []\n\x7d\n"
    done.code = 0 ∧ shown.code = 0 ∧ shown.files = here.files ∧ shown.stdout = text ∧
      Emitted here text (some out) done := by
  intro content bytes place here executor out done shown text
  have parses : Parses here.vars ["build", "--out", "d.json"] .off
      ⟨false, true, none, .build (some out) true⟩ := ⟨rfl, rfl⟩
  have without : Parses here.vars ["build"] .off ⟨false, true, none, .build none true⟩ := ⟨rfl, rfl⟩
  have success : done.code = 0 := by decide +kernel
  have printed : shown.stdout = text := by decide +kernel
  obtain ⟨-, -, -, -, same, -⟩ :=
    run_build_whole_or_nothing executor () here _ .off _ _ true parses rfl
  obtain ⟨code, files, emitted⟩ := same success _ without
  rw [show (run executor () here ["build"]).stdout = text from printed] at emitted
  exact ⟨success, code, files, printed, emitted⟩

end CommandLine
end ExtensionBuild
