import ExtensionBuild.Proofs.Endings
import ExtensionBuild.Proofs.Tolerance

/-! Showing the flags of an extension and building it. Both ask about the libraries first, and
neither the switches nor what was noted before decide what they ask or find; a translator that runs
afterwards moves the source and nothing else. -/
namespace ExtensionBuild

namespace PkgConfig

/-- A pass starts from the state of its executor; what a journal has recorded so far is carried on
and not looked at. -/
theorem resolve_of_state (executor : Executor σ) (p : PkgConfig) (libraries : List String)
    (flags : Flags) {j k : Journal σ} (same : j.state = k.state) :
    let first := p.resolve executor libraries flags j
    let second := p.resolve executor libraries flags k
    first.1 = second.1 ∧ ∃ asked, first.2.exchanges = j.exchanges ++ asked ∧
      second.2.exchanges = k.exchanges ++ asked := by
  intro first second
  obtain ⟨result, exchanges, -⟩ := resolve_eq executor p libraries flags j
  obtain ⟨result', exchanges', -⟩ := resolve_eq executor p libraries flags k
  rw [← same] at result' exchanges'
  exact ⟨result.trans result'.symm, _, exchanges, exchanges'⟩

end PkgConfig

namespace Descriptor

theorem get_assemble (toggles : Toggles) (flags : Flags) (name : String) (stem : Path)
    (c : Category) : (assemble toggles flags name stem).flags.get c = flags.get c := by
  rw [assemble]
  split
  · exact Flags.get_define flags coverageMacro c
  · rfl

end Descriptor

namespace Build

section

variable (executor : Executor σ) (manifest : Manifest) (settings : Settings)

/-- The pass over the libraries of a manifest, behind the announcement of what the switches ask
for. -/
def pass (toggles : Toggles) : Session σ Resolution := do
  Session.note (announcement toggles manifest.extension.name)
  (PkgConfig.ofSettings settings.pkgConfig manifest.extension.pkgConfigFlag).resolve executor
    manifest.extension.libraries manifest.baseFlags

theorem pass_of_toggles (first second : Toggles) (j : Journal σ) :
    let found := pass executor manifest settings first j
    let again := pass executor manifest settings second j
    found.1 = again.1 ∧ found.2.exchanges = again.2.exchanges := by
  intro found again
  let p := PkgConfig.ofSettings settings.pkgConfig manifest.extension.pkgConfigFlag
  let noted (t : Toggles) : Journal σ :=
    (Session.note (announcement t manifest.extension.name) j).2
  have unread : (noted first).state = (noted second).state := rfl
  have unasked (t : Toggles) : (noted t).exchanges = j.exchanges := Session.exchanges_note _ j
  obtain ⟨result, asked, exchanges, exchanges'⟩ :=
    p.resolve_of_state executor manifest.extension.libraries manifest.baseFlags unread
  rw [unasked] at exchanges exchanges'
  exact ⟨result, exchanges.trans exchanges'.symm⟩

/-- Two descriptors of one extension that were resolved from one state, under whatever switches,
differ in their sources and in the coverage macro. -/
theorem resolve_of_toggles (first second : Toggles) (j : Journal σ) :
    let shown := resolve executor manifest settings first j
    let again := resolve executor manifest settings second j
    shown.2.exchanges = again.2.exchanges ∧
      shown.1.failure = again.1.failure ∧ shown.1.skipped = again.1.skipped ∧
      shown.1.descriptor.name = again.1.descriptor.name ∧
      ∀ c, shown.1.descriptor.flags.get c = again.1.descriptor.flags.get c := by
  intro shown again
  obtain ⟨found, exchanges⟩ := pass_of_toggles executor manifest settings first second j
  refine ⟨exchanges, congrArg Resolution.failure found, congrArg Resolution.skipped found, rfl, ?_⟩
  intro c
  have gathered (t : Toggles) : (resolve executor manifest settings t j).1.descriptor.flags.get c =
      (pass executor manifest settings t j).1.flags.get c := Descriptor.get_assemble ..
  rw [gathered, gathered, found]

end

section

variable {executor : Executor σ} {here : Surroundings} {settings : Settings} {toggles : Toggles}
  {options : BuildOptions} {asked : Outcome} {s : σ}

/-- Behind the questions about the libraries a build changes the source and the origin of what it
returns. -/
theorem Course.frame_of_ok {result : Except BuildError Outcome} {ran : List (Command × Answer)}
    (course : Course executor here settings toggles options asked s result ran)
    {outcome : Outcome} (ok : result = .ok outcome) :
    ∃ source origin, outcome =
      { asked with descriptor := { asked.descriptor with source, generatedFrom := origin } } := by
  cases course with
  | untranslated | passed | translated =>
    cases ok
    exact ⟨_, _, rfl⟩
  | unlocated | missing | unstarted | failed => cases ok

theorem Runs.mem_translatorCommand? {manifest : Manifest} {program : Path} {c : Command}
    {a : Answer}
    (runs : Runs executor here settings toggles options asked s program c a)
    (source : asked.descriptor.source =
      sourcePath manifest.sourceStem (.ofRegenerate toggles.regenerate)) :
    c ∈ translatorCommand? here manifest settings toggles options := by
  rw [translatorCommand?, if_pos runs.on, runs.located, runs.command, Translator.commandFor, source]
  rfl

end

/-- What is shown of an extension under some switches is what is built under others. The same
questions are put to the libraries, in the same order and with the same answers, and behind them a
build runs the translator at most. A build that succeeds has found the same flags and reports the
same failure; its descriptor differs in the source, the origin and the coverage macro alone. Under
the same switches a build that does not translate is the resolution. -/
theorem build_agrees_with_resolve (executor : Executor σ) (here : Surroundings)
    (manifest : Manifest) (settings : Settings) (first second : Toggles) (options : BuildOptions)
    (j : Journal σ) :
    let shown := resolve executor manifest settings first j
    let built := build executor here manifest settings second options j
    let coverage (t : Toggles) : List Define :=
      if t.regenerate = true ∧ t.coverage = true then [⟨"CYTHON_TRACE_NOGIL", some "1"⟩] else []
    (∃ n, shown.2.commands = j.commands ++ (queries manifest settings).take n) ∧
    (∃ ran, built.2.exchanges = shown.2.exchanges ++ ran ∧ ran.length ≤ 1 ∧
      ∀ r ∈ ran, r.1 ∈ translatorCommand? here manifest settings second options) ∧
    (∀ outcome, built.1 = .ok outcome →
      outcome.failure = shown.1.failure ∧ outcome.skipped = shown.1.skipped ∧
      outcome.descriptor.name = shown.1.descriptor.name ∧
      (∀ c, outcome.descriptor.flags.get c = shown.1.descriptor.flags.get c) ∧
      shown.1.descriptor.flags.macros = manifest.extension.macros ++ coverage first ∧
      outcome.descriptor.flags.macros = manifest.extension.macros ++ coverage second) ∧
    (first = second → (second.regenerate = false ∨ options.translate = false) →
      built = (.ok shown.1, shown.2)) := by
  intro shown built coverage
  let asked := resolve executor manifest settings second j
  obtain ⟨exchanges, failure, skipped, name, lists⟩ :=
    resolve_of_toggles executor manifest settings first second j
  obtain ⟨ran, course, issued⟩ := build_course executor here manifest settings second options j
  have traced (t : Toggles) : (if t.tracesLines then [Descriptor.coverageMacro] else []) =
      coverage t := by
    simp only [Toggles.tracesLines, Bool.and_eq_true]
    rfl
  have macros (t : Toggles) : (resolve executor manifest settings t j).1.descriptor.flags.macros =
      manifest.extension.macros ++ coverage t := by
    rw [(resolve_descriptor executor manifest settings t j).2.2.2, traced]
  refine ⟨resolve_commands executor manifest settings first j, ⟨ran, ?_, course.ran_iff.1, ?_⟩,
    ?_, ?_⟩
  · rw [exchanges]
    exact issued
  · rintro ⟨c, a⟩ member
    obtain ⟨program, runs⟩ := (course.ran_iff.2 c a).mp member
    exact runs.mem_translatorCommand? (resolve_descriptor executor manifest settings second j).2.1
  · intro outcome ok
    obtain ⟨source, origin, rfl⟩ := course.frame_of_ok ok
    exact ⟨failure.symm, skipped.symm, name.symm, fun c => (lists c).symm, macros first,
      macros second⟩
  · rintro rfl off
    apply build_untranslated executor here manifest settings first options j
    rcases off with off | off <;> simp [off]

end Build
end ExtensionBuild
