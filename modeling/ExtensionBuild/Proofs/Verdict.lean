import ExtensionBuild.Proofs.Endings
import ExtensionBuild.Proofs.Examination

/-! The verdict of an examination beside the build that it speaks of. A translator that is required
and not found ends the build as the verdict says. Libraries whose tool gives no version do not: the
build goes on without their flags. -/
namespace ExtensionBuild

namespace Doctor

theorem isSound_eq_false_iff (options : Options) (first : Answer) (located : Option Path) :
    isSound options first located = false ↔
      (options.libraries ≠ [] ∧ Answer.succeeded first = false) ∨
        (options.toggles.regenerate = true ∧ located = none) := by
  rw [isSound, Bool.and_eq_false_iff, Bool.or_eq_false_iff, Bool.or_eq_false_iff,
    List.isEmpty_eq_false_iff, Bool.not_eq_false', Option.isSome_eq_false_iff,
    Option.isNone_iff_eq_none]

/-- What an examination condemns: libraries whose tool gives no version, and a source that is to be
made anew without a translator. -/
theorem requiredFailedCount_examine_pos_iff (executor : Executor σ) (here : Surroundings)
    (options : Options) (j : Journal σ) :
    0 < (examine executor here options j).1.requiredFailedCount ↔
      (options.libraries ≠ [] ∧
        Answer.succeeded (executor.step ⟨options.pkgConfig, ["--version"]⟩ j.state).1 = false) ∨
      (options.toggles.regenerate = true ∧
        ∀ program, Translator.locate here options.cython ≠ .ok program) := by
  have unlocated : (Translator.locate here options.cython).toOption = none ↔
      ∀ program, Translator.locate here options.cython ≠ .ok program := by
    cases Translator.locate here options.cython <;> simp [Except.toOption]
  rw [Nat.pos_iff_ne_zero, Ne, Report.requiredFailedCount_eq_zero_iff, Bool.not_eq_true,
    allRequiredPassed_examine, isSound_eq_false_iff, unlocated]

end Doctor

namespace Build

theorem Course.error_iff {executor : Executor σ} {here : Surroundings} {settings : Settings}
    {toggles : Toggles} {options : BuildOptions} {asked : Outcome} {s : σ}
    {result : Except BuildError Outcome} {ran : List (Command × Answer)}
    (course : Course executor here settings toggles options asked s result ran) :
    (∃ e, result = .error e) ↔
      (toggles.regenerate && options.translate) = true ∧
      ∀ program, Translator.locate here settings.cython = .ok program →
        SourceKind.ofPath? asked.descriptor.source = some .cython ∧
        ∀ c o, Runs executor here settings toggles options asked s program c (.ok o) →
          o.code ≠ some 0 := by
  cases course <;> grind [Runs]

section

variable (answer : Command → Answer) (here : Surroundings) (manifest : Manifest)
  (settings : Settings) (toggles : Toggles)

/-- The translator at `program` is to translate the source of a manifest and does not: the source is
missing, or the answer is no success. -/
def TranslationFails (program : Path) : Prop :=
  let source := sourcePath manifest.sourceStem (.ofRegenerate toggles.regenerate)
  let c := Translator.command program source (Translator.target source)
    (.ofSettings settings.translate toggles)
  SourceKind.ofPath? source = some .cython ∧
    (here.isFile source = true → Answer.succeeded (answer c) = false)

variable {answer} {executor : Executor σ} (alone : ∀ c s, (executor.step c s).1 = answer c)

include alone

theorem build_error_iff (options : BuildOptions) (j : Journal σ) :
    (∃ e, (build executor here manifest settings toggles options j).1 = .error e) ↔
      (toggles.regenerate && options.translate) = true ∧
      ∀ program, Translator.locate here settings.cython = .ok program →
        TranslationFails answer here manifest settings toggles program := by
  obtain ⟨ran, course, -⟩ := build_course executor here manifest settings toggles options j
  have source := (resolve_descriptor executor manifest settings toggles j).2.1
  rw [course.error_iff]
  refine and_congr_right fun on => forall_congr' fun program => imp_congr_right fun located => ?_
  rw [TranslationFails, ← source]
  refine and_congr_right fun cython => ?_
  constructor
  · intro unfinished present
    cases reply : answer _ with
    | error fault => rfl
    | ok o =>
      have code := unfinished _ o ⟨on, located, cython, present, rfl, (alone _ _ ▸ reply).symm⟩
      simpa [Answer.succeeded] using code
  · rintro unfinished c o runs code
    have failed := unfinished runs.present
    rw [← Translator.commandFor, ← runs.command, ← alone c, ← runs.answer] at failed
    simp [Answer.succeeded, code] at failed

end

/-- A build fails as an examination of its surroundings foretells whenever the translator is what is
missing. Where the library tool gives no version it fails for another reason or not at all: the tool
is required by the one and dispensable to the other. -/
theorem build_fails_as_foretold_iff (executor : Executor σ) (answer : Command → Answer)
    (alone : ∀ c s, (executor.step c s).1 = answer c) (here : Surroundings) (manifest : Manifest)
    (settings : Settings) (toggles : Toggles) (j k : Journal σ) :
    let libraries := manifest.extension.libraries
    let options : Doctor.Options := ⟨toggles, settings.pkgConfig, settings.cython, libraries⟩
    let condemned := 0 < (Doctor.examine executor here options j).1.requiredFailedCount
    let built := (build executor here manifest settings toggles ⟨true⟩ k).1
    let answered := Answer.succeeded (answer ⟨settings.pkgConfig, ["--version"]⟩)
    let located := Translator.locate here settings.cython
    let unlocated := toggles.regenerate = true ∧ ∀ program, located ≠ .ok program
    (condemned ↔ (libraries ≠ [] ∧ answered = false) ∨ unlocated) ∧
    (unlocated → built = .error (.unavailable settings.cython)) ∧
    ((condemned → ∃ e, built = .error e) ↔
      libraries = [] ∨ answered = true ∨
      (toggles.regenerate = true ∧ ∀ program, located = .ok program →
        TranslationFails answer here manifest settings toggles program)) := by
  intro libraries options condemned built answered located unlocated
  have foretold : condemned ↔ (libraries ≠ [] ∧ answered = false) ∨ unlocated := by
    have counted := Doctor.requiredFailedCount_examine_pos_iff executor here options j
    rwa [alone] at counted
  have fails := build_error_iff here manifest settings toggles alone ⟨true⟩ k
  rw [Bool.and_true] at fails
  refine ⟨foretold, ?_, ?_⟩
  · rintro ⟨regenerate, absent⟩
    obtain ⟨ran, course, -⟩ := build_course executor here manifest settings toggles ⟨true⟩ k
    exact (course.unavailable_iff settings.cython).mpr
      (.inl ⟨by rw [regenerate]; rfl, absent, rfl⟩)
  · rw [foretold, fails]
    constructor
    · intro agree
      by_cases empty : libraries = []
      · exact .inl empty
      · cases version : answered with
        | true => exact .inr (.inl rfl)
        | false => exact .inr (.inr (agree (.inl ⟨empty, version⟩)))
    · rintro spared (⟨listed, silent⟩ | ⟨regenerate, absent⟩)
      · rcases spared with empty | version | failing
        · exact absurd empty listed
        · rw [silent] at version
          cases version
        · exact failing
      · exact ⟨regenerate, fun program found => absurd found (absent program)⟩

/-- Without pkg-config the libraries of a manifest are condemned and the build succeeds. -/
theorem build_succeeds_without_library_tool :
    let content := "[extension]\nname = \"osd\"\nlibraries = [\"osd\"]\n"
    let manifest : Manifest := ⟨⟨"osd", none, ["osd"], none, [], [], [], [], [], []⟩,
      Path.ofText "/work"⟩
    let here : Surroundings := ⟨⟨[]⟩, Path.ofText "/work", ⟨fun _ => none⟩⟩
    let settings : Settings := .standard
    let answer (c : Command) : Answer := .error (.failed c.program "not found")
    let executor : Executor Unit := .ofFunction answer
    let report := (Doctor.examine executor here
      ⟨.off, settings.pkgConfig, settings.cython, ["osd"]⟩ (.start ())).1
    let built := (build executor here manifest settings .off ⟨true⟩ (.start ())).1
    (∀ c s, (executor.step c s).1 = answer c) ∧
    (Manifest.parse content (Path.ofText "/work/Extconf.toml")).toOption = some manifest ∧
    report.verdict = "Warning: 1 required check(s) failed. The build will not work." ∧
    (∃ outcome, built = .ok outcome ∧ outcome.failure.map (·.library) = some "osd") ∧
    ¬ (0 < report.requiredFailedCount → ∃ e, built = .error e) := by
  intro content manifest here settings answer executor report built
  have alone : ∀ c s, (executor.step c s).1 = answer c := fun _ _ => rfl
  have accepted : (Manifest.parse content (Path.ofText "/work/Extconf.toml")).toOption =
      some manifest := by decide +kernel
  have verdict : report.verdict =
      "Warning: 1 required check(s) failed. The build will not work." := by decide +kernel
  refine ⟨alone, accepted, verdict, ⟨_, rfl, rfl⟩, ?_⟩
  intro foretold
  have spared := (build_fails_as_foretold_iff executor answer alone here manifest settings .off
    (.start ()) (.start ())).2.2.mp foretold
  rcases spared with empty | version | ⟨regenerate, -⟩
  · cases empty
  · cases version
  · cases regenerate

end Build
end ExtensionBuild
