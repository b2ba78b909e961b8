import ExtensionBuild.Proofs.Endings

/-! The macros of an extension from its manifest to its descriptor. Nothing on the way drops or
reorders one; the coverage macro comes behind them when both switches are on, which is exactly when
a translator that runs is told to trace lines. -/
namespace ExtensionBuild

theorem Directives.args_eq (d : Directives) :
    d.args = ["-X", s!"language_level={d.languageLevel.toNat}",
      "-X", s!"embedsignature={truth d.embedSignature}",
      "-X", if d.lineTrace then "linetrace=True" else "linetrace=False"] := by
  cases d with
  | mk level signature trace => cases trace <;> rfl

namespace Build

section

variable {executor : Executor σ} {here : Surroundings} {settings : Settings} {toggles : Toggles}
  {options : BuildOptions} {asked : Outcome} {s : σ}

/-- Translating changes the source of an extension and none of its flags. -/
theorem Course.flags_of_ok {result : Except BuildError Outcome} {ran : List (Command × Answer)}
    (course : Course executor here settings toggles options asked s result ran)
    {outcome : Outcome} (ok : result = .ok outcome) :
    outcome.descriptor.flags = asked.descriptor.flags := by
  cases course with
  | untranslated | passed | translated =>
    cases ok
    rfl
  | unlocated | missing | unstarted | failed => cases ok

theorem Runs.args {program : Path} {c : Command} {a : Answer}
    (runs : Runs executor here settings toggles options asked s program c a) :
    ∃ level signature input output, c.args = ["-X", level, "-X", signature,
      "-X", if toggles.tracesLines then "linetrace=True" else "linetrace=False",
      input, "-o", output] := by
  have traced : (Directives.ofSettings settings.translate toggles).lineTrace =
      toggles.tracesLines := by
    have on := runs.on
    rw [Bool.and_eq_true] at on
    rw [Toggles.tracesLines, on.1, Bool.true_and]
    rfl
  rw [runs.command, Translator.commandFor, Translator.command, Directives.args_eq, traced]
  exact ⟨_, _, _, _, rfl⟩

end

/-- The macros of the manifest are carried as they are, whatever is answered about the libraries.
The coverage macro follows them if and only if both switches are on, and a translator that runs
traces lines if and only if it does. -/
theorem build_macros (executor : Executor σ) (here : Surroundings) (manifest : Manifest)
    (settings : Settings) (toggles : Toggles) (options : BuildOptions) (j : Journal σ) :
    let asked := resolve executor manifest settings toggles j
    let done := build executor here manifest settings toggles options j
    let given := manifest.extension.macros
    let coverage : Define := ⟨"CYTHON_TRACE_NOGIL", some "1"⟩
    let carried := given ++
      (if toggles.regenerate = true ∧ toggles.coverage = true then [coverage] else [])
    asked.1.descriptor.flags.macros = carried ∧
    (∀ outcome, done.1 = .ok outcome → outcome.descriptor.flags.macros = carried) ∧
    ∃ n ran, done.2.commands = j.commands ++ (queries manifest settings).take n ++ ran ∧
      ran.length ≤ 1 ∧
      ∀ c ∈ ran, ∃ level signature trace input output,
        c.args = ["-X", level, "-X", signature, "-X", trace, input, "-o", output] ∧
        (trace = "linetrace=True" ↔
          asked.1.descriptor.flags.macros = given ++ [coverage]) ∧
        (trace = "linetrace=False" ↔ asked.1.descriptor.flags.macros = given) := by
  intro asked done given coverage carried
  obtain ⟨-, -, -, macros⟩ := resolve_descriptor executor manifest settings toggles j
  have both : (toggles.tracesLines = true) =
      (toggles.regenerate = true ∧ toggles.coverage = true) := by
    rw [Toggles.tracesLines, Bool.and_eq_true]
  have resolved : asked.1.descriptor.flags.macros = carried := by
    rw [macros]
    simp only [both]
    rfl
  obtain ⟨ran, course, exchanges⟩ :=
    build_course executor here manifest settings toggles options j
  obtain ⟨n, questions⟩ := resolve_commands executor manifest settings toggles j
  refine ⟨resolved, ?_, n, ran.map (·.1), ?_, ?_, ?_⟩
  · intro outcome ok
    rw [course.flags_of_ok ok, resolved]
  · rw [← questions, Journal.commands_eq, exchanges, List.map_append, ← Journal.commands_eq]
  · rw [List.length_map]
    exact course.ran_iff.1
  · intro c member
    obtain ⟨⟨c, a⟩, listed, rfl⟩ := List.mem_map.mp member
    obtain ⟨program, runs⟩ := (course.ran_iff.2 c a).mp listed
    obtain ⟨level, signature, input, output, args⟩ := runs.args
    refine ⟨level, signature, _, input, output, args, ?_⟩
    rw [macros]
    cases toggles.tracesLines <;> simp [given, coverage, Descriptor.coverageMacro]

end Build
end ExtensionBuild
