import ExtensionBuild.Build
import ExtensionBuild.Proofs.Resolution
import ExtensionBuild.Proofs.SourcePath

/-! What a build runs and what it returns. The questions about the libraries come first and leave a
descriptor whose name, source and macros they do not decide; at most one more command follows, that
of the translator, and its answer alone decides between a result and a fault. -/
namespace ExtensionBuild

namespace Translator

def commandFor (program : Path) (d : Descriptor) (directives : Directives) : Command :=
  command program d.source (target d.source) directives

def translated (d : Descriptor) : Descriptor :=
  { d with source := target d.source, generatedFrom := some d.source }

theorem finish_of_succeeded (program : Path) (c : Command) (d : Descriptor) {a : Answer}
    (succeeded : Answer.succeeded a = true) : finish program c d a = .ok (translated d) := by
  cases a with
  | error e => simp [Answer.succeeded] at succeeded
  | ok o => exact if_pos succeeded

theorem finish_of_failed (program : Path) (c : Command) (d : Descriptor) {a : Answer}
    (failed : Answer.succeeded a = false) : ∃ e, finish program c d a = .error e := by
  cases a with
  | error e => exact ⟨_, rfl⟩
  | ok o =>
    rw [Answer.succeeded_ok] at failed
    exact ⟨_, if_neg (by simp [failed])⟩

theorem translate_eq (executor : Executor σ) (here : Surroundings) (program : Path)
    (d : Descriptor) (directives : Directives) (j : Journal σ) :
    let c := commandFor program d directives
    let a := (executor.step c j.state).1
    let after := (translate executor here program d directives j).2
    (translate executor here program d directives j).1 =
        (if ! d.needsTranslator then .ok d
          else if ! here.isFile d.source then .error (.missingSource d.source)
          else finish program c d a) ∧
      after.exchanges = j.exchanges ++
        (if d.needsTranslator && here.isFile d.source then [(c, a)] else []) := by
  unfold translate
  cases d.needsTranslator with
  | false => simp [Session.pure_apply]
  | true =>
    cases here.isFile d.source with
    | false => simp [Session.pure_apply]
    | true => simp [Session.bind_apply, Session.map_apply, Session.run_fst, commandFor]

theorem translate_ok (executor : Executor σ) (here : Surroundings) (program : Path)
    (d : Descriptor) (directives : Directives) (j : Journal σ) {d' : Descriptor}
    (ok : (translate executor here program d directives j).1 = .ok d') :
    let after := (translate executor here program d directives j).2
    (d.needsTranslator = false ∧ d' = d ∧ after.commands = j.commands) ∨
      (d.needsTranslator = true ∧ d' = translated d ∧
        after.commands = j.commands ++ [commandFor program d directives]) := by
  obtain ⟨result, exchanges⟩ := translate_eq executor here program d directives j
  rw [result] at ok
  simp only [Journal.commands_eq, exchanges]
  cases needs : d.needsTranslator with
  | false =>
    rw [needs] at ok
    injection ok with same
    exact .inl ⟨rfl, same.symm, by simp⟩
  | true =>
    rw [needs] at ok
    cases present : here.isFile d.source with
    | false => simp [present] at ok
    | true =>
      cases answered : Answer.succeeded (executor.step (commandFor program d directives) j.state).1 with
      | false =>
        obtain ⟨e, fault⟩ := finish_of_failed program (commandFor program d directives) d answered
        simp [present, fault] at ok
      | true =>
        rw [finish_of_succeeded _ _ _ answered] at ok
        have same : translated d = d' := by simpa [present] using ok
        exact .inr ⟨rfl, same.symm, by simp⟩

end Translator

namespace Build

/-- The commands that ask about the libraries of a manifest, if every one of them succeeds. -/
def queries (manifest : Manifest) (settings : Settings) : List Command :=
  (Question.all manifest.extension.libraries).map
    (PkgConfig.ofSettings settings.pkgConfig manifest.extension.pkgConfigFlag).ask

/-- What the questions leave of an extension: all of its descriptor but the flags is settled without
the answers, and so are the macros. -/
theorem resolve_descriptor (executor : Executor σ) (manifest : Manifest) (settings : Settings)
    (toggles : Toggles) (j : Journal σ) :
    let d := (resolve executor manifest settings toggles j).1.descriptor
    d.name = manifest.extension.name ∧
      d.source = sourcePath manifest.sourceStem (.ofRegenerate toggles.regenerate) ∧
      d.generatedFrom = none ∧
      d.flags.macros = manifest.extension.macros ++
        (if toggles.tracesLines then [Descriptor.coverageMacro] else []) := by
  have kept (start : Journal σ) :
      ((PkgConfig.ofSettings settings.pkgConfig manifest.extension.pkgConfigFlag).resolve executor
        manifest.extension.libraries manifest.baseFlags start).1.flags.macros =
          manifest.extension.macros := by
    rw [PkgConfig.resolve_flags, Flags.macros_gather]
    rfl
  refine ⟨rfl, rfl, rfl, ?_⟩
  change (if toggles.tracesLines then Flags.define _ _ else _).macros = _
  split
  · rw [Flags.macros_define]
    exact congrArg (· ++ [Descriptor.coverageMacro]) (kept _)
  · rw [List.append_nil]
    exact kept _

variable (executor : Executor σ) (here : Surroundings) (manifest : Manifest) (settings : Settings)
  (toggles : Toggles) (options : BuildOptions) (j : Journal σ)

theorem resolve_commands :
    ∃ n, (resolve executor manifest settings toggles j).2.commands =
      j.commands ++ (queries manifest settings).take n := by
  have asked := PkgConfig.resolve_commands executor
    (PkgConfig.ofSettings settings.pkgConfig manifest.extension.pkgConfigFlag)
    manifest.extension.libraries manifest.baseFlags
    (Session.note (announcement toggles manifest.extension.name) j).2
  rw [Session.commands_note] at asked
  exact ⟨_, asked⟩

theorem build_untranslated (off : (toggles.regenerate && options.translate) = false) :
    build executor here manifest settings toggles options j =
      (.ok (resolve executor manifest settings toggles j).1,
        (resolve executor manifest settings toggles j).2) := by
  simp only [build, Session.bind_apply, off]
  rfl

theorem build_unlocated (both : (toggles.regenerate && options.translate) = true) {e : BuildError}
    (unlocated : Translator.locate here settings.cython = .error e) :
    build executor here manifest settings toggles options j =
      (.error e, (resolve executor manifest settings toggles j).2) := by
  simp only [build, Session.bind_apply, both, unlocated]
  rfl

theorem build_located (both : (toggles.regenerate && options.translate) = true) {program : Path}
    (located : Translator.locate here settings.cython = .ok program) :
    build executor here manifest settings toggles options j =
      let asked := resolve executor manifest settings toggles j
      let translation := Translator.translate executor here program asked.1.descriptor
        (.ofSettings settings.translate toggles) asked.2
      (translation.1.map fun descriptor => { asked.1 with descriptor }, translation.2) := by
  simp only [build, Session.bind_apply, both, located, if_true]
  cases (Translator.translate executor here program
      (resolve executor manifest settings toggles j).1.descriptor
      (.ofSettings settings.translate toggles)
      (resolve executor manifest settings toggles j).2).1 with
  | error e => rfl
  | ok d => rfl

/-- A build that was to translate and succeeds has found the translator, and its descriptor is the
resolved one, passed on or translated. -/
theorem build_ok (both : (toggles.regenerate && options.translate) = true) {outcome : Outcome}
    (ok : (build executor here manifest settings toggles options j).1 = .ok outcome) :
    let asked := resolve executor manifest settings toggles j
    let after := (build executor here manifest settings toggles options j).2
    ∃ program, Translator.locate here settings.cython = .ok program ∧
      ((asked.1.descriptor.needsTranslator = false ∧ outcome.descriptor = asked.1.descriptor ∧
          after.commands = asked.2.commands) ∨
        (asked.1.descriptor.needsTranslator = true ∧
          outcome.descriptor = Translator.translated asked.1.descriptor ∧
          after.commands = asked.2.commands ++ [Translator.commandFor program
            asked.1.descriptor (.ofSettings settings.translate toggles)])) := by
  intro asked after
  cases located : Translator.locate here settings.cython with
  | error e =>
    rw [build_unlocated executor here manifest settings toggles options j both located] at ok
    injection ok
  | ok program =>
    have whole := build_located executor here manifest settings toggles options j both located
    have left : (Translator.translate executor here program asked.1.descriptor
        (.ofSettings settings.translate toggles) asked.2).1.map
          (fun descriptor => { asked.1 with descriptor }) = .ok outcome := by
      rw [whole] at ok
      exact ok
    refine ⟨program, rfl, ?_⟩
    rw [show after = _ from congrArg Prod.snd whole]
    cases translated : (Translator.translate executor here program asked.1.descriptor
        (.ofSettings settings.translate toggles) asked.2).1 with
    | error e =>
      rw [translated] at left
      injection left
    | ok d =>
      rw [translated] at left
      injection left with same
      rw [← same]
      exact Translator.translate_ok executor here program asked.1.descriptor _ asked.2 translated

theorem needsTranslator_resolve (regenerate : toggles.regenerate = true) :
    (resolve executor manifest settings toggles j).1.descriptor.needsTranslator =
      (manifest.sourceStem.tail != []) := by
  have source := (resolve_descriptor executor manifest settings toggles j).2.1
  rw [regenerate] at source
  rw [Descriptor.needsTranslator, Descriptor.kind?, source, SourceKind.ofRegenerate, if_pos rfl,
    ofPath?_sourcePath]
  split <;> simp_all

end Build
end ExtensionBuild
