import ExtensionBuild.Proofs.Build

/-! What the answers about the libraries can change. Two runs whose executors agree on the command
of the translator end alike: both with the same fault, or both with descriptors that differ in
nothing but the flags. -/
namespace ExtensionBuild

namespace Descriptor

/-- All of a descriptor that the answers about the libraries do not decide. -/
def outline (d : Descriptor) : String × Path × Option Path × List Define :=
  (d.name, d.source, d.generatedFrom, d.flags.macros)

theorem outline_translated {d e : Descriptor} (same : d.outline = e.outline) :
    (Translator.translated d).outline = (Translator.translated e).outline := by
  simp only [outline, Translator.translated, Prod.mk.injEq] at same ⊢
  obtain ⟨name, source, -, macros⟩ := same
  exact ⟨name, by rw [source], by rw [source], macros⟩

end Descriptor

namespace Translator

theorem finish_outline (program : Path) (c : Command) {d e : Descriptor} (a : Answer)
    (same : d.outline = e.outline) :
    (finish program c d a).map Descriptor.outline =
      (finish program c e a).map Descriptor.outline := by
  cases a with
  | error fault => rfl
  | ok o =>
    simp only [finish]
    split
    · exact congrArg Except.ok (Descriptor.outline_translated same)
    · rfl

theorem translate_outline (first : Executor σ) (second : Executor τ) (here : Surroundings)
    (program : Path) {d e : Descriptor} (directives : Directives) (j : Journal σ) (k : Journal τ)
    (same : d.outline = e.outline)
    (agree : (first.step (commandFor program d directives) j.state).1 =
      (second.step (commandFor program d directives) k.state).1) :
    (translate first here program d directives j).1.map Descriptor.outline =
      (translate second here program e directives k).1.map Descriptor.outline := by
  have source : d.source = e.source := congrArg (·.2.1) same
  have issued : commandFor program d directives = commandFor program e directives := by
    rw [commandFor, commandFor, source]
  have needs : d.needsTranslator = e.needsTranslator := by
    rw [Descriptor.needsTranslator, Descriptor.needsTranslator, Descriptor.kind?, Descriptor.kind?,
      source]
  rw [(translate_eq first here program d directives j).1,
    (translate_eq second here program e directives k).1, agree, issued, needs, source]
  cases e.needsTranslator with
  | false => exact congrArg Except.ok same
  | true =>
    cases here.isFile e.source with
    | false => rfl
    | true => exact finish_outline program _ _ same

end Translator

namespace Build

/-- The command with which a build translates, if it is to translate and finds a translator. -/
def translatorCommand? (here : Surroundings) (manifest : Manifest) (settings : Settings)
    (toggles : Toggles) (options : BuildOptions) : Option Command :=
  if toggles.regenerate && options.translate then
    (Translator.locate here settings.cython).toOption.map fun program =>
      let source := sourcePath manifest.sourceStem (.ofRegenerate toggles.regenerate)
      Translator.command program source (Translator.target source)
        (.ofSettings settings.translate toggles)
  else none

theorem resolve_outline (first : Executor σ) (second : Executor τ) (manifest : Manifest)
    (settings : Settings) (toggles : Toggles) (j : Journal σ) (k : Journal τ) :
    (resolve first manifest settings toggles j).1.descriptor.outline =
      (resolve second manifest settings toggles k).1.descriptor.outline := by
  obtain ⟨name, source, origin, macros⟩ := resolve_descriptor first manifest settings toggles j
  obtain ⟨name', source', origin', macros'⟩ := resolve_descriptor second manifest settings toggles k
  simp only [Descriptor.outline, name, source, origin, macros, name', source', origin', macros']

theorem build_outline_located (executor : Executor σ) (here : Surroundings) (manifest : Manifest)
    (settings : Settings) (toggles : Toggles) (options : BuildOptions) (j : Journal σ)
    (both : (toggles.regenerate && options.translate) = true) {program : Path}
    (located : Translator.locate here settings.cython = .ok program) :
    (build executor here manifest settings toggles options j).1.map (·.descriptor.outline) =
      (Translator.translate executor here program
        (resolve executor manifest settings toggles j).1.descriptor
        (.ofSettings settings.translate toggles)
        (resolve executor manifest settings toggles j).2).1.map Descriptor.outline := by
  rw [build_located executor here manifest settings toggles options j both located]
  dsimp only
  cases (Translator.translate executor here program
      (resolve executor manifest settings toggles j).1.descriptor
      (.ofSettings settings.translate toggles)
      (resolve executor manifest settings toggles j).2).1 with
  | error e => rfl
  | ok d => rfl

/-- The answers about the libraries never turn a build into a fault or a fault into a build, and
they decide nothing of its descriptor but the flags. -/
theorem build_outline_of_agree (first : Executor σ) (second : Executor τ) (here : Surroundings)
    (manifest : Manifest) (settings : Settings) (toggles : Toggles) (options : BuildOptions)
    (j : Journal σ) (k : Journal τ)
    (agree : ∀ c ∈ translatorCommand? here manifest settings toggles options,
      ∀ s t, (first.step c s).1 = (second.step c t).1) :
    (build first here manifest settings toggles options j).1.map (·.descriptor.outline) =
      (build second here manifest settings toggles options k).1.map (·.descriptor.outline) := by
  have resolved := resolve_outline first second manifest settings toggles j k
  by_cases both : (toggles.regenerate && options.translate) = true
  · cases located : Translator.locate here settings.cython with
    | error e =>
      rw [build_unlocated first here manifest settings toggles options j both located,
        build_unlocated second here manifest settings toggles options k both located]
    | ok program =>
      have source := (resolve_descriptor first manifest settings toggles j).2.1
      have issued : Translator.commandFor program
          (resolve first manifest settings toggles j).1.descriptor
          (.ofSettings settings.translate toggles) ∈
            translatorCommand? here manifest settings toggles options := by
        rw [translatorCommand?, if_pos both, located, Translator.commandFor, source]
        exact rfl
      rw [build_outline_located first here manifest settings toggles options j both located,
        build_outline_located second here manifest settings toggles options k both located]
      exact Translator.translate_outline first second here program _ _ _ resolved
        (agree _ issued _ _)
  · have off : (toggles.regenerate && options.translate) = false := by simpa using both
    rw [build_untranslated first here manifest settings toggles options j off,
      build_untranslated second here manifest settings toggles options k off]
    exact congrArg Except.ok resolved

/-- A library tool that cannot be started leaves the outline that a silent one leaves. -/
theorem build_outline_without_library_tool :
    let place (p : Place) : Option Entry :=
      if p.length < 2 then some .directory else some (.file [] true)
    let here : Surroundings := ⟨⟨[]⟩, Path.ofText "/", ⟨place⟩⟩
    let manifest : Manifest :=
      ⟨⟨"osd", none, ["zlib"], none, [], [], [], [], [], []⟩, Path.ofText "/work"⟩
    let settings : Settings := ⟨⟨none, some (Path.ofText "/bin/cython")⟩, .standard⟩
    let silent : Executor Unit := .ofFunction fun _ => .ok ⟨some 0, "", ""⟩
    let refusing : Executor Unit := .ofFunction fun c =>
      if c.program = settings.pkgConfig then .error (.failed c.program "not found")
      else .ok ⟨some 0, "", ""⟩
    (∀ c ∈ translatorCommand? here manifest settings ⟨true, true⟩ ⟨true⟩,
      ∀ s t, (silent.step c s).1 = (refusing.step c t).1) ∧
    (build silent here manifest settings ⟨true, true⟩ ⟨true⟩ (.start ())).1.map
        (·.descriptor.outline) =
      (build refusing here manifest settings ⟨true, true⟩ ⟨true⟩ (.start ())).1.map
        (·.descriptor.outline) := by
  intro place here manifest settings silent refusing
  have issued : (translatorCommand? here manifest settings ⟨true, true⟩ ⟨true⟩).map (·.program) =
      some (Path.ofText "/bin/cython") := by decide +kernel
  have agree : ∀ c ∈ translatorCommand? here manifest settings ⟨true, true⟩ ⟨true⟩,
      ∀ s t, (silent.step c s).1 = (refusing.step c t).1 := by
    intro c member s t
    rw [Option.mem_def.mp member] at issued
    have program : c.program = Path.ofText "/bin/cython" := by simpa using issued
    have other : c.program ≠ settings.pkgConfig := by
      rw [program]
      decide
    exact (if_neg other).symm
  exact ⟨agree, build_outline_of_agree silent refusing here manifest settings _ _ _ _ agree⟩

end Build
end ExtensionBuild
