import ExtensionBuild.Proofs.Build

/-! When a build that makes its source anew really does. The kind of a source is read off its path,
so the last segment that the manifest writes decides: a stem that ends in a slash is passed on
untranslated, one that ends in a single dot is translated into a path of its own, and every other
becomes the file that a later build without the translator names. -/
namespace ExtensionBuild

theorem Manifest.tail_sourceStem (m : Manifest) :
    m.sourceStem.tail = (m.extension.source.getD (Path.ofText m.extension.name)).tail :=
  Path.tail_join _ _

namespace Build

/-- Between two lists of commands the libraries were asked about and then, once, the source was
translated into `output`, which the descriptor now names together with its origin. -/
def Regenerated (here : Surroundings) (manifest : Manifest) (settings : Settings)
    (toggles : Toggles) (before after : List Command) (d : Descriptor) (output : Path) : Prop :=
  let source := sourcePath manifest.sourceStem .cython
  ∃ program n, Translator.locate here settings.cython = .ok program ∧
    after = before ++ (queries manifest settings).take n ++
      [Translator.command program source output (.ofSettings settings.translate toggles)] ∧
    d.source = output ∧ d.generatedFrom = some source

variable (executor : Executor σ) (here : Surroundings) (manifest : Manifest) (settings : Settings)
  (toggles : Toggles) (options : BuildOptions) (j : Journal σ)

theorem build_regenerated (regenerate : toggles.regenerate = true)
    (translate : options.translate = true) {outcome : Outcome}
    (ok : (build executor here manifest settings toggles options j).1 = .ok outcome) :
    let source := sourcePath manifest.sourceStem .cython
    let after := (build executor here manifest settings toggles options j).2
    if manifest.sourceStem.tail = [] then
      (∃ n, after.commands = j.commands ++ (queries manifest settings).take n) ∧
        outcome.descriptor.source = source ∧ outcome.descriptor.generatedFrom = none
    else
      Regenerated here manifest settings toggles j.commands after.commands outcome.descriptor
        (Translator.target source) := by
  intro source after
  have both : (toggles.regenerate && options.translate) = true := by simp [regenerate, translate]
  obtain ⟨n, asked⟩ := resolve_commands executor manifest settings toggles j
  obtain ⟨-, resolved, origin, -⟩ := resolve_descriptor executor manifest settings toggles j
  rw [regenerate] at resolved
  have needs := needsTranslator_resolve executor manifest settings toggles j regenerate
  obtain ⟨program, located, passed | translated⟩ :=
    build_ok executor here manifest settings toggles options j both ok
  · obtain ⟨idle, same, issued⟩ := passed
    rw [needs] at idle
    rw [if_pos (by simpa using idle), same]
    exact ⟨⟨n, issued.trans asked⟩, resolved, origin⟩
  · obtain ⟨busy, same, issued⟩ := translated
    rw [needs] at busy
    rw [if_neg (by simpa using busy), same]
    rw [asked, Translator.commandFor, resolved] at issued
    rw [Translator.translated, resolved]
    exact ⟨program, n, located, issued, rfl, rfl⟩

/-- A build that is to regenerate and succeeds has made the file that belongs to the stem exactly
when the last segment of the source as written is neither empty nor a dot. An empty one leaves the
source untranslated; behind a dot the translation goes to the path that ends in two dots. -/
theorem build_regenerates_iff (regenerate : toggles.regenerate = true)
    (translate : options.translate = true) {outcome : Outcome}
    (ok : (build executor here manifest settings toggles options j).1 = .ok outcome) :
    let stem := manifest.sourceStem
    let last := (manifest.extension.source.getD (Path.ofText manifest.extension.name)).tail
    let after := (build executor here manifest settings toggles options j).2
    let regenerated :=
      Regenerated here manifest settings toggles j.commands after.commands outcome.descriptor
    (regenerated (sourcePath stem .c) ↔ last ≠ [] ∧ last ≠ ['.']) ∧
    (last = [] →
      (∃ n, after.commands = j.commands ++ (queries manifest settings).take n) ∧
      outcome.descriptor.source = sourcePath stem .cython ∧
      outcome.descriptor.generatedFrom = none) ∧
    (last = ['.'] → regenerated (stem.append ".")) := by
  intro stem last after regenerated
  have written : stem.tail = last := manifest.tail_sourceStem
  have ran := build_regenerated executor here manifest settings toggles options j regenerate translate
    ok
  have untranslated (empty : last = []) := (if_pos (written.trans empty)).mp ran
  have target (named : last ≠ []) : regenerated (Translator.target (sourcePath stem .cython)) :=
    (if_neg (written ▸ named)).mp ran
  have dotted (dot : last = ['.']) : regenerated (stem.append ".") := by
    have named : last ≠ [] := by simp [dot]
    have at_dot := target named
    rwa [target_sourcePath stem (written ▸ named), if_pos (written.trans dot)] at at_dot
  refine ⟨⟨?_, ?_⟩, untranslated, dotted⟩
  -- In both exceptions the descriptor names a source with another ending than the stem's.
  · rintro ⟨-, -, -, -, source, -⟩
    refine ⟨?_, ?_⟩
    · intro empty
      have other := (untranslated empty).2.1
      exact absurd (Path.append_inj (source.symm.trans other)) (by decide)
    · intro dot
      obtain ⟨-, -, -, -, other, -⟩ := dotted dot
      exact absurd (Path.append_inj (source.symm.trans other)) (by decide)
  · rintro ⟨named, undotted⟩
    have at_name := target named
    rwa [target_sourcePath stem (written ▸ named), if_neg (written ▸ undotted)] at at_name

/-- A source that is written with a slash at its end is accepted and never translated. -/
theorem build_regenerates_not_behind_slash :
    let content := "[extension]\nname = \"osd\"\nsource = \"src/\"\n"
    let manifest : Manifest := ⟨⟨"osd", some (Path.ofText "src/"), [], none, [], [], [], [], [], []⟩,
      Path.ofText "/work"⟩
    let place (p : Place) : Option Entry :=
      if p.length < 2 then some .directory else some (.file [] true)
    let here : Surroundings := ⟨⟨[]⟩, Path.ofText "/", ⟨place⟩⟩
    let settings : Settings := ⟨⟨none, some (Path.ofText "/bin/cython")⟩, .standard⟩
    let executor : Executor Unit := .ofFunction fun _ => .ok ⟨some 0, "", ""⟩
    let done := build executor here manifest settings ⟨true, false⟩ ⟨true⟩ (.start ())
    let outcome : Outcome :=
      ⟨⟨true, false⟩, ⟨"osd", Path.ofText "/work/src/.pyx", none, .empty⟩, none, []⟩
    (Manifest.parse content (Path.ofText "/work/Extconf.toml")).toOption = some manifest ∧
    done.1 = .ok outcome ∧
    ¬ Regenerated here manifest settings ⟨true, false⟩ [] done.2.commands outcome.descriptor
      (sourcePath manifest.sourceStem .c) := by
  intro content manifest place here settings executor done outcome
  have accepted : (Manifest.parse content (Path.ofText "/work/Extconf.toml")).toOption =
      some manifest := by decide +kernel
  have ok : done.1 = .ok outcome := by rfl
  refine ⟨accepted, ok, ?_⟩
  intro regenerated
  have named := (build_regenerates_iff executor here manifest settings _ _ _ rfl rfl ok).1.mp
    regenerated
  exact named.1 (by decide)

end Build
end ExtensionBuild
