import ExtensionBuild.Proofs.Build

/-! Translating what was translated already. The source that a translation leaves behind is never
shown as one to be translated, not even where the old extension was cut from a path that ends in
slashes or dots; so a descriptor settles after one pass, and the passes change its source and its
origin and nothing else. -/
namespace ExtensionBuild

namespace SourceKind

theorem ofPath?_target (source : Path) : ofPath? (Translator.target source) ≠ some cython := by
  obtain ⟨dot, slash, long⟩ := extension_isProper c
  rcases source.extension_withExtension dot slash long with none | shown
  · rw [ofPath?, Translator.target, none]
    decide
  · rw [ofPath?, Translator.target, shown]
    decide

end SourceKind

namespace Translator

theorem needsTranslator_translated (d : Descriptor) : (translated d).needsTranslator = false :=
  beq_eq_false_iff_ne.mpr (SourceKind.ofPath?_target d.source)

/-- A descriptor without translatable source passes, and nothing happens. -/
theorem translate_idle (executor : Executor σ) (here : Surroundings) (program : Path)
    {d : Descriptor} (idle : d.needsTranslator = false) (directives : Directives) (j : Journal σ) :
    translate executor here program d directives j = (.ok d, j) := by
  unfold translate
  rw [idle]
  rfl

theorem needsTranslator_of_ok {executor : Executor σ} {here : Surroundings} {program : Path}
    {d : Descriptor} {directives : Directives} {j : Journal σ} {d' : Descriptor}
    (ok : (translate executor here program d directives j).1 = .ok d') :
    d'.needsTranslator = false := by
  obtain ⟨idle, rfl, -⟩ | ⟨-, rfl, -⟩ := translate_ok executor here program d directives j ok
  · exact idle
  · exact needsTranslator_translated d

/-- A successful translation keeps the name and the flags, and its result is settled: it passes any
later translation as it is, and nothing happens. If the source was no translatable one, that was
already so. Otherwise one command was run, and the result names the source as its origin. -/
theorem translate_settles (executor : Executor σ) (here : Surroundings) (program : Path)
    (d : Descriptor) (directives : Directives) (j : Journal σ) {d' : Descriptor}
    (ok : (translate executor here program d directives j).1 = .ok d') :
    let after := (translate executor here program d directives j).2
    d'.name = d.name ∧ d'.flags = d.flags ∧ d'.needsTranslator = false ∧
    (∀ {τ : Type} (executor' : Executor τ) (here' : Surroundings) (program' : Path)
      (directives' : Directives) (j' : Journal τ),
      translate executor' here' program' d' directives' j' = (.ok d', j')) ∧
    if d.kind? = some .cython then
      d'.generatedFrom = some d.source ∧ d'.source = d.source.withExtension ['c'] ∧
      after.commands = j.commands ++
        [command program d.source (d.source.withExtension ['c']) directives]
    else d' = d ∧ after.commands = j.commands := by
  intro after
  have settled := needsTranslator_of_ok ok
  have again {τ : Type} (executor' : Executor τ) (here' : Surroundings) (program' : Path)
      (directives' : Directives) (j' : Journal τ) :
      translate executor' here' program' d' directives' j' = (.ok d', j') :=
    translate_idle executor' here' program' settled directives' j'
  have needs : d.needsTranslator = true ↔ d.kind? = some .cython := beq_iff_eq
  obtain ⟨idle, same, issued⟩ | ⟨busy, same, issued⟩ :=
    translate_ok executor here program d directives j ok
  · have unmarked : d.kind? ≠ some .cython := fun marked =>
      Bool.false_ne_true (idle.symm.trans (needs.mpr marked))
    refine ⟨by rw [same], by rw [same], settled, again, ?_⟩
    rw [if_neg unmarked]
    exact ⟨same, issued⟩
  · subst same
    refine ⟨rfl, rfl, settled, again, ?_⟩
    rw [if_pos (needs.mp busy)]
    exact ⟨rfl, rfl, issued⟩

/-- A source whose name begins with two dots. Without its extension it would be the parent
directory, which takes no other one, and still the second pass leaves it alone. -/
theorem translate_settles_at_dots :
    let d : Descriptor :=
      ⟨"osd", Path.ofText "src/..pyx", none, .ofMacros [⟨"NDEBUG", none⟩]⟩
    let d' : Descriptor := { d with
      source := Path.ofText "src/..", generatedFrom := some (Path.ofText "src/..pyx") }
    let place (p : Place) : Option Entry :=
      if p.length < 2 then some .directory else some (.file [] false)
    let here : Surroundings := ⟨⟨[]⟩, Path.ofText "/", ⟨place⟩⟩
    let elsewhere : Surroundings := ⟨⟨[]⟩, Path.ofText "/", ⟨fun _ => none⟩⟩
    let executor : Executor Unit := .ofFunction fun _ => .ok ⟨some 0, "", ""⟩
    let refusing : Executor Unit := .ofFunction fun c => .error (.failed c.program "not found")
    let program := Path.ofText "cython"
    let first := translate executor here program d ⟨3, true, false⟩ (.start ())
    let second := translate refusing elsewhere program d' ⟨2, false, true⟩ first.2
    first.1 = .ok d' ∧ d.kind? = some .cython ∧ second = (.ok d', first.2) ∧
    second.2.commands.map Command.display = ["cython -X language_level=3 -X embedsignature=True " ++
      "-X linetrace=False src/..pyx -o src/.."] := by
  intro d d' place here elsewhere executor refusing program first second
  have ok : first.1 = .ok d' := by rfl
  have marked : d.kind? = some .cython := by decide
  obtain ⟨-, -, -, again, ran⟩ :=
    translate_settles executor here program d ⟨3, true, false⟩ (.start ()) ok
  rw [if_pos marked] at ran
  have passed : second = (.ok d', first.2) :=
    again refusing elsewhere program ⟨2, false, true⟩ first.2
  refine ⟨ok, marked, passed, ?_⟩
  rw [passed, ran.2.2]
  decide +kernel

end Translator
end ExtensionBuild
