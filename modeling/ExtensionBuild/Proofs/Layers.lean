import ExtensionBuild.Settings

/-! Settings in layers. A file that does not load lays the standard settings over the others: that
leaves the programs as they are, but it resets the translate section when the file is a document
with a key of that name. -/
namespace ExtensionBuild

theorem Surroundings.isPresent_of_read {here : Surroundings} {path : Path} {content : String}
    (readable : here.read path = .ok content) : here.isPresent path = true := by
  unfold Surroundings.read FileTree.read at readable
  unfold Surroundings.isPresent FileTree.isPresent
  cases found : here.files.lookup here.cwd path with
  | error fault =>
    rw [found] at readable
    injection readable
  | ok entry => rfl

namespace Settings

theorem hasTranslate_iff (here : Surroundings) (path : Path) :
    hasTranslate here path = true ↔ ∃ content entries, here.read path = .ok content ∧
      Toml.read content = some entries ∧ Toml.entryMomentsAreSound entries = true ∧
      translateKey ∈ entries.map (·.1) := by
  unfold hasTranslate
  cases read : here.read path with
  | error fault => simp
  | ok content =>
    unfold Toml.hasKey
    cases parsed : Toml.read content with
    | none => simp [parsed]
    | some entries => simp [parsed]

theorem hasTranslate_of_refused {here : Surroundings} {path : Path} {e : Error}
    (refused : load here path = .error e)
    (unschematic : ∀ offence, e ≠ .invalid path (.mismatched offence)) :
    hasTranslate here path = false := by
  cases opened : hasTranslate here path with
  | false => rfl
  | true =>
    obtain ⟨content, entries, readable, parsed, -⟩ := (hasTranslate_iff here path).mp opened
    simp only [load, readable, parse, Toml.decode, parsed] at refused
    cases decoded : decode (.table entries) with
    | ok settings =>
      rw [decoded] at refused
      cases refused
    | error offence =>
      rw [decoded] at refused
      injection refused with same
      exact absurd same.symm (unschematic offence)

theorem merge_standard (s : Settings) (replaces : Bool) :
    s.merge standard replaces = if replaces then { s with translate := .standard } else s := by
  cases replaces <;> simp [merge, standard, Tools.none]

theorem layer_of_absent {here : Surroundings} {path : Path} (s : Settings)
    (absent : here.isPresent path = false) : (layer here s path).1 = s := by
  simp [layer, absent]

/-- A file that is refused changes nothing but the translate section, and that only if it has one of
its own. -/
theorem layer_of_refused {here : Surroundings} {path : Path} {e : Error} (s : Settings)
    (refused : load here path = .error e) :
    (layer here s path).1 =
      if hasTranslate here path then { s with translate := .standard } else s := by
  by_cases present : here.isPresent path = true
  · have fallback : (loadOrStandard here path).1 = standard := by
      simp [loadOrStandard, present, refused]
    rw [layer, if_pos present, ← merge_standard, ← fallback]
  · have closed : ¬ hasTranslate here path = true := by
      intro opened
      obtain ⟨content, _, readable, -⟩ := (hasTranslate_iff here path).mp opened
      exact present (Surroundings.isPresent_of_read readable)
    rw [layer_of_absent s (by simpa using present), if_neg closed]

theorem ofFiles_fst (here : Surroundings) (global : Option Path) (project : Path) :
    (ofFiles here global project).1 =
      (layer here ((global.map fun path => (layer here standard path).1).getD standard)
        project).1 := by
  cases global <;> rfl

/-- Surroundings in which both files read alike give the same settings and the same warnings. -/
theorem ofFiles_congr {here there : Surroundings} {global : Option Path} {project : Path}
    (same : ∀ path, path ∈ global ∨ path = project →
      there.read path = here.read path ∧ there.isPresent path = here.isPresent path) :
    ofFiles there global project = ofFiles here global project := by
  have alike (s : Settings) {path : Path} (asked : path ∈ global ∨ path = project) :
      layer there s path = layer here s path := by
    obtain ⟨read, present⟩ := same path asked
    simp only [layer, loadOrStandard, load, hasTranslate, read, present]
  cases global with
  | none => simp [ofFiles, alike _ (.inr rfl)]
  | some user => simp [ofFiles, alike _ (.inl rfl), alike _ (.inr rfl)]

/-- A file that does not load contributes nothing as the user's file. As the project's file it keeps
the programs and resets the translate section of the other layers exactly when it has one, which
takes a document that offends against the schema. -/
theorem ofFiles_of_refused (here : Surroundings) {path : Path} {e : Error}
    (refused : load here path = .error e) :
    (∀ project, (ofFiles here (some path) project).1 = (ofFiles here none project).1) ∧
    (∀ global missing, here.isPresent missing = false →
      let without := (ofFiles here global missing).1
      (ofFiles here global path).1 =
          (if hasTranslate here path then { without with translate := .standard } else without) ∧
        ((ofFiles here global path).1 = without ↔
          hasTranslate here path = false ∨ without.translate = .standard)) ∧
    ((∀ offence, e ≠ .invalid path (.mismatched offence)) → hasTranslate here path = false) := by
  refine ⟨?_, ?_, hasTranslate_of_refused refused⟩
  · intro project
    have lower : (layer here standard path).1 = standard := by
      rw [layer_of_refused standard refused]
      split <;> rfl
    rw [ofFiles_fst, ofFiles_fst, Option.map_some, Option.getD_some, lower]
    rfl
  · intro global missing absent without
    have below : without = (global.map fun path => (layer here standard path).1).getD standard := by
      rw [← layer_of_absent ((global.map _).getD standard) absent, ← ofFiles_fst]
    have whole : (ofFiles here global path).1 =
        if hasTranslate here path then { without with translate := .standard } else without := by
      rw [ofFiles_fst, layer_of_refused _ refused, ← below]
    refine ⟨whole, ?_⟩
    rw [whole]
    cases hasTranslate here path with
    | false => simp
    | true =>
      rw [if_pos rfl]
      constructor
      · intro same
        exact .inr (congrArg Settings.translate same).symm
      · rintro (off | standing)
        · exact absurd off (by decide)
        · rw [← standing]

/-- A project's file that offends against the schema undoes the language level of the user's. -/
theorem ofFiles_of_offending_project :
    let bytes (s : String) : List UInt8 := s.toList.map fun c => c.toNat.toUInt8
    let place : Place → Option Entry
      | [] => some .directory
      | [['u']] => some (.file (bytes "[translate]\nlanguage-level = 2\n") false)
      | [['p']] => some (.file (bytes "tools = 3\n[translate]\nlanguage-level = 2\n") false)
      | _ => none
    let here : Surroundings := ⟨⟨[]⟩, Path.ofText "/", ⟨place⟩⟩
    (load here (Path.ofText "p")).toOption = none ∧
    here.isPresent (Path.ofText "missing") = false ∧
    (ofFiles here (some (Path.ofText "u")) (Path.ofText "p")).1 ≠
      (ofFiles here (some (Path.ofText "u")) (Path.ofText "missing")).1 := by
  intro bytes place here
  have failed : (load here (Path.ofText "p")).toOption = none := by decide +kernel
  have absent : here.isPresent (Path.ofText "missing") = false := by decide +kernel
  have opened : hasTranslate here (Path.ofText "p") = true := by decide +kernel
  have level : (ofFiles here (some (Path.ofText "u")) (Path.ofText "missing")).1 =
      ⟨.none, ⟨2, true⟩⟩ := by decide +kernel
  refine ⟨failed, absent, ?_⟩
  cases refused : load here (Path.ofText "p") with
  | ok settings => simp [refused, Except.toOption] at failed
  | error e =>
    intro same
    have split := ((ofFiles_of_refused here refused).2.1 _ _ absent).2.mp same
    rw [opened, level] at split
    revert split
    decide

end Settings
end ExtensionBuild
