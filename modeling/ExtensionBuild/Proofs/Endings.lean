import ExtensionBuild.Proofs.Build
import Mathlib.Data.List.TakeWhile

/-! How a build ends. Behind the questions about the libraries it takes one of seven courses, which
the switches, the search for the translator, the source and the translator's answer decide; the
result and the one command that may still run are read off the course. -/
namespace ExtensionBuild

namespace Text

theorem isBlankText_eq (s : String) : isBlankText s = s.toList.all isBlank := by
  rw [Bool.eq_iff_iff, List.all_eq_true, isBlankText, trim, trimEnd, trimStart, List.isEmpty_iff,
    List.reverse_eq_nil_iff, List.dropWhile_eq_nil_iff]
  constructor
  · intro blank c member
    rw [← List.takeWhile_append_dropWhile (p := isBlank) (l := s.toList)] at member
    rcases List.mem_append.mp member with front | back
    · exact List.mem_takeWhile_imp front
    · exact blank c (List.mem_reverse.mpr back)
  · intro blank c member
    exact blank c (List.dropWhile_subset _ (List.mem_reverse.mp member))

end Text

namespace Translator

theorem locate_error {here : Surroundings} {program : Path} {e : BuildError}
    (absent : locate here program = .error e) : e = .unavailable program := by
  unfold locate at absent
  dsimp only at absent
  split at absent
  · cases absent
  · injection absent with same
    exact same.symm

/-- What is reported of an error output: its text without the blanks around it, if there is any. -/
def complaint (stderr : String) : Option String :=
  if stderr.toList.all Text.isBlank then none else some (Text.trimmed stderr)

theorem finish_of_code (program : Path) (c : Command) (d : Descriptor) {o : Output}
    (code : o.code ≠ some 0) :
    finish program c d (.ok o) = .error (.failed c.display o.code (complaint o.stderr)) := by
  have failed : ¬ o.succeeded = true := by simpa [Output.succeeded] using code
  rw [complaint, ← Text.isBlankText_eq]
  exact if_neg failed

end Translator

namespace Build

section

variable (executor : Executor σ) (here : Surroundings) (settings : Settings) (toggles : Toggles)
  (options : BuildOptions) (asked : Outcome) (s : σ)

/-- The build is to translate, has found `program` and has a source for it; its command is `c`, and
the answer is `a`. -/
structure Runs (program : Path) (c : Command) (a : Answer) : Prop where
  on : (toggles.regenerate && options.translate) = true
  located : Translator.locate here settings.cython = .ok program
  cython : SourceKind.ofPath? asked.descriptor.source = some .cython
  present : here.isFile asked.descriptor.source = true
  command : c =
    Translator.commandFor program asked.descriptor (.ofSettings settings.translate toggles)
  answer : a = (executor.step c s).1

/-- The courses of a build behind the questions about the libraries, each with its result and with
what it still runs. -/
inductive Course : Except BuildError Outcome → List (Command × Answer) → Prop
  | untranslated (off : (toggles.regenerate && options.translate) = false) :
      Course (.ok asked) []
  | unlocated (on : (toggles.regenerate && options.translate) = true)
      (absent : ∀ program, Translator.locate here settings.cython ≠ .ok program) :
      Course (.error (.unavailable settings.cython)) []
  | passed {program : Path} (on : (toggles.regenerate && options.translate) = true)
      (located : Translator.locate here settings.cython = .ok program)
      (other : SourceKind.ofPath? asked.descriptor.source ≠ some .cython) :
      Course (.ok asked) []
  | missing {program : Path} (on : (toggles.regenerate && options.translate) = true)
      (located : Translator.locate here settings.cython = .ok program)
      (cython : SourceKind.ofPath? asked.descriptor.source = some .cython)
      (absent : here.isFile asked.descriptor.source = false) :
      Course (.error (.missingSource asked.descriptor.source)) []
  | unstarted {program : Path} {c : Command} {fault : SpawnError}
      (runs : Runs executor here settings toggles options asked s program c (.error fault)) :
      Course (.error (.unavailable program)) [(c, .error fault)]
  | failed {program : Path} {c : Command} {o : Output}
      (runs : Runs executor here settings toggles options asked s program c (.ok o))
      (code : o.code ≠ some 0) :
      Course (.error (.failed c.display o.code (Translator.complaint o.stderr))) [(c, .ok o)]
  | translated {program : Path} {c : Command} {o : Output}
      (runs : Runs executor here settings toggles options asked s program c (.ok o))
      (code : o.code = some 0) :
      Course (.ok { asked with descriptor := Translator.translated asked.descriptor }) [(c, .ok o)]

end

section

variable {executor : Executor σ} {here : Surroundings} {settings : Settings} {toggles : Toggles}
  {options : BuildOptions} {asked : Outcome} {s : σ} {result : Except BuildError Outcome}
  {ran : List (Command × Answer)}

theorem Course.ran_iff (course : Course executor here settings toggles options asked s result ran) :
    ran.length ≤ 1 ∧ ∀ c a, (c, a) ∈ ran ↔
      ∃ program, Runs executor here settings toggles options asked s program c a := by
  cases course <;> grind [Runs]

theorem Course.unavailable_iff
    (course : Course executor here settings toggles options asked s result ran) (program : Path) :
    result = .error (.unavailable program) ↔
      ((toggles.regenerate && options.translate) = true ∧
        (∀ found, Translator.locate here settings.cython ≠ .ok found) ∧
        program = settings.cython) ∨
      ∃ c fault,
        Runs executor here settings toggles options asked s program c (.error fault) := by
  cases course <;> grind [Runs]

theorem Course.missingSource_iff
    (course : Course executor here settings toggles options asked s result ran) (path : Path) :
    result = .error (.missingSource path) ↔
      (toggles.regenerate && options.translate) = true ∧
      (∃ program, Translator.locate here settings.cython = .ok program) ∧
      SourceKind.ofPath? asked.descriptor.source = some .cython ∧
      here.isFile asked.descriptor.source = false ∧ path = asked.descriptor.source := by
  cases course <;> grind [Runs]

theorem Course.failed_iff
    (course : Course executor here settings toggles options asked s result ran)
    (command : String) (code : Option Int) (stderr : Option String) :
    result = .error (.failed command code stderr) ↔
      ∃ program c o, Runs executor here settings toggles options asked s program c (.ok o) ∧
        o.code ≠ some 0 ∧ command = c.display ∧ code = o.code ∧
        stderr = Translator.complaint o.stderr := by
  cases course <;> grind [Runs]

theorem Course.ok_iff
    (course : Course executor here settings toggles options asked s result ran) :
    (∃ outcome, result = .ok outcome) ↔
      ¬ (toggles.regenerate && options.translate) = true ∨
      ∃ program, Translator.locate here settings.cython = .ok program ∧
        (SourceKind.ofPath? asked.descriptor.source ≠ some .cython ∨
          ∃ c o, Runs executor here settings toggles options asked s program c (.ok o) ∧
            o.code = some 0) := by
  cases course <;> grind [Runs]

end

section

variable (executor : Executor σ) (here : Surroundings) (manifest : Manifest) (settings : Settings)
  (toggles : Toggles) (options : BuildOptions) (j : Journal σ)

/-- Once the translator is located, its own course is that of the build. -/
theorem translation_course (asked : Outcome)
    (on : (toggles.regenerate && options.translate) = true) {program : Path}
    (located : Translator.locate here settings.cython = .ok program) :
    let translation := Translator.translate executor here program asked.descriptor
      (.ofSettings settings.translate toggles) j
    ∃ ran, Course executor here settings toggles options asked j.state
        (translation.1.map fun descriptor => { asked with descriptor }) ran ∧
      translation.2.exchanges = j.exchanges ++ ran := by
  intro translation
  obtain ⟨result, exchanges⟩ := Translator.translate_eq executor here program asked.descriptor
    (.ofSettings settings.translate toggles) j
  rw [result, exchanges]
  by_cases cython : SourceKind.ofPath? asked.descriptor.source = some .cython
  · have needs : asked.descriptor.needsTranslator = true := by
      simp [Descriptor.needsTranslator, Descriptor.kind?, cython]
    rw [needs]
    cases present : here.isFile asked.descriptor.source with
    | false => exact ⟨[], .missing on located cython present, rfl⟩
    | true =>
      have runs : Runs executor here settings toggles options asked j.state program _ _ :=
        ⟨on, located, cython, present, rfl, rfl⟩
      generalize (executor.step (Translator.commandFor program asked.descriptor
        (.ofSettings settings.translate toggles)) j.state).1 = a at runs ⊢
      cases a with
      | error fault => exact ⟨_, .unstarted runs, rfl⟩
      | ok o =>
        by_cases code : o.code = some 0
        · have succeeded : Answer.succeeded (.ok o) = true := by
            simp [Answer.succeeded, code]
          rw [Translator.finish_of_succeeded _ _ _ succeeded]
          exact ⟨_, .translated runs code, rfl⟩
        · rw [Translator.finish_of_code _ _ _ code]
          exact ⟨_, .failed runs code, rfl⟩
  · have idle : asked.descriptor.needsTranslator = false := by
      simpa [Descriptor.needsTranslator, Descriptor.kind?] using cython
    rw [idle]
    exact ⟨[], .passed on located cython, rfl⟩

theorem build_course :
    let asked := resolve executor manifest settings toggles j
    let done := build executor here manifest settings toggles options j
    ∃ ran, Course executor here settings toggles options asked.1 asked.2.state done.1 ran ∧
      done.2.exchanges = asked.2.exchanges ++ ran := by
  intro asked done
  cases on : toggles.regenerate && options.translate with
  | false =>
    have whole : done = (.ok asked.1, asked.2) :=
      build_untranslated executor here manifest settings toggles options j on
    rw [whole]
    exact ⟨[], .untranslated on, (List.append_nil _).symm⟩
  | true =>
    cases located : Translator.locate here settings.cython with
    | error e =>
      have whole : done = (.error e, asked.2) :=
        build_unlocated executor here manifest settings toggles options j on located
      have absent : ∀ program, Translator.locate here settings.cython ≠ .ok program := by
        simp [located]
      rw [whole, Translator.locate_error located]
      exact ⟨[], .unlocated on absent, (List.append_nil _).symm⟩
    | ok program =>
      have whole := build_located executor here manifest settings toggles options j on located
      rw [show done = _ from whole]
      exact translation_course executor here settings toggles options asked.2 asked.1 on located

end

/-- What a build runs and how it ends. The questions about the libraries come first; at most one
command follows, that of the translator. A build that does not translate succeeds and looks for
nothing: it is the same in all surroundings. -/
theorem build_ends_iff (executor : Executor σ) (here : Surroundings) (manifest : Manifest)
    (settings : Settings) (toggles : Toggles) (options : BuildOptions) (j : Journal σ) :
    let asked := resolve executor manifest settings toggles j
    let done := build executor here manifest settings toggles options j
    let on := (toggles.regenerate && options.translate) = true
    let located := Translator.locate here settings.cython
    let source := asked.1.descriptor.source
    let cython := SourceKind.ofPath? source = some .cython
    let runs := Runs executor here settings toggles options asked.1 asked.2.state
    (∃ n, asked.2.commands = j.commands ++ (queries manifest settings).take n) ∧
    (∃ ran, done.2.exchanges = asked.2.exchanges ++ ran ∧ ran.length ≤ 1 ∧
      ∀ c a, (c, a) ∈ ran ↔ ∃ program, runs program c a) ∧
    (¬ on → ∀ elsewhere, build executor elsewhere manifest settings toggles options j =
      (.ok asked.1, asked.2)) ∧
    (∀ program, done.1 = .error (.unavailable program) ↔
      (on ∧ (∀ found, located ≠ .ok found) ∧ program = settings.cython) ∨
        ∃ c fault, runs program c (.error fault)) ∧
    (∀ path, done.1 = .error (.missingSource path) ↔
      on ∧ (∃ program, located = .ok program) ∧ cython ∧ here.isFile source = false ∧
        path = source) ∧
    (∀ command code stderr, done.1 = .error (.failed command code stderr) ↔
      ∃ program c o, runs program c (.ok o) ∧ o.code ≠ some 0 ∧ command = c.display ∧
        code = o.code ∧ stderr = Translator.complaint o.stderr) ∧
    ((∃ outcome, done.1 = .ok outcome) ↔
      ¬ on ∨ ∃ program, located = .ok program ∧
        (¬ cython ∨ ∃ c o, runs program c (.ok o) ∧ o.code = some 0)) := by
  intro asked done on located source cython runs
  obtain ⟨ran, course, exchanges⟩ :=
    build_course executor here manifest settings toggles options j
  refine ⟨resolve_commands executor manifest settings toggles j, ⟨ran, exchanges, course.ran_iff⟩,
    ?_, course.unavailable_iff, course.missingSource_iff, course.failed_iff, course.ok_iff⟩
  intro off elsewhere
  exact build_untranslated executor elsewhere manifest settings toggles options j
    (Bool.eq_false_iff.mpr off)

end Build
end ExtensionBuild
