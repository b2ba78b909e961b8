import ExtensionBuild.Proofs.Endings
import ExtensionBuild.Proofs.Examination
import ExtensionBuild.Proofs.Lines

/-! The version that an examination records of a tool. It is the first line of what the tool
answered, without the blanks around it; so it is blank exactly when that line is, even if the answer
goes on behind it. -/
namespace ExtensionBuild

namespace Text

def HasInk (s : String) : Prop := ∃ c ∈ s.toList, isBlank c = false

theorem hasInk_iff (s : String) : HasInk s ↔ isBlankText s = false := by
  rw [HasInk, isBlankText_eq, List.all_eq_false]
  simp

theorem trim_concat {c : Char} (blank : isBlank c = true) (s : List Char) :
    trim (s ++ [c]) = trim s := by
  rw [trim, trim, trimStart, trimStart, List.dropWhile_append]
  split
  · rename_i all
    rw [List.isEmpty_iff.mp all]
    simp [blank]
  · simp [trimEnd, blank]

theorem trim_withoutReturn (line : List Char) : trim (withoutReturn line) = trim line := by
  rw [withoutReturn]
  split
  · rename_i ended
    obtain ⟨front, rfl⟩ := List.getLast?_eq_some_iff.mp ended
    rw [List.dropLast_concat, trim_concat (by decide)]
  · rfl

theorem trimmed_firstLine (s : String) :
    trimmed (firstLine s) = String.ofList (trim (s.toList.takeWhile (· != '\n'))) := by
  rw [trimmed, toList_firstLine]
  split
  · rw [trim_withoutReturn]
  · rfl

theorem mem_trim_of_mem {s : List Char} {c : Char} (member : c ∈ s) (ink : isBlank c = false) :
    c ∈ trim s := by
  have kept {s : List Char} (member : c ∈ s) : c ∈ s.dropWhile isBlank := by
    rw [← List.takeWhile_append_dropWhile (p := isBlank) (l := s)] at member
    rcases List.mem_append.mp member with front | back
    · exact absurd (List.mem_takeWhile_imp front) (by simp [ink])
    · exact back
  exact List.mem_reverse.mpr (kept (List.mem_reverse.mpr (kept member)))

theorem trim_subset (s : List Char) : trim s ⊆ s := by
  intro c member
  have inside := List.dropWhile_subset _ (List.mem_reverse.mp member)
  exact List.dropWhile_subset _ (List.mem_reverse.mp inside)

theorem hasInk_trimmed (s : String) : HasInk (trimmed s) ↔ HasInk s := by
  rw [HasInk, trimmed, String.toList_ofList]
  constructor
  · rintro ⟨c, member, ink⟩
    exact ⟨c, trim_subset _ member, ink⟩
  · rintro ⟨c, member, ink⟩
    exact ⟨c, mem_trim_of_mem member ink, ink⟩

end Text

namespace Doctor

/-- The stream on which a tool answers: the error stream if the other one is blank. -/
def answered (o : Output) : String := if Text.isBlankText o.stdout then o.stderr else o.stdout

theorem hasInk_answered (o : Output) :
    Text.HasInk (answered o) ↔ Text.HasInk o.stdout ∨ Text.HasInk o.stderr := by
  cases blank : Text.isBlankText o.stdout <;> simp [answered, Text.hasInk_iff, blank]

theorem versionLine_eq (o : Output) :
    versionLine o = Text.trimmed (Text.firstLine (answered o)) := by
  rw [Text.trimmed_firstLine, versionLine, Text.trimmed, String.toList_ofList]
  rfl

variable (executor : Executor σ) (here : Surroundings) (j : Journal σ)

theorem version_checkPkgConfig (program : Path) :
    (checkPkgConfig executor here program j).1.version =
      versionOf (executor.step ⟨program, ["--version"]⟩ j.state).1 := by
  rw [checkPkgConfig, ((toolVersion_issues executor program j).andThen
    (pkgConfigCheck here program)).result]
  generalize versionOf _ = version
  cases version with
  | none => rfl
  | some v =>
    rw [pkgConfigCheck]
    cases here.findProgram program <;> rfl

theorem version_checkCython {program tool : Path}
    (located : Translator.locate here program = .ok tool) :
    (checkCython executor here program j).1.version =
      versionOf (executor.step ⟨tool, ["--version"]⟩ j.state).1 := by
  have asked := (toolVersion_issues executor tool j).result
  rw [checkCython, located]
  dsimp only
  rw [Session.bind_apply, asked]
  generalize versionOf _ = version
  cases version <;> rfl

/-- What is recorded of a tool that answers is the first line of its answer. Of a tool that answered
anything visible at all, this shows something exactly when that line does. -/
theorem version_hasInk_iff (tool : Path) {o : Output}
    (answers : (executor.step ⟨tool, ["--version"]⟩ j.state).1 = .ok o)
    (succeeded : o.succeeded = true) :
    ∃ version, version = Text.trimmed (Text.firstLine (answered o)) ∧
      (checkPkgConfig executor here tool j).1.version = some version ∧
      (∀ program, Translator.locate here program = .ok tool →
        (checkCython executor here program j).1.version = some version) ∧
      (Text.HasInk version ↔ Text.HasInk (Text.firstLine (answered o))) ∧
      ((Text.HasInk o.stdout ∨ Text.HasInk o.stderr → Text.HasInk version) ↔
        (Text.HasInk (answered o) → Text.HasInk (Text.firstLine (answered o)))) := by
  have recorded : versionOf (executor.step ⟨tool, ["--version"]⟩ j.state).1 =
      some (Text.trimmed (Text.firstLine (answered o))) := by
    rw [answers, ← versionLine_eq]
    exact if_pos succeeded
  refine ⟨_, rfl, ?_, ?_, Text.hasInk_trimmed _, ?_⟩
  · rw [version_checkPkgConfig, recorded]
  · intro program located
    rw [version_checkCython executor here j located, recorded]
  · rw [hasInk_answered, Text.hasInk_trimmed]

/-- A version behind an empty line is not recorded. -/
theorem version_blank_behind_empty_line :
    let o : Output := ⟨some 0, "\n0.29.2\n", ""⟩
    let executor : Executor Unit := .ofFunction fun _ => .ok o
    let here : Surroundings := ⟨⟨[]⟩, Path.ofText "/work", ⟨fun _ => none⟩⟩
    let tool := Path.ofText "pkg-config"
    (executor.step ⟨tool, ["--version"]⟩ ()).1 = .ok o ∧ o.succeeded = true ∧
    Text.HasInk o.stdout ∧
    (checkPkgConfig executor here tool (.start ())).1.version = some "" ∧ ¬ Text.HasInk "" := by
  intro o executor here tool
  have shown : Text.HasInk o.stdout := ⟨'0', by decide, by decide⟩
  have empty : ¬ Text.HasInk "" := by simp [Text.HasInk]
  obtain ⟨version, line, recorded, -⟩ :=
    version_hasInk_iff executor here (.start ()) tool (o := o) rfl rfl
  have blank : version = "" := by
    rw [line]
    decide
  exact ⟨rfl, rfl, shown, by rw [recorded, blank], empty⟩

end Doctor
end ExtensionBuild
