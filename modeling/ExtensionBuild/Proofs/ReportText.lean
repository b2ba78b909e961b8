import ExtensionBuild.Proofs.Examination
import ExtensionBuild.Proofs.Lines
import Mathlib.Data.List.Forall2

/-! What the text of a report says. Every check has lines of its own, in the order of the checks,
and the last line is one of three sentences, which the checks decide; so the text and the exit code
of a run never disagree. A verbose text has the lines of the brief one and others between them. -/
namespace ExtensionBuild.Doctor

/-- Whether a line tells how a check went. -/
def IsStatus (line : String) : Prop :=
  "  [OK] ".toList <+: line.toList ∨ "  [!!] ".toList <+: line.toList

/-- The lines that tell of a check: its status, once, and right behind it the message if it
failed. -/
structure Tells (c : Check) (block : List String) : Prop where
  status : ∃ mark note, block.head? = some ("  " ++ mark ++ " " ++ c.name ++ note) ∧
    (mark = "[OK]" ∨ mark = "[!!]") ∧ (mark = "[OK]" ↔ c.passed = true) ∧
    (note = "" ∨ note = " (optional)") ∧ (note = " (optional)" ↔ c.required = false)
  message : c.passed = false → block[1]? = some ("      " ++ c.message)
  once : ∀ line ∈ block.tail, ¬ IsStatus line

theorem first_of_isStatus {line : String} (status : IsStatus line) :
    line.toList[0]? = some ' ' := by
  rcases status with ⟨rest, text⟩ | ⟨rest, text⟩
  · rw [← text]
    rfl
  · rw [← text]
    rfl

theorem not_isStatus_indented (s : String) : ¬ IsStatus ("      " ++ s) := by
  simp [IsStatus]

namespace Report

theorem indented_of_mem_tail {verbose : Bool} {c : Check} {line : String}
    (member : line ∈ (checkLines verbose c).tail) : ∃ s, line = "      " ++ s := by
  have cases : line = "      " ++ c.message ∨ (∃ path, line = "      Path: " ++ path) ∨
      ∃ version, line = "      Version: " ++ version := by
    cases verbose <;> cases c.passed <;> simp [checkLines] at member <;> grind
  rcases cases with rfl | ⟨path, rfl⟩ | ⟨version, rfl⟩
  · exact ⟨_, rfl⟩
  · exact ⟨"Path: " ++ path, by rw [← String.append_assoc]; rfl⟩
  · exact ⟨"Version: " ++ version, by rw [← String.append_assoc]; rfl⟩

theorem tells_checkLines (verbose : Bool) (c : Check) : Tells c (checkLines verbose c) where
  status := by
    refine ⟨if c.passed then "[OK]" else "[!!]", if c.required then "" else " (optional)", rfl, ?_⟩
    cases c.passed <;> cases c.required <;> decide
  message := by
    intro failed
    simp [checkLines, failed]
  once := by
    intro line member
    obtain ⟨s, rfl⟩ := indented_of_mem_tail member
    exact not_isStatus_indented s

theorem checkLines_sublist (c : Check) : (checkLines false c).Sublist (checkLines true c) := by
  cases passed : c.passed <;> simp [checkLines, passed]

theorem lines_sublist (r : Report) : (r.lines false).Sublist (r.lines true) := by
  have checks :
      (r.checks.flatMap (checkLines false)).Sublist (r.checks.flatMap (checkLines true)) :=
    .flatMap_right _ fun c _ => checkLines_sublist c
  have front : (["extconf doctor", "==============", ""] ++ []).Sublist
      (["extconf doctor", "==============", ""] ++ r.factLines) :=
    (List.nil_sublist _).append_left _
  exact (front.append (checks.cons_cons "Checks:")).append (.refl _)

/-- The lines in front of those about the checks. -/
def opening (r : Report) (verbose : Bool) : List String :=
  ["extconf doctor", "==============", ""] ++ (if verbose then r.factLines else []) ++ ["Checks:"]

/-- The lines behind those about the checks. -/
def closing (r : Report) : List String :=
  ["", s!"Summary: {r.passedCount} passed, {r.failedCount} failed", "", r.verdict]

theorem text_eq (r : Report) (verbose : Bool) :
    r.text verbose = Text.written
      (r.opening verbose ++ (r.checks.map (checkLines verbose)).flatten ++ r.closing) := by
  simp [text, lines, Text.written, opening, closing, List.flatMap]

theorem not_isStatus_of_mem_opening (r : Report) (verbose : Bool) :
    ∀ line ∈ r.opening verbose, ¬ IsStatus line := by
  cases verbose <;> simp [opening, factLines, IsStatus]

-- the three sentences with which a report can end

def warning (failed : Nat) : String :=
  s!"Warning: {failed} required check(s) failed. The build will not work."

def concession (failed : Nat) : String :=
  s!"All required checks passed. {failed} optional check(s) failed."

def approval : String := "All checks passed."

theorem eq_of_counted_eq (front back : String) {n m : Nat}
    (same : front ++ toString n ++ back = front ++ toString m ++ back) : n = m := by
  have digits : Nat.toDigits 10 n = Nat.toDigits 10 m := by
    simpa [← String.toList_inj] using same
  rw [← Nat.ofDigitChars_ten_toDigits (n := n), digits, Nat.ofDigitChars_ten_toDigits]

theorem warning_inj {n m : Nat} : warning n = warning m ↔ n = m :=
  ⟨eq_of_counted_eq "Warning: " _, congrArg warning⟩

theorem concession_inj {n m : Nat} : concession n = concession m ↔ n = m :=
  ⟨eq_of_counted_eq "All required checks passed. " _, congrArg concession⟩

theorem warning_first (n : Nat) : (warning n).toList[0]? = some 'W' := by
  change ("Warning: " ++ toString n ++ _).toList[0]? = _
  simp

theorem concession_first (n : Nat) : (concession n).toList[0]? = some 'A' := by
  change ("All required checks passed. " ++ toString n ++ _).toList[0]? = _
  simp

theorem concession_fifth (n : Nat) : (concession n).toList[4]? = some 'r' := by
  change ("All required checks passed. " ++ toString n ++ _).toList[4]? = _
  simp

theorem ne_of_getElem?_ne {s t : String} (i : Nat) (apart : s.toList[i]? ≠ t.toList[i]?) :
    s ≠ t := by
  rintro rfl
  exact apart rfl

theorem warning_ne_concession (n m : Nat) : warning n ≠ concession m := by
  apply ne_of_getElem?_ne 0
  rw [warning_first, concession_first]
  decide

theorem warning_ne_approval (n : Nat) : warning n ≠ approval := by
  apply ne_of_getElem?_ne 0
  rw [warning_first]
  decide

-- both begin with the same word, so the first characters do not tell them apart
theorem concession_ne_approval (n : Nat) : concession n ≠ approval := by
  apply ne_of_getElem?_ne 4
  rw [concession_fifth]
  decide

theorem failedCount_pos_iff (r : Report) :
    0 < r.failedCount ↔ ∃ c ∈ r.checks, c.passed = false := by
  simp [failedCount, List.countP_pos_iff]

theorem requiredFailedCount_pos_iff (r : Report) :
    0 < r.requiredFailedCount ↔ r.allRequiredPassed = false := by
  rw [Nat.pos_iff_ne_zero, Ne, requiredFailedCount_eq_zero_iff, Bool.not_eq_true]

theorem exists_failed_of_unsound {r : Report} (unsound : r.allRequiredPassed = false) :
    ∃ c ∈ r.checks, c.passed = false :=
  (failedCount_pos_iff r).mp <| Nat.lt_of_lt_of_le ((requiredFailedCount_pos_iff r).mpr unsound)
    r.requiredFailedCount_le_failedCount

theorem verdict_cases (r : Report) :
    (r.allRequiredPassed = false ∧ r.verdict = warning r.requiredFailedCount) ∨
    (r.allRequiredPassed = true ∧ (∃ c ∈ r.checks, c.passed = false) ∧
      r.verdict = concession r.failedCount) ∨
    (r.allRequiredPassed = true ∧ (∀ c ∈ r.checks, c.passed = true) ∧ r.verdict = approval) := by
  have fatal := requiredFailedCount_pos_iff r
  have failed := failedCount_pos_iff r
  unfold verdict
  split
  · rename_i some
    exact .inl ⟨fatal.mp some, rfl⟩
  rename_i none
  have sound : r.allRequiredPassed = true := by simpa using mt fatal.mpr none
  split
  · rename_i some
    exact .inr (.inl ⟨sound, failed.mp some, rfl⟩)
  · rename_i none
    have all : ∀ c ∈ r.checks, c.passed = true := by simpa using mt failed.mpr none
    exact .inr (.inr ⟨sound, all, rfl⟩)

theorem verdict_eq_warning_iff (r : Report) (n : Nat) :
    r.verdict = warning n ↔ r.allRequiredPassed = false ∧ n = r.requiredFailedCount := by
  rcases verdict_cases r with ⟨unsound, ending⟩ | ⟨sound, -, ending⟩ | ⟨sound, -, ending⟩
  · rw [ending, warning_inj]
    simp [unsound, eq_comm]
  · rw [ending]
    simp [sound, (warning_ne_concession n _).symm]
  · rw [ending]
    simp [sound, (warning_ne_approval n).symm]

theorem verdict_eq_concession_iff (r : Report) (n : Nat) :
    r.verdict = concession n ↔
      (r.allRequiredPassed = true ∧ ∃ c ∈ r.checks, c.passed = false) ∧ n = r.failedCount := by
  rcases verdict_cases r with ⟨unsound, ending⟩ | ⟨sound, failed, ending⟩ | ⟨sound, all, ending⟩
  · rw [ending]
    simp [unsound, warning_ne_concession]
  · rw [ending, concession_inj]
    exact ⟨fun same => ⟨⟨sound, failed⟩, same.symm⟩, fun met => met.2.symm⟩
  · rw [ending]
    simp only [(concession_ne_approval n).symm, false_iff]
    rintro ⟨⟨-, c, member, broken⟩, -⟩
    exact Bool.false_ne_true (broken.symm.trans (all c member))

theorem verdict_eq_approval_iff (r : Report) :
    r.verdict = approval ↔ ∀ c ∈ r.checks, c.passed = true := by
  have spoilt (failed : ∃ c ∈ r.checks, c.passed = false) : ¬ ∀ c ∈ r.checks, c.passed = true := by
    simpa using failed
  rcases verdict_cases r with ⟨unsound, ending⟩ | ⟨-, failed, ending⟩ | ⟨-, all, ending⟩
  · rw [ending]
    exact iff_of_false (warning_ne_approval _) (spoilt (exists_failed_of_unsound unsound))
  · rw [ending]
    exact iff_of_false (concession_ne_approval _) (spoilt failed)
  · exact iff_of_true ending all

/-- A sentence is written on one line. -/
def isPlain (s : String) : Bool := s.toList.all (0x20 ≤ ·.toNat)

theorem isPlain_counted {front back : String} (n : Nat) (first : isPlain front = true)
    (last : isPlain back = true) : isPlain (front ++ toString n ++ back) = true := by
  have digits : (Nat.toDigits 10 n).all (0x20 ≤ ·.toNat) = true := by
    rw [List.all_eq_true]
    intro c member
    have digit := Nat.isDigit_of_mem_toDigits (by decide) (by decide) member
    rw [Char.isDigit, Bool.and_eq_true, decide_eq_true_eq] at digit
    exact decide_eq_true (Nat.le_trans (by decide) (UInt32.le_iff_toNat_le.mp digit.1))
  rw [isPlain] at first last ⊢
  simp only [String.toList_append, Nat.toString_eq_repr, Nat.toList_repr, List.all_append, first,
    digits, last, Bool.and_self]

theorem isPlain_verdict (r : Report) : isPlain r.verdict = true := by
  rcases verdict_cases r with ⟨-, ending⟩ | ⟨-, -, ending⟩ | ⟨-, -, ending⟩
  · rw [ending]
    exact isPlain_counted _ (by decide) (by decide)
  · rw [ending]
    exact isPlain_counted _ (by decide) (by decide)
  · rw [ending]
    decide

theorem lastLine_text (r : Report) (verbose : Bool) :
    Text.lastLine (r.text verbose) = some r.verdict := by
  have absent {c : Char} (control : c.toNat < 0x20) : c ∉ r.verdict.toList := by
    intro member
    have plain := List.all_eq_true.mp (isPlain_verdict r) c member
    exact Nat.not_le_of_lt control (of_decide_eq_true plain)
  have ended : r.closing =
      ["", s!"Summary: {r.passedCount} passed, {r.failedCount} failed", ""] ++ [r.verdict] := rfl
  rw [text_eq, ended, ← List.append_assoc, Text.lastLine_written _ (absent (by decide)),
    Text.withoutReturn_of_not_mem (absent (by decide)), String.ofList_toList]

theorem not_isStatus_verdict (r : Report) : ¬ IsStatus r.verdict := by
  intro status
  have blank := first_of_isStatus status
  rcases verdict_cases r with ⟨-, ending⟩ | ⟨-, -, ending⟩ | ⟨-, -, ending⟩
  · rw [ending, warning_first] at blank
    exact absurd blank (by decide)
  · rw [ending, concession_first] at blank
    exact absurd blank (by decide)
  · rw [ending] at blank
    exact absurd blank (by decide)

theorem not_isStatus_of_mem_closing (r : Report) : ∀ line ∈ r.closing, ¬ IsStatus line := by
  have summary : ¬ IsStatus s!"Summary: {r.passedCount} passed, {r.failedCount} failed" := by
    change ¬ IsStatus ("Summary: " ++ _ ++ _ ++ _ ++ _)
    simp [IsStatus]
  have blank : ¬ IsStatus "" := by simp [IsStatus]
  intro line member
  simp only [closing, List.mem_cons, List.not_mem_nil, or_false] at member
  rcases member with rfl | rfl | rfl | rfl
  · exact blank
  · exact summary
  · exact blank
  · exact not_isStatus_verdict r

theorem lastLine_eq_warning_iff (r : Report) (verbose : Bool) (n : Nat) :
    Text.lastLine (r.text verbose) = some (warning n) ↔
      r.allRequiredPassed = false ∧ n = r.requiredFailedCount := by
  rw [lastLine_text, Option.some.injEq, verdict_eq_warning_iff]

end Report

theorem stdout_of_doctor (executor : Executor σ) (state : σ) {here : Surroundings}
    {args : List String} {i : CommandLine.Invocation}
    (parsed : CommandLine.parse (Toggles.resolve here.vars args).2 = .ok i)
    (request : i.request = .doctor) :
    (CommandLine.run executor state here args).stdout =
      (examine executor here (CommandLine.examinationOptions here args i)
        (.start state)).1.text i.verbose := by
  unfold CommandLine.run
  simp only [parsed, request]
  rfl

/-- The text of a report tells of each check in turn, by one line on its status with the message of
a failure behind it; its counts add up, and its last line is the sentence that its checks call for.
What is asked for beyond that is put between the lines. A run that examines shows this text, and
fails exactly when the text ends with the warning. -/
theorem Report.text_agrees (r : Report) (verbose : Bool) :
    (∃ blocks, List.Forall₂ Tells r.checks blocks ∧
      r.text verbose = Text.written (r.opening verbose ++ blocks.flatten ++
        ["", s!"Summary: {r.passedCount} passed, {r.failedCount} failed", "", r.verdict])) ∧
    (∀ line ∈ r.opening verbose ++
        ["", s!"Summary: {r.passedCount} passed, {r.failedCount} failed", "", r.verdict],
      ¬ IsStatus line) ∧
    r.passedCount + r.failedCount = r.checks.length ∧
    (∀ n : Nat, Text.lastLine (r.text verbose) =
        some s!"Warning: {n} required check(s) failed. The build will not work." ↔
      r.allRequiredPassed = false ∧ n = r.requiredFailedCount) ∧
    (∀ n : Nat, Text.lastLine (r.text verbose) =
        some s!"All required checks passed. {n} optional check(s) failed." ↔
      (r.allRequiredPassed = true ∧ ∃ c ∈ r.checks, c.passed = false) ∧ n = r.failedCount) ∧
    (Text.lastLine (r.text verbose) = some "All checks passed." ↔
      ∀ c ∈ r.checks, c.passed = true) ∧
    (Text.lines (r.text false).toList).Sublist (Text.lines (r.text true).toList) ∧
    ∀ (executor : Executor σ) (state : σ) here args i,
      CommandLine.parse (Toggles.resolve here.vars args).2 = .ok i → i.request = .doctor →
      let options := CommandLine.examinationOptions here args i
      let examined := (examine executor here options (.start state)).1
      let result := CommandLine.run executor state here args
      result.stdout = examined.text i.verbose ∧
      (result.code = 0 ∨ result.code = 1) ∧
      (result.code = 1 ↔ ∃ n : Nat, Text.lastLine result.stdout =
        some s!"Warning: {n} required check(s) failed. The build will not work.") := by
  refine ⟨⟨r.checks.map (checkLines verbose), ?_, text_eq r verbose⟩, ?_,
    r.passedCount_add_failedCount, lastLine_eq_warning_iff r verbose, ?_, ?_, ?_, ?_⟩
  · rw [List.forall₂_map_right_iff, List.forall₂_same]
    exact fun c _ => tells_checkLines verbose c
  · intro line member
    rcases List.mem_append.mp member with front | back
    · exact not_isStatus_of_mem_opening r verbose line front
    · exact not_isStatus_of_mem_closing r line back
  · intro n
    rw [lastLine_text, Option.some.injEq]
    exact verdict_eq_concession_iff r n
  · rw [lastLine_text, Option.some.injEq]
    exact verdict_eq_approval_iff r
  · exact Text.lines_written_sublist r.lines_sublist
  · intro executor state here args i parsed request options examined result
    have stdout : result.stdout = examined.text i.verbose :=
      stdout_of_doctor executor state parsed request
    have code : result.code = if examined.allRequiredPassed then 0 else 1 :=
      CommandLine.code_of_doctor executor state parsed request
    refine ⟨stdout, ?_, ?_⟩
    · rw [code]
      split
      · exact .inl rfl
      · exact .inr rfl
    · rw [stdout, code]
      constructor
      · intro failed
        have unsound : examined.allRequiredPassed = false := by simpa using failed
        exact ⟨_, (lastLine_eq_warning_iff examined _ _).mpr ⟨unsound, rfl⟩⟩
      · rintro ⟨n, warned⟩
        rw [((lastLine_eq_warning_iff examined _ n).mp warned).1]
        rfl

end ExtensionBuild.Doctor
