import ExtensionBuild.CommandLine.Run
import ExtensionBuild.Proofs.Execution

/-! What an examination runs and reports. Its commands are settled by the first answer and by where
the translator is found; of the answers only the first one counts for the verdict, since the checks
behind it are either not about an answer or not required. -/
namespace ExtensionBuild

namespace Doctor

section

variable (executor : Executor σ) (here : Surroundings) (program : Path) (j : Journal σ)

theorem toolVersion_issues :
    Session.Issues executor (toolVersion executor program) j [⟨program, ["--version"]⟩]
      (versionOf (executor.step ⟨program, ["--version"]⟩ j.state).1) :=
  (Session.Issues.run _).andThen versionOf

theorem isSome_versionOf (a : Answer) : (versionOf a).isSome = Answer.succeeded a := by
  cases a with
  | error e => rfl
  | ok o => cases ok : o.succeeded <;> simp [versionOf, Answer.succeeded_ok, ok]

theorem pkgConfigCheck_standing (version : Option String) :
    (pkgConfigCheck here program version).name = "pkg-config" ∧
      (pkgConfigCheck here program version).passed = version.isSome := by
  cases version with
  | none => exact ⟨rfl, rfl⟩
  | some v =>
    rw [pkgConfigCheck]
    cases here.findProgram program <;> exact ⟨rfl, rfl⟩

theorem checkPkgConfig_issues :
    let version : Command := ⟨program, ["--version"]⟩
    ∃ check, Session.Issues executor (checkPkgConfig executor here program) j [version] check ∧
      check.name = "pkg-config" ∧
      check.passed = Answer.succeeded (executor.step version j.state).1 := by
  intro version
  refine ⟨_, (toolVersion_issues executor program j).andThen (pkgConfigCheck here program), ?_⟩
  rw [← isSome_versionOf]
  exact pkgConfigCheck_standing here program _

/-- The translator passes as soon as it is found, whatever it says of its version. -/
theorem checkCython_issues :
    let located := (Translator.locate here program).toOption
    ∃ check, Session.Issues executor (checkCython executor here program) j
        (located.toList.map fun path => ⟨path, ["--version"]⟩) check ∧
      check.name = "Cython" ∧ check.passed = located.isSome := by
  rw [checkCython]
  cases Translator.locate here program with
  | error e => exact ⟨_, .pure _, rfl, rfl⟩
  | ok path =>
    have asked := toolVersion_issues executor path j
    generalize versionOf (executor.step ⟨path, ["--version"]⟩ j.state).1 = version at asked
    cases version with
    | none => exact ⟨_, asked.bind (.pure _), rfl, rfl⟩
    | some v => exact ⟨_, asked.bind (.pure _), rfl, rfl⟩

theorem libraryCheck_standing (library : String) (a : Answer) :
    let check := libraryCheck library a
    check.name = s!"library `{library}`" ∧ check.required = false ∧
      check.passed = Answer.succeeded a := by
  cases a with
  | error e => exact ⟨rfl, rfl, rfl⟩
  | ok o =>
    rw [libraryCheck]
    cases ok : o.succeeded <;> exact ⟨rfl, rfl, ok.symm⟩

theorem checkLibraries_issues (libraries : List String) :
    let commands : List Command := libraries.map fun library => ⟨program, ["--modversion", library]⟩
    Session.Issues executor (checkLibraries executor program libraries) j commands
      ((libraries.zip (executor.answers commands j.state)).map fun r => libraryCheck r.1 r.2) := by
  induction libraries generalizing j with
  | nil => exact .pure []
  | cons library rest ih =>
    have first : Session.Issues executor (checkLibrary executor program library) j _ _ :=
      (Session.Issues.run ⟨program, ["--modversion", library]⟩).andThen (libraryCheck library)
    have others : Session.Issues executor (checkLibraries executor program rest) _ _ _ :=
      ih (checkLibrary executor program library j).2
    rw [first.state] at others
    exact first.bind (others.andThen (libraryCheck library _ :: ·))

/-- The libraries are checked if `present`; what is reported of them follows either way. -/
theorem checkLibraries_issues_if (present : Bool) (all : List String) (report : List Check → α) :
    let libraries := if present then all else []
    let commands : List Command := libraries.map fun library => ⟨program, ["--modversion", library]⟩
    Session.Issues executor
      (if present = true then do
          let checks ← checkLibraries executor program all
          pure (report checks)
        else do
          let checks ← pure []
          pure (report checks)) j commands
      (report ((libraries.zip (executor.answers commands j.state)).map
        fun r => libraryCheck r.1 r.2)) := by
  cases present with
  | false => exact .pure (report [])
  | true => exact (checkLibraries_issues executor program j all).andThen report

end

/-- All of a check that the verdict and the counts look at, with its name. -/
def Check.standing (c : Check) : String × Bool × Bool := (c.name, c.required, c.passed)

theorem Report.allRequiredPassed_eq (r : Report) :
    r.allRequiredPassed = (r.checks.map Check.standing).all fun s => ! s.2.1 || s.2.2 := by
  rw [allRequiredPassed, List.all_filter, List.all_map]
  rfl

section

variable (executor : Executor σ) (here : Surroundings) (options : Options) (j : Journal σ)

theorem examine_issues :
    let version : Command := ⟨options.pkgConfig, ["--version"]⟩
    let available := Answer.succeeded (executor.step version j.state).1
    let located := (Translator.locate here options.cython).toOption
    let tools : List Command := version :: located.toList.map fun path => ⟨path, ["--version"]⟩
    let libraries := if available then options.libraries else []
    let asked : List Command :=
      libraries.map fun library => ⟨options.pkgConfig, ["--modversion", library]⟩
    let replies := libraries.zip (executor.answers asked (executor.after tools j.state))
    ∃ report, Session.Issues executor (examine executor here options) j (tools ++ asked) report ∧
      report.checks.map Check.standing =
        ("pkg-config", ! options.libraries.isEmpty, available) ::
        ("Cython", options.toggles.regenerate, located.isSome) ::
        replies.map fun r => (s!"library `{r.1}`", false, Answer.succeeded r.2) := by
  intro version available located tools libraries asked replies
  obtain ⟨pkgConfig, first, pkgConfigName, pkgConfigPassed⟩ :=
    checkPkgConfig_issues executor here options.pkgConfig j
  obtain ⟨cython, second, cythonName, cythonPassed⟩ :=
    checkCython_issues executor here options.cython
      (checkPkgConfig executor here options.pkgConfig j).2
  let behind := (checkCython executor here options.cython
    (checkPkgConfig executor here options.pkgConfig j).2).2
  have state : behind.state = executor.after tools j.state := by
    rw [second.state, first.state]
    rfl
  let report (later : List Check) : Report := {
    checks := pkgConfig.requiredIf (! options.libraries.isEmpty) ::
      cython.requiredIf options.toggles.regenerate :: later
    facts := facts options.toggles }
  have third := checkLibraries_issues_if executor options.pkgConfig behind available
    options.libraries report
  dsimp only at third
  rw [state] at third
  refine ⟨report (replies.map fun r => libraryCheck r.1 r.2), ?_, ?_⟩
  · refine first.bind (second.bind ?_)
    rw [pkgConfigPassed]
    exact third
  · have each (r : String × Answer) : (libraryCheck r.1 r.2).standing =
        (s!"library `{r.1}`", false, Answer.succeeded r.2) := by
      obtain ⟨name, required, passed⟩ := libraryCheck_standing r.1 r.2
      rw [Check.standing, name, required, passed]
    simp only [report, List.map_cons, List.map_map, Function.comp_def, each]
    rw [Check.standing, Check.standing]
    simp only [Check.requiredIf, pkgConfigName, pkgConfigPassed, cythonName, cythonPassed]
    rfl

/-- The verdict of an examination: of all answers it hangs on the first one alone. -/
def isSound (options : Options) (first : Answer) (located : Option Path) : Bool :=
  (options.libraries.isEmpty || Answer.succeeded first) &&
    (! options.toggles.regenerate || located.isSome)

theorem allRequiredPassed_examine :
    (examine executor here options j).1.allRequiredPassed =
      isSound options (executor.step ⟨options.pkgConfig, ["--version"]⟩ j.state).1
        (Translator.locate here options.cython).toOption := by
  obtain ⟨report, issues, standings⟩ := examine_issues executor here options j
  rw [issues.result, Report.allRequiredPassed_eq, standings, List.all_cons, List.all_cons]
  have later (replies : List (String × Answer)) :
      ((replies.map fun r => (s!"library `{r.1}`", false, Answer.succeeded r.2)).all
        fun s => ! s.2.1 || s.2.2) = true := by
    rw [List.all_map]
    exact List.all_eq_true.mpr fun _ _ => rfl
  rw [later, Bool.and_true, Bool.not_not]
  rfl

end

end Doctor

namespace CommandLine

/-- The options that a call for an examination amounts to. -/
def examinationOptions (here : Surroundings) (args : List String) (i : Invocation) :
    Doctor.Options :=
  let c := ((Context.ofCwd here.vars here.cwd).withVerbose i.verbose).withColour i.colour
  let (libraries, settings, _) := doctorInput c here i.manifestPath
  ⟨(Toggles.resolve here.vars args).1, settings.pkgConfig, settings.cython, libraries⟩

theorem code_of_doctor (executor : Executor σ) (state : σ) {here : Surroundings}
    {args : List String} {i : Invocation}
    (parsed : parse (Toggles.resolve here.vars args).2 = .ok i) (request : i.request = .doctor) :
    (run executor state here args).code =
      let report := (Doctor.examine executor here (examinationOptions here args i) (.start state)).1
      if report.allRequiredPassed then 0 else 1 := by
  unfold run
  simp only [parsed, request]
  rfl

end CommandLine

namespace Doctor

/-- An examination is settled by its first answer and by where the translator is found: what it
runs, which checks it reports, and its verdict. The answers of the libraries and what the translator
says of its version show in the report, and no exit code depends on them. -/
theorem examine_determined (executor : Executor σ) (here : Surroundings) (options : Options)
    (j : Journal σ) :
    let version : Command := ⟨options.pkgConfig, ["--version"]⟩
    let available := Answer.succeeded (executor.step version j.state).1
    let located := (Translator.locate here options.cython).toOption
    let tools : List Command := version :: located.toList.map fun path => ⟨path, ["--version"]⟩
    let libraries := if available then options.libraries else []
    let commands : List Command :=
      tools ++ libraries.map fun library => ⟨options.pkgConfig, ["--modversion", library]⟩
    let answers := executor.answers commands j.state
    let sound := (options.libraries.isEmpty || available) &&
      (! options.toggles.regenerate || located.isSome)
    let done := examine executor here options j
    let report := done.1
    done.2.exchanges = j.exchanges ++ commands.zip answers ∧
    report.checks.map (fun c => (c.name, c.required, c.passed)) =
      ("pkg-config", ! options.libraries.isEmpty, available) ::
      ("Cython", options.toggles.regenerate, located.isSome) ::
      (libraries.zip (answers.drop tools.length)).map
        (fun r => (s!"library `{r.1}`", false, Answer.succeeded r.2)) ∧
    report.allRequiredPassed = sound ∧
    report.passedCount + report.failedCount = report.checks.length ∧
    report.requiredFailedCount ≤ report.failedCount ∧
    (report.requiredFailedCount = 0 ↔ report.allRequiredPassed = true) ∧
    ∀ args i, CommandLine.parse (Toggles.resolve here.vars args).2 = .ok i → i.request = .doctor →
      CommandLine.examinationOptions here args i = options →
      ∀ (other : Executor τ) (t : τ), Answer.succeeded (other.step version t).1 = available →
        (CommandLine.run other t here args).code = if sound then 0 else 1 := by
  intro version available located tools libraries commands answers sound done report
  obtain ⟨found, issues, standings⟩ := examine_issues executor here options j
  have behind : answers.drop tools.length = executor.answers
      (libraries.map fun library => ⟨options.pkgConfig, ["--modversion", library]⟩)
      (executor.after tools j.state) := by
    rw [show answers = _ from executor.answers_append ..]
    exact List.drop_left' (executor.length_answers tools j.state)
  refine ⟨issues.exchanges, ?_, allRequiredPassed_examine executor here options j,
    report.passedCount_add_failedCount, report.requiredFailedCount_le_failedCount,
    report.requiredFailedCount_eq_zero_iff, ?_⟩
  · rw [behind, show report = found from issues.result]
    exact standings
  · rintro args i parsed request rfl other t same
    have verdict : isSound (CommandLine.examinationOptions here args i) (other.step version t).1
        located = sound := by rw [isSound, same]
    rw [CommandLine.code_of_doctor other t parsed request]
    dsimp only
    rw [allRequiredPassed_examine]
    exact congrArg (fun passed => if passed = true then 0 else 1) verdict

end Doctor
end ExtensionBuild
