import ExtensionBuild.Path
import ExtensionBuild.Environment

/-! Reports on the health of a build's surroundings: checks, which pass or fail and are required or
not, the counts of each, and the text shown to the user. -/
namespace ExtensionBuild.Doctor

structure Check where
  name : String
  passed : Bool
  message : String
  path : Option Path
  version : Option String
  required : Bool
deriving DecidableEq, Repr

namespace Check

/-- Checks are required unless something else is said. -/
def pass (name message : String) : Check := ⟨name, true, message, none, none, true⟩

def fail (name message : String) : Check := ⟨name, false, message, none, none, true⟩

def requiredIf (c : Check) (required : Bool) : Check := { c with required }

def optional (c : Check) : Check := c.requiredIf false

def withPath (c : Check) (path : Path) : Check := { c with path := some path }

def withVersion (c : Check) (version : String) : Check := { c with version := some version }

def isFatal (c : Check) : Bool := c.required && ! c.passed

end Check

structure Report where
  checks : List Check
  facts : Variables
deriving Repr

namespace Report

def allRequiredPassed (r : Report) : Bool := (r.checks.filter (·.required)).all (·.passed)

def passedCount (r : Report) : Nat := r.checks.countP (·.passed)

def failedCount (r : Report) : Nat := r.checks.countP (! ·.passed)

def requiredFailedCount (r : Report) : Nat := r.checks.countP Check.isFatal

def fact (r : Report) (name : String) : String := (r.facts.value? name).getD "unknown"

def factLines (r : Report) : List String := [
  "Environment:",
  "  OS: " ++ r.fact "os",
  "  Toggles: regenerate=" ++ r.fact "regenerate" ++ " coverage=" ++ r.fact "coverage",
  ""]

def statusLine (c : Check) : String :=
  "  " ++ (if c.passed then "[OK]" else "[!!]") ++ " " ++ c.name ++
    if c.required then "" else " (optional)"

/-- The lines of one check: its status, its message unless all is well and little was asked for, and
on demand where the tool is and what version it has. -/
def checkLines (verbose : Bool) (c : Check) : List String :=
  statusLine c ::
    (if verbose || ! c.passed then ["      " ++ c.message] else []) ++
    if verbose then
      (c.path.map fun path => "      Path: " ++ path.text).toList ++
        (c.version.map fun version => "      Version: " ++ version).toList
    else []

def verdict (r : Report) : String :=
  if 0 < r.requiredFailedCount then
    s!"Warning: {r.requiredFailedCount} required check(s) failed. The build will not work."
  else if 0 < r.failedCount then
    s!"All required checks passed. {r.failedCount} optional check(s) failed."
  else "All checks passed."

def lines (r : Report) (verbose : Bool) : List String :=
  ["extconf doctor", "==============", ""] ++
    (if verbose then r.factLines else []) ++
    "Checks:" :: r.checks.flatMap (checkLines verbose) ++
    ["", s!"Summary: {r.passedCount} passed, {r.failedCount} failed", "", r.verdict]

def text (r : Report) (verbose : Bool) : String :=
  String.join ((r.lines verbose).map (· ++ "\n"))

theorem passedCount_add_failedCount (r : Report) :
    r.passedCount + r.failedCount = r.checks.length := by
  simp only [passedCount, failedCount]
  rw [List.length_eq_countP_add_countP (·.passed)]
  simp

theorem requiredFailedCount_le_failedCount (r : Report) :
    r.requiredFailedCount ≤ r.failedCount := by
  apply List.countP_mono_left
  intro c _ fatal
  exact (Bool.and_eq_true_iff.mp fatal).2

theorem requiredFailedCount_eq_zero_iff (r : Report) :
    r.requiredFailedCount = 0 ↔ r.allRequiredPassed = true := by
  simp only [requiredFailedCount, allRequiredPassed, List.countP_eq_zero, List.all_eq_true,
    List.mem_filter, Check.isFatal]
  grind

end Report
end ExtensionBuild.Doctor
