import ExtensionBuild.Environment

/-! The two switches of a build. A switch is on when its environment variable is set, whatever the
value, or when its flag stands anywhere on the command line; the flags are taken out of the
arguments before these are parsed. -/
namespace ExtensionBuild

inductive Toggle
  | regenerate
  | coverage
deriving DecidableEq, Repr

namespace Toggle

def all : List Toggle := [regenerate, coverage]

def variableName : Toggle → String
  | regenerate => "USE_CYTHON"
  | coverage => "CYTHON_COVERAGE"

def flag : Toggle → String
  | regenerate => "--use-cython"
  | coverage => "--cython-coverage"

def name : Toggle → String
  | regenerate => "regenerate-from-source"
  | coverage => "coverage-instrumentation"

def isFlag (arg : String) : Bool := all.any (·.flag == arg)

theorem mem_all (t : Toggle) : t ∈ all := by cases t <;> simp [all]

theorem flag_injective {t u : Toggle} (same : t.flag = u.flag) : t = u := by
  cases t <;> cases u
  · rfl
  · exact absurd same (by decide)
  · exact absurd same (by decide)
  · rfl

end Toggle

structure Toggles where
  regenerate : Bool
  coverage : Bool
deriving DecidableEq, Repr

namespace Toggles

def off : Toggles := ⟨false, false⟩

def get (t : Toggles) : Toggle → Bool
  | .regenerate => t.regenerate
  | .coverage => t.coverage

def set (t : Toggles) (one : Toggle) (on : Bool) : Toggles :=
  match one with
  | .regenerate => { t with regenerate := on }
  | .coverage => { t with coverage := on }

/-- Line tracing needs both switches: only a source that is made anew can be traced. -/
def tracesLines (t : Toggles) : Bool := t.regenerate && t.coverage

/-- Settles one switch. Its flag is taken out of the arguments that the switches before it left; it
was among them if fewer remain. -/
def settle (vars : Variables) (found : Toggles × List String) (one : Toggle) :
    Toggles × List String :=
  let rest := found.2.filter (· != one.flag)
  (found.1.set one (vars.isSet one.variableName || rest.length != found.2.length), rest)

/-- The switches of a call, with the arguments that are left to be parsed. -/
def resolve (vars : Variables) (args : List String) : Toggles × List String :=
  Toggle.all.foldl (settle vars) (off, args)

def isOn (vars : Variables) (args : List String) (t : Toggle) : Bool :=
  vars.isSet t.variableName || args.contains t.flag

def ofInvocation (vars : Variables) (args : List String) : Toggles :=
  ⟨isOn vars args .regenerate, isOn vars args .coverage⟩

def remaining (args : List String) : List String := args.filter (! Toggle.isFlag ·)

theorem get_ofInvocation (vars : Variables) (args : List String) (t : Toggle) :
    (ofInvocation vars args).get t = isOn vars args t := by
  cases t <;> rfl

@[simp] theorem get_set_self (t : Toggles) (one : Toggle) (on : Bool) :
    (t.set one on).get one = on := by
  cases one <;> rfl

theorem get_set_of_ne (t : Toggles) {one other : Toggle} (on : Bool) (h : other ≠ one) :
    (t.set one on).get other = t.get other := by
  cases one <;> cases other
  · exact absurd rfl h
  · rfl
  · rfl
  · exact absurd rfl h

theorem ext_get {t u : Toggles} (same : ∀ one, t.get one = u.get one) : t = u := by
  have regenerate := same .regenerate
  have coverage := same .coverage
  cases t
  cases u
  simp_all [get]

end Toggles
end ExtensionBuild
