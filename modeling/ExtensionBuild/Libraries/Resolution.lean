import ExtensionBuild.Libraries.Query

/-! Resolving a list of libraries: every library is asked every question, in order, and the answers
are appended to the flags. The first question that is not answered ends the pass; what was gathered
before it is kept. -/
namespace ExtensionBuild

inductive Resolution
  | complete (flags : Flags)
  | stopped (flags : Flags) (failure : QueryFailure) (skipped : List String)
deriving DecidableEq, Repr

namespace Resolution

def flags : Resolution → Flags
  | complete flags => flags
  | stopped flags _ _ => flags

def failure : Resolution → Option QueryFailure
  | complete _ => none
  | stopped _ failure _ => some failure

/-- The libraries that the pass never came to. -/
def skipped : Resolution → List String
  | complete _ => []
  | stopped _ _ skipped => skipped

def isComplete : Resolution → Bool
  | complete _ => true
  | stopped .. => false

end Resolution

namespace PkgConfig

/-- Asks the questions about one library; the first failure, if any, comes with the flags gathered
before it. -/
def askAll (executor : Executor σ) (p : PkgConfig) (library : String) :
    List Query → Flags → Session σ (Flags × Option QueryFailure)
  | [], flags => return (flags, none)
  | q :: rest, flags => do
    match ← p.query executor q library with
    | .ok items =>
      Session.note (Log.debug s!"{library} {q.category.key}: {items.length} item(s)")
      askAll executor p library rest (flags.extend q.category items)
    | .error failure => return (flags, some failure)

def stoppedNote (failure : QueryFailure) (skipped : List String) : Log.Line where
  level := .warn
  text := s!"pkg-config query for `{failure.library}` ({failure.category.key}) failed; " ++
    "stopping with partial flags"
  values := [("skipped", toString skipped.length)]

def resolve (executor : Executor σ) (p : PkgConfig) :
    List String → Flags → Session σ Resolution
  | [], flags => return .complete flags
  | library :: rest, flags => do
    match ← p.askAll executor library Query.table flags with
    | (flags, none) => resolve executor p rest flags
    | (flags, some failure) =>
      Session.note (stoppedNote failure rest)
      return .stopped flags failure rest

end PkgConfig
end ExtensionBuild
