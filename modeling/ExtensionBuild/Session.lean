import ExtensionBuild.Command
import ExtensionBuild.Log

/-! A session with an executor: commands are run and notes are taken, and the journal keeps both in
the order in which they happened. -/
namespace ExtensionBuild

inductive Event
  | ran (command : Command) (answer : Answer)
  | noted (line : Log.Line)

structure Journal (σ : Type) where
  state : σ
  events : List Event

abbrev Session (σ : Type) := StateM (Journal σ)

namespace Journal

def start (state : σ) : Journal σ := ⟨state, []⟩

def commands (j : Journal σ) : List Command :=
  j.events.filterMap fun
    | .ran c _ => some c
    | .noted _ => none

end Journal

def Event.line : Event → Log.Line
  | .ran c _ => Log.debug s!"running `{c.display}`"
  | .noted line => line

namespace Session

def run (executor : Executor σ) (c : Command) : Session σ Answer := fun j =>
  let (answer, state) := executor.step c j.state
  (answer, ⟨state, j.events ++ [.ran c answer]⟩)

def note (line : Log.Line) : Session σ Unit := fun j =>
  ((), { j with events := j.events ++ [.noted line] })

@[simp] theorem commands_run (executor : Executor σ) (c : Command) (j : Journal σ) :
    (run executor c j).2.commands = j.commands ++ [c] := by
  simp [run, Journal.commands]

@[simp] theorem commands_note (line : Log.Line) (j : Journal σ) :
    (note line j).2.commands = j.commands := by
  simp [note, Journal.commands]

end Session
end ExtensionBuild
