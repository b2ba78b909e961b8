import ExtensionBuild.Path
import ExtensionBuild.Text.Pieces
import ExtensionBuild.Text.Utf8

/-! Commands and what comes of running them. An executor answers commands one after the other from a
state of its own, so the same command may be answered differently later on. -/
namespace ExtensionBuild

structure Command where
  program : Path
  args : List String
deriving DecidableEq, Repr

def Command.display (c : Command) : String :=
  Text.joinedStrings " " (c.program.text :: c.args)

/-- What a finished command left behind; one that a signal ended has no code. -/
structure Output where
  code : Option Int
  stdout : String
  stderr : String
deriving DecidableEq, Repr

namespace Output

def succeeded (o : Output) : Bool := o.code == some 0

/-- The exit code in the status word of a finished process: its second byte, if the low seven bits
say that no signal ended it. -/
def codeOfStatus (status : Nat) : Option Int :=
  if status % 128 == 0 then some (status / 256 % 256 : Nat) else none

def ofProcess (status : Nat) (stdout stderr : List UInt8) : Output :=
  ⟨codeOfStatus status, Text.Utf8.decodeLossy stdout, Text.Utf8.decodeLossy stderr⟩

def codeText : Option Int → String
  | some n => s!"Some({n})"
  | none => "None"

end Output

inductive SpawnError
  | failed (program : Path) (reason : String)
  | unexpected (command : String)
deriving DecidableEq, Repr

def SpawnError.message : SpawnError → String
  | failed program reason => s!"failed to spawn `{program.text}`: {reason}"
  | unexpected command => s!"unexpected command: {command}"

abbrev Answer := Except SpawnError Output

structure Executor (σ : Type) where
  step : Command → σ → Answer × σ

/-- An executor whose answers depend on the command alone. -/
def Executor.ofFunction (answer : Command → Answer) : Executor Unit where
  step c s := (answer c, s)

end ExtensionBuild
