import ExtensionBuild.Command

/-! Scripted executors. A script is a list of rules; the first rule that matches a command answers
it, and a rule for one call is gone once it has answered. Commands that no rule matches get the
fallback, if there is one. Every call is recorded. -/
namespace ExtensionBuild

inductive Pattern
  | exact (s : String)
  | start (s : String)
  | part (s : String)
deriving DecidableEq, Repr

def Pattern.accepts (command : String) : Pattern → Bool
  | exact s => command == s
  | start s => s.toList.isPrefixOf command.toList
  | part s => Text.occursIn s.toList command.toList

inductive Reply
  | output (o : Output)
  | spawnError (reason : String)
deriving DecidableEq, Repr

structure Rule where
  pattern : Pattern
  reply : Reply
  once : Bool
deriving DecidableEq, Repr

structure Script where
  rules : List Rule
  fallback : Option Output
  calls : List String
deriving DecidableEq, Repr

namespace Script

def empty : Script := ⟨[], none, []⟩

def add (s : Script) (rule : Rule) : Script := { s with rules := s.rules ++ [rule] }

def setFallback (s : Script) (o : Output) : Script := { s with fallback := some o }

/-- The first rule that accepts a command, and the rules that are left when it has answered. -/
def pick (command : String) : List Rule → Option (Rule × List Rule)
  | [] => none
  | rule :: rest =>
    if rule.pattern.accepts command then some (rule, if rule.once then rest else rule :: rest)
    else (pick command rest).map fun (found, left) => (found, rule :: left)

def answer (c : Command) : Reply → Answer
  | .output o => .ok o
  | .spawnError reason => .error (.failed c.program reason)

def step (c : Command) (s : Script) : Answer × Script :=
  let command := c.display
  let calls := s.calls ++ [command]
  match pick command s.rules, s.fallback with
  | some (rule, rules), _ => (answer c rule.reply, { s with rules, calls })
  | none, some o => (.ok o, { s with calls })
  | none, none => (.error (.unexpected command), { s with calls })

def executor : Executor Script := ⟨step⟩

end Script
end ExtensionBuild
