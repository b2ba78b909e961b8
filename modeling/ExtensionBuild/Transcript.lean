import ExtensionBuild.FileTree
import ExtensionBuild.Json.Reader
import ExtensionBuild.Schema
import ExtensionBuild.Script

/-! Transcripts: recorded commands with what they left behind, as a JSON list. A transcript is
played back as a script in which every command answers as it was recorded, and any other is not
started. -/
namespace ExtensionBuild.Transcript

def record : Schema.Record where
  title := "transcript entry"
  fields := [
    Schema.field "command" Schema.string true,
    Schema.field "code" (Schema.nullable Schema.byte) false,
    Schema.field "stdout" Schema.string false,
    Schema.field "stderr" Schema.string false]
  closed := true

/-- One recorded command. It succeeded unless a code is given, and a null code means a signal. -/
def rule : Schema.Decoder Rule := fun d => do
  let entries ← record.entries .json d
  let command ← Schema.required entries "command" Schema.string
  let code ← Schema.defaulted entries "code" (Schema.nullable Schema.byte) (some 0)
  let output : Output := {
    code := code.map fun n => (n.toNat : Int)
    stdout := ← Schema.defaulted entries "stdout" Schema.string ""
    stderr := ← Schema.defaulted entries "stderr" Schema.string "" }
  return ⟨.exact command, .output output, false⟩

/-- A program that nothing was recorded of cannot be started. -/
def unrecorded : Rule := ⟨.start "", .spawnError Fault.missing.message, false⟩

def ofRules (rules : List Rule) : Script := { Script.empty with rules := rules ++ [unrecorded] }

def parse (content : String) : Option Script :=
  match Json.read content with
  | none => none
  | some d =>
    match Schema.listOf rule d with
    | .ok rules => some (ofRules rules)
    | .error _ => none

end ExtensionBuild.Transcript
