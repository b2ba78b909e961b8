import ExtensionBuild.Schema
import ExtensionBuild.Toml.Reader

/-! TOML documents read as typed values. A document is either no TOML at all, or its first offence
against the schema is known. -/
namespace ExtensionBuild.Toml

inductive Error
  | malformed
  | mismatched (e : Schema.Error)
deriving Repr, Inhabited

namespace Error

/-- What the offence is, when it is one against the schema. -/
def schemaMessage? : Error → Option String
  | malformed => none
  | mismatched e => some (e.message .toml)

/-- The report of an offence. It does not say where in the document the offence stands, nor what is
wrong with a text that is no document. -/
def report (e : Error) : String :=
  "TOML parse error at a line of the document\n" ++
    (e.schemaMessage?.getD "invalid syntax") ++ "\n"

end Error

def decode (decoder : Schema.Decoder α) (s : String) : Except Error α :=
  match read s with
  | none => .error .malformed
  | some entries => (decoder (.table entries)).mapError .mismatched

/-- Whether the text is a document, sound in all its points in time, with the given key at its
top. -/
def hasKey (key : String) (s : String) : Bool :=
  match read s with
  | none => false
  | some entries => entryMomentsAreSound entries && entries.any (·.1 == key)

end ExtensionBuild.Toml
