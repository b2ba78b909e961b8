import ExtensionBuild.Floating

/-! Structured values, as both file formats hold them. Tables keep their entries in document
order. -/
namespace ExtensionBuild

inductive Data
  | null
  | boolean (b : Bool)
  | integer (i : Int)
  | number (x : Floating)
  | string (s : String)
  | list (items : List Data)
  | table (entries : List (String × Data))
deriving Repr, Inhabited

namespace Data

def strings (items : List String) : Data := .list (items.map .string)

def get? (key : String) : Data → Option Data
  | .table entries => entries.lookup key
  | _ => none

end Data
end ExtensionBuild
