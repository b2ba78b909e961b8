import ExtensionBuild.Log

/-! Warnings shown to the user: a message, lines of context and numbered suggestions. -/
namespace ExtensionBuild

structure Diagnostic where
  message : String
  context : List String
  suggestions : List String
deriving DecidableEq, Repr

namespace Diagnostic

def ofMessage (message : String) : Diagnostic := ⟨message, [], []⟩

def withContext (d : Diagnostic) (text : String) : Diagnostic :=
  { d with context := d.context ++ [text] }

def withSuggestion (d : Diagnostic) (text : String) : Diagnostic :=
  { d with suggestions := d.suggestions ++ [text] }

def label (colour : Bool) (code text : String) : String :=
  if colour then Text.ControlSequence.painted code text else text

def lines (colour : Bool) (d : Diagnostic) : List String :=
  [label colour "1;33" "warning" ++ ": " ++ d.message] ++
    d.context.map ("  -> " ++ ·) ++
    if d.suggestions.isEmpty then []
    else (label colour "1;32" "help" ++ ": consider:") ::
      d.suggestions.zipIdx.map fun (text, i) => s!"  {i + 1}. {text}"

def render (colour : Bool) (d : Diagnostic) : String :=
  String.join ((lines colour d).map (· ++ "\n"))

end Diagnostic
end ExtensionBuild
