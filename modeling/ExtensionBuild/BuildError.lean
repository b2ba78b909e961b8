import ExtensionBuild.Command

/-! The faults that end a build. All of them concern the translator. -/
namespace ExtensionBuild

inductive BuildError
  | unavailable (program : Path)
  | failed (command : String) (code : Option Int) (stderr : Option String)
  | missingSource (path : Path)
deriving DecidableEq, Repr

namespace BuildError

def message : BuildError → String
  | unavailable program =>
    s!"regeneration from Cython source was requested, but `{program.text}` is not available"
  | failed command code _ => s!"`{command}` failed with exit code {Output.codeText code}"
  | missingSource path => s!"Cython source `{path.text}` does not exist"

def code : BuildError → String
  | unavailable _ => "extconf::translate::unavailable"
  | failed .. => "extconf::translate::failed"
  | missingSource _ => "extconf::translate::missing_source"

def help : BuildError → Option String
  | unavailable _ => some ("Install Cython (`pip install cython`), set CYTHON, " ++
      "or drop --use-cython / USE_CYTHON")
  | failed _ _ stderr => stderr
  | missingSource _ => none

end BuildError
end ExtensionBuild
