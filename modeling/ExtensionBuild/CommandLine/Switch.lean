/-! The switches and commands of the command line. A switch has a long name, perhaps a letter, and
perhaps a value that follows it. -/
namespace ExtensionBuild.CommandLine

inductive Switch
  | verbose
  | noColour
  | manifestPath
  | out
  | noTranslate
  | compile
  | link
  | help
  | version
deriving DecidableEq, Repr

namespace Switch

def long : Switch → String
  | verbose => "verbose"
  | noColour => "no-color"
  | manifestPath => "manifest-path"
  | out => "out"
  | noTranslate => "no-translate"
  | compile => "compile"
  | link => "link"
  | help => "help"
  | version => "version"

def letter : Switch → Option Char
  | verbose => some 'v'
  | out => some 'o'
  | help => some 'h'
  | version => some 'V'
  | _ => none

def valueName : Switch → Option String
  | manifestPath => some "PATH"
  | out => some "FILE"
  | _ => none

def summary : Switch → String
  | verbose => "Enable verbose output"
  | noColour => "Disable colored output"
  | manifestPath => "Path to Extconf.toml (defaults to searching upward from the cwd)"
  | out => "Write the descriptor to this file instead of stdout"
  | noTranslate => "Skip the Cython translation step even when regenerating"
  | compile => "Show compile flags only"
  | link => "Show link flags only"
  | help => "Print help"
  | version => "Print version"

def takesValue (s : Switch) : Bool := s.valueName.isSome

def shown (s : Switch) : String :=
  "--" ++ s.long ++ match s.valueName with
    | some name => " <" ++ name ++ ">"
    | none => ""

def excludes : Switch → Option Switch
  | compile => some link
  | link => some compile
  | _ => none

end Switch

inductive Command
  | build
  | flags
  | doctor
  | completions
deriving DecidableEq, Repr

namespace Command

def all : List Command := [build, flags, doctor, completions]

def name : Command → String
  | build => "build"
  | flags => "flags"
  | doctor => "doctor"
  | completions => "completions"

def summary : Command → String
  | build => "Resolve the extension and emit its descriptor as JSON"
  | flags => "Show the resolved compile/link flags"
  | doctor => "Check that pkg-config, Cython and the libraries are available"
  | completions => "Generate shell completions"

def ofName? (name : String) : Option Command := all.find? (·.name == name)

def switches : Command → List Switch
  | build => [.out, .verbose, .noColour, .noTranslate, .manifestPath, .help]
  | flags => [.compile, .verbose, .link, .noColour, .manifestPath, .help]
  | doctor => [.verbose, .noColour, .manifestPath, .help]
  | completions => [.verbose, .noColour, .manifestPath, .help]

end Command

/-- The switches that may stand in front of the command. -/
def commonSwitches : List Switch := [.verbose, .noColour, .manifestPath, .help, .version]

inductive Shell
  | bash
  | elvish
  | fish
  | powershell
  | zsh
deriving DecidableEq, Repr

namespace Shell

def all : List Shell := [bash, elvish, fish, powershell, zsh]

def name : Shell → String
  | bash => "bash"
  | elvish => "elvish"
  | fish => "fish"
  | powershell => "powershell"
  | zsh => "zsh"

def ofName? (name : String) : Option Shell := all.find? (·.name == name)

/-- How messages name the argument that a shell is given for. -/
def shown : String := "<SHELL>"

end Shell

end ExtensionBuild.CommandLine
