import ExtensionBuild.Text.ControlSequence
import ExtensionBuild.Text.Pieces

/-! Log lines: a level, a text and named values behind it. Lines below the chosen level are not
shown. Controls that terminals act on are written out, so a text cannot pass for a line of its own
or colour what follows. -/
namespace ExtensionBuild.Log
open Text.ControlSequence (painted)

inductive Level
  | debug
  | info
  | warn
deriving DecidableEq, Repr

structure Line where
  level : Level
  text : String
  values : List (String × String)
deriving DecidableEq, Repr

def debug (text : String) : Line := ⟨.debug, text, []⟩

def info (text : String) : Line := ⟨.info, text, []⟩

def warn (text : String) : Line := ⟨.warn, text, []⟩

namespace Level

/-- Names padded to one width. -/
def label : Level → String
  | debug => "DEBUG"
  | info => " INFO"
  | warn => " WARN"

def colour : Level → String
  | debug => "34"
  | info => "32"
  | warn => "33"

def isShown (verbose : Bool) : Level → Bool
  | debug => verbose
  | _ => true

end Level

/-- A character of a text. The controls that move the cursor back, clear, ring or begin a sequence
are written as their codes, and so are those of the second block of controls. -/
def textChar (c : Char) : List Char :=
  match c with
  | '\x07' => ['\\', 'x', '0', '7']
  | '\x08' => ['\\', 'x', '0', '8']
  | '\x0c' => ['\\', 'x', '0', 'c']
  | '\x1b' => ['\\', 'x', '1', 'b']
  | '\x7f' => ['\\', 'x', '7', 'f']
  | c =>
    if 0x80 ≤ c.toNat && c.toNat ≤ 0x9F then
      ['\\', 'u', '\x7b'] ++ Nat.toDigits 16 c.toNat ++ ['\x7d']
    else [c]

def shownText (s : String) : String := String.ofList (s.toList.flatMap textChar)

def Line.render (colour : Bool) (line : Line) : String :=
  let label := if colour then painted line.level.colour line.level.label else line.level.label
  let value (v : String × String) : String :=
    if colour then painted "3" v.1 ++ painted "2" "=" ++ v.2 else v.1 ++ "=" ++ v.2
  Text.joinedStrings " " (label :: shownText line.text :: line.values.map value) ++ "\n"

end ExtensionBuild.Log
