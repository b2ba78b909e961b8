/-! Scanning a text from the front. A scanner either refuses or gives a value and the characters
that remain; a refusal leaves the text as it was, so another scanner can be tried. Repetition stops
where nothing more is consumed, which makes every scanner total. -/
namespace ExtensionBuild.Text

abbrev Scan := StateT (List Char) Option

namespace Scan

def one (p : Char → Bool) : Scan Char := fun
  | c :: rest => if p c then some (c, rest) else none
  | [] => none

def char (c : Char) : Scan Unit := fun
  | d :: rest => if c == d then some ((), rest) else none
  | [] => none

def literal : List Char → Scan Unit
  | [] => pure ()
  | c :: cs => do
    char c
    literal cs

def run (p : Char → Bool) : Scan (List Char) := fun s => some (s.takeWhile p, s.dropWhile p)

def run1 (p : Char → Bool) : Scan (List Char) := do
  let first ← one p
  let rest ← run p
  return first :: rest

def exactly (p : Char → Bool) : Nat → Scan (List Char)
  | 0 => pure []
  | n + 1 => do
    let first ← one p
    let rest ← exactly p n
    return first :: rest

def atEnd : Scan Unit := fun
  | [] => some ((), [])
  | _ :: _ => none

/-- The character that comes next, left in place. -/
def next? : Scan (Option Char) := fun s => some (s.head?, s)

def ofOption : Option α → Scan α
  | some a => pure a
  | none => failure

/-- What `p` finds again and again, and what remains behind the last one. -/
def repeated (p : Scan α) (s : List Char) : List α × List Char :=
  match p s with
  | none => ([], s)
  | some (a, rest) =>
    if _h : rest.length < s.length then
      let (others, last) := repeated p rest
      (a :: others, last)
    else ([], s)
termination_by s.length

def many (p : Scan α) : Scan (List α) := fun s => some (repeated p s)

/-- One or more items with a separator between neighbours. -/
def separated (item : Scan α) (separator : Scan Unit) : Scan (List α) := do
  let first ← item
  let others ← many do
    separator
    item
  return first :: others

def whole (p : Scan α) (s : List Char) : Option α :=
  match p s with
  | some (a, []) => some a
  | _ => none

end Scan
end ExtensionBuild.Text
