import ExtensionBuild.Text.Utf8

/-! Control sequences of terminals: texts in a style, and a text without any. A sequence begins at
the escape character and is read by a small machine; a machine in the middle of a sequence still
lets white space through, and what follows that white space is read as plain text up to the next
control. -/
namespace ExtensionBuild.Text.ControlSequence

def style (code : String) : String := "\x1b[" ++ code ++ "m"

def painted (code text : String) : String := style code ++ text ++ style "0"

/-- How far a sequence has been read. -/
inductive State
  | ground
  | escape
  | escapeMiddle
  | parameters
  /-- Behind the opening of a device string: nothing yet, its parameters, its intermediates. -/
  | deviceStart
  | deviceParameters
  | deviceMiddle
  | terminated
  | command
deriving DecidableEq, Repr

def isAscii (c : Char) : Bool := c.toNat < 0x80

def between (low high : Nat) (c : Char) : Bool := low ≤ c.toNat && c.toNat ≤ high

/-- A control that is white space; the vertical tab is not counted among them. -/
def isSpace (c : Char) : Bool := c == '\t' || c == '\n' || c == '\x0c' || c == '\r'

def isPlain (c : Char) : Bool := between 0x20 0x7E c || isSpace c || ! isAscii c

namespace State

/-- Whether a character that comes in this state is shown. -/
def lets (s : State) (c : Char) : Bool :=
  match s with
  | ground => isPlain c
  | escape => isSpace c
  | escapeMiddle => isSpace c
  | parameters => isSpace c
  | _ => false

/-- The state behind the first character after the escape character. -/
def ofFirst (c : Char) : State :=
  match c with
  | '[' => parameters
  | ']' => command
  | 'P' => deviceStart
  | 'X' => terminated
  | '^' => terminated
  | '_' => terminated
  | c =>
    if between 0x20 0x2F c then escapeMiddle
    else if between 0x30 0x7E c then ground
    else escape

/-- The state behind a character of a device string's opening. -/
def ofDevice (s : State) (c : Char) : State :=
  if between 0x20 0x2F c then deviceMiddle
  else if between 0x40 0x7E c then terminated
  else if between 0x30 0x3F c then
    if s == deviceStart || (s == deviceParameters && between 0x30 0x3B c) then deviceParameters
    else terminated
  else s

/-- The state behind a character. An escape character begins a new sequence anywhere, and two other
controls end any. -/
def next (s : State) (c : Char) : State :=
  if c == '\x1b' then escape
  else if c == '\x18' || c == '\x1a' then ground
  else match s with
    | ground => ground
    | escape => ofFirst c
    | escapeMiddle => if between 0x30 0x7E c then ground else escapeMiddle
    | parameters => if between 0x40 0x7E c then ground else parameters
    | deviceStart => ofDevice s c
    | deviceParameters => ofDevice s c
    | deviceMiddle => ofDevice s c
    | terminated => if (Utf8.encode (String.ofList [c])).contains 0x9C then ground else terminated
    | command => if c == '\x07' then ground else command

end State

/-- A text in the middle of being read. -/
structure Reading where
  state : State
  /-- Whether the last character was shown; the next one is then taken as plain text. -/
  shown : Bool
deriving DecidableEq, Repr

namespace Reading

def start : Reading := ⟨.ground, false⟩

/-- Takes one character. What is shown leaves a sequence that white space interrupted where it was,
but a character outside ASCII ends it. -/
def step (r : Reading) (c : Char) : Reading :=
  if (if r.shown then State.ground else r.state).lets c then
    ⟨if isAscii c then r.state else .ground, true⟩
  else ⟨r.state.next c, false⟩

def shownFrom (r : Reading) : List Char → List Char
  | [] => []
  | c :: rest =>
    let next := r.step c
    if next.shown then c :: shownFrom next rest else shownFrom next rest

end Reading

def strip (s : String) : String := String.ofList (Reading.start.shownFrom s.toList)

end ExtensionBuild.Text.ControlSequence
