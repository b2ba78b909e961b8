import ExtensionBuild.Text.Scan

/-! The white space, comments and four kinds of strings of TOML 1.0. Inside a string of several
lines up to two quotation marks stand for themselves, also right before the closing three. -/
namespace ExtensionBuild.Toml
open Text (Scan)
open Text.Scan

def isSpace (c : Char) : Bool := c == ' ' || c == '\t'

def isNonAscii (c : Char) : Bool := 0x80 ≤ c.toNat

def spaces : Scan Unit := do
  let _ ← run isSpace

def newline : Scan Unit := char '\n' <|> literal ['\r', '\n']

def comment : Scan Unit := do
  char '#'
  let _ ← run fun c => c == '\t' || (0x20 ≤ c.toNat && c.toNat ≤ 0x7E) || isNonAscii c

def lineEnd : Scan Unit := do
  spaces
  let _ ← optional comment
  newline <|> atEnd

/-- White space, line breaks and comments between the values of an array. -/
def filler : Scan Unit := do
  let _ ← many ((do
      let _ ← run1 isSpace) <|> newline <|> (do
      comment
      newline))

/-- Whether `c` stands for itself in a string closed by `mark`, apart from line breaks. -/
def isPlain (mark c : Char) : Bool :=
  c == '\t' || (0x20 ≤ c.toNat && c.toNat ≤ 0x7E && c != mark) || isNonAscii c

def isBasicPlain (c : Char) : Bool := isPlain '"' c && c != '\\'

def digitValue (c : Char) : Nat :=
  if c.isDigit then c.toNat - '0'.toNat
  else if 'a' ≤ c then c.toNat - 'a'.toNat + 10
  else c.toNat - 'A'.toNat + 10

def valueIn (base : Nat) (digits : List Char) : Nat :=
  digits.foldl (fun n c => n * base + digitValue c) 0

def isHex (c : Char) : Bool :=
  c.isDigit || ('a' ≤ c && c ≤ 'f') || ('A' ≤ c && c ≤ 'F')

/-- The character with a given code point, surrogates excluded. -/
def scalarChar (n : Nat) : Scan Char :=
  if n < 0xD800 || (0xE000 ≤ n && n < 0x110000) then pure (Char.ofNat n) else failure

def escape : Scan Char := do
  char '\\'
  match ← one fun _ => true with
  | 'b' => return '\x08'
  | 't' => return '\t'
  | 'n' => return '\n'
  | 'f' => return '\x0c'
  | 'r' => return '\r'
  | '"' => return '"'
  | '\\' => return '\\'
  | 'u' => scalarChar (valueIn 16 (← exactly isHex 4))
  | 'U' => scalarChar (valueIn 16 (← exactly isHex 8))
  | _ => failure

def basicString : Scan (List Char) := do
  char '"'
  let s ← many (one isBasicPlain <|> escape)
  char '"'
  return s

def literalString : Scan (List Char) := do
  char '\''
  let s ← run (isPlain '\'')
  char '\''
  return s

/-- A backslash at the end of a line, with all white space up to the next text. -/
def lineJoin : Scan Unit := do
  char '\\'
  spaces
  newline
  let _ ← many ((do
    let _ ← one isSpace) <|> newline)

def lineBreak : Scan (List Char) := do
  newline
  return ['\n']

def single (p : Scan Char) : Scan (List Char) := do
  return [← p]

/-- The body of a string of several lines and its closing marks. A run of three to five marks closes
it, and those before the last three belong to the text. -/
def multiline (mark : Char) (content : Scan (List Char)) : Scan (List Char) := do
  literal [mark, mark, mark]
  let _ ← optional newline
  let quotes : Scan (List Char) := do
    let marks ← run1 (· == mark)
    if marks.length < 3 then return marks else failure
  let body ← many (content <|> quotes)
  let closing ← run1 (· == mark)
  if 3 ≤ closing.length && closing.length ≤ 5 then
    return body.flatten ++ closing.drop 3
  else failure

def multilineBasic : Scan (List Char) :=
  multiline '"' (single (one isBasicPlain) <|> lineBreak <|> (do
    lineJoin
    return []) <|> single escape)

def multilineLiteral : Scan (List Char) :=
  multiline '\'' (single (one (isPlain '\'')) <|> lineBreak)

def string : Scan String := do
  let s ← multilineBasic <|> multilineLiteral <|> basicString <|> literalString
  return String.ofList s

end ExtensionBuild.Toml
