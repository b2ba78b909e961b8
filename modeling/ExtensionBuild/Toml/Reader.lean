import ExtensionBuild.Toml.Document

/-! Reading TOML text: keys, values and the statements of a document. Keys and values are nested
less than eighty levels deep. -/
namespace ExtensionBuild.Toml
open Text (Scan)
open Text.Scan

def maxDepth : Nat := 79

def isBareKey (c : Char) : Bool :=
  c.isAlpha || c.isDigit || c == '_' || c == '-'

def keyPart : Scan String := do
  spaces
  let s ← basicString <|> literalString <|> run1 isBareKey
  spaces
  return String.ofList s

def key : Scan Key := do
  let parts ← separated keyPart (char '.')
  match parts.getLast? with
  | some last => if parts.length ≤ maxDepth then return ⟨parts.dropLast, last⟩ else failure
  | none => failure

def array (item : Scan Data) : Scan Data := do
  char '['
  let items ← optional do
    let items ← separated (do
      filler
      let d ← item
      filler
      return d) (char ',')
    let _ ← optional (char ',')
    return items
  filler
  char ']'
  return .list (items.getD [])

def inlineTable (item : Scan Data) : Scan Data := do
  char '\x7b'
  let pairs ← optional (separated (do
    let k ← key
    char '='
    spaces
    let d ← item
    spaces
    return (k, d)) (char ','))
  spaces
  char '\x7d'
  let entries ← ofOption ((pairs.getD []).foldlM (fun es (k, d) => put es k.path k.last d) [])
  return .table (entriesData entries)

/-- A value nested at most `depth` levels deep. -/
def value : Nat → Scan Data
  | 0 => scalar
  | depth + 1 => do
    match ← next? with
    | some '[' => array (value depth)
    | some '\x7b' => inlineTable (value depth)
    | _ => scalar

def assignment : Scan Statement := do
  let k ← key
  char '='
  spaces
  let d ← value maxDepth
  lineEnd
  return .assign k d

def header : Scan Statement := do
  char '['
  let k ← key
  char ']'
  lineEnd
  return .openTable k

def listHeader : Scan Statement := do
  literal ['[', '[']
  let k ← key
  literal [']', ']']
  lineEnd
  return .openTables k

/-- A line of the document; blank lines and comments state nothing. -/
def line : Scan (Option Statement) := do
  let statement ← (do
    comment
    newline <|> atEnd
    return none) <|> (do
    newline
    return none) <|> some <$> listHeader <|> some <$> header <|> some <$> assignment
  spaces
  return statement

def document : Scan (List Statement) := do
  let _ ← optional (char '\uFEFF')
  spaces
  let lines ← many line
  return lines.filterMap id

def read (s : String) : Option (List (String × Data)) := do
  build (← whole document s.toList)

end ExtensionBuild.Toml
