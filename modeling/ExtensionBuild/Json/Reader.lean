import ExtensionBuild.Data
import ExtensionBuild.Text.Scan

/-! Reading JSON text. Entries of an object keep their order; of two entries with one key the later
value stands at the earlier place. Integers beyond 64 bits and the negative zero are read as decimal
fractions, and those from the digits that 64 bits hold. Nesting is bounded. -/
namespace ExtensionBuild.Json
open Text (Scan)
open Text.Scan

/-- The deepest nesting that is read. -/
def maxDepth : Nat := 127

def isSpace (c : Char) : Bool := c == ' ' || c == '\t' || c == '\n' || c == '\r'

def spaces : Scan Unit := do
  let _ ← run isSpace

def hexValue? (c : Char) : Option Nat :=
  if '0' ≤ c && c ≤ '9' then some (c.toNat - '0'.toNat)
  else if 'a' ≤ c && c ≤ 'f' then some (c.toNat - 'a'.toNat + 10)
  else if 'A' ≤ c && c ≤ 'F' then some (c.toNat - 'A'.toNat + 10)
  else none

def fourHex (a b c d : Char) : Option Nat := do
  return (((← hexValue? a) * 16 + (← hexValue? b)) * 16 + (← hexValue? c)) * 16 + (← hexValue? d)

/-- The character of an escape unit that is no half of a pair. -/
def unitChar? (n : Nat) : Option Char :=
  if 0xD800 ≤ n && n < 0xE000 then none else some (Char.ofNat n)

def pairChar? (high low : Nat) : Option Char :=
  if 0xD800 ≤ high && high < 0xDC00 && 0xDC00 ≤ low && low < 0xE000 then
    some (Char.ofNat (0x10000 + (high - 0xD800) * 0x400 + (low - 0xDC00)))
  else none

def simpleEscape? : Char → Option Char
  | '"' => some '"'
  | '\\' => some '\\'
  | '/' => some '/'
  | 'b' => some '\x08'
  | 'f' => some '\x0c'
  | 'n' => some '\n'
  | 'r' => some '\r'
  | 't' => some '\t'
  | _ => none

/-- The rest of a string behind its opening quotation mark. -/
def stringRest : List Char → Option (List Char × List Char)
  | [] => none
  | '"' :: rest => some ([], rest)
  | '\\' :: 'u' :: a :: b :: c :: d :: '\\' :: 'u' :: e :: f :: g :: h :: rest => do
    let first ← fourHex a b c d
    match unitChar? first with
    | some one =>
      let (others, last) ← stringRest ('\\' :: 'u' :: e :: f :: g :: h :: rest)
      return (one :: others, last)
    | none =>
      let one ← pairChar? first (← fourHex e f g h)
      let (others, last) ← stringRest rest
      return (one :: others, last)
  | '\\' :: 'u' :: a :: b :: c :: d :: rest => do
    let one ← unitChar? (← fourHex a b c d)
    let (others, last) ← stringRest rest
    return (one :: others, last)
  | '\\' :: c :: rest => do
    let one ← simpleEscape? c
    let (others, last) ← stringRest rest
    return (one :: others, last)
  | c :: rest =>
    if c.toNat < 0x20 then none
    else do
      let (others, last) ← stringRest rest
      return (c :: others, last)

def string : Scan String := do
  char '"'
  let s ← (stringRest : Scan (List Char))
  return String.ofList s

def naturalOf (digits : List Char) : Nat :=
  digits.foldl (fun n c => n * 10 + (c.toNat - '0'.toNat)) 0

/-- Appends to `n` as many of the digits as 64 bits hold; the others remain. -/
def gather (n : Nat) : List Char → Nat × List Char
  | [] => (n, [])
  | c :: rest =>
    let next := n * 10 + (c.toNat - '0'.toNat)
    if next < Nat.pow 2 64 then gather next rest else (n, c :: rest)

/-- The largest power of ten that a number is multiplied or divided by in one step. -/
def longestStep : Nat := 308

/-- The number over `10 ^ size`, in steps that round one by one, until nothing is left of it. -/
def dividedDown (b : Binary) (size : Nat) : Option Binary :=
  if b.isZero then some b
  else if _h : size ≤ longestStep then do
    b.dividedBy (← Binary.ofDecimal 1 size)
  else do
    dividedDown (← b.dividedBy (← Binary.ofDecimal 1 longestStep)) (size - longestStep)
termination_by size
decreasing_by
  simp only [longestStep] at *
  omega

/-- The number `significand * 10 ^ exponent` as it is reckoned: the significand is rounded first,
then its product or quotient by the power of ten. Nothing that is too large is read. -/
def reckoned (significand : Nat) (exponent : Int) : Option Binary := do
  let b ← Binary.ofRatio significand 1
  if exponent < 0 then dividedDown b (-exponent).toNat
  else if b.isZero then return b
  else if longestStep < exponent.toNat then none
  else b.times (← Binary.ofDecimal 1 exponent)

def wholePart : Scan (List Char) := (do
  char '0'
  return ['0']) <|> (do
  let first ← one (fun c => '1' ≤ c && c ≤ '9')
  let rest ← run Char.isDigit
  return first :: rest)

def fractionPart : Scan (List Char) := do
  char '.'
  run1 Char.isDigit

def exponentPart : Scan Int := do
  let _ ← one (fun c => c == 'e' || c == 'E')
  let sign ← optional (one fun c => c == '+' || c == '-')
  let digits ← run1 Char.isDigit
  let size : Int := naturalOf digits
  return if sign == some '-' then -size else size

/-- A number that is no integer of 64 bits. Digits that its significand does not hold count by
their place alone. -/
def fractional (negative : Bool) (whole places : List Char) (exponent : Int) : Scan Data := do
  let (n, beyond) := gather 0 whole
  let (n, unused) := gather n places
  let taken : Int := places.length - unused.length
  let b ← ofOption (reckoned n (exponent + beyond.length - taken))
  return .number (.finite negative b)

def number : Scan Data := do
  let negative := (← optional (char '-')).isSome
  let whole ← wholePart
  let fraction ← optional fractionPart
  let exponent ← optional exponentPart
  let n := naturalOf whole
  if fraction.isSome || exponent.isSome then
    fractional negative whole (fraction.getD []) (exponent.getD 0)
  else if negative then
    if n == 0 || Nat.pow 2 63 < n then fractional true whole [] 0
    else return .integer (-(n : Int))
  else if n < Nat.pow 2 64 then return .integer n
  else fractional false whole [] 0

/-- The entries with the value of a repeated key moved to the place of its first entry. -/
def insertEntry (entries : List (String × Data)) (key : String) (value : Data) :
    List (String × Data) :=
  if entries.any (·.1 == key) then
    entries.map fun (k, v) => if k == key then (k, value) else (k, v)
  else entries ++ [(key, value)]

def scalar : Scan Data := do
  match ← next? with
  | some '"' => return .string (← string)
  | some 't' =>
    literal ['t', 'r', 'u', 'e']
    return .boolean true
  | some 'f' =>
    literal ['f', 'a', 'l', 's', 'e']
    return .boolean false
  | some 'n' =>
    literal ['n', 'u', 'l', 'l']
    return .null
  | _ => number

def spaced (p : Scan α) : Scan α := do
  spaces
  let a ← p
  spaces
  return a

def entry (item : Scan Data) : Scan (String × Data) := do
  let key ← string
  spaces
  char ':'
  spaces
  return (key, ← item)

def list (item : Scan Data) : Scan Data := do
  char '['
  spaces
  let items ← optional (separated (spaced item) (char ','))
  char ']'
  return .list (items.getD [])

def table (item : Scan Data) : Scan Data := do
  char '\x7b'
  spaces
  let entries ← optional (separated (spaced (entry item)) (char ','))
  char '\x7d'
  return .table ((entries.getD []).foldl (fun es (k, v) => insertEntry es k v) [])

def value : Nat → Scan Data
  | 0 => scalar
  | depth + 1 => do
    match ← next? with
    | some '[' => list (value depth)
    | some '\x7b' => table (value depth)
    | _ => scalar

def document : Scan Data := do
  spaces
  let d ← value maxDepth
  spaces
  return d

def read (s : String) : Option Data := whole document s.toList

end ExtensionBuild.Json
