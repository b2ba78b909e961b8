import ExtensionBuild.Toml.Moment

/-! Numbers, truth values and points in time of TOML 1.0. Integers have 64 bits with a sign. -/
namespace ExtensionBuild.Toml
open Text (Scan)
open Text.Scan

/-- Digits of one kind with single underscores between them, the underscores left out. -/
def digits (p : Char → Bool) : Scan (List Char) := do
  let first ← one p
  let rest ← many (one p <|> (do
    char '_'
    one p))
  return first :: rest

def sign : Scan Bool := (do
  char '-'
  return true) <|> (do
  char '+'
  return false) <|> pure false

/-- The whole part of a decimal number: no zero stands in front of another digit. -/
def wholePart : Scan (List Char) := (do
  let first ← one (fun c => '1' ≤ c && c ≤ '9')
  let rest ← many (one Char.isDigit <|> (do
    char '_'
    one Char.isDigit))
  return first :: rest) <|> (do
  let zero ← one (· == '0')
  return [zero])

def maxInteger : Nat := 9223372036854775807

def radixInteger (letter : Char) (base : Nat) (p : Char → Bool) : Scan Data := do
  char '0'
  char letter
  let n := valueIn base (← digits p)
  if n ≤ maxInteger then return .integer n else failure

def decimalInteger : Scan Data := do
  let negative ← sign
  let n := valueIn 10 (← wholePart)
  if negative then
    if n ≤ maxInteger + 1 then return .integer (-(n : Int)) else failure
  else if n ≤ maxInteger then return .integer n
  else failure

def integer : Scan Data :=
  radixInteger 'x' 16 isHex <|> radixInteger 'o' 8 (fun c => '0' ≤ c && c ≤ '7') <|>
    radixInteger 'b' 2 (fun c => c == '0' || c == '1') <|> decimalInteger

def exponentPart : Scan Int := do
  let _ ← one (fun c => c == 'e' || c == 'E')
  let negative ← sign
  let size : Int := valueIn 10 (← digits Char.isDigit)
  return if negative then -size else size

def fractionPart : Scan (List Char) := do
  char '.'
  digits Char.isDigit

/-- A number with a fraction or an exponent; one above the largest machine number is refused. -/
def fractional : Scan Data := do
  let negative ← sign
  let whole ← wholePart
  let fraction ← optional fractionPart
  let exponent ← optional exponentPart
  if fraction.isNone && exponent.isNone then failure
  let places := fraction.getD []
  match Floating.ofDecimal negative (valueIn 10 (whole ++ places))
    (exponent.getD 0 - places.length) with
  | .infinite false => failure
  | x => return .number x

def special : Scan Data := do
  let negative ← sign
  (do
    literal ['i', 'n', 'f']
    return .number (.infinite negative)) <|> (do
    literal ['n', 'a', 'n']
    return .number .undefined)

def boolean : Scan Data := (do
  literal ['t', 'r', 'u', 'e']
  return .boolean true) <|> (do
  literal ['f', 'a', 'l', 's', 'e']
  return .boolean false)

def moment : Scan Data := do
  return momentData (← momentText)

def scalar : Scan Data := do
  match ← next? with
  | some '"' => return .string (← string)
  | some '\'' => return .string (← string)
  | some _ => boolean <|> special <|> moment <|> fractional <|> integer
  | none => failure

end ExtensionBuild.Toml
