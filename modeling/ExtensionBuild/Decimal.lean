import ExtensionBuild.Floating

/-! Decimal fractions as they are shown: the shortest digits that read back as the machine number,
and the ways to write them. All arithmetic is on natural numbers. -/
namespace ExtensionBuild

/-- The number `digits * 10 ^ exponent`, as it is shown. -/
structure Decimal where
  digits : Nat
  exponent : Int
deriving DecidableEq, Repr

namespace Decimal

/-- Which of two decimals is taken when both are equally near: the one farther from zero, or the
one whose last digit is even. -/
inductive Ties
  | away
  | even
deriving DecidableEq, Repr

def Ties.goesUp (below : Nat) : Ties → Bool
  | away => true
  | even => below % 2 == 1

/-- The decimal on the grid of step `10 ^ grid` that reads back as the number and is nearest to it.
Bounds are counted in quarters of the last binary digit. -/
def onGrid (ties : Ties) (b : Binary) (grid : Int) : Option Nat :=
  let m := b.mantissa
  let quarters (x : Nat) : Nat := x * Nat.pow 2 (b.exponent - 2).toNat * Nat.pow 10 (-grid).toNat
  let steps (c : Nat) : Nat := c * Nat.pow 10 grid.toNat * Nat.pow 2 (2 - b.exponent).toNat
  let value := quarters (4 * m)
  let low := quarters
    (4 * m - if m == Nat.pow 2 52 && Binary.leastExponent < b.exponent then 1 else 2)
  let high := quarters (4 * m + 2)
  let reads (c : Nat) : Bool :=
    if m % 2 == 0 then low ≤ steps c && steps c ≤ high else low < steps c && steps c < high
  let below := value / steps 1
  let above := below + 1
  let gapBelow := value - steps below
  let gapAbove := steps above - value
  let upward := gapAbove < gapBelow || (gapAbove == gapBelow && ties.goesUp below)
  let first := if upward then above else below
  let second := if upward then below else above
  if reads first then some first else if reads second then some second else none

/-- How many decimal digits stand before the point, zero or less when the number is below one. -/
def wholeDigits (b : Binary) : Int :=
  if b.den ≤ b.num then (Nat.toDigits 10 (b.num / b.den)).length
  else
    let zeros := (Nat.toDigits 10 ((b.den - 1) / b.num)).length
    if b.den ≤ b.num * Nat.pow 10 (zeros - 1) then 1 - (zeros - 1 : Nat) else 1 - (zeros : Nat)

/-- Trailing zeros moved into the exponent. -/
def stripZeros : Nat → Decimal → Decimal
  | 0, d => d
  | n + 1, d =>
    if d.digits != 0 && d.digits % 10 == 0 then stripZeros n ⟨d.digits / 10, d.exponent + 1⟩ else d

/-- The shortest digits that read back as the number, and their power of ten. -/
def shortest (ties : Ties) (b : Binary) : Decimal :=
  if b.isZero then ⟨0, 0⟩
  else
    let whole := wholeDigits b
    let grids := (List.range 17).map fun (n : Nat) => whole - (n + 1 : Nat)
    match grids.findSome? fun g => (onGrid ties b g).map (⟨·, g⟩) with
    | some d => stripZeros 20 d
    | none => ⟨0, 0⟩

/-- How a number is written. A number is positional when its decimal point falls within the given
distances of its first digit; otherwise it has an exponent, which may need a sign. -/
structure Style where
  pointFrom : Option Int
  pointUpTo : Option Int
  plus : List Char
  ties : Ties

/-- Always positional; a tie goes away from zero. -/
def Style.positional : Style := ⟨none, none, [], .away⟩

/-- Positional from 0.00001 up to sixteen digits before the point; an exponent has a sign, and a tie
goes to the even digit. -/
def Style.compact : Style := ⟨some (-4), some 16, ['+'], .even⟩

def zeros (n : Nat) : List Char := List.replicate n '0'

private def magnitude (style : Style) (d : Decimal) : List Char :=
  let shown := Nat.toDigits 10 d.digits
  let point := d.exponent + shown.length
  let positional := (style.pointFrom.all (· ≤ point)) && (style.pointUpTo.all (point ≤ ·))
  if d.digits == 0 then ['0', '.', '0']
  else if positional then
    if 0 ≤ d.exponent then shown ++ zeros d.exponent.toNat ++ ['.', '0']
    else if 0 < point then shown.take point.toNat ++ '.' :: shown.drop point.toNat
    else ['0', '.'] ++ zeros (-point).toNat ++ shown
  else
    let fraction := if shown.length == 1 then [] else '.' :: shown.drop 1
    let sign := if 0 < point then style.plus else []
    shown.take 1 ++ fraction ++ 'e' :: sign ++ (toString (point - 1)).toList

end Decimal

/-- How a floating point number is shown. -/
def Floating.text (style : Decimal.Style) : Floating → String
  | .finite negative size =>
    let sign := if negative then ['-'] else []
    String.ofList (sign ++ Decimal.magnitude style (Decimal.shortest style.ties size))
  | .infinite negative => if negative then "-inf" else "inf"
  | .undefined => "NaN"

end ExtensionBuild
