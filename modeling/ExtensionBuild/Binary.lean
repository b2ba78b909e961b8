/-! Numbers as binary machines hold them: a mantissa of at most 53 binary digits at a power of two.
An operation gives the number nearest to the exact result and, of two that are equally near, the one
with the even mantissa. All arithmetic is on natural numbers. -/
namespace ExtensionBuild

structure Binary where
  mantissa : Nat
  exponent : Int
deriving DecidableEq, Repr

namespace Binary

def leastExponent : Int := -1074

def greatestExponent : Int := 971

def zero : Binary := ⟨0, leastExponent⟩

def isZero (b : Binary) : Bool := b.mantissa == 0

def num (b : Binary) : Nat := b.mantissa * Nat.pow 2 b.exponent.toNat

def den (b : Binary) : Nat := Nat.pow 2 (-b.exponent).toNat

/-- The quotient rounded to the nearest integer, a tie to the even one. -/
def roundDiv (num den : Nat) : Nat :=
  let q := num / den
  let r := num % den
  if den < 2 * r || (2 * r == den && q % 2 == 1) then q + 1 else q

/-- The power of two that gives `num / den` a whole part of 53 binary digits, but no less than the
least one. -/
def scale (num den : Nat) : Int :=
  let guess : Int := (num.log2 : Int) - (den.log2 : Int) - 52
  let short : Bool :=
    num * Nat.pow 2 (-guess).toNat < Nat.pow 2 52 * den * Nat.pow 2 guess.toNat
  max leastExponent (if short then guess - 1 else guess)

/-- The number nearest to `num / den`, or `none` when that is too large. -/
def ofRatio (num den : Nat) : Option Binary :=
  if num == 0 then some zero
  else
    let q := scale num den
    let m := roundDiv (num * Nat.pow 2 (-q).toNat) (den * Nat.pow 2 q.toNat)
    let (m, q) := if m == Nat.pow 2 53 then (Nat.pow 2 52, q + 1) else (m, q)
    if greatestExponent < q then none else some ⟨m, q⟩

def ofDecimal (digits : Nat) (exponent : Int) : Option Binary :=
  let size := exponent + (Nat.toDigits 10 digits).length
  if digits == 0 || size < -330 then some zero
  else if 310 < size then none
  else ofRatio (digits * Nat.pow 10 exponent.toNat) (Nat.pow 10 (-exponent).toNat)

def times (a b : Binary) : Option Binary := ofRatio (a.num * b.num) (a.den * b.den)

def dividedBy (a b : Binary) : Option Binary := ofRatio (a.num * b.den) (a.den * b.num)

end Binary
end ExtensionBuild
