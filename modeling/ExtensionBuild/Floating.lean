import ExtensionBuild.Binary

/-! Floating point numbers: a binary number with a sign, or one of the values beyond them. -/
namespace ExtensionBuild

inductive Floating
  | finite (negative : Bool) (size : Binary)
  | infinite (negative : Bool)
  | undefined
deriving DecidableEq, Repr

namespace Floating

/-- The number that reading `digits * 10 ^ exponent` gives; one that is too large is infinite. -/
def ofDecimal (negative : Bool) (digits : Nat) (exponent : Int) : Floating :=
  match Binary.ofDecimal digits exponent with
  | none => infinite negative
  | some b => finite negative b

end Floating
end ExtensionBuild
