/-!
# Floating-point numbers as exact values

A 64-bit floating-point number is not a number, infinite, or an integer times a
power of two. The last form is the exact value on which decimal texts are based.
-/

namespace StageParity

/-- The value of a 64-bit floating-point number. -/
inductive Binary64 where
  | nan
  | infinite (negative : Bool)
  /-- The value `mantissa * 2 ^ exponent` or its negative. -/
  | finite (negative : Bool) (mantissa : Nat) (exponent : Int)
deriving DecidableEq

namespace Binary64

def ofBits (bits : UInt64) : Binary64 :=
  let word : Nat := bits.toNat
  let negative := word / Nat.pow 2 63 == 1
  let field : Nat := word / Nat.pow 2 52 % Nat.pow 2 11
  let fraction : Nat := word % Nat.pow 2 52
  if field = 2047 then
    if fraction = 0 then .infinite negative else .nan
  else if field = 0 then .finite negative fraction (-1074)
  else .finite negative (Nat.pow 2 52 + fraction) ((field : Int) - 1075)

def ofFloat (x : Float) : Binary64 := ofBits x.toBits

end Binary64

structure Fraction where
  num : Nat
  den : Nat

namespace Fraction

/-- The fraction `m * 2 ^ e`. -/
def ofBinary (m : Nat) (e : Int) : Fraction :=
  match e with
  | .ofNat k => ⟨m * Nat.pow 2 k, 1⟩
  | .negSucc k => ⟨m, Nat.pow 2 (k + 1)⟩

/-- The fraction times ten to the power `k`. -/
def scale (f : Fraction) (k : Int) : Fraction :=
  match k with
  | .ofNat k => ⟨f.num * Nat.pow 10 k, f.den⟩
  | .negSucc k => ⟨f.num, f.den * Nat.pow 10 (k + 1)⟩

/-- The nearest natural number; a half goes to the even neighbour. -/
def round (f : Fraction) : Nat :=
  let q := f.num / f.den
  let r := f.num % f.den
  if 2 * r < f.den then q
  else if f.den < 2 * r then q + 1
  else if q % 2 = 0 then q else q + 1

/-- The exponent `e` with `10 ^ e ≤ f < 10 ^ (e + 1)`, for a positive fraction. -/
def magnitude (f : Fraction) : Int :=
  let guess : Int := ((Nat.toDigits 10 f.num).length : Int) - (Nat.toDigits 10 f.den).length
  let unit := f.scale (-guess)
  if unit.den ≤ unit.num then guess else guess - 1

end Fraction

end StageParity
