import StageParity.Decimal.Binary64

/-!
# Numbers with a given number of places

Decimal texts of exact values, rounded to some number of places or digits; a half goes to
the even neighbour.
-/

namespace StageParity.Decimal

/-- Digits in base ten, with zeros in front up to a width. -/
def wide (width n : Nat) : List Char :=
  let digits := Nat.toDigits 10 n
  List.replicate (width - digits.length) '0' ++ digits

/-- A number with some places after the point. The point is left out if there are none,
unless `point` asks for it. -/
def fixed (point : Bool) (places : Nat) (f : Fraction) : List Char :=
  let digits := wide (places + 1) (f.scale places).round
  let whole := digits.length - places
  digits.take whole ++ (if places = 0 && !point then [] else '.' :: digits.drop whole)

/-- The leading digits of a number, `places + 1` of them, and its exponent. -/
def leading (places : Nat) (f : Fraction) : List Char × Int :=
  if f.num = 0 then (List.replicate (places + 1) '0', 0)
  else
    let e := f.magnitude
    let n := (f.scale (places - e)).round
    if n = Nat.pow 10 (places + 1) then (wide (places + 1) (Nat.pow 10 places), e + 1)
    else (wide (places + 1) n, e)

/-- Digits of which one stands before the point, with an exponent. -/
def withExponent (point : Bool) (digits : List Char) (e : Int) : List Char :=
  let places := digits.drop 1
  digits.take 1 ++ (if places.isEmpty && !point then [] else '.' :: places) ++
    'e' :: (if e < 0 then '-' else '+') :: wide 2 e.natAbs

def exponential (point : Bool) (places : Nat) (f : Fraction) : List Char :=
  let (digits, e) := leading places f
  withExponent point digits e

def withoutZeros (digits : List Char) : List Char := (digits.reverse.dropWhile (· == '0')).reverse

/-- A number with some digits that count, with an exponent only if it is small or large.
Zeros at the end are left out unless `keep` asks for them. -/
def general (keep : Bool) (count : Nat) (f : Fraction) : List Char :=
  let count := if count = 0 then 1 else count
  let (digits, e) := leading (count - 1) f
  if -4 ≤ e && e < count then
    let full := fixed keep (count - 1 - e).toNat f
    if keep || !full.contains '.' then full
    else (((withoutZeros full).reverse).dropWhile (· == '.')).reverse
  else withExponent keep (if keep then digits else digits.take 1 ++ withoutZeros (digits.drop 1)) e

end StageParity.Decimal
