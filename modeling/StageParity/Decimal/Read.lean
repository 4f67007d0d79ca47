import StageParity.Decimal.Binary64

/-!
# Reading decimal numbers

The floating-point number closest to a decimal.
-/

namespace StageParity.Decimal

/-- The floating-point number closest to `digits * 10 ^ exponent`. Decimals far outside
the range need no arithmetic. -/
def toFloat (digits : Nat) (exponent : Int) : Float :=
  let size := exponent + (Nat.toDigits 10 digits).length
  if digits = 0 || size < -400 then 0.0
  else if 400 < size then 1.0 / 0.0
  else Float.ofScientific digits (exponent < 0) exponent.natAbs

/-- The floating-point number closest to an integer; nothing when it is too large. -/
def ofInt? (n : Int) : Option Float :=
  let size := toFloat n.natAbs 0
  if size.isInf then none else some (if n < 0 then -size else size)

def spanDigits (cs : List Char) : List Char × List Char :=
  (cs.takeWhile Char.isDigit, cs.dropWhile Char.isDigit)

def digitsValue (digits : List Char) : Nat :=
  digits.foldl (fun n ch => 10 * n + (ch.toNat - '0'.toNat)) 0

/-- The exponent at the start of a text, which must be all of it. -/
def exponent? : List Char → Option Int
  | [] => some 0
  | e :: rest =>
    if e == 'e' || e == 'E' then
      let (negative, digits) := match rest with
        | '-' :: digits => (true, digits)
        | '+' :: digits => (false, digits)
        | digits => (false, digits)
      if digits.isEmpty || !digits.all Char.isDigit then none
      else
        let size : Int := digitsValue digits
        some (if negative then -size else size)
    else none

def unsigned? (cs : List Char) : Option Float := do
  let (whole, rest) := spanDigits cs
  let (places, rest) := match rest with
    | '.' :: rest => spanDigits rest
    | rest => ([], rest)
  if whole.isEmpty && places.isEmpty then none
  else do
    let exponent ← exponent? rest
    return toFloat (digitsValue (whole ++ places)) (exponent - places.length)

end StageParity.Decimal
