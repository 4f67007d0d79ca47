import StageParity.Decimal.Binary64
import StageParity.Text.Glyph

/-!
# Decimal texts of floating-point numbers

Two forms: the fewest digits that read back as the same number, and a fixed
number of places. Both are computed from the exact value.
-/

namespace StageParity

namespace Decimal

/-- The value `digits * 10 ^ exponent`. -/
structure Scaled where
  digits : Nat
  exponent : Int

/-- The reals that round to a positive number `m * 2 ^ e`, in quarters of its last
place: from `low` to `high`, the ends included when `closed`. -/
structure Rounding where
  low : Nat
  high : Nat
  exponent : Int
  closed : Bool

/-- The reals that round to `m * 2 ^ e`. Below a power of two the neighbours are
half as far apart. -/
def Rounding.ofBinary (m : Nat) (e : Int) : Rounding where
  low := if m = Nat.pow 2 52 && -1074 < e then 4 * m - 1 else 4 * m - 2
  high := 4 * m + 2
  exponent := e - 2
  closed := m % 2 = 0

/-- Whether `digits * 10 ^ exponent` rounds to the number. -/
def Rounding.holds (r : Rounding) (s : Scaled) : Bool :=
  let value := (Fraction.mk s.digits 1).scale s.exponent
  let low := Fraction.ofBinary r.low r.exponent
  let high := Fraction.ofBinary r.high r.exponent
  let a := low.num * value.den
  let b := value.num * low.den
  let c := value.num * high.den
  let d := high.num * value.den
  if r.closed then a ≤ b && c ≤ d else a < b && c < d

/-- The closest of the two decimals with `count` digits around `m * 2 ^ e` that
read back as it. -/
def withDigits? (m : Nat) (e : Int) (count : Nat) : Option Scaled :=
  let value := Fraction.ofBinary m e
  let exponent := value.magnitude - (count : Int) + 1
  let grid := value.scale (-exponent)
  let range := Rounding.ofBinary m e
  let nearest := grid.round
  let below := grid.num / grid.den
  let other := if nearest = below then below + 1 else below
  if range.holds ⟨nearest, exponent⟩ then some ⟨nearest, exponent⟩
  else if range.holds ⟨other, exponent⟩ then some ⟨other, exponent⟩
  else none

/-- The decimal with the fewest digits that reads back as `m * 2 ^ e`. Seventeen
digits always do. -/
def shortest (m : Nat) (e : Int) : Scaled :=
  ((List.range 17).findSome? (fun k => withDigits? m e (k + 1))).getD ⟨m, 0⟩

/-- The digits of a number without zeros at their end, and the number of zeros. -/
def significant (n : Nat) : List Char × Nat :=
  let digits := (Nat.toDigits 10 n).reverse
  let zeros := (digits.takeWhile (· == '0')).length
  ((digits.drop zeros).reverse, zeros)

/-- The positional form of digits with the point after the first `point` of them. -/
def positional (digits : List Char) (point : Int) : List Char :=
  match point with
  | .ofNat (k + 1) =>
    let whole := digits.take (k + 1) ++ List.replicate (k + 1 - digits.length) '0'
    let places := digits.drop (k + 1)
    whole ++ '.' :: (if places.isEmpty then ['0'] else places)
  | .ofNat 0 => '0' :: '.' :: digits
  | .negSucc k => '0' :: '.' :: List.replicate (k + 1) '0' ++ digits

/-- The exponent form of digits: one before the point, and a signed exponent of at
least two digits. -/
def scientific (digits : List Char) (exponent : Int) : List Char :=
  let power := Nat.toDigits 10 exponent.natAbs
  let padded := if power.length < 2 then '0' :: power else power
  let head := match digits with
    | [] => ['0']
    | [d] => [d]
    | d :: more => d :: '.' :: more
  head ++ 'e' :: (if exponent < 0 then '-' else '+') :: padded

/-- The text of a nonnegative finite number. Numbers from `10 ^ -4` up to `10 ^ 16`
are written positionally. -/
def unsigned (m : Nat) (e : Int) : List Char :=
  if m = 0 then ['0', '.', '0']
  else
    let s := shortest m e
    let (digits, zeros) := significant s.digits
    let exponent := s.exponent + zeros + digits.length - 1
    if -4 ≤ exponent && exponent < 16 then positional digits (exponent + 1)
    else scientific digits exponent

/-- The spelling of the values that have no digits. -/
structure Names where
  nan : String
  infinity : String

def Names.plain : Names := ⟨"nan", "inf"⟩

def Names.file : Names := ⟨"NaN", "Infinity"⟩

/-- A minus sign for negative numbers, negative zero included. -/
def sign (negative : Bool) : List Char := if negative then ['-'] else []

end Decimal

/-- The shortest text that reads back as a floating-point number. -/
def Text.ofFloat (names : Decimal.Names) (x : Float) : Text :=
  match Binary64.ofFloat x with
  | .nan => names.nan
  | .infinite negative => Text.ofChars (Decimal.sign negative) ++ names.infinity
  | .finite negative m e => Text.ofChars (Decimal.sign negative ++ Decimal.unsigned m e)

/-- The text of a floating-point number with a fixed number of places, rounded from
its exact value. -/
def Text.ofFloatFixed (places : Nat) (x : Float) : Text :=
  match Binary64.ofFloat x with
  | .nan => Decimal.Names.plain.nan
  | .infinite negative => Text.ofChars (Decimal.sign negative) ++ Decimal.Names.plain.infinity
  | .finite negative m e =>
    let n := ((Fraction.ofBinary m e).scale places).round
    let padded := List.replicate (places + 1 - (Nat.toDigits 10 n).length) '0' ++ Nat.toDigits 10 n
    let whole := padded.length - places
    Text.ofChars (Decimal.sign negative ++ padded.take whole ++ '.' :: padded.drop whole)

end StageParity
