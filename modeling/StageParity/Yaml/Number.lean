import StageParity.Decimal.Read
import StageParity.Text.Blank
import StageParity.Text.Case
import StageParity.Text.Digit
import StageParity.Text.Quoted
import StageParity.Yaml.Cursor

/-!
# Numbers

The numbers that scalars are written as. Digits of all scripts count, blanks may stand
around a number, and underscores between digits have no meaning. Parts between colons are
sixtieths of those before.
-/

namespace StageParity.Yaml

namespace Number

def maxDigits : Nat := 4300

def isPlainBlank (c : Char) : Bool := c == ' ' || ('\t' ≤ c && c ≤ '\r')

/-- A glyph in the basic alphabet: a digit of another script is the digit of its value,
and a blank from elsewhere is a space. -/
def plainChar? : Glyph → Option Char
  | .char c =>
    if c.toNat < 127 then some c
    else if isBlank c then some ' '
    else (digitValue? c).map Nat.digitChar
  | _ => none

/-- A text in the basic alphabet without the blanks around it. -/
def plainForm? (t : Text) : Option (List Char) :=
  (t.mapM plainChar?).map fun cs =>
    ((cs.dropWhile isPlainBlank).reverse.dropWhile isPlainBlank).reverse

/-- Whether a number starts with a minus sign, and what follows its sign. -/
def unsign : List Char → Bool × List Char
  | '-' :: rest => (true, rest)
  | '+' :: rest => (false, rest)
  | cs => (false, cs)

/-- The letter that may stand after a zero to name a base. -/
def baseLetter? : Nat → Option Char
  | 2 => some 'b'
  | 8 => some 'o'
  | 16 => some 'x'
  | _ => none

def withoutMark (base : Nat) : List Char → List Char
  | '0' :: letter :: digits =>
    if baseLetter? base = some letter.toLower then digits else '0' :: letter :: digits
  | digits => digits

def ofDigits? (base : Nat) (digits : List Char) : Option Nat := do
  let values ← digits.mapM hexValue?
  if values.isEmpty || !values.all (· < base) then none
  else some (values.foldl (fun n value => base * n + value) 0)

def notInt (base : Nat) (t : Text) : Fault :=
  .badValue ("invalid literal for int() with base " ++ Text.ofNat base ++ ": " ++
    t.quoted.take 200)

def tooManyDigits (count : Nat) : Fault :=
  .badValue ("Exceeds the limit (" ++ Text.ofNat maxDigits ++
    " digits) for integer string conversion: value has " ++ Text.ofNat count ++
    " digits; use sys.set_int_max_str_digits() to increase the limit")

/-- The number of digits with which a text starts, behind blanks and a sign. -/
def leadingDigits (t : Text) : Nat :=
  let front := (t.map plainChar?).takeWhile Option.isSome |>.filterMap id
  ((unsign (front.dropWhile isPlainBlank)).2.takeWhile Char.isDigit).length

/-- The integer of a text in a base. Too many decimal digits are a fault whatever follows
them. -/
def int (base : Nat) (t : Text) : Except Fault Int :=
  let count := leadingDigits t
  if base = 10 && maxDigits < count then .error (tooManyDigits count)
  else
    match plainForm? t with
    | none => .error (notInt base t)
    | some cs =>
      let (negative, unsigned) := unsign cs
      match ofDigits? base (withoutMark base unsigned) with
      | none => .error (notInt base t)
      | some size => .ok (if negative then -(size : Int) else size)

def unsignedFloat? (cs : List Char) : Option Float :=
  let word := cs.map Char.toLower
  if word == "inf".toList || word == "infinity".toList then some (1.0 / 0.0)
  else if word == "nan".toList then some (0.0 / 0.0)
  else Decimal.unsigned? cs

def float (t : Text) : Except Fault Float :=
  let found := do
    let (negative, unsigned) := unsign (← plainForm? t)
    let size ← unsignedFloat? unsigned
    return if negative then -size else size
  match found with
  | some x => .ok x
  | none => .error (.badValue ("could not convert string to float: " ++ t.quoted))

def colonParts (t : Text) : List Text := t.splitOn (.char ':')

/-- Whether a scalar starts with a minus sign, and the scalar without its sign. A scalar
has to have some glyph other than underscores. -/
def splitSign (t : Text) : Except Fault (Bool × Text) :=
  match t.filter (· != .char '_') with
  | [] => .error .emptyNumber
  | g :: rest =>
    .ok (g == .char '-', if g == .char '-' || g == .char '+' then rest else g :: rest)

def ofScalar (t : Text) : Except Fault Int := do
  let (negative, body) ← splitSign t
  let size ←
    match body with
    | [.char '0'] => pure 0
    | .char '0' :: .char 'b' :: digits => int 2 digits
    | .char '0' :: .char 'x' :: digits => int 16 digits
    | .char '0' :: _ => int 8 body
    | [] => throw .emptyNumber
    | _ =>
      if body.contains (.char ':') then do
        let parts ← (colonParts body).mapM (int 10)
        pure (parts.foldl (fun n part => 60 * n + part) 0)
      else int 10 body
  return if negative then -size else size

/-- The sum of sixtieths, the last part first, each weighted by its power of sixty. -/
def sixtieths : (weight : Nat) → (total : Float) → List Float → Except Fault Float
  | _, total, [] => .ok total
  | weight, total, part :: rest =>
    match Decimal.ofInt? weight with
    | some factor => sixtieths (weight * 60) (total + part * factor) rest
    | none => .error .tooLarge

def isNanWord (t : Text) : Bool :=
  match splitSign t.small with
  | .ok (_, body) => body == Text.ofString ".nan"
  | .error _ => false

def floatOfScalar (t : Text) : Except Fault Float := do
  if isNanWord t then return 0.0 / 0.0
  let (negative, body) ← splitSign t.small
  let size ←
    if body = Text.ofString ".inf" then pure (1.0 / 0.0)
    else if body.contains (.char ':') then do
      let parts ← (colonParts body).mapM float
      sixtieths 1 0 parts.reverse
    else float body
  return if negative then -size else size

end Number

end StageParity.Yaml
