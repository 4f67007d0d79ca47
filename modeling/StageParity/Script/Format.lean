import StageParity.Decimal.Places
import StageParity.Decimal.Read
import StageParity.Script.Arithmetic
import StageParity.Text.Utf8

/-!
# Formatted output

What the commands that print write: backslash escapes, and formats with arguments.
-/

namespace StageParity.Script

def isOctal : Glyph → Bool
  | .char c => '0' ≤ c && c ≤ '7'
  | _ => false

def letterEscape? (g : Glyph) : Option UInt8 :=
  match g with
  | .char 'a' => some 7
  | .char 'b' => some 8
  | .char 'e' => some 27
  | .char 'f' => some 12
  | .char 'n' => some 10
  | .char 'r' => some 13
  | .char 't' => some 9
  | .char 'v' => some 11
  | .char '\\' => some 92
  | _ => none

/-- The byte of an escape after its backslash, and what follows; a backslash stands for
itself where there is no escape. -/
def escapeByte (t : Text) : UInt8 × Text :=
  match t with
  | [] => (92, [])
  | g :: rest =>
    if isOctal g then
      let digits := (t.take 3).takeWhile isOctal
      (UInt8.ofNat (Arithmetic.digitsIn 8 digits), t.drop digits.length)
    else
      match letterEscape? g with
      | some byte => (byte, rest)
      | none => (92, t)

/-- The bytes of a text with escapes, and whether it asks for the end of all output. An
octal escape may start with one more zero. -/
def escaped : (steps : Nat) → Text → List UInt8 × Bool
  | 0, _ => ([], false)
  | _, [] => ([], false)
  | steps + 1, .char '\\' :: rest =>
    match rest with
    | .char 'c' :: _ => ([], true)
    | _ =>
      let rest := match rest with
        | .char '0' :: g :: more => if isOctal g then g :: more else rest
        | _ => rest
      let (byte, after) := escapeByte rest
      let (more, ends) := escaped steps after
      (byte :: more, ends)
  | steps + 1, g :: rest =>
    let (more, ends) := escaped steps rest
    (g.encode ++ more, ends)

/-- The bytes of an escape by the number of a character, after its letter, and what
follows. A character that is no single byte is left as it is. -/
def numberedEscape (letter : Char) (t : Text) : Option (List UInt8 × Text) :=
  let size := if letter = 'x' then 2 else if letter = 'u' then 4 else 8
  let digits := (t.take size).takeWhile (Arithmetic.isDigitIn 16)
  let n := Arithmetic.digitsIn 16 digits
  let after := t.drop digits.length
  if digits.isEmpty || (letter ≠ 'x' && digits.length < size) then none
  else if letter = 'x' || n < 128 then some ([UInt8.ofNat n], after)
  else some (92 :: Text.encode (.char letter :: digits), after)

/-- The letters of the escapes by the number of a character. -/
def numberedLetters : List Char := ['x', 'u', 'U']

/-- How a text with escapes comes out. -/
structure Unescaped where
  bytes : List UInt8
  ended : Bool
  flawed : Bool

/-- The text with escapes that a program knows. Of those by number it knows the ones with
the given letters. -/
def programEscaped (letters : List Char) : (steps : Nat) → Text → Unescaped
  | 0, _ => ⟨[], false, false⟩
  | _, [] => ⟨[], false, false⟩
  | steps + 1, .char '\\' :: .char c :: rest =>
    let before := fun (bytes : List UInt8) (after : Text) (flawed : Bool) =>
      let more := programEscaped letters steps after
      Unescaped.mk (bytes ++ more.bytes) more.ended (flawed || more.flawed)
    if c = 'c' then ⟨[], true, false⟩
    else if letters.contains c then
      match numberedEscape c rest with
      | some (bytes, after) => before bytes after false
      | none => before [92, UInt8.ofNat c.toNat] rest true
    else
      let (byte, after) := escapeByte (match c, rest with
        | '0', g :: more => if isOctal g then g :: more else .char c :: rest
        | _, _ => .char c :: rest)
      before [byte] after false
  | steps + 1, g :: rest =>
    let more := programEscaped letters steps rest
    ⟨g.encode ++ more.bytes, more.ended, more.flawed⟩

def echoed (words : List Text) : List UInt8 :=
  let (noLine, words) := match words with
    | [.char '-', .char 'n'] :: rest => (true, rest)
    | _ => (false, words)
  let line := Text.join " " words
  let (bytes, ends) := escaped (line.length + 1) line
  if noLine || ends then bytes else bytes ++ [10]

/-! ## Directives -/

/-- How a directive writes its argument. -/
structure Directive where
  flags : List Char
  width : Nat
  precision : Option Nat
  letter : Char

namespace Directive

def has (d : Directive) (flag : Char) : Bool := d.flags.contains flag

/-- A text in a field of the width of a directive. `sign` stays in front of zeros that fill
the field, if any may. -/
def pad (d : Directive) (zeros : Bool) (sign body : List UInt8) : List UInt8 :=
  let missing := d.width - sign.length - body.length
  if d.has '-' then sign ++ body ++ List.replicate missing 32
  else if zeros then sign ++ List.replicate missing 48 ++ body
  else List.replicate missing 32 ++ sign ++ body

def bytes (cs : List Char) : List UInt8 := (Text.ofChars cs).encode

def sign (d : Directive) (negative : Bool) : List UInt8 :=
  if negative then [45] else if d.has '+' then [43] else if d.has ' ' then [32] else []

def integer (d : Directive) (n : Int) : List UInt8 :=
  let digits := if d.precision = some 0 && n = 0 then [] else Decimal.wide (d.precision.getD 1) n.natAbs
  d.pad (d.has '0' && d.precision.isNone) (d.sign (n < 0)) (bytes digits)

/-- A number without a sign, in the base of the directive. -/
def natural (d : Directive) (n : Nat) : List UInt8 :=
  let base := match d.letter with
    | 'o' => 8
    | 'x' | 'X' => 16
    | _ => 10
  let digits := if d.precision = some 0 && n = 0 then [] else Nat.toDigits base n
  let digits := List.replicate (d.precision.getD 1 - digits.length) '0' ++ digits
  let digits := if d.letter = 'X' then digits.map Char.toUpper else digits
  let digits := if d.letter = 'o' && d.has '#' && digits.head? ≠ some '0' then '0' :: digits else digits
  let front := if d.has '#' && n ≠ 0 && base = 16 then ['0', d.letter] else []
  d.pad (d.has '0' && d.precision.isNone) (bytes front) (bytes digits)

def float (d : Directive) (x : Float) : List UInt8 :=
  let spell := fun (s : List Char) => bytes (if d.letter.isUpper then s.map Char.toUpper else s)
  match Binary64.ofFloat x with
  | .nan => d.pad false (d.sign false) (spell "nan".toList)
  | .infinite negative => d.pad false (d.sign negative) (spell "inf".toList)
  | .finite negative m e =>
    let f := Fraction.ofBinary m e
    let places := d.precision.getD 6
    let digits := match d.letter.toLower with
      | 'f' => Decimal.fixed (d.has '#') places f
      | 'e' => Decimal.exponential (d.has '#') places f
      | _ => Decimal.general (d.has '#') places f
    d.pad (d.has '0') (d.sign negative) (spell digits)

/-- Bytes of which the precision may be the most that are written. -/
def text (d : Directive) (data : List UInt8) : List UInt8 :=
  d.pad false [] (match d.precision with
    | some most => data.take most
    | none => data)

end Directive

/-! ## Numbers of arguments -/

/-- What was found where a number should stand. -/
inductive NumberFlaw where
  | none
  | missing
  | unfinished
  | outOfRange
deriving DecidableEq

def NumberFlaw.ofRest (whole rest : Text) (inRange : Bool) : NumberFlaw :=
  if rest.isEmpty then (if inRange then .none else .outOfRange)
  else if rest.length = whole.length then .missing else .unfinished

/-- The integer at the start of an argument. A quote in front stands for the byte that
follows it. -/
def integerArgument (signed : Bool) (t : Text) : Int × NumberFlaw :=
  match t with
  | .char '\'' :: rest | .char '"' :: rest =>
    (((Text.encode rest).head?.map UInt8.toNat).getD 0, .none)
  | _ =>
    let (n, rest) := (Arithmetic.numberPart? t).getD (0, t)
    let most : Int := if signed then Arithmetic.maxNumber else (Nat.pow 2 64 - 1 : Nat)
    let (low, high) := (if signed then -most - 1 else -most, most)
    let inRange := low ≤ n && n ≤ high
    let value := if inRange then n else if signed && n < 0 then low else high
    (value, .ofRest t rest inRange)

/-- The floating-point number at the start of an argument, and what follows it. -/
def floatPart? (t : Text) : Option (Float × Text) :=
  let isBlank := fun (g : Glyph) => g.char?.any fun c => c = ' ' || ('\t' ≤ c && c ≤ '\r')
  let t := t.dropWhile isBlank
  let (negative, body) := match t with
    | .char '-' :: rest => (true, rest)
    | .char '+' :: rest => (false, rest)
    | _ => (false, t)
  let signed := fun (x : Float) => if negative then -x else x
  let starts := fun (word : String) =>
    ((body.take word.length).filterMap Glyph.char?).map Char.toLower == word.toList
  if starts "infinity" then some (signed (1.0 / 0.0), body.drop 8)
  else if starts "inf" then some (signed (1.0 / 0.0), body.drop 3)
  else if starts "nan" then some (signed (0.0 / 0.0), body.drop 3)
  else if starts "0x" && (body.drop 2).head?.any (Arithmetic.isDigitIn 16) then
    let digits := (body.drop 2).takeWhile (Arithmetic.isDigitIn 16)
    let value := Decimal.toFloat (Arithmetic.digitsIn 16 digits) 0
    some (signed value, body.drop (2 + digits.length))
  else
    let isDigit := Reading.isDigit
    let whole := body.takeWhile isDigit
    let rest := body.drop whole.length
    let (places, rest) := match rest with
      | .char '.' :: after => (after.takeWhile isDigit, after.dropWhile isDigit)
      | _ => ([], rest)
    if whole.isEmpty && places.isEmpty then none
    else
      let (exponent, rest) : Int × Text := match rest with
        | .char e :: after =>
          if e = 'e' || e = 'E' then
            let (minus, digits) := match after with
              | .char '-' :: digits => (true, digits)
              | .char '+' :: digits => (false, digits)
              | _ => (false, after)
            let power := digits.takeWhile isDigit
            if power.isEmpty then (0, rest)
            else
              let size : Int := Arithmetic.digitsIn 10 power
              (if minus then -size else size, digits.drop power.length)
          else (0, rest)
        | _ => (0, rest)
      some (signed (Decimal.toFloat (Arithmetic.digitsIn 10 (whole ++ places)) (exponent - places.length)), rest)

def floatArgument (t : Text) : Float × NumberFlaw :=
  match t with
  | .char '\'' :: rest | .char '"' :: rest =>
    (Float.ofNat (((Text.encode rest).head?.map UInt8.toNat).getD 0), .none)
  | _ =>
    match floatPart? t with
    | some (x, rest) => (x, .ofRest t rest true)
    | none => (0, .ofRest t t true)

/-! ## Formats -/

/-- Who prints with a format: a shell itself, or a program. -/
inductive Printer where
  | shell
  | program
deriving DecidableEq

/-- The state of printing with a format. -/
structure Printing where
  arguments : List Text
  used : Bool
  out : List (List UInt8)
  /-- What is complained of, the last first. -/
  complaints : List Text
  refused : Option Text
  ended : Bool

namespace Printing

abbrev Print := StateM Printing

def put (data : List UInt8) : Print Unit := modify fun s => { s with out := data :: s.out }

def next : Print (Option Text) := do
  let s ← get
  match s.arguments with
  | [] =>
    set { s with used := true }
    return none
  | t :: rest =>
    set { s with arguments := rest, used := true }
    return some t

def noNumber : Text := "missing hexadecimal number in escape"

def flawed (who : Printer) (t : Text) (flaw : NumberFlaw) : Print Unit := do
  let reason : Option Text := match who, flaw with
    | _, .none => none
    | .shell, .missing => some (t ++ ": expected numeric value")
    | .shell, .unfinished => some (t ++ ": not completely converted")
    | .shell, .outOfRange => some (t ++ ": Numerical result out of range")
    | .program, .missing => some ("'" ++ t ++ "': expected a numeric value")
    | .program, .unfinished => some ("'" ++ t ++ "': value not completely converted")
    | .program, .outOfRange => some ("'" ++ t ++ "': Numerical result out of range")
  if let some reason := reason then
    modify fun s => { s with complaints := reason :: s.complaints }

def nextInteger (who : Printer) (signed : Bool) : Print Int := do
  match ← next with
  | none => return 0
  | some t =>
    let (n, flaw) := integerArgument signed t
    flawed who t (if t.isEmpty && who = .program then .missing else flaw)
    return n

/-- Write the next argument as a directive says, and tell whether it can. -/
def direct (who : Printer) (d : Directive) : Print Bool := do
  match d.letter with
  | 'd' | 'i' =>
    put (d.integer (← nextInteger who true))
    return true
  | 'o' | 'u' | 'x' | 'X' =>
    put (d.natural ((← nextInteger who false) % (Nat.pow 2 64 : Nat)).toNat)
    return true
  | 'e' | 'E' | 'f' | 'F' | 'g' | 'G' =>
    match ← next with
    | none => put (d.float 0)
    | some t =>
      let (x, flaw) := floatArgument t
      flawed who t (if t.isEmpty && who = .program then .missing else flaw)
      put (d.float x)
    return true
  | 'c' =>
    let t := (← next).getD []
    put (d.pad false [] (if t.isEmpty then [0] else t.encode.take 1))
    return true
  | 's' =>
    put (d.text ((← next).getD []).encode)
    return true
  | 'b' =>
    let t := (← next).getD []
    let (data, ends) ← match who with
      | .shell => pure (escaped (t.length + 1) t)
      | .program => do
        let found := programEscaped numberedLetters (t.length + 1) t
        if found.flawed then modify fun s => { s with refused := some noNumber }
        pure (found.bytes, found.ended)
    put (d.text data)
    if ends then modify fun s => { s with ended := true }
    return true
  | _ => return false

/-- The width or precision at the start of a text: an argument or digits. -/
def size (who : Printer) (t : Text) : Print (Option Int × Text) := do
  match t with
  | .char '*' :: rest => return (some (← nextInteger who true), rest)
  | _ =>
    let digits := t.takeWhile Reading.isDigit
    return (if digits.isEmpty then none else some (Arithmetic.digitsIn 10 digits), t.drop digits.length)

def once (who : Printer) : (fuel : Nat) → Text → Print Unit
  | 0, _ => return
  | _, [] => return
  | fuel + 1, .char '\\' :: rest => do
    match who, rest with
    | .program, .char 'c' :: _ => modify fun s => { s with ended := true }
    | .program, .char '"' :: more =>
      put [34]
      once who fuel more
    | .program, .char c :: more =>
      if numberedLetters.contains c then
        match numberedEscape c more with
        | some (bytes, after) =>
          put bytes
          once who fuel after
        | none => modify fun s => { s with refused := some noNumber }
      else
        let (byte, after) := escapeByte rest
        put [byte]
        once who fuel after
    | _, _ =>
      let (byte, after) := escapeByte rest
      put [byte]
      once who fuel after
  | fuel + 1, .char '%' :: .char '%' :: rest => do
    put [37]
    once who fuel rest
  | fuel + 1, .char '%' :: rest => do
    let isFlag := fun (g : Glyph) => g.char?.any fun c => ['#', '-', '+', ' ', '0'].contains c
    let flags := (rest.takeWhile isFlag).filterMap Glyph.char?
    let (width, body) ← size who (rest.dropWhile isFlag)
    let (precision, body) : Option Int × Text ← match body with
      | .char '.' :: body => do
        let (found, body) ← size who body
        pure (some (found.getD 0), body)
      | _ => pure (none, body)
    let flags := if width.any (· < 0) then '-' :: flags else flags
    match body with
    | [] =>
      let reason : Text := match who with
        | .shell => "missing format character"
        | .program => .char '%' :: rest ++ ": invalid conversion specification"
      modify fun s => { s with refused := some reason }
    | g :: after =>
      let d : Directive :=
        ⟨flags, (width.getD 0).natAbs, precision.bind fun p => if p < 0 then none else some p.toNat,
          g.char?.getD '?'⟩
      if ← direct who d then
        if !(← get).ended then once who fuel after
      else
        let shown := .char '%' :: rest.take (rest.length - after.length)
        let reason : Text := match who with
          | .shell => shown ++ ": invalid directive"
          | .program => shown ++ ": invalid conversion specification"
        modify fun s => { s with refused := some reason }
  | fuel + 1, g :: rest => do
    put g.encode
    once who fuel rest

def rounds (who : Printer) (format : Text) : (fuel : Nat) → Print Unit
  | 0 => return
  | fuel + 1 => do
    modify fun s => { s with used := false }
    once who (format.length + 1) format
    let s ← get
    if s.used && !s.arguments.isEmpty && s.refused.isNone && !s.ended then rounds who format fuel

end Printing

/-- Print arguments with a format. The format is used again as long as arguments are
left. -/
def printed (who : Printer) (format : Text) (arguments : List Text) : Printing :=
  ((Printing.rounds who format (arguments.length + 1)).run
    ⟨arguments, false, [], [], none, false⟩).2

def Printing.bytes (p : Printing) : List UInt8 := p.out.reverse.flatten

end StageParity.Script
