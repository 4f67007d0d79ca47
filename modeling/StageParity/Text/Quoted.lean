import StageParity.Text.Glyph
import StageParity.Text.Graphic

/-!
# Quoted text

A text between quotes in which everything that is not graphic is written as an
escape. Single quotes are used, unless the text holds a single quote and no
double quote.
-/

namespace StageParity

def hexDigit (n : Nat) : Char := Nat.digitChar (n % 16)

def hexDigits : (width : Nat) → Nat → List Char
  | 0, _ => []
  | width + 1, n => hexDigits width (n / 16) ++ [hexDigit n]

namespace Quoted

/-- The numeric escape of a code point: two, four or eight hexadecimal digits. -/
def escapeCode (n : Nat) : List Char :=
  if n < 0x100 then '\\' :: 'x' :: hexDigits 2 n
  else if n < 0x10000 then '\\' :: 'u' :: hexDigits 4 n
  else '\\' :: 'U' :: hexDigits 8 n

/-- The written form of one glyph between marks `mark`. -/
def escape (mark : Char) : Glyph → List Char
  | .char c =>
    if c = '\\' || c = mark then ['\\', c]
    else if c = '\n' then ['\\', 'n']
    else if c = '\r' then ['\\', 'r']
    else if c = '\t' then ['\\', 't']
    else if isGraphic c then [c]
    else escapeCode c.toNat
  | g => escapeCode g.rank

def mark (t : Text) : Char :=
  if t.contains (.char '\'') && !t.contains (.char '"') then '"' else '\''

end Quoted

def Text.quoted (t : Text) : Text :=
  let mark := Quoted.mark t
  .char mark :: Text.ofChars (t.flatMap (Quoted.escape mark)) ++ [.char mark]

end StageParity
