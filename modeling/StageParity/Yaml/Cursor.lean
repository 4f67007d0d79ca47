import StageParity.Text.Glyph

/-!
# Reading positions

A cursor stands in a character list and knows its line and column. Past the end it
sees the null character, which a readable text never holds.
-/

namespace StageParity.Yaml

/-- Why a text stands for no value. -/
inductive Fault where
  /-- The text breaks the rules of the notation. -/
  | malformed
  /-- A scalar has a form that its type does not allow. -/
  | badValue (message : Text)
  | unknownBool (word : Text)
  | emptyNumber
  /-- A scalar that should be a date is none. -/
  | notTimestamp
  /-- A collection stands where a date should. -/
  | datelessMapping
  | hugeCode
  | tooLarge
  /-- A scalar is given by a mapping that gives itself. -/
  | endless

/-- A place in a text. -/
structure Cursor where
  rest : List Char
  index : Nat
  line : Nat
  column : Nat

namespace Cursor

def start (text : List Char) : Cursor := ⟨text, 0, 0, 0⟩

def finish : Char := '\x00'

def peekAt (c : Cursor) (n : Nat) : Char := c.rest.getD n finish

def peek (c : Cursor) : Char := c.peekAt 0

def ahead (c : Cursor) (n : Nat) : List Char := c.rest.take n

/-- The characters that end a line wherever they stand. -/
def isNewline (ch : Char) : Bool :=
  ch == '\n' || ch == '\x85' || ch == '\u2028' || ch == '\u2029'

def forward (c : Cursor) : Cursor :=
  match c.rest with
  | [] => c
  | ch :: rest =>
    if isNewline ch || (ch == '\r' && rest.head? != some '\n') then
      ⟨rest, c.index + 1, c.line + 1, 0⟩
    else if ch == '\ufeff' then ⟨rest, c.index + 1, c.line, c.column⟩
    else ⟨rest, c.index + 1, c.line, c.column + 1⟩

def skip : Nat → Cursor → Cursor
  | 0, c => c
  | n + 1, c => skip n c.forward

/-- The characters from the cursor on that satisfy a test, and the cursor after them. -/
def span (c : Cursor) (test : Char → Bool) : List Char × Cursor :=
  let taken := c.rest.takeWhile test
  (taken, c.skip taken.length)

def dropWhile (c : Cursor) (test : Char → Bool) : Cursor := (c.span test).2

def isBreak (ch : Char) : Bool := ch == '\r' || isNewline ch

def isBreakOrEnd (ch : Char) : Bool := isBreak ch || ch == finish

def isSpaceOrEnd (ch : Char) : Bool := ch == ' ' || isBreakOrEnd ch

/-- Whether a character is a space or a tab, breaks a line or ends the text. -/
def isGapOrEnd (ch : Char) : Bool := ch == '\t' || isSpaceOrEnd ch

/-- The line break at the cursor as it counts in a scalar, and the cursor after it;
nothing when there is no break. -/
def lineBreak (c : Cursor) : List Char × Cursor :=
  let ch := c.peek
  if ch == '\r' || ch == '\n' || ch == '\x85' then
    (['\n'], if c.ahead 2 == ['\r', '\n'] then c.skip 2 else c.forward)
  else if ch == '\u2028' || ch == '\u2029' then ([ch], c.forward)
  else ([], c)

def atDocumentMark (c : Cursor) : Bool :=
  let three := c.ahead 3
  (three == ['-', '-', '-'] || three == ['.', '.', '.']) && isGapOrEnd (c.peekAt 3)

def toLineEnd (c : Cursor) : Cursor := c.dropWhile fun ch => !isBreakOrEnd ch

/-- The cursor after spaces, a comment and a line break, where nothing else may
stand. -/
def restOfLine (c : Cursor) : Except Fault Cursor :=
  let c := c.dropWhile (· == ' ')
  let c := if c.peek == '#' then c.toLineEnd else c
  if isBreakOrEnd c.peek then .ok c.lineBreak.2 else .error .malformed

end Cursor

def isNameChar (ch : Char) : Bool := ch.isAlphanum || ch == '-' || ch == '_'

def hexValue? (ch : Char) : Option Nat :=
  if ch.isDigit then some (ch.toNat - '0'.toNat)
  else if 'a' ≤ ch && ch ≤ 'f' then some (ch.toNat - 'a'.toNat + 10)
  else if 'A' ≤ ch && ch ≤ 'F' then some (ch.toNat - 'A'.toNat + 10)
  else none

def hexNumber? (digits : List Char) : Option Nat :=
  digits.foldlM (fun n ch => (hexValue? ch).map (16 * n + ·)) 0

end StageParity.Yaml
