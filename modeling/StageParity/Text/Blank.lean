import StageParity.Text.Glyph

/-!
# Blank characters and line ends

The characters that count as blank space, and the cutting of a text into lines.
-/

namespace StageParity

/-- Blank space: the white-space characters, and the four separators from U+001C
to U+001F. -/
def isBlank (c : Char) : Bool :=
  let n := c.toNat
  (9 ≤ n && n ≤ 13) || (0x1C ≤ n && n ≤ 0x20) || n == 0x85 || n == 0xA0 || n == 0x1680 ||
    (0x2000 ≤ n && n ≤ 0x200A) || n == 0x2028 || n == 0x2029 || n == 0x202F || n == 0x205F ||
    n == 0x3000

/-- The characters that end a line. A carriage return with a line feed after it is
one end. -/
def endsLine (c : Char) : Bool :=
  let n := c.toNat
  (10 ≤ n && n ≤ 13) || (0x1C ≤ n && n ≤ 0x1E) || n == 0x85 || n == 0x2028 || n == 0x2029

namespace Glyph

def isBlank : Glyph → Bool
  | .char c => StageParity.isBlank c
  | _ => false

def endsLine : Glyph → Bool
  | .char c => StageParity.endsLine c
  | _ => false

end Glyph

namespace Text

def trimEnd (t : Text) : Text := t.dropEnd Glyph.isBlank

/-- The lines of a text after `line`, the glyphs of the unfinished first line in
reverse. -/
def linesFrom (line : Text) : Text → List Text
  | [] => if line.isEmpty then [] else [line.reverse]
  | .char '\r' :: .char '\n' :: rest => line.reverse :: linesFrom [] rest
  | g :: rest =>
    if g.endsLine then line.reverse :: linesFrom [] rest else linesFrom (g :: line) rest

/-- The lines of a text without their ends. A line end at the very end of the text
opens no further line. -/
def lines (t : Text) : List Text := linesFrom [] t

end Text

end StageParity
