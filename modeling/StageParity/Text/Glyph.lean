/-!
# Text that keeps undecodable bytes

A `Text` is a list of glyphs. A glyph is a character, or one byte that is not
part of any well-formed character. Text read from bytes therefore forgets
nothing, and text that holds characters only is `Clean`. Text that names code
points may also hold halves of surrogate pairs, which no bytes stand for.
-/

namespace StageParity

/-- One position of a text: a character, a byte `128 + low` that did not decode, or
the half of a surrogate pair. The halves from U+DC80 to U+DCFF are those of the
bytes. -/
inductive Glyph where
  | char (c : Char)
  | stray (low : Fin 128)
  | half (index : Fin 1920)
deriving DecidableEq

/-- A text that may hold undecodable bytes. -/
abbrev Text := List Glyph

namespace Glyph

instance : Inhabited Glyph := ⟨.char ' '⟩

def isChar : Glyph → Bool
  | .char _ => true
  | _ => false

def char? : Glyph → Option Char
  | .char c => some c
  | _ => none

/-- The code point of a glyph, which is its position in the order of texts.
Undecodable bytes stand in the surrogate gap. -/
def rank : Glyph → Nat
  | .char c => c.toNat
  | .stray low => 0xDC80 + low.val
  | .half index => if index.val < 0x480 then 0xD800 + index.val else 0xD880 + index.val

/-- The glyph of a code point below 0x110000. -/
def ofRank (code : Nat) : Glyph :=
  if h : 0xD800 ≤ code ∧ code < 0xDC80 then .half ⟨code - 0xD800, by omega⟩
  else if h : 0xDC80 ≤ code ∧ code < 0xDD00 then .stray ⟨code - 0xDC80, by omega⟩
  else if h : 0xDD00 ≤ code ∧ code < 0xE000 then .half ⟨code - 0xD880, by omega⟩
  else .char (Char.ofNat code)

end Glyph

namespace Text

def ofString (s : String) : Text := s.toList.map Glyph.char

instance : Coe String Text := ⟨ofString⟩

def ofChars (cs : List Char) : Text := cs.map Glyph.char

/-- A text is clean when every glyph of it is a character. -/
def Clean (t : Text) : Prop := ∀ g ∈ t, g.isChar = true

instance (t : Text) : Decidable t.Clean := by unfold Clean; infer_instance

def chars? (t : Text) : Option (List Char) := t.mapM Glyph.char?

def join (separator : Text) (parts : List Text) : Text := separator.intercalate parts

/-- The text without the given glyph at its end, however often it stands there. -/
def dropEnd (t : Text) (drops : Glyph → Bool) : Text := (t.reverse.dropWhile drops).reverse

def ofNat (n : Nat) : Text := ofChars (Nat.toDigits 10 n)

/-- The decimal digits of an integer, a minus sign before a negative one. -/
def ofInt : Int → Text
  | .ofNat n => ofNat n
  | .negSucc n => .char '-' :: ofNat (n + 1)

/-- The order of texts by the ranks of their glyphs, a proper beginning first. -/
def le : Text → Text → Bool
  | [], _ => true
  | _ :: _, [] => false
  | a :: s, b :: t => a.rank < b.rank || (a.rank == b.rank && le s t)

/-- The part before the first occurrence of a glyph, and the part after it if
there is one. -/
def splitFirst (mark : Glyph) : Text → Text × Option Text
  | [] => ([], none)
  | g :: rest =>
    if g = mark then ([], some rest)
    else
      let (before, after) := splitFirst mark rest
      (g :: before, after)

/-- The maximal parts of a text between occurrences of a glyph. -/
def splitOn (mark : Glyph) : Text → List Text
  | [] => [[]]
  | g :: rest =>
    if g = mark then [] :: splitOn mark rest
    else
      match splitOn mark rest with
      | [] => [[g]]
      | part :: parts => (g :: part) :: parts

end Text

end StageParity
