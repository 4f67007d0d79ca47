import StageParity.Text.Glyph

/-!
# UTF-8

Reading bytes as text and writing text as bytes. `Text.decode` keeps a byte that
belongs to no well-formed sequence as a stray glyph, so `Text.encode` gives the
bytes back. `Text.readable` puts one replacement character in place of each
longest malformed piece instead.
-/

namespace StageParity

namespace Utf8

/-- What a lead byte calls for: how many bytes follow it, and the range in which
the first of them lies. Later ones lie between 0x80 and 0xBF. -/
structure Follow where
  count : Nat
  low : Nat
  high : Nat

/-- The bytes that must follow a lead byte, if it can lead a sequence at all. The
ranges leave out overlong forms, surrogates and values above U+10FFFF. -/
def follow? (lead : UInt8) : Option Follow :=
  let b := lead.toNat
  if b < 0x80 then some ⟨0, 0, 0⟩
  else if b < 0xC2 then none
  else if b < 0xE0 then some ⟨1, 0x80, 0xBF⟩
  else if b = 0xE0 then some ⟨2, 0xA0, 0xBF⟩
  else if b = 0xED then some ⟨2, 0x80, 0x9F⟩
  else if b < 0xF0 then some ⟨2, 0x80, 0xBF⟩
  else if b = 0xF0 then some ⟨3, 0x90, 0xBF⟩
  else if b < 0xF4 then some ⟨3, 0x80, 0xBF⟩
  else if b = 0xF4 then some ⟨3, 0x80, 0x8F⟩
  else none

def within (low high : Nat) (b : UInt8) : Bool := low ≤ b.toNat && b.toNat ≤ high

/-- The front of a byte list: a whole character, or a malformed piece, each with
its width in bytes less one. -/
inductive Front where
  | scalar (c : Char) (more : Nat)
  | broken (more : Nat)

/-- The six low bits of a following byte. -/
def payload (b : UInt8) : Nat := b.toNat % 64

/-- Read the sequence that `lead` begins. A malformed piece is the longest part
that could still have become a character. -/
def front (lead : UInt8) (rest : List UInt8) : Front :=
  match follow? lead with
  | none => .broken 0
  | some ⟨0, _, _⟩ => .scalar (Char.ofNat lead.toNat) 0
  | some ⟨1, low, high⟩ =>
    match rest with
    | b :: _ =>
      if within low high b then
        .scalar (Char.ofNat (lead.toNat % 32 * 64 + payload b)) 1
      else .broken 0
    | [] => .broken 0
  | some ⟨2, low, high⟩ =>
    match rest with
    | b :: c :: _ =>
      if within low high b then
        if within 0x80 0xBF c then
          .scalar (Char.ofNat ((lead.toNat % 16 * 64 + payload b) * 64 + payload c)) 2
        else .broken 1
      else .broken 0
    | [b] => .broken (if within low high b then 1 else 0)
    | [] => .broken 0
  | some ⟨_, low, high⟩ =>
    match rest with
    | b :: c :: d :: _ =>
      if within low high b then
        if within 0x80 0xBF c then
          if within 0x80 0xBF d then
            .scalar (Char.ofNat
              (((lead.toNat % 8 * 64 + payload b) * 64 + payload c) * 64 + payload d)) 3
          else .broken 2
        else .broken 1
      else .broken 0
    | [b, c] =>
      .broken (if within low high b then if within 0x80 0xBF c then 2 else 1 else 0)
    | [b] => .broken (if within low high b then 1 else 0)
    | [] => .broken 0

/-- The glyph of a byte that stands alone. A byte below 0x80 is its own character. -/
def lone (b : UInt8) : Glyph :=
  if h : 128 ≤ b.toNat then .stray ⟨b.toNat - 128, by have := b.toNat_lt; omega⟩
  else .char (Char.ofNat b.toNat)

/-- Read bytes after skipping the first `skip` of them, which belong to a
character already read. -/
def decodeFrom : (skip : Nat) → List UInt8 → Text
  | _, [] => []
  | skip + 1, _ :: rest => decodeFrom skip rest
  | 0, b :: rest =>
    match front b rest with
    | .scalar c more => .char c :: decodeFrom more rest
    | .broken _ => lone b :: decodeFrom 0 rest

def replacement : Glyph := .char (Char.ofNat 0xFFFD)

/-- Read bytes as `decodeFrom` does, with one replacement character for each
malformed piece. -/
def readableFrom : (skip : Nat) → List UInt8 → Text
  | _, [] => []
  | skip + 1, _ :: rest => readableFrom skip rest
  | 0, b :: rest =>
    match front b rest with
    | .scalar c more => .char c :: readableFrom more rest
    | .broken more => replacement :: readableFrom more rest

end Utf8

namespace Glyph

/-- The bytes of a glyph. A half of a pair is written like a character of its code point,
in three bytes that do not decode. -/
def encode : Glyph → List UInt8
  | .char c => String.utf8EncodeChar c
  | .stray low => [UInt8.ofNat (128 + low.val)]
  | g@(.half _) =>
    [0xED, UInt8.ofNat (0x80 + g.rank / 64 % 64), UInt8.ofNat (0x80 + g.rank % 64)]

end Glyph

namespace Text

/-- The text of a byte list; bytes that do not decode become stray glyphs. -/
def decode (bytes : List UInt8) : Text := Utf8.decodeFrom 0 bytes

def bytewise (bytes : List UInt8) : Text := bytes.map Utf8.lone

def encode (t : Text) : List UInt8 := t.flatMap Glyph.encode

/-- The characters of a byte list, one replacement character for each malformed
piece. -/
def readable (bytes : List UInt8) : Text := Utf8.readableFrom 0 bytes

/-- The form of a text that can always be printed. Stray bytes that meet may form
characters here that they did not form in the text. -/
def printable (t : Text) : Text := readable t.encode

def wellFormed (bytes : List UInt8) : Bool := (decode bytes).all Glyph.isChar

end Text

end StageParity
