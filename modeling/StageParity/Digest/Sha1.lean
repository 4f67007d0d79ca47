import StageParity.Digest.Sha256

/-!
# SHA-1

The digest of 160 bits of FIPS 180. Padding and words are those of SHA-256.
-/

namespace StageParity.Sha1

structure State where
  a : UInt32
  b : UInt32
  c : UInt32
  d : UInt32
  e : UInt32

def State.initial : State := ⟨0x67452301, 0xefcdab89, 0x98badcfe, 0x10325476, 0xc3d2e1f0⟩

def rotate (x n : UInt32) : UInt32 := (x <<< n) ||| (x >>> (32 - n))

def nextWord (window : List UInt32) : UInt32 :=
  rotate (window.getD 13 0 ^^^ window.getD 8 0 ^^^ window.getD 2 0 ^^^ window.getD 0 0) 1

/-- The first `count` words of the schedule that begins with the window. -/
def schedule : (count : Nat) → (window : List UInt32) → List UInt32
  | 0, _ => []
  | count + 1, window => window.headD 0 :: schedule count (window.tail ++ [nextWord window])

def State.round (s : State) (entry : UInt32 × Nat) : State :=
  let (word, i) := entry
  let (mix, constant) : UInt32 × UInt32 :=
    match i / 20 with
    | 0 => ((s.b &&& s.c) ||| ((~~~ s.b) &&& s.d), 0x5a827999)
    | 1 => (s.b ^^^ s.c ^^^ s.d, 0x6ed9eba1)
    | 2 => ((s.b &&& s.c) ||| (s.b &&& s.d) ||| (s.c &&& s.d), 0x8f1bbcdc)
    | _ => (s.b ^^^ s.c ^^^ s.d, 0xca62c1d6)
  ⟨rotate s.a 5 + mix + s.e + constant + word, s.a, rotate s.b 30, s.c, s.d⟩

def State.absorb (s : State) (block : List UInt32) : State :=
  let t := (schedule 80 block).zipIdx.foldl State.round s
  ⟨s.a + t.a, s.b + t.b, s.c + t.c, s.d + t.d, s.e + t.e⟩

def State.absorbAll : (count : Nat) → State → List UInt32 → State
  | 0, s, _ => s
  | count + 1, s, words => State.absorbAll count (s.absorb (words.take 16)) (words.drop 16)

def hex (bytes : List UInt8) : Text :=
  let padded := Sha256.words (bytes ++ Sha256.padding bytes.length)
  let s := State.absorbAll (padded.length / 16) State.initial padded
  Text.ofChars ([s.a, s.b, s.c, s.d, s.e].flatMap fun word => hexDigits 8 word.toNat)

end StageParity.Sha1
