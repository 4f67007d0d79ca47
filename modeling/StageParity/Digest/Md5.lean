import StageParity.Digest.Sha256

/-!
# MD5

The digest of 128 bits of RFC 1321. Words have their low byte first.
-/

namespace StageParity.Md5

def roundConstants : List UInt32 :=
  [0xd76aa478, 0xe8c7b756, 0x242070db, 0xc1bdceee, 0xf57c0faf, 0x4787c62a, 0xa8304613, 0xfd469501,
   0x698098d8, 0x8b44f7af, 0xffff5bb1, 0x895cd7be, 0x6b901122, 0xfd987193, 0xa679438e, 0x49b40821,
   0xf61e2562, 0xc040b340, 0x265e5a51, 0xe9b6c7aa, 0xd62f105d, 0x02441453, 0xd8a1e681, 0xe7d3fbc8,
   0x21e1cde6, 0xc33707d6, 0xf4d50d87, 0x455a14ed, 0xa9e3e905, 0xfcefa3f8, 0x676f02d9, 0x8d2a4c8a,
   0xfffa3942, 0x8771f681, 0x6d9d6122, 0xfde5380c, 0xa4beea44, 0x4bdecfa9, 0xf6bb4b60, 0xbebfbc70,
   0x289b7ec6, 0xeaa127fa, 0xd4ef3085, 0x04881d05, 0xd9d4d039, 0xe6db99e5, 0x1fa27cf8, 0xc4ac5665,
   0xf4292244, 0x432aff97, 0xab9423a7, 0xfc93a039, 0x655b59c3, 0x8f0ccc92, 0xffeff47d, 0x85845dd1,
   0x6fa87e4f, 0xfe2ce6e0, 0xa3014314, 0x4e0811a1, 0xf7537e82, 0xbd3af235, 0x2ad7d2bb, 0xeb86d391]

/-- How far each round rotates; each group of four repeats. -/
def rotations : List (List UInt32) := [[7, 12, 17, 22], [5, 9, 14, 20], [4, 11, 16, 23], [6, 10, 15, 21]]

/-- The words of a digest under way. -/
structure State where
  a : UInt32
  b : UInt32
  c : UInt32
  d : UInt32

def State.initial : State := ⟨0x67452301, 0xefcdab89, 0x98badcfe, 0x10325476⟩

def rotate (x n : UInt32) : UInt32 := (x <<< n) ||| (x >>> (32 - n))

/-- The words of a byte list, four bytes each, low byte first. -/
def words : List UInt8 → List UInt32
  | a :: b :: c :: d :: rest =>
    (a.toUInt32 ||| (b.toUInt32 <<< 8) ||| (c.toUInt32 <<< 16) ||| (d.toUInt32 <<< 24)) :: words rest
  | _ => []

def State.round (block : List UInt32) (s : State) (i : Nat) : State :=
  let (mix, place) : UInt32 × Nat :=
    match i / 16 with
    | 0 => ((s.b &&& s.c) ||| ((~~~ s.b) &&& s.d), i)
    | 1 => ((s.d &&& s.b) ||| ((~~~ s.d) &&& s.c), (5 * i + 1) % 16)
    | 2 => (s.b ^^^ s.c ^^^ s.d, (3 * i + 5) % 16)
    | _ => (s.c ^^^ (s.b ||| (~~~ s.d)), (7 * i) % 16)
  let sum := s.a + mix + roundConstants.getD i 0 + block.getD place 0
  let turned := rotate sum (((rotations.getD (i / 16) []).getD (i % 4) 0))
  ⟨s.d, s.b + turned, s.b, s.c⟩

def State.absorb (s : State) (block : List UInt32) : State :=
  let t := (List.range 64).foldl (State.round block) s
  ⟨s.a + t.a, s.b + t.b, s.c + t.c, s.d + t.d⟩

def State.absorbAll : (count : Nat) → State → List UInt32 → State
  | 0, s, _ => s
  | count + 1, s, words => State.absorbAll count (s.absorb (words.take 16)) (words.drop 16)

/-- The bytes put after a message of `length` bytes: a one bit, zeros, and the length in
bits as eight bytes. -/
def padding (length : Nat) : List UInt8 :=
  let zeros := (119 - length % 64) % 64
  0x80 :: List.replicate zeros 0 ++ (List.range 8).map fun k => UInt8.ofNat (8 * length / Nat.pow 256 k)

/-- The digest of a byte list as thirty-two hexadecimal digits. -/
def hex (bytes : List UInt8) : Text :=
  let padded := words (bytes ++ padding bytes.length)
  let s := State.absorbAll (padded.length / 16) State.initial padded
  Text.ofChars ([s.a, s.b, s.c, s.d].flatMap fun word =>
    (List.range 4).flatMap fun k => hexDigits 2 (word.toNat / Nat.pow 256 k % 256))

end StageParity.Md5
