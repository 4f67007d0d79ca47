import StageParity.Text.Utf8
import Mathlib.Tactic.SplitIfs

/-!
# Reading bytes in two parts

`Text.decode` reads a byte list piece by piece: a whole character, or a byte at which none
starts (`Utf8.pieces`). So it forgets nothing (`Utf8.encode_decode`). It is not compatible with
concatenation: a character that lies on both sides of a seam is read byte by byte. Reading two
lists apart therefore tells where the seam tears a character, and it tells nothing else
(`Utf8.decode_append_eq_iff`).
-/

namespace StageParity

namespace Utf8

theorem within_iff {low high : Nat} {b : UInt8} :
    within low high b = true ↔ low ≤ b.toNat ∧ b.toNat ≤ high := by
  simp [within]

theorem ofNat_eq_iff {n : Nat} {b : UInt8} : UInt8.ofNat n = b ↔ n % 256 = b.toNat := by
  rw [← UInt8.toNat_inj, UInt8.toNat_ofNat']

/-- The code of a character lies outside the surrogate gap. -/
theorem code_valid (c : Char) :
    c.val.toNat < 0xD800 ∨ 0xDFFF < c.val.toNat ∧ c.val.toNat < 0x110000 := c.valid

theorem code_ofNat {n : Nat} (valid : n < 0xD800 ∨ 0xDFFF < n ∧ n < 0x110000) :
    (Char.ofNat n).val.toNat = n := by
  rw [Char.ofNat, dif_pos valid]
  rfl

/-- The ranges that a lead byte allows keep the code in the range of its width. -/
theorem follow?_eq_some_iff {lead : UInt8} {count low high : Nat} :
    follow? lead = some ⟨count, low, high⟩ ↔
    (count = 0 ∧ low = 0 ∧ high = 0 ∧ lead.toNat < 0x80) ∨
    (count = 1 ∧ 0xC2 ≤ lead.toNat ∧ lead.toNat < 0xE0 ∧ low = 0x80 ∧ high = 0xBF) ∨
    (count = 2 ∧ 0xE0 ≤ lead.toNat ∧ lead.toNat < 0xF0 ∧
      (lead.toNat = 0xE0 ∧ low = 0xA0 ∨ lead.toNat ≠ 0xE0 ∧ low = 0x80) ∧
      (lead.toNat = 0xED ∧ high = 0x9F ∨ lead.toNat ≠ 0xED ∧ high = 0xBF)) ∨
    (count = 3 ∧ 0xF0 ≤ lead.toNat ∧ lead.toNat ≤ 0xF4 ∧
      (lead.toNat = 0xF0 ∧ low = 0x90 ∨ lead.toNat ≠ 0xF0 ∧ low = 0x80) ∧
      (lead.toNat = 0xF4 ∧ high = 0x8F ∨ lead.toNat ≠ 0xF4 ∧ high = 0xBF)) := by
  unfold follow?
  dsimp only
  by_cases ascii : lead.toNat < 0x80
  · rw [if_pos ascii]
    simp only [Option.some.injEq, Follow.mk.injEq]
    constructor
    · rintro ⟨rfl, rfl, rfl⟩
      exact .inl ⟨rfl, rfl, rfl, ascii⟩
    · rintro (⟨rfl, rfl, rfl, -⟩ | ⟨-, beyond, -⟩ | ⟨-, beyond, -⟩ | ⟨-, beyond, -⟩)
      · exact ⟨rfl, rfl, rfl⟩
      all_goals omega
  rw [if_neg ascii]
  by_cases early : lead.toNat < 0xC2
  · rw [if_pos early]
    simp only [reduceCtorEq, false_iff]
    omega
  rw [if_neg early]
  by_cases two : lead.toNat < 0xE0
  · rw [if_pos two]
    simp only [Option.some.injEq, Follow.mk.injEq]
    omega
  rw [if_neg two]
  by_cases lowest : lead.toNat = 0xE0
  · rw [if_pos lowest]
    simp only [Option.some.injEq, Follow.mk.injEq]
    omega
  rw [if_neg lowest]
  by_cases surrogate : lead.toNat = 0xED
  · rw [if_pos surrogate]
    simp only [Option.some.injEq, Follow.mk.injEq]
    omega
  rw [if_neg surrogate]
  by_cases three : lead.toNat < 0xF0
  · rw [if_pos three]
    simp only [Option.some.injEq, Follow.mk.injEq]
    omega
  rw [if_neg three]
  by_cases low : lead.toNat = 0xF0
  · rw [if_pos low]
    simp only [Option.some.injEq, Follow.mk.injEq]
    omega
  rw [if_neg low]
  by_cases four : lead.toNat < 0xF4
  · rw [if_pos four]
    simp only [Option.some.injEq, Follow.mk.injEq]
    omega
  rw [if_neg four]
  by_cases last : lead.toNat = 0xF4
  · rw [if_pos last]
    simp only [Option.some.injEq, Follow.mk.injEq]
    omega
  rw [if_neg last]
  simp only [reduceCtorEq, false_iff]
  omega

/-- The parts of a code of three parts with six bits in the last two. -/
theorem parts_three {p q r : Nat} (second : q < 64) (third : r < 64) :
    ((p * 64 + q) * 64 + r) / 4096 = p ∧ ((p * 64 + q) * 64 + r) / 64 % 64 = q ∧
      ((p * 64 + q) * 64 + r) % 64 = r := by
  omega

/-- The parts of a code of four parts with six bits in the last three. -/
theorem parts_four {p q r t : Nat} (second : q < 64) (third : r < 64) (fourth : t < 64) :
    (((p * 64 + q) * 64 + r) * 64 + t) / 262144 = p ∧
      (((p * 64 + q) * 64 + r) * 64 + t) / 4096 % 64 = q ∧
      (((p * 64 + q) * 64 + r) * 64 + t) / 64 % 64 = r ∧
      (((p * 64 + q) * 64 + r) * 64 + t) % 64 = t := by
  omega

theorem of_continuing {n : Nat} (low : 0x80 ≤ n) (high : n ≤ 0xBF) : (n % 64 + 128) % 256 = n := by
  omega

theorem bytes_of_front {b : UInt8} {rest : List UInt8} {c : Char} {more : Nat}
    (read : front b rest = .scalar c more) :
    String.utf8EncodeChar c ++ rest.drop more = b :: rest := by
  match leads : follow? b with
  | none => simp [front, leads] at read
  | some ⟨0, low, high⟩ =>
    obtain ⟨rfl, rfl⟩ : Char.ofNat b.toNat = c ∧ 0 = more := by
      simpa [front, leads] using read
    obtain ⟨-, -, -, range⟩ | ⟨⟨⟩, -⟩ | ⟨⟨⟩, -⟩ | ⟨⟨⟩, -⟩ := follow?_eq_some_iff.mp leads
    have code := code_ofNat (n := b.toNat) (by omega)
    rw [String.utf8EncodeChar, code, if_pos (by omega)]
    simp
  | some ⟨1, low, high⟩ =>
    match rest with
    | [] => simp [front, leads] at read
    | x :: rest =>
      simp only [front, leads, payload, within_iff] at read
      split at read <;> simp only [Front.scalar.injEq, reduceCtorEq] at read
      obtain ⟨rfl, rfl⟩ := read
      obtain ⟨⟨⟩, -⟩ | ⟨-, range⟩ | ⟨⟨⟩, -⟩ | ⟨⟨⟩, -⟩ := follow?_eq_some_iff.mp leads
      have code := code_ofNat (n := b.toNat % 32 * 64 + x.toNat % 64) (by omega)
      rw [String.utf8EncodeChar, code, if_neg (by omega), if_pos (by omega)]
      simp only [List.cons_append, List.nil_append, List.drop_succ_cons, List.drop_zero,
        List.cons.injEq, and_true, ofNat_eq_iff]
      omega
  | some ⟨2, low, high⟩ =>
    match rest with
    | [] | [_] => simp [front, leads] at read
    | x :: y :: rest =>
      simp only [front, leads, payload, within_iff] at read
      split_ifs at read
      simp only [Front.scalar.injEq] at read
      obtain ⟨rfl, rfl⟩ := read
      obtain ⟨⟨⟩, -⟩ | ⟨⟨⟩, -⟩ | ⟨-, range⟩ | ⟨⟨⟩, -⟩ := follow?_eq_some_iff.mp leads
      have code := code_ofNat
        (n := (b.toNat % 16 * 64 + x.toNat % 64) * 64 + y.toNat % 64) (by omega)
      rw [String.utf8EncodeChar, code, if_neg (by omega), if_neg (by omega), if_pos (by omega)]
      have secondPart : x.toNat % 64 < 64 := Nat.mod_lt _ (by decide)
      have thirdPart : y.toNat % 64 < 64 := Nat.mod_lt _ (by decide)
      obtain ⟨first, second, third⟩ := parts_three (p := b.toNat % 16) secondPart thirdPart
      simp only [List.cons_append, List.nil_append, List.drop_succ_cons, List.drop_zero,
        List.cons.injEq, and_true, ofNat_eq_iff, first, second, third]
      clear code first second third
      exact ⟨by omega, of_continuing (by omega) (by omega), of_continuing (by omega) (by omega)⟩
  | some ⟨count + 3, low, high⟩ =>
    match rest with
    | [] | [_] | [_, _] => simp [front, leads] at read
    | x :: y :: z :: rest =>
      simp only [front, leads, payload, within_iff] at read
      split_ifs at read
      simp only [Front.scalar.injEq] at read
      obtain ⟨rfl, rfl⟩ := read
      obtain ⟨⟨⟩, -⟩ | ⟨⟨⟩, -⟩ | ⟨⟨⟩, -⟩ | ⟨-, range⟩ := follow?_eq_some_iff.mp leads
      have code := code_ofNat
        (n := ((b.toNat % 8 * 64 + x.toNat % 64) * 64 + y.toNat % 64) * 64 + z.toNat % 64)
        (by omega)
      rw [String.utf8EncodeChar, code, if_neg (by omega), if_neg (by omega), if_neg (by omega)]
      have secondPart : x.toNat % 64 < 64 := Nat.mod_lt _ (by decide)
      have thirdPart : y.toNat % 64 < 64 := Nat.mod_lt _ (by decide)
      have fourthPart : z.toNat % 64 < 64 := Nat.mod_lt _ (by decide)
      obtain ⟨first, second, third, fourth⟩ :=
        parts_four (p := b.toNat % 8) secondPart thirdPart fourthPart
      simp only [List.cons_append, List.nil_append, List.drop_succ_cons, List.drop_zero,
        List.cons.injEq, and_true, ofNat_eq_iff, first, second, third, fourth]
      clear code first second third fourth
      exact ⟨by omega, of_continuing (by omega) (by omega), of_continuing (by omega) (by omega),
        of_continuing (by omega) (by omega)⟩

theorem front_of_bytes {b : UInt8} {rest tail : List UInt8} {c : Char}
    (stands : String.utf8EncodeChar c ++ tail = b :: rest) :
    front b rest = .scalar c ((String.utf8EncodeChar c).length - 1) := by
  have valid := code_valid c
  have back : Char.ofNat c.val.toNat = c := Char.ofNat_toNat c
  revert stands
  rw [String.utf8EncodeChar]
  generalize c.val.toNat = v at *
  split_ifs with one two three <;> intro stands
  · obtain ⟨lead, -⟩ := List.cons.inj stands
    rw [ofNat_eq_iff] at lead
    have leads : follow? b = some ⟨0, 0, 0⟩ :=
      follow?_eq_some_iff.mpr (.inl ⟨rfl, rfl, rfl, by omega⟩)
    have code : b.toNat = v := by omega
    simp [front, leads, code, back]
  · generalize atX : UInt8.ofNat (v % 64 + 128) = x at stands
    obtain ⟨lead, rfl⟩ := List.cons.inj stands
    rw [ofNat_eq_iff] at lead atX
    have leads : follow? b = some ⟨1, 0x80, 0xBF⟩ :=
      follow?_eq_some_iff.mpr (.inr (.inl ⟨rfl, by omega, by omega, rfl, rfl⟩))
    have code : b.toNat % 32 * 64 + x.toNat % 64 = v := by omega
    have inX : within 0x80 0xBF x = true := within_iff.mpr (by omega)
    simp [front, leads, payload, inX, code, back]
  · generalize atX : UInt8.ofNat (v / 64 % 64 + 128) = x at stands
    generalize atY : UInt8.ofNat (v % 64 + 128) = y at stands
    obtain ⟨lead, rfl⟩ := List.cons.inj stands
    rw [ofNat_eq_iff] at lead atX atY
    obtain ⟨low, high, leads, inX⟩ :
        ∃ low high, follow? b = some ⟨2, low, high⟩ ∧ within low high x = true := by
      refine ⟨if b.toNat = 0xE0 then 0xA0 else 0x80, if b.toNat = 0xED then 0x9F else 0xBF,
        follow?_eq_some_iff.mpr (.inr (.inr (.inl ⟨rfl, by omega, by omega, ?_⟩))),
        within_iff.mpr ?_⟩
      all_goals split_ifs <;> omega
    have code : (b.toNat % 16 * 64 + x.toNat % 64) * 64 + y.toNat % 64 = v := by omega
    have inY : within 0x80 0xBF y = true := within_iff.mpr (by omega)
    simp [front, leads, payload, inX, inY, code, back]
  · generalize atX : UInt8.ofNat (v / 4096 % 64 + 128) = x at stands
    generalize atY : UInt8.ofNat (v / 64 % 64 + 128) = y at stands
    generalize atZ : UInt8.ofNat (v % 64 + 128) = z at stands
    obtain ⟨lead, rfl⟩ := List.cons.inj stands
    rw [ofNat_eq_iff] at lead atX atY atZ
    obtain ⟨low, high, leads, inX⟩ :
        ∃ low high, follow? b = some ⟨3, low, high⟩ ∧ within low high x = true := by
      refine ⟨if b.toNat = 0xF0 then 0x90 else 0x80, if b.toNat = 0xF4 then 0x8F else 0xBF,
        follow?_eq_some_iff.mpr (.inr (.inr (.inr ⟨rfl, by omega, by omega, ?_⟩))),
        within_iff.mpr ?_⟩
      all_goals split_ifs <;> omega
    have code : ((b.toNat % 8 * 64 + x.toNat % 64) * 64 + y.toNat % 64) * 64 +
        z.toNat % 64 = v := by omega
    have inY : within 0x80 0xBF y = true := within_iff.mpr (by omega)
    have inZ : within 0x80 0xBF z = true := within_iff.mpr (by omega)
    simp [front, leads, payload, inX, inY, inZ, code, back]

/-- A character stands at the front of a byte list. -/
def Heads (c : Char) (bytes : List UInt8) : Prop := String.utf8EncodeChar c <+: bytes

/-- A byte that continues a character. -/
def Continues (b : UInt8) : Prop := 0x80 ≤ b.toNat ∧ b.toNat < 0xC0

/-- The first byte of a character starts it, and every later one continues it. -/
theorem encodeChar_eq_cons (c : Char) :
    ∃ lead tail, String.utf8EncodeChar c = lead :: tail ∧ ¬ Continues lead ∧
      ∀ b ∈ tail, Continues b := by
  have valid := code_valid c
  rw [String.utf8EncodeChar]
  generalize c.val.toNat = v at *
  split_ifs with one two three
  all_goals refine ⟨_, _, rfl, ?_, ?_⟩
  all_goals simp only [Continues, List.mem_cons, List.not_mem_nil, or_false, forall_eq_or_imp,
    forall_eq, UInt8.toNat_ofNat', false_implies, implies_true]
  all_goals omega

theorem heads_append (c : Char) (rest : List UInt8) : Heads c (String.utf8EncodeChar c ++ rest) :=
  List.prefix_append _ _

/-- At most one character stands at the front of a byte list. -/
theorem Heads.unique {c d : Char} {bytes : List UInt8} (one : Heads c bytes)
    (other : Heads d bytes) : c = d := by
  obtain ⟨tail, shape⟩ := one
  obtain ⟨tail', shape'⟩ := other
  match bytes with
  | [] => simp at shape
  | b :: rest =>
    have same := (front_of_bytes shape).symm.trans (front_of_bytes shape')
    exact (Front.scalar.inj same).1

theorem Heads.mono {c : Char} {bytes more : List UInt8} (stands : Heads c bytes)
    (shorter : bytes <+: more) : Heads c more :=
  stands.trans shorter

/-- No character starts inside another one. -/
theorem not_heads_of_continues {b : UInt8} {rest : List UInt8} {c : Char}
    (continues : Continues b) : ¬ Heads c (b :: rest) := by
  rintro ⟨tail, shape⟩
  obtain ⟨lead, _, whole, starts, -⟩ := encodeChar_eq_cons c
  rw [whole] at shape
  obtain ⟨rfl, -⟩ := List.cons.inj shape
  exact starts continues

theorem decodeFrom_drop (skip : Nat) (bytes : List UInt8) :
    decodeFrom skip bytes = Text.decode (bytes.drop skip) := by
  induction bytes generalizing skip with
  | nil => simp [decodeFrom, Text.decode]
  | cons b rest ih =>
    cases skip with
    | zero => rfl
    | succ skip => simpa [decodeFrom] using ih skip

@[simp]
theorem decode_nil : Text.decode [] = [] := rfl

/-- A whole character at the front is read as itself. -/
theorem decode_char (c : Char) (rest : List UInt8) :
    Text.decode (String.utf8EncodeChar c ++ rest) = .char c :: Text.decode rest := by
  obtain ⟨lead, tail, shape, -, -⟩ := encodeChar_eq_cons c
  have read := front_of_bytes (show String.utf8EncodeChar c ++ rest = lead :: (tail ++ rest) by
    simp [shape])
  rw [shape] at read ⊢
  simp only [List.cons_append, Text.decode, decodeFrom, read]
  rw [decodeFrom_drop]
  simp [Text.decode]

/-- A byte at which no character starts is read alone. -/
theorem decode_alone {b : UInt8} {rest : List UInt8} (alone : ∀ c, ¬ Heads c (b :: rest)) :
    Text.decode (b :: rest) = lone b :: Text.decode rest := by
  match read : front b rest with
  | .scalar c more => exact absurd ⟨_, bytes_of_front read⟩ (alone c)
  | .broken more => simp [Text.decode, decodeFrom, read]

/-- Every byte list is read piece by piece: a whole character, or a byte at which
none starts. -/
theorem pieces {motive : List UInt8 → Prop} (nil : motive [])
    (char : ∀ c rest, motive rest → motive (String.utf8EncodeChar c ++ rest))
    (alone : ∀ b rest, (∀ c, ¬ Heads c (b :: rest)) → motive rest → motive (b :: rest))
    (bytes : List UInt8) : motive bytes := by
  induction length : bytes.length using Nat.strongRecOn generalizing bytes with
  | ind size ih =>
    match bytes with
    | [] => exact nil
    | b :: rest =>
      by_cases starts : ∃ c, Heads c (b :: rest)
      · obtain ⟨c, tail, shape⟩ := starts
        have shorter : tail.length < size := by
          have total := congrArg List.length shape
          have pos := c.utf8Size_pos
          simp only [List.length_append, String.length_utf8EncodeChar] at total
          omega
        exact shape ▸ char c tail (ih _ shorter tail rfl)
      · have shorter : rest.length < size := by simp [← length]
        exact alone b rest (not_exists.mp starts) (ih _ shorter rest rfl)

@[simp]
theorem encode_lone (b : UInt8) : (lone b).encode = [b] := by
  have small := b.toNat_lt
  unfold lone
  split
  · simp only [Glyph.encode, List.cons.injEq, and_true, ofNat_eq_iff]
    omega
  · have code := code_ofNat (n := b.toNat) (by omega)
    rw [Glyph.encode, String.utf8EncodeChar, code, if_pos (by omega)]
    simp

theorem encode_append (s t : Text) : Text.encode (s ++ t) = Text.encode s ++ Text.encode t :=
  List.flatMap_append

/-- Reading forgets nothing: the text of a byte list has that list as its bytes. -/
theorem encode_decode (bytes : List UInt8) : (Text.decode bytes).encode = bytes := by
  induction bytes using pieces with
  | nil => rfl
  | char c rest ih =>
    rw [decode_char]
    simpa [Text.encode, Glyph.encode] using ih
  | alone b rest alone ih =>
    rw [decode_alone alone]
    simpa [Text.encode] using ih

theorem half_notMem_decode (bytes : List UInt8) (index : Fin 1920) :
    Glyph.half index ∉ Text.decode bytes := by
  induction bytes using pieces with
  | nil => exact List.not_mem_nil
  | char c rest ih => simp [decode_char, ih]
  | alone b rest alone ih =>
      have single : Glyph.half index ≠ lone b := by
        unfold lone
        split <;> simp
      simp [decode_alone alone, ih, single]

/-- The bytes that are read as characters only are those of these characters. -/
theorem decode_eq_ofChars_iff {bytes : List UInt8} {content : List Char} :
    Text.decode bytes = Text.ofChars content ↔ bytes = content.flatMap String.utf8EncodeChar := by
  constructor
  · intro read
    rw [← encode_decode bytes, read]
    simp [Text.encode, Text.ofChars, List.flatMap_map, Glyph.encode]
  · rintro rfl
    induction content with
    | nil => rfl
    | cons c content ih =>
      rw [List.flatMap_cons, decode_char, ih]
      rfl

/-- The bytes of a character all stand alone once no character starts at the first of them. -/
theorem decode_continuing {tail : List UInt8} (continue_ : ∀ b ∈ tail, Continues b)
    (rest : List UInt8) :
    Text.decode (tail ++ rest) = tail.map lone ++ Text.decode rest := by
  induction tail with
  | nil => rfl
  | cons b tail ih =>
    obtain ⟨first, later⟩ := List.forall_mem_cons.mp continue_
    rw [List.cons_append, decode_alone fun c => not_heads_of_continues first, ih later]
    rfl

/-- The text of a byte list whose first `seam` bytes are read apart from the others. -/
def decodeApart (seam : Nat) (bytes : List UInt8) : Text :=
  Text.decode (bytes.take seam) ++ Text.decode (bytes.drop seam)

/-- The character at `start` stands on both sides of the seam. -/
def Tears (seam : Nat) (bytes : List UInt8) (start : Nat) : Prop :=
  start < seam ∧ ∃ c, Heads c (bytes.drop start) ∧
    seam < start + c.utf8Size

/-- A character that the seam leaves whole is read as itself. -/
theorem decodeApart_whole {c : Char} {rest : List UInt8} {seam : Nat}
    (whole : ¬ (0 < seam ∧ seam < c.utf8Size)) :
    decodeApart seam (String.utf8EncodeChar c ++ rest) =
      .char c :: decodeApart (seam - c.utf8Size) rest := by
  have pos := c.utf8Size_pos
  rcases Nat.eq_zero_or_pos seam with rfl | after
  · simp [decodeApart, decode_char]
  · have long : (String.utf8EncodeChar c).length ≤ seam := by
      rw [String.length_utf8EncodeChar]
      omega
    simp [decodeApart, List.take_append, List.drop_append, List.take_of_length_le long,
      List.drop_of_length_le long, decode_char]

/-- A character that the seam tears is read byte by byte. -/
theorem decodeApart_torn {c : Char} {rest : List UInt8} {seam : Nat}
    (after : 0 < seam) (before : seam < c.utf8Size) :
    decodeApart seam (String.utf8EncodeChar c ++ rest) =
      (String.utf8EncodeChar c).map lone ++ Text.decode rest := by
  obtain ⟨lead, tail, shape, -, later⟩ := encodeChar_eq_cons c
  rw [← String.length_utf8EncodeChar, shape, List.length_cons] at before
  obtain ⟨seam, rfl⟩ : ∃ n, seam = n + 1 := ⟨seam - 1, by omega⟩
  have cut : ∀ d, ¬ Heads d (lead :: tail.take seam) := by
    intro d stands
    have inside : lead :: tail.take seam <+: String.utf8EncodeChar c :=
      shape ▸ List.take_prefix (seam + 1) (lead :: tail)
    obtain rfl := (stands.mono inside).unique (heads_append c [] |>.mono (by simp))
    have fits := stands.length_le
    rw [shape, List.length_cons, List.length_cons, List.length_take] at fits
    omega
  have short : seam - tail.length = 0 := by omega
  have left : Text.decode (tail.take seam) = (tail.take seam).map lone := by
    simpa using decode_continuing (fun b mem => later b (List.mem_of_mem_take mem)) []
  have right : Text.decode (tail.drop seam ++ rest) =
      (tail.drop seam).map lone ++ Text.decode rest :=
    decode_continuing (fun b mem => later b (List.mem_of_mem_drop mem)) rest
  simp only [decodeApart, shape, List.cons_append, List.take_succ_cons, List.drop_succ_cons,
    List.take_append, List.drop_append, short, List.take_zero, List.append_nil, List.drop_zero]
  rw [decode_alone cut, left, right]
  simp [← List.append_assoc]

/-- A byte at which no character starts is read alone on either side of the seam. -/
theorem decodeApart_alone {b : UInt8} {rest : List UInt8} {seam : Nat}
    (alone : ∀ c, ¬ Heads c (b :: rest)) :
    decodeApart seam (b :: rest) = lone b :: decodeApart (seam - 1) rest := by
  cases seam with
  | zero => simp [decodeApart, decode_alone alone]
  | succ seam =>
    have cut : ∀ c, ¬ Heads c (b :: rest.take seam) := fun c stands =>
      alone c (stands.mono (List.take_prefix (seam + 1) (b :: rest)))
    simp [decodeApart, decode_alone cut]

theorem tears_char {c : Char} {rest : List UInt8} {seam start : Nat} :
    Tears seam (String.utf8EncodeChar c ++ rest) start ↔
      (start = 0 ∧ 0 < seam ∧ seam < c.utf8Size) ∨
      (c.utf8Size ≤ start ∧
        Tears (seam - c.utf8Size) rest
          (start - c.utf8Size)) := by
  obtain ⟨lead, tail, shape, -, later⟩ := encodeChar_eq_cons c
  have width : c.utf8Size = tail.length + 1 := by
    rw [← String.length_utf8EncodeChar, shape, List.length_cons]
  rcases Nat.lt_or_ge start c.utf8Size with inside | beyond
  · match start with
    | 0 =>
      have sole : ∀ d, Heads d (String.utf8EncodeChar c ++ rest) ↔ d = c := fun d =>
        ⟨fun stands => stands.unique (heads_append c rest), fun same => same ▸ heads_append d rest⟩
      simp [Tears, sole]
      omega
    | start + 1 =>
      have atTail : start < tail.length := by omega
      have none_ : ∀ d, ¬ Heads d ((String.utf8EncodeChar c ++ rest).drop (start + 1)) := by
        intro d
        rw [shape, List.cons_append, List.drop_succ_cons,
          List.drop_append_of_le_length (Nat.le_of_lt atTail), List.drop_eq_getElem_cons atTail]
        exact not_heads_of_continues (later _ (List.getElem_mem atTail))
      simp [Tears, none_]
      omega
  · have past : (String.utf8EncodeChar c ++ rest).drop start = rest.drop (start - c.utf8Size) := by
      rw [List.drop_append, String.length_utf8EncodeChar,
        List.drop_of_length_le (by rw [String.length_utf8EncodeChar]; exact beyond),
        List.nil_append]
    have pos := c.utf8Size_pos
    simp only [Tears, past]
    constructor
    · rintro ⟨after, d, stands, before⟩
      exact .inr ⟨beyond, by omega, d, stands, by omega⟩
    · rintro (⟨rfl, -⟩ | ⟨-, after, d, stands, before⟩)
      · omega
      · exact ⟨by omega, d, stands, by omega⟩

theorem tears_alone {b : UInt8} {rest : List UInt8} {seam start : Nat}
    (alone : ∀ c, ¬ Heads c (b :: rest)) :
    Tears seam (b :: rest) start ↔ 0 < start ∧ Tears (seam - 1) rest (start - 1) := by
  cases start with
  | zero => simp [Tears, alone]
  | succ start =>
    simp only [Tears, List.drop_succ_cons, Nat.succ_sub_one, Nat.zero_lt_succ, true_and]
    constructor
    · rintro ⟨after, d, stands, before⟩
      exact ⟨by omega, d, stands, by omega⟩
    · rintro ⟨after, d, stands, before⟩
      exact ⟨by omega, d, stands, by omega⟩

/-- A torn character is told from a whole one by the first glyph. -/
theorem decodeApart_torn_ne_whole {c : Char} {rest : List UInt8} {seam seam' : Nat}
    (torn : 0 < seam ∧ seam < c.utf8Size) (whole : ¬ (0 < seam' ∧ seam' < c.utf8Size)) :
    decodeApart seam (String.utf8EncodeChar c ++ rest) ≠
      decodeApart seam' (String.utf8EncodeChar c ++ rest) := by
  intro same
  obtain ⟨lead, tail, shape, -, -⟩ := encodeChar_eq_cons c
  rw [decodeApart_torn torn.1 torn.2, decodeApart_whole whole, shape, List.map_cons,
    List.cons_append] at same
  have first : [lead] = String.utf8EncodeChar c := by
    rw [← encode_lone, (List.cons.inj same).1, Glyph.encode]
  have width := congrArg List.length first
  rw [List.length_singleton, String.length_utf8EncodeChar] at width
  omega

/-- Two seams give the same text exactly when they tear the same characters. -/
theorem decodeApart_eq_iff {bytes : List UInt8} {left right : Nat} :
    decodeApart left bytes = decodeApart right bytes ↔
      ∀ start, Tears left bytes start ↔ Tears right bytes start := by
  induction bytes using pieces generalizing left right with
  | nil => simp [decodeApart, Tears, Heads]
  | alone b rest alone ih =>
    simp only [decodeApart_alone alone, tears_alone alone, List.cons.injEq, true_and, ih]
    refine ⟨fun same start => ?_, fun same start => ?_⟩
    · rw [same]
    · simpa using same (start + 1)
  | char c rest ih =>
    have clear {seam start : Nat} (torn : 0 < seam ∧ seam < c.utf8Size) :
        ¬ Tears (seam - c.utf8Size) rest start := fun ⟨after, _⟩ => by omega
    by_cases tornLeft : 0 < left ∧ left < c.utf8Size <;>
      by_cases tornRight : 0 < right ∧ right < c.utf8Size
    · refine iff_of_true ?_ fun start => ?_
      · rw [decodeApart_torn tornLeft.1 tornLeft.2, decodeApart_torn tornRight.1 tornRight.2]
      · simp [tears_char, clear, tornLeft, tornRight]
    · refine iff_of_false (decodeApart_torn_ne_whole tornLeft tornRight) fun same => ?_
      exact tornRight (by simpa [tears_char, tornLeft, Nat.ne_of_gt c.utf8Size_pos] using same 0)
    · refine iff_of_false (decodeApart_torn_ne_whole tornRight tornLeft).symm fun same => ?_
      exact tornLeft (by simpa [tears_char, tornRight, Nat.ne_of_gt c.utf8Size_pos] using same 0)
    · simp only [decodeApart_whole tornLeft, decodeApart_whole tornRight, tears_char, tornLeft,
        tornRight, and_false, false_or, List.cons.injEq, true_and, ih]
      refine ⟨fun same start => ?_, fun same start => ?_⟩
      · rw [same]
      · simpa using same (start + c.utf8Size)

/-- Two pairs of byte lists, each read apart, give the same text exactly when they hold the
same bytes and tear the same characters. -/
theorem decode_append_eq_iff {a b c d : List UInt8} :
    Text.decode a ++ Text.decode b = Text.decode c ++ Text.decode d ↔
      a ++ b = c ++ d ∧
        ∀ start, Tears a.length (a ++ b) start ↔ Tears c.length (c ++ d) start := by
  have apart (x y : List UInt8) :
      Text.decode x ++ Text.decode y = decodeApart x.length (x ++ y) := by
    simp [decodeApart]
  rw [apart, apart]
  constructor
  · intro same
    have bytes : a ++ b = c ++ d := by
      simpa [decodeApart, encode_append, encode_decode] using congrArg Text.encode same
    rw [bytes] at same ⊢
    exact ⟨rfl, decodeApart_eq_iff.mp same⟩
  · rintro ⟨bytes, torn⟩
    rw [bytes] at torn ⊢
    exact decodeApart_eq_iff.mpr torn

end Utf8

end StageParity
