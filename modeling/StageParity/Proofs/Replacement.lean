import StageParity.Proofs.LegibleReports
import StageParity.Proofs.Visibility

/-!
# Replaced bytes

A text is printed by way of its bytes, with one replacement character for each malformed piece.
Where no character stands, such a piece is the longest beginning of a character's bytes, or one byte
(`Utf8.MaximalPart`). Reading with replacements is the only reading by this rule
(`Utf8.replaced_iff`), and printing is a projection onto the texts of characters.
-/

namespace StageParity

namespace Utf8

/-- Bytes that can make one error: a single byte, or the beginning of a character's bytes. -/
def Fragment (piece : List UInt8) : Prop :=
  piece ≠ [] ∧ (piece.length = 1 ∨ ∃ c, piece <+: String.utf8EncodeChar c)

/-- No character stands at the front of the bytes, and the piece is the longest fragment there. -/
structure MaximalPart (piece bytes : List UInt8) : Prop where
  unreadable : ∀ c, ¬ Heads c bytes
  begins : piece <+: bytes
  fragment : Fragment piece
  longest : ∀ other, other <+: bytes → Fragment other → other.length ≤ piece.length

/-- The text has the characters of the bytes, and U+FFFD for each maximal part between them. -/
inductive Replaced : List UInt8 → Text → Prop
  | nil : Replaced [] []
  | char (c : Char) {rest : List UInt8} {t : Text} (later : Replaced rest t) :
      Replaced (String.utf8EncodeChar c ++ rest) (.char c :: t)
  | part {piece rest : List UInt8} {t : Text} (maximal : MaximalPart piece (piece ++ rest))
      (later : Replaced rest t) : Replaced (piece ++ rest) (.char '\uFFFD' :: t)

theorem MaximalPart.unique {piece other bytes : List UInt8} (one : MaximalPart piece bytes)
    (two : MaximalPart other bytes) : piece = other := by
  have short := two.longest piece one.begins one.fragment
  have long := one.longest other two.begins two.fragment
  exact (List.prefix_of_prefix_length_le one.begins two.begins short).eq_of_length (by omega)

variable {b : UInt8} {rest : List UInt8} {more : Nat}

/-- The byte that ends a malformed piece too early does so whatever follows it. -/
theorem front_broken_congr {other : List UInt8} (read : front b rest = .broken more)
    (ended : more < rest.length) (same : rest.take (more + 1) <+: other) :
    front b other = .broken more := by
  obtain ⟨tail, rfl⟩ := same
  match leads : follow? b with
  | none => simpa [front, leads] using read
  | some ⟨0, low, high⟩ => simp [front, leads] at read
  | some ⟨1, low, high⟩ =>
    rcases rest with _ | ⟨x, rest⟩
    · simp at ended
    · simp only [front, leads] at read ⊢
      grind
  | some ⟨2, low, high⟩ =>
    rcases rest with _ | ⟨x, _ | ⟨y, rest⟩⟩
    · simp at ended
    all_goals
      simp only [front, leads] at read ⊢
      grind
  | some ⟨count + 3, low, high⟩ =>
    rcases rest with _ | ⟨x, _ | ⟨y, _ | ⟨z, rest⟩⟩⟩
    · simp at ended
    all_goals
      simp only [front, leads] at read ⊢
      grind

/-- A malformed piece of more than one byte can be filled up to a character. -/
theorem completed_of_broken (read : front b rest = .broken (more + 1)) :
    ∃ tail c, String.utf8EncodeChar c = b :: (rest.take (more + 1) ++ tail) := by
  have filler : within 0x80 0xBF 0x80 = true := rfl
  match leads : follow? b with
  | none => simp [front, leads] at read
  | some ⟨0, low, high⟩ => simp [front, leads] at read
  | some ⟨1, low, high⟩ =>
    simp only [front, leads] at read
    grind
  | some ⟨2, low, high⟩ =>
    obtain ⟨x, after, rfl, second, rfl⟩ :
        ∃ x after, rest = x :: after ∧ within low high x = true ∧ more = 0 := by
      simp only [front, leads] at read
      grind
    obtain ⟨c, scalar⟩ : ∃ c, front b [x, 0x80] = .scalar c 2 := by
      simp [front, leads, second, filler]
    exact ⟨[0x80], c, by simpa using bytes_of_front scalar⟩
  | some ⟨count + 3, low, high⟩ =>
    obtain ⟨x, after, rfl, second, rfl | ⟨rfl, y, beyond, rfl, third⟩⟩ :
        ∃ x after, rest = x :: after ∧ within low high x = true ∧
          (more = 0 ∨ more = 1 ∧ ∃ y beyond, after = y :: beyond ∧ within 0x80 0xBF y = true) := by
      simp only [front, leads] at read
      grind
    · obtain ⟨c, scalar⟩ : ∃ c, front b [x, 0x80, 0x80] = .scalar c 3 := by
        simp [front, leads, second, filler]
      exact ⟨[0x80, 0x80], c, by simpa using bytes_of_front scalar⟩
    · obtain ⟨c, scalar⟩ : ∃ c, front b [x, y, 0x80] = .scalar c 3 := by
        simp [front, leads, second, third, filler]
      exact ⟨[0x80], c, by simpa using bytes_of_front scalar⟩

theorem maximalPart_of_broken (read : front b rest = .broken more) :
    MaximalPart (b :: rest.take more) (b :: rest) where
  unreadable c stands := by
    obtain ⟨tail, shape⟩ := stands
    cases read.symm.trans (front_of_bytes shape)
  begins := List.take_prefix (more + 1) (b :: rest)
  fragment := by
    refine ⟨List.cons_ne_nil _ _, ?_⟩
    cases more with
    | zero => exact .inl rfl
    | succ more =>
      obtain ⟨tail, c, whole⟩ := completed_of_broken read
      exact .inr ⟨c, tail, whole.symm⟩
  longest other begins fragment := by
    by_contra longer
    rw [List.length_cons, List.length_take] at longer
    obtain ⟨-, single | ⟨c, tail, whole⟩⟩ := fragment
    · omega
    · match other with
      | [] => simp at longer
      | a :: other =>
        -- The byte that ends the piece would stand in the character.
        obtain ⟨rfl, inside⟩ := List.cons_prefix_cons.mp begins
        have fits := inside.length_le
        rw [List.length_cons] at longer
        have shared : rest.take (more + 1) <+: other ++ tail :=
          (List.prefix_of_prefix_length_le (List.take_prefix _ _) inside
            (by rw [List.length_take]; omega)).trans (List.prefix_append _ _)
        have broken := front_broken_congr read (by omega) shared
        have scalar := front_of_bytes ((List.append_nil _).trans whole.symm)
        cases broken.symm.trans scalar

/-- A maximal part is read as one replacement character. -/
theorem readable_part {piece : List UInt8} (maximal : MaximalPart piece (piece ++ rest)) :
    Text.readable (piece ++ rest) = .char '\uFFFD' :: Text.readable rest := by
  match whole : piece ++ rest with
  | [] => exact absurd (List.append_eq_nil_iff.mp whole).1 maximal.fragment.1
  | b :: after =>
    rw [whole] at maximal
    match read : front b after with
    | .scalar c more => exact absurd ⟨_, bytes_of_front read⟩ (maximal.unreadable c)
    | .broken more =>
      obtain rfl := maximal.unique (maximalPart_of_broken read)
      have behind : after.drop more = rest := by
        rw [List.cons_append, List.cons.injEq] at whole
        exact List.append_cancel_left ((List.take_append_drop more after).trans whole.2.symm)
      simp only [Text.readable, readableFrom, read]
      rw [readableFrom_drop, behind]
      rfl

/-- Reading with replacements is the only reading by the rule of maximal parts. -/
theorem replaced_iff {bytes : List UInt8} {t : Text} :
    Replaced bytes t ↔ Text.readable bytes = t := by
  constructor
  · intro replaced
    induction replaced with
    | nil => rfl
    | char c later ih => rw [readable_char, ih]
    | part maximal later ih => rw [readable_part maximal, ih]
  · rintro rfl
    have read (skip : Nat) (bytes : List UInt8) :
        Replaced (bytes.drop skip) (readableFrom skip bytes) := by
      fun_induction readableFrom skip bytes with
      | case1 => simpa using Replaced.nil
      | case2 skip b rest ih => exact ih
      | case3 b rest c more read ih => exact bytes_of_front read ▸ Replaced.char c ih
      | case4 b rest more read ih =>
        have whole : b :: rest = b :: rest.take more ++ rest.drop more := by simp
        rw [List.drop_zero, whole]
        exact .part (whole ▸ maximalPart_of_broken read) ih
    exact read 0 bytes

end Utf8

/-- The code point of the glyph is that of a surrogate. -/
def Glyph.Surrogate (g : Glyph) : Prop := 0xD800 ≤ g.rank ∧ g.rank ≤ 0xDFFF

namespace Text

theorem Clean.not_surrogate {t : Text} (clean : t.Clean) : ¬ ∃ g ∈ t, g.Surrogate := by
  rintro ⟨g, inside, low, high⟩
  cases g with
  | char c =>
    have valid := Utf8.code_valid c
    change 0xD800 ≤ c.val.toNat at low
    change c.val.toNat ≤ 0xDFFF at high
    omega
  | stray | half => cases clean _ inside

theorem Clean.eq_ofChars {t : Text} (clean : t.Clean) : ∃ content, t = ofChars content := by
  induction t with
  | nil => exact ⟨[], rfl⟩
  | cons g t ih =>
    obtain ⟨isChar, later⟩ := List.forall_mem_cons.mp clean
    obtain ⟨content, rfl⟩ := ih later
    cases g with
    | char c => exact ⟨c :: content, rfl⟩
    | stray | half => cases isChar

/-- Bytes are read as characters only just when they are valid. -/
theorem clean_decode_iff {bytes : List UInt8} :
    (decode bytes).Clean ↔ bytes.toByteArray.IsValidUTF8 := by
  constructor
  · intro clean
    obtain ⟨content, read⟩ := clean.eq_ofChars
    exact ⟨content, congrArg List.toByteArray (Utf8.decode_eq_ofChars_iff.mp read)⟩
  · rintro ⟨content, whole⟩
    rw [Utf8.decode_eq_ofChars_iff.mpr (List.toByteArray_inj.mp whole)]
    exact clean_ofChars content

/-- Printing sees the bytes of texts that were read apart as one list. -/
theorem printable_flatMap_decode (parts : List (List UInt8)) :
    printable (parts.flatMap decode) = readable parts.flatten := by
  have bytes : encode (parts.flatMap decode) = parts.flatten := by
    induction parts with
    | nil => rfl
    | cons part parts ih =>
      rw [List.flatMap_cons, Utf8.encode_append, Utf8.encode_decode, ih, List.flatten_cons]
  rw [printable, bytes]

/-- Printing is a projection onto the texts of characters. What is printed of bytes that were read
is these bytes with a replacement character for each maximal part that does not decode. It is the
text that was read just when the bytes are valid, and printing it again changes nothing, also
where texts that were read apart are joined. -/
theorem printable_projects :
    (∀ bytes : List UInt8,
      (∀ t : Text, Utf8.Replaced bytes t ↔ (decode bytes).printable = t) ∧
      (¬ ∃ g ∈ (decode bytes).printable, g.Surrogate) ∧
      ((decode bytes).printable = decode bytes ↔ bytes.toByteArray.IsValidUTF8)) ∧
    ∀ parts : List (List UInt8),
      Utf8.Replaced parts.flatten (printable (parts.flatMap decode)) ∧
      (printable (parts.flatMap decode)).printable = printable (parts.flatMap decode) := by
  refine ⟨fun bytes => ⟨fun t => ?_, (clean_printable _).not_surrogate, ?_⟩, fun parts => ⟨?_, ?_⟩⟩
  · rw [Utf8.replaced_iff, printable, Utf8.encode_decode]
  · rw [← clean_decode_iff]
    exact ⟨fun same => same ▸ clean_printable _, Clean.printable_eq⟩
  · exact Utf8.replaced_iff.mpr (printable_flatMap_decode parts).symm
  · exact (clean_printable _).printable_eq

-- Two fragments meet in a character, and a cut-off one behind it is replaced once.
example : printable (decode [0xE2, 0x82] ++ decode [0xAC, 0xE2, 0x82]) = "€�" := by decide

end Text

end StageParity
