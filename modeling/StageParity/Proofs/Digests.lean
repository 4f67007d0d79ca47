import StageParity.Proofs.StoredStreams

/-!
# What digests are taken of

The digest of a view is taken of its bytes. The view is put together from texts, each read from
bytes of its own, so its bytes have to be found again. Reading forgets nothing and writing is
compatible with concatenation, whatever the two streams hold where they meet: the bytes are those
of the streams, after the line that tells the exit status in checks that compare it.
-/

namespace StageParity

namespace Text

theorem ofNat_eq_ofString (n : Nat) : ofNat n = ofString (toString n) := by
  simp [ofNat, ofChars, ofString, Nat.repr]

/-- The digits of an integer are those of its usual notation. -/
theorem ofInt_eq_ofString (n : Int) : ofInt n = ofString (toString n) := by
  cases n with
  | ofNat n => exact ofNat_eq_ofString n
  | negSucc n =>
      change .char '-' :: ofNat (n + 1) = ofString ("-" ++ toString (n + 1))
      rw [ofNat_eq_ofString]
      simp [ofString]

theorem ofString_append (s t : String) : ofString (s ++ t) = ofString s ++ ofString t := by
  simp [ofString]

/-- Characters of the lower half of the byte range are written as one byte each, their code. -/
theorem encode_ofString_of_ascii {s : String} (ascii : ∀ c ∈ s.toList, c.toNat < 128) :
    (ofString s).encode = s.toList.map Char.toUInt8 := by
  unfold encode ofString
  generalize s.toList = content at ascii ⊢
  induction content with
  | nil => rfl
  | cons c content ih =>
      obtain ⟨small, later⟩ := List.forall_mem_cons.mp ascii
      have single : c.utf8Size = 1 := by
        rw [Char.utf8Size_eq_one_iff, UInt32.le_iff_toNat_le]
        exact Nat.le_of_lt_succ small
      have first : Glyph.encode (.char c) = [c.toUInt8] := String.utf8EncodeChar_eq_singleton single
      rw [List.map_cons, List.flatMap_cons, ih later, first]
      rfl

end Text

/-- The line that tells an exit status, as it is usually written. -/
def Captured.statusLine (status : Int) : String := "exit status: " ++ toString status ++ "\n"

theorem ascii_toString_nat (n : Nat) : ∀ c ∈ (toString n).toList, c.toNat < 128 := by
  intro c inside
  have digit : c.isDigit = true := by
    refine Nat.isDigit_of_mem_toDigits (b := 10) (n := n) (by decide) (by decide) ?_
    simpa [Nat.repr] using inside
  simp only [Char.isDigit, Bool.and_eq_true, decide_eq_true_eq, ge_iff_le,
    UInt32.le_iff_toNat_le] at digit
  exact Nat.lt_of_le_of_lt digit.2 (by decide)

theorem ascii_of_all {t : String} (all : (t.toList.all fun c => decide (c.toNat < 128)) = true) :
    ∀ c ∈ t.toList, c.toNat < 128 := fun c inside =>
  of_decide_eq_true (List.all_eq_true.mp all c inside)

theorem Captured.ascii_statusLine (status : Int) :
    ∀ c ∈ (statusLine status).toList, c.toNat < 128 := by
  have number : ∀ c ∈ (toString status).toList, c.toNat < 128 := by
    cases status with
    | ofNat n => exact ascii_toString_nat n
    | negSucc n =>
        change ∀ c ∈ ("-" ++ toString (n + 1)).toList, c.toNat < 128
        rw [String.toList_append, List.forall_mem_append]
        exact ⟨ascii_of_all rfl, ascii_toString_nat (n + 1)⟩
  unfold statusLine
  rw [String.toList_append, String.toList_append, List.forall_mem_append, List.forall_mem_append]
  exact ⟨⟨ascii_of_all rfl, number⟩, ascii_of_all rfl⟩

theorem RawOutput.statusLine_eq (raw : RawOutput) :
    raw.statusLine = Text.ofString (Captured.statusLine raw.exitStatus) := by
  unfold RawOutput.statusLine Captured.statusLine
  rw [Text.ofInt_eq_ofString, ← Text.ofString_append, ← Text.ofString_append]

/-- Every glyph of a view has bytes, and together they are those of the raw view. -/
theorem RawOutput.bytes?_view_captured (kind : CheckKind) (raw : RawOutput) :
    (raw.captured.view kind).bytes? = some (raw.view kind) := by
  rw [view_captured, ← front_append_back]
  exact Text.bytes?_append (Text.bytes?_decode _) (Text.bytes?_decode _)

/-- **Digests are taken of raw bytes.** Whatever bytes were read from the two streams and whatever
the exit status is, every glyph of the view has bytes, and the digest is taken of these: standard
output as it was written, or the status line in ASCII, standard output and standard error. -/
theorem viewDigest_of_streams (out err : List UInt8) (status : Int) (duration : Float)
    (kind : CheckKind) :
    let output : Captured := ⟨Text.decode out, Text.decode err, status, duration⟩
    let line := Captured.statusLine status
    let hashed :=
      if kind = .version ∨ kind = .runtime then out
      else line.toList.map Char.toUInt8 ++ out ++ err
    (∀ c ∈ line.toList, c.toNat < 128) ∧
    (output.view kind).bytes? = some hashed ∧
    output.viewDigest kind = Sha256.hex hashed := by
  intro output line hashed
  let raw : RawOutput := ⟨out, err, status, duration⟩
  have ascii : ∀ c ∈ line.toList, c.toNat < 128 := Captured.ascii_statusLine status
  have bytes : raw.view kind = hashed := by
    have written : raw.statusLine.encode = line.toList.map Char.toUInt8 := by
      rw [RawOutput.statusLine_eq]
      exact Text.encode_ofString_of_ascii ascii
    cases kind <;> simp [RawOutput.view, CheckKind.stdoutOnly, hashed, written, raw]
  refine ⟨ascii, ?_, ?_⟩
  · rw [← bytes]
    exact raw.bytes?_view_captured kind
  · rw [← bytes]
    exact raw.viewDigest_captured kind

end StageParity
