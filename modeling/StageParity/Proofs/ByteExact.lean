import StageParity.Comparison
import StageParity.Proofs.Decoding

/-!
# Exactness of comparisons

A comparison reads both streams of an output apart and joins the texts, while a digest is taken
of the bytes of the joined text. The digest always sees the raw bytes of the view. The
comparison sees one thing more: whether the place where standard error begins tears a
character. Two outputs are identical exactly when the bytes of their views are the same and the
same characters are torn. Where only standard output is compared nothing can be torn.
-/

namespace StageParity

/-- The bytes that an invocation wrote, its exit status and how many seconds it took. -/
structure RawOutput where
  stdout : List UInt8
  stderr : List UInt8
  exitStatus : Int
  duration : Float

namespace RawOutput

/-- The output with both streams read as text. -/
def captured (raw : RawOutput) : Captured where
  stdout := Text.decode raw.stdout
  stderr := Text.decode raw.stderr
  exitStatus := raw.exitStatus
  duration := raw.duration

/-- The line that tells the exit status. -/
def statusLine (raw : RawOutput) : Text :=
  "exit status: " ++ Text.ofInt raw.exitStatus ++ "\n"

/-- The bytes of the view before those of standard error. -/
def front (kind : CheckKind) (raw : RawOutput) : List UInt8 :=
  if kind.stdoutOnly then raw.stdout else raw.statusLine.encode ++ raw.stdout

/-- The bytes of standard error in the view. -/
def back (kind : CheckKind) (raw : RawOutput) : List UInt8 :=
  if kind.stdoutOnly then [] else raw.stderr

/-- The bytes that a check compares: standard output, or the exit status and both streams. -/
def view (kind : CheckKind) (raw : RawOutput) : List UInt8 :=
  if kind.stdoutOnly then raw.stdout else raw.statusLine.encode ++ raw.stdout ++ raw.stderr

/-- In the view a character starts at `start`, in standard output, and ends in standard error. -/
def Tears (kind : CheckKind) (raw : RawOutput) (start : Nat) : Prop :=
  Utf8.Tears (raw.front kind).length (raw.view kind) start

theorem front_append_back (kind : CheckKind) (raw : RawOutput) :
    raw.front kind ++ raw.back kind = raw.view kind := by
  unfold front back view
  split <;> simp

end RawOutput

namespace Text

theorem clean_ofChars (cs : List Char) : Clean (ofChars cs) := by
  simp [Clean, ofChars, Glyph.isChar]

theorem clean_ofInt (n : Int) : Clean (ofInt n) := by
  cases n with
  | ofNat n => exact clean_ofChars _
  | negSucc n => exact clean_ofChars ('-' :: _)

theorem Clean.append {s t : Text} (left : Clean s) (right : Clean t) : Clean (s ++ t) :=
  List.forall_mem_append.mpr ⟨left, right⟩

/-- Clean text before other bytes is read as itself. -/
theorem Clean.decode_encode_append {t : Text} (clean : Clean t) (rest : List UInt8) :
    decode (t.encode ++ rest) = t ++ decode rest := by
  induction t with
  | nil => rfl
  | cons g t ih =>
    obtain ⟨isChar, later⟩ := List.forall_mem_cons.mp clean
    cases g with
    | char c =>
      have bytes : encode (.char c :: t) = String.utf8EncodeChar c ++ encode t := rfl
      rw [bytes, List.append_assoc, Utf8.decode_char, ih later, List.cons_append]
    | stray | half => cases isChar

end Text

theorem RawOutput.statusLine_clean (raw : RawOutput) : raw.statusLine.Clean :=
  ((Text.clean_ofChars _).append (Text.clean_ofInt _)).append (Text.clean_ofChars _)

/-- The text of a view is that of its two parts, each read apart. -/
theorem RawOutput.view_captured (kind : CheckKind) (raw : RawOutput) :
    raw.captured.view kind = Text.decode (raw.front kind) ++ Text.decode (raw.back kind) := by
  unfold Captured.view front back
  split
  · simp [captured]
  · rw [raw.statusLine_clean.decode_encode_append]
    simp [captured, statusLine]

theorem RawOutput.viewDigest_captured (kind : CheckKind) (raw : RawOutput) :
    raw.captured.viewDigest kind = Sha256.hex (raw.view kind) := by
  rw [Captured.viewDigest, view_captured, Utf8.encode_append, Utf8.encode_decode,
    Utf8.encode_decode, front_append_back]

/-- A seam at the end of the bytes tears nothing. -/
theorem RawOutput.not_tears_of_stdoutOnly {kind : CheckKind} (only : kind.stdoutOnly = true)
    (raw : RawOutput) (start : Nat) : ¬ raw.Tears kind start := by
  rintro ⟨-, c, stands, beyond⟩
  have fits := stands.length_le
  simp only [front, view, only, if_true, List.length_drop, String.length_utf8EncodeChar]
    at fits beyond
  have pos := c.utf8Size_pos
  omega

namespace Comparison

theorem verdict_eq_identical_iff {kind : CheckKind} {a b : Captured} :
    verdict kind a b = .identical ↔ a.view kind = b.view kind := by
  simp [verdict]

theorem check_verdict_eq_identical_iff {kind : CheckKind} {zero one : Outcome} {note : Text} :
    (check kind zero one note).verdict = .identical ↔
      failureKind zero = failureKind one ∧
        verdict kind zero.captured one.captured = .identical := by
  simp only [check, judge]
  split <;> simp [*]

theorem view_eq_iff {kind : CheckKind} {zero one : RawOutput} :
    zero.captured.view kind = one.captured.view kind ↔
      zero.view kind = one.view kind ∧
        ∀ start, zero.Tears kind start ↔ one.Tears kind start := by
  rw [RawOutput.view_captured, RawOutput.view_captured, Utf8.decode_append_eq_iff]
  simp only [RawOutput.front_append_back, RawOutput.Tears]

/-- **Exactness of comparisons.** Whatever bytes two invocations wrote, the comparison finds them
identical exactly when the views hold the same bytes and the start of standard error tears the
same characters in both, and a check does so exactly when the kinds of failure agree as well. The
hashes are those of the raw views. A check of standard output alone never tears a character, so
there the verdict and the hashes never disagree. -/
theorem check_identical_iff_bytes (kind : CheckKind) (zero one : RawOutput)
    (failures : Both (Option Failure)) (note : Text) :
    let result :=
      check kind ⟨zero.captured, failures.zero⟩ ⟨one.captured, failures.one⟩ note
    let same := zero.view kind = one.view kind ∧
      ∀ start, zero.Tears kind start ↔ one.Tears kind start
    (verdict kind zero.captured one.captured = .identical ↔ same) ∧
    (result.verdict = .identical ↔
      failures.zero.map Failure.kind = failures.one.map Failure.kind ∧ same) ∧
    result.hashes = ⟨Sha256.hex (zero.view kind), Sha256.hex (one.view kind)⟩ ∧
    (kind.stdoutOnly = true → ∀ start, ¬ zero.Tears kind start ∧ ¬ one.Tears kind start) := by
  intro result same
  have exact_ : verdict kind zero.captured one.captured = .identical ↔ same :=
    verdict_eq_identical_iff.trans view_eq_iff
  refine ⟨exact_, ?_, ?_, fun only start => ⟨?_, ?_⟩⟩
  · rw [check_verdict_eq_identical_iff, exact_]
    rfl
  · simp only [result, check, RawOutput.viewDigest_captured]
  · exact RawOutput.not_tears_of_stdoutOnly only zero start
  · exact RawOutput.not_tears_of_stdoutOnly only one start

-- One character of two bytes, split between the streams on one side only.
example :
    let torn : RawOutput := ⟨[0xC3], [0xA9], 0, 0⟩
    let whole : RawOutput := ⟨[0xC3, 0xA9], [], 0, 0⟩
    torn.view .compilation = whole.view .compilation ∧
      verdict .compilation torn.captured whole.captured = .differs := by
  decide

end Comparison

end StageParity
