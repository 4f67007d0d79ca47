import StageParity.Digest.Sha256
import StageParity.LineDiff.Hunk
import StageParity.Outcome
import StageParity.Text.Utf8

/-!
# Comparison of outcomes

Each check compares one view of the captured outputs, glyph for glyph. A
difference is data: it is shown as a line difference of the printable views.
-/

namespace StageParity

structure CheckResult where
  kind : CheckKind
  verdict : Verdict
  outputs : Both (Option Captured)
  fatal : Bool
  diff : Text
  note : Text
  failures : Both (Option Failure)
  hashes : Both Text

/-- The part of a captured output that a check compares. -/
def Captured.view (kind : CheckKind) (output : Captured) : Text :=
  if kind.stdoutOnly then output.stdout
  else "exit status: " ++ Text.ofInt output.exitStatus ++ "\n" ++ output.stdout ++ output.stderr

def Captured.viewDigest (kind : CheckKind) (output : Captured) : Text :=
  Sha256.hex (output.view kind).encode

namespace Comparison

/-- Whether two captured outputs have the same view. -/
def verdict (kind : CheckKind) (a b : Captured) : Verdict :=
  if a.view kind = b.view kind then .identical else .differs

def shownLines : Nat := 200

def lineDiff (kind : CheckKind) (a b : Captured) : List Text :=
  LineDiff.unified "stage0" "stage1"
    (LineDiff.hunks (Text.printable (a.view kind)).lines (Text.printable (b.view kind)).lines)

def cutMark : Text := "... (diff truncated)"

/-- The first lines of a difference, with a mark where it is cut. -/
def cut (lines : List Text) : List Text :=
  if shownLines < lines.length then lines.take shownLines ++ [cutMark] else lines

/-- The difference of two views. Views with the same lines are shown in quotes. -/
def diff (kind : CheckKind) (a b : Captured) : Text :=
  let lines := cut (lineDiff kind a b)
  Text.join "\n" <|
    if lines.isEmpty then
      ["stage0: " ++ (Text.printable (a.view kind)).quoted,
        "stage1: " ++ (Text.printable (b.view kind)).quoted]
    else lines

def failureKind (o : Outcome) : Option FailureKind := o.failure.map Failure.kind

/-- The verdict and the shown difference of two outcomes. Outcomes that failed
differently differ even when their views agree. -/
def judge (kind : CheckKind) (zero one : Outcome) : Verdict × Text :=
  let byView := verdict kind zero.captured one.captured
  let shown := if byView = .differs then diff kind zero.captured one.captured else []
  if failureKind zero = failureKind one then (byView, shown)
  else
    let mismatch := "stage0: " ++ zero.describe ++ "\n" ++ "stage1: " ++ one.describe
    (.differs, if shown.isEmpty then mismatch else mismatch ++ "\n" ++ shown)

def check (kind : CheckKind) (zero one : Outcome) (note : Text) : CheckResult :=
  let (verdict, diff) := judge kind zero one
  { kind, verdict, note, diff
    outputs := ⟨some zero.captured, some one.captured⟩
    fatal := false
    failures := ⟨zero.failure, one.failure⟩
    hashes := ⟨zero.captured.viewDigest kind, one.captured.viewDigest kind⟩ }

def skip (kind : CheckKind) (reason : Text) : CheckResult :=
  { kind, verdict := .skipped, note := reason, diff := []
    outputs := ⟨none, none⟩
    fatal := false
    failures := ⟨none, none⟩
    hashes := ⟨[], []⟩ }

def checkMessage (result : CheckResult) : Text :=
  result.kind.key ++ " check: " ++ result.verdict.key

def skipMessage (kind : CheckKind) (reason : Text) : Text :=
  kind.key ++ " check skipped: " ++ reason

end Comparison

namespace CheckResult

/-- The time of stage one as a multiple of the time of stage zero, when both ran and
stage zero took time. -/
def durationRatio (r : CheckResult) : Option Float :=
  match r.outputs.zero, r.outputs.one with
  | some zero, some one =>
    if zero.duration ≤ 0 then none else some (one.duration / zero.duration)
  | _, _ => none

/-- Above this ratio stage one counts as slow. -/
def slowRatio : Float := 5

/-- Runs shorter than this many seconds never count as slow. -/
def slowSeconds : Float := 1

/-- A note on a stage one that is much slower than stage zero, else nothing. -/
def slowdownNote (r : CheckResult) : Text :=
  match r.durationRatio, r.outputs.one with
  | some ratio, some one =>
    if ratio ≤ slowRatio || one.duration < slowSeconds then []
    else "Stage 1 took " ++ Text.ofFloatFixed 1 ratio ++ "x as long as Stage 0"
  | _, _ => []

/-- Notes joined, empty ones left out. -/
def joinNotes (notes : List Text) : Text := Text.join "; " (notes.filter fun t => !t.isEmpty)

/-- Whether the compiler of a stage exited normally in one of the attempted checks
that run it. With no attempted check there is nothing to hold against it. -/
def everRan (results : List CheckResult) (stage : Stage) : Bool :=
  let attempted := results.filter fun r => r.kind.runsCompilers && r.outputs.zero.isSome
  attempted.isEmpty || attempted.any fun r => (r.failures.get stage).isNone

end CheckResult

end StageParity
