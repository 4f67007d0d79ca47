import StageParity.Check
import StageParity.Process.Result

/-!
# Outcomes of invocations

An invocation of a compiler or of a compiled program gives captured output, and a
failure when it did not exit normally. A failed invocation carries output too, so
that comparisons treat every outcome alike.
-/

namespace StageParity

/-- What an invocation wrote, its exit status and how many seconds it took. -/
structure Captured where
  stdout : Text
  stderr : Text
  exitStatus : Int
  duration : Float

/-- Why an invocation did not exit normally. -/
inductive FailureKind where
  | notFound
  | notExecutable
  | timedOut
  | osError
deriving DecidableEq

def FailureKind.key : FailureKind → String
  | .notFound => "not_found"
  | .notExecutable => "not_executable"
  | .timedOut => "timed_out"
  | .osError => "os_error"

structure Failure where
  kind : FailureKind
  detail : Text

def Failure.message (f : Failure) : Text :=
  "invocation failed (" ++ f.kind.key ++ "): " ++ f.detail

structure Outcome where
  captured : Captured
  failure : Option Failure

namespace Outcome

def ok (o : Outcome) : Bool := o.failure.isNone

def failedStatus : Int := -1

/-- The outcome of a failed invocation. Its message ends standard error. -/
def failed (failure : Failure) (stdout stderr : Text) (duration : Float) : Outcome where
  captured := ⟨stdout, stderr ++ failure.message ++ "\n", failedStatus, duration⟩
  failure := some failure

def launchFailureKind : LaunchErrorKind → FailureKind
  | .notFound => .notFound
  | .notExecutable => .notExecutable
  | .osError => .osError

def ofResult (r : CommandResult) : Outcome :=
  match r.launchError with
  | some e =>
    failed ⟨launchFailureKind e.kind, if e.message.isEmpty then "launch failed" else e.message⟩
      [] [] 0
  | none =>
    if r.timedOut then
      failed ⟨.timedOut, "no exit after " ++ Text.ofFloatFixed 1 r.limit ++ "s"⟩
        r.stdout r.stderr r.duration
    else ⟨⟨r.stdout, r.stderr, r.effectiveExitCode, r.duration⟩, none⟩

def describe (o : Outcome) : Text :=
  match o.failure with
  | none => "exited with status " ++ Text.ofInt o.captured.exitStatus
  | some f => f.message

end Outcome

end StageParity
