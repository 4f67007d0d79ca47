import StageParity.Text.Glyph

/-!
# Stages, checks and verdicts

The two stages of a compiler, the four checks that compare them, and what a check
or a run can conclude.
-/

namespace StageParity

/-- A build stage. Stage zero comes from the trusted toolchain; stage one is built by
stage zero and is under verification. -/
inductive Stage where
  | zero
  | one
deriving DecidableEq

namespace Stage

def all : List Stage := [.zero, .one]

def number : Stage → Nat
  | .zero => 0
  | .one => 1

/-- The name of a stage in messages. -/
def label (s : Stage) : Text := "Stage " ++ Text.ofNat s.number

end Stage

/-- A value for each of the two stages. -/
structure Both (α : Type) where
  zero : α
  one : α
deriving DecidableEq

namespace Both

variable {α β : Type}

def get (pair : Both α) : Stage → α
  | .zero => pair.zero
  | .one => pair.one

def set (pair : Both α) (stage : Stage) (a : α) : Both α :=
  match stage with
  | .zero => { pair with zero := a }
  | .one => { pair with one := a }

def map (f : α → β) (pair : Both α) : Both β := ⟨f pair.zero, f pair.one⟩

end Both

/-- The checks that compare the stages. -/
inductive CheckKind where
  | version
  | compilation
  | runtime
  | selfDiagnostics
deriving DecidableEq

namespace CheckKind

def order : List CheckKind := [.version, .compilation, .runtime, .selfDiagnostics]

def index : CheckKind → Nat
  | .version => 0
  | .compilation => 1
  | .runtime => 2
  | .selfDiagnostics => 3

def key : CheckKind → String
  | .version => "version"
  | .compilation => "compilation"
  | .runtime => "runtime"
  | .selfDiagnostics => "self_diagnostics"

def title : CheckKind → String
  | .version => "Version Equivalence"
  | .compilation => "Compilation Equivalence"
  | .runtime => "Runtime Equivalence"
  | .selfDiagnostics => "Self-Check Diagnostics"

/-- Whether a check is judged on standard output alone. -/
def stdoutOnly : CheckKind → Bool
  | .version | .runtime => true
  | .compilation | .selfDiagnostics => false

def runsCompilers : CheckKind → Bool
  | .runtime => false
  | .version | .compilation | .selfDiagnostics => true

end CheckKind

/-- What a check concludes. -/
inductive Verdict where
  | identical
  | differs
  | skipped
deriving DecidableEq

namespace Verdict

def key : Verdict → String
  | .identical => "identical"
  | .differs => "differs"
  | .skipped => "skipped"

def capitals : Verdict → String
  | .identical => "IDENTICAL"
  | .differs => "DIFFERS"
  | .skipped => "SKIPPED"

end Verdict

/-- What a run concludes. -/
inductive Status where
  | pass
  | fail
deriving DecidableEq

namespace Status

def key : Status → String
  | .pass => "pass"
  | .fail => "fail"

def capitals : Status → String
  | .pass => "PASS"
  | .fail => "FAIL"

end Status

end StageParity
