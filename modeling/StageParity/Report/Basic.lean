import StageParity.Artifact
import StageParity.Comparison
import StageParity.Fault

/-!
# Reports

The report of a run. Results come in the order of the checks, each check at most once.
Once the status is fixed, only failures of the cleanup can still be added.
-/

namespace StageParity

structure Report where
  projectRoot : Text
  artifacts : Both (Option Artifact)
  results : List CheckResult
  fatalErrors : List Text
  cleanupFailures : List Text
  status : Option Status
  startedAt : Text
  completedAt : Option Text

namespace Report

def start (projectRoot startedAt : Text) : Report :=
  ⟨projectRoot, ⟨none, none⟩, [], [], [], none, startedAt, none⟩

def finalized (r : Report) : Bool := r.status.isSome

def passed (r : Report) : Bool := r.status = some .pass

/-- Refuse a change once the status is fixed. -/
def ensureOpen (r : Report) : Except Fault Unit :=
  if r.finalized then throw .finalized else return

def setArtifact (artifact : Artifact) (r : Report) : Except Fault Report := do
  r.ensureOpen
  match artifact.stage with
  | .zero => return { r with artifacts := { r.artifacts with zero := some artifact } }
  | .one => return { r with artifacts := { r.artifacts with one := some artifact } }

/-- Add a result. It has to come after the results of all earlier checks. -/
def addResult (result : CheckResult) (r : Report) : Except Fault Report := do
  r.ensureOpen
  match r.results.getLast? with
  | some last =>
    if result.kind.index ≤ last.kind.index then throw (.outOfOrder result.kind last.kind)
    else return { r with results := r.results ++ [result] }
  | none => return { r with results := [result] }

def recordFatal (message : Text) (r : Report) : Except Fault Report := do
  r.ensureOpen
  return { r with fatalErrors := r.fatalErrors ++ [message] }

/-- Record a failure of the cleanup, also once the status is fixed. -/
def recordCleanup (message : Text) (r : Report) : Report :=
  { r with cleanupFailures := r.cleanupFailures ++ [message] }

/-- Whether something recorded so far keeps the run from passing. -/
def hasFatal (r : Report) : Bool := !r.fatalErrors.isEmpty || r.results.any CheckResult.fatal

/-- Fix the status. Checks that differ do not fail a run. -/
def finalize (now : Text) (r : Report) : Except Fault Report := do
  r.ensureOpen
  return { r with completedAt := some now, status := some (if r.hasFatal then .fail else .pass) }

def resultFor (kind : CheckKind) (r : Report) : Option CheckResult :=
  r.results.find? fun result => result.kind = kind

def passCode : Nat := 0

def failCode : Nat := 1

def exitCode (r : Report) : Except Fault Nat :=
  match r.status with
  | none => throw .notFinalized
  | some .pass => return passCode
  | some .fail => return failCode

end Report

end StageParity
