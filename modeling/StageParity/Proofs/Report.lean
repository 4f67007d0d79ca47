import StageParity.Report.Basic

/-!
# Steps of a report

Each step of a report is refused once the status is fixed, and otherwise changes what it
names and nothing else.
-/

namespace StageParity.Report

variable {r : Report}

theorem setArtifact_eq (artifact : Artifact) :
    r.setArtifact artifact =
      if r.finalized then .error .finalized
      else .ok { r with artifacts := r.artifacts.set artifact.stage (some artifact) } := by
  unfold setArtifact ensureOpen Both.set
  cases r.finalized <;> cases artifact.stage <;> rfl

theorem addResult_eq (result : CheckResult) :
    r.addResult result =
      if r.finalized then .error .finalized
      else
        match r.results.getLast? with
        | some last =>
          if result.kind.index ≤ last.kind.index then .error (.outOfOrder result.kind last.kind)
          else .ok { r with results := r.results ++ [result] }
        | none => .ok { r with results := r.results ++ [result] } := by
  unfold addResult ensureOpen
  cases r.finalized with
  | true => rfl
  | false =>
      cases last : r.results.getLast? with
      | some last => rfl
      | none =>
          rw [List.getLast?_eq_none_iff] at last
          rw [last]
          rfl

theorem error_of_addResult {result : CheckResult} {fault : Fault}
    (refused : r.addResult result = .error fault) :
    fault = .finalized ∨ ∃ kind last, fault = .outOfOrder kind last := by
  rw [addResult_eq] at refused
  split at refused
  · cases refused
    exact .inl rfl
  · split at refused
    · split at refused <;> cases refused
      exact .inr ⟨_, _, rfl⟩
    · cases refused

theorem recordFatal_eq (message : Text) :
    r.recordFatal message =
      if r.finalized then .error .finalized
      else .ok { r with fatalErrors := r.fatalErrors ++ [message] } := by
  unfold recordFatal ensureOpen
  cases r.finalized <;> rfl

theorem finalize_eq (now : Text) :
    r.finalize now =
      if r.finalized then .error .finalized
      else
        .ok { r with
          completedAt := some now, status := some (if r.hasFatal then .fail else .pass) } := by
  unfold finalize ensureOpen
  cases r.finalized <;> rfl

end StageParity.Report
