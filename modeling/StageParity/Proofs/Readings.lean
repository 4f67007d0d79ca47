import StageParity.Outcome
import StageParity.Proofs.Judgement

/-!
# Readings of a result

A build log, the reason why a build failed and the outcome of an invocation are three readings of a
command's result, each with tests of its own for a launch error, for the time limit and for the exit
code. They agree on whether the command exited, on its exit status, and on what kept it from
exiting, whatever the result holds at once.
-/

namespace StageParity

namespace CommandResult

/-- An entry of a build log, the reason of a failed build and the detail of a failed outcome name
the same launch error, or the same time limit. An empty launch error is not named in the detail. -/
inductive NamesAlike (r : CommandResult) : (entry reason detail : Text) → Prop
  | launch {error : LaunchError} {detail : Text} (failed : r.launchError = some error)
      (told : error.message ≠ [] → detail = error.message) :
      NamesAlike r ("error: " ++ error.message) ("could not run build command: " ++ error.message)
        detail
  | limit {seconds : Text} (launched : r.launchError = none) (late : r.timedOut = true)
      (given : seconds = Text.ofFloatFixed 1 r.limit) :
      NamesAlike r ("error: timed out after " ++ seconds ++ "s")
        ("build timed out after " ++ seconds ++ "s") ("no exit after " ++ seconds ++ "s")

theorem status_ne_error (s t : Text) : ("exit status: " : Text) ++ s ≠ "error: " ++ t := by
  simp [Text.ofString]

variable {r : CommandResult}

theorem NamesAlike.error {entry reason detail : Text} (alike : r.NamesAlike entry reason detail) :
    ("error: " : Text) <+: entry := by
  cases alike with
  | launch => exact List.prefix_append _ _
  | limit =>
    have words : ("error: " : Text) <+: "error: timed out after " := by decide
    exact (words.trans (List.prefix_append _ _)).trans (List.prefix_append _ _)

theorem ok_iff_exited :
    (Outcome.ofResult r).ok = true ↔ r.launchError = none ∧ r.timedOut = false := by
  unfold Outcome.ofResult
  cases r.launchError with
  | some error => simp [Outcome.ok, Outcome.failed]
  | none => cases r.timedOut <;> simp [Outcome.ok, Outcome.failed]

/-- All readings of a command that exited have the one exit status. -/
theorem of_exited (exited : (Outcome.ofResult r).ok = true) :
    ∃ code, (Outcome.ofResult r).captured.exitStatus = code ∧
      r.ending = "exit status: " ++ Text.ofInt code ∧ (r.failureReason = none ↔ code = 0) := by
  obtain ⟨launched, inTime⟩ := ok_iff_exited.mp exited
  refine ⟨r.effectiveExitCode, ?_, ?_, ?_⟩
  · simp [Outcome.ofResult, launched, inTime]
  · simp [ending, launched, inTime]
  · simp [failureReason, launched, inTime]

/-- All readings of a command that did not exit name what kept it from exiting. -/
theorem of_hindered (hindered : (Outcome.ofResult r).ok = false) :
    ∃ reason failure, r.failureReason = some reason ∧
      (Outcome.ofResult r).failure = some failure ∧
      r.NamesAlike r.ending reason failure.detail := by
  unfold failureReason Outcome.ofResult ending
  cases failed : r.launchError with
  | some error =>
    refine ⟨_, _, rfl, rfl, .launch failed fun named => ?_⟩
    rw [if_neg (mt List.isEmpty_iff.mp named)]
  | none =>
    cases late : r.timedOut with
    | true => exact ⟨_, _, rfl, rfl, .limit failed late rfl⟩
    | false =>
      rw [ok_iff_exited.mpr ⟨failed, late⟩] at hindered
      cases hindered

/-- The build log, the reason of a failed build and the outcome agree. A build fails unless the
outcome is good and has exit status 0. The last entry of the log is the exit status just when the
outcome is good, and it is the same as the outcome's. It is an error just when the outcome
is not good, and names what the reason and the failure name. -/
theorem readings_agree (r : CommandResult) :
    ∃ earlier entry, r.logEntries = earlier ++ [entry] ∧
      r.buildLog = Text.join "\n" (earlier ++ [entry]) ++ "\n" ∧
      (r.failureReason = none ↔
        (Outcome.ofResult r).ok = true ∧ (Outcome.ofResult r).captured.exitStatus = 0) ∧
      (∀ n : Int, entry = "exit status: " ++ Text.ofInt n ↔
        (Outcome.ofResult r).ok = true ∧ (Outcome.ofResult r).captured.exitStatus = n) ∧
      (("error: " : Text) <+: entry ↔ (Outcome.ofResult r).ok = false) ∧
      ((∃ reason failure, r.failureReason = some reason ∧
          (Outcome.ofResult r).failure = some failure ∧
          r.NamesAlike entry reason failure.detail) ↔ (Outcome.ofResult r).ok = false) := by
  refine ⟨_, r.ending, rfl, rfl, ?_⟩
  cases ends : (Outcome.ofResult r).ok with
  | true =>
    obtain ⟨code, status, entry, succeeds⟩ := of_exited ends
    have noError : ¬ ("error: " : Text) <+: r.ending := by
      rintro ⟨rest, same⟩
      exact status_ne_error _ _ (entry.symm.trans same.symm)
    refine ⟨?_, fun n => ?_, ?_, ?_⟩
    · rw [succeeds, status, eq_self, true_and]
    · rw [entry, List.append_cancel_left_eq, status, eq_self, true_and]
      exact ⟨Text.ofInt_injective, congrArg Text.ofInt⟩
    · exact iff_of_false noError (by decide)
    · refine iff_of_false ?_ (by decide)
      rintro ⟨reason, failure, -, -, alike⟩
      exact noError alike.error
  | false =>
    obtain ⟨reason, failure, said, failed, alike⟩ := of_hindered ends
    refine ⟨?_, fun n => ?_, iff_of_true alike.error rfl,
      iff_of_true ⟨reason, failure, said, failed, alike⟩ rfl⟩
    · simp [said]
    · obtain ⟨rest, error⟩ := alike.error
      simpa [← error] using (status_ne_error (Text.ofInt n) rest).symm

end CommandResult

end StageParity
