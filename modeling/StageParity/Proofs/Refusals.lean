import StageParity.Proofs.Lifecycle

/-!
# Runs that differ in what can be removed

Two runs of the same project for which the host refuses different removals. They do the same up
to the removal of the temporary files, start the same commands and report the same, but for the
failures of the cleanup.
-/

namespace StageParity

/-- The host with other refusals of removals. -/
def Host.refusing (host : Host) (refusals : Bool → Nat → Option Errno) : Host :=
  { host with removal := fun tree nth => ⟨(host.removal tree nth).signals, refusals tree nth⟩ }

/-- No signal comes during a removal. -/
def Host.Quiet (host : Host) : Prop := ∀ tree nth, (host.removal tree nth).signals = []

theorem Host.Quiet.refusing {host : Host} (quiet : host.Quiet)
    (refusals : Bool → Nat → Option Errno) : (host.refusing refusals).Quiet :=
  quiet

namespace Run

section Same

variable (host : Host) (refusals : Bool → Nat → Option Errno)

/-! ## Up to the removal -/

end Same

variable {host : Host} {options : RunOptions} {project : Project} {path : Path} {s t u : Session}

/-! ## The removal -/

/-- Nothing can stop a removal but what it meets: signals are only noted, or none come. -/
def Undisturbed (host : Host) (s : Session) : Prop := s.Settled ∨ host.Quiet

theorem Undisturbed.removeNoting (calm : Undisturbed host s) (path : Path) :
    Undisturbed host (from_ (removeNoting host path) s).2 :=
  calm.imp_left (settled_removeNoting host path)

/-- How a run ends: with the given result, or with the code of the last signal if it was stopped,
unless its report cannot be saved on the disk that is left. -/
structure Ends (host : Host) (options : RunOptions) (stopped : Bool) (result : Except Fault Nat)
    (ended : Except Fault Nat × Session) : Prop where
  outcome :
    (ended.1 = if stopped then .ok (stoppedCode ended.2.scratch.received) else result) ∨
      ∃ path fault left, options.reportFile = some path ∧
        Disk.Gets host.cwd options.reportFile left ended.2.disk ∧
        Disk.Unsaved host.cwd path left fault ∧ ended.1 = .error (.file fault)
  /-- A run with an exit code reports the failures of its cleanup, each one once and in order. -/
  listed : stopped = true ∨ (∃ code, result = .ok code) →
    ended.2.report.cleanupFailures = ended.2.scratch.failures

theorem Undisturbed.refusing (calm : Undisturbed host s) (refusals : Bool → Nat → Option Errno) :
    Undisturbed (host.refusing refusals) s :=
  calm.imp_right fun quiet => quiet.refusing refusals

end Run

end StageParity
