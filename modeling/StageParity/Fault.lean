import StageParity.Check
import StageParity.Layout.File
import StageParity.Process.StartFault
import StageParity.Text.Blank

/-!
# Faults

Everything that can stop a step of a run, by cause, with one wording for each.
-/

namespace StageParity

/-- What stops a step of a run. -/
inductive Fault where
  /-- A request to stop, with the name of the signal behind it if there is one. -/
  | interrupted (label : Text)
  | file (fault : FileFault)
  | layout (fault : LayoutFault)
  /-- A command cannot be asked for. -/
  | start (fault : StartFault)
  /-- The temporary files are gone already. -/
  | released
  /-- The report is complete and does not change any more. -/
  | finalized
  /-- The report is not complete yet. -/
  | notFinalized
  /-- A result came after the result of a later check. -/
  | outOfOrder (kind last : CheckKind)
  | stageZeroNotBuilt
  | notBuilt (stage : Stage)
  | toolchainMissing (tool hint : Text)
  | buildFailed (stage : Int) (reason log : Text)
  /-- The level of the log has no number. -/
  | unknownLevel (level : Text)

namespace Fault

def message : Fault → Text
  | .interrupted label => label
  | .file fault => fault.message
  | .layout fault => fault.message
  | .start fault => fault.message
  | .released => "Resources already released"
  | .finalized => "Report is finalized and read-only"
  | .notFinalized => "Report has not been finalized"
  | .outOfOrder kind last => kind.key ++ " recorded after " ++ last.key
  | .stageZeroNotBuilt => "Stage 1 requires a built Stage 0 artifact"
  | .notBuilt stage => stage.label ++ " artifact is not built; refusing to check"
  | .toolchainMissing tool hint =>
    "Required toolchain not found: " ++ tool ++
      (if hint.isEmpty then [] else Text.ofString ". " ++ hint)
  | .buildFailed stage reason _ =>
    "Stage " ++ Text.ofInt stage ++ " build failed: " ++ reason
  | .unknownLevel level => "Unknown level: " ++ level.quoted

/-- Whether a fault ends a run with a failed report. -/
def isFatal : Fault → Bool
  | .toolchainMissing _ _ | .buildFailed _ _ _ => true
  | _ => false

/-- The entry of a fatal fault in the report; a build log follows the message. -/
def entry (fault : Fault) : Text :=
  match fault with
  | .buildFailed _ _ log =>
    if log.isEmpty then fault.message
    else fault.message ++ "\nbuild log:\n" ++ log.trimEnd
  | _ => fault.message

end Fault

end StageParity
