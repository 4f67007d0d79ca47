import StageParity.Check
import StageParity.Disk.Path

/-!
# Artifacts

The compilers that a run builds and compares.
-/

namespace StageParity

/-- A compiler of one stage. -/
structure Artifact where
  stage : Stage
  path : Path
  built : Bool
  log : Text
  /-- Whether it hands every call on to stage zero. -/
  delegated : Bool

end StageParity
