import StageParity.Main
import StageParity.Proofs.ByteExact
import StageParity.Proofs.CheckResults
import StageParity.Proofs.CommandText
import StageParity.Proofs.Containment
import StageParity.Proofs.Escalation
import StageParity.Proofs.Interruption
import StageParity.Proofs.LayoutLoading
import StageParity.Proofs.Lifecycle
import StageParity.Proofs.Refusals
import StageParity.Proofs.ReportHistory
import StageParity.Proofs.Returning
import StageParity.Proofs.Skeleton
import StageParity.Proofs.StoredStreams
import StageParity.Proofs.Verdict
import StageParity.Proofs.Orphans
import StageParity.Proofs.Blocks
import StageParity.Proofs.Judgement
import StageParity.Proofs.Patches
import StageParity.Proofs.Visibility
import StageParity.Proofs.Digests
import StageParity.Proofs.LayoutFields
import StageParity.Proofs.TeardownFrame
import StageParity.Proofs.Artifacts
import StageParity.Proofs.Classification
import StageParity.Proofs.DelegationScript
import StageParity.Proofs.FloatOrder
import StageParity.Proofs.TimeLimits
import StageParity.Proofs.LegibleRuns
import StageParity.Proofs.Replacement
import StageParity.Proofs.Readings
