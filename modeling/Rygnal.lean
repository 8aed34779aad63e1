import Rygnal.Core.Exceptions
import Rygnal.Operations.Ownership
import Rygnal.Approval.Concurrency
import Rygnal.Approval.Agreement
import Rygnal.Interceptor.Safety
import Rygnal.ChangeRisk.Rename
import Rygnal.ChangeRisk.Attribution
import Rygnal.Apply.Replay
import Rygnal.Artifact.Storage
import Rygnal.Artifact.ArtifactLock
import Rygnal.Recovery.Quarantine
import Rygnal.Recovery.OwnerMarker
import Rygnal.Service.DecisionReplay
import Rygnal.Service.ApplyArtifact
import Rygnal.Policy.FirstMatch
import Rygnal.Cli.LocalApply
import Rygnal.Audit.AuditStorage
import Rygnal.Audit.AuditQuery
import Rygnal.GuardedRun.ConcurrencyGuard
import Rygnal.ChangeRisk.SubjectiveRisk
import Rygnal.Intent.EnforcedHint
import Rygnal.GuardedRun.Interruption
import Rygnal.GuardedRun.Verification
import Rygnal.Engine.Delivery
import Rygnal.GuardedRun.RecordRoundTrip
import Rygnal.Cli.DecisionReceipt
import Rygnal.Cli.DecisionEncoding
import Rygnal.Service.ApiDecisions
import Rygnal.GuardedRun.RiskMonotone
import Rygnal.GuardedRun.Cleanup
import Rygnal.ChangeRisk.HeaderWords
import Rygnal.GuardedRun.HeaderModes
import Rygnal.GuardedRun.PathForms
import Rygnal.Service.SharedAuthority
import Rygnal.Policy.RuleConditions
import Rygnal.Kernel.NormalForm
import Rygnal.Apply.PatchInput
import Rygnal.Kernel.TextSurvival
import Rygnal.Engine.BoundedBuffer
import Rygnal.ChangeRisk.Criticality
import Rygnal.Service.RequestGuard
import Rygnal.Migrations.Interrupted
import Rygnal.Risk.RiskEngine
import Rygnal.Kernel.PythonSurvival
import Rygnal.Operations.Reconciliation
import Rygnal.GuardedRun.PatchReasons
import Rygnal.Kernel.CriticalityScore
import Rygnal.Kernel.Fallback
import Rygnal.Recovery.SessionCleanup
