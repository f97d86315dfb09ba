import AgentMate.AccountAccess
import AgentMate.AnsweredQuestions
import AgentMate.AssetCommits
import AgentMate.AssetFinality
import AgentMate.AssistantMessages
import AgentMate.BurndownChart
import AgentMate.ClaimOrder
import AgentMate.ClientFolds
import AgentMate.ConnectorTools
import AgentMate.ContextGap
import AgentMate.CriticalPath
import AgentMate.DeliveryAcceptance
import AgentMate.DetectedExpiry
import AgentMate.EmailPoller
import AgentMate.EpochFence
import AgentMate.EventPaging
import AgentMate.FailureCallbacks
import AgentMate.LiveTranscript
import AgentMate.LocalFires
import AgentMate.LocalRunStatus
import AgentMate.MemoryPrompt
import AgentMate.MigrationLedger
import AgentMate.MirrorEdits
import AgentMate.ModelPolicies
import AgentMate.OrchestrationBudget
import AgentMate.OrchestrationStream
import AgentMate.OutboxFlush
import AgentMate.PackageHash
import AgentMate.PartSets
import AgentMate.PlanPromotion
import AgentMate.PoolCapacity
import AgentMate.RecoveryBound
import AgentMate.RelayRetention
import AgentMate.ReleaseRollout
import AgentMate.ReleaseWithdrawal
import AgentMate.RiskClosure
import AgentMate.RunResources
import AgentMate.ScopedLists
import AgentMate.SkillLifecycle
import AgentMate.SkillRuntime
import AgentMate.SkillTrash
import AgentMate.SkillUsage
import AgentMate.SseFrames
import AgentMate.SsoAttempts
import AgentMate.TelegramPoller
import AgentMate.ToolApprovals
import AgentMate.UpdateVersions
import AgentMate.WorkItemGraph
import AgentMate.WorkItemVersions
import AgentMate.WorkspaceExclusion
import AgentMate.WorkspaceLogs
import AgentMate.WorkspaceScope
