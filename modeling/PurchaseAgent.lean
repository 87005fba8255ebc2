import PurchaseAgent.Correctness.StatusEdges
import PurchaseAgent.Correctness.LiveClaims
import PurchaseAgent.Correctness.ReservedOptions
import PurchaseAgent.Correctness.RunProtocol
import PurchaseAgent.Correctness.BatchIsolation
import PurchaseAgent.Correctness.CommandReplay
import PurchaseAgent.Correctness.CreationIdempotency
import PurchaseAgent.Correctness.DeliveryAttempts
import PurchaseAgent.Correctness.ProviderHistoryPages
import PurchaseAgent.Correctness.ProviderPreview
import PurchaseAgent.Correctness.EventChain
import PurchaseAgent.Correctness.EventMigration
import PurchaseAgent.Correctness.EventPolling
import PurchaseAgent.Correctness.LiveSchedules
import PurchaseAgent.Correctness.LongPolls
import PurchaseAgent.Correctness.EventProjection
import PurchaseAgent.Correctness.IdentityWrites
import PurchaseAgent.Correctness.ParticipantReferences
import PurchaseAgent.Services.TaskExecutor
import PurchaseAgent.Api.Tasks
import PurchaseAgent.Correctness.TaskAuthorization
import PurchaseAgent.Correctness.TaskConcurrency
import PurchaseAgent.Correctness.AgentPolicy
import PurchaseAgent.Correctness.TaskAnswerability
import PurchaseAgent.Correctness.StatisticsTruth
import PurchaseAgent.Correctness.OutboxLog
import PurchaseAgent.Correctness.StaleWriters
import PurchaseAgent.Correctness.ReservationExclusion
import PurchaseAgent.Correctness.MissionVersions
import PurchaseAgent.Correctness.TaskDates
import PurchaseAgent.Correctness.AcceptedCreation
import PurchaseAgent.Correctness.RejectedRuns
import PurchaseAgent.Sql.Condition
import PurchaseAgent.Storage.MissionStatistics
import PurchaseAgent.Correctness.DeserializationErrors
import PurchaseAgent.Correctness.DispatchAccounting
import PurchaseAgent.Correctness.PageFilling
import PurchaseAgent.Correctness.PageSnapshots
import PurchaseAgent.Correctness.PlanProgress
import PurchaseAgent.Correctness.AgentLoopBounds
import PurchaseAgent.Correctness.AgentHistory
import PurchaseAgent.Correctness.CursorRoundTrips
import PurchaseAgent.Correctness.OutboxTraversals
import PurchaseAgent.Correctness.RateLimits
import PurchaseAgent.Correctness.RetryDelays
import PurchaseAgent.Correctness.UpcasterChains
import PurchaseAgent.Domain.TargetUrl
import PurchaseAgent.Correctness.TargetUrls
import PurchaseAgent.Regex.Engine
import PurchaseAgent.Correctness.IntentTotality
import PurchaseAgent.Correctness.MockReservations
import PurchaseAgent.Correctness.SettledRuns
import PurchaseAgent.Correctness.SqlCreationReceipts
import PurchaseAgent.Correctness.ProviderHistoryRepairs
import PurchaseAgent.Correctness.AgentContext
import PurchaseAgent.Correctness.SqlCommandReceipts
import PurchaseAgent.Correctness.BodyLimits
import PurchaseAgent.Correctness.WorkerSupervision
import PurchaseAgent.Adapters.StepRunner
import PurchaseAgent.Cooperative.History
import PurchaseAgent.Correctness.StepEffects
import PurchaseAgent.Correctness.PlanExecutions
import PurchaseAgent.Sql.OpenRows
import PurchaseAgent.Storage.SqlExecutionAttempts
import PurchaseAgent.Correctness.AttemptRecords
import PurchaseAgent.Adapters.RequestGuard
import PurchaseAgent.Correctness.GuardedRequests
