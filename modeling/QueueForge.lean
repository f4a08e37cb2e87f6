import QueueForge.Async.Interleaving
import QueueForge.Domain.DeliveryLifecycle
import QueueForge.Worker.SuccessBookkeeping
import QueueForge.Worker.WorkingStore
import QueueForge.Worker.DeadLetters
import QueueForge.Worker.WiredRun
import QueueForge.Worker.Transmissions
import QueueForge.Worker.Redelivery
import QueueForge.Worker.RetryLoop
import QueueForge.Worker.ClaimStages
import QueueForge.Worker.SharedDelivery
import QueueForge.Worker.ExclusiveClaim
import QueueForge.Worker.StaleJobDetector
import QueueForge.Worker.StaleRecovery
import QueueForge.Application.RetryServices
import QueueForge.Domain.DeliveryEffects
import QueueForge.Application.SavedDeliveries
import QueueForge.Application.FinishedDeliveries
import QueueForge.Application.EntityStore
import QueueForge.Application.FailureBudget
import QueueForge.Application.ProcessDelivery
import QueueForge.Application.AttemptBudget
import QueueForge.Application.DeliveryLookup
import QueueForge.Js.Json
import QueueForge.Domain.TaskResult
import QueueForge.Application.ValidateResult
import QueueForge.Domain.Destination
import QueueForge.Application.IngestResult
import QueueForge.Application.IngestStore
import QueueForge.Async.StraightLine
import QueueForge.Application.IngestRun
import QueueForge.Application.IngestWiring
import QueueForge.Application.IngestFailures
import QueueForge.Application.IngestFreshness
import QueueForge.Application.IngestRouting
import QueueForge.Application.IngestDuplicates
import QueueForge.Resilience.BreakerLaws
import QueueForge.Resilience.ConcurrentCalls
import QueueForge.Daemon.LeaderElection
import QueueForge.Daemon.LeaderSafety
import QueueForge.Resilience.ResourcePool
import QueueForge.Resilience.Bulkhead
import QueueForge.Resilience.BulkheadLaws
import QueueForge.Resilience.BulkheadManager
import QueueForge.Application.DeliverTaskResult
import QueueForge.Infrastructure.RepeatedDelivery
import QueueForge.Queue.BullQueue
import QueueForge.Daemon.RecoveryCalls
import QueueForge.Daemon.QueueReconstructor
import QueueForge.Daemon.RecoveryDaemon
import QueueForge.Daemon.RecoveryRuns
import QueueForge.Daemon.RetryDaemons
import QueueForge.Daemon.RetryRuns
import QueueForge.Daemon.OrphanedJobs
import QueueForge.Js.DateTime
import QueueForge.Queue.JobSerializer
import QueueForge.Queue.QueueManager
import QueueForge.Queue.JobMoves
import QueueForge.Queue.JobIds
import QueueForge.Infrastructure.RedisOperations
import QueueForge.Security.JWTStrategy
import QueueForge.Security.ReferenceTokens
import QueueForge.Security.TokenRefresh
import QueueForge.Security.TokenManager
import QueueForge.Security.LocalRevocation
import QueueForge.Security.SharedRevocation
import QueueForge.Security.TokenRotation
import QueueForge.Security.SingleUse
import QueueForge.Security.AuthGuard
import QueueForge.Security.GuardedRequests
import QueueForge.Js.Hex
import QueueForge.Security.HmacSigner
import QueueForge.Security.HmacVerifier
import QueueForge.Security.RotatingSecrets
import QueueForge.Security.ReplayProtection
import QueueForge.Security.WebhookValidator
import QueueForge.Worker.WebhookConnector
import QueueForge.Worker.WebhookSigning
import QueueForge.Daemon.DaemonCoordinator
import QueueForge.Daemon.RecoveryLeadership
import QueueForge.RateLimiting.Funding
import QueueForge.RateLimiting.RateLimiter
import QueueForge.RateLimiting.TokenBucket
import QueueForge.Async.Throughout
import QueueForge.Infrastructure.SortedSets
import QueueForge.RateLimiting.SlidingWindowCounter
import QueueForge.RateLimiting.AdvancedRateLimiter
import QueueForge.Js.Lists
import QueueForge.Infrastructure.ExpiringMap
import QueueForge.Infrastructure.IdempotencyCache
import QueueForge.Resilience.CircuitBreakerManager
import QueueForge.Resilience.BreakerIsolation
import QueueForge.Domain.GuardedLifecycle
import QueueForge.Application.AttemptHistory
import QueueForge.Application.RetryJobs
import QueueForge.Domain.RetryDelays
import QueueForge.Domain.RegisteredDestination
import QueueForge.Worker.RetryAgreement
import QueueForge.Worker.BulkheadSlots
import QueueForge.Infrastructure.PrismaDestinationRepository
import QueueForge.Infrastructure.SavedLogs
import QueueForge.Infrastructure.RepeatedSaves
import QueueForge.Worker.GracefulShutdown
import QueueForge.Worker.ReportedStatus
import QueueForge.Worker.RecordedAttempts
import QueueForge.Application.RoutedAlike
import QueueForge.Application.DeliverySettings
import QueueForge.Application.IdempotencyKeys
import QueueForge.Infrastructure.DestinationRepository
import QueueForge.Security.DestinationValidator
import QueueForge.Queue.JobRoundTrip
import QueueForge.Daemon.ProcessingFlag
import QueueForge.Application.RepeatedSync
import QueueForge.Application.RebuildQueue
import QueueForge.Application.RecoverStaleJobs
import QueueForge.Application.RepeatedRecovery
import QueueForge.Js.Doubles
import QueueForge.Daemon.SharedLease
import QueueForge.Daemon.BaseDaemon
import QueueForge.Resilience.HalfOpenTimeout
import QueueForge.Resilience.StateMachine
import QueueForge.Resilience.RetryPolicy
import QueueForge.Resilience.DelayLimit
import QueueForge.Resilience.RetryExecutor
import QueueForge.Js.Sorting
import QueueForge.Resilience.SheddingStrategy
import QueueForge.Resilience.AdaptiveLimiter
import QueueForge.Js.Decimal
import QueueForge.RateLimiting.CheckLimit
import QueueForge.RateLimiting.RateLimitDecorator
import QueueForge.RateLimiting.StoredBalance
import QueueForge.RateLimiting.BurstAllowance
import QueueForge.RateLimiting.CostBasedLimiter
import QueueForge.RateLimiting.QuotaTracker
import QueueForge.Security.HeaderRoundTrip
import QueueForge.Js.Quoting
import QueueForge.Js.JsonOrder
import QueueForge.Security.CanonicalPayloads
import QueueForge.Security.ApiKeyStrategy
import QueueForge.Security.ApiKeyHistory
import QueueForge.Security.ApiKeyPaths
import QueueForge.Security.PermissionChecker
import QueueForge.Shared.Ulid
import QueueForge.Application.FindDestinations
import QueueForge.Security.InputValidator
import QueueForge.Infrastructure.TransactionManager
import QueueForge.Observability.LogFormatter
import QueueForge.Infrastructure.ManualTransaction
import QueueForge.Bootstrap.Container
import QueueForge.Infrastructure.TypedKeys
import QueueForge.Infrastructure.TTLManager
import QueueForge.Infrastructure.CacheInterleaving
import QueueForge.Js.JsonText
import QueueForge.Infrastructure.CacheStore
import QueueForge.Infrastructure.CachedPairs
import QueueForge.Security.SecretsManager
import QueueForge.Security.SharedSecrets
import QueueForge.Infrastructure.BullMQWorker
import QueueForge.Application.ReceiveTaskResult
import QueueForge.Observability.AuditTrail
import QueueForge.Daemon.HealthDaemon
import QueueForge.Daemon.HealthAlerts
