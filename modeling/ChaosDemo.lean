import ChaosDemo.Prog
import ChaosDemo.Obeys
import ChaosDemo.Interleave
import ChaosDemo.Keyspace
import ChaosDemo.SlidingLog
import ChaosDemo.Json
import ChaosDemo.Redis
import ChaosDemo.Host
import ChaosDemo.Retry
import ChaosDemo.IdempotencyStore
import ChaosDemo.StoreProtocol
import ChaosDemo.Staleness
import ChaosDemo.Breaker
import ChaosDemo.SlidingBreaker
import ChaosDemo.BreakerInvariant
import ChaosDemo.StoreClient
import ChaosDemo.Handover
import ChaosDemo.OrderService
import ChaosDemo.Settlement
import ChaosDemo.BreakerProtocol
import ChaosDemo.BreakerClient
import ChaosDemo.ProbeRace
import ChaosDemo.ProbeLease
import ChaosDemo.Admission
import ChaosDemo.RateLimiter
import ChaosDemo.RateDecisions
import ChaosDemo.RateRace
import ChaosDemo.ChaosStore
import ChaosDemo.ChaosEngine
import ChaosDemo.Ledger
import ChaosDemo.Triple
import ChaosDemo.ChaosAccounting
import ChaosDemo.ReportUpdates
import ChaosDemo.Builtins
import ChaosDemo.Regex
import ChaosDemo.Fabrication
import ChaosDemo.Evaluation
import ChaosDemo.ScoreEvaluator
import ChaosDemo.GateVerdict
import ChaosDemo.Permission
import ChaosDemo.AgentState
import ChaosDemo.PlatformService
import ChaosDemo.LayeredSecurity
import ChaosDemo.OrderProtocol
import ChaosDemo.BreakerFailures
import ChaosDemo.OrderClient
import ChaosDemo.TerminalWrites
import ChaosDemo.LostReply
import ChaosDemo.OrderLifecycle
import ChaosDemo.ProcessingAnswers
import ChaosDemo.AllOrNothing
import ChaosDemo.LegacyTools
import ChaosDemo.ToolPath
import ChaosDemo.OnePlacedOrder
import ChaosDemo.Redaction
import ChaosDemo.PolicyFile
import ChaosDemo.Guards
import ChaosDemo.StrictPolicy
import ChaosDemo.Report
import ChaosDemo.UnifiedGate
import ChaosDemo.FailClosed
import ChaosDemo.Brackets
import ChaosDemo.Observability
import ChaosDemo.ObservedRun
import ChaosDemo.Conduct
import ChaosDemo.RunBrackets
import ChaosDemo.RetryLoop
import ChaosDemo.RetryOutcome
import ChaosDemo.ClientIp
import ChaosDemo.RateKeys
import ChaosDemo.RetryTiming
import ChaosDemo.FaultFacade
import ChaosDemo.FaultClients
import ChaosDemo.FaultStops
import ChaosDemo.FaultCalls
import ChaosDemo.FaultRuns
import ChaosDemo.StoppedFaults
import ChaosDemo.FaultReads
import ChaosDemo.Notes
import ChaosDemo.RequestPhase
import ChaosDemo.PhaseEffects
import ChaosDemo.RequestOnce
import ChaosDemo.InjectedOnce
import ChaosDemo.ReplayRoundTrip
import ChaosDemo.BreakerReply
import ChaosDemo.ScoreOrder
import ChaosDemo.TokenGate
import ChaosDemo.ToleranceReasons
import ChaosDemo.AdminGuard
import ChaosDemo.EnforcementFlags
import ChaosDemo.RegexLanguage
import ChaosDemo.RulePlanner
import ChaosDemo.Cascade
import ChaosDemo.ExperimentChecks
import ChaosDemo.CharRuns
import ChaosDemo.Traffic
import ChaosDemo.TrafficLeaks
import ChaosDemo.TrafficEvents
import ChaosDemo.Presenting
import ChaosDemo.ConflictDetection
import ChaosDemo.CoreConfig
import ChaosDemo.JudgeBias
import ChaosDemo.Benchmark
import ChaosDemo.BenchmarkHistory
import ChaosDemo.SecurityVerdicts
import ChaosDemo.EvaluationResults
import ChaosDemo.Identifiers
import ChaosDemo.MoreEvidence
import ChaosDemo.IdentifierGrounding
import ChaosDemo.Tables
import ChaosDemo.ScoreLoop
import ChaosDemo.ScoreConsistency
import ChaosDemo.FixedRace
import ChaosDemo.SlidingFair
import ChaosDemo.SingleOrder
import ChaosDemo.SeparateTraces
import ChaosDemo.JsonReader
import ChaosDemo.TrafficPipeline
import ChaosDemo.BreakerRecovery
import ChaosDemo.KeyRecovery
import ChaosDemo.LimiterRecovery
