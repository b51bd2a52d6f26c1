import CopyTrading.Transaction.Program
import CopyTrading.Transaction.Interleaving
import CopyTrading.Transaction.Protocol
import CopyTrading.Transaction.Handler
import CopyTrading.Transaction.Alone
import CopyTrading.Transaction.Commits
import CopyTrading.Transaction.Table
import CopyTrading.Transaction.Pending
import CopyTrading.Decimal.Basic
import CopyTrading.Decimal.Text
import CopyTrading.Decimal.Exact
import CopyTrading.Python
import CopyTrading.Models
import CopyTrading.Database
import CopyTrading.Session
import CopyTrading.OrderStateMachine
import CopyTrading.EmergencyStop
import CopyTrading.ExchangeAccounts
import CopyTrading.RiskEngine
import CopyTrading.PositionEngine
import CopyTrading.OrderEngine
import CopyTrading.SignalEngine
import CopyTrading.Environment
import CopyTrading.HttpClient
import CopyTrading.ReadOnlyCheck
import CopyTrading.TestnetOrder.Gate
import CopyTrading.TestnetOrder.Request
import CopyTrading.TestnetOrder.Submission
import CopyTrading.TestnetOrder.Lifecycle
import CopyTrading.SessionRules
import CopyTrading.Effects
import CopyTrading.ExecutionProtocol
import CopyTrading.ExecutionRefinement
import CopyTrading.ExecutionInvariant
import CopyTrading.ExecutionSafety
import CopyTrading.OrderGate
import CopyTrading.PositionLedger
import CopyTrading.ConcurrentFills
import CopyTrading.TestnetOrder.Wire
import CopyTrading.TestnetOrder.SubmissionProtocol
import CopyTrading.TestnetOrder.SubmissionRefinement
import CopyTrading.FixedWindow
import CopyTrading.RateLimitService
import CopyTrading.RateLimitGuarantees
import CopyTrading.Text.Json
import CopyTrading.Text.JsonKeys
import CopyTrading.Text.PosixPath
import CopyTrading.Text.Url
import CopyTrading.Text.Base64
import CopyTrading.Identity.Security
import CopyTrading.Identity.Users
import CopyTrading.Identity.Services
import CopyTrading.Identity.Environment
import CopyTrading.Identity.Revocation
import CopyTrading.Identity.SingleUse
import CopyTrading.Identity.Registration
import CopyTrading.Identity.LoginNames
import CopyTrading.SignedRequests
import CopyTrading.SessionAlone
import CopyTrading.ReadOnlyVerdict
import CopyTrading.OrderInvariants
import CopyTrading.OrderServices
import CopyTrading.TransitionLog
import CopyTrading.EventConvergence
import CopyTrading.EventScope
import CopyTrading.RiskSettings
import CopyTrading.TradingSwitches
import CopyTrading.StopRaces
import CopyTrading.ExecutionDecided
import CopyTrading.AccountState.Sync
import CopyTrading.AccountState.Decoding
import CopyTrading.AccountState.Guarantees
import CopyTrading.AccountState.Precision
import CopyTrading.Fallible
import CopyTrading.StateEffect
import CopyTrading.Observability.Store
import CopyTrading.Observability.Notifications
import CopyTrading.Observability.Durability
import CopyTrading.Observability.PositionReconciliation
import CopyTrading.Observability.ReconciliationWorker
import CopyTrading.Observability.ReconciliationRecords
import CopyTrading.AuditTrail
import CopyTrading.Phase4
import CopyTrading.Phase4Chain
import CopyTrading.TestnetOrder.SubmissionReplay
import CopyTrading.TestnetOrder.BlockedSymbols
import CopyTrading.ClientOrderIds
import CopyTrading.PartialFills
import CopyTrading.EventBatches
import CopyTrading.Observability.DriftReports
import CopyTrading.Observability.RepairPlanning
import CopyTrading.Observability.RepairConvergence
import CopyTrading.Observability.SecretFilters
import CopyTrading.RedisWindows
import CopyTrading.RateLimitStores
import CopyTrading.TargetPosition
import CopyTrading.TestnetOrder.Acknowledgement
import CopyTrading.TestnetOrder.UnsentSubmissions
import CopyTrading.TestnetOrder.OrderLookups
import CopyTrading.TestnetOrder.Reconciliation
import CopyTrading.Decimal.Stored
import CopyTrading.TestnetOrder.SubmissionInvariant
import CopyTrading.TestnetOrder.SubmissionSafety
import CopyTrading.TestnetOrder.SentAmounts
import CopyTrading.TestnetOrder.OrderWindows
import CopyTrading.TestnetOrder.ApprovalUse
import CopyTrading.TestnetOrder.StoredResponses
import CopyTrading.UserStream.Accounting
import CopyTrading.UserStream.Classification
import CopyTrading.TestnetOrder.Instruments
import CopyTrading.Identity.MfaChallenge
import CopyTrading.Identity.RecoveryCodes
import CopyTrading.Identity.TokenDecoding
import CopyTrading.Throttling
import CopyTrading.Alerts.ExternalAlerts
import CopyTrading.Alerts.OperationalAlerts
import CopyTrading.Alerts.AlertThrottling
import CopyTrading.Calendar
import CopyTrading.FileTree
import CopyTrading.BackupRetention
import CopyTrading.StorageLocations
import CopyTrading.MarketData.PublicCandles
import CopyTrading.MarketData.CandleFallback
import CopyTrading.Transaction.Discipline
import CopyTrading.Transaction.InTurn
import CopyTrading.SessionDiscipline
import CopyTrading.TerminalStatuses
import CopyTrading.DeletedAccounts
import CopyTrading.AcceptedOrders
import CopyTrading.Transaction.Ownership
import CopyTrading.AccountRequests
import CopyTrading.TenantRows
import CopyTrading.TenantSessions
import CopyTrading.TenantRequests
import CopyTrading.Transaction.Queries
import CopyTrading.Transaction.Answering
import CopyTrading.SessionQueries
import CopyTrading.RealAccounts
import CopyTrading.UserStream.Activation
import CopyTrading.UserStream.Service
import CopyTrading.UserStream.BoundedSessions
import CopyTrading.ExchangeTraffic
import CopyTrading.OrderRecovery
import CopyTrading.ConcurrentLogs
import CopyTrading.LoggedServices
