import BinancePlatform.Library.Binary64
import BinancePlatform.Library.Callouts
import BinancePlatform.Library.CasLoop
import BinancePlatform.Library.Decimal
import BinancePlatform.Library.DecimalDivision
import BinancePlatform.Library.DecimalWindow
import BinancePlatform.Library.Dialogues
import BinancePlatform.Library.Dict
import BinancePlatform.Library.DictTotal
import BinancePlatform.Library.Effects
import BinancePlatform.Library.Nearest
import BinancePlatform.Library.NumberText
import BinancePlatform.Library.Outcome
import BinancePlatform.Library.Runs
import BinancePlatform.Library.Spacing
import BinancePlatform.Library.SpelledNumbers
import BinancePlatform.Library.TextTrim
import BinancePlatform.Library.Tiling
import BinancePlatform.Library.Trails
import BinancePlatform.Source.AccountFacts
import BinancePlatform.Source.ActionLedger
import BinancePlatform.Source.AuthorityReissue
import BinancePlatform.Source.Backtest
import BinancePlatform.Source.BalanceHistory
import BinancePlatform.Source.BalanceRebase
import BinancePlatform.Source.BnbDividends
import BinancePlatform.Source.BtcAttribution
import BinancePlatform.Source.ClientCalls
import BinancePlatform.Source.DailyAccounting
import BinancePlatform.Source.DailyMigration
import BinancePlatform.Source.DateTime
import BinancePlatform.Source.DecimalText
import BinancePlatform.Source.EarnAccrual
import BinancePlatform.Source.Equality
import BinancePlatform.Source.ExactBacktest
import BinancePlatform.Source.ExactFill
import BinancePlatform.Source.ExitProposal
import BinancePlatform.Source.ExternalCashFlows
import BinancePlatform.Source.FillAccounting
import BinancePlatform.Source.FloatText
import BinancePlatform.Source.FundingRecovery
import BinancePlatform.Source.IncidentAlerts
import BinancePlatform.Source.IntervalReader
import BinancePlatform.Source.IntervalReceipt
import BinancePlatform.Source.IntervalWriter
import BinancePlatform.Source.Json
import BinancePlatform.Source.JsonReader
import BinancePlatform.Source.JsonRoundTrip
import BinancePlatform.Source.JsonTokens
import BinancePlatform.Source.KnownFill
import BinancePlatform.Source.LegacyRebase
import BinancePlatform.Source.LifecycleRewards
import BinancePlatform.Source.LiveAuthority
import BinancePlatform.Source.NotifiedCycle
import BinancePlatform.Source.OrderSubmission
import BinancePlatform.Source.PoolFallback
import BinancePlatform.Source.PortfolioValuation
import BinancePlatform.Source.ProspectiveMigration
import BinancePlatform.Source.Python
import BinancePlatform.Source.RecentTrades
import BinancePlatform.Source.RecoveryControl
import BinancePlatform.Source.SessionSave
import BinancePlatform.Source.StaleOwner
import BinancePlatform.Source.StrategyCycle
import BinancePlatform.Source.StrictReads
import BinancePlatform.Source.SymbolRecords
import BinancePlatform.Source.TimeText
import BinancePlatform.Source.TradeExecution
import BinancePlatform.Source.TradeState
import BinancePlatform.Source.TradingCycle
import BinancePlatform.Source.TrendDay
import BinancePlatform.Source.TrendPool
import BinancePlatform.Source.WindowMerge
import BinancePlatform.Guarantees.AcceptedFacts
import BinancePlatform.Guarantees.ActionCooldown
import BinancePlatform.Guarantees.ActionSteps
import BinancePlatform.Guarantees.AlertDelivery
import BinancePlatform.Guarantees.ApprovedOrders
import BinancePlatform.Guarantees.AttributionReplay
import BinancePlatform.Guarantees.BacktestConservation
import BinancePlatform.Guarantees.BreakerSignal
import BinancePlatform.Guarantees.CandidateLedger
import BinancePlatform.Guarantees.CandidateMerge
import BinancePlatform.Guarantees.ChunkCoverage
import BinancePlatform.Guarantees.CircuitExits
import BinancePlatform.Guarantees.DepositNeutrality
import BinancePlatform.Guarantees.DepositPrincipal
import BinancePlatform.Guarantees.DepositRecords
import BinancePlatform.Guarantees.DepositsOnce
import BinancePlatform.Guarantees.DividendWindows
import BinancePlatform.Guarantees.EarnConservation
import BinancePlatform.Guarantees.ExactCover
import BinancePlatform.Guarantees.ExitNeverOversells
import BinancePlatform.Guarantees.FieldEdit
import BinancePlatform.Guarantees.FillConservation
import BinancePlatform.Guarantees.LastGoodPool
import BinancePlatform.Guarantees.LegacyDeposits
import BinancePlatform.Guarantees.LifecycleOutcome
import BinancePlatform.Guarantees.LifecycleReplay
import BinancePlatform.Guarantees.LifecycleWindow
import BinancePlatform.Guarantees.MigrationReset
import BinancePlatform.Guarantees.NoLookAhead
import BinancePlatform.Guarantees.NotificationNeutrality
import BinancePlatform.Guarantees.OwnerRelease
import BinancePlatform.Guarantees.PageWalk
import BinancePlatform.Guarantees.PoolNotLost
import BinancePlatform.Guarantees.PositionRecords
import BinancePlatform.Guarantees.ProspectiveArchive
import BinancePlatform.Guarantees.ProvenSettlement
import BinancePlatform.Guarantees.QuietPrograms
import BinancePlatform.Guarantees.RebasedScope
import BinancePlatform.Guarantees.ReceiptPlans
import BinancePlatform.Guarantees.ReceiptUnit
import BinancePlatform.Guarantees.RecoveryTransitions
import BinancePlatform.Guarantees.ReissueEdit
import BinancePlatform.Guarantees.ReissueRecovery
import BinancePlatform.Guarantees.RequestCall
import BinancePlatform.Guarantees.RequestProtocol
import BinancePlatform.Guarantees.RewardAddition
import BinancePlatform.Guarantees.RotationNeutrality
import BinancePlatform.Guarantees.RunFacts
import BinancePlatform.Guarantees.SaveReload
import BinancePlatform.Guarantees.SessionTurns
import BinancePlatform.Guarantees.SingleValuation
import BinancePlatform.Guarantees.SnapshotTracking
import BinancePlatform.Guarantees.StaleRelease
import BinancePlatform.Guarantees.SubmissionGate
import BinancePlatform.Guarantees.SubmittedOnce
import BinancePlatform.Guarantees.SuppressedExecution
import BinancePlatform.Guarantees.TradeEffects
import BinancePlatform.Guarantees.TradeHistory
