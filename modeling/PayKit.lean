import PayKit.Concurrency.Program
import PayKit.Concurrency.Interleaving
import PayKit.Store.KeyValue
import PayKit.Store.ChargeReplay
import PayKit.Store.ConsumedSignatures
import PayKit.Store.ChargeChain
import PayKit.Store.ChargeSpec
import PayKit.Store.ChargeConcurrent
import PayKit.Store.ChargeSequential
import PayKit.Charge.VerificationError
import PayKit.Charge.VerifyBound
import PayKit.Charge.SettlementInvariant
import PayKit.Charge.OneReceipt
import PayKit.Arithmetic.Machine
import PayKit.Channel.State
import PayKit.Channel.Authorization
import PayKit.Channel.AuthorizationRuns
import PayKit.Channel.AuthorizationAccounting
import PayKit.Channel.AuthorizationReplay
import PayKit.Session.AcceptVoucher
import PayKit.Session.VoucherConcurrent
import PayKit.Channel.Stores
import PayKit.Encoding.Radix
import PayKit.Solana.Pubkey
import PayKit.Tx.Budget
import PayKit.Tx.Policy
import PayKit.Arithmetic.Decimal
import PayKit.Charge.Request
import PayKit.Matching.FirstMatch
import PayKit.Charge.PullVerifier
import PayKit.Charge.PullSoundness
import PayKit.Charge.PushVerifier
import PayKit.Charge.PullPushAgreement
import PayKit.BatchSettlement.Error
import PayKit.BatchSettlement.TransactionPolicy
import PayKit.BatchSettlement.SponsorPolicy
import PayKit.BatchSettlement.Client
import PayKit.BatchSettlement.ClientSession
import PayKit.BatchSettlement.Server
import PayKit.BatchSettlement.CloseRuns
import PayKit.BatchSettlement.RecordUpdate
import PayKit.BatchSettlement.Payment
import PayKit.BatchSettlement.Refund
import PayKit.BatchSettlement.RefundRuns
import PayKit.BatchSettlement.EscrowRuns
import PayKit.X402.Error
import PayKit.Upto.Open
import PayKit.Upto.OpenSoundness
import PayKit.Subscription.Activation
import PayKit.Subscription.ActivationScope
import PayKit.Rpc.Broadcast
import PayKit.Exact.Settlement
import PayKit.Exact.Grants
import PayKit.Exact.Forfeits
import PayKit.Subscription.Settlement
import PayKit.Subscription.Binding
import PayKit.Subscription.Rejections
import PayKit.Encoding.Base64Url
import PayKit.Encoding.Join
import PayKit.Challenge.Binding
import PayKit.Charge.ChallengeAuthentication
import PayKit.PaymentChannel.PayerRefund
import PayKit.Upto.RefundRuns
import PayKit.Upto.Served
import PayKit.Upto.ServedCharge
import PayKit.Encoding.Lines
import PayKit.Login.Timestamp
import PayKit.Login.Authenticate
import PayKit.Login.Siwx
import PayKit.Login.SignedText
import PayKit.Login.OneMeaning
import PayKit.Arithmetic.Calendar
import PayKit.Arithmetic.Periods
import PayKit.Login.TimestampRoundTrip
import PayKit.Login.Credential
import PayKit.Login.ValidityWindow
import PayKit.Session.PolicyStore
import PayKit.Session.OpenFlow
import PayKit.Session.Isolation
import PayKit.Encoding.AuthChallenge
import PayKit.Challenge.Headers
import PayKit.Challenge.HeaderParams
import PayKit.Challenge.HeaderRoundTrip
import PayKit.Challenge.HeaderScan
import PayKit.Challenge.MergedHeaders
import PayKit.Confidential.BundleSoundness
import PayKit.Charge.Builder
import PayKit.Charge.PaymentPlan
import PayKit.Charge.BuiltPayment
import PayKit.Encoding.Numeral
import PayKit.Arithmetic.Units
import PayKit.Arithmetic.UnitsGrammar
import PayKit.Arithmetic.UnitsRoundTrip
import PayKit.Encoding.PlainSearch
import PayKit.Encoding.JsonText
import PayKit.Channel.RecordText
import PayKit.Channel.SealScript
import PayKit.Encoding.SortedMap
import PayKit.Encoding.JsonValue
import PayKit.Mcp.Request
import PayKit.Mcp.OperationDigest
import PayKit.Mcp.Gate
import PayKit.Mcp.NativeJson
import PayKit.Confidential.OrphanSweepRuns
import PayKit.Session.MeteredRuns
import PayKit.Tx.CompiledOrder
import PayKit.Subscription.ActivationBuilder
import PayKit.Subscription.ActivationAccepted
import PayKit.Batching.Greedy
import PayKit.Settlement.Packing
import PayKit.Settlement.SubmitGroups
import PayKit.Settlement.SubmitGroupsRuns
import PayKit.Control.Faulting
import PayKit.Tx.FeeCap
import PayKit.Encoding.SelfDelimiting
import PayKit.PaymentChannel.Hooks
import PayKit.PaymentChannel.HooksCodec
import PayKit.Control.Precedence
import PayKit.Client.Permissions
import PayKit.Client.CapOrder
import PayKit.BatchSettlement.HostileMessages
import PayKit.Concurrency.Sequential
import PayKit.Subscription.ReceiptPeriods
import PayKit.Matching.Preference
import PayKit.X402.Requirements
import PayKit.Exact.Selection
import PayKit.Encoding.JsonEdit
import PayKit.X402.RouteRequirements
import PayKit.Exact.OfferMatching
import PayKit.Arithmetic.Gregorian
import PayKit.Login.TimestampSafety
import PayKit.Login.CalendarAgreement
import PayKit.Encoding.Framing
import PayKit.BatchSettlement.Preimages
import PayKit.Streaming.LineReader
import PayKit.Client.EventStream
import PayKit.Concurrency.Actor
import PayKit.Rpc.ConfirmationTracker
import PayKit.Rpc.AccountReader
import PayKit.Gate.RouteBinding
import PayKit.Concurrency.Outcomes
import PayKit.Upto.VerifiedOpen
import PayKit.Upto.OneServedOpen
import PayKit.Concurrency.Ensures
import PayKit.Accounting.Prepaid
import PayKit.Session.RequestCalls
import PayKit.Session.RequestCharges
import PayKit.Session.RequestLifecycle
import PayKit.Session.RecordMoves
import PayKit.Session.RecordLedger
import PayKit.Session.RecordHistory
import PayKit.Session.RequestWrites
import PayKit.Session.RequestStore
import PayKit.Session.RequestRules
import PayKit.Session.ChargePrograms
import PayKit.Session.LifecyclePrograms
import PayKit.Session.RequestRuns
import PayKit.Concurrency.Jobs
import PayKit.Concurrency.Ownership
import PayKit.Concurrency.Limits
import PayKit.Settlement.Worker
import PayKit.Settlement.WorkerLimits
import PayKit.Settlement.WorkerWarrants
import PayKit.Settlement.WorkerPrograms
import PayKit.Settlement.WorkerRuns
