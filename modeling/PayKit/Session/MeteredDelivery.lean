import PayKit.Arithmetic.Decimal
import PayKit.Channel.AuthorizationSpec
import PayKit.Session.AcceptVoucher

/-!
# Metered deliveries

A server that meters reserves the cost of a delivery, announces it in a metering
directive, and may lower it to what the stream really used. The client signs a
voucher for its watermark plus the directive's amount and commits it. It moves its
own watermark only when the commit was answered, so that a commit whose receipt is
lost can be signed again for the same cumulative amount.

`SessionConsumer` and the stream state of the client are modelled here with the
three updates of the server: reserving a delivery, recording its usage, committing
it. A commit reads a snapshot of the record, checks it, and decides again under the
store's lock; `checkCommit` and `commitDelivery` are these two parts. What
`begin_delivery` does to refresh the observation of the chain before its update
touches neither watermark nor deliveries.
-/

namespace PayKit.Session.Metered

open Channel Control Machine Store

/-! ## Messages -/

/-- The directive attached to a delivered message. The amount is in base units, in
decimal. -/
structure MeteringDirective where
  deliveryId : String
  sessionId : String
  amount : String
  currency : String
  sequence : ℕ
  expiresAt : ℤ
  commitUrl : Option String
  proof : Option String
deriving DecidableEq

/-- Final usage reported by a streaming response. -/
structure MeteringUsage where
  deliveryId : String
  amount : String
deriving DecidableEq

structure VoucherData where
  channelId : String
  cumulativeAmount : String
  expiresAt : Option ℤ
deriving DecidableEq

structure SignedVoucher where
  data : VoucherData
  signer : String
  signature : String
deriving DecidableEq

structure CommitPayload where
  deliveryId : String
  voucher : SignedVoucher
deriving DecidableEq

inductive CommitStatus where
  | committed
  | replayed
deriving DecidableEq

structure CommitReceipt where
  deliveryId : String
  sessionId : String
  amount : String
  cumulative : String
  status : CommitStatus
deriving DecidableEq

def MeteringDirective.amountBaseUnits (directive : MeteringDirective) : Except Error ℕ :=
  okOr (parseU64 directive.amount) (.other ("invalid metering amount: " ++ directive.amount))

def MeteringUsage.amountBaseUnits (usage : MeteringUsage) : Except Error ℕ :=
  okOr (parseU64 usage.amount) (.other ("invalid metering usage amount: " ++ usage.amount))

/-- The directive to commit once the stream reported its final usage. -/
def MeteringDirective.settle (directive : MeteringDirective) (usage : MeteringUsage) :
    Except Error MeteringDirective := do
  refuseIf (usage.deliveryId ≠ directive.deliveryId)
    (.other (s!"usage delivery {usage.deliveryId} does not match directive " ++
      directive.deliveryId))
  let reserved ← directive.amountBaseUnits
  let used ← usage.amountBaseUnits
  refuseIf (reserved < used)
    (.other s!"mpp.usage amount {used} exceeds the reserved metering amount {reserved}")
  return { directive with amount := used.repr }

/-! ## The client -/

/-- The session key: its public key, and what it signs. Signing first builds the
voucher message, which fails on a channel that is no address. The same voucher is
always signed the same. -/
structure SessionSigner where
  pubkey : String
  signMessage : VoucherData → Except Error String

/-- Tracks the client's side of a session. -/
structure ActiveSession where
  channelId : String
  /-- The cumulative amount authorized so far: the client's watermark. -/
  cumulative : ℕ
  expiresAt : ℤ
  signer : SessionSigner

namespace ActiveSession

/-- Sign a voucher without advancing the watermark. -/
def prepareVoucher (session : ActiveSession) (cumulative : ℕ) : Except Error SignedVoucher := do
  refuseIf (cumulative ≤ session.cumulative)
    (.other (s!"Voucher cumulative {cumulative} must exceed current watermark " ++
      session.cumulative.repr))
  let data : VoucherData :=
    { channelId := session.channelId
      cumulativeAmount := cumulative.repr
      expiresAt := some session.expiresAt }
  let signature ← session.signer.signMessage data
  return { data, signer := session.signer.pubkey, signature }

/-- Record a prepared voucher as accepted by the server. -/
def recordVoucher (session : ActiveSession) (voucher : SignedVoucher) :
    Except Error ActiveSession := do
  let cumulative ← okOr (parseU64 voucher.data.cumulativeAmount)
    (.other "invalid voucher cumulative")
  refuseIf (cumulative ≤ session.cumulative)
    (.other (s!"Voucher cumulative {cumulative} must exceed current watermark " ++
      session.cumulative.repr))
  return { session with cumulative }

end ActiveSession

/-- What a consumer may sign vouchers for. -/
structure MeteringBudget where
  maxPerDelivery : ℕ
  maxCumulative : ℕ
  positive : 0 < maxPerDelivery
  ordered : maxPerDelivery ≤ maxCumulative

def MeteringBudget.new (maxPerDelivery maxCumulative : ℕ) : Except Error MeteringBudget :=
  if hBudget : 0 < maxPerDelivery ∧ maxPerDelivery ≤ maxCumulative then
    .ok ⟨maxPerDelivery, maxCumulative, hBudget.1, hBudget.2⟩
  else
    .error (.other (s!"metering budget needs 0 < max_per_delivery ({maxPerDelivery}) <= " ++
      s!"max_cumulative ({maxCumulative})"))

/-- The session with the transport's own check of a directive and the budget. -/
structure SessionConsumer where
  session : ActiveSession
  budget : MeteringBudget
  checkDirective : MeteringDirective → Except Error Unit

namespace SessionConsumer

/-- Check a directive against the session, the budget and the transport, and return
the cumulative amount a voucher for it would sign. -/
def validateDirective (consumer : SessionConsumer) (directive : MeteringDirective) :
    Except Error ℕ := do
  refuseIf (directive.sessionId ≠ consumer.session.channelId)
    (.other (s!"metered delivery session {directive.sessionId} does not match active session " ++
      consumer.session.channelId))
  let amount ← directive.amountBaseUnits
  refuseIf (amount = 0) (.other "metered delivery amount must be greater than zero")
  refuseIf (consumer.budget.maxPerDelivery < amount)
    (.other (s!"metered delivery amount {amount} exceeds the per-delivery budget " ++
      consumer.budget.maxPerDelivery.repr))
  let cumulative ← okOr
    ((checkedAdd consumer.session.cumulative amount).filter
      fun cumulative => cumulative ≤ consumer.budget.maxCumulative)
    (.other (s!"metered delivery amount {amount} takes the session past its cumulative budget " ++
      s!"{consumer.budget.maxCumulative} (committed {consumer.session.cumulative})"))
  consumer.checkDirective directive
  return cumulative

/-- What `commit_directive` hands to the transport. -/
def commitPayload (consumer : SessionConsumer) (directive : MeteringDirective) :
    Except Error CommitPayload := do
  let cumulative ← consumer.validateDirective directive
  let voucher ← consumer.session.prepareVoucher cumulative
  return { deliveryId := directive.deliveryId, voucher }

/-- Commit a directive. `commit` is the transport's answer to the payload. A failed
commit leaves the consumer as it was. -/
def commitDirective (consumer : SessionConsumer) (directive : MeteringDirective)
    (commit : CommitPayload → Except Error CommitReceipt) :
    Except Error (SessionConsumer × CommitReceipt) := do
  let payload ← consumer.commitPayload directive
  let receipt ← commit payload
  let session ← consumer.session.recordVoucher payload.voucher
  return ({ consumer with session }, receipt)

end SessionConsumer

/-- A metered server-sent event, as far as the stream state tells them apart. -/
inductive MeteredSseEvent where
  | metering (directive : MeteringDirective)
  | usage (usage : MeteringUsage)
  | message
  | done
  | other

structure MeteredStreamState where
  /-- The reservation announced. -/
  directive : Option MeteringDirective
  /-- The directive settled against the reported usage. -/
  settled : Option MeteringDirective
  done : Bool

namespace MeteredStreamState

def applyEvent (state : MeteredStreamState) : MeteredSseEvent → Except Error MeteredStreamState
  | .metering directive => .ok { state with directive := some directive, settled := none }
  | .usage usage => do
      let directive ← okOr state.directive
        (.other "mpp.usage arrived before the mpp.metering event")
      let settled ← directive.settle usage
      return { state with settled := some settled }
  | .message => .ok state
  | .done => .ok { state with done := true }
  | .other => .ok state

def directiveForCommit (state : MeteredStreamState) : Except Error MeteringDirective :=
  okOr (state.settled.or state.directive)
    (.other "stream did not include mpp.metering event")

end MeteredStreamState

/-! ## The server -/

/-- Request to reserve a metered delivery. -/
structure DeliveryRequest where
  sessionId : String
  amount : ℕ
  deliveryId : Option String
  commitUrl : Option String
  proof : Option String
  expiresAt : Option ℤ

def defaultSessionExpiresAt : ℤ := 4102444800

def channelSnapshotMaxAgeSeconds : ℕ := 30

/-- What the server's configuration says about a metered session. `currency` is the
mint the configuration resolves to. -/
structure SessionConfig where
  operator : String
  gracePeriodSeconds : ℕ
  currency : Except Error String
  checkSignature : SignatureCheck

def storeErr (error : StoreError) : Error :=
  .other error.display

/-- Longest a confirmed channel read admits charges on that channel. -/
def SessionConfig.snapshotMaxAge (config : SessionConfig) : ℕ :=
  min channelSnapshotMaxAgeSeconds (config.gracePeriodSeconds / 2)

def requireFreshSnapshot (state : ChannelState) (maxAge now : ℕ) : Except StoreError Unit :=
  refuseIf (maxAge < now - state.onchainObservedAt)
    (.internal s!"channel {state.channelId} has no confirmed onchain read in the last {maxAge}s")

/-- The watermark with every reservation that stands and `amount` on top. -/
def reservedWith (state : ChannelState) (amount : ℕ) : Option ℕ := do
  let total ← state.pendingDeliveries.foldlM
    (fun total delivery => checkedAdd total delivery.amount) state.cumulative
  checkedAdd total amount

/-- Whether a delivery with this id is reserved or still recorded as committed. -/
def deliveryExists (state : ChannelState) (deliveryId : String) : Bool :=
  (state.pendingDeliveries.any fun delivery => delivery.deliveryId = deliveryId) ||
    state.committedDeliveries.any fun delivery => delivery.deliveryId = deliveryId

/-- `next_delivery_sequence + 1` on 64 bits. -/
def nextSequence (state : ChannelState) : ℕ :=
  (state.nextDeliverySequence + 1) % 2 ^ 64

/-- The reservation a request asks for. -/
def DeliveryRequest.reservation (request : DeliveryRequest) (state : ChannelState) :
    PendingDelivery where
  deliveryId := request.deliveryId.getD (s!"{request.sessionId}:{nextSequence state}")
  amount := request.amount
  sequence := nextSequence state
  expiresAt := request.expiresAt.getD defaultSessionExpiresAt
  requestFingerprint := none
  handlerSucceeded := false

def DeliveryRequest.directive (request : DeliveryRequest) (currency : String)
    (reservation : PendingDelivery) : MeteringDirective where
  deliveryId := reservation.deliveryId
  sessionId := request.sessionId
  amount := request.amount.repr
  currency := currency
  sequence := reservation.sequence
  expiresAt := reservation.expiresAt
  commitUrl := request.commitUrl
  proof := request.proof

/-- The updater of `begin_delivery`, with the directive it hands out. -/
def reserveDelivery (maxAge now : ℕ) (currency : String) (request : DeliveryRequest) :
    Option ChannelState → Except StoreError (ChannelState × MeteringDirective)
  | none => .error (.internal s!"Channel {request.sessionId} not found")
  | some state => do
      refuseIf state.sealed (.internal "Channel is already sealed")
      refuseIf state.closeRequestedAt.isSome
        (.internal "Channel close is pending — no further deliveries accepted")
      requireFreshSnapshot state maxAge now
      refuseIf ((reservedWith state request.amount).all fun reserved => state.deposit < reserved)
        (.internal s!"Delivery amount {request.amount} exceeds available deposit")
      let reservation := request.reservation state
      refuseIf (deliveryExists state reservation.deliveryId)
        (.internal s!"Delivery {reservation.deliveryId} already exists")
      return ({ state with
        nextDeliverySequence := reservation.sequence
        pendingDeliveries := state.pendingDeliveries ++ [reservation] },
        request.directive currency reservation)

/-- `begin_delivery` on the record found after the refresh. -/
def beginDelivery (config : SessionConfig) (now : ℕ) (request : DeliveryRequest)
    (record : Option ChannelState) : Except Error (ChannelState × MeteringDirective) := do
  refuseIf (request.amount = 0) (.other "Delivery amount must be greater than zero")
  let currency ← config.currency
  (reserveDelivery config.snapshotMaxAge now currency request record).mapError storeErr

/-- The updater of `record_delivery_usage`. -/
def recordDeliveryUsage (deliveryId : String) (amount : ℕ) :
    Option ChannelState → Except StoreError ChannelState
  | none => .error (.internal "Channel not found")
  | some state => do
      let index ← okOr (state.pendingIndex deliveryId)
        (.internal s!"Delivery {deliveryId} not found")
      let reserved := state.pendingDeliveries.get index
      refuseIf (reserved.amount < amount)
        (.internal s!"Usage {amount} exceeds reserved amount {reserved.amount}")
      if amount = 0 then
        return { state with pendingDeliveries := state.pendingDeliveries.eraseIdx index }
      else
        return { state with
          pendingDeliveries := state.pendingDeliveries.set index { reserved with amount } }

def verifySignature (config : SessionConfig) (now : ℤ) (voucher : SignedVoucher)
    (authorizedSigner : String) : Except Error Unit := do
  refuseIf (voucher.signer ≠ authorizedSigner)
    (.other "voucher signer does not match the channel authorized signer")
  let newCumulative ← okOr (parseU64 voucher.data.cumulativeAmount)
    (.other "Invalid cumulative in voucher")
  verifyVoucherSignature voucher.data.channelId config.checkSignature
    { newCumulative
      expiresAt := voucher.data.expiresAt.getD 0
      signature := voucher.signature
      now
      minVoucherDelta := 0
      settlementWindow := config.gracePeriodSeconds
      requiredAvailability := 0 }
    authorizedSigner

/-- A commit that passed the snapshot, with what it captured for its update. -/
structure CommitTask where
  channelId : String
  deliveryId : String
  newCumulative : ℕ
  signature : String
  expiresAt : ℤ
  now : ℤ
deriving DecidableEq

def CommitTask.receipt (task : CommitTask) (amount cumulative : ℕ) (status : CommitStatus) :
    CommitReceipt where
  deliveryId := task.deliveryId
  sessionId := task.channelId
  amount := amount.repr
  cumulative := cumulative.repr
  status := status

/-- The snapshot part of `process_commit`: the receipt of a commit already recorded,
or the task that goes on to the update. -/
inductive CommitStage where
  | replayed (receipt : CommitReceipt)
  | reserved (task : CommitTask)

def CommitPayload.task (payload : CommitPayload) (newCumulative : ℕ) (now : ℤ) : CommitTask where
  channelId := payload.voucher.data.channelId
  deliveryId := payload.deliveryId
  newCumulative := newCumulative
  signature := payload.voucher.signature
  expiresAt := payload.voucher.data.expiresAt.getD 0
  now := now

/-- A recorded commit answers the voucher it was made with. -/
def CommitTask.isReplay (task : CommitTask) (committed : CommittedDelivery) : Bool :=
  committed.cumulative = task.newCumulative ∧ committed.voucherSignature = task.signature

def checkCommit (config : SessionConfig) (now : ℤ) (payload : CommitPayload)
    (record : Option ChannelState) : Except Error CommitStage := do
  let newCumulative ← okOr (parseU64 payload.voucher.data.cumulativeAmount)
    (.other "Invalid cumulative in commit voucher")
  let task := payload.task newCumulative now
  let state ← okOr record (.other s!"Channel {task.channelId} not found")
  match state.committedAuthorization task.deliveryId with
  | some committed =>
      refuseIf (¬ task.isReplay committed)
        (.other s!"Delivery {task.deliveryId} was already committed with different voucher")
      verifySignature config now payload.voucher state.authorizedSigner
      return .replayed (task.receipt committed.amount committed.cumulative .replayed)
  | none =>
      let index ← okOr (state.pendingIndex task.deliveryId)
        (.other s!"Delivery {task.deliveryId} not found")
      refuseIf ((state.pendingDeliveries.get index).expiresAt ≤ now)
        (.other s!"Delivery {task.deliveryId} has expired")
      refuseIf (newCumulative ≤ state.cumulative)
        (.other s!"Commit cumulative {newCumulative} must exceed watermark {state.cumulative}")
      refuseIf (state.deposit < newCumulative)
        (.other s!"Commit cumulative {newCumulative} exceeds deposit {state.deposit}")
      verifySignature config now payload.voucher state.authorizedSigner
      return .reserved task

/-- The idle-close deadline after activity at `nowMs`, early enough for the voucher
that the close will settle. -/
def idleLifecycle (state : ChannelState) (owner : String) (nowMs : ℕ) (voucherExpiresAt : ℤ)
    (gracePeriod : ℕ) : Option ChannelLifecycle :=
  state.idleTimeoutSeconds.map fun seconds =>
    let idle := saturatingAdd nowMs (seconds * 1000)
    { owner
      closeAfter :=
        if 0 < voucherExpiresAt then
          min idle (min ((voucherExpiresAt.toNat - gracePeriod) * 1000) u64Max)
        else idle }

def CommitTask.record (task : CommitTask) (amount : ℕ) : CommittedDelivery where
  deliveryId := task.deliveryId
  amount := amount
  cumulative := task.newCumulative
  voucherSignature := task.signature
  requestFingerprint := none
  settlementResponse := none
  retainUntil := 0
  cachedResponse := none

/-- The record after a reservation was committed. -/
def CommitTask.applyTo (task : CommitTask) (config : SessionConfig) (nowMs : ℕ)
    (state : ChannelState) (index : Fin state.pendingDeliveries.length) (spentAmount : ℕ) :
    ChannelState :=
  let committed :=
    state.committedDeliveries ++ [task.record (task.newCumulative - state.cumulative)]
  { state with
    pendingDeliveries := state.pendingDeliveries.eraseIdx index
    cumulative := task.newCumulative
    spentAmount
    highestVoucherSignature := some task.signature
    highestVoucherExpiresAt := some task.expiresAt
    lastActivityAt := nowMs
    lifecycle :=
      idleLifecycle state config.operator nowMs task.expiresAt config.gracePeriodSeconds
    committedDeliveries := committed.drop (committed.length - maxCommittedAuthorizations) }

/-- The updater of `process_commit`, with the receipt it leads to. -/
def commitDelivery (config : SessionConfig) (nowMs : ℕ) (task : CommitTask) :
    Option ChannelState → Except StoreError (ChannelState × CommitReceipt)
  | none => .error (.internal s!"Channel {task.channelId} not found")
  | some state => do
      refuseIf state.sealed (.internal "Channel is already sealed")
      refuseIf state.finalCumulative.isSome
        (.internal ("Channel close is pending — final watermark is fixed at " ++
          (state.finalCumulative.getD 0).repr))
      match state.committedAuthorization task.deliveryId with
      | some committed =>
          refuseIf (¬ task.isReplay committed)
            (.internal
              s!"Delivery {task.deliveryId} was already committed with different voucher")
          return (state, task.receipt committed.amount committed.cumulative .replayed)
      | none =>
          let index ← okOr (state.pendingIndex task.deliveryId)
            (.internal s!"Delivery {task.deliveryId} not found")
          let pending := state.pendingDeliveries.get index
          refuseIf (pending.expiresAt ≤ task.now)
            (.internal s!"Delivery {task.deliveryId} has expired")
          refuseIf (task.newCumulative ≤ state.cumulative)
            (.internal (s!"Commit cumulative {task.newCumulative} must exceed watermark " ++
              state.cumulative.repr))
          refuseIf (state.deposit < task.newCumulative)
            (.internal (s!"Commit cumulative {task.newCumulative} exceeds deposit " ++
              state.deposit.repr))
          let actualAmount := task.newCumulative - state.cumulative
          refuseIf (actualAmount ≠ pending.amount)
            (.internal (s!"Commit amount {actualAmount} does not match delivery amount " ++
              pending.amount.repr))
          let spentAmount ← okOr (checkedAdd state.spentAmount actualAmount)
            (.internal "session spent amount overflow")
          return (task.applyTo config nowMs state index spentAmount,
            task.receipt actualAmount task.newCumulative .committed)

/-! ## What the parts do -/

/-- The record without what a commit, a reservation or a settlement of usage changes:
everything else that happens to a channel leaves these as they are. -/
structure SameDeliveries (before after : ChannelState) : Prop where
  cumulative : after.cumulative = before.cumulative
  pendingDeliveries : after.pendingDeliveries = before.pendingDeliveries
  committedDeliveries : after.committedDeliveries = before.committedDeliveries

/-- The consumer signs `payload` for a directive that asks for `amount`. -/
structure Signs (consumer : SessionConsumer) (directive : MeteringDirective)
    (payload : CommitPayload) (amount : ℕ) : Prop where
  asks : directive.amountBaseUnits = .ok amount
  positive : 0 < amount
  withinDelivery : amount ≤ consumer.budget.maxPerDelivery
  withinBudget : consumer.session.cumulative + amount ≤ consumer.budget.maxCumulative
  deliveryId : payload.deliveryId = directive.deliveryId
  cumulative : parseU64 payload.voucher.data.cumulativeAmount =
    some (consumer.session.cumulative + amount)

theorem validateDirective_eq_ok {consumer : SessionConsumer} {directive : MeteringDirective}
    {cumulative : ℕ} (hValid : consumer.validateDirective directive = .ok cumulative) :
    ∃ amount, directive.amountBaseUnits = .ok amount ∧ 0 < amount ∧
      amount ≤ consumer.budget.maxPerDelivery ∧
      cumulative = consumer.session.cumulative + amount ∧
      cumulative ≤ consumer.budget.maxCumulative ∧ cumulative ≤ u64Max := by
  simp only [SessionConsumer.validateDirective, bind_eq_ok, refuseIf_eq_ok, okOr_eq_ok,
    Option.filter_eq_some_iff, checkedAdd_eq_some, decide_eq_true_eq, pure, Except.pure,
    Except.ok.injEq] at hValid
  rcases hValid with ⟨-, -, amount, hAmount, -, hPositive, -, hDelivery, found,
    ⟨⟨hSum, hFits⟩, hBudget⟩, -, -, rfl⟩
  refine ⟨amount, hAmount, ?_, ?_, hSum.symm, hBudget, hFits⟩ <;> omega

theorem prepareVoucher_eq_ok {session : ActiveSession} {cumulative : ℕ} {voucher : SignedVoucher}
    (hPrepared : session.prepareVoucher cumulative = .ok voucher) :
    session.cumulative < cumulative ∧ voucher.data.cumulativeAmount = cumulative.repr := by
  simp only [ActiveSession.prepareVoucher, bind_eq_ok, refuseIf_eq_ok, pure, Except.pure,
    Except.ok.injEq, not_le] at hPrepared
  rcases hPrepared with ⟨-, hAbove, signature, -, rfl⟩
  exact ⟨hAbove, rfl⟩

theorem commitPayload_eq_ok {consumer : SessionConsumer} {directive : MeteringDirective}
    {payload : CommitPayload} (hPayload : consumer.commitPayload directive = .ok payload) :
    ∃ amount, Signs consumer directive payload amount := by
  simp only [SessionConsumer.commitPayload, bind_eq_ok, pure, Except.pure, Except.ok.injEq]
    at hPayload
  rcases hPayload with ⟨cumulative, hValid, voucher, hPrepared, rfl⟩
  rcases validateDirective_eq_ok hValid with
    ⟨amount, hAmount, hPositive, hDelivery, rfl, hBudget, hFits⟩
  refine ⟨amount, hAmount, hPositive, hDelivery, hBudget, rfl, ?_⟩
  rw [(prepareVoucher_eq_ok hPrepared).2, parseU64_repr hFits]

theorem recordVoucher_eq_ok {session after : ActiveSession} {voucher : SignedVoucher}
    (hRecorded : session.recordVoucher voucher = .ok after) :
    ∃ cumulative, parseU64 voucher.data.cumulativeAmount = some cumulative ∧
      session.cumulative < cumulative ∧ after = { session with cumulative } := by
  simp only [ActiveSession.recordVoucher, bind_eq_ok, refuseIf_eq_ok, okOr_eq_ok, pure,
    Except.pure, Except.ok.injEq, not_le] at hRecorded
  rcases hRecorded with ⟨cumulative, hParsed, -, hAbove, rfl⟩
  exact ⟨cumulative, hParsed, hAbove, rfl⟩

theorem commitDirective_eq_ok {consumer after : SessionConsumer} {directive : MeteringDirective}
    {commit : CommitPayload → Except Error CommitReceipt} {receipt : CommitReceipt}
    (hCommitted : consumer.commitDirective directive commit = .ok (after, receipt)) :
    ∃ payload amount, consumer.commitPayload directive = .ok payload ∧
      Signs consumer directive payload amount ∧ commit payload = .ok receipt ∧
      after = { consumer with session :=
        { consumer.session with cumulative := consumer.session.cumulative + amount } } := by
  simp only [SessionConsumer.commitDirective, bind_eq_ok, pure, Except.pure, Except.ok.injEq,
    Prod.mk.injEq] at hCommitted
  rcases hCommitted with ⟨payload, hPayload, answer, hAnswer, session, hRecorded, rfl, rfl⟩
  rcases commitPayload_eq_ok hPayload with ⟨amount, hSigns⟩
  rcases recordVoucher_eq_ok hRecorded with ⟨cumulative, hParsed, -, rfl⟩
  have hSame : cumulative = consumer.session.cumulative + amount := by
    simpa [hSigns.cumulative] using hParsed.symm
  exact ⟨payload, amount, hPayload, hSigns, hAnswer, by rw [hSame]⟩

theorem beginDelivery_eq_ok {config : SessionConfig} {now : ℕ} {request : DeliveryRequest}
    {state after : ChannelState} {directive : MeteringDirective}
    (hBegun : beginDelivery config now request (some state) = .ok (after, directive)) :
    ∃ currency, directive = request.directive currency (request.reservation state) ∧
      deliveryExists state (request.reservation state).deliveryId = false ∧
      after = { state with
        nextDeliverySequence := nextSequence state
        pendingDeliveries := state.pendingDeliveries ++ [request.reservation state] } := by
  simp only [beginDelivery, reserveDelivery, bind_eq_ok, refuseIf_eq_ok, mapError_eq_ok, pure,
    Except.pure, Except.ok.injEq, Prod.mk.injEq, Bool.not_eq_true] at hBegun
  rcases hBegun with ⟨-, -, currency, -, -, -, -, -, -, -, -, -, -, hNew, rfl, rfl⟩
  exact ⟨currency, rfl, hNew, rfl⟩

theorem recordDeliveryUsage_eq_ok {deliveryId : String} {amount : ℕ} {state after : ChannelState}
    (hRecorded : recordDeliveryUsage deliveryId amount (some state) = .ok after) :
    ∃ index : Fin state.pendingDeliveries.length,
      after = { state with pendingDeliveries := state.pendingDeliveries.eraseIdx index } ∨
      amount ≤ (state.pendingDeliveries.get index).amount ∧
        after = { state with
          pendingDeliveries := (state.pendingDeliveries.set index
            { state.pendingDeliveries.get index with amount }) } := by
  simp only [recordDeliveryUsage, bind_eq_ok, refuseIf_eq_ok, okOr_eq_ok, not_lt] at hRecorded
  rcases hRecorded with ⟨index, -, -, hWithin, hAfter⟩
  refine ⟨index, ?_⟩
  split at hAfter
  · left
    simpa [pure, Except.pure] using hAfter.symm
  · right
    exact ⟨hWithin, by simpa [pure, Except.pure] using hAfter.symm⟩

theorem checkCommit_reserved {config : SessionConfig} {now : ℤ} {payload : CommitPayload}
    {state : ChannelState} {task : CommitTask}
    (hChecked : checkCommit config now payload (some state) = .ok (.reserved task)) :
    ∃ newCumulative, parseU64 payload.voucher.data.cumulativeAmount = some newCumulative ∧
      task = payload.task newCumulative now := by
  simp only [checkCommit, bind_eq_ok, okOr_eq_ok] at hChecked
  rcases hChecked with ⟨newCumulative, hParsed, found, -, hChecked⟩
  refine ⟨newCumulative, hParsed, ?_⟩
  split at hChecked
  · simp only [bind_eq_ok, pure, Except.pure, Except.ok.injEq, reduceCtorEq, and_false,
      exists_false] at hChecked
  · simp only [bind_eq_ok, pure, Except.pure, Except.ok.injEq, CommitStage.reserved.injEq]
      at hChecked
    rcases hChecked with ⟨-, -, -, -, -, -, -, -, -, -, hTask⟩
    exact hTask.symm

theorem checkCommit_replayed {config : SessionConfig} {now : ℤ} {payload : CommitPayload}
    {state : ChannelState} {receipt : CommitReceipt}
    (hChecked : checkCommit config now payload (some state) = .ok (.replayed receipt)) :
    ∃ committed ∈ state.committedDeliveries,
      parseU64 payload.voucher.data.cumulativeAmount = some committed.cumulative := by
  simp only [checkCommit, bind_eq_ok, okOr_eq_ok, Option.some.injEq] at hChecked
  rcases hChecked with ⟨newCumulative, hParsed, found, rfl, hChecked⟩
  split at hChecked
  · rename_i committed hCommitted
    simp only [bind_eq_ok, refuseIf_eq_ok, not_not] at hChecked
    rcases hChecked with ⟨-, hReplay, -⟩
    simp only [CommitTask.isReplay, decide_eq_true_eq] at hReplay
    refine ⟨committed, List.mem_of_find?_eq_some hCommitted, ?_⟩
    rw [hParsed, hReplay.1]
    rfl
  · simp only [bind_eq_ok, pure, Except.pure, Except.ok.injEq, reduceCtorEq, and_false,
      exists_false] at hChecked

theorem commitDelivery_eq_ok {config : SessionConfig} {nowMs : ℕ} {task : CommitTask}
    {state after : ChannelState} {receipt : CommitReceipt}
    (hCommitted : commitDelivery config nowMs task (some state) = .ok (after, receipt)) :
    (∃ committed ∈ state.committedDeliveries, committed.cumulative = task.newCumulative ∧
      after = state) ∨
    ∃ (index : Fin state.pendingDeliveries.length) (spentAmount : ℕ),
      state.committedAuthorization task.deliveryId = none ∧
      (state.pendingDeliveries.get index).deliveryId = task.deliveryId ∧
      state.pendingIndex task.deliveryId = some index ∧
      state.cumulative + (state.pendingDeliveries.get index).amount = task.newCumulative ∧
      state.cumulative < task.newCumulative ∧
      after = task.applyTo config nowMs state index spentAmount := by
  simp only [commitDelivery, bind_eq_ok, refuseIf_eq_ok] at hCommitted
  rcases hCommitted with ⟨-, -, -, -, hCommitted⟩
  split at hCommitted
  · rename_i committed hFound
    simp only [bind_eq_ok, refuseIf_eq_ok, not_not, pure, Except.pure, Except.ok.injEq,
      Prod.mk.injEq] at hCommitted
    rcases hCommitted with ⟨-, hReplay, rfl, -⟩
    simp only [CommitTask.isReplay, decide_eq_true_eq] at hReplay
    exact .inl ⟨committed, List.mem_of_find?_eq_some hFound, hReplay.1, rfl⟩
  · rename_i hNone
    simp only [bind_eq_ok, refuseIf_eq_ok, okOr_eq_ok, not_not, not_le, pure, Except.pure,
      Except.ok.injEq, Prod.mk.injEq] at hCommitted
    rcases hCommitted with
      ⟨index, hIndex, -, -, -, hAbove, -, -, -, hAmount, spentAmount, -, rfl, -⟩
    refine .inr ⟨index, spentAmount, hNone, ChannelState.deliveryId_of_pendingIndex hIndex,
      hIndex, ?_, hAbove, rfl⟩
    omega

end PayKit.Session.Metered
