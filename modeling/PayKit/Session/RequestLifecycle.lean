import PayKit.Encoding.JsonValue
import PayKit.Session.RequestCharges

/-!
# Top-ups, deliveries, closes and opens of the request server

What changes a session record besides a charge: the deposit that a finalized top-up adds, the
deliveries that a metered session reserves and commits, the close and its seal, and the open
itself, whose record is reserved before anything is submitted. `serve` is the server: the program
that answers a request.
-/

namespace PayKit.Session

open Channel Concurrency Control Encoding Machine Solana Store
open Metered (SignedVoucher DeliveryRequest MeteringDirective CommitPayload CommitReceipt CommitTask
  CommitStage reserveDelivery recordDeliveryUsage checkCommit commitDelivery idleLifecycle)

def owedAtClose (now : ℕ) (delivery : PendingDelivery) : Bool :=
  delivery.requestFingerprint = none ∨ delivery.handlerSucceeded ∨ now < delivery.expiresAt

namespace RequestServer

variable {Scope : Type} [DecidableEq Scope] (server : RequestServer Scope)

/-! ### Top-ups -/

def topupChannel (payload : TopUpPayload) : SessionProgram (ℕ × ChannelState) := do
  let additionalAmount ← checked (okOr (parseU64 payload.additionalAmount)
    (.other "invalid additionalAmount"))
  checked (refuseIf (additionalAmount = 0) (.other "additionalAmount must be positive"))
  let existing ← server.existing payload.channelId
  checked (refuseIf (existing.sealed ∨ existing.closeRequestedAt.isSome) (.other closedOrPending))
  return (additionalAmount, existing)

/-- The finalized account reflects a top-up of `amount`. -/
def checkToppedUp (existing : ChannelState) (amount : ℕ) (found : Option ToppedUpChannel) :
    Except SessionError Unit := do
  let channel ← okOr found (.rpc "finalized topped-up channel account not found")
  refuseIf (channel.policyHooks = false)
    (.other "topped-up channel hooks do not match stored policy" : SessionError)
  let minimum ← okOr (checkedAdd existing.deposit amount) (.other "top-up deposit overflow")
  refuseIf (channel.status ≠ 0 ∨ channel.deposit < minimum)
    (.other "confirmed channel state does not reflect the submitted top-up" : SessionError)

/-- A prepared top-up on its way onto the chain. -/
def landTopUp (payload : TopUpPayload) (existing : ChannelState) (amount : ℕ)
    (signature : String) : SessionProgram String := do
  if signature ∈ existing.processedTopupSignatures then return signature
  else do
    let slot ← Fallible.await (SessionCall.submitTopUp signature) id
    let found ← Fallible.await (SessionCall.readFinalized payload.channelId slot) id
    checked (checkToppedUp existing amount found)
    return signature

def verifySubmitAndFetchTopup (payload : TopUpPayload) (existing : ChannelState) (amount : ℕ) :
    SessionProgram String := do
  let prepared ← checked (server.prepareTopUp payload existing)
  let signature ← checked (okOr prepared
    (.other "top-up transaction is missing a signature"))
  landTopUp payload existing amount signature

/-- The updater of `process_topup_with_outcome`, with the flag of a replay. -/
def creditTopUp (channelId signature : String) (additionalAmount : ℕ) : Updater StoreError Bool
  | _, none => .error (.internal s!"Channel {channelId} not found")
  | now, some state =>
      if signature ∈ state.processedTopupSignatures then .ok (true, state)
      else do
        refuseIf state.sealed (.internal "Channel is already sealed" : StoreError)
        refuseIf state.closeRequestedAt.isSome
          (.internal "Channel close is pending — no further top-ups accepted" : StoreError)
        let deposit ← okOr (checkedAdd state.deposit additionalAmount)
          (.internal "top-up deposit overflow")
        return (false, { state with
          lifecycle := idleLifecycle state server.operator (nowMillis now)
            (state.highestVoucherExpiresAt.getD 0) server.gracePeriodSeconds
          deposit
          lastActivityAt := nowMillis now
          processedTopupSignatures := state.processedTopupSignatures ++ [signature] })

/-- `process_topup_with_outcome`. -/
def processTopup (payload : TopUpPayload) : SessionProgram TopUpAcceptance := do
  let (additionalAmount, existing) ← server.topupChannel payload
  Fallible.await SessionCall.pipeline id
  let transactionSignature ← server.verifySubmitAndFetchTopup payload existing additionalAmount
  let (replay, state) ← server.update payload.channelId
    (server.creditTopUp payload.channelId transactionSignature additionalAmount)
  return { state, replay, transactionSignature }

/-! ### Metered deliveries -/

def beginDelivery (request : DeliveryRequest) : SessionProgram MeteringDirective := do
  checked (refuseIf (request.amount = 0) (.other "Delivery amount must be greater than zero"))
  let currency ← checkedCore server.currency
  server.refreshChannelSnapshot request.sessionId
  let (directive, _) ← server.update request.sessionId fun now record =>
    (reserveDelivery server.config.snapshotMaxAge now currency request record).map Prod.swap
  return directive

/-- `record_delivery_usage`. -/
def recordUsage (channelId deliveryId : String) (amount : ℕ) : SessionProgram Unit := do
  let _ ← server.update channelId fun _ record =>
    (recordDeliveryUsage deliveryId amount record).map fun updated => ((), updated)
  return ()

/-- What follows the checks that a commit makes on the snapshot. -/
def finishCommit : CommitStage → SessionProgram CommitReceipt
  | .replayed receipt => return receipt
  | .reserved task => do
      let (receipt, _) ← server.update task.channelId fun now record =>
        (commitDelivery server.config (nowMillis now) task record).map Prod.swap
      return receipt

def processCommit (payload : CommitPayload) : SessionProgram CommitReceipt := do
  checked (refuseIf (parseU64 payload.voucher.data.cumulativeAmount = none)
    (.other "Invalid cumulative in commit voucher"))
  let found ← server.getChannel payload.voucher.data.channelId
  let now ← Fallible.request SessionCall.clock
  let stage ← checkedCore (checkCommit server.config now payload found)
  server.finishCommit stage

/-! ### The close -/

/-- The proof or the voucher that a close has to present. -/
def checkCloseProof (payload : ClosePayload) (state : ChannelState) :
    Except StoreError Unit := do
  refuseIf (payload.authentication.isSome ∧ state.voucherSigner ≠ operatorSigner ∧
      state.openingChallengeId.isEmpty ∧ state.authentication = none)
    (.internal ("session channel predates proof binding; " ++
      "the lifecycle worker will close it") : StoreError)
  if state.voucherSigner = operatorSigner then do
    refuseIf payload.voucher.isSome
      (.internal "operator close must not include a voucher" : StoreError)
    let authentication ← okOr payload.authentication
      (.internal "operator close requires the proof bound at open")
    refuseIf (state.openingChallengeId.isEmpty ∧ state.authentication = none)
      (.internal ("session channel predates proof binding; " ++
        "the lifecycle worker will close it") : StoreError)
    let encoded ← (server.encodeAuthentication authentication).mapError StoreError.internal
    refuseIf (state.authentication ≠ some encoded ∨
        authentication.challengeId ≠ state.openingChallengeId ∨ authentication.payer ≠ state.payer)
      (.internal "close authentication does not match the proof bound at open" : StoreError)
    let verified ←
      (server.verifyAuthentication authentication state.channelId).mapError StoreError.internal
    refuseIf (verified = false)
      (.internal "close authentication does not match the proof bound at open" : StoreError)
  else do
    refuseIf payload.authentication.isSome
      (.internal "client close must not include authentication" : StoreError)
    refuseIf payload.voucher.isNone
      (.internal "client close requires a final voucher" : StoreError)

/-- `verify_signature`, within an update. -/
def verifyFinal (now : ℕ) (voucher : SignedVoucher) (state : ChannelState) :
    Except StoreError Unit :=
  (Metered.verifySignature server.config now voucher state.authorizedSigner).mapError fun
    | .other message => .internal message

/-- The watermark of a close, with the voucher that carries it. -/
structure FinalVoucher where
  cumulative : ℕ
  signature : Option String
  expiresAt : Option ℤ

/-- The watermark that a close seals at. -/
def finalVoucher (now : ℕ) (state : ChannelState) :
    Option SignedVoucher → Except StoreError FinalVoucher
  | none => .ok
      ⟨state.cumulative, state.highestVoucherSignature, state.highestVoucherExpiresAt⟩
  | some voucher => do
      let cumulative ← okOr (parseU64 voucher.data.cumulativeAmount)
        (.internal "Invalid cumulative")
      let expiresAt := voucher.data.expiresAt.getD 0
      if cumulative ≤ state.cumulative then do
        refuseIf (¬(cumulative = state.cumulative ∧
            state.highestVoucherSignature = some voucher.signature))
          (.internal (s!"Final voucher cumulative {cumulative} must exceed watermark " ++
            state.cumulative.repr) : StoreError)
        server.verifyFinal now voucher state
        return ⟨state.cumulative, state.highestVoucherSignature,
          state.highestVoucherExpiresAt.or (some expiresAt)⟩
      else do
        refuseIf (state.deposit < cumulative)
          (.internal "Final voucher exceeds deposit" : StoreError)
        server.verifyFinal now voucher state
        return ⟨cumulative, some voucher.signature, some expiresAt⟩

/-- The deliveries that the final voucher has to pay for, charged. -/
def payOwed (requestedAt livePending : ℕ) (payload : ClosePayload) (final : FinalVoucher)
    (state : ChannelState) : Except StoreError ChannelState :=
  if livePending = 0 then .ok state
  else do
    let required := saturatingAdd state.cumulative livePending
    refuseIf (payload.voucher.isNone ∨ final.cumulative < required)
      (.internal (s!"Channel has {livePending} in uncommitted deliveries; " ++
        s!"the final voucher must reach cumulative {required}") : StoreError)
    let spentAmount ← okOr (checkedAdd state.spentAmount livePending)
      (.internal "session spent amount overflow")
    return { state with
      spentAmount
      pendingDeliveries := state.pendingDeliveries.filter fun delivery =>
        ¬owedAtClose requestedAt delivery }

/-- The updater of `process_close`. -/
def closeChannel (payload : ClosePayload) (requestedAt : ℕ) : Updater StoreError Unit
  | _, none => .error (.internal "Channel not found")
  | now, some state => do
      refuseIf state.sealed (.internal "Channel is already sealed" : StoreError)
      refuseIf state.closeRequestedAt.isSome (.internal "Close already requested" : StoreError)
      let livePending ← okOr
        ((state.pendingDeliveries.filter (owedAtClose requestedAt)).foldlM
          (fun total delivery => checkedAdd total delivery.amount) 0)
        (.internal "pending delivery total overflow")
      server.checkCloseProof payload state
      let final ← server.finalVoucher now state payload.voucher
      let paid ← payOwed requestedAt livePending payload final state
      return ((), { paid with
        cumulative := final.cumulative
        highestVoucherSignature := final.signature
        highestVoucherExpiresAt := final.expiresAt
        closeRequestedAt := some requestedAt
        finalCumulative := some final.cumulative })

/-- The record that a seal is built from is within the escrow. -/
def checkWithinDeposit (channelId : String) (state : ChannelState) : Except SessionError Unit :=
  refuseIf (state.deposit < state.cumulative)
    (.other (s!"Channel {channelId} cumulative {state.cumulative} exceeds deposit " ++
      state.deposit.repr))

/-- The settled watermark, raised to what the chain shows. -/
def adoptSettled (channelId : String) (state : ChannelState) :
    Except SessionError (Option (ObservedLifecycle × ℕ) × ℕ) → SessionProgram ChannelState
  | .ok (some (_, onchain), _) =>
      if state.settledOnChain < onchain then do
        let _ ← server.mutate channelId fun _ current =>
          .ok ((), { current with settledOnChain := max current.settledOnChain onchain })
        return { state with settledOnChain := onchain }
      else return state
  | _ => return state

/-- What is handed out for the seal. -/
def sealParamsOf (channelId : String) (state : ChannelState) : Except SessionError SealParams := do
  let carried := state.settledOnChain < state.cumulative
  let address ← server.parsePubkey channelId
  let recipient ← server.parsePubkey server.recipient
  return {
    channelId := address
    authorizedSigner := (server.parsePubkey state.authorizedSigner).toOption
    payer := (server.parsePubkey state.payer).toOption
    rentPayer := (server.parsePubkey state.rentPayer).toOption
    mint := server.currency.toOption
    settled := max state.cumulative state.settledOnChain
    voucherSignature := if carried then state.highestVoucherSignature else none
    voucherExpiresAt := if carried then state.highestVoucherExpiresAt else none
    recipient }

/-- `seal_params`. A read of the chain that fails falls back to the stored watermark. -/
def sealParams (channelId : String) : SessionProgram SealParams := do
  let state ← server.existing channelId
  checked (checkWithinDeposit channelId state)
  let now ← Fallible.request SessionCall.clock
  let read ← ExceptT.lift (readChannelLifecycle channelId now 0).run
  let adopted ← server.adoptSettled channelId state read
  checked (server.sealParamsOf channelId adopted)

def processClose (payload : ClosePayload) : SessionProgram SealParams := do
  let requestedAt ← Fallible.request SessionCall.clock
  checked (refuseIf (payload.voucher.any fun voucher => voucher.data.channelId ≠ payload.channelId)
    (.other "close voucher channelId does not match the close channelId"))
  let _ ← server.update payload.channelId (server.closeChannel payload requestedAt)
  server.sealParams payload.channelId

def markSealed (channelId : String) : SessionProgram Unit := do
  let _ ← server.mutate channelId fun _ state => .ok ((), state.markSealed)
  let now ← Fallible.request SessionCall.clock
  let _ ← server.mutate channelId fun _ state =>
    .ok ((), if (state.extra.lookup sealedAtKey).isSome then state
      else { state with extra := insertMember state.extra sealedAtKey (.unsigned now) })
  return ()

/-! ### Opens

An open is validated, reserved, submitted and activated or retired on the store itself, without
the policy of the server around it. The updates of the record are those of `OpenFlow`, with an
equality of JSON that computes. -/

/-- `same_open_intent`. -/
def sameIntent (stored expected : Json) : Bool :=
  match server.intents.fromValue stored with
  | none => false
  | some intent =>
      match server.intents.toValue intent with
      | .ok stored => stored.same expected
      | .error _ => false

/-- The record holds another intent. -/
def otherIntent (state : ChannelState) (intent : Json) : Bool :=
  (state.extra.lookup openIntentKey).any fun stored => ¬server.sameIntent stored intent

/-- The reservation of a record; a replay leaves it as it is. -/
def reserve (payload : OpenPayload) (context : SessionOpenContext) (validated : ValidatedOpen)
    (intent : Json) (freshState : ChannelState) :
    Option ChannelState → Except StoreError (Bool × ChannelState)
  | none => .ok (false, freshState)
  | some existing => do
      server.requireOwnStored existing
      refuseIf (server.otherIntent existing intent)
        (.internal "open intent does not match stored state" : StoreError)
      refuseIf existing.sealed
        (.internal s!"Channel {payload.channelId} is already sealed" : StoreError)
      refuseIf (existing.authorizedSigner ≠ payload.authorizedSigner)
        (.internal (s!"Channel {payload.channelId} already exists with a different " ++
          "authorized signer") : StoreError)
      refuseIf (existing.payer ≠ payload.payer ∨ existing.rentPayer ≠ validated.rentPayer ∨
          existing.openingChallengeId ≠ context.challengeId ∨
            existing.authentication ≠ payload.authentication)
        (.internal s!"Channel {payload.channelId} open replay does not match stored state" :
          StoreError)
      return (existing.pendingSetup.isNone, existing)

/-- The retirement of a reservation whose channel was opened elsewhere. -/
def retireElsewhere (intent : Json) (record : Option ChannelState) :
    Except StoreError (Unit × ChannelState) := do
  let state ← okOr record (.internal "open intent disappeared")
  refuseIf ((state.extra.lookup openIntentKey).all fun stored => ¬server.sameIntent stored intent)
    (.internal "open intent changed before retirement" : StoreError)
  return ((), retired openedElsewhereMarker state)

def activate (deposit settled activatedAt : ℕ) (intent : Json) (record : Option ChannelState) :
    Except StoreError (Unit × ChannelState) := do
  let state ← okOr record (.internal "open intent disappeared")
  server.requireOwnStored state
  refuseIf (server.otherIntent state intent)
    (.internal "open intent changed before activation" : StoreError)
  return ((), activated deposit settled activatedAt state)

/-- The retirement of an open that expired; the record must not have changed. -/
def retireExpired (expected : ChannelState) (invalidAt : ℕ) (record : Option ChannelState) :
    Except StoreError (Unit × ChannelState) := do
  let current ← okOr record (.internal "open intent disappeared")
  let currentValue ← (server.encodeState current).mapError StoreError.internal
  let expectedValue ← (server.encodeState expected).mapError StoreError.internal
  refuseIf (currentValue.same expectedValue = false)
    (.internal "open changed before retirement" : StoreError)
  return ((), retired (expiredMarker invalidAt) current)

/-- `get_channel` of the store. -/
def innerChannel (channelId : String) : SessionProgram (Option ChannelState) :=
  Fallible.await (SessionCall.getChannel channelId) (Except.mapError .ofStore)

/-- `update_channel` of the store. -/
def innerUpdate {Result : Type} (channelId : String) (updater : Updater StoreError Result) :
    SessionProgram (Result × ChannelState) :=
  Fallible.await (SessionCall.update channelId (plainly updater))
    (Except.mapError fun failure => .ofStore failure.error)

/-- The slot that a fresh open is submitted after. -/
def observedFloor (freshOpen : Bool) (openSlot : ℕ) : SessionProgram (Option ℕ) := do
  if freshOpen then
    let slot ← Fallible.await (SessionCall.openSlot openSlot) id
    return some slot
  else return none

/-- The slot at which the challenged blockhash was seen to be valid. -/
def finalizedValidAt (freshOpen : Bool) (context : SessionOpenContext)
    (storedIntent : Option OpenIntent) : SessionProgram (Option ℕ) := do
  if freshOpen then
    let validity ← Fallible.request (SessionCall.blockhashValidity context.recentBlockhash none)
    return validAt validity
  else return storedIntent.bind OpenIntent.finalizedValidAt

/-- The outcome of the submission, written to the record. -/
def finishOpen (payload : OpenPayload) (deposit : ℕ) (intent : Json) (replay : Bool) :
    OpenSubmission → SessionProgram OpenAcceptance
  | .openedElsewhere => do
      let _ ← innerUpdate payload.channelId fun _ => server.retireElsewhere intent
      checked (.error (.other openedElsewhereError))
  | .landed transactionSignature settled => do
      let (_, state) ← innerUpdate payload.channelId fun now =>
        server.activate deposit settled now intent
      return { state, replay, transactionSignature }

/-- `process_open_inner`. -/
def openChannel (payload : OpenPayload) (context : SessionOpenContext) :
    SessionProgram OpenAcceptance := do
  let validated ← checked (server.validateOpenRequest payload context)
  let existing ← innerChannel payload.channelId
  checked (server.requireExisting existing)
  let freshOpen := existing.isNone
  Fallible.await SessionCall.pipeline id
  let prepared ← checked (server.prepareOpen payload context)
  let observed ← observedFloor freshOpen payload.openSlot
  let now ← Fallible.request SessionCall.clock
  let storedIntent ← checked (server.storedIntent existing)
  let floor := adoptionFloorOf storedIntent freshOpen observed
  let activationFloor ← checked
    (if existing.all opensChannel then floor.slotOf.map some else .ok none)
  let validAt ← finalizedValidAt freshOpen context storedIntent
  let intent ← checked ((server.intents.toValue (openIntent payload context storedIntent prepared
    validAt floor)).mapError fun error => .other ("serialize open intent: " ++ error))
  let freshState ← checked (server.boundState payload context validated prepared now intent)
  let (replay, _) ← innerUpdate payload.channelId fun _ =>
    server.reserve payload context validated intent freshState
  let submission ← Fallible.await
    (SessionCall.submitOpen payload.channelId freshOpen activationFloor) id
  server.finishOpen payload validated.deposit intent replay submission

/-- The open of an intent whose blockhash is no longer valid, prepared again to find whether it
ever funded the channel. -/
def retirementDue (channelId : String) (intent : OpenIntent) (invalidAt : ℕ) :
    SessionProgram (Option ℕ) := do
  let prepared ← checked (server.prepareOpen intent.payload intent.context)
  let signature ← checked (okOr prepared.signature (.other "open signature missing"))
  checked (refuseIf (intent.transactionSignature ≠ some signature)
    (.other "open reconciliation signature mismatch"))
  let unfunded ← Fallible.await (SessionCall.unfunded channelId signature invalidAt)
    (Except.mapError fun error => .rpc ("open funding reconciliation: " ++ error))
  return if unfunded then some invalidAt else none

/-- The slot at which a pending open is known to have expired without funding. -/
def expiredOpen (channelId : String) (intent : OpenIntent) : SessionProgram (Option ℕ) :=
  match intent.finalizedValidAt with
  | none => return none
  | some validAt => do
      if intent.version ≠ 2 then return none
      else do
        Fallible.await SessionCall.pipeline id
        let (valid, invalidAt) ← Fallible.await
          (SessionCall.blockhashValidity intent.recentBlockhash (some validAt))
          (Except.mapError fun error => .rpc ("open expiry reconciliation: " ++ error))
        if ¬valid ∧ validAt < invalidAt then server.retirementDue channelId intent invalidAt
        else return none

/-- A pending open is resumed, or retired when it expired. -/
def resumeOrRetire (channelId : String) (state : ChannelState) (intent : OpenIntent) :
    Option ℕ → SessionProgram OpenAcceptance
  | some invalidAt => do
      let _ ← innerUpdate channelId fun _ => server.retireExpired state invalidAt
      checked (.error (.other openTerminalError))
  | none => server.openChannel intent.payload intent.context

/-- `resume_pending_open`. -/
def resumeOpen (channelId : String) : SessionProgram OpenAcceptance := do
  let found ← innerChannel channelId
  let state ← checked (okOr found (.other "pending open not found"))
  checked (server.requireOwn state)
  let intent ← checked (server.pendingIntent channelId state)
  let expired ← server.expiredOpen channelId intent
  server.resumeOrRetire channelId state intent expired

end RequestServer

/-! ## Requests -/

/-- What a host asks of the server. -/
inductive SessionRequest where
  | openChannel (payload : OpenPayload) (context : SessionOpenContext)
  | resumeOpen (channelId : String)
  | voucher (payload : VoucherPayload) (amount : ℕ) (allowReplay : Bool)
      (guard : ChannelState → Except SessionError Unit)
  | use (payload : UsePayload) (challengeId idempotencyKey : String)
  | authenticate (payload : UsePayload) (challengeId idempotencyKey : String)
  | charge (authenticated : AuthenticatedUse) (signer : String) (requestTotal : ℕ)
      (guard : ChannelState → Except SessionError Unit)
  | topUp (payload : TopUpPayload)
  | delivery (request : DeliveryRequest)
  | usage (channelId deliveryId : String) (amount : ℕ)
  | commit (payload : CommitPayload)
  | close (payload : ClosePayload)
  | sealParams (channelId : String)
  | markSealed (channelId : String)

inductive SessionAnswer where
  | opened (acceptance : OpenAcceptance)
  | accepted (acceptance : VoucherAcceptance)
  | used (acceptance : UseAcceptance)
  | authenticated (authenticated : AuthenticatedUse)
  | charged (charge : OperatorCharge)
  | toppedUp (acceptance : TopUpAcceptance)
  | directive (directive : MeteringDirective)
  | receipt (receipt : CommitReceipt)
  | sealing (params : SealParams)
  | done

/-- The program that answers a request. -/
def RequestServer.serve {Scope : Type} [DecidableEq Scope] (server : RequestServer Scope) :
    SessionRequest → SessionProgram SessionAnswer
  | .openChannel payload context => .opened <$> server.openChannel payload context
  | .resumeOpen channelId => .opened <$> server.resumeOpen channelId
  | .voucher payload amount allowReplay guard =>
      .accepted <$> server.verifyVoucherPriced payload amount allowReplay guard
  | .use payload challengeId idempotencyKey =>
      .used <$> server.processUse payload challengeId idempotencyKey
  | .authenticate payload challengeId idempotencyKey =>
      .authenticated <$> server.authenticateUse payload challengeId idempotencyKey
  | .charge authenticated signer requestTotal guard =>
      .charged <$> server.chargeOperatorRequest authenticated signer requestTotal guard
  | .topUp payload => .toppedUp <$> server.processTopup payload
  | .delivery request => .directive <$> server.beginDelivery request
  | .usage channelId deliveryId amount =>
      (fun _ => .done) <$> server.recordUsage channelId deliveryId amount
  | .commit payload => .receipt <$> server.processCommit payload
  | .close payload => .sealing <$> server.processClose payload
  | .sealParams channelId => .sealing <$> server.sealParams channelId
  | .markSealed channelId => (fun _ => .done) <$> server.markSealed channelId

end PayKit.Session
