import PayKit.Session.RequestCalls

/-!
# Charges of the request server

Vouchers of clients, and the charges that an operator signs: `use` at a fixed price, and the
metered charge of a request whose total grows while it is served.
-/

namespace PayKit.Session

open Channel Concurrency Control Encoding Machine Store
open Metered (SessionSigner SignedVoucher requireFreshSnapshot idleLifecycle)

def checkIdempotencyKey (key : String) : Except SessionError Unit := do
  refuseIf (key.isEmpty) (.other "operator-signed use requires an Idempotency-Key" : SessionError)
  refuseIf (maxIdempotencyKeyBytes < key.utf8ByteSize)
    (.other s!"Idempotency-Key exceeds {maxIdempotencyKeyBytes} bytes" : SessionError)

/-- What a request has been charged so far. -/
structure RecordedUse where
  requestTotal : ℕ
  cumulative : ℕ
  voucherSignature : String

def recordedUse (state : ChannelState) (authenticated : AuthenticatedUse) :
    Except StoreError (Option RecordedUse) :=
  match state.processedUses.find? fun entry =>
      entry.idempotencyKey = authenticated.idempotencyKey with
  | none => .ok none
  | some entry => do
      refuseIf (entry.amount = none ∨ entry.challengeId ≠ authenticated.challengeId)
        (.internal "Idempotency-Key was already used for a different request" : StoreError)
      return some
        { requestTotal := entry.amount.getD 0
          cumulative := entry.cumulative
          voucherSignature := entry.voucherSignature }

def recordUse (processedUses : List ProcessedUse) (entry : ProcessedUse) : List ProcessedUse :=
  let recorded :=
    (processedUses.filter fun recorded => recorded.idempotencyKey ≠ entry.idempotencyKey) ++ [entry]
  recorded.drop (recorded.length - maxProcessedUses)

def checkBoundAuthentication (state : ChannelState) (authentication : String) :
    Except StoreError Unit :=
  refuseIf (state.voucherSigner ≠ operatorSigner ∨ state.authentication ≠ some authentication)
    (.internal bindingMismatch)

/-- The voucher that an operator signed, or that is recorded of it. -/
def operatorVoucher (channelId signer : String) (cumulative : ℕ) (signature : String) :
    SignedVoucher where
  data := { channelId, cumulativeAmount := cumulative.repr, expiresAt := none }
  signer
  signature

def replayedCharge (channelId operator : String) (entry : RecordedUse) : OperatorCharge where
  voucher := operatorVoucher channelId operator entry.cumulative entry.voucherSignature
  previousCumulative := entry.cumulative
  cumulative := entry.cumulative
  charged := 0
  requestTotal := entry.requestTotal
  replay := true

namespace RequestServer

variable {Scope : Type} [DecidableEq Scope] (server : RequestServer Scope)

/-! ### Vouchers -/

/-- The part of a voucher's update that prices the action. -/
def priceVoucher (amount : ℕ) (allowReplay : Bool)
    (guard : ChannelState → Except SessionError Unit) (expiresAt : ℤ) (now : ℕ)
    (state : ChannelState) (replay : Bool) : Except StoreError ChannelState := do
  requireFreshSnapshot state server.config.snapshotMaxAge now
  refuseIf (replay ∧ ¬allowReplay)
    (.internal "voucher was already accepted; sign a new voucher for this request" : StoreError)
  (guard state).mapError fun error => StoreError.internal error.display
  let spentAmount ← okOr (checkedAdd state.spentAmount (if replay then 0 else amount))
    (.internal "session spent amount overflow")
  return { state with
    spentAmount
    lastActivityAt := nowMillis now
    lifecycle :=
      idleLifecycle state server.operator (nowMillis now) expiresAt server.gracePeriodSeconds }

/-- The voucher of a payload, as `accept_voucher_with_commit` is given it. -/
def presentedVoucher (voucher : SignedVoucher) (newCumulative amount now : ℕ) : Voucher where
  newCumulative
  expiresAt := voucher.data.expiresAt.getD 0
  signature := voucher.signature
  now
  minVoucherDelta := server.minVoucherDelta
  settlementWindow := server.gracePeriodSeconds
  requiredAvailability := amount

/-- The updater of a voucher, with the flag first. -/
def voucherUpdater (voucher : Voucher)
    (commit : ℕ → ChannelState → Bool → Except StoreError ChannelState) : Updater StoreError Bool :=
  fun now record => (commitVoucher voucher (commit now) record).map Prod.swap

/-- `accept_voucher_with_commit` over the store of the server. -/
def acceptVoucherWithCommit (channelId : String) (voucher : Voucher)
    (commit : ℕ → ChannelState → Bool → Except StoreError ChannelState) :
    SessionProgram VoucherAcceptance := do
  let found ← Fallible.await (SessionCall.getChannel channelId) fun reply =>
    (do
      let found ← reply
      server.store.checkExisting found
      return found : Except StoreError (Option ChannelState)).mapError
        fun error => .other ("store error: " ++ error.display)
  let state ← checked (okOr found (.other s!"Channel {channelId} not found"))
  checkedCore (checkSnapshot channelId server.checkSignature voucher state)
  let updated ← Fallible.request
    (SessionCall.update channelId (server.bound (plainly (voucherUpdater voucher commit))))
  checkedCore (acceptance state.cumulative
    ((updated.mapError UpdateFailure.error).map Prod.swap))

def verifyVoucherPriced (payload : VoucherPayload) (amount : ℕ) (allowReplay : Bool)
    (guard : ChannelState → Except SessionError Unit) : SessionProgram VoucherAcceptance := do
  let voucher := payload.voucher
  let channelId := voucher.data.channelId
  checked (refuseIf (server.voucherSigner = operatorSigner) (.other operatorVoucherError))
  checked (refuseIf (payload.channelId ≠ channelId)
    (.other "voucher action channelId does not match the signed voucher's channelId"))
  let state ← server.existing channelId
  checked (refuseIf (state.voucherSigner = operatorSigner) (.other operatorVoucherError))
  checked (refuseIf (voucher.signer ≠ state.authorizedSigner)
    (.other "voucher signer does not match the channel authorized signer"))
  let newCumulative ← checked (okOr (parseU64 voucher.data.cumulativeAmount)
    (.other "Invalid cumulative in voucher"))
  server.refreshChannelSnapshot channelId
  let now ← Fallible.request SessionCall.clock
  let presented := server.presentedVoucher voucher newCumulative amount now
  server.acceptVoucherWithCommit channelId presented
    (server.priceVoucher amount allowReplay guard presented.expiresAt)

/-! ### Operator charges -/

def checkUseBinding (state : ChannelState) (proof : SessionAuthentication)
    (authentication : String) : Except StoreError Unit := do
  refuseIf (state.openingChallengeId.isEmpty ∧ state.authentication = none)
    (.internal "session channel predates proof binding; open a new session" : StoreError)
  refuseIf (state.voucherSigner ≠ operatorSigner ∨ state.authentication ≠ some authentication ∨
      proof.challengeId ≠ state.openingChallengeId ∨ proof.payer ≠ state.payer)
    (.internal bindingMismatch : StoreError)
  let verified ← (server.verifyAuthentication proof state.channelId).mapError StoreError.internal
  refuseIf (verified = false) (.internal bindingMismatch : StoreError)

/-- The record after a charge that the operator signed. -/
def operatorCharged (state : ChannelState) (now cumulative spentAmount : ℕ) (signature : String)
    (entry : ProcessedUse) : ChannelState :=
  { state with
    cumulative
    spentAmount
    highestVoucherSignature := some signature
    highestVoucherExpiresAt := some 0
    lastActivityAt := nowMillis now
    lifecycle := idleLifecycle state server.operator (nowMillis now) 0 0
    processedUses := recordUse state.processedUses entry }

/-- The updater of `process_use`. -/
def chargeUse (payload : UsePayload) (authentication challengeId idempotencyKey : String)
    (key : SessionSigner) : Updater StoreError UseAcceptance
  | _, none => .error (.internal s!"Channel {payload.channelId} not found")
  | now, some state => do
      refuseIf (state.sealed ∨ state.closeRequestedAt.isSome)
        (.internal closedOrPending : StoreError)
      server.checkUseBinding state payload.authentication authentication
      match state.processedUses.find? fun entry => entry.idempotencyKey = idempotencyKey with
      | some replay =>
          return (⟨operatorVoucher state.channelId key.pubkey replay.cumulative
            replay.voucherSignature, true⟩, state)
      | none => do
          requireFreshSnapshot state server.config.snapshotMaxAge now
          let cumulative ← okOr (checkedAdd state.cumulative server.amount)
            (.internal "session cumulative overflow")
          refuseIf (state.deposit < cumulative)
            (.internal "insufficient channel availability" : StoreError)
          let signature ← (key.signMessage
              ⟨state.channelId, cumulative.repr, none⟩).mapError fun
            | .other message => StoreError.internal message
          let spentAmount ← okOr (checkedAdd state.spentAmount server.amount)
            (.internal "session spent amount overflow")
          return (⟨operatorVoucher state.channelId key.pubkey cumulative signature, false⟩,
            server.operatorCharged state now cumulative spentAmount signature
              { challengeId
                idempotencyKey
                cumulative
                voucherSignature := signature
                amount := some server.amount })

def processUse (payload : UsePayload) (challengeId idempotencyKey : String) :
    SessionProgram UseAcceptance := do
  checked (checkIdempotencyKey idempotencyKey)
  checked (refuseIf (server.voucherSigner ≠ operatorSigner)
    (.other "use is only valid for operator-signed sessions"))
  let key ← checked (okOr server.operatorSigningKey
    (.other "operator signing key is required for use"))
  checked (refuseIf (key.pubkey ≠ server.operator)
    (.other "operator signing key does not match configured operator"))
  let authentication ← checked ((server.encodeAuthentication payload.authentication).mapError
    fun error => .other ("serialize authentication: " ++ error))
  server.refreshChannelSnapshot payload.channelId
  let (acceptance, _) ← server.update payload.channelId
    (server.chargeUse payload authentication challengeId idempotencyKey key)
  return acceptance

def authenticateUse (payload : UsePayload) (challengeId idempotencyKey : String) :
    SessionProgram AuthenticatedUse := do
  checked (checkIdempotencyKey idempotencyKey)
  checked (refuseIf (server.voucherSigner ≠ operatorSigner)
    (.other "use is only valid for operator-signed sessions"))
  let authentication ← checked ((server.encodeAuthentication payload.authentication).mapError
    fun error => .other ("serialize authentication: " ++ error))
  let state ← server.existing payload.channelId
  checked (refuseIf (state.sealed ∨ state.closeRequestedAt.isSome) (.other closedOrPending))
  checked ((server.checkUseBinding state payload.authentication authentication).mapError .ofStore)
  server.refreshChannelSnapshot payload.channelId
  return { channelId := payload.channelId, authentication, challengeId, idempotencyKey }

/-- A charge that an operator signed, from the watermark that it was signed over. -/
structure SignedCharge where
  base : ℕ
  chargedBefore : ℕ
  requestTotal : ℕ
  cumulative : ℕ
  signature : String

def SignedCharge.delta (charge : SignedCharge) : ℕ :=
  charge.requestTotal - charge.chargedBefore

/-- The request is charged up to the total that is asked. -/
def RecordedUse.reaches (requestTotal : ℕ) (recorded : RecordedUse) : Bool :=
  requestTotal ≤ recorded.requestTotal

/-- What is recorded of a request that may be new. -/
def totalOf (recorded : Option RecordedUse) : ℕ :=
  (recorded.map RecordedUse.requestTotal).getD 0

/-- The updater of `charge_operator_request`: the recorded charge of a request that reached its
total since, or the new charge. -/
def commitCharge (authenticated : AuthenticatedUse)
    (guard : ChannelState → Except SessionError Unit) (charge : SignedCharge) : Updater UpdateFailure (Option RecordedUse)
  | _, none => .error (.failed (.internal "Channel not found"))
  | now, some state => do
      refuseIf (state.sealed ∨ state.closeRequestedAt.isSome)
        (.failed (.internal closedOrPending) : UpdateFailure)
      (checkBoundAuthentication state authenticated.authentication).mapError .failed
      (requireFreshSnapshot state server.config.snapshotMaxAge now).mapError .failed
      let recorded ← (recordedUse state authenticated).mapError .failed
      match recorded.filter (RecordedUse.reaches charge.requestTotal) with
      | some entry => return (some entry, state)
      | none => do
          refuseIf (state.cumulative ≠ charge.base ∨ totalOf recorded ≠ charge.chargedBefore)
            UpdateFailure.moved
          refuseIf (state.deposit < charge.cumulative)
            (.failed (.internal "insufficient channel availability") : UpdateFailure)
          (guard state).mapError fun error => .failed (.internal error.display)
          let spentAmount ← okOr (checkedAdd state.spentAmount charge.delta)
            (.failed (.internal "session spent amount overflow"))
          return (none, server.operatorCharged state now charge.cumulative spentAmount
            charge.signature
            { challengeId := authenticated.challengeId
              idempotencyKey := authenticated.idempotencyKey
              cumulative := charge.cumulative
              voucherSignature := charge.signature
              amount := some charge.requestTotal })

def watermarkMoved (channelId : String) (base : ℕ) : SessionProgram Bool := do
  let found ← server.getChannel channelId
  return found.any fun state => state.cumulative ≠ base

/-- The record and the request of a charge, checked before the charge is signed. -/
def chargeable (authenticated : AuthenticatedUse) (state : ChannelState) :
    Except SessionError (Option RecordedUse) := do
  refuseIf (state.sealed ∨ state.closeRequestedAt.isSome) (.other closedOrPending : SessionError)
  (checkBoundAuthentication state authenticated.authentication).mapError .ofStore
  (recordedUse state authenticated).mapError .ofStore

/-- The watermark that a charge asks for. -/
def chargedCumulative (state : ChannelState) (delta : ℕ) : Except SessionError ℕ := do
  let cumulative ← okOr (checkedAdd state.cumulative delta) (.other "session cumulative overflow")
  refuseIf (state.deposit < cumulative) (.other "insufficient channel availability" : SessionError)
  return cumulative

def SignedCharge.made (charge : SignedCharge) (channelId operator : String) : OperatorCharge where
  voucher := operatorVoucher channelId operator charge.cumulative charge.signature
  previousCumulative := charge.base
  cumulative := charge.cumulative
  charged := charge.delta
  requestTotal := charge.requestTotal
  replay := false

/-- How an attempt ends: with a charge, with a recorded one, or with another attempt when the
watermark moved since it was read. -/
def concludeCharge (channelId : String) (charge : SignedCharge)
    (again : SessionProgram OperatorCharge) :
    Except UpdateFailure (Option RecordedUse × ChannelState) → SessionProgram OperatorCharge
  | .ok (some entry, _) => return replayedCharge channelId server.operator entry
  | .ok (none, _) => return charge.made channelId server.operator
  | .error .moved => again
  | .error (.failed error) => do
      if ← server.watermarkMoved channelId charge.base then again
      else checked (.error (.ofStore error))

/-- The attempts of `charge_operator_request`. -/
def chargeAttempts (authenticated : AuthenticatedUse) (requestTotal : ℕ)
    (guard : ChannelState → Except SessionError Unit) : ℕ → SessionProgram OperatorCharge
  | 0 => checked (.error (.other (s!"channel {authenticated.channelId} kept advancing " ++
      "concurrently; retry the request")))
  | attempts + 1 => do
      let state ← server.existing authenticated.channelId
      let recorded ← checked (chargeable authenticated state)
      match recorded.filter (RecordedUse.reaches requestTotal) with
      | some entry => return replayedCharge authenticated.channelId server.operator entry
      | none => do
          let chargedBefore := totalOf recorded
          let cumulative ← checked (chargedCumulative state (requestTotal - chargedBefore))
          let signature ← Fallible.await (SessionCall.sign server.operator
            ⟨authenticated.channelId, cumulative.repr, none⟩) id
          let charge : SignedCharge :=
            { base := state.cumulative, chargedBefore, requestTotal, cumulative, signature }
          let updated ← Fallible.request (SessionCall.update authenticated.channelId
            (server.bound (server.commitCharge authenticated guard charge)))
          server.concludeCharge authenticated.channelId charge
            (chargeAttempts authenticated requestTotal guard attempts) updated

/-- `charge_operator_request`, by the signer of that address. -/
def chargeOperatorRequest (authenticated : AuthenticatedUse) (signer : String) (requestTotal : ℕ)
    (guard : ChannelState → Except SessionError Unit) : SessionProgram OperatorCharge := do
  checked (refuseIf (requestTotal = 0) (.other "operator charge amount must be positive"))
  checked (refuseIf (server.voucherSigner ≠ operatorSigner)
    (.other "operator charges are only valid for operator-signed sessions"))
  checked (refuseIf (signer ≠ server.operator)
    (.other "operator signer does not match configured operator"))
  server.refreshChannelSnapshot authenticated.channelId
  server.chargeAttempts authenticated requestTotal guard operatorChargeAttempts

end RequestServer

end PayKit.Session
