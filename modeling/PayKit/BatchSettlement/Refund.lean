import PayKit.BatchSettlement.Payment
import PayKit.Concurrency.Program

/-!
# Refunds

`verify_refund` and the refunds of `settle_payment` in `x402/server/batch_settlement.rs`,
as programs of the calls they await: the store, the clock, reads of the channel account
and submissions of transactions.

A refund without a transaction closes the channel cooperatively: the server fences the
record and submits the close itself. A refund that carries the payer's `request_close`
moves the channel to `Closing`, and the finalizer closes it later.
-/

namespace PayKit.BatchSettlement

open Channel Concurrency Control Encoding Machine Solana Store Tx Voucher

/-! ### The calls -/

/-- What the instructions of a cooperative close are built from. The voucher is applied
when its signature is there. -/
structure CloseInstructions where
  authorizedSigner : Pubkey
  signature : Option Signature
  cumulative : ℕ
  expiresAt : ℤ
  payer : Pubkey
  receiver : Pubkey

/-- What the instructions of a claim are built from. -/
structure ClaimInstructions where
  authorizedSigner : Pubkey
  signature : Signature
  cumulative : ℕ
  expiresAt : ℤ

inductive RefundCall where
  | getChannel
  | lookupChannel
  | now
  | update (update : RecordUpdate)
  | checkSettlementAccounts (receiver payer : Pubkey)
  | submitClaim (instructions : ClaimInstructions)
  | submitClose (instructions : CloseInstructions)
  | broadcast (transaction : String)

/-- An update answers with the record it leaves. -/
abbrev RefundReply : RefundCall → Type
  | .getChannel => Except StoreError (Option ChannelState)
  | .lookupChannel => Except String (Option OnchainChannel)
  | .now => ℕ
  | .update _ => Except StoreError ChannelState
  | .checkSettlementAccounts _ _ => Except String Unit
  | .submitClaim _ => Except String (List String)
  | .submitClose _ => Except String (List String)
  | .broadcast _ => Except String String

/-- The crate's error is kept as its text. -/
abbrev RefundProgram := Fallible String RefundCall RefundReply

namespace RefundProgram

variable {Result : Type}

def ofExcept (result : Except String Result) : RefundProgram Result :=
  ExceptT.mk (.done result)

/-- A call, and what its reply means. -/
def await (call : RefundCall) (outcome : RefundReply call → Except String Result) :
    RefundProgram Result := do
  let reply ← Fallible.request call
  ofExcept (outcome reply)

def storeError (error : StoreError) : String :=
  "store error: " ++ error.display

def getChannel (wrap : StoreError → String) : RefundProgram (Option ChannelState) :=
  await .getChannel (Except.mapError wrap)

def lookupChannel : RefundProgram (Option OnchainChannel) :=
  await .lookupChannel id

/-- `now_unix`. -/
def now : RefundProgram ℕ :=
  Fallible.request RefundCall.now

def update (recordUpdate : RecordUpdate) (wrap : StoreError → String) :
    RefundProgram ChannelState :=
  await (.update recordUpdate) (Except.mapError wrap)

def fetchChannel (channelId : Pubkey) : RefundProgram OnchainChannel := do
  let channel ← lookupChannel
  ofExcept (okOr channel (batchErr errors.invalidChannelState
    s!"channel {channelId.display} does not exist"))

end RefundProgram

namespace Refund

/-! ### The request -/

/-- A `refund` payload. A refund that a server signs carries no voucher. -/
structure BatchRefund where
  channelConfig : BatchChannelConfig
  voucher : Option BatchVoucher
  transaction : Option String

/-- A refund, with its derived channel and the requirements that it answers. -/
structure RefundRequest where
  refund : BatchRefund
  channelId : Pubkey
  payTo : String
  network : String

structure CloseSnapshot extends ChannelStateSnapshot where
  totalClaimed : String
  withdrawRequestedAt : ℤ

def snapshot (state : ChannelState) : CloseSnapshot where
  channelId := state.channelId
  balance := state.deposit.repr
  totalClaimed := state.settledOnChain.repr
  withdrawRequestedAt := asI64 (state.closeRequestedAt.getD 0)
  chargedCumulativeAmount := some state.cumulative.repr

/-- The `PAYMENT-RESPONSE` of a refund that succeeded. -/
structure RefundResponse where
  payer : String
  network : String
  transaction : String
  amount : String
  channelState : CloseSnapshot

section

variable (server : BatchServer) (request : RefundRequest)

def closeResponse (transaction amount : String) (state : ChannelState) : RefundResponse where
  payer := request.refund.channelConfig.payer
  network := request.network
  transaction := transaction
  amount := amount
  channelState := snapshot state

def serverModeRefund : String :=
  batchErr errors.invalidPayloadType "server-mode refunds belong to server-signed channels"

/-! ### Verification -/

/-- The stored record, when a refund may close it at `maxClaimable`. -/
def checkRefundState (maxClaimable : ℕ) (state : Option ChannelState) :
    Except String ChannelState := do
  let state ← okOr state (batchErr errors.invalidChannelState
    s!"no channel {request.channelId.display}; nothing to refund")
  (state.checkBinding server.deployment.readBinding server.deployment.binding).mapError fun error =>
    batchErr errors.invalidChannelState error.display
  refuseIf (maxClaimable ≠ state.cumulative) (batchErr errors.invalidCloseState
    (s!"refund voucher closes at {maxClaimable}, but the accepted cumulative is " ++
      s!"{state.cumulative}"))
  return state

/-- What authenticates the close: the payer's `request_close`, or else the receiver
authorizer that the channel is bound to. -/
def checkCloseAuthority (receiver : Pubkey) (state : ChannelState) : Except String Unit :=
  match request.refund.transaction with
  | some transaction =>
      ((validateRequestCloseTransaction server.chain transaction
        (expectations server request.refund.channelConfig request.channelId receiver)).mapError BatchError.display).map fun _ => ()
  | none =>
      match recordedReceiverBinding state with
      | some bound =>
          refuseIf (bound ≠ server.receiverAuthorizer.display)
            (batchErr errors.invalidReceiverAuthorizerMismatch
              (s!"channel {request.channelId.display} is bound to receiver authorizer {bound}, " ++
                "not this server's"))
      | none => .error (batchErr errors.invalidReceiverBindingUnavailable
          (s!"no receiver binding is recorded for channel {request.channelId.display}; retry " ++
            "with a payer-signed request_close"))

/-- The channel account can still be closed at `maxClaimable`. -/
def checkCloseable (maxClaimable : ℕ) (channel : OnchainChannel) : Except String Unit := do
  refuseIf (channel.status ≠ channelStatusOpen ∧ channel.status ≠ channelStatusClosing)
    (batchErr errors.invalidCloseState s!"channel status {channel.status} cannot be closed")
  refuseIf (maxClaimable < channel.settled) (batchErr errors.invalidCloseState
    (s!"refund voucher {maxClaimable} is behind the onchain settled watermark " ++
      s!"{channel.settled}"))

/-- `verify_refund`: the watermark that the refund closes at. -/
def verifyRefund : RefundProgram ℕ := do
  let voucher ← RefundProgram.ofExcept (okOr request.refund.voucher serverModeRefund)
  let maxClaimable ← RefundProgram.ofExcept ((checkVoucher server.curve voucher
    request.refund.channelConfig request.channelId).mapError BatchError.display)
  let stored ← RefundProgram.getChannel fun error =>
    batchErr errors.invalidChannelState (RefundProgram.storeError error)
  let state ← RefundProgram.ofExcept (checkRefundState server request maxClaimable stored)
  if (recordedCooperativeClose state).any (·.cumulative = maxClaimable) then
    return maxClaimable
  else
    let receiver ← RefundProgram.ofExcept (parsePubkey request.payTo)
    RefundProgram.ofExcept (checkCloseAuthority server request receiver state)
    let payer ← RefundProgram.ofExcept (parsePubkey request.refund.channelConfig.payer)
    RefundProgram.await (.checkSettlementAccounts receiver payer) id
    let channel ← RefundProgram.fetchChannel request.channelId
    RefundProgram.ofExcept (checkCloseable maxClaimable channel)
    return maxClaimable

/-! ### The forced close -/

/-- `claim` of one channel: its stored voucher, when it raises the settled amount. -/
def claim : RefundProgram Unit := do
  let onchain ← RefundProgram.lookupChannel
  match onchain with
  | none => return ()
  | some onchain =>
      let stored ← RefundProgram.getChannel RefundProgram.storeError
      let state ← RefundProgram.ofExcept (okOr stored (batchErr errors.invalidChannelState
        s!"unknown channel {request.channelId.display}"))
      if onchain.status ≠ channelStatusOpen ∨ onchain.closureStartedAt ≠ 0 then return ()
      else
        let _ ← RefundProgram.update (.recordSettled onchain.settled) RefundProgram.storeError
        match state.highestVoucherSignature with
        | none => return ()
        | some signature =>
            if state.cumulative ≤ max state.settledOnChain onchain.settled then return ()
            else
              let authorizedSigner ← RefundProgram.ofExcept (parsePubkey state.authorizedSigner)
              let bytes ← RefundProgram.ofExcept (server.curve.decode64 signature)
              let _ ← RefundProgram.await (.submitClaim ⟨authorizedSigner, bytes,
                state.cumulative, state.highestVoucherExpiresAt.getD voucherExpiresAt⟩) id
              let now ← RefundProgram.now
              let _ ← RefundProgram.update (.recordRedemption state.cumulative none now)
                RefundProgram.storeError
              return ()

/-- `record_close`. -/
def recordCloseOf (channel : OnchainChannel) : RefundProgram ChannelState := do
  let now ← RefundProgram.now
  RefundProgram.update (.recordClose (closeTime channel.closureStartedAt now) now)
    RefundProgram.storeError

/-- Broadcast the payer's `request_close`, after a claim of what it would strand. -/
def requestClose (transaction : String) (channel : OnchainChannel) : RefundProgram String := do
  let state ← RefundProgram.getChannel RefundProgram.storeError
  if state.any (channel.settled < ·.cumulative) then
    claim server request
  RefundProgram.await (.broadcast transaction) id

/-- The `request_close` of an open channel is broadcast; a closing channel needs none. -/
def moveToClosing (transaction : String) (channel : OnchainChannel) : RefundProgram String :=
  if channel.status = channelStatusOpen then requestClose server request transaction channel
  else RefundProgram.ofExcept (if channel.status = channelStatusClosing then .ok ""
    else .error (batchErr errors.invalidCloseState "channel cannot be closed"))

/-- The refund that carries a `request_close`. -/
def forcedClose (transaction : String) : RefundProgram RefundResponse := do
  let channel ← RefundProgram.fetchChannel request.channelId
  let now ← RefundProgram.now
  let _ ← RefundProgram.update (.upsertChannel channel none now) RefundProgram.storeError
  let signature ← moveToClosing server request transaction channel
  let after ← RefundProgram.fetchChannel request.channelId
  if after.status ≠ channelStatusClosing then
    throw (batchErr errors.invalidCloseState "request_close did not move the channel to Closing")
  else
    let state ← recordCloseOf after
    return closeResponse request signature "" state

/-! ### The cooperative close -/

/-- What a failed submission of a cooperative close leads to. -/
inductive CloseRetry where
  | rebuild (onchain : OnchainChannel)
  | closed
  | fail

def closeRetryStep (before : OnchainChannel) (after : Option OnchainChannel) (cumulative : ℕ)
    (rebuilt : Bool) : CloseRetry :=
  match after with
  | none => .closed
  | some after =>
      if after.status = channelStatusDistributed then .closed
      else if ¬rebuilt ∧ after.status = channelStatusOpen ∧ after.settled ≠ before.settled ∧
          after.settled ≤ cumulative then .rebuild after
      else .fail

/-- `cooperative_close_instructions`: the voucher is applied when it raises the settled
amount. -/
def cooperativeCloseInstructions (voucher : BatchVoucher) (cumulative : ℕ)
    (authorizedSigner : Pubkey) (onchain : OnchainChannel) : Except String CloseInstructions := do
  let signature ← server.curve.decode64 voucher.signature
  let receiver ← parsePubkey request.payTo
  return {
    authorizedSigner := authorizedSigner
    signature := if onchain.settled < cumulative then some signature else none
    cumulative := cumulative
    expiresAt := voucher.expiresAt
    payer := onchain.payer
    receiver := receiver }

/-- One submission of the close, and `again` when it has to be built anew. -/
def attemptClose (instructions : OnchainChannel → Except String CloseInstructions)
    (cumulative : ℕ) (rebuilt : Bool) (again : OnchainChannel → RefundProgram String)
    (onchain : OnchainChannel) : RefundProgram String := do
  let built ← RefundProgram.ofExcept (instructions onchain)
  let submitted ← RefundProgram.await (.submitClose built) .ok
  match submitted with
  | .ok signatures => return signatures.headD ""
  | .error error =>
      let after ← RefundProgram.lookupChannel
      match closeRetryStep onchain after cumulative rebuilt with
      | .rebuild onchain => again onchain
      | .closed => return ""
      | .fail => throw error

/-- The submissions of the close: it is rebuilt once at most. -/
def submitClose (instructions : OnchainChannel → Except String CloseInstructions)
    (cumulative : ℕ) : OnchainChannel → RefundProgram String :=
  attemptClose instructions cumulative false
    (attemptClose instructions cumulative true fun _ => throw "")

/-- The sealed payout leaves the channel distributed, or gone. -/
def checkClosed (after : Option OnchainChannel) : Except String Unit :=
  match after with
  | none => .ok ()
  | some after =>
      refuseIf (after.status ≠ channelStatusDistributed) (batchErr errors.invalidCloseState
        s!"cooperative close confirmed but the channel is in status {after.status}")

/-- Submit the close of a fenced record, and record that it closed. -/
def completeClose (voucher : BatchVoucher) (cumulative : ℕ) (onchain : OnchainChannel) :
    RefundProgram RefundResponse := do
  let authorizedSigner ← RefundProgram.ofExcept
    (parsePubkey request.refund.channelConfig.payerAuthorizer)
  let signature ← submitClose
    (cooperativeCloseInstructions server request voucher cumulative authorizedSigner) cumulative
    onchain
  let after ← RefundProgram.lookupChannel
  RefundProgram.ofExcept (checkClosed after)
  let refunded := (onchain.deposit - cumulative).repr
  let now ← RefundProgram.now
  let state ← RefundProgram.update (.recordCooperativeClose ⟨cumulative, signature, refunded⟩ now)
    RefundProgram.storeError
  return closeResponse request signature refunded state

def fenceError (error : StoreError) : String :=
  if errors.invalidCloseState.toList <:+: error.display.toList then error.display
  else RefundProgram.storeError error

/-- `fence_cooperative_close`. -/
def fenceClose (voucher : BatchVoucher) (cumulative : ℕ) : RefundProgram ChannelState := do
  let now ← RefundProgram.now
  RefundProgram.update (.request (.cooperativeClose voucher.signature cumulative now)) fenceError

def cooperativeClose (cumulative : ℕ) : RefundProgram RefundResponse := do
  let voucher ← RefundProgram.ofExcept (okOr request.refund.voucher serverModeRefund)
  let onchain ← RefundProgram.fetchChannel request.channelId
  if onchain.status = channelStatusClosing then
    let state ← recordCloseOf onchain
    return closeResponse request "" "" state
  else
    RefundProgram.ofExcept (refuseIf (onchain.status ≠ channelStatusOpen)
      (batchErr errors.invalidCloseState s!"channel status {onchain.status} cannot be closed"))
    RefundProgram.ofExcept (checkChannelBindings server request.refund.channelConfig
      request.payTo onchain cumulative)
    RefundProgram.ofExcept (refuseIf (cumulative < onchain.settled)
      (batchErr errors.invalidCloseState
        s!"refund voucher {cumulative} is behind the onchain settled {onchain.settled}"))
    let _ ← fenceClose voucher cumulative
    completeClose server request voucher cumulative onchain

/-- The close of a refund that no earlier close answers. -/
def closeRefunded (cumulative : ℕ) : RefundProgram RefundResponse :=
  match request.refund.transaction with
  | none => cooperativeClose server request cumulative
  | some transaction => forcedClose server request transaction

/-- `settle_payment` of a refund that was verified to close at `cumulative`. -/
def settleRefund (cumulative : ℕ) : RefundProgram RefundResponse := do
  let stored ← RefundProgram.getChannel RefundProgram.storeError
  match stored.bind fun state => (recordedCooperativeClose state).map (state, ·) with
  | some (state, done) =>
      if done.cumulative = cumulative then
        return closeResponse request done.transaction done.refunded state
      else closeRefunded server request cumulative
  | none => closeRefunded server request cumulative

/-- A refund, verified and settled. -/
def refundPayment : RefundProgram RefundResponse := do
  let cumulative ← verifyRefund server request
  settleRefund server request cumulative

end

end Refund

end PayKit.BatchSettlement
