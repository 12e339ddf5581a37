import PayKit.BatchSettlement.Preimages
import PayKit.Concurrency.Outcomes
import PayKit.PaymentChannel.Hooks
import PayKit.PaymentChannel.PayerRefund
import PayKit.Rpc.Broadcast
import PayKit.Upto.Open

/-!
# Verifying an upto open

`verify_open_for_route` of `x402/server/upto.rs` with its guard, and the settlements that are
built from what it returns. The clones of a handler share the set of the channels in flight, so
the calls of all of them run on one state.

Locking the set, reading an account, signing and asking a node are the calls to that state. A
channel's account is opened once: when it is closed it does not come back. What a node answers
about a broadcast is arbitrary here, and so is the moment at which an open lands. A broadcast may
then fail, be lost, or find that its transaction had landed before.
-/

namespace PayKit.Upto

open Concurrency Control Machine PaymentChannel Rpc Solana Tx X402

/-! ### What is returned -/

/-- `VerifiedUptoOpen`. Its guard is in the state. -/
structure VerifiedUptoOpen where
  channelId : Pubkey
  payer : Pubkey
  rentPayer : Pubkey
  mint : Pubkey
  tokenProgram : Pubkey
  programId : Pubkey
  deposit : ℕ
  maxAmount : ℕ
  expiresAt : ℤ
  network : String
  payee : Pubkey
  distribution : List Distribution
deriving DecidableEq

structure SettlementVoucher where
  cumulativeAmount : ℕ
  expiresAt : ℤ
  signature : Signature

/-- The instructions that settle an open: `settle_and_seal`, with a voucher unless nothing is
charged, and `distribute` unless it is deferred. -/
structure UptoSettlement where
  channelId : Pubkey
  voucher : Option SettlementVoucher
  distributes : Bool

/-- What the settlement takes from the deposit. -/
def UptoSettlement.charged (settlement : UptoSettlement) : ℕ :=
  (settlement.voucher.map (·.cumulativeAmount)).getD 0

/-! ### The calls -/

/-- What becomes of a channel's account. -/
inductive ChannelMove where
  | opens (channelId : Pubkey) (data : List UInt8)
  | changes (channelId : Pubkey) (data : List UInt8)
  | closes (channelId : Pubkey)

inductive OpenCall where
  /-- The channel is inserted into the set of those in flight. -/
  | claim (channelId : Pubkey)
  /-- `InFlightGuard::drop`. -/
  | release (channelId : Pubkey)
  /-- `get_account_with_commitment`. -/
  | account (address : Pubkey)
  /-- `get_account_data`. -/
  | accountData (address : Pubkey)
  /-- The cached slot, or the one that is fetched. -/
  | challengedSlot
  /-- The signature of the sponsor, answered by the one that names the transaction. -/
  | cosign (tx : VersionedTransaction)
  | signVoucher (channelId : Pubkey) (cumulativeAmount : ℕ) (expiresAt : ℤ)
  | node (call : RpcCall)
  /-- `verify_open_for_route` returns. -/
  | returns (opened : VerifiedUptoOpen)
  /-- The settlement is broadcast, or handed to the worker. -/
  | submit (settlement : UptoSettlement)
  | chain (move : ChannelMove)

abbrev OpenReply : OpenCall → Type
  | .claim _ => Bool
  | .release _ => Unit
  | .account _ => Except String (Option ObservedAccount)
  | .accountData _ => Except String (List UInt8)
  | .challengedSlot => Option ℕ
  | .cosign _ => Except Error String
  | .signVoucher _ _ _ => Except String Signature
  | .node call => RpcReply call
  | .returns _ => Unit
  | .submit _ => Except Error String
  | .chain _ => Unit

/-- A channel's account. One that was closed is never opened again. -/
inductive ChannelLife where
  | unopened
  | live (data : List UInt8)
  | closed
deriving DecidableEq

structure OpenState where
  inFlight : Pubkey → Bool
  life : Pubkey → ChannelLife

/-- A move of the chain, which does nothing when it can not be made. -/
def OpenState.apply (state : OpenState) : ChannelMove → OpenState
  | .opens channelId data =>
      match state.life channelId with
      | .unopened => { state with life := Function.update state.life channelId (.live data) }
      | _ => state
  | .changes channelId data =>
      match state.life channelId with
      | .live _ => { state with life := Function.update state.life channelId (.live data) }
      | _ => state
  | .closes channelId =>
      match state.life channelId with
      | .live _ => { state with life := Function.update state.life channelId .closed }
      | _ => state

/-- The answers a call may get and what it changes. An account may be there without its channel,
since anyone can send lamports to an address; its data is then not a channel's. -/
def openEffect : (call : OpenCall) → OpenState → OpenReply call → OpenState → Prop
  | .claim channelId, before, fresh, after =>
      fresh = !before.inFlight channelId ∧
        after = { before with inFlight := Function.update before.inFlight channelId true }
  | .release channelId, before, _, after =>
      after = { before with inFlight := Function.update before.inFlight channelId false }
  | .account address, before, reply, after =>
      after = before ∧ ∀ data, before.life address = .live data → ∀ found, reply = .ok found →
        found.map (·.data) = some data
  | .accountData address, before, reply, after =>
      after = before ∧ ∀ data channel, reply = .ok data →
        ChannelAccount.fromBytes data = some channel → before.life address = .live data
  | .chain move, before, _, after => after = before.apply move
  | _, before, _, after => after = before

/-- How a call fails, or that it is dropped while it waits. -/
inductive OpenFailure where
  | failed (failure : Failure)
  | dropped
deriving DecidableEq

abbrev OpenM (Result : Type) := Fallible OpenFailure OpenCall OpenReply Result

def checked {Result : Type} (check : Except Failure Result) : OpenM Result :=
  ExceptT.mk (Program.done (check.mapError .failed))

/-- A check that makes no calls and has no faults. -/
def sure {Result : Type} (check : Except Error Result) : OpenM Result :=
  checked (faultless check)

def ask (call : OpenCall) : OpenM (OpenReply call) :=
  Fallible.request call

structure UptoHandler where
  server : UptoServer
  maxTimeoutSeconds : ℕ
  sha256 : List UInt8 → List UInt8

/-! ### `prepare_open` -/

/-- What `prepare_open` knows when it takes the guard. -/
structure OpenClaim where
  payload : UptoPayload
  requirements : UptoRequirements
  programId : Pubkey
  expectedMint : Pubkey
  tokenProgram : Pubkey
  expectedDistribution : List Distribution
  channelId : Pubkey
  payer : Pubkey
  max : ℕ

/-- `prepare_open`, up to the guard. -/
def claimOf (server : UptoServer) (header : String) (offered : List UptoRequirements) (now : ℤ) :
    Except Failure OpenClaim := do
  let envelope ← faultless (server.parsePaymentSignature header)
  let payload := envelope.payload
  let requirements ← faultless (matchOfferedRequirement server offered envelope.accepted)
  faultless (verifyUptoPayload payload requirements server.receiverAuthorizer.display
    server.maxChannelLifetime now)
  faultless (checkNetwork envelope.accepted requirements)
  let programId ← faultless server.programId
  let expectedMint ← faultless (parseKey requirements.asset "invalid matched asset mint: ")
  let tokenProgramText ← faultless (okOr requirements.extra.tokenProgram
    (.other "matched requirement missing token program"))
  let tokenProgram ← faultless (parseKey tokenProgramText "invalid matched token program: ")
  let expectedDistribution ← faultless server.distribution
  let channelId ← faultless (parseKey payload.channelId "invalid channelId: ")
  let payer ← faultless (parseKey payload.«from» "invalid payer: ")
  let max ← faultless payload.maxAmountOf
  return ⟨payload, requirements, programId, expectedMint, tokenProgram, expectedDistribution,
    channelId, payer, max⟩

namespace OpenClaim

variable (server : UptoServer) (claim : OpenClaim)

def transaction : Except Failure VersionedTransaction := do
  let text ← faultless (okOr claim.payload.openTransaction
    (.other "payment-channel asset transfer method requires openTransaction (pull)"))
  faultless ((server.chain.decode text).mapError .other)

/-- What the open is validated against. -/
def expectations (challengedSlot : Option ℕ) : OpenExpectations where
  acceptedVersions := server.acceptedVersions
  programId := claim.programId
  rentPayer := server.feePayer
  authorizedSigner := server.receiverAuthorizer
  payer := claim.payer
  payee := server.feePayer
  mint := claim.expectedMint
  tokenProgram := claim.tokenProgram
  channelId := claim.channelId
  maxAmount := some claim.max
  gracePeriod := some server.withdrawDelay
  payloadNonce := some claim.payload.nonce
  payloadOpenSlot := some claim.payload.openSlot
  recentSlot := challengedSlot
  memo := claim.requirements.extra.memo
  recipients := some claim.expectedDistribution

def validate (tx : VersionedTransaction) (challengedSlot : Option ℕ) :
    Except Failure PreparedOpen := do
  validateOpenInstruction server.chain tx (claim.expectations server challengedSlot)
  faultless (verifyPayerSignature server.chain tx claim.payer)
  return ⟨tx, claim.requirements, claim.payer, claim.channelId, claim.max, claim.expectedMint,
    claim.tokenProgram, claim.programId, server.feePayer, claim.expectedDistribution,
    claim.payload.expiresAt⟩

end OpenClaim

/-- `prepare_open`, from the guard on. -/
def prepareClaimed (server : UptoServer) (claim : OpenClaim) : OpenM PreparedOpen := do
  let tx ← checked (claim.transaction server)
  let existing ← ask (.account claim.channelId)
  sure (ensureChannelAbsent ⟨existing.map (·.isSome), none⟩ claim.channelId)
  let challengedSlot ← ask .challengedSlot
  checked (claim.validate server tx challengedSlot)

/-! ### The open -/

def unusableSettlementAccount (account : ObservedAccount) (owner mint tokenProgram : Pubkey) :
    Option String :=
  if account.owner ≠ tokenProgram then some "is not owned by the declared token program"
  else
    match decodeTokenAccount account.data with
    | none => some "is not an initialized token account"
    | some decoded =>
        if decoded.mint ≠ mint then
          some ("holds mint " ++ decoded.mint.display ++ " rather than " ++ mint.display)
        else if decoded.owner ≠ owner then
          some ("is owned by " ++ decoded.owner.display ++ " rather than " ++ owner.display)
        else if decoded.state = tokenAccountFrozen then some "is frozen"
        else
          match decoded.unsupportedExtension with
          | some extension =>
              some (s!"carries token account extension {extension}, which this server " ++
                "will not settle through")
          | none =>
              if decoded.state ≠ tokenAccountInitialized then
                some s!"is in account state {decoded.state.toNat}"
              else none

/-- What is wrong with the account of a payout, if anything. -/
def payoutProblem (account : Option ObservedAccount) (owner mint tokenProgram : Pubkey) :
    Option String :=
  match account with
  | none => some "does not exist"
  | some account => unusableSettlementAccount account owner mint tokenProgram

def ensurePayoutsReady (server : UptoServer) (mint tokenProgram : Pubkey) :
    List Distribution → OpenM Unit
  | [] => return ()
  | entry :: rest =>
      if entry.recipient = server.feePayer then ensurePayoutsReady server mint tokenProgram rest
      else do
        let address := server.chain.findAssociatedTokenAddress entry.recipient mint tokenProgram
        let read ← ask (.account address)
        let account ← sure (read.mapError fun error =>
          .rpc ("payout token account read failed: " ++ error))
        match payoutProblem account entry.recipient mint tokenProgram with
        | some problem =>
            throw (.failed (.refused (.other ("payout token account " ++ address.display ++
              " of " ++ entry.recipient.display ++ " " ++ problem ++ "; it must be an " ++
              "initialized token account before payments settle to it"))))
        | none => ensurePayoutsReady server mint tokenProgram rest

def cosignFeePayer (server : UptoServer) (tx : VersionedTransaction) : OpenM String := do
  sure (refuseIf (tx.message.staticAccountKeys.head? ≠ some server.feePayer)
    (.other "open transaction fee payer must be the advertised fee payer"))
  let cosigned ← ask (.cosign tx)
  sure cosigned

/-- The error of a broadcast, whatever it proves. -/
def broadcastError : BroadcastFailure → String
  | .notLanded error => error
  | .failedOnChain error => error
  | .unknown error => error

/-- `send_and_confirm_transaction`, for a number of rounds. -/
def broadcastOpen (signature : String) (rounds : ℕ) : OpenM Unit := do
  let outcome ← ExceptT.lift
    ((sendAndConfirmTransaction signature rounds).within OpenCall.node fun _ reply => reply)
  match outcome with
  | none => throw .dropped
  | some (.error failure) =>
      throw (.failed (.refused (.rpc ("open broadcast failed: " ++ broadcastError failure))))
  | some (.ok _) => return ()

/-- `fetch_channel`, with what was read. -/
def fetchChannel (read : Except String (List UInt8)) : Except Error ChannelAccount := do
  let data ← read.mapError fun error => .rpc ("channel account fetch failed: " ++ error)
  okOr (ChannelAccount.fromBytes data) (.other "channel decode failed: Unexpected length of input")

def channelStatusOpen : UInt8 := 0

/-- The checks on the channel that was opened. -/
def bindChannel (handler : UptoHandler) (prepared : PreparedOpen) (channel : ChannelAccount) :
    Except Error Unit := do
  refuseIf (channel.status ≠ channelStatusOpen)
    (.other "channel is not open after broadcast" : Error)
  refuseIf (channel.mint ≠ prepared.expectedMint)
    (.mintMismatch prepared.expectedMint.display channel.mint.display : Error)
  refuseIf (channel.payee ≠ prepared.expectedPayee)
    (.recipientMismatch prepared.expectedPayee.display channel.payee.display : Error)
  refuseIf (channel.distributionHash ≠
      BatchSettlement.distributionHash handler.sha256 prepared.expectedDistribution)
    (.other "channel distribution does not match the expected recipient split" : Error)
  refuseIf (channel.authorizedSigner ≠ handler.server.receiverAuthorizer)
    (.other "channel authorized_signer is not the receiver authorizer" : Error)
  refuseIf (channel.rentPayer ≠ handler.server.feePayer)
    (.other "channel rent_payer is not the fee payer" : Error)
  refuseIf (channel.gracePeriod ≠ handler.server.withdrawDelay)
    (.other (s!"channel withdraw delay {channel.gracePeriod} does not match advertised " ++
      s!"{handler.server.withdrawDelay}") : Error)
  refuseIf (channel.deposit ≠ prepared.max)
    (.other (s!"on-chain deposit {channel.deposit} != authorized maximum {prepared.max}: the " ++
      "deposit is the enforced ceiling and `topUp` can raise an open channel's deposit, so it " ++
      "must equal the authorized amount exactly - `>=` would leave the x402 ceiling advisory " ++
      "rather than enforced") : Error)
  refuseIf (channel.payer ≠ prepared.payer)
    (.other ("channel payer " ++ channel.payer.display ++ " does not match payload.from " ++
      prepared.payer.display) : Error)

/-- The open of a channel whose account was bound. -/
def openedOf (prepared : PreparedOpen) (channel : ChannelAccount) : VerifiedUptoOpen where
  channelId := prepared.channelId
  payer := prepared.payer
  rentPayer := channel.rentPayer
  mint := prepared.expectedMint
  tokenProgram := prepared.tokenProgram
  programId := prepared.programId
  deposit := channel.deposit
  maxAmount := prepared.max
  expiresAt := prepared.expiresAt
  network := prepared.requirements.network
  payee := prepared.expectedPayee
  distribution := prepared.expectedDistribution

/-- `verify_open_for_route`, from the guard on. -/
def openClaimed (handler : UptoHandler) (claim : OpenClaim) (rounds : ℕ) :
    OpenM VerifiedUptoOpen := do
  let prepared ← prepareClaimed handler.server claim
  ensurePayoutsReady handler.server prepared.expectedMint prepared.tokenProgram
    prepared.expectedDistribution
  let signature ← cosignFeePayer handler.server prepared.tx
  broadcastOpen signature rounds
  let read ← ask (.accountData prepared.channelId)
  let channel ← sure (fetchChannel read)
  sure (bindChannel handler prepared channel)
  ask (.returns (openedOf prepared channel))
  return openedOf prepared channel

/-- The guard is dropped on every way out but a result, which keeps it. The client may go before
there is one. -/
def guarded {Result : Type} (channelId : Pubkey) (patience : ℕ) (body : OpenM Result) :
    OpenM Result :=
  ExceptT.mk do
    match ← body.run.stopAfter patience with
    | some (.ok result) => return .ok result
    | some (.error failure) =>
        Program.request (OpenCall.release channelId)
        return .error failure
    | none =>
        Program.request (OpenCall.release channelId)
        return .error .dropped

/-- A request to a handler, and what becomes of the open that it gets. -/
structure OpenRequest where
  handler : UptoHandler
  header : String
  /-- The requirements for the amount and the route of the request. -/
  offered : Except Error (List UptoRequirements)
  now : ℤ
  /-- The rounds for which a broadcast is followed. -/
  rounds : ℕ
  /-- The calls that the client waits for. -/
  patience : ℕ
  /-- The amounts that the open is settled for, and when. -/
  settlements : List (ℕ × ℤ)
  /-- The open is dropped in the end. -/
  drops : Bool

def verifyOpenForRoute (request : OpenRequest) : OpenM VerifiedUptoOpen := do
  let offered ← sure request.offered
  let claim ← checked (claimOf request.handler.server request.header offered request.now)
  let fresh ← ask (.claim claim.channelId)
  if fresh then
    guarded claim.channelId request.patience
      (openClaimed request.handler claim request.rounds)
  else throw (.failed (.refused
    (.other "channel is already being processed (concurrent request)")))

/-! ### The settlements -/

def minSettlementVoucherTtlSeconds : ℕ := 60

def settlementVoucherExpiry (maxTimeoutSeconds : ℕ) (now : ℤ) : ℤ :=
  saturatingAddI64 now (signedSeconds (max maxTimeoutSeconds minSettlementVoucherTtlSeconds))

def refundTerms (opened : VerifiedUptoOpen) (actual : ℕ) : SealedRefundTerms where
  channel := opened.channelId
  payer := opened.payer
  mint := opened.mint
  tokenProgram := opened.tokenProgram
  deposit := opened.deposit
  settled := actual
  payerWithdrawnAt := 0

def sealedRefund (server : UptoServer) (terms : SealedRefundTerms) (sealedAt now : ℤ) :
    OpenM PayerRefund := do
  let deadline : RefundDeadline := ⟨sealedAt, server.withdrawDelay⟩
  let decide account :=
    payerRefund server.chain.findAssociatedTokenAddress terms account deadline now
  if terms.refundDue = 0 then return decide none
  else
    let address :=
      server.chain.findAssociatedTokenAddress terms.payer terms.mint terms.tokenProgram
    let read ← ask (.account address)
    let account ← sure (read.mapError fun error =>
      .rpc ("payer refund account " ++ address.display ++ ": " ++ error))
    return decide account

/-- The voucher for an amount that is not zero. -/
def settlementVoucher (opened : VerifiedUptoOpen) (actual : ℕ) (expiresAt : ℤ) :
    OpenM (Option SettlementVoucher) := do
  if actual = 0 then return none
  else
    let signed ← ask (.signVoucher opened.channelId actual expiresAt)
    let signature ← sure (signed.mapError fun error => .other ("voucher signing failed: " ++ error))
    return some ⟨actual, expiresAt, signature⟩

def buildSettlementInstructions (handler : UptoHandler) (opened : VerifiedUptoOpen) (actual : ℕ)
    (now : ℤ) : OpenM UptoSettlement := do
  sure (assertSettlementWithinCeiling actual opened.maxAmount)
  let voucher ← settlementVoucher opened actual
    (settlementVoucherExpiry handler.maxTimeoutSeconds now)
  let decision ← sealedRefund handler.server (refundTerms opened actual) now now
  return ⟨opened.channelId, voucher, decision.clearance.isSome⟩

/-- `settle_actual` or `settle_actual_deferred`: both submit what was built. -/
def settleActual (handler : UptoHandler) (opened : VerifiedUptoOpen) (actual : ℕ) (now : ℤ) :
    OpenM String := do
  let settlement ← buildSettlementInstructions handler opened actual now
  let submitted ← ask (.submit settlement)
  sure submitted

/-- The settlements of an open, of any outcome. -/
def settleEach (handler : UptoHandler) (opened : VerifiedUptoOpen) :
    List (ℕ × ℤ) → Program OpenCall OpenReply Unit
  | [] => return ()
  | (actual, now) :: rest => do
      let _ ← (settleActual handler opened actual now).run
      settleEach handler opened rest

/-! ### Who runs -/

/-- A request from its open to the drop of what it was given. -/
def OpenRequest.program (request : OpenRequest) : Program OpenCall OpenReply Unit := do
  match ← (verifyOpenForRoute request).run with
  | .error _ => return ()
  | .ok opened => do
      settleEach request.handler opened request.settlements
      if request.drops then Program.request (OpenCall.release opened.channelId) else return ()

def channelMoves : List ChannelMove → Program OpenCall OpenReply Unit
  | [] => return ()
  | move :: moves => do
      Program.request (OpenCall.chain move)
      channelMoves moves

inductive OpenRole where
  | client (request : OpenRequest)
  | chain (moves : List ChannelMove)

def OpenRole.program : OpenRole → Program OpenCall OpenReply Unit
  | .client request => request.program
  | .chain moves => channelMoves moves

abbrev OpenWorld (Caller : Type) := World Caller OpenState OpenCall OpenReply

abbrev OpenRun (Caller : Type) := Config Caller OpenState OpenCall OpenReply Unit

/-- Every party at its start, when no channel is in flight. -/
def openStart {Caller : Type} (roles : Caller → OpenRole) (life : Pubkey → ChannelLife) :
    OpenRun Caller where
  world := ⟨⟨fun _ => false, life⟩, []⟩
  threads caller := (roles caller).program

def openEnvironment (Caller : Type) : Environment Caller OpenState OpenCall OpenReply where
  effect := openEffect
  allowed _ _ := True

end PayKit.Upto
