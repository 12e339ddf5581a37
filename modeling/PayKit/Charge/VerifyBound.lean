import PayKit.Charge.VerificationError
import PayKit.Store.ChargeReplay
import PayKit.Store.ConsumedSignatures

/-!
# Settling a pull charge

`Mpp::verify_bound` of `mpp/server/charge.rs` for a credential that carries a
signed transaction, outside payment channels, as the sequence of its store calls
and chain calls. A presentation reserves its challenge, claims the transaction's
signature, records the broadcast as pending, sends, and records the outcome; a
retry that finds a pending broadcast reconciles it from the chain instead.

The local checks of a credential (its HMAC, its request, the transaction itself)
make no call. Their results are fields of the presentation, and so are the clock
readings of the ledger writes.
-/

namespace PayKit.Charge

open Concurrency Store

/-- A charge verification: a program of store and chain calls that may refuse. -/
abbrev VerifyM := Fallible VerificationError Call Reply

/-- Run a ledger operation and look at its result. -/
def attempt {Result : Type} (operation : StoreM Result) : VerifyM (Except StoreError Result) :=
  ExceptT.lift operation.run

/-- Run a ledger operation whose failure refuses the credential. -/
def storing {Result : Type} (operation : StoreM Result) : VerifyM Result := do
  match ← attempt operation with
  | .ok result => return result
  | .error error => throw (.ofStore error)

/-- Clock readings of the ledger writes one presentation can make. -/
structure Clock where
  reserve : Int
  markPending : Int
  markConfirmed : Int
  confirmPending : Int
  releasePending : Int
  markFailed : Int

/-- One presentation of a credential with a signed transaction. -/
structure Presentation where
  challengeId : String
  /-- `normalized_request_digest` of the challenge, its request and the payload. -/
  digest : String
  /-- The signature that identifies the fully signed transaction on-chain. -/
  signature : String
  /-- The expiry of a challenge that had expired when it was presented. -/
  expired : Option String
  /-- Outcome of the checks between the expiry check and the reservation. -/
  admitted : Except VerificationError Unit
  /-- Outcome of the checks on the transaction before its signature is claimed. -/
  sendable : Except VerificationError Unit
  clock : Clock

def alreadySettled (challengeId signature : String) : VerificationError :=
  .signatureConsumed (s!"Transaction signature already consumed — challenge {challengeId} was " ++
    s!"already settled (tx {signature})")

def unresolved (signature detail : String) : VerificationError :=
  .settlementInProgress (s!"Transaction {signature} is not yet confirmed; retry shortly, do not " ++
    s!"pay again{detail}")

namespace Presentation

variable (presentation : Presentation) (parseSignature : String → Except String Unit)

/-- Record a terminal failure, if the generation is still current, and refuse. -/
def refuse (generation : ℕ) (error : VerificationError) : VerifyM Receipt := do
  let _ ← attempt (ChargeReplayStore.markFailed presentation.challengeId generation error.message
    presentation.clock.markFailed)
  throw error

/-- Resolve a charge whose broadcast outcome was unknown, from the signature's
status on-chain. It is never broadcast again. -/
def reconcilePendingCharge (generation : ℕ) (signature : String) : VerifyM Receipt := do
  if let .error error := parseSignature signature then
    throw (.new s!"Invalid pending settlement signature: {error}")
  match ← Fallible.request (Call.signatureStatus signature) with
  | .error error => throw (unresolved signature s!": {error}")
  | .ok (some .succeeded) =>
      match ← attempt (ChargeReplayStore.confirmPending presentation.challengeId generation
          signature presentation.clock.confirmPending) with
      | .error error =>
          throw (unresolved signature (": " ++ StoreError.display error))
      | .ok false => throw (alreadySettled presentation.challengeId signature)
      | .ok true => return .success signature presentation.challengeId
  | .ok (some (.failed error)) =>
      presentation.refuse generation
        (.transactionFailed s!"Transaction landed on-chain but failed: {error}")
  | .ok none => throw (unresolved signature "")

def consumeSignature : VerifyM Unit := do
  if !(← storing (ConsumedSignatures.claim presentation.signature)) then
    throw (.signatureConsumed "Transaction signature already consumed")

/-- Release the claim on a transaction that provably never landed. -/
def releaseSignature : VerifyM Unit := do
  let _ ← attempt (ConsumedSignatures.release presentation.signature)

/-- `BroadcastFence::begin`: claim the signature, then record it as pending,
before it is sent. Returns the pending generation. -/
def beginBroadcast (generation : ℕ) : VerifyM ℕ := do
  presentation.consumeSignature
  match ← attempt (ChargeReplayStore.markPending presentation.challengeId generation
      presentation.signature presentation.clock.markPending) with
  | .ok true => return generation + 1
  | .ok false =>
      presentation.releaseSignature
      throw (.settlementInProgress
        "This charge is being settled by another request; retry shortly")
  | .error error => throw (.ofStore error)

/-- `BroadcastFence::abandon`: the pending transaction provably never left this
process, so release its signature and then the reservation. Returns the
generation the charge is at. -/
def abandon (generation : ℕ) : VerifyM ℕ := do
  presentation.releaseSignature
  match ← attempt (ChargeReplayStore.releasePending presentation.challengeId generation
      presentation.signature presentation.clock.releasePending) with
  | .ok true => return generation + 1
  | _ => return generation

/-- The transaction landed: the presentation that records it gets the receipt. -/
def concludeConfirmed (generation : ℕ) : VerifyM Receipt := do
  match ← attempt (ChargeReplayStore.markConfirmed presentation.challengeId generation
      presentation.signature presentation.clock.markConfirmed) with
  | .ok true => return .success presentation.signature presentation.challengeId
  | .ok false => throw (alreadySettled presentation.challengeId presentation.signature)
  | .error error =>
      throw (.settlementInProgress (s!"Transaction {presentation.signature} confirmed but its " ++
        "record could not be stored; retry with the same credential, do not pay again: " ++
          StoreError.display error))

/-- Send the transaction recorded as pending at `generation`, and conclude. -/
def sendAndConclude (generation : ℕ) : VerifyM Receipt := do
  match ← Fallible.request (Call.sendTransaction presentation.signature) with
  | .landed .succeeded => presentation.concludeConfirmed generation
  | .landed (.failed error) =>
      presentation.refuse generation
        (.transactionFailed s!"Transaction landed on-chain but failed: {error}")
  | .unknown error =>
      throw (.settlementInProgress (s!"Transaction {presentation.signature} was broadcast but " ++
        "not yet confirmed; retry with the same credential to reconcile, do not pay again: " ++
          error))
  | .preflightRejected error =>
      let current ← presentation.abandon generation
      presentation.refuse current (.transactionFailed error)

/-- Settle the reservation of `generation`. -/
def settle (generation : ℕ) : VerifyM Receipt := do
  match presentation.sendable with
  | .error error => presentation.refuse generation error
  | .ok () =>
      match ← ExceptT.lift (presentation.beginBroadcast generation).run with
      | .error error => presentation.refuse generation error
      | .ok pending => presentation.sendAndConclude pending

/-- The pending broadcast recorded for this credential, which is all that an
expired challenge may still reconcile. -/
def expiredPendingCharge : VerifyM (Option (ℕ × String)) := do
  match presentation.expired with
  | none => return none
  | some expires =>
      match ← storing (ChargeReplayStore.pending presentation.challengeId
          presentation.digest) with
      | none => throw (.expired s!"Challenge expired at {expires}")
      | some found => return some found

/-- Reserve the challenge and settle it, or answer from its record. -/
def reserveAndSettle : VerifyM Receipt := do
  match ← storing (ChargeReplayStore.reserve presentation.challengeId presentation.digest
      chargeReservationLease presentation.clock.reserve) with
  | .alreadyConfirmed signature => throw (alreadySettled presentation.challengeId signature)
  | .alreadyFailed reason => throw (.new reason)
  | .inProgress =>
      throw (.settlementInProgress
        "This challenge is already being settled by another request; retry shortly")
  | .conflict =>
      throw (.challengeConflict
        "This challenge was already presented with a different request or credential")
  | .pendingConfirmation generation signature =>
      presentation.reconcilePendingCharge parseSignature generation signature
  | .reserved generation => presentation.settle generation

/-- `Mpp::verify_bound` for a transaction credential outside payment channels. -/
def verifyBound : VerifyM Receipt := do
  let expiredPending ← presentation.expiredPendingCharge
  ExceptT.mk (pure presentation.admitted)
  match expiredPending with
  | some (generation, signature) =>
      presentation.reconcilePendingCharge parseSignature generation signature
  | none => presentation.reserveAndSettle parseSignature

end Presentation

end PayKit.Charge
