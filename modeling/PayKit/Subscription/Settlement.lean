import PayKit.Arithmetic.Machine
import PayKit.Rpc.Broadcast
import PayKit.Subscription.Activation

/-!
# Settling the activation of a subscription

`verify_credential` of `mpp/server/subscription.rs` from the point at which a credential is
prepared: the reservation of the activation's signature, its broadcast, the checks of the
delegation that it created, and the binding that later requests present their proof for.
`verify_access_credential` is the check of such a proof.

The store holds two shapes of JSON here. A binding without a landing slot is one that an
earlier release wrote.
-/

namespace PayKit.Subscription

open Charge Concurrency Control Machine Rpc Solana Store

/-! ### What is stored and read -/

structure SubscriptionDelegationView where
  subscriber : Pubkey
  planPda : Pubkey
  authorityInitId : ℤ
  amountPerPeriod : ℕ
  periodHours : ℕ
  currentPeriodStartTs : ℤ
  amountPulledInPeriod : ℕ
  expiresAtTs : ℤ
deriving DecidableEq

/-- `SubscriptionAuthentication`, whose type is always `proof`. -/
structure SubscriptionAuthentication where
  challengeId : String
  payer : String
  signature : String
deriving DecidableEq

structure ActivationBinding where
  activationSignature : String
  authentication : SubscriptionAuthentication
  challengeId : String
  landedSlot : Option ℕ
  periodStartTs : ℤ
  subscriptionId : String
  subscriptionExpires : Option String
deriving DecidableEq

/-- A value of the store: the reservation of a signature, or a binding. -/
inductive Entry where
  | reservation (challengeId : String)
  | binding (bound : ActivationBinding)
deriving DecidableEq

namespace Entry

def challengeId : Entry → String
  | reservation challengeId => challengeId
  | binding bound => bound.challengeId

def activationSignature : Entry → Option String
  | reservation _ => none
  | binding bound => some bound.activationSignature

def landedSlot : Entry → Option ℕ
  | reservation _ => none
  | binding bound => bound.landedSlot

def authentication : Entry → Option SubscriptionAuthentication
  | reservation _ => none
  | binding bound => some bound.authentication

def periodStartTs : Entry → Option ℤ
  | reservation _ => none
  | binding bound => some bound.periodStartTs

def subscriptionId : Entry → Option String
  | reservation _ => none
  | binding bound => some bound.subscriptionId

end Entry

/-- The key of the reservation of an activation. -/
def consumedKey (signature : String) : String :=
  "solana-subscription:consumed:" ++ signature

/-- The key of the record of an activation. -/
def activationKey (signature : String) : String :=
  "solana-subscription:activation-binding:" ++ signature

/-- The key of the current binding of a subscription. -/
def subscriptionBindingKey (subscriptionDelegation : Pubkey) : String :=
  "solana-subscription:authentication:" ++ subscriptionDelegation.display

theorem toList_consumedKey (signature : String) : (consumedKey signature).toList =
    "solana-subscription:consumed:".toList ++ signature.toList := by
  unfold consumedKey
  rw [String.toList_append]

theorem consumedKey_injective : Function.Injective consumedKey := by
  intro left right hSame
  have hChars := congrArg String.toList hSame
  rw [toList_consumedKey, toList_consumedKey, List.append_cancel_left_eq] at hChars
  exact String.toList_inj.mp hChars

/-! ### The calls -/

/-- An operation of the store, a request to the node, or what the chain does meanwhile. -/
inductive SubscriptionCall where
  | get (key : String)
  | putIfAbsent (key : String) (value : Entry)
  | putIfEq (key : String) (expected : Option Entry) (value : Entry)
  | delete (key : String)
  | rpc (call : RpcCall)
  | fetchDelegation (delegation : Pubkey)
  | fetchAuthorityInitId (authority : Pubkey)
  | landedSlot (signature : String)
  | chain (signature : String)

abbrev SubscriptionReply : SubscriptionCall → Type
  | .get _ => Option Entry
  | .putIfAbsent _ _ => Bool
  | .putIfEq _ _ _ => Bool
  | .delete _ => Unit
  | .rpc call => RpcReply call
  | .fetchDelegation _ => Except VerificationError (Option SubscriptionDelegationView)
  | .fetchAuthorityInitId _ => Except VerificationError ℤ
  | .landedSlot _ => Except VerificationError (Option ℕ)
  | .chain _ => Unit

structure SubscriptionState where
  entries : String → Option Entry
  landings : String → Landing
  /-- The slot that a transaction lands in. -/
  slots : String → ℕ

namespace SubscriptionState

def setEntry (state : SubscriptionState) (key : String) (value : Option Entry) :
    SubscriptionState :=
  { state with entries := Function.update state.entries key value }

variable {state : SubscriptionState} {key other : String} {value : Option Entry}

@[simp]
theorem setEntry_landings : (state.setEntry key value).landings = state.landings := rfl

@[simp]
theorem setEntry_slots : (state.setEntry key value).slots = state.slots := rfl

@[simp]
theorem setEntry_self : (state.setEntry key value).entries key = value :=
  Function.update_self ..

theorem setEntry_of_ne (hOther : other ≠ key) :
    (state.setEntry key value).entries other = state.entries other :=
  Function.update_of_ne hOther ..

end SubscriptionState

/-- The answers a call may get and what it changes. What the node says of accounts is
arbitrary. -/
def effect : (call : SubscriptionCall) → SubscriptionState → SubscriptionReply call →
    SubscriptionState → Prop
  | .get key, before, reply, after => reply = before.entries key ∧ after = before
  | .putIfAbsent key value, before, reply, after =>
      (before.entries key = none ∧ reply = true ∧ after = before.setEntry key (some value)) ∨
        (before.entries key ≠ none ∧ reply = false ∧ after = before)
  | .putIfEq key expected value, before, reply, after =>
      (before.entries key = expected ∧ reply = true ∧ after = before.setEntry key (some value)) ∨
        (before.entries key ≠ expected ∧ reply = false ∧ after = before)
  | .delete key, before, _, after => after = before.setEntry key none
  | .rpc call, before, reply, after =>
      ∃ landings, Rpc.effect call before.landings reply landings ∧
        after = { before with landings }
  | .fetchDelegation _, before, _, after => after = before
  | .fetchAuthorityInitId _, before, _, after => after = before
  | .landedSlot signature, before, reply, after =>
      after = before ∧ ∀ slot, reply = .ok (some slot) →
        (before.landings signature).Succeeded ∧ slot = before.slots signature
  | .chain signature, before, _, after => ∃ next, Landing.Advances (before.landings signature) next ∧
      after = { before with landings := Function.update before.landings signature next }

abbrev SubscriptionM := Fallible VerificationError SubscriptionCall SubscriptionReply

def call (request : SubscriptionCall) : SubscriptionM (SubscriptionReply request) :=
  Fallible.request request

/-- Requests to the node about a transaction. -/
def node {Result : Type} (program : RpcM Result) : SubscriptionM Result :=
  ExceptT.lift (program.within .rpc fun _ reply => reply)

def check {Result : Type} (result : Except VerificationError Result) : SubscriptionM Result :=
  match result with
  | .ok value => pure value
  | .error error => throw error

/-! ### The reservation -/

inductive ActivationReservation where
  /-- Reserved for this challenge, now or by an earlier attempt of it. -/
  | held
  | heldElsewhere
deriving DecidableEq

def tryReserveActivationSignature (key challengeId : String) :
    SubscriptionM ActivationReservation := do
  if ← call (.putIfAbsent key (.reservation challengeId)) then
    return .held
  else
    let existing ← call (.get key)
    return if existing = some (.reservation challengeId) then .held else .heldElsewhere

def reserveActivationSignature (key challengeId : String) : SubscriptionM Unit := do
  match ← tryReserveActivationSignature key challengeId with
  | .held => return ()
  | .heldElsewhere => throw (.signatureConsumed "Activation signature already consumed")

/-! ### The broadcast -/

inductive BroadcastError where
  /-- The transaction did not and cannot land. -/
  | rejected (error : VerificationError)
  /-- It may still land; the replay reservation must be kept. -/
  | unknown (error : VerificationError)
deriving DecidableEq

def broadcastFailed (error : String) : VerificationError :=
  .transactionFailed ("Broadcast failed: " ++ error)

/-- The loop of `broadcast_and_confirm`, for a number of rounds. -/
def confirmActivation (signature : String) : ℕ → RpcM (Option (Except BroadcastError String))
  | 0 => return none
  | rounds + 1 => do
      match ← Program.request (RpcCall.signatureStatus signature false) with
      | .error error => return some (.error (.unknown (broadcastFailed error)))
      | .ok (some .succeeded) => return some (.ok signature)
      | .ok (some (.failed error)) => return some (.error (.rejected (broadcastFailed error)))
      | .ok none =>
          match ← Program.request (RpcCall.isBlockhashValid signature) with
          | .error error => return some (.error (.unknown (broadcastFailed error)))
          | .ok true => confirmActivation signature rounds
          | .ok false =>
              return some (.error (.rejected
                (broadcastFailed "its blockhash expired before it confirmed")))

def broadcastAndConfirm (signature : String) (rounds : ℕ) :
    RpcM (Option (Except BroadcastError String)) := do
  match ← Program.request (RpcCall.sendTransaction signature) with
  | .accepted => confirmActivation signature rounds
  | .refused _ error => return some (.error (.rejected (broadcastFailed error)))
  | .failed error => return some (.error (.unknown (broadcastFailed error)))

def ensureActivationLanded (signature : String) : SubscriptionM Unit := do
  match ← call (.rpc (.signatureStatus signature true)) with
  | .error error =>
      throw (.networkError ("getSignatureStatuses(" ++ signature ++ ") failed: " ++ error))
  | .ok (some .succeeded) => return ()
  | .ok (some (.failed error)) =>
      throw (.transactionFailed
        ("Activation transaction " ++ signature ++ " failed on-chain: " ++ error))
  | .ok none =>
      throw (.credentialMismatch
        ("SubscriptionDelegation already exists and this activation transaction did not " ++
          "create it; present the subscription proof instead"))

/-! ### The delegation -/

/-- The terms of the request that a credential's challenge carries. -/
structure ActivationTerms where
  amount : String
  periodHours : Except String ℕ
  subscriptionExpires : Option String

/-- What the server is configured with, and what it computes outside of this model. -/
structure SubscriptionServer where
  programId : Pubkey
  planPda : Pubkey
  mint : Pubkey
  findProgramAddress : List (List UInt8) → Pubkey → Pubkey
  /-- A hash of the challenge and the delegation. -/
  deriveSubscriptionId : Pubkey → String → String
  /-- The seconds of an RFC 3339 time. -/
  parseTimestamp : String → Except String ℤ
  /-- Whether the signature of a proof is the payer's, for a delegation. -/
  verifyAuthentication : SubscriptionAuthentication → String → Except String Bool

namespace SubscriptionServer

variable (server : SubscriptionServer)

def subscriptionPda (subscriber : Pubkey) : Pubkey :=
  findSubscriptionPda server.findProgramAddress server.planPda subscriber server.programId

def authorityPda (subscriber : Pubkey) : Pubkey :=
  findSubscriptionAuthorityPda server.findProgramAddress subscriber server.mint server.programId

end SubscriptionServer

def delegationNotFound (subscriptionPda : Pubkey) : VerificationError :=
  .notFound ("SubscriptionDelegation account " ++ subscriptionPda.display ++ " not found")

def fetchSubscriptionDelegation (subscriptionPda : Pubkey) :
    SubscriptionM SubscriptionDelegationView := do
  match ← check (← call (.fetchDelegation subscriptionPda)) with
  | some delegation => return delegation
  | none => throw (delegationNotFound subscriptionPda)

/-- The reads of `fetch_activated_delegation` before the last one. -/
def awaitDelegation (subscriptionPda : Pubkey) : ℕ → SubscriptionM SubscriptionDelegationView
  | 0 => fetchSubscriptionDelegation subscriptionPda
  | attempts + 1 => do
      match ← check (← call (.fetchDelegation subscriptionPda)) with
      | some delegation => return delegation
      | none => awaitDelegation subscriptionPda attempts

def activatedDelegationReadAttempts : ℕ := 5

def fetchActivatedDelegation (subscriptionPda : Pubkey) :
    SubscriptionM SubscriptionDelegationView :=
  awaitDelegation subscriptionPda (activatedDelegationReadAttempts - 1)

/-- The end of the period that a delegation is in. -/
def periodEnd (delegation : SubscriptionDelegationView) (periodHours : ℕ) : ℤ :=
  saturatingAddI64 delegation.currentPeriodStartTs (periodHours * 3600)

def ensureLiveDelegation (parseTimestamp : String → Except String ℤ)
    (delegation : SubscriptionDelegationView) (expectedAmount periodHours : ℕ)
    (subscriptionExpires : Option String) (now : ℤ) : Except VerificationError ℤ := do
  refuseIf (delegation.amountPerPeriod ≠ expectedAmount ∨ delegation.periodHours ≠ periodHours ∨
      delegation.amountPulledInPeriod ≠ expectedAmount ∨ now ≥ periodEnd delegation periodHours)
    (.transactionFailed "Subscription is not paid for the current billing period" :
      VerificationError)
  refuseIf (delegation.expiresAtTs ≠ 0 ∧ now ≥ delegation.expiresAtTs)
    (.transactionFailed "Subscription cancellation has taken effect" : VerificationError)
  match subscriptionExpires with
  | none => return periodEnd delegation periodHours
  | some expiresAt => do
      let expires ← (parseTimestamp expiresAt).mapError fun error =>
        (.invalidPayload ("Invalid subscriptionExpires: " ++ error) : VerificationError)
      refuseIf (expires ≤ now)
        (.transactionFailed "Subscription has expired" : VerificationError)
      return periodEnd delegation periodHours

/-- The checks of `bind_confirmed_activation` on the delegation before its liveness. -/
def checkActivatedDelegation (planPda subscriber : Pubkey)
    (delegation : SubscriptionDelegationView) (expectedAmount expectedPeriodHours : ℕ) :
    Except VerificationError Unit := do
  refuseIf (delegation.amountPerPeriod ≠ expectedAmount)
    (.credentialMismatch ("SubscriptionDelegation amount mismatch: expected " ++
      expectedAmount.repr ++ ", got " ++ delegation.amountPerPeriod.repr) : VerificationError)
  refuseIf (delegation.periodHours ≠ expectedPeriodHours)
    (.credentialMismatch ("SubscriptionDelegation period mismatch: expected " ++
      expectedPeriodHours.repr ++ "h, got " ++ delegation.periodHours.repr ++ "h") :
        VerificationError)
  refuseIf (delegation.planPda ≠ planPda)
    (.credentialMismatch ("SubscriptionDelegation plan mismatch: expected " ++ planPda.display ++
      ", got " ++ delegation.planPda.display) : VerificationError)
  refuseIf (delegation.subscriber ≠ subscriber)
    (.credentialMismatch
      "SubscriptionDelegation subscriber does not match the activation signer" :
        VerificationError)
  refuseIf (delegation.amountPulledInPeriod ≠ expectedAmount)
    (.new "Activation transaction did not execute the first-period charge" : VerificationError)

def ensureCurrentAuthority (server : SubscriptionServer) (subscriber : Pubkey)
    (delegation : SubscriptionDelegationView) : SubscriptionM Unit := do
  let authorityInitId ←
    check (← call (.fetchAuthorityInitId (server.authorityPda subscriber)))
  check (refuseIf (authorityInitId ≠ delegation.authorityInitId)
    (.credentialMismatch "Subscription authority has been invalidated" : VerificationError))

/-! ### The binding -/

def alreadyBound : VerificationError :=
  .signatureConsumed ("Activation is already bound; present the subscription proof for the " ++
    "challenge that activated it")

/-- The slot of the activation that is being bound. -/
def ownSlot (activation : String) : SubscriptionM ℕ := do
  match ← check (← call (.landedSlot activation)) with
  | some slot => return slot
  | none =>
      throw (.networkError "Activation transaction has not been observed landing; retry")

/-- The binding of this activation, which carries the slot it landed in. -/
def freshBinding (activation : String) (candidate : ℕ → ActivationBinding) :
    SubscriptionM Entry := do
  let slot ← ownSlot activation
  return .binding (candidate slot)

/-- The record that an activation would write. The current binding is the record, when an
earlier release wrote it for the same activation. -/
def candidateRecord (activation : String) (current : Option Entry)
    (candidate : ℕ → ActivationBinding) : SubscriptionM Entry :=
  match current with
  | some binding =>
      if binding.activationSignature = some activation then pure binding
      else freshBinding activation candidate
  | none => freshBinding activation candidate

/-- The record of the activation, which its first writer wrote. -/
def claimActivation (activation : String) (current recorded : Option Entry)
    (candidate : ℕ → ActivationBinding) : SubscriptionM Entry :=
  match recorded with
  | some record => pure record
  | none => do
      let written ← candidateRecord activation current candidate
      if ← call (.putIfAbsent (activationKey activation) written) then
        return written
      else
        match ← call (.get (activationKey activation)) with
        | some record => return record
        | none => throw (.new "Activation binding disappeared; retry")

/-- The slot of the activation, which is read once. -/
def knownSlot (activation : String) (own : Option ℕ) : SubscriptionM ℕ :=
  match own with
  | some slot => pure slot
  | none => ownSlot activation

/-- The slot of a binding's activation, looked up for a binding without one. -/
def previousSlot (other : String) (binding : Entry) : SubscriptionM (Option ℕ) :=
  match binding.landedSlot with
  | some slot => pure (some slot)
  | none => do check (← call (.landedSlot other))

/-- Whether the current binding is one of another activation that landed no earlier, and the
slot of the activation, once it is known. -/
def supersedes (activation : String) (own : Option ℕ) (current : Option Entry) :
    SubscriptionM (Bool × Option ℕ) :=
  match current with
  | none => pure (false, own)
  | some binding =>
      match binding.activationSignature with
      | none => pure (false, own)
      | some other =>
          if other = activation then pure (false, own)
          else do
            let this ← knownSlot activation own
            let previous ← previousSlot other binding
            return (previous.any fun previous => previous ≥ this, some this)

def publishAttempts : ℕ := 8

/-- The compare-and-set rounds of `publish_activation_binding`. -/
def publishBinding (bindingKey activation : String) (bound : Entry) :
    ℕ → Option ℕ → Option Entry → SubscriptionM Entry
  | 0, _, _ => throw (.new "Subscription binding is contended; retry")
  | attempts + 1, own, current =>
      if current = some bound then pure bound
      else do
        let (refused, slot) ← supersedes activation own current
        if refused then
          throw alreadyBound
        else if ← call (.putIfEq bindingKey current bound) then
          return bound
        else
          let next ← call (.get bindingKey)
          publishBinding bindingKey activation bound attempts slot next

def publishActivationBinding (bindingKey activation : String)
    (candidate : ℕ → ActivationBinding) : SubscriptionM Entry := do
  let current ← call (.get bindingKey)
  let recorded ← call (.get (activationKey activation))
  let bound ← claimActivation activation current recorded candidate
  publishBinding bindingKey activation bound publishAttempts bound.landedSlot current

/-! ### The credentials -/

/-- An activation as `prepare_credential` leaves it. -/
structure PreparedActivation where
  challengeId : String
  subscriber : Pubkey
  /-- The first signature of the transaction, if it verifies. -/
  signature : Except VerificationError String
  authentication : SubscriptionAuthentication
  terms : ActivationTerms
  /-- The clock, when the delegation is checked. -/
  now : ℤ

/-- A credential that presents the proof of an activation. -/
structure PreparedAccess where
  challengeId : String
  subscriptionDelegation : String
  authentication : SubscriptionAuthentication
  terms : ActivationTerms
  now : ℤ

/-- The receipt of a subscription. Its times are kept as seconds. -/
structure SubscriptionReceipt where
  base : Receipt
  subscriptionId : String
  subscriptionDelegation : String
  periodIndex : ℕ
  periodStart : ℤ
  periodEnd : ℤ
  expiresAt : Option String
deriving DecidableEq

def parseAmount (amount : String) : Except VerificationError ℕ :=
  okOr (parseU64 amount)
    (.invalidPayload ("Challenge amount `" ++ amount ++ "` is not a positive integer"))

/-- The binding that an activation would write. -/
def candidateBinding (server : SubscriptionServer) (activation : PreparedActivation)
    (signature : String) (delegation : SubscriptionDelegationView) (landedSlot : ℕ) :
    ActivationBinding where
  activationSignature := signature
  authentication := activation.authentication
  challengeId := activation.challengeId
  landedSlot := some landedSlot
  periodStartTs := delegation.currentPeriodStartTs
  subscriptionId :=
    server.deriveSubscriptionId (server.subscriptionPda activation.subscriber) activation.challengeId
  subscriptionExpires := activation.terms.subscriptionExpires

/-- The receipt of an activation whose binding is its own. -/
def activationReceipt (server : SubscriptionServer) (activation : PreparedActivation)
    (signature : String) (delegation : SubscriptionDelegationView) (periodHours : ℕ) :
    SubscriptionReceipt where
  base := .success signature activation.challengeId
  subscriptionId :=
    server.deriveSubscriptionId (server.subscriptionPda activation.subscriber) activation.challengeId
  subscriptionDelegation := (server.subscriptionPda activation.subscriber).display
  periodIndex := 0
  periodStart := delegation.currentPeriodStartTs
  periodEnd := periodEnd delegation periodHours
  expiresAt := activation.terms.subscriptionExpires

/-- The checks of `bind_confirmed_activation`. -/
def confirmedDelegation (server : SubscriptionServer) (activation : PreparedActivation) :
    SubscriptionM (SubscriptionDelegationView × ℕ) := do
  let delegation ← fetchActivatedDelegation (server.subscriptionPda activation.subscriber)
  let expectedAmount ← check (parseAmount activation.terms.amount)
  let expectedPeriodHours ← check (activation.terms.periodHours.mapError .invalidPayload)
  check (checkActivatedDelegation server.planPda activation.subscriber delegation expectedAmount
    expectedPeriodHours)
  let _ ← check (ensureLiveDelegation server.parseTimestamp delegation expectedAmount
    expectedPeriodHours activation.terms.subscriptionExpires activation.now)
  ensureCurrentAuthority server activation.subscriber delegation
  return (delegation, expectedPeriodHours)

def bindConfirmedActivation (server : SubscriptionServer) (activation : PreparedActivation)
    (signature : String) : SubscriptionM SubscriptionReceipt := do
  let (delegation, periodHours) ← confirmedDelegation server activation
  let bound ← publishActivationBinding
    (subscriptionBindingKey (server.subscriptionPda activation.subscriber)) signature
    (candidateBinding server activation signature delegation)
  if bound.challengeId ≠ activation.challengeId then throw alreadyBound
  return activationReceipt server activation signature delegation periodHours

/-- The activation of a subscription that has no delegation yet. -/
def broadcastActivation (server : SubscriptionServer) (activation : PreparedActivation)
    (rounds : ℕ) (signature : String) : SubscriptionM (Option SubscriptionReceipt) := do
  reserveActivationSignature (consumedKey signature) activation.challengeId
  match ← node (broadcastAndConfirm signature rounds) with
  | none => return none
  | some (.ok _) => return some (← bindConfirmedActivation server activation signature)
  | some (.error (.rejected error)) => do
      call (.delete (consumedKey signature))
      throw error
  | some (.error (.unknown error)) => throw error

/-- `verify_credential` of an activation, once it is prepared. -/
def verifyActivation (server : SubscriptionServer) (activation : PreparedActivation)
    (rounds : ℕ) : SubscriptionM (Option SubscriptionReceipt) := do
  let delegation ← call (.fetchDelegation (server.subscriptionPda activation.subscriber))
  let signature ← check activation.signature
  match delegation with
  | .ok (some _) => do
      ensureActivationLanded signature
      let _ ← tryReserveActivationSignature (consumedKey signature) activation.challengeId
      return some (← bindConfirmedActivation server activation signature)
  | _ => broadcastActivation server activation rounds signature

/-- The period that a live delegation is in, counted from the anchor of its binding. -/
def periodIndex (currentPeriodStartTs anchor : ℤ) (periodHours : ℕ) :
    Except VerificationError ℕ := do
  let elapsed := currentPeriodStartTs - anchor
  refuseIf (elapsed < i64Min ∨ i64Max < elapsed)
    (.new "Subscription billing anchor is after the current period" : VerificationError)
  refuseIf (elapsed.tmod (periodHours * 3600) ≠ 0)
    (.new "Subscription billing anchor does not align with the current period" :
      VerificationError)
  refuseIf (elapsed.tdiv (periodHours * 3600) < 0)
    (.new "Subscription billing period index is invalid" : VerificationError)
  return (elapsed.tdiv (periodHours * 3600)).toNat

def activeDelegation (server : SubscriptionServer) (subscriber : Pubkey) (expectedAmount
    periodHours : ℕ) (subscriptionExpires : Option String) (now : ℤ) :
    SubscriptionM (SubscriptionDelegationView × ℤ) := do
  let delegation ← fetchSubscriptionDelegation (server.subscriptionPda subscriber)
  check (refuseIf (delegation.planPda ≠ server.planPda ∨ delegation.subscriber ≠ subscriber)
    (.credentialMismatch "SubscriptionDelegation does not match the bound plan and payer" :
      VerificationError))
  ensureCurrentAuthority server subscriber delegation
  check (refuseIf (now < delegation.currentPeriodStartTs)
    (.transactionFailed "Subscription is not paid for the current billing period" :
      VerificationError))
  let ends ← check (ensureLiveDelegation server.parseTimestamp delegation expectedAmount periodHours
    subscriptionExpires now)
  return (delegation, ends)

def malformedBinding : VerificationError :=
  .new "Subscription authentication binding is malformed"

/-- The checks of `verify_access_credential` before the binding is read, with the delegation
that the proof is for. -/
def checkAccess (server : SubscriptionServer) (access : PreparedAccess) :
    Except VerificationError Pubkey := do
  refuseIf (access.authentication.challengeId ≠ access.challengeId)
    (.credentialMismatch
      "Subscription proof challengeId does not match the activation challenge" :
        VerificationError)
  let payer ← parsePubkey access.authentication.payer "authentication.payer"
  refuseIf (access.subscriptionDelegation ≠ (server.subscriptionPda payer).display)
    (.credentialMismatch "Subscription proof delegation does not match the plan and payer" :
      VerificationError)
  let valid ← (server.verifyAuthentication access.authentication
    access.subscriptionDelegation).mapError fun error =>
      (.invalidPayload ("Invalid subscription authentication proof: " ++ error) :
        VerificationError)
  refuseIf (valid = false)
    (.invalidPayload "Invalid subscription authentication proof" : VerificationError)
  return payer

/-- The comparison of a proof with the stored binding. -/
def checkBinding (access : PreparedAccess) (binding : Option Entry) :
    Except VerificationError Entry := do
  let bound ← okOr binding
    (.credentialMismatch "Subscription has no bound authentication proof" : VerificationError)
  refuseIf (bound.challengeId ≠ access.challengeId ∨
      bound.authentication ≠ some access.authentication)
    (.credentialMismatch "Subscription proof does not match the activation binding" :
      VerificationError)
  return bound

def verifyAccessCredential (server : SubscriptionServer) (access : PreparedAccess) :
    SubscriptionM (Option SubscriptionReceipt) := do
  let payer ← check (checkAccess server access)
  let pda := server.subscriptionPda payer
  let binding ← check (checkBinding access (← call (.get (subscriptionBindingKey pda))))
  let expectedAmount ← check (okOr (parseU64 access.terms.amount)
    (.invalidPayload "Subscription amount must be an unsigned integer" : VerificationError))
  let periodHours ← check (access.terms.periodHours.mapError .invalidPayload)
  let (delegation, ends) ← activeDelegation server payer expectedAmount periodHours
    access.terms.subscriptionExpires access.now
  let anchor ← check (okOr binding.periodStartTs malformedBinding)
  let subscriptionId ← check (okOr binding.subscriptionId malformedBinding)
  let reference ← check (okOr binding.activationSignature malformedBinding)
  let index ← check (periodIndex delegation.currentPeriodStartTs anchor periodHours)
  return some {
    base := .success reference access.challengeId
    subscriptionId
    subscriptionDelegation := pda.display
    periodIndex := index
    periodStart := delegation.currentPeriodStartTs
    periodEnd := ends
    expiresAt := access.terms.subscriptionExpires }

/-! ### Which calls are made -/

def ReadsChain : SubscriptionCall → Prop
  | .rpc _ => True
  | .fetchDelegation _ => True
  | .fetchAuthorityInitId _ => True
  | .landedSlot _ => True
  | _ => False

def Retains (request : SubscriptionCall) : Prop :=
  ∀ key, request ≠ .delete key

theorem ReadsChain.retains {request : SubscriptionCall} (hReads : ReadsChain request) :
    Retains request := by
  rintro key rfl
  exact hReads

section

variable {quiet : SubscriptionCall → Prop} {Result : Type}

theorem uses_call {request : SubscriptionCall} (hQuiet : quiet request) :
    (call request).run.Uses quiet :=
  ⟨hQuiet, fun _ => trivial⟩

theorem uses_check {result : Except VerificationError Result} :
    (check result).run.Uses quiet := by
  cases result with
  | ok value => trivial
  | error error => trivial

theorem uses_node (program : RpcM Result) : (node program).run.Uses ReadsChain := by
  have hWithin : (program.within SubscriptionCall.rpc fun _ reply => reply :
      Program SubscriptionCall SubscriptionReply Result).Uses ReadsChain := by
    induction program with
    | done result => trivial
    | perform request next hInduction => exact ⟨trivial, hInduction⟩
  exact hWithin.bind fun _ => trivial

theorem uses_fetchSubscriptionDelegation {pda : Pubkey} :
    (fetchSubscriptionDelegation pda).run.Uses ReadsChain := by
  apply Fallible.uses_bind (uses_call trivial)
  intro reply
  apply Fallible.uses_bind uses_check
  rintro (_ | delegation) <;> trivial

theorem uses_awaitDelegation {pda : Pubkey} {attempts : ℕ} :
    (awaitDelegation pda attempts).run.Uses ReadsChain := by
  induction attempts with
  | zero => exact uses_fetchSubscriptionDelegation
  | succ attempts hInduction =>
      apply Fallible.uses_bind (uses_call trivial)
      intro reply
      apply Fallible.uses_bind uses_check
      rintro (_ | delegation)
      · exact hInduction
      · trivial

theorem uses_ensureCurrentAuthority {server : SubscriptionServer} {subscriber : Pubkey}
    {delegation : SubscriptionDelegationView} :
    (ensureCurrentAuthority server subscriber delegation).run.Uses ReadsChain := by
  apply Fallible.uses_bind (uses_call trivial)
  intro reply
  exact Fallible.uses_bind uses_check fun _ => uses_check

theorem uses_confirmedDelegation {server : SubscriptionServer}
    {activation : PreparedActivation} :
    (confirmedDelegation server activation).run.Uses ReadsChain := by
  apply Fallible.uses_bind uses_awaitDelegation
  intro delegation
  apply Fallible.uses_bind uses_check
  intro expectedAmount
  apply Fallible.uses_bind uses_check
  intro expectedPeriodHours
  apply Fallible.uses_bind uses_check
  intro _
  apply Fallible.uses_bind uses_check
  intro _
  exact Fallible.uses_bind uses_ensureCurrentAuthority fun _ => trivial

theorem uses_activeDelegation {server : SubscriptionServer} {subscriber : Pubkey}
    {expectedAmount periodHours : ℕ} {expires : Option String} {now : ℤ} :
    (activeDelegation server subscriber expectedAmount periodHours expires now).run.Uses
      ReadsChain := by
  apply Fallible.uses_bind uses_fetchSubscriptionDelegation
  intro delegation
  apply Fallible.uses_bind uses_check
  intro _
  apply Fallible.uses_bind uses_ensureCurrentAuthority
  intro _
  apply Fallible.uses_bind uses_check
  intro _
  exact Fallible.uses_bind uses_check fun _ => trivial

end

/-! ### Who runs beside an activation -/

inductive SubscriptionRole where
  | activation (presented : PreparedActivation) (rounds : ℕ)
  | access (presented : PreparedAccess)
  /-- The chain, moving on with transactions. -/
  | chain (signatures : List String)

abbrev SubscriptionAnswer := Except VerificationError (Option SubscriptionReceipt)

def chainProgram : List String → SubscriptionM (Option SubscriptionReceipt)
  | [] => return none
  | signature :: rest => do
      call (.chain signature)
      chainProgram rest

def SubscriptionRole.program (server : SubscriptionServer) :
    SubscriptionRole → Program SubscriptionCall SubscriptionReply SubscriptionAnswer
  | activation presented rounds => (verifyActivation server presented rounds).run
  | access presented => (verifyAccessCredential server presented).run
  | chain signatures => (chainProgram signatures).run

variable {Caller : Type}

abbrev SubscriptionEvent (Caller : Type) := Event Caller SubscriptionCall SubscriptionReply

abbrev SubscriptionWorld (Caller : Type) :=
  World Caller SubscriptionState SubscriptionCall SubscriptionReply

abbrev SubscriptionRun (Caller : Type) :=
  Config Caller SubscriptionState SubscriptionCall SubscriptionReply SubscriptionAnswer

def startOf (server : SubscriptionServer) (roles : Caller → SubscriptionRole)
    (state : SubscriptionState) : SubscriptionRun Caller where
  world := ⟨state, []⟩
  threads caller := (roles caller).program server

/-- The store, the node and the chain, in any order. -/
def anyOrder : Environment Caller SubscriptionState SubscriptionCall SubscriptionReply where
  effect := effect
  allowed _ _ := True

/-! ### Schedules -/

/-- How the node behaves in a turn of a schedule. -/
inductive NodeMood where
  | truthful
  | refusing
  | silent
deriving DecidableEq

/-- A handler of the calls for a fixed schedule. The node has not seen any delegation. -/
def handle (mood : NodeMood) : (request : SubscriptionCall) → SubscriptionState →
    SubscriptionReply request × SubscriptionState
  | .get key, state => (state.entries key, state)
  | .putIfAbsent key value, state =>
      if state.entries key = none then (true, state.setEntry key (some value)) else (false, state)
  | .putIfEq key expected value, state =>
      if state.entries key = expected then (true, state.setEntry key (some value))
      else (false, state)
  | .delete key, state => ((), state.setEntry key none)
  | .rpc (.sendTransaction signature), state =>
      match mood with
      | .truthful => (.accepted, { state with
          landings := Function.update state.landings signature
            (state.landings signature).forward })
      | .refusing => (.refused true "Transaction simulation failed", state)
      | .silent => (.failed "timed out", state)
  | .rpc (.signatureStatus signature _), state =>
      (if mood = .silent then .error "timed out" else .ok (state.landings signature).outcome, state)
  | .rpc (.isBlockhashValid signature), state =>
      (.ok !(state.landings signature).expired, state)
  | .fetchDelegation _, state => (.ok none, state)
  | .fetchAuthorityInitId _, state => (.error (.networkError "timed out"), state)
  | .landedSlot signature, state =>
      (.ok (if (state.landings signature).Succeeded then some (state.slots signature) else none),
        state)
  | .chain signature, state => ((), { state with
      landings := Function.update state.landings signature (state.landings signature).settle })

theorem effect_handle (mood : NodeMood) (request : SubscriptionCall) (state : SubscriptionState) :
    effect request state (handle mood request state).1 (handle mood request state).2 := by
  cases request with
  | get key => exact ⟨rfl, rfl⟩
  | putIfAbsent key value =>
      by_cases hAbsent : state.entries key = none <;> simp [effect, handle, hAbsent]
  | putIfEq key expected value =>
      by_cases hExpected : state.entries key = expected <;> simp [effect, handle, hExpected]
  | delete key => rfl
  | fetchDelegation pda => rfl
  | fetchAuthorityInitId pda => rfl
  | chain signature => exact ⟨_, Landing.advances_settle, rfl⟩
  | landedSlot signature =>
      refine ⟨rfl, ?_⟩
      intro slot hSlot
      by_cases hSucceeded : (state.landings signature).Succeeded
      · simp only [handle, hSucceeded, if_true, Except.ok.injEq, Option.some.injEq] at hSlot
        exact ⟨hSucceeded, hSlot.symm⟩
      · simp [handle, hSucceeded] at hSlot
  | rpc call =>
      cases call with
      | isBlockhashValid signature => exact ⟨_, rfl, rfl⟩
      | signatureStatus signature searched =>
          refine ⟨_, ⟨rfl, ?_⟩, rfl⟩
          cases mood with
          | truthful => exact Except.ok.inj
          | refusing => exact Except.ok.inj
          | silent => simp [handle]
      | sendTransaction signature =>
          cases mood with
          | truthful => exact ⟨_, rfl, rfl⟩
          | refusing => exact ⟨_, rfl, rfl⟩
          | silent => exact ⟨_, .inl rfl, rfl⟩

def plainServer : SubscriptionServer where
  programId := systemProgram
  planPda := systemProgram
  mint := systemProgram
  findProgramAddress _ program := program
  deriveSubscriptionId _ challengeId := challengeId
  parseTimestamp _ := .error "not a time"
  verifyAuthentication _ _ := .ok true

def plainActivation : PreparedActivation where
  challengeId := "challenge"
  subscriber := systemProgram
  signature := .ok "signature"
  authentication := ⟨"challenge", "payer", "proof"⟩
  terms := ⟨"1", .ok 24, none⟩
  now := 0

def nothingStored : SubscriptionState :=
  ⟨fun _ => none, fun _ => {}, fun _ => 0⟩

end PayKit.Subscription
