import PayKit.Session.PolicyStore

/-!
# Opening and resuming a session channel

`process_open_inner` and `resume_pending_open` of `mpp/server/session.rs`. Opening reserves the
record, submits the transaction, and activates the record or retires it. These updates go to the
store directly, since a pending record is none that a request may use, and each makes the checks
that it needs itself.

What an open is validated and prepared by, and how an intent and a record are written as JSON,
are parameters. What the chain answers is an input of each operation.
-/

namespace PayKit.Session

open Channel Control Encoding Machine Store

deriving instance BEq for Json

def openIntentKey : String := "mppSessionOpenIntent"
def openedElsewhereError : String :=
  "channel was opened outside this server's ledger and cannot be adopted; open a new channel"

/-- `OpenPayload`, with its authentication as it is stored. -/
structure OpenPayload where
  channelId : String
  depositAmount : String
  payer : String
  authorizedSigner : String
  openSlot : ℕ
  authentication : Option String
  idleTimeoutSeconds : Option ℕ
  transaction : String
deriving DecidableEq

structure SessionOpenContext where
  challengeId : String
  expires : Option String
  recentBlockhash : String
  recentSlot : ℕ

inductive AdoptionFloor where
  | slot (slot : ℕ)
  | unproven
deriving DecidableEq

/-- `AdoptionFloor::slot`. -/
def AdoptionFloor.slotOf : AdoptionFloor → Except SessionError ℕ
  | slot observed => .ok observed
  | unproven => .error
      (.other "pending open has no recorded broadcast floor and cannot be adopted")

structure OpenIntent where
  version : ℕ
  payload : OpenPayload
  challengeId : String
  recentBlockhash : String
  recentSlot : ℕ
  finalizedValidAt : Option ℕ
  transactionSignature : Option String
  adoptionFloor : AdoptionFloor
deriving DecidableEq

structure IntentCodec where
  toValue : OpenIntent → Except String Json
  fromValue : Json → Option OpenIntent

def sameOpenIntent (codec : IntentCodec) (stored expected : Json) : Bool :=
  match codec.fromValue stored with
  | none => false
  | some intent =>
      match codec.toValue intent with
      | .ok stored => stored == expected
      | .error _ => false

structure ValidatedOpen where
  deposit : ℕ
  effectiveIdleTimeout : ℕ
  rentPayer : String
  openSlot : ℕ

/-- A prepared transaction: its first signature and that of the payer. -/
structure PreparedOpen where
  signature : Option String
  payerSignature : String

/-- What the server needs to open channels. -/
structure SessionServer (Scope : Type) where
  store : BoundStore Scope
  operator : String
  /-- `VoucherSigner`, as it is stored. -/
  voucherSigner : String
  intents : IntentCodec
  /-- `serde_json::to_value` of a record. -/
  encodeState : ChannelState → Except String Json
  validateOpenRequest : OpenPayload → SessionOpenContext → Except SessionError ValidatedOpen
  prepareOpen : OpenPayload → SessionOpenContext → Except SessionError PreparedOpen

inductive OpenSubmission where
  | landed (signature : String) (settled : ℕ)
  | openedElsewhere

/-- What an open is told, in the order in which it asks. -/
structure OpenAnswers where
  pipeline : Except SessionError Unit
  /-- `validate_open_slot`. -/
  openSlot : Except SessionError ℕ
  nowSecs : ℕ
  /-- `finalized_blockhash_validity` of the challenged blockhash. -/
  blockhash : Except String (Bool × ℕ)
  /-- `submit_and_fetch_open`. -/
  submission : Except SessionError OpenSubmission
  activatedAt : ℕ

structure OpenAcceptance where
  state : ChannelState
  replay : Bool
  transactionSignature : String

/-- Operations of a session server. -/
abbrev SessionUpdate (Result : Type) := Update MemoryChannelStore SessionError Result

/-- A store operation whose failure is the operation's. -/
def storing {Result : Type} (operation : StoreUpdate Result) : SessionUpdate Result :=
  fun store => ((operation store).1.mapError SessionError.ofStore, (operation store).2)

section

variable {Scope : Type} [DecidableEq Scope] (server : SessionServer Scope)

/-- The check of a record that may be pending. -/
def SessionServer.requireOwn (state : ChannelState) : Except SessionError Unit :=
  requireBinding server.store.codec server.store.binding true state

/-- The same check within a store update. -/
def SessionServer.requireOwnStored (state : ChannelState) : Except StoreError Unit :=
  (server.requireOwn state).mapError fun error => StoreError.internal error.display

/-- The record of a fresh open, without its intent and its binding. -/
def SessionServer.freshState (payload : OpenPayload) (context : SessionOpenContext)
    (validated : ValidatedOpen) (prepared : PreparedOpen) (nowSecs : ℕ) : ChannelState :=
  let nowMs := min (nowSecs * 1000) i64Max.toNat
  { channelId := payload.channelId
    authorizedSigner := payload.authorizedSigner
    deposit := 0
    cumulative := 0
    sealed := false
    highestVoucherSignature := none
    highestVoucherExpiresAt := none
    closeRequestedAt := none
    finalCumulative := none
    openSlot := some payload.openSlot
    payer := payload.payer
    rentPayer := validated.rentPayer
    openingChallengeId := context.challengeId
    authentication := payload.authentication
    voucherSigner := server.voucherSigner
    idleTimeoutSeconds := some validated.effectiveIdleTimeout
    lastActivityAt := nowMs
    spentAmount := 0
    settledOnChain := 0
    distributedOnChain := 0
    processedUses := []
    processedTopupSignatures := []
    nextDeliverySequence := 0
    pendingDeliveries := []
    committedDeliveries := []
    pendingSetup := some
      { payerSignature := prepared.payerSignature
        deposit := validated.deposit
        opensChannel := true
        expiresAt := i64Max }
    onchainCheckedAt := 0
    lifecycle := some
      { owner := server.operator
        closeAfter := saturatingAdd nowMs (validated.effectiveIdleTimeout * 1000) }
    schemaVersion := channelStateSchemaVersion
    extra := [] }

/-- The intent that a record holds. -/
def SessionServer.storedIntent (existing : Option ChannelState) :
    Except SessionError (Option OpenIntent) :=
  match existing.bind (·.extra.lookup openIntentKey) with
  | none => .ok none
  | some value =>
      match server.intents.fromValue value with
      | some intent => .ok (some intent)
      | none => .error (.other "invalid pending open intent")

/-- The floor of the adoption of this open. -/
def adoptionFloorOf (storedIntent : Option OpenIntent) (freshOpen : Bool)
    (observedFloor : Option ℕ) : AdoptionFloor :=
  let observed := (observedFloor.map .slot).getD .unproven
  match storedIntent with
  | some intent => if freshOpen then observed else intent.adoptionFloor
  | none => observed

/-- The slot at which the blockhash of a fresh open was seen to be valid. -/
def validAt (blockhash : Except String (Bool × ℕ)) : Option ℕ :=
  match blockhash with
  | .ok (true, slot) => some slot
  | _ => none

def openIntent (payload : OpenPayload) (context : SessionOpenContext)
    (storedIntent : Option OpenIntent) (prepared : PreparedOpen) (finalizedValidAt : Option ℕ)
    (adoptionFloor : AdoptionFloor) : OpenIntent where
  version := (storedIntent.map (·.version)).getD 2
  payload
  challengeId := context.challengeId
  recentBlockhash := context.recentBlockhash
  recentSlot := context.recentSlot
  finalizedValidAt
  transactionSignature :=
    if storedIntent.any (·.version = 1) then none else prepared.signature
  adoptionFloor

/-- The record holds another intent. -/
def SessionServer.otherIntent (state : ChannelState) (intent : Json) : Bool :=
  (state.extra.lookup openIntentKey).any fun stored => ¬sameOpenIntent server.intents stored intent

/-- The reservation of a record; a replay leaves it as it is. -/
def SessionServer.reserve (payload : OpenPayload) (context : SessionOpenContext)
    (validated : ValidatedOpen) (intent : Json) (freshState : ChannelState)
    (existing : Option ChannelState) : Except StoreError (Bool × ChannelState) :=
  match existing with
  | none => .ok (false, freshState)
  | some existing => do
      server.requireOwnStored existing
      refuseIf (server.otherIntent existing intent)
        (.internal "open intent does not match stored state" : StoreError)
      refuseIf existing.sealed
        (.internal ("Channel " ++ payload.channelId ++ " is already sealed") : StoreError)
      refuseIf (existing.authorizedSigner ≠ payload.authorizedSigner)
        (.internal ("Channel " ++ payload.channelId ++
          " already exists with a different authorized signer") : StoreError)
      refuseIf (existing.payer ≠ payload.payer ∨ existing.rentPayer ≠ validated.rentPayer ∨
          existing.openingChallengeId ≠ context.challengeId ∨
            existing.authentication ≠ payload.authentication)
        (.internal ("Channel " ++ payload.channelId ++
          " open replay does not match stored state") : StoreError)
      return (existing.pendingSetup.isNone, existing)

def retired (marker : Json) (state : ChannelState) : ChannelState :=
  { state with
    extra := insertMember state.extra openTerminalKey marker
    pendingSetup := none
    lifecycle := none }

def openedElsewhereMarker : Json :=
  .object [("version", .unsigned 1), ("openedElsewhere", .bool true)]

/-- The retirement of a reservation whose channel was opened elsewhere. -/
def SessionServer.retireElsewhere (intent : Json) (state : Option ChannelState) :
    Except StoreError (Unit × ChannelState) := do
  let state ← okOr state (.internal "open intent disappeared")
  refuseIf ((state.extra.lookup openIntentKey).all fun stored =>
      ¬sameOpenIntent server.intents stored intent)
    (.internal "open intent changed before retirement" : StoreError)
  return ((), retired openedElsewhereMarker state)

/-- The record with what the chain settled already. -/
def activated (deposit settled activatedAt : ℕ) (state : ChannelState) : ChannelState :=
  let state :=
    if opensChannel state then { state with deposit, pendingSetup := none } else state
  ({ state with
      cumulative := max state.cumulative settled
      spentAmount := max state.spentAmount settled
      settledOnChain := max state.settledOnChain settled }.recordOnchainObservation
    ⟨none, .opened⟩ activatedAt).2

def SessionServer.activate (deposit settled activatedAt : ℕ) (intent : Json)
    (state : Option ChannelState) : Except StoreError (Unit × ChannelState) := do
  let state ← okOr state (.internal "open intent disappeared")
  server.requireOwnStored state
  refuseIf (server.otherIntent state intent)
    (.internal "open intent changed before activation" : StoreError)
  return ((), activated deposit settled activatedAt state)

/-- The outcome of the submission, written to the record. -/
def SessionServer.concludeOpen (payload : OpenPayload) (deposit : ℕ) (intent : Json)
    (replay : Bool) (answers : OpenAnswers) : SessionUpdate OpenAcceptance := do
  match ← Update.check answers.submission with
  | .openedElsewhere => do
      let _ ← storing (InnerStore.updateChannel payload.channelId (server.retireElsewhere intent))
      Update.check (.error (.other openedElsewhereError))
  | .landed transactionSignature settled => do
      let (_, state) ← storing (InnerStore.updateChannel payload.channelId
        (server.activate deposit settled answers.activatedAt intent))
      return { state, replay, transactionSignature }

def SessionServer.boundState (payload : OpenPayload) (context : SessionOpenContext)
    (validated : ValidatedOpen) (prepared : PreparedOpen) (nowSecs : ℕ) (intent : Json) :
    Except SessionError ChannelState :=
  let fresh := server.freshState payload context validated prepared nowSecs
  let withIntent := { fresh with extra := insertMember fresh.extra openIntentKey intent }
  match server.store.binding with
  | some binding => insertBinding server.store.codec binding withIntent
  | none => .ok withIntent

/-- A question that only a fresh open asks. -/
def whenFresh {Answer : Type} (freshOpen : Bool) (answer : Except SessionError Answer) :
    Except SessionError (Option Answer) :=
  if freshOpen then answer.map some else .ok none

/-- The check of the record that an open finds. -/
def SessionServer.requireExisting : Option ChannelState → Except SessionError Unit
  | some existing => server.requireOwn existing
  | none => .ok ()

def SessionServer.processOpenInner (payload : OpenPayload) (context : SessionOpenContext)
    (answers : OpenAnswers) : SessionUpdate OpenAcceptance := do
  let validated ← Update.check (server.validateOpenRequest payload context)
  let existing ← storing (InnerStore.getChannel payload.channelId)
  Update.check (server.requireExisting existing)
  let freshOpen := existing.isNone
  let activating := existing.all opensChannel
  Update.check answers.pipeline
  let prepared ← Update.check (server.prepareOpen payload context)
  let observedFloor ← Update.check (whenFresh freshOpen answers.openSlot)
  let storedIntent ← Update.check (server.storedIntent existing)
  let adoptionFloor := adoptionFloorOf storedIntent freshOpen observedFloor
  let _ ← Update.check (if activating then adoptionFloor.slotOf.map some else .ok none)
  let finalizedValidAt :=
    if freshOpen then validAt answers.blockhash else storedIntent.bind (·.finalizedValidAt)
  let intent ← Update.check ((server.intents.toValue (openIntent payload context storedIntent
      prepared finalizedValidAt adoptionFloor)).mapError fun error =>
    SessionError.other ("serialize open intent: " ++ error))
  let freshState ← Update.check
    (server.boundState payload context validated prepared answers.nowSecs intent)
  let (replay, _) ← storing (InnerStore.updateChannel payload.channelId
    (server.reserve payload context validated intent freshState))
  server.concludeOpen payload validated.deposit intent replay answers

/-! ### Resuming a pending open -/

/-- What the retirement of an expired open is told. -/
structure RetirementAnswers where
  pipeline : Except SessionError Unit
  /-- `finalized_blockhash_validity` of the blockhash of the intent. -/
  blockhash : Except String (Bool × ℕ)
  /-- `finalized_unfunded`. -/
  unfunded : Except String Bool

def expiredMarker (invalidAt : ℕ) : Json :=
  .object [("version", .unsigned 1), ("finalizedInvalidAt", .unsigned invalidAt)]

/-- The retirement of an open that expired; the record must not have changed. -/
def SessionServer.retireExpired (expected : ChannelState) (invalidAt : ℕ)
    (current : Option ChannelState) : Except StoreError (Unit × ChannelState) := do
  let current ← okOr current (.internal "open intent disappeared")
  let currentValue ← (server.encodeState current).mapError StoreError.internal
  let expectedValue ← (server.encodeState expected).mapError StoreError.internal
  refuseIf ((currentValue == expectedValue) = false)
    (.internal "open changed before retirement" : StoreError)
  return ((), retired (expiredMarker invalidAt) current)

/-- The slot at which an open is known to have expired without funding. -/
def SessionServer.expiredAt (intent : OpenIntent) (context : SessionOpenContext)
    (answers : RetirementAnswers) : Except SessionError (Option ℕ) :=
  if intent.version ≠ 2 then .ok none
  else
    match intent.finalizedValidAt with
    | none => .ok none
    | some validAt => do
        answers.pipeline
        let (valid, invalidAt) ← answers.blockhash.mapError fun error =>
          SessionError.rpc ("open expiry reconciliation: " ++ error)
        if ¬valid ∧ validAt < invalidAt then do
          let _ ← server.validateOpenRequest intent.payload context
          let prepared ← server.prepareOpen intent.payload context
          let signature ← okOr prepared.signature (.other "open signature missing")
          refuseIf (intent.transactionSignature ≠ some signature)
            (.other "open reconciliation signature mismatch" : SessionError)
          let unfunded ← answers.unfunded.mapError fun error =>
            SessionError.rpc ("open funding reconciliation: " ++ error)
          return if unfunded then some invalidAt else none
        else return none

/-- The intent of a record that waits for its open. -/
def SessionServer.pendingIntent (channelId : String) (state : ChannelState) :
    Except SessionError OpenIntent := do
  refuseIf (¬opensChannel state) (.other "channel has no pending open" : SessionError)
  let value ← okOr (state.extra.lookup openIntentKey) (.other "pending open intent missing")
  let intent ← okOr (server.intents.fromValue value) (.other "invalid pending open intent")
  refuseIf (¬(intent.version = 1 ∨ intent.version = 2) ∨ intent.payload.channelId ≠ channelId)
    (.other "pending open intent identity mismatch" : SessionError)
  return intent

/-- The context that an intent was opened in, without its expiry. -/
def OpenIntent.context (intent : OpenIntent) : SessionOpenContext where
  challengeId := intent.challengeId
  expires := none
  recentBlockhash := intent.recentBlockhash
  recentSlot := intent.recentSlot

def SessionServer.resumePendingOpen (channelId : String) (retirement : RetirementAnswers)
    (answers : OpenAnswers) : SessionUpdate OpenAcceptance := do
  let found ← storing (InnerStore.getChannel channelId)
  let state ← Update.check (okOr found (.other "pending open not found"))
  Update.check (server.requireOwn state)
  let intent ← Update.check (server.pendingIntent channelId state)
  match ← Update.check (server.expiredAt intent intent.context retirement) with
  | some invalidAt => do
      let _ ← storing
        (InnerStore.updateChannel channelId (server.retireExpired state invalidAt))
      Update.check (.error (.other openTerminalError))
  | none => server.processOpenInner intent.payload intent.context answers

end

end PayKit.Session
