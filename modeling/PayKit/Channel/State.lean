import PayKit.Arithmetic.Machine
import PayKit.Encoding.Json
import PayKit.Store.KeyValue

/-!
# Payment-channel records

`ChannelState` of `core/store.rs` and what it is made of: the record a server
keeps for each payment channel, with its deliveries, its setup transaction and
its lifecycle. Amounts are natural numbers and timestamps integers; where the
source's 64-bit types make a difference, the operations of `PayKit.Machine` are
used.

The fields this version of the program does not know are kept in `extra`, a JSON
object. The newest observation of the chain is kept there too.
-/

namespace PayKit.Channel

open Encoding Machine Store

/-- A delivery reserved by the server but not yet committed by the client, or a
payment authorization between its reservation and its commitment. -/
structure PendingDelivery where
  deliveryId : String
  amount : ℕ
  sequence : ℕ
  expiresAt : ℤ
  requestFingerprint : Option String
  handlerSucceeded : Bool
deriving DecidableEq

/-- A resource handler's response body, held verbatim for idempotent replay. -/
structure CachedUpstreamResponse where
  status : ℕ
  contentType : Option String
  headers : List (String × String)
  body : List UInt8
deriving DecidableEq

/-- A committed delivery, retained so that an exact retry can be answered without
charging or serving twice. -/
structure CommittedDelivery where
  deliveryId : String
  amount : ℕ
  cumulative : ℕ
  voucherSignature : String
  requestFingerprint : Option String
  settlementResponse : Option Json
  retainUntil : ℤ
  cachedResponse : Option CachedUpstreamResponse

/-- A setup transaction the server has validated but not yet broadcast and
confirmed. -/
structure PendingSetup where
  payerSignature : String
  deposit : ℕ
  opensChannel : Bool
  expiresAt : ℤ
deriving DecidableEq

/-- The idle-close deadline of a channel. -/
structure ChannelLifecycle where
  owner : String
  closeAfter : ℕ
deriving DecidableEq

/-- The cached result of one operator-signed `use` request. -/
structure ProcessedUse where
  challengeId : String
  idempotencyKey : String
  cumulative : ℕ
  voucherSignature : String
  amount : Option ℕ
deriving DecidableEq

/-- The schema version stamped on every record this version writes. -/
def channelStateSchemaVersion : ℕ := 2

/-- The persisted state of one payment channel. -/
structure ChannelState where
  channelId : String
  authorizedSigner : String
  deposit : ℕ
  /-- The highest cumulative amount accepted: the watermark. -/
  cumulative : ℕ
  sealed : Bool
  highestVoucherSignature : Option String
  highestVoucherExpiresAt : Option ℤ
  closeRequestedAt : Option ℕ
  /-- The amount the close finalizer chose to seal the channel at. -/
  finalCumulative : Option ℕ
  openSlot : Option ℕ
  payer : String
  rentPayer : String
  openingChallengeId : String
  authentication : Option String
  voucherSigner : String
  idleTimeoutSeconds : Option ℕ
  lastActivityAt : ℕ
  spentAmount : ℕ
  settledOnChain : ℕ
  distributedOnChain : ℕ
  processedUses : List ProcessedUse
  processedTopupSignatures : List String
  nextDeliverySequence : ℕ
  pendingDeliveries : List PendingDelivery
  committedDeliveries : List CommittedDelivery
  pendingSetup : Option PendingSetup
  onchainCheckedAt : ℕ
  lifecycle : Option ChannelLifecycle
  schemaVersion : ℕ
  extra : List (String × Json)

/-- A channel that has just been opened. -/
def openedChannel : ChannelState where
  channelId := "channel"
  authorizedSigner := "signer"
  deposit := 1000
  cumulative := 0
  sealed := false
  highestVoucherSignature := none
  highestVoucherExpiresAt := none
  closeRequestedAt := none
  finalCumulative := none
  openSlot := some 1
  payer := "payer"
  rentPayer := "payer"
  openingChallengeId := "challenge"
  authentication := none
  voucherSigner := "client"
  idleTimeoutSeconds := none
  lastActivityAt := 0
  spentAmount := 0
  settledOnChain := 0
  distributedOnChain := 0
  processedUses := []
  processedTopupSignatures := []
  nextDeliverySequence := 0
  pendingDeliveries := []
  committedDeliveries := []
  pendingSetup := none
  onchainCheckedAt := 0
  lifecycle := none
  schemaVersion := channelStateSchemaVersion
  extra := []

/-- The lifecycle an onchain read showed for a channel. -/
inductive ObservedLifecycle where
  | opened
  | closing (startedAt : ℕ)
  | terminal (startedAt : Option ℕ)
deriving DecidableEq

structure OnchainObservation where
  /-- Slot of the bank that served the read, when the read reported one. -/
  slot : Option ℕ
  lifecycle : ObservedLifecycle
deriving DecidableEq

/-- Whether an observation renewed the snapshot, or came from a bank behind the
recorded slot. -/
inductive ObservationOutcome where
  | fresh
  | behind (recorded : ℕ)
deriving DecidableEq

def onchainObservedSlotKey : String := "onchainObservedSlot"

def onchainObservedAtKey : String := "onchainObservedAt"

/-- `Map::insert` of a JSON object: the value under a key is replaced, a new key
is added. -/
def insertMember (members : List (String × Json)) (key : String) (value : Json) :
    List (String × Json) :=
  match members with
  | [] => [(key, value)]
  | member :: rest =>
      if member.1 = key then (key, value) :: rest else member :: insertMember rest key value

@[simp]
theorem lookup_insertMember_self {members : List (String × Json)} {key : String} {value : Json} :
    (insertMember members key value).lookup key = some value := by
  induction members with
  | nil => simp [insertMember]
  | cons member rest hInduction =>
      simp only [insertMember]
      split
      · simp
      · rename_i hOther
        rw [List.lookup_cons, beq_false_of_ne (Ne.symm hOther)]
        exact hInduction

theorem lookup_insertMember_of_ne {members : List (String × Json)} {key other : String}
    {value : Json} (hOther : other ≠ key) :
    (insertMember members key value).lookup other = members.lookup other := by
  induction members with
  | nil => simp [insertMember, hOther]
  | cons member rest hInduction =>
      simp only [insertMember]
      split
      · rename_i hSame
        rw [List.lookup_cons, List.lookup_cons, hSame, beq_false_of_ne hOther]
      · rw [List.lookup_cons, List.lookup_cons, hInduction]

namespace ChannelState

/-- `extra.get(key).and_then(Value::as_u64)`. -/
def extraU64 (state : ChannelState) (key : String) : Option ℕ :=
  (state.extra.lookup key).bind Json.asU64

def onchainObservedSlot (state : ChannelState) : ℕ :=
  (state.extraU64 onchainObservedSlotKey).getD 0

def onchainObservedAt (state : ChannelState) : ℕ :=
  (state.extraU64 onchainObservedAtKey).getD 0

/-- Record that a close was requested, keeping the time of an earlier request. -/
def requestClose (state : ChannelState) (startedAt : ℕ) : ChannelState :=
  { state with closeRequestedAt := some (state.closeRequestedAt.getD startedAt) }

/-- Record the time at which the chain says a close started. -/
def recordClose (state : ChannelState) (closedAt : ℕ) : ChannelState :=
  { state with closeRequestedAt := some closedAt }

/-- The record with its channel sealed. -/
def markSealed (state : ChannelState) : ChannelState :=
  { state with sealed := true }

/-- The lifecycle fences an observation carries. They only ever close a channel,
so even a stale read may set them. -/
def applyObservedLifecycle (state : ChannelState) : ObservedLifecycle → ChannelState
  | .opened => state
  | .closing startedAt => state.requestClose startedAt
  | .terminal none => state.markSealed
  | .terminal (some startedAt) => state.markSealed.requestClose startedAt

/-- The snapshot renewed at `now`. -/
def renewObservation (state : ChannelState) (now : ℕ) : ChannelState :=
  { state with
    extra := insertMember state.extra onchainObservedAtKey (.unsigned now)
    onchainCheckedAt := now }

/-- `record_onchain_observation`: apply the fences, then renew the snapshot unless
the read is behind the newest accepted slot. -/
def recordOnchainObservation (state : ChannelState) (observation : OnchainObservation)
    (now : ℕ) : ObservationOutcome × ChannelState :=
  let fenced := state.applyObservedLifecycle observation.lifecycle
  match observation.slot with
  | none => (.fresh, fenced.renewObservation now)
  | some slot =>
      if slot < fenced.onchainObservedSlot then (.behind fenced.onchainObservedSlot, fenced)
      else
        let observed :=
          { fenced with extra := insertMember fenced.extra onchainObservedSlotKey (.unsigned slot) }
        (.fresh, observed.renewObservation now)

/-- `freeze_watermark_at`: the close finalizer will seal at `cumulative`. -/
def freezeWatermarkAt (state : ChannelState) (cumulative : ℕ) : ChannelState :=
  { state with finalCumulative := some cumulative }

end ChannelState

end PayKit.Channel
