import PayKit.Channel.State

/-!
# Durable payment authorizations

The authorization operations of `ChannelState`: an authorization is reserved,
its handler is marked as succeeded, and it is committed or released. The stages
are kept in the delivery lists of the record: `pendingDeliveries` holds the
reservations and `committedDeliveries` the completed records.

An operation that the source runs on `&mut self` returns its result together
with the record it leaves, also when the result is an error.
-/

namespace PayKit.Channel

open Encoding Machine Store

/-- The most committed authorizations retained per channel. -/
def maxCommittedAuthorizations : ℕ := 64

/-- `DEFAULT_CHARGE_RECORD_RETENTION`, in seconds. -/
def defaultChargeRecordRetention : ℕ := 24 * 60 * 60

/-- One request asking to reserve an authorization: it would step the watermark by
`amount` to the voucher's `cumulative`. The lease is in whole seconds. -/
structure AuthorizationRequest where
  authorizationId : String
  requestFingerprint : String
  amount : ℕ
  cumulative : ℕ
  lease : ℕ
  now : ℤ
deriving DecidableEq

/-- Proof that a store transition reserved one authorization. -/
structure ReservationToken where
  authorizationId : String
  requestFingerprint : String
  cumulative : ℕ
  sequence : ℕ
deriving DecidableEq

inductive BatchReservation where
  | reserved (token : ReservationToken)
  | inProgress
  | handlerSucceeded (token : ReservationToken)
  | committed
  | conflict
  | abandoned
  | stale
  | closing
deriving DecidableEq

namespace ChannelState

variable (state : ChannelState)

/-- The committed record for an authorization. -/
def committedAuthorization (authorizationId : String) : Option CommittedDelivery :=
  state.committedDeliveries.find? fun entry => entry.deliveryId = authorizationId

/-- The position of the reservation for an authorization. -/
def pendingIndex (authorizationId : String) : Option (Fin state.pendingDeliveries.length) :=
  state.pendingDeliveries.findFinIdx? fun entry => entry.deliveryId = authorizationId

/-- Classify an authorization without changing anything; `none` when it has no
record and is free to reserve. -/
def classifyAuthorization (authorizationId requestFingerprint : String) (cumulative : ℕ)
    (now : ℤ) : Option BatchReservation :=
  match state.committedAuthorization authorizationId with
  | some committed =>
      if committed.requestFingerprint ≠ some requestFingerprint then some .conflict
      else some .committed
  | none =>
      match state.pendingIndex authorizationId with
      | none => none
      | some index =>
          let pending := state.pendingDeliveries.get index
          if pending.requestFingerprint ≠ some requestFingerprint then some .conflict
          else if pending.handlerSucceeded then
            -- A succeeded handler outranks the lease.
            some (.handlerSucceeded
              ⟨authorizationId, requestFingerprint, cumulative, pending.sequence⟩)
          else if now < pending.expiresAt then some .inProgress
          else some .abandoned

/-- Whether a later reservation was taken over this one's dead lease. -/
def isSuperseded (sequence : ℕ) : Bool :=
  sequence < state.nextDeliverySequence

/-- The position of the reservation a request owns; an error when another request
holds it. -/
def ownedPendingIndex (authorizationId requestFingerprint : String) :
    Except StoreError (Option (Fin state.pendingDeliveries.length)) :=
  match state.pendingIndex authorizationId with
  | none => .ok none
  | some index =>
      if (state.pendingDeliveries.get index).requestFingerprint ≠ some requestFingerprint then
        .error (.internal s!"authorization {authorizationId} is reserved by a different request")
      else .ok (some index)

/-- The pending entry a token was minted for. -/
def tokenPendingIndex (token : ReservationToken) :
    Except StoreError (Fin state.pendingDeliveries.length) := do
  let owned ← state.ownedPendingIndex token.authorizationId token.requestFingerprint
  match owned.filter fun index => (state.pendingDeliveries.get index).sequence = token.sequence with
  | none => .error (.internal s!"authorization {token.authorizationId} is no longer reserved")
  | some index =>
      if state.isSuperseded token.sequence then
        .error (.internal
          s!"authorization {token.authorizationId} outlived its lease and was superseded")
      else .ok index

/-- A committed record past its retention. Records written before retention was
tracked carry `0` and are kept. -/
def expired (now : ℤ) (entry : CommittedDelivery) : Bool :=
  entry.retainUntil ≠ 0 ∧ entry.retainUntil ≤ now

/-- What `prune_authorizations` keeps of the committed records: the expired ones at
the front are dropped, then the tail is bounded. -/
def retained (now : ℤ) (committed : List CommittedDelivery) : List CommittedDelivery :=
  let live := committed.dropWhile (expired now)
  live.drop (live.length - maxCommittedAuthorizations)

def pruneAuthorizations (now : ℤ) : ChannelState :=
  { state with committedDeliveries := retained now state.committedDeliveries }

/-- The outcome when a request cannot take a new reservation; `none` when it can. -/
def refuseReservation (request : AuthorizationRequest) : Option BatchReservation :=
  if state.sealed ∨ state.closeRequestedAt.isSome then some .closing
  else
    match state.classifyAuthorization request.authorizationId request.requestFingerprint
        request.cumulative request.now with
    | some outcome => some outcome
    | none =>
        let others := state.pendingDeliveries.filter
          fun pending => pending.deliveryId ≠ request.authorizationId
        -- Work that outlived its lease without reporting fences the channel until
        -- its owner releases or commits it.
        if others.any fun pending =>
            !pending.handlerSucceeded ∧ pending.expiresAt ≤ request.now then
          some .abandoned
        else if others.any fun pending =>
            pending.handlerSucceeded ∨ request.now < pending.expiresAt then
          some .inProgress
        else if checkedAdd state.cumulative request.amount ≠ some request.cumulative then
          some .stale
        else none

/-- Take the reservation `refuseReservation` cleared. -/
def takeReservation (request : AuthorizationRequest) : BatchReservation × ChannelState :=
  let pruned := state.pruneAuthorizations request.now
  let sequence := saturatingAdd pruned.nextDeliverySequence 1
  let pending : PendingDelivery :=
    { deliveryId := request.authorizationId
      amount := request.amount
      sequence := sequence
      expiresAt := saturatingAddI64 request.now (asI64 request.lease)
      requestFingerprint := some request.requestFingerprint
      handlerSucceeded := false }
  (.reserved ⟨request.authorizationId, request.requestFingerprint, request.cumulative, sequence⟩,
    { pruned with
      nextDeliverySequence := sequence
      pendingDeliveries := pruned.pendingDeliveries ++ [pending] })

/-- Reserve an authorization, or classify the record that already holds it. -/
def reserveAuthorization (request : AuthorizationRequest) : BatchReservation × ChannelState :=
  match state.refuseReservation request with
  | some refused => (refused, state)
  | none => state.takeReservation request

/-- Reserve with a staged setup, which is installed only together with the
reservation. -/
def reserveAuthorizationStaged (request : AuthorizationRequest)
    (stage : ChannelState → Except StoreError (Option PendingSetup)) :
    Except StoreError BatchReservation × ChannelState :=
  match state.refuseReservation request with
  | some refused => (.ok refused, state)
  | none =>
      match stage state with
      | .error error => (.error error, state)
      | .ok none =>
          let taken := state.takeReservation request
          (.ok taken.1, taken.2)
      | .ok (some setup) =>
          let taken := { state with pendingSetup := some setup }.takeReservation request
          (.ok taken.1, taken.2)

/-- Record that the resource handler of an authorization succeeded. -/
def markAuthorizationHandlerSucceeded (token : ReservationToken) :
    Except StoreError Unit × ChannelState :=
  if (state.committedAuthorization token.authorizationId).isSome then (.ok (), state)
  else
    match state.tokenPendingIndex token with
    | .error error => (.error error, state)
    | .ok index =>
        let marked := { state.pendingDeliveries.get index with handlerSucceeded := true }
        (.ok (), { state with pendingDeliveries := state.pendingDeliveries.set index marked })

/-- Release a reservation after a handler failure. -/
def releaseAuthorization (authorizationId requestFingerprint : String) :
    Except StoreError Unit × ChannelState :=
  match state.ownedPendingIndex authorizationId requestFingerprint with
  | .error error => (.error error, state)
  | .ok none => (.ok (), state)
  | .ok (some index) =>
      if (state.pendingDeliveries.get index).handlerSucceeded then
        (.error (.internal s!"authorization {authorizationId} already served its handler"), state)
      else
        (.ok (), { state with pendingDeliveries := state.pendingDeliveries.eraseIdx index })

/-- The record that commits `token`, before its response is stored. -/
def commitRecord (token : ReservationToken) (voucherSignature : String)
    (voucherExpiresAt now : ℤ) : CommittedDelivery :=
  { deliveryId := token.authorizationId
    amount := token.cumulative - state.cumulative
    cumulative := token.cumulative
    voucherSignature := voucherSignature
    requestFingerprint := some token.requestFingerprint
    settlementResponse := none
    -- Kept non-decreasing with insertion order, whatever the voucher's expiry.
    retainUntil := max
      (saturatingAddI64 (max voucherExpiresAt now) (asI64 defaultChargeRecordRetention))
      ((state.committedDeliveries.getLast?.map CommittedDelivery.retainUntil).getD 0)
    cachedResponse := none }

/-- The committed records with the first one of an authorization changed, if it is
still there. -/
def changeCommitted (authorizationId : String) (change : CommittedDelivery → CommittedDelivery) :
    List CommittedDelivery :=
  match state.committedDeliveries.findFinIdx? fun entry => entry.deliveryId = authorizationId with
  | none => state.committedDeliveries
  | some index =>
      state.committedDeliveries.set index (change state.committedDeliveries[index])

/-- Store the response that answered an authorization on its committed record. -/
def storeResponse (authorizationId : String) (response : Option Json) : ChannelState :=
  { state with
    committedDeliveries := state.changeCommitted authorizationId
      fun entry => { entry with settlementResponse := response } }

/-- The transition of a commit that passed every check: the reservation is removed,
the watermark advances, and the record is appended and pruned. -/
def applyCommit (token : ReservationToken) (voucherSignature : String)
    (voucherExpiresAt now : ℤ) (response : ChannelState → Option Json)
    (index : Fin state.pendingDeliveries.length) : ChannelState :=
  let record := state.commitRecord token voucherSignature voucherExpiresAt now
  let committed :=
    { state with
      pendingDeliveries := state.pendingDeliveries.eraseIdx index
      cumulative := token.cumulative
      spentAmount := max state.spentAmount token.cumulative
      highestVoucherSignature := some voucherSignature
      highestVoucherExpiresAt := some voucherExpiresAt
      committedDeliveries := state.committedDeliveries ++ [record] }.pruneAuthorizations now
  committed.storeResponse token.authorizationId (response committed)

/-- Commit an authorization: advance the watermark and store the response that
answered the request, in one transition. -/
def commitAuthorization (token : ReservationToken) (voucherSignature : String)
    (voucherExpiresAt now : ℤ) (response : ChannelState → Option Json) :
    Except StoreError Unit × ChannelState :=
  match state.committedAuthorization token.authorizationId with
  | some committed =>
      if committed.requestFingerprint ≠ some token.requestFingerprint ∨
          committed.cumulative ≠ token.cumulative then
        (.error (.internal
          s!"authorization {token.authorizationId} was committed by a different request"), state)
      else (.ok (), state)
  | none =>
      match state.tokenPendingIndex token with
      | .error error => (.error error, state)
      | .ok index =>
          if state.sealed then
            (.error (.internal
              s!"authorization {token.authorizationId} cannot be charged: the channel is sealed"),
              state)
          else
            match state.finalCumulative with
            | some fence =>
                (.error (.internal (s!"authorization {token.authorizationId} cannot be charged: " ++
                  s!"the channel's final watermark is fixed at {fence} for sealing")), state)
            | none =>
                if token.cumulative < state.cumulative then
                  (.error (.internal (s!"authorization {token.authorizationId} would lower the " ++
                    s!"watermark from {state.cumulative} to {token.cumulative}")), state)
                else
                  let reserved := (state.pendingDeliveries.get index).amount
                  if checkedAdd state.cumulative reserved ≠ some token.cumulative then
                    (.error (.internal (s!"authorization {token.authorizationId} reserved " ++
                      s!"{reserved} above the watermark, which is now {state.cumulative} and " ++
                      s!"does not step to {token.cumulative}")), state)
                  else
                    (.ok (), state.applyCommit token voucherSignature voucherExpiresAt now
                      response index)

/-- `has_blocking_authorization`: reserved work whose lease is still running, which a
close has to wait for. -/
def hasBlockingAuthorization (now : ℤ) : Bool :=
  state.pendingSetup.any (now < ·.expiresAt) || state.pendingDeliveries.any (now < ·.expiresAt)

/-- Attach a resource handler's response to a committed authorization. -/
def attachCachedResponse (authorizationId : String) (cached : CachedUpstreamResponse) :
    ChannelState :=
  { state with
    committedDeliveries := state.changeCommitted authorizationId
      fun entry => { entry with cachedResponse := some cached } }

end ChannelState

end PayKit.Channel
