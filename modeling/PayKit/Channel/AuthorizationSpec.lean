import PayKit.Channel.Authorization

/-!
# What each authorization operation does

One lemma per operation says everything it can do to a record. The lemmas about
runs of the operations use these and never unfold the operations themselves.

The responses stored on a committed record play no part in the accounting, so
committed records are compared through `records`, which leaves them out.
-/

namespace PayKit.Channel

open Encoding Machine Store

/-- A committed record without the responses stored on it. -/
def CommittedDelivery.bare (entry : CommittedDelivery) : CommittedDelivery :=
  { entry with settlementResponse := none, cachedResponse := none }

namespace CommittedDelivery

variable (entry : CommittedDelivery)

@[simp]
theorem bare_deliveryId : entry.bare.deliveryId = entry.deliveryId :=
  rfl

@[simp]
theorem bare_cumulative : entry.bare.cumulative = entry.cumulative :=
  rfl

@[simp]
theorem bare_retainUntil : entry.bare.retainUntil = entry.retainUntil :=
  rfl

@[simp]
theorem bare_requestFingerprint : entry.bare.requestFingerprint = entry.requestFingerprint :=
  rfl

end CommittedDelivery

namespace ChannelState

variable {state : ChannelState}

/-- The committed records, without their responses. -/
def records (state : ChannelState) : List CommittedDelivery :=
  state.committedDeliveries.map CommittedDelivery.bare

theorem deliveryId_of_pendingIndex {authorizationId : String}
    {index : Fin state.pendingDeliveries.length}
    (hIndex : state.pendingIndex authorizationId = some index) :
    (state.pendingDeliveries.get index).deliveryId = authorizationId := by
  have hFound := (List.findFinIdx?_eq_some_iff.mp hIndex).1
  simpa using hFound

theorem pendingIndex_eq_none {authorizationId : String} :
    state.pendingIndex authorizationId = none ↔
      ∀ pending ∈ state.pendingDeliveries, pending.deliveryId ≠ authorizationId := by
  simp [pendingIndex]

theorem committedAuthorization_eq_none {authorizationId : String} :
    state.committedAuthorization authorizationId = none ↔
      ∀ record ∈ state.records, record.deliveryId ≠ authorizationId := by
  simp [committedAuthorization, records]

theorem bare_mem_of_committedAuthorization {authorizationId : String}
    {entry : CommittedDelivery}
    (hFound : state.committedAuthorization authorizationId = some entry) :
    entry.bare ∈ state.records ∧ entry.deliveryId = authorizationId := by
  refine ⟨List.mem_map_of_mem (List.mem_of_find?_eq_some hFound), ?_⟩
  simpa using List.find?_some hFound

/-! ### Pruning -/

theorem retained_map_bare (now : ℤ) (committed : List CommittedDelivery) :
    (retained now committed).map CommittedDelivery.bare =
      retained now (committed.map CommittedDelivery.bare) := by
  have hLive : (committed.map CommittedDelivery.bare).dropWhile (expired now) =
      (committed.dropWhile (expired now)).map CommittedDelivery.bare :=
    List.dropWhile_map ..
  simp only [retained, hLive, List.map_drop, List.length_map]

theorem retained_suffix (now : ℤ) (committed : List CommittedDelivery) :
    retained now committed <:+ committed :=
  (List.drop_suffix _ _).trans (List.dropWhile_suffix _)

/-- The records that pruning drops. -/
def discarded (now : ℤ) (committed : List CommittedDelivery) : List CommittedDelivery :=
  committed.take (committed.length - (retained now committed).length)

theorem discarded_append_retained (now : ℤ) (committed : List CommittedDelivery) :
    discarded now committed ++ retained now committed = committed := by
  have hSuffix := List.suffix_iff_eq_drop.mp (retained_suffix now committed)
  have hSplit := List.take_append_drop
    (committed.length - (retained now committed).length) committed
  rwa [← hSuffix] at hSplit

@[simp]
theorem records_pruneAuthorizations (now : ℤ) :
    (state.pruneAuthorizations now).records = retained now state.records :=
  retained_map_bare now state.committedDeliveries

/-! ### Changing a stored response -/

theorem map_bare_changeCommitted (authorizationId : String)
    (change : CommittedDelivery → CommittedDelivery)
    (hBare : ∀ entry, (change entry).bare = entry.bare) :
    (state.changeCommitted authorizationId change).map CommittedDelivery.bare = state.records := by
  simp only [changeCommitted, records]
  split
  · rfl
  · rename_i index hIndex
    rw [List.map_set, hBare, ← List.map_set]
    simp

@[simp]
theorem records_storeResponse (authorizationId : String) (response : Option Json) :
    (state.storeResponse authorizationId response).records = state.records := by
  apply map_bare_changeCommitted authorizationId
    fun entry => { entry with settlementResponse := response }
  intro entry
  rfl

@[simp]
theorem records_attachCachedResponse (authorizationId : String)
    (cached : CachedUpstreamResponse) :
    (state.attachCachedResponse authorizationId cached).records = state.records := by
  apply map_bare_changeCommitted authorizationId
    fun entry => { entry with cachedResponse := some cached }
  intro entry
  rfl

/-! ### Reserving -/

/-- When a request may take a new reservation. -/
structure Reservable (state : ChannelState) (request : AuthorizationRequest) : Prop where
  unsealed : state.sealed = false
  unrequested : state.closeRequestedAt = none
  uncommitted : state.committedAuthorization request.authorizationId = none
  idle : state.pendingDeliveries = []
  steps : checkedAdd state.cumulative request.amount = some request.cumulative

theorem classifyAuthorization_ne_reserved {authorizationId requestFingerprint : String}
    {cumulative : ℕ} {now : ℤ} {outcome : BatchReservation}
    (hOutcome : state.classifyAuthorization authorizationId requestFingerprint cumulative now =
      some outcome) (token : ReservationToken) :
    outcome ≠ .reserved token := by
  simp only [classifyAuthorization] at hOutcome
  repeat' split at hOutcome
  all_goals
    simp only [Option.some.injEq, reduceCtorEq] at hOutcome
  all_goals
    subst hOutcome
    simp

theorem refuseReservation_ne_reserved {request : AuthorizationRequest}
    {refused : BatchReservation} (hRefused : state.refuseReservation request = some refused)
    (token : ReservationToken) :
    refused ≠ .reserved token := by
  simp only [refuseReservation] at hRefused
  split at hRefused
  · simp only [Option.some.injEq] at hRefused
    simp [← hRefused]
  · split at hRefused
    · rename_i outcome hOutcome
      simp only [Option.some.injEq] at hRefused
      subst hRefused
      exact classifyAuthorization_ne_reserved hOutcome token
    · repeat' split at hRefused
      all_goals
        simp only [Option.some.injEq, reduceCtorEq] at hRefused
      all_goals
        simp [← hRefused]

/-- Only an authorization with no record at all is reservable, and only while no
other authorization holds a reservation, however long its lease has been dead. -/
theorem reservable_of_not_refused {request : AuthorizationRequest}
    (hCleared : state.refuseReservation request = none) :
    state.Reservable request := by
  simp only [refuseReservation] at hCleared
  split at hCleared
  · simp at hCleared
  rename_i hOpen
  split at hCleared
  · simp at hCleared
  rename_i hUnclassified
  have hUncommitted : state.committedAuthorization request.authorizationId = none := by
    simp only [classifyAuthorization] at hUnclassified
    split at hUnclassified
    · split at hUnclassified <;> simp at hUnclassified
    · assumption
  have hNotPending : ∀ pending ∈ state.pendingDeliveries,
      pending.deliveryId ≠ request.authorizationId := by
    rw [← pendingIndex_eq_none]
    simp only [classifyAuthorization, hUncommitted] at hUnclassified
    split at hUnclassified
    · assumption
    · repeat' split at hUnclassified
      all_goals simp at hUnclassified
  split at hCleared
  · simp at hCleared
  rename_i hNoneAbandoned
  split at hCleared
  · simp at hCleared
  rename_i hNoneInProgress
  split at hCleared
  · simp at hCleared
  rename_i hSteps
  refine ⟨by simpa using (not_or.mp hOpen).1, by simpa using (not_or.mp hOpen).2, hUncommitted,
    ?_, by simpa using hSteps⟩
  -- A reservation is abandoned or in progress, whatever its lease says.
  apply List.eq_nil_iff_forall_not_mem.mpr
  intro pending hPending
  simp only [List.any_filter, List.any_eq_true, Bool.and_eq_true, decide_eq_true_eq, not_exists,
    not_and, not_or] at hNoneAbandoned hNoneInProgress
  have hOther := hNotPending pending hPending
  have hLive := hNoneInProgress pending hPending hOther
  apply hNoneAbandoned pending hPending hOther
  · simpa using hLive.1
  · exact not_lt.mp hLive.2

/-- The reservation a request takes. -/
def reservation (state : ChannelState) (request : AuthorizationRequest) : PendingDelivery :=
  { deliveryId := request.authorizationId
    amount := request.amount
    sequence := saturatingAdd state.nextDeliverySequence 1
    expiresAt := saturatingAddI64 request.now (asI64 request.lease)
    requestFingerprint := some request.requestFingerprint
    handlerSucceeded := false }

/-- The token a request is given for the reservation it takes. -/
def reservationToken (state : ChannelState) (request : AuthorizationRequest) : ReservationToken :=
  ⟨request.authorizationId, request.requestFingerprint, request.cumulative,
    saturatingAdd state.nextDeliverySequence 1⟩

/-- What taking a reservation leaves: the reservation under the next sequence
number, the committed records pruned, and everything that accounts for money as
it was. -/
structure TookReservation (state : ChannelState) (request : AuthorizationRequest)
    (after : ChannelState) : Prop where
  reservable : state.Reservable request
  pending : after.pendingDeliveries = [state.reservation request]
  sequence : after.nextDeliverySequence = saturatingAdd state.nextDeliverySequence 1
  committed : after.committedDeliveries = retained request.now state.committedDeliveries
  cumulative : after.cumulative = state.cumulative
  sealed : after.sealed = state.sealed
  finalCumulative : after.finalCumulative = state.finalCumulative

theorem tookReservation_takeReservation {request : AuthorizationRequest}
    {setup : Option PendingSetup} (hReservable : state.Reservable request) :
    TookReservation state request
      (({ state with pendingSetup := setup } : ChannelState).takeReservation request).2 where
  reservable := hReservable
  pending := by
    simp [takeReservation, pruneAuthorizations, hReservable.idle, reservation]
  sequence := rfl
  committed := rfl
  cumulative := rfl
  sealed := rfl
  finalCumulative := rfl

theorem reserveAuthorization_cases (state : ChannelState) (request : AuthorizationRequest) :
    ((state.reserveAuthorization request).2 = state ∧
        ∀ token, (state.reserveAuthorization request).1 ≠ .reserved token) ∨
      ((state.reserveAuthorization request).1 = .reserved (state.reservationToken request) ∧
        TookReservation state request (state.reserveAuthorization request).2) := by
  simp only [reserveAuthorization]
  split
  · rename_i refused hRefused
    exact .inl ⟨rfl, refuseReservation_ne_reserved hRefused⟩
  · rename_i hCleared
    exact .inr ⟨rfl, tookReservation_takeReservation (reservable_of_not_refused hCleared)⟩

theorem reserveAuthorizationStaged_cases (state : ChannelState) (request : AuthorizationRequest)
    (stage : ChannelState → Except StoreError (Option PendingSetup)) :
    ((state.reserveAuthorizationStaged request stage).2 = state ∧
        ∀ token, (state.reserveAuthorizationStaged request stage).1 ≠ .ok (.reserved token)) ∨
      ((state.reserveAuthorizationStaged request stage).1 =
          .ok (.reserved (state.reservationToken request)) ∧
        TookReservation state request (state.reserveAuthorizationStaged request stage).2) := by
  simp only [reserveAuthorizationStaged]
  split
  · rename_i refused hRefused
    refine .inl ⟨rfl, fun token hReserved => ?_⟩
    exact refuseReservation_ne_reserved hRefused token (by simpa using hReserved)
  · rename_i hCleared
    have hReservable := reservable_of_not_refused hCleared
    split
    · exact .inl ⟨rfl, by simp⟩
    · exact .inr ⟨rfl, tookReservation_takeReservation hReservable⟩
    · exact .inr ⟨rfl, tookReservation_takeReservation hReservable⟩

/-! ### The reservation of a token -/

/-- The entry at `index` is the reservation `token` was minted for, and no later
reservation was taken. -/
structure Owns (state : ChannelState) (token : ReservationToken)
    (index : Fin state.pendingDeliveries.length) : Prop where
  deliveryId : (state.pendingDeliveries.get index).deliveryId = token.authorizationId
  requestFingerprint :
    (state.pendingDeliveries.get index).requestFingerprint = some token.requestFingerprint
  sequence : (state.pendingDeliveries.get index).sequence = token.sequence
  current : state.nextDeliverySequence ≤ token.sequence

theorem ownedPendingIndex_eq_some {authorizationId requestFingerprint : String}
    {index : Fin state.pendingDeliveries.length}
    (hOwned : state.ownedPendingIndex authorizationId requestFingerprint = .ok (some index)) :
    (state.pendingDeliveries.get index).deliveryId = authorizationId ∧
      (state.pendingDeliveries.get index).requestFingerprint = some requestFingerprint := by
  simp only [ownedPendingIndex] at hOwned
  split at hOwned
  · cases hOwned
  · rename_i found hFound
    split at hOwned
    · cases hOwned
    · rename_i hSame
      cases hOwned
      exact ⟨deliveryId_of_pendingIndex hFound, by simpa using hSame⟩

theorem owns_of_tokenPendingIndex {token : ReservationToken}
    {index : Fin state.pendingDeliveries.length}
    (hIndex : state.tokenPendingIndex token = .ok index) :
    state.Owns token index := by
  simp only [tokenPendingIndex, bind, Except.bind] at hIndex
  split at hIndex
  · cases hIndex
  · rename_i owned hOwned
    split at hIndex
    · cases hIndex
    · rename_i found hFound
      rcases Option.filter_eq_some_iff.mp hFound with ⟨hSome, hSequence⟩
      subst hSome
      split at hIndex
      · cases hIndex
      · rename_i hCurrent
        cases hIndex
        rcases ownedPendingIndex_eq_some hOwned with ⟨hId, hFingerprint⟩
        refine ⟨hId, hFingerprint, by simpa using hSequence, ?_⟩
        simpa [isSuperseded] using hCurrent

theorem markAuthorizationHandlerSucceeded_cases (state : ChannelState)
    (token : ReservationToken) :
    (state.markAuthorizationHandlerSucceeded token).2 = state ∧
        ((state.markAuthorizationHandlerSucceeded token).1 = .ok () →
          (state.committedAuthorization token.authorizationId).isSome) ∨
      ∃ index, state.Owns token index ∧
        state.committedAuthorization token.authorizationId = none ∧
        (state.markAuthorizationHandlerSucceeded token).2 =
          { state with
            pendingDeliveries := state.pendingDeliveries.set index
              { state.pendingDeliveries.get index with handlerSucceeded := true } } := by
  simp only [markAuthorizationHandlerSucceeded]
  split
  · rename_i hCommitted
    exact .inl ⟨rfl, fun _ => hCommitted⟩
  · rename_i hUncommitted
    split
    · exact .inl ⟨rfl, by simp⟩
    · rename_i index hIndex
      refine .inr ⟨index, owns_of_tokenPendingIndex hIndex, ?_, rfl⟩
      simpa using hUncommitted

theorem releaseAuthorization_cases (state : ChannelState)
    (authorizationId requestFingerprint : String) :
    (state.releaseAuthorization authorizationId requestFingerprint).2 = state ∨
      ∃ index : Fin state.pendingDeliveries.length,
        (state.pendingDeliveries.get index).handlerSucceeded = false ∧
        (state.releaseAuthorization authorizationId requestFingerprint).2 =
          { state with pendingDeliveries := state.pendingDeliveries.eraseIdx index } := by
  simp only [releaseAuthorization]
  split
  · exact .inl rfl
  · exact .inl rfl
  · rename_i index hOwned
    split
    · exact .inl rfl
    · rename_i hUnserved
      exact .inr ⟨index, by simpa using hUnserved, rfl⟩

/-! ### Committing -/

section Commit

variable (state : ChannelState) (token : ReservationToken) (voucherSignature : String)
  (voucherExpiresAt now : ℤ) (response : ChannelState → Option Json)

/-- What a commit that charges leaves. -/
structure Charged (after : ChannelState) (index : Fin state.pendingDeliveries.length) : Prop where
  owns : state.Owns token index
  uncommitted : state.committedAuthorization token.authorizationId = none
  unsealed : state.sealed = false
  unfenced : state.finalCumulative = none
  steps : checkedAdd state.cumulative (state.pendingDeliveries.get index).amount =
    some token.cumulative
  pending : after.pendingDeliveries = state.pendingDeliveries.eraseIdx index
  sequence : after.nextDeliverySequence = state.nextDeliverySequence
  records : after.records =
    retained now (state.records ++ [state.commitRecord token voucherSignature voucherExpiresAt now])
  cumulative : after.cumulative = token.cumulative
  sealed : after.sealed = state.sealed
  finalCumulative : after.finalCumulative = state.finalCumulative

@[simp]
theorem bare_commitRecord :
    (state.commitRecord token voucherSignature voucherExpiresAt now).bare =
      state.commitRecord token voucherSignature voucherExpiresAt now :=
  rfl

theorem records_applyCommit (index : Fin state.pendingDeliveries.length) :
    (state.applyCommit token voucherSignature voucherExpiresAt now response index).records =
      retained now
        (state.records ++ [state.commitRecord token voucherSignature voucherExpiresAt now]) := by
  simp only [applyCommit, records_storeResponse, records_pruneAuthorizations]
  simp [records]

/-- A commit leaves the record as it was (it is refused, or the authorization was
committed by the same request) or charges the reservation its token owns. -/
theorem commitAuthorization_cases :
    let result := state.commitAuthorization token voucherSignature voucherExpiresAt now response
    result.2 = state ∧
        (result.1 = .ok () → ∃ entry,
          state.committedAuthorization token.authorizationId = some entry ∧
            entry.requestFingerprint = some token.requestFingerprint ∧
            entry.cumulative = token.cumulative) ∨
      result.1 = .ok () ∧ ∃ index,
        Charged state token voucherSignature voucherExpiresAt now result.2 index := by
  simp only [commitAuthorization]
  split
  · rename_i entry hEntry
    split
    · exact .inl ⟨rfl, by simp⟩
    · rename_i hSame
      rcases not_or.mp hSame with ⟨hFingerprint, hCumulative⟩
      exact .inl ⟨rfl, fun _ => ⟨entry, hEntry, not_not.mp hFingerprint, not_not.mp hCumulative⟩⟩
  rename_i hUncommitted
  split
  · exact .inl ⟨rfl, by simp⟩
  rename_i index hIndex
  split
  · exact .inl ⟨rfl, by simp⟩
  rename_i hUnsealed
  split
  · exact .inl ⟨rfl, by simp⟩
  rename_i hUnfenced
  split
  · exact .inl ⟨rfl, by simp⟩
  split
  · exact .inl ⟨rfl, by simp⟩
  rename_i hSteps
  refine .inr ⟨rfl, index, ?_⟩
  exact
    { owns := owns_of_tokenPendingIndex hIndex
      uncommitted := hUncommitted
      unsealed := by simpa using hUnsealed
      unfenced := hUnfenced
      steps := by simpa using hSteps
      pending := rfl
      sequence := rfl
      records := records_applyCommit ..
      cumulative := rfl
      sealed := rfl
      finalCumulative := rfl }

end Commit

/-! ### Fences and observations -/

theorem hasBlockingAuthorization_eq_false {now : ℤ} :
    state.hasBlockingAuthorization now = false ↔
      (∀ setup ∈ state.pendingSetup, setup.expiresAt ≤ now) ∧
        ∀ pending ∈ state.pendingDeliveries, pending.expiresAt ≤ now := by
  simp only [hasBlockingAuthorization, Bool.or_eq_false_iff, List.any_eq_false, decide_eq_true_eq,
    not_lt]
  cases state.pendingSetup <;> simp

/-- Two records with the same accounting, the second fenced at least as much. -/
structure SameAccounts (state after : ChannelState) : Prop where
  cumulative : after.cumulative = state.cumulative
  sequence : after.nextDeliverySequence = state.nextDeliverySequence
  pending : after.pendingDeliveries = state.pendingDeliveries
  records : after.records = state.records
  sealed : state.sealed → after.sealed
  finalCumulative : state.finalCumulative.isSome → after.finalCumulative.isSome

theorem SameAccounts.refl (state : ChannelState) : SameAccounts state state :=
  ⟨rfl, rfl, rfl, rfl, id, id⟩

theorem sameAccounts_applyObservedLifecycle (state : ChannelState)
    (lifecycle : ObservedLifecycle) :
    SameAccounts state (state.applyObservedLifecycle lifecycle) := by
  cases lifecycle with
  | opened => exact .refl state
  | closing startedAt => exact ⟨rfl, rfl, rfl, rfl, id, id⟩
  | terminal startedAt =>
      cases startedAt with
      | none => exact ⟨rfl, rfl, rfl, rfl, fun _ => rfl, id⟩
      | some startedAt => exact ⟨rfl, rfl, rfl, rfl, fun _ => rfl, id⟩

theorem sameAccounts_recordOnchainObservation (state : ChannelState)
    (observation : OnchainObservation) (now : ℕ) :
    SameAccounts state (state.recordOnchainObservation observation now).2 := by
  have hFenced := sameAccounts_applyObservedLifecycle state observation.lifecycle
  simp only [recordOnchainObservation]
  split
  · exact ⟨hFenced.1, hFenced.2, hFenced.3, hFenced.4, hFenced.5, hFenced.6⟩
  · split
    · exact hFenced
    · exact ⟨hFenced.1, hFenced.2, hFenced.3, hFenced.4, hFenced.5, hFenced.6⟩

end ChannelState

end PayKit.Channel
