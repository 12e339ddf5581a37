import PayKit.Channel.AuthorizationSpec

/-!
# Runs of the authorization operations

A channel record is only ever changed by its operations, one after another: the
stores make each of them one atomic transition. A run is a sequence of
operations with any requests, clock values and closures; the tokens that mark
and commit present are ones an earlier reservation returned, since nothing else
mints them.

`Performed.effect` says once what a step can do; the invariant of the delivery
lists, `ChannelState.Sound`, follows from it.
-/

namespace PayKit.Channel

open Encoding Machine Store

/-- One operation on a channel record. -/
inductive Operation where
  | reserveAuthorization (request : AuthorizationRequest)
  | reserveAuthorizationStaged (request : AuthorizationRequest)
      (stage : ChannelState → Except StoreError (Option PendingSetup))
  | markAuthorizationHandlerSucceeded (token : ReservationToken)
  | releaseAuthorization (authorizationId requestFingerprint : String)
  | commitAuthorization (token : ReservationToken) (voucherSignature : String)
      (voucherExpiresAt now : ℤ) (response : ChannelState → Option Json)
  | pruneAuthorizations (now : ℤ)
  | attachCachedResponse (authorizationId : String) (cached : CachedUpstreamResponse)
  | freezeWatermarkAt (cumulative : ℕ)
  | recordOnchainObservation (observation : OnchainObservation) (now : ℕ)
  | requestClose (startedAt : ℕ)
  | recordClose (closedAt : ℕ)
  | markSealed

inductive Outcome where
  | reservation (result : Except StoreError BatchReservation)
  | finished (result : Except StoreError Unit)
  | observed (outcome : ObservationOutcome)
  | nothing
deriving DecidableEq

/-- The token a reservation returned, if it returned one. -/
def Outcome.token : Outcome → Option ReservationToken
  | .reservation (.ok (.reserved token)) => some token
  | .reservation (.ok (.handlerSucceeded token)) => some token
  | _ => none

def Operation.apply (state : ChannelState) : Operation → Outcome × ChannelState
  | .reserveAuthorization request =>
      let result := state.reserveAuthorization request
      (.reservation (.ok result.1), result.2)
  | .reserveAuthorizationStaged request stage =>
      let result := state.reserveAuthorizationStaged request stage
      (.reservation result.1, result.2)
  | .markAuthorizationHandlerSucceeded token =>
      let result := state.markAuthorizationHandlerSucceeded token
      (.finished result.1, result.2)
  | .releaseAuthorization authorizationId requestFingerprint =>
      let result := state.releaseAuthorization authorizationId requestFingerprint
      (.finished result.1, result.2)
  | .commitAuthorization token voucherSignature voucherExpiresAt now response =>
      let result := state.commitAuthorization token voucherSignature voucherExpiresAt now response
      (.finished result.1, result.2)
  | .pruneAuthorizations now => (.nothing, state.pruneAuthorizations now)
  | .attachCachedResponse authorizationId cached =>
      (.nothing, state.attachCachedResponse authorizationId cached)
  | .freezeWatermarkAt cumulative => (.nothing, state.freezeWatermarkAt cumulative)
  | .recordOnchainObservation observation now =>
      let result := state.recordOnchainObservation observation now
      (.observed result.1, result.2)
  | .requestClose startedAt => (.nothing, state.requestClose startedAt)
  | .recordClose closedAt => (.nothing, state.recordClose closedAt)
  | .markSealed => (.nothing, state.markSealed)

/-- The token an operation presents. -/
def Operation.token : Operation → Option ReservationToken
  | .markAuthorizationHandlerSucceeded token => some token
  | .commitAuthorization token _ _ _ _ => some token
  | _ => none

def Operation.request : Operation → Option AuthorizationRequest
  | .reserveAuthorization request => some request
  | .reserveAuthorizationStaged request _ => some request
  | _ => none

/-- One step of a run: an operation and the record it found. -/
structure Performed where
  before : ChannelState
  operation : Operation

namespace Performed

def outcome (step : Performed) : Outcome :=
  (step.operation.apply step.before).1

def after (step : Performed) : ChannelState :=
  (step.operation.apply step.before).2

/-- The reservation this step took, with its token. -/
def taken (step : Performed) : Option (AuthorizationRequest × ReservationToken) :=
  match step.operation.request, step.outcome with
  | some request, .reservation (.ok (.reserved token)) => some (request, token)
  | _, _ => none

/-- The token this step charged: it is a commit that succeeded and did not find its
authorization committed already. -/
def charged (step : Performed) : Option ReservationToken :=
  match step.operation, step.outcome with
  | .commitAuthorization token _ _ _ _, .finished (.ok ()) =>
      if (step.before.committedAuthorization token.authorizationId).isNone then some token
      else none
  | _, _ => none

/-- The committed records that the pruning inside this step dropped. -/
def discarded (step : Performed) : List CommittedDelivery :=
  match step.operation with
  | .pruneAuthorizations now =>
      ChannelState.discarded now step.before.committedDeliveries
  | .commitAuthorization token voucherSignature voucherExpiresAt now _ =>
      if step.charged.isSome then
        ChannelState.discarded now (step.before.committedDeliveries ++
          [step.before.commitRecord token voucherSignature voucherExpiresAt now])
      else []
  | _ =>
      match step.taken with
      | some (request, _) =>
          ChannelState.discarded request.now step.before.committedDeliveries
      | none => []

end Performed

/-- A run from `start`, newest step first, and the record it ends in. -/
inductive Run (start : ChannelState) : List Performed → ChannelState → Prop where
  | start : Run start [] start
  | step {trace : List Performed} {state : ChannelState} {operation : Operation}
      (previous : Run start trace state)
      (hToken : ∀ token ∈ operation.token, ∃ earlier ∈ trace,
        earlier.outcome.token = some token) :
      Run start (⟨state, operation⟩ :: trace) (operation.apply state).2

/-- Everything a step can do to the accounts of a record. -/
inductive Performed.Effect (step : Performed) : Prop where
  | kept (accounts : step.before.SameAccounts step.after) (untaken : step.taken = none)
      (uncharged : step.charged = none)
  | pruned (now : ℤ) (after : step.after = step.before.pruneAuthorizations now)
      (discards : step.discarded = ChannelState.discarded now step.before.committedDeliveries)
      (untaken : step.taken = none) (uncharged : step.charged = none)
  | reserved (request : AuthorizationRequest)
      (taken : step.taken = some (request, step.before.reservationToken request))
      (uncharged : step.charged = none)
      (discards :
        step.discarded = ChannelState.discarded request.now step.before.committedDeliveries)
      (took : step.before.TookReservation request step.after)
  | marked (token : ReservationToken) (index : Fin step.before.pendingDeliveries.length)
      (after : step.after =
        { step.before with
          pendingDeliveries := step.before.pendingDeliveries.set index
            { step.before.pendingDeliveries.get index with handlerSucceeded := true } })
      (untaken : step.taken = none) (uncharged : step.charged = none)
  | released (index : Fin step.before.pendingDeliveries.length)
      (unserved : (step.before.pendingDeliveries.get index).handlerSucceeded = false)
      (after : step.after =
        { step.before with pendingDeliveries := step.before.pendingDeliveries.eraseIdx index })
      (untaken : step.taken = none) (uncharged : step.charged = none)
  | charged (token : ReservationToken) (voucherSignature : String) (voucherExpiresAt now : ℤ)
      (index : Fin step.before.pendingDeliveries.length)
      (untaken : step.taken = none) (charged : step.charged = some token)
      (discards : step.discarded =
        ChannelState.discarded now (step.before.committedDeliveries ++
          [step.before.commitRecord token voucherSignature voucherExpiresAt now]))
      (charge : ChannelState.Charged step.before token voucherSignature voucherExpiresAt now
        step.after index)

namespace Performed

variable {before : ChannelState}

theorem charged_eq_none_of_token {step : Performed} (hToken : step.operation.token = none) :
    step.charged = none := by
  rcases step with ⟨before, operation⟩
  cases operation <;> first | rfl | simp [Operation.token] at hToken

theorem discarded_of_taken {step : Performed} {request : AuthorizationRequest}
    {token : ReservationToken} (hTaken : step.taken = some (request, token)) :
    step.discarded =
      ChannelState.discarded request.now step.before.committedDeliveries := by
  rcases step with ⟨before, operation⟩
  cases operation with
  | reserveAuthorization request => simp only [discarded, hTaken]
  | reserveAuthorizationStaged request stage => simp only [discarded, hTaken]
  | _ => simp [taken, Operation.request] at hTaken

theorem effect_of_reservation {step : Performed} {request : AuthorizationRequest}
    {result : Except StoreError BatchReservation}
    (hRequest : step.operation.request = some request) (hToken : step.operation.token = none)
    (hOutcome : step.outcome = .reservation result)
    (hCases : (step.after = step.before ∧ ∀ token, result ≠ .ok (.reserved token)) ∨
      (result = .ok (.reserved (step.before.reservationToken request)) ∧
        step.before.TookReservation request step.after)) :
    step.Effect := by
  rcases hCases with ⟨hAfter, hRefused⟩ | ⟨hReserved, hTook⟩
  · refine .kept (by rw [hAfter]; exact .refl _) ?_ (charged_eq_none_of_token hToken)
    simp only [taken, hRequest, hOutcome]
    split
    · rename_i token _ hToken
      simp only [Outcome.reservation.injEq] at hToken
      exact absurd hToken (hRefused token)
    · rfl
  · have hTaken : step.taken = some (request, step.before.reservationToken request) := by
      simp only [taken, hRequest, hOutcome, hReserved]
    exact .reserved request hTaken (charged_eq_none_of_token hToken) (discarded_of_taken hTaken)
      hTook

theorem effect_commit (token : ReservationToken) (voucherSignature : String)
    (voucherExpiresAt now : ℤ) (response : ChannelState → Option Json) :
    Effect ⟨before,
      .commitAuthorization token voucherSignature voucherExpiresAt now response⟩ := by
  rcases ChannelState.commitAuthorization_cases before token voucherSignature voucherExpiresAt now
    response with ⟨hAfter, hFound⟩ | ⟨hOk, index, hCharged⟩
  · refine .kept ?_ rfl ?_
    · simp only [after, Operation.apply, hAfter]
      exact .refl before
    · simp only [charged, outcome, Operation.apply]
      split
      · rename_i hToken hOk
        cases hToken
        simp only [Outcome.finished.injEq] at hOk
        rcases hFound hOk with ⟨entry, hEntry, -, -⟩
        simp [hEntry]
      · rfl
  · have hCharges : charged ⟨before, .commitAuthorization token voucherSignature
        voucherExpiresAt now response⟩ = some token := by
      simp only [charged, outcome, Operation.apply, hOk, hCharged.uncommitted,
        Option.isNone_none, if_true]
    refine .charged token voucherSignature voucherExpiresAt now index rfl hCharges ?_ hCharged
    simp only [discarded, hCharges, Option.isSome_some, if_true]

theorem effect (step : Performed) : step.Effect := by
  rcases step with ⟨before, operation⟩
  cases operation with
  | reserveAuthorization request =>
      apply effect_of_reservation rfl rfl rfl
      simpa [after, Operation.apply] using before.reserveAuthorization_cases request
  | reserveAuthorizationStaged request stage =>
      apply effect_of_reservation rfl rfl rfl
      exact before.reserveAuthorizationStaged_cases request stage
  | markAuthorizationHandlerSucceeded token =>
      rcases before.markAuthorizationHandlerSucceeded_cases token with
        ⟨hAfter, -⟩ | ⟨index, -, -, hAfter⟩
      · refine .kept ?_ rfl rfl
        simp only [after, Operation.apply, hAfter]
        exact .refl before
      · exact .marked token index hAfter rfl rfl
  | releaseAuthorization authorizationId requestFingerprint =>
      rcases before.releaseAuthorization_cases authorizationId requestFingerprint with
        hAfter | ⟨index, hUnserved, hAfter⟩
      · refine .kept ?_ rfl rfl
        simp only [after, Operation.apply, hAfter]
        exact .refl before
      · exact .released index hUnserved hAfter rfl rfl
  | commitAuthorization token voucherSignature voucherExpiresAt now response =>
      exact effect_commit token voucherSignature voucherExpiresAt now response
  | pruneAuthorizations now => exact .pruned now rfl rfl rfl rfl
  | attachCachedResponse authorizationId cached =>
      exact .kept ⟨rfl, rfl, rfl, before.records_attachCachedResponse .., id, id⟩ rfl rfl
  | freezeWatermarkAt cumulative =>
      exact .kept ⟨rfl, rfl, rfl, rfl, id, fun _ => rfl⟩ rfl rfl
  | recordOnchainObservation observation now =>
      exact .kept (before.sameAccounts_recordOnchainObservation observation now) rfl rfl
  | requestClose startedAt => exact .kept ⟨rfl, rfl, rfl, rfl, id, id⟩ rfl rfl
  | recordClose closedAt => exact .kept ⟨rfl, rfl, rfl, rfl, id, id⟩ rfl rfl
  | markSealed => exact .kept ⟨rfl, rfl, rfl, rfl, fun _ => rfl, id⟩ rfl rfl

end Performed

/-! ## The records of one state -/

/-- What holds of the delivery lists between two operations. -/
structure ChannelState.Sound (state : ChannelState) : Prop where
  /-- At most one reservation stands, and it is the latest. -/
  alone : state.pendingDeliveries = [] ∨ ∃ pending, state.pendingDeliveries = [pending] ∧
    pending.sequence = state.nextDeliverySequence
  uncommitted : ∀ pending ∈ state.pendingDeliveries, ∀ record ∈ state.records,
    record.deliveryId ≠ pending.deliveryId
  below : ∀ record ∈ state.records, record.cumulative ≤ state.cumulative
  cumulativeOrdered : state.records.Pairwise fun older newer => older.cumulative ≤ newer.cumulative
  retentionOrdered :
    state.records.Pairwise fun older newer => older.retainUntil ≤ newer.retainUntil
  distinct : state.records.Pairwise fun older newer => older.deliveryId ≠ newer.deliveryId

namespace ChannelState.Sound

variable {state after : ChannelState}

theorem initial (hPending : state.pendingDeliveries = [])
    (hCommitted : state.committedDeliveries = []) : state.Sound where
  alone := .inl hPending
  uncommitted := by simp [hPending]
  below := by simp [records, hCommitted]
  cumulativeOrdered := by simp [records, hCommitted]
  retentionOrdered := by simp [records, hCommitted]
  distinct := by simp [records, hCommitted]

theorem only (hSound : state.Sound) (index : Fin state.pendingDeliveries.length) :
    state.pendingDeliveries = [state.pendingDeliveries.get index] ∧
      (state.pendingDeliveries.get index).sequence = state.nextDeliverySequence := by
  have hMem : ∀ list, state.pendingDeliveries = list → state.pendingDeliveries.get index ∈ list := by
    rintro list rfl
    exact List.getElem_mem index.isLt
  rcases hSound.alone with hNone | ⟨pending, hPending, hSequence⟩
  · simpa using hMem [] hNone
  · have hOnly : state.pendingDeliveries.get index = pending := by
      simpa using hMem [pending] hPending
    rw [hOnly]
    exact ⟨hPending, hSequence⟩

theorem index_eq_zero (hSound : state.Sound) (index : Fin state.pendingDeliveries.length) :
    (index : ℕ) = 0 := by
  have hLength := congrArg List.length (hSound.only index).1
  have hBound := index.isLt
  simp only [List.length_singleton] at hLength
  omega

theorem eraseIdx_eq_nil (hSound : state.Sound) (index : Fin state.pendingDeliveries.length) :
    state.pendingDeliveries.eraseIdx index = [] := by
  rw [hSound.index_eq_zero index, (hSound.only index).1]
  rfl

theorem set_eq_singleton (hSound : state.Sound) (index : Fin state.pendingDeliveries.length)
    (pending : PendingDelivery) :
    state.pendingDeliveries.set index pending = [pending] := by
  rw [hSound.index_eq_zero index, (hSound.only index).1]
  rfl

theorem of_records (hSound : state.Sound) (hSuffix : after.records <:+ state.records)
    (hCumulative : after.cumulative = state.cumulative)
    (hAlone : after.pendingDeliveries = [] ∨ ∃ pending, after.pendingDeliveries = [pending] ∧
      pending.sequence = after.nextDeliverySequence)
    (hUncommitted : ∀ pending ∈ after.pendingDeliveries, ∀ record ∈ state.records,
      record.deliveryId ≠ pending.deliveryId) : after.Sound where
  alone := hAlone
  uncommitted pending hPending record hRecord :=
    hUncommitted pending hPending record (hSuffix.subset hRecord)
  below record hRecord := by
    rw [hCumulative]
    exact hSound.below record (hSuffix.subset hRecord)
  cumulativeOrdered := hSound.cumulativeOrdered.sublist hSuffix.sublist
  retentionOrdered := hSound.retentionOrdered.sublist hSuffix.sublist
  distinct := hSound.distinct.sublist hSuffix.sublist

theorem reserved {request : AuthorizationRequest} (hSound : state.Sound)
    (hTook : state.TookReservation request after) : after.Sound := by
  have hRecords : after.records = retained request.now state.records := by
    simp only [records, hTook.committed, retained_map_bare]
  apply hSound.of_records (by rw [hRecords]; exact retained_suffix ..) hTook.cumulative
  · exact .inr ⟨_, hTook.pending, hTook.sequence.symm⟩
  · intro pending hPending
    simp only [hTook.pending, List.mem_singleton] at hPending
    subst hPending
    exact committedAuthorization_eq_none.mp hTook.reservable.uncommitted

theorem marked (hSound : state.Sound) (index : Fin state.pendingDeliveries.length) :
    ({ state with
      pendingDeliveries := state.pendingDeliveries.set index
        { state.pendingDeliveries.get index with handlerSucceeded := true } } : ChannelState).Sound := by
  refine hSound.of_records (List.suffix_refl _) rfl ?_ ?_
  · exact .inr ⟨_, hSound.set_eq_singleton index _, (hSound.only index).2⟩
  · intro pending hPending
    simp only [hSound.set_eq_singleton index, List.mem_singleton] at hPending
    subst hPending
    exact hSound.uncommitted (state.pendingDeliveries.get index) (List.get_mem _ index)

theorem released (hSound : state.Sound) (index : Fin state.pendingDeliveries.length) :
    ({ state with
      pendingDeliveries := state.pendingDeliveries.eraseIdx index } : ChannelState).Sound := by
  have hNone := hSound.eraseIdx_eq_nil index
  refine hSound.of_records (List.suffix_refl _) rfl ?_ ?_
  · exact .inl hNone
  · simp [hNone]

theorem retainUntil_le_commitRecord (hSound : state.Sound) (token : ReservationToken)
    (voucherSignature : String) (voucherExpiresAt now : ℤ) {record : CommittedDelivery}
    (hRecord : record ∈ state.records) :
    record.retainUntil ≤
      (state.commitRecord token voucherSignature voucherExpiresAt now).retainUntil := by
  rcases List.mem_map.mp hRecord with ⟨entry, hEntry, rfl⟩
  have hSome : state.committedDeliveries.getLast?.isSome := by
    simp [List.getLast?_isSome, List.ne_nil_of_mem hEntry]
  rcases Option.isSome_iff_exists.mp hSome with ⟨last, hLast⟩
  rcases List.getLast?_eq_some_iff.mp hLast with ⟨older, hSplit⟩
  have hLastRetained : entry.retainUntil ≤ last.retainUntil := by
    have hOrdered := hSound.retentionOrdered
    simp only [records, hSplit, List.map_append, List.pairwise_append] at hOrdered
    rw [hSplit, List.mem_append, List.mem_singleton] at hEntry
    rcases hEntry with hOlder | rfl
    · exact hOrdered.2.2 _ (List.mem_map_of_mem hOlder) last.bare (by simp)
    · exact le_rfl
  simp only [commitRecord, hLast, Option.map_some, Option.getD_some]
  exact hLastRetained.trans (le_max_right _ _)

theorem charged {token : ReservationToken} {voucherSignature : String}
    {voucherExpiresAt now : ℤ} {index : Fin state.pendingDeliveries.length}
    (hSound : state.Sound)
    (hCharged : Charged state token voucherSignature voucherExpiresAt now after index) :
    after.Sound := by
  have hSteps := add_eq_of_checkedAdd hCharged.steps
  have hSuffix := retained_suffix now
    (state.records ++ [state.commitRecord token voucherSignature voucherExpiresAt now])
  rw [← hCharged.records] at hSuffix
  have hNone : after.pendingDeliveries = [] := by
    rw [hCharged.pending, hSound.eraseIdx_eq_nil index]
  have hBelow : ∀ record ∈ state.records, record.cumulative ≤ token.cumulative := by
    intro record hRecord
    have hOld := hSound.below record hRecord
    omega
  constructor
  case alone => exact .inl hNone
  case uncommitted => simp [hNone]
  case below =>
    intro record hRecord
    rw [hCharged.cumulative]
    rcases List.mem_append.mp (hSuffix.subset hRecord) with hOld | hNew
    · exact hBelow record hOld
    · simp only [List.mem_singleton] at hNew
      rw [hNew]
      exact le_rfl
  case cumulativeOrdered =>
    apply List.Pairwise.sublist hSuffix.sublist
    simp only [List.pairwise_append, List.mem_singleton, forall_eq, List.pairwise_singleton,
      true_and]
    exact ⟨hSound.cumulativeOrdered, hBelow⟩
  case retentionOrdered =>
    apply List.Pairwise.sublist hSuffix.sublist
    simp only [List.pairwise_append, List.mem_singleton, forall_eq, List.pairwise_singleton,
      true_and]
    exact ⟨hSound.retentionOrdered, fun record hRecord =>
      hSound.retainUntil_le_commitRecord token voucherSignature voucherExpiresAt now hRecord⟩
  case distinct =>
    apply List.Pairwise.sublist hSuffix.sublist
    simp only [List.pairwise_append, List.mem_singleton, forall_eq, List.pairwise_singleton,
      true_and]
    exact ⟨hSound.distinct, committedAuthorization_eq_none.mp hCharged.uncommitted⟩

theorem step (performed : Performed) (hSound : performed.before.Sound) :
    performed.after.Sound := by
  cases performed.effect with
  | kept hAccounts hUntaken hUncharged =>
      apply hSound.of_records (by rw [hAccounts.records]) hAccounts.cumulative
      · rw [hAccounts.pending, hAccounts.sequence]
        exact hSound.alone
      · rw [hAccounts.pending]
        exact hSound.uncommitted
  | pruned now hAfter hDiscards hUntaken hUncharged =>
      rw [hAfter]
      refine hSound.of_records ?_ rfl hSound.alone hSound.uncommitted
      rw [records_pruneAuthorizations]
      exact retained_suffix ..
  | reserved request hTaken hUncharged hDiscards hTook => exact hSound.reserved hTook
  | marked token index hAfter hUntaken hUncharged =>
      rw [hAfter]
      exact hSound.marked index
  | released index hUnserved hAfter hUntaken hUncharged =>
      rw [hAfter]
      exact hSound.released index
  | charged token voucherSignature voucherExpiresAt now index hUntaken hToken hDiscards hCharged =>
      exact hSound.charged hCharged

end ChannelState.Sound

/-! ## Runs -/

namespace Run

variable {start state : ChannelState} {trace : List Performed}

theorem before {later earlier : List Performed} {step : Performed}
    (hRun : Run start trace state) (hTrace : trace = later ++ step :: earlier) :
    Run start earlier step.before := by
  induction hRun generalizing later with
  | start => simp at hTrace
  | step previous hToken ih =>
      cases later with
      | nil =>
          simp only [List.nil_append, List.cons.injEq] at hTrace
          rcases hTrace with ⟨rfl, rfl⟩
          exact previous
      | cons newest later =>
          simp only [List.cons_append, List.cons.injEq] at hTrace
          exact ih hTrace.2

theorem after_rel (relation : ChannelState → ChannelState → Prop)
    (hRefl : ∀ state, relation state state)
    (hStep : ∀ (origin : ChannelState) (step : Performed),
      relation origin step.before → relation origin step.after)
    {later earlier : List Performed} {step : Performed}
    (hRun : Run start trace state) (hTrace : trace = later ++ step :: earlier) :
    relation step.after state := by
  induction hRun generalizing later with
  | start => simp at hTrace
  | @step trace state operation previous hToken ih =>
      cases later with
      | nil =>
          simp only [List.nil_append, List.cons.injEq] at hTrace
          rcases hTrace with ⟨rfl, rfl⟩
          exact hRefl _
      | cons newest later =>
          simp only [List.cons_append, List.cons.injEq] at hTrace
          exact hStep step.after ⟨state, operation⟩ (ih hTrace.2)

theorem sound (hRun : Run start trace state) (hStart : start.Sound) : state.Sound := by
  induction hRun with
  | start => exact hStart
  | @step trace state operation previous hToken ih =>
      exact ChannelState.Sound.step ⟨state, operation⟩ ih

end Run

/-! ## Running a list of operations -/

/-- Run operations one after another, given newest first. -/
def perform (start : ChannelState) : List Operation → List Performed × ChannelState
  | [] => ([], start)
  | operation :: earlier =>
      let previous := perform start earlier
      (⟨previous.2, operation⟩ :: previous.1, (operation.apply previous.2).2)

/-- Every token presented was returned by an earlier operation. -/
def presentable (start : ChannelState) : List Operation → Bool
  | [] => true
  | operation :: earlier =>
      presentable start earlier &&
        operation.token.all fun token =>
          (perform start earlier).1.any fun step => step.outcome.token = some token

theorem run_perform {start : ChannelState} {operations : List Operation}
    (hTokens : presentable start operations) :
    Run start (perform start operations).1 (perform start operations).2 := by
  induction operations with
  | nil => exact .start
  | cons operation earlier ih =>
      simp only [presentable, Bool.and_eq_true, Option.all_eq_true, List.any_eq_true,
        decide_eq_true_eq] at hTokens
      exact .step (ih hTokens.1) hTokens.2

end PayKit.Channel
