import PayKit.BatchSettlement.CloseRuns
import PayKit.Solana.Pubkey

/-!
# Every update of a channel record

Besides what paid requests and closes do to it, the record of a channel follows the chain:
reads of the channel account, redemptions and the results of completed closes are
recorded on it. `RecordUpdate` is any of the store transitions of
`x402/server/batch_settlement.rs`.

A fence outlasts them all. Once a close has fenced a record on which no lease runs, it
charges nothing, reserves nothing, and no lease ever runs on it again.
-/

namespace PayKit.BatchSettlement

open Channel Control Encoding Machine Solana Store

/-! ### The channel account -/

def channelStatusOpen : ℕ := 0
def channelStatusClosing : ℕ := 2
def channelStatusDistributed : ℕ := 3

/-- A channel account as the chain holds it. -/
structure OnchainChannel extends ConfirmedChannel where
  status : ℕ
  closureStartedAt : ℤ
  payer : Pubkey
  payee : Pubkey
  rentPayer : Pubkey
  authorizedSigner : Pubkey
  mint : Pubkey
  distributionHash : List UInt8

/-- When a close of the channel started, if one did. -/
def OnchainChannel.startedAt (channel : OnchainChannel) (now : ℕ) : Option ℕ :=
  if channel.closureStartedAt ≠ 0 ∨ channel.status ≠ channelStatusOpen then
    some (max (closeTime channel.closureStartedAt now) 1)
  else none

def observedLifecycle (channel : OnchainChannel) (now : ℕ) : ObservedLifecycle :=
  if channel.status ≠ channelStatusOpen ∧ channel.status ≠ channelStatusClosing then
    .terminal (channel.startedAt now)
  else
    match channel.startedAt now with
    | some startedAt => .closing startedAt
    | none => .opened

/-! ### What the record keeps among its other fields -/

def sealedAtKey : String := "x402BatchSealedAt"
def receiverBindingKey : String := "x402BatchReceiverAuthorizer"
def cooperativeCloseKey : String := "x402BatchCooperativeClose"

/-- A cooperative close that was completed, as a retry of its refund gets it back. -/
structure CompletedClose where
  cumulative : ℕ
  transaction : String
  refunded : String
deriving DecidableEq

def CompletedClose.toJson (close : CompletedClose) : Json :=
  .object [("cumulative", .unsigned close.cumulative), ("transaction", .text close.transaction),
    ("refunded", .text close.refunded)]

def CompletedClose.ofJson (json : Json) : Option CompletedClose := do
  let cumulative ← (json.get? "cumulative").bind Json.asU64
  let transaction ← (json.get? "transaction").bind Json.asStr
  let refunded ← (json.get? "refunded").bind Json.asStr
  return ⟨cumulative, transaction, refunded⟩

def recordedCooperativeClose (state : ChannelState) : Option CompletedClose :=
  (state.extra.lookup cooperativeCloseKey).bind CompletedClose.ofJson

def recordedReceiverBinding (state : ChannelState) : Option String :=
  (state.extra.lookup receiverBindingKey).bind Json.asStr

/-- The first time at which the channel was seen sealed stays. -/
def sealAt (state : ChannelState) (now : ℕ) : ChannelState :=
  match state.extra.lookup sealedAtKey with
  | some _ => state
  | none => { state with extra := insertMember state.extra sealedAtKey (.unsigned now) }

/-! ### The updates -/

/-- `upsert_channel`, on a record that exists. -/
def upsertChannel (onchain : OnchainChannel) (depositSignature : Option String) (now : ℕ)
    (state : ChannelState) : ChannelState :=
  { state with
    deposit := max state.deposit onchain.deposit
    settledOnChain := max state.settledOnChain onchain.settled
    distributedOnChain := max state.distributedOnChain onchain.payoutWatermark
    lastActivityAt := now
    processedTopupSignatures :=
      match depositSignature with
      | none => state.processedTopupSignatures
      | some signature =>
          if signature ∈ state.processedTopupSignatures then state.processedTopupSignatures
          else state.processedTopupSignatures ++ [signature] }

/-- The store transition of `reconcile_channel`. -/
def reconcileWith (onchain : OnchainChannel) (slot now : ℕ) (state : ChannelState) :
    ChannelState :=
  ({ state with
    deposit := max state.deposit onchain.deposit
    settledOnChain := max state.settledOnChain onchain.settled
    distributedOnChain := max state.distributedOnChain onchain.payoutWatermark
    : ChannelState }.recordOnchainObservation ⟨some slot, observedLifecycle onchain now⟩ now).2

/-- The store transition of `record_close`, at a close time. -/
def recordClose (closedAt now : ℕ) (state : ChannelState) : ChannelState :=
  { state.recordClose closedAt with lastActivityAt := now }

/-- `record_cooperative_close`, with the seal that it completes. -/
def recordCooperativeClose (completed : CompletedClose) (now : ℕ) (state : ChannelState) :
    ChannelState :=
  { state with
    sealed := true
    settledOnChain := max state.settledOnChain completed.cumulative
    lastActivityAt := now
    extra := insertMember state.extra cooperativeCloseKey completed.toJson }

/-- What a confirmed claim or payout records. -/
def recordRedemption (settled : ℕ) (distributed : Option ℕ) (now : ℕ) (state : ChannelState) :
    ChannelState :=
  { state with
    settledOnChain := max state.settledOnChain settled
    distributedOnChain := max state.distributedOnChain (distributed.getD 0)
    onchainCheckedAt := now
    lastActivityAt := now }

/-- What `finalize_close` records of a seal that landed. -/
def recordFinalized (applied : Option ℕ) (now : ℕ) (state : ChannelState) : ChannelState :=
  { sealAt { state with sealed := true } now with
    settledOnChain := max state.settledOnChain (applied.getD 0)
    lastActivityAt := now }

/-- The store transition of `complete_binding`. -/
def completeBinding (deployment : Deployment) (gracePeriod : ℕ) (state : ChannelState) :
    Except StoreError Unit × ChannelState :=
  match state.checkBinding deployment.readBinding deployment.binding with
  | .error error => (.error error, state)
  | .ok () =>
      match state.adoptBinding deployment.readBinding deployment.binding with
      | .error error => (.error error, state)
      | .ok adopted => (.ok (), adopted.setGracePeriod gracePeriod)

/-- A store transition on a channel's record. -/
inductive RecordUpdate where
  | request (transition : Transition)
  | reconcile (onchain : OnchainChannel) (slot now : ℕ)
  | completeBinding (gracePeriod : ℕ)
  | upsertChannel (onchain : OnchainChannel) (depositSignature : Option String) (now : ℕ)
  | recordClose (closedAt now : ℕ)
  | recordCooperativeClose (completed : CompletedClose) (now : ℕ)
  | recordSettled (settled : ℕ)
  | recordRedemption (settled : ℕ) (distributed : Option ℕ) (now : ℕ)
  | recordFinalized (applied : Option ℕ) (now : ℕ)
  | firstSealedAt (now : ℕ)

namespace RecordUpdate

variable (deployment : Deployment) (inPlace : Bool) (state : ChannelState)

/-- What the update answers, and the record it leaves. -/
def result : RecordUpdate → Except StoreError Unit × ChannelState
  | .request transition =>
      let step : CloseStep := ⟨state, transition⟩
      match step.answer deployment with
      | .reservation result => (result.map fun _ => (), step.after deployment inPlace)
      | .finished result => (result, step.after deployment inPlace)
      | .plan _ => (.ok (), step.after deployment inPlace)
  | .reconcile onchain slot now => (.ok (), reconcileWith onchain slot now state)
  | .completeBinding gracePeriod => BatchSettlement.completeBinding deployment gracePeriod state
  | .upsertChannel onchain depositSignature now =>
      (.ok (), BatchSettlement.upsertChannel onchain depositSignature now state)
  | .recordClose closedAt now => (.ok (), BatchSettlement.recordClose closedAt now state)
  | .recordCooperativeClose completed now =>
      (.ok (), BatchSettlement.recordCooperativeClose completed now state)
  | .recordSettled settled =>
      (.ok (), { state with settledOnChain := max state.settledOnChain settled })
  | .recordRedemption settled distributed now =>
      (.ok (), BatchSettlement.recordRedemption settled distributed now state)
  | .recordFinalized applied now => (.ok (), BatchSettlement.recordFinalized applied now state)
  | .firstSealedAt now => (.ok (), sealAt state now)

/-- The record that the update leaves. -/
def after (update : RecordUpdate) : ChannelState :=
  (update.result deployment inPlace state).2

end RecordUpdate

/-! ### A fence that found no lease running -/

/-- A close fenced the record at `cumulative`, and no lease on it outlasts `now`. -/
structure Fenced (cumulative : ℕ) (now : ℤ) (state : ChannelState) : Prop where
  cumulative : state.cumulative = cumulative
  closing : state.closeRequestedAt.isSome
  final : state.finalCumulative.isSome
  idle : state.hasBlockingAuthorization now = false

/-- Two records with the same reservations, the second fenced at least as much. -/
structure SameWork (state after : ChannelState) : Prop where
  cumulative : after.cumulative = state.cumulative
  pendingDeliveries : after.pendingDeliveries = state.pendingDeliveries
  pendingSetup : after.pendingSetup = state.pendingSetup
  closing : state.closeRequestedAt.isSome → after.closeRequestedAt.isSome
  final : after.finalCumulative = state.finalCumulative

section

variable {deployment : Deployment} {inPlace : Bool} {state after : ChannelState}
  {cumulative : ℕ} {now : ℤ}

theorem SameWork.refl : SameWork state state :=
  ⟨rfl, rfl, rfl, id, rfl⟩

theorem SameWork.fenced (hSame : SameWork state after) (hFenced : Fenced cumulative now state) :
    Fenced cumulative now after where
  cumulative := hSame.cumulative.trans hFenced.cumulative
  closing := hSame.closing hFenced.closing
  final := by
    rw [hSame.final]
    exact hFenced.final
  idle := by
    simp only [ChannelState.hasBlockingAuthorization, hSame.pendingDeliveries, hSame.pendingSetup]
    exact hFenced.idle

theorem applyObservedLifecycle_sameWork (lifecycle : ObservedLifecycle) :
    SameWork state (state.applyObservedLifecycle lifecycle) := by
  cases lifecycle with
  | opened => exact .refl
  | closing startedAt => exact ⟨rfl, rfl, rfl, fun _ => rfl, rfl⟩
  | terminal startedAt =>
      cases startedAt with
      | none => exact ⟨rfl, rfl, rfl, id, rfl⟩
      | some startedAt => exact ⟨rfl, rfl, rfl, fun _ => rfl, rfl⟩

theorem SameWork.trans {later : ChannelState} (hFirst : SameWork state after)
    (hSecond : SameWork after later) : SameWork state later :=
  ⟨hSecond.cumulative.trans hFirst.cumulative,
    hSecond.pendingDeliveries.trans hFirst.pendingDeliveries,
    hSecond.pendingSetup.trans hFirst.pendingSetup,
    fun hClosing => hSecond.closing (hFirst.closing hClosing),
    hSecond.final.trans hFirst.final⟩

theorem recordOnchainObservation_sameWork (observation : OnchainObservation) (checkedAt : ℕ) :
    SameWork state (state.recordOnchainObservation observation checkedAt).2 := by
  have hFenced := @applyObservedLifecycle_sameWork state observation.lifecycle
  simp only [ChannelState.recordOnchainObservation]
  split
  · exact hFenced.trans ⟨rfl, rfl, rfl, id, rfl⟩
  · split
    · exact hFenced
    · exact hFenced.trans ⟨rfl, rfl, rfl, id, rfl⟩

theorem completeBinding_sameWork {gracePeriod : ℕ} :
    SameWork state (completeBinding deployment gracePeriod state).2 := by
  simp only [completeBinding]
  split
  · exact .refl
  split
  · exact .refl
  · rename_i adopted hAdopted
    simp only [ChannelState.adoptBinding, bind_eq_ok] at hAdopted
    rcases hAdopted with ⟨recorded, -, hAdopted⟩
    split at hAdopted
    · cases hAdopted
      exact ⟨rfl, rfl, rfl, id, rfl⟩
    · cases hAdopted
      exact ⟨rfl, rfl, rfl, id, rfl⟩

theorem sealAt_sameWork {time : ℕ} : SameWork state (sealAt state time) := by
  simp only [sealAt]
  split
  · exact .refl
  · exact ⟨rfl, rfl, rfl, id, rfl⟩

theorem markHandlerSucceeded_idle {token : ReservationToken}
    (hIdle : state.hasBlockingAuthorization now = false) :
    (state.markAuthorizationHandlerSucceeded token).2.hasBlockingAuthorization now = false := by
  rcases state.markAuthorizationHandlerSucceeded_cases token with
    ⟨hSame, -⟩ | ⟨index, -, -, hMarked⟩
  · rw [hSame]
    exact hIdle
  · rw [hMarked]
    rw [ChannelState.hasBlockingAuthorization_eq_false] at hIdle ⊢
    refine ⟨hIdle.1, ?_⟩
    intro pending hPending
    rcases List.mem_or_eq_of_mem_set hPending with hOld | hMark
    · exact hIdle.2 pending hOld
    · rw [hMark]
      exact hIdle.2 (state.pendingDeliveries.get index) (List.get_mem _ index)

theorem releaseRequest_idle {authorizationId requestFingerprint : String}
    {depositSignature : Option String} (hIdle : state.hasBlockingAuthorization now = false) :
    (releaseRequest authorizationId requestFingerprint
      depositSignature state).2.hasBlockingAuthorization now = false := by
  have hReleased : (state.releaseAuthorization authorizationId
      requestFingerprint).2.hasBlockingAuthorization now = false := by
    rcases state.releaseAuthorization_cases authorizationId requestFingerprint with
      hSame | ⟨index, -, hRemoved⟩
    · rw [hSame]
      exact hIdle
    · rw [hRemoved]
      rw [ChannelState.hasBlockingAuthorization_eq_false] at hIdle ⊢
      exact ⟨hIdle.1, fun pending hPending => hIdle.2 pending (List.mem_of_mem_eraseIdx hPending)⟩
  simp only [releaseRequest]
  split
  · exact hIdle
  · rename_i released hCase
    rw [hCase] at hReleased
    split
    · rw [ChannelState.hasBlockingAuthorization_eq_false] at hReleased ⊢
      exact ⟨by simp, hReleased.2⟩
    · exact hReleased

theorem finishCommit_idle {commit : Commit} (hFinal : state.finalCumulative.isSome)
    (hIdle : state.hasBlockingAuthorization now = false) :
    (finishCommit deployment commit state).2.hasBlockingAuthorization now = false := by
  have hConfirmed : ∀ confirmed : ChannelState, confirmed.finalCumulative.isSome →
      confirmed.hasBlockingAuthorization now = false →
      (match confirmed.checkBindingComplete deployment.readBinding deployment.binding with
        | .error error => ((.error error : Except StoreError Unit), confirmed)
        | .ok () => { confirmed with
            lastActivityAt := (max commit.now 0).toNat }.commitAuthorization commit.token
              commit.voucherSignature commit.voucherExpiresAt commit.now
              commit.response).2.hasBlockingAuthorization now = false := by
    intro confirmed hStillFinal hStillIdle
    split
    · exact hStillIdle
    · rcases @commitAuthorization_fence
          { confirmed with lastActivityAt := (max commit.now 0).toNat } commit.token
          commit.voucherSignature commit.voucherExpiresAt commit.now commit.response with
        ⟨hKept, -⟩ | ⟨-, -, hCharges⟩
      · rw [hKept]
        exact hStillIdle
      · rw [hCharges.unfenced] at hStillFinal
        cases hStillFinal
  cases hCase : commit.confirmed with
  | none =>
      simp only [finishCommit, hCase]
      exact hConfirmed state hFinal hIdle
  | some channel =>
      simp only [finishCommit, hCase]
      apply hConfirmed
      · exact hFinal
      · rw [ChannelState.hasBlockingAuthorization_eq_false] at hIdle ⊢
        exact ⟨by simp [recordConfirmedSetup], hIdle.2⟩

theorem CloseStep.result_idle {step : CloseStep} (hFenced : Fenced cumulative now step.before) :
    (step.result deployment).2.hasBlockingAuthorization now = false := by
  rcases step with ⟨before, transition⟩
  cases transition with
  | reserve request setup =>
      rcases before.reserveAuthorizationStaged_cases request (stageSetup deployment setup) with
        ⟨hSame, -⟩ | ⟨-, hTook⟩
      · simp only [result, hSame]
        exact hFenced.idle
      · have hClosing := hFenced.closing
        rw [hTook.reservable.unrequested] at hClosing
        cases hClosing
  | markHandlerSucceeded token => exact markHandlerSucceeded_idle hFenced.idle
  | finishCommit commit => exact finishCommit_idle hFenced.final hFenced.idle
  | release authorizationId requestFingerprint depositSignature =>
      exact releaseRequest_idle hFenced.idle
  | planClose closureStartedAt clock onchainSettled pastDeadline time =>
      simp only [result, planClose]
      split <;> exact hFenced.idle
  | cooperativeClose voucherSignature amount time =>
      rcases @fenceCooperativeClose_cases before amount time voucherSignature with
        ⟨hSame, -⟩ | ⟨-, hCloses, -⟩
      · simp only [result, hSame]
        exact hFenced.idle
      · simp only [result, fenceCooperativeClose]
        split
        · exact hFenced.idle
        split
        · exact hFenced.idle
        split
        · split <;> exact hFenced.idle
        · exact hFenced.idle

theorem CloseStep.after_fenced {step : CloseStep} (hFenced : Fenced cumulative now step.before) :
    Fenced cumulative now (step.after deployment inPlace) where
  cumulative := (after_of_fenced hFenced.final).2.1.trans hFenced.cumulative
  closing := after_of_closing hFenced.closing
  final := (after_of_fenced hFenced.final).1
  idle := by
    simp only [after]
    split
    · split
      · exact result_idle hFenced
      · exact hFenced.idle
    · exact result_idle hFenced

theorem RecordUpdate.after_sameWork {update : RecordUpdate}
    (hOther : ∀ transition, update ≠ .request transition) :
    SameWork state (update.after deployment inPlace state) := by
  cases update with
  | request transition => exact absurd rfl (hOther transition)
  | reconcile onchain slot time =>
      refine SameWork.trans ?_ (recordOnchainObservation_sameWork _ _)
      exact ⟨rfl, rfl, rfl, id, rfl⟩
  | completeBinding gracePeriod => exact completeBinding_sameWork
  | upsertChannel onchain depositSignature time => exact ⟨rfl, rfl, rfl, id, rfl⟩
  | recordClose closedAt time => exact ⟨rfl, rfl, rfl, fun _ => rfl, rfl⟩
  | recordCooperativeClose completed time => exact ⟨rfl, rfl, rfl, id, rfl⟩
  | recordSettled settled => exact ⟨rfl, rfl, rfl, id, rfl⟩
  | recordRedemption settled distributed time => exact ⟨rfl, rfl, rfl, id, rfl⟩
  | recordFinalized applied time =>
      have hSealed := @sealAt_sameWork { state with sealed := true } time
      exact ⟨hSealed.cumulative, hSealed.pendingDeliveries, hSealed.pendingSetup, hSealed.closing,
        hSealed.final⟩
  | firstSealedAt time => exact sealAt_sameWork

theorem RecordUpdate.after_fenced {update : RecordUpdate} (hFenced : Fenced cumulative now state) :
    Fenced cumulative now (update.after deployment inPlace state) := by
  by_cases hRequest : ∃ transition, update = .request transition
  · rcases hRequest with ⟨transition, rfl⟩
    have hAfter : (RecordUpdate.request transition).after deployment inPlace state =
        CloseStep.after deployment inPlace ⟨state, transition⟩ := by
      simp only [after, result]
      split <;> rfl
    rw [hAfter]
    exact @CloseStep.after_fenced deployment inPlace cumulative now ⟨state, transition⟩ hFenced
  · exact (after_sameWork fun transition hSame => hRequest ⟨transition, hSame⟩).fenced hFenced

end

/-! ### The saved close -/

section

variable {deployment : Deployment} {inPlace : Bool} {state : ChannelState}

@[simp]
theorem CompletedClose.ofJson_toJson (close : CompletedClose) :
    CompletedClose.ofJson close.toJson = some close := by
  rfl

/-- Two records with the same saved close. -/
def SameSavedClose (state after : ChannelState) : Prop :=
  after.extra.lookup cooperativeCloseKey = state.extra.lookup cooperativeCloseKey

theorem applyObservedLifecycle_extra (lifecycle : ObservedLifecycle) :
    (state.applyObservedLifecycle lifecycle).extra = state.extra := by
  cases lifecycle with
  | opened => rfl
  | closing startedAt => rfl
  | terminal startedAt => cases startedAt <;> rfl

theorem recordOnchainObservation_sameSavedClose (observation : OnchainObservation)
    (checkedAt : ℕ) :
    SameSavedClose state (state.recordOnchainObservation observation checkedAt).2 := by
  have hExtra := @applyObservedLifecycle_extra state observation.lifecycle
  have hSlot : cooperativeCloseKey ≠ onchainObservedSlotKey := by decide
  have hTime : cooperativeCloseKey ≠ onchainObservedAtKey := by decide
  simp only [ChannelState.recordOnchainObservation]
  split
  · refine Eq.trans (lookup_insertMember_of_ne hTime) ?_
    rw [hExtra]
  · split
    · simp only [SameSavedClose, hExtra]
    · refine Eq.trans (lookup_insertMember_of_ne hTime) ?_
      rw [lookup_insertMember_of_ne hSlot, hExtra]

theorem commitAuthorization_extra {token : ReservationToken} {voucherSignature : String}
    {voucherExpiresAt now : ℤ} {response : ChannelState → Option Json} :
    (state.commitAuthorization token voucherSignature voucherExpiresAt now response).2.extra =
      state.extra := by
  simp only [ChannelState.commitAuthorization]
  repeat' split
  all_goals rfl

theorem releaseRequest_extra {authorizationId requestFingerprint : String}
    {depositSignature : Option String} :
    (releaseRequest authorizationId requestFingerprint depositSignature state).2.extra =
      state.extra := by
  have hReleased : (state.releaseAuthorization authorizationId requestFingerprint).2.extra =
      state.extra := by
    rcases state.releaseAuthorization_cases authorizationId requestFingerprint with
      hSame | ⟨index, -, hRemoved⟩
    · rw [hSame]
    · rw [hRemoved]
  simp only [releaseRequest]
  split
  · rfl
  · rename_i released hCase
    rw [hCase] at hReleased
    split <;> exact hReleased

theorem finishCommit_sameSavedClose {commit : Commit} :
    SameSavedClose state (finishCommit deployment commit state).2 := by
  have hConfirmed : ∀ confirmed : ChannelState, SameSavedClose state confirmed →
      SameSavedClose state
        (match confirmed.checkBindingComplete deployment.readBinding deployment.binding with
          | .error error => ((.error error : Except StoreError Unit), confirmed)
          | .ok () => { confirmed with
              lastActivityAt := (max commit.now 0).toNat }.commitAuthorization commit.token
                commit.voucherSignature commit.voucherExpiresAt commit.now commit.response).2 := by
    intro confirmed hSame
    split
    · exact hSame
    · simp only [SameSavedClose, commitAuthorization_extra]
      exact hSame
  cases hCase : commit.confirmed with
  | none =>
      simp only [finishCommit, hCase]
      exact hConfirmed state rfl
  | some channel =>
      simp only [finishCommit, hCase]
      apply hConfirmed
      have hGrace : cooperativeCloseKey ≠ gracePeriodKey := by decide
      refine Eq.trans (recordOnchainObservation_sameSavedClose _ _) ?_
      exact lookup_insertMember_of_ne hGrace

theorem CloseStep.after_sameSavedClose {step : CloseStep} :
    SameSavedClose step.before (step.after deployment inPlace) := by
  have hResult : SameSavedClose step.before (step.result deployment).2 := by
    rcases step with ⟨before, transition⟩
    cases transition with
    | reserve request setup =>
        simp only [result, ChannelState.reserveAuthorizationStaged]
        repeat' split
        all_goals rfl
    | markHandlerSucceeded token =>
        simp only [result, ChannelState.markAuthorizationHandlerSucceeded]
        repeat' split
        all_goals rfl
    | finishCommit commit => exact finishCommit_sameSavedClose
    | release authorizationId requestFingerprint depositSignature =>
        simp only [result, SameSavedClose, releaseRequest_extra]
    | planClose closureStartedAt clock onchainSettled pastDeadline time =>
        simp only [result, planClose]
        split <;> rfl
    | cooperativeClose voucherSignature amount time =>
        simp only [result, fenceCooperativeClose]
        repeat' split
        all_goals rfl
  simp only [after]
  split
  · split
    · exact hResult
    · rfl
  · exact hResult

theorem RecordUpdate.recordedCooperativeClose_after {update : RecordUpdate} :
    recordedCooperativeClose (update.after deployment inPlace state) =
      match update with
      | .recordCooperativeClose completed _ => some completed
      | _ => recordedCooperativeClose state := by
  have hSaved : ∀ after : ChannelState, SameSavedClose state after →
      recordedCooperativeClose after = recordedCooperativeClose state := by
    intro after hSame
    simp only [recordedCooperativeClose]
    rw [hSame]
  have hBinding : cooperativeCloseKey ≠ channelBindingKey := by decide
  have hGrace : cooperativeCloseKey ≠ gracePeriodKey := by decide
  have hSealedAt : cooperativeCloseKey ≠ sealedAtKey := by decide
  cases update with
  | request transition =>
      have hAfter : (RecordUpdate.request transition).after deployment inPlace state =
          CloseStep.after deployment inPlace ⟨state, transition⟩ := by
        simp only [after, result]
        split <;> rfl
      rw [hAfter]
      exact hSaved _ (@CloseStep.after_sameSavedClose deployment inPlace ⟨state, transition⟩)
  | reconcile onchain slot time => exact hSaved _ (recordOnchainObservation_sameSavedClose _ _)
  | completeBinding gracePeriod =>
      apply hSaved
      simp only [after, result, BatchSettlement.completeBinding]
      split
      · rfl
      split
      · rfl
      · rename_i adopted hAdopted
        simp only [ChannelState.adoptBinding, bind_eq_ok] at hAdopted
        rcases hAdopted with ⟨recorded, -, hAdopted⟩
        refine Eq.trans (lookup_insertMember_of_ne hGrace) ?_
        split at hAdopted
        · cases hAdopted
          rfl
        · cases hAdopted
          exact lookup_insertMember_of_ne hBinding
  | upsertChannel onchain depositSignature time => exact hSaved _ rfl
  | recordClose closedAt time => exact hSaved _ rfl
  | recordCooperativeClose completed time =>
      simp [after, result, recordedCooperativeClose, BatchSettlement.recordCooperativeClose]
  | recordSettled settled => exact hSaved _ rfl
  | recordRedemption settled distributed time => exact hSaved _ rfl
  | recordFinalized applied time =>
      apply hSaved
      simp only [after, result, BatchSettlement.recordFinalized, sealAt, SameSavedClose]
      split
      · rfl
      · exact lookup_insertMember_of_ne hSealedAt
  | firstSealedAt time =>
      apply hSaved
      simp only [after, result, sealAt]
      split
      · rfl
      · exact lookup_insertMember_of_ne hSealedAt

end

end PayKit.BatchSettlement
