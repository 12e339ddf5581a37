import PayKit.Channel.AuthorizationAccounting

/-!
# No paid authorization is served twice

What was paid is not reserved again: while a committed record is retained it
answers its authorization, and once it has been evicted the watermark refuses the
voucher behind it. What a handler has served is not handed out again either, until
its record is pruned, provided that `mark_authorization_handler_succeeded` was not
asked to mark a request whose authorization another request had committed: it
reports success without looking whose record it found.
-/

namespace PayKit.Channel

open Encoding Machine Store

/-- An outcome of the authorization is on record for this request: its handler
succeeded, or it was committed. -/
def ChannelState.Served (state : ChannelState) (authorizationId requestFingerprint : String) :
    Prop :=
  (∃ pending ∈ state.pendingDeliveries, pending.deliveryId = authorizationId ∧
      pending.requestFingerprint = some requestFingerprint ∧ pending.handlerSucceeded = true) ∨
    ∃ record ∈ state.records, record.deliveryId = authorizationId ∧
      record.requestFingerprint = some requestFingerprint

namespace ChannelState

variable {state after : ChannelState} {authorizationId requestFingerprint : String}

theorem mem_retained_of_not_discarded {now : ℤ} {committed : List CommittedDelivery}
    (hKept : ∀ entry ∈ discarded now committed, entry.deliveryId ≠ authorizationId)
    {record : CommittedDelivery} (hRecord : record ∈ committed.map CommittedDelivery.bare)
    (hId : record.deliveryId = authorizationId) :
    record ∈ retained now (committed.map CommittedDelivery.bare) := by
  rw [← discarded_append_retained now committed, List.map_append, retained_map_bare] at hRecord
  rcases List.mem_append.mp hRecord with hDropped | hRetained
  · rcases List.mem_map.mp hDropped with ⟨entry, hEntry, rfl⟩
    exact absurd hId (hKept entry hEntry)
  · exact hRetained

theorem Served.of_records (hServed : state.Served authorizationId requestFingerprint)
    (hPending : after.pendingDeliveries = state.pendingDeliveries)
    (hRecords : ∀ record ∈ state.records, record.deliveryId = authorizationId →
      record ∈ after.records) :
    after.Served authorizationId requestFingerprint := by
  rcases hServed with hPendingServed | ⟨record, hRecord, hId, hFingerprint⟩
  · left
    rw [hPending]
    exact hPendingServed
  · exact .inr ⟨record, hRecords record hRecord hId, hId, hFingerprint⟩

theorem Served.step (step : Performed)
    (hServed : step.before.Served authorizationId requestFingerprint)
    (hSound : step.before.Sound)
    (hKept : ∀ entry ∈ step.discarded, entry.deliveryId ≠ authorizationId) :
    step.after.Served authorizationId requestFingerprint := by
  cases step.effect with
  | kept hAccounts hUntaken hUncharged =>
      apply hServed.of_records hAccounts.pending
      rw [hAccounts.records]
      exact fun record hRecord _ => hRecord
  | pruned now hAfter hDiscards hUntaken hUncharged =>
      rw [hDiscards] at hKept
      apply hServed.of_records (by rw [hAfter]; rfl)
      intro record hRecord hId
      rw [hAfter, records_pruneAuthorizations]
      exact mem_retained_of_not_discarded hKept hRecord hId
  | reserved request hTaken hUncharged hDiscards hTook =>
      rw [hDiscards] at hKept
      rcases hServed with ⟨pending, hPending, -⟩ | ⟨record, hRecord, hId, hFingerprint⟩
      · simp [hTook.reservable.idle] at hPending
      · refine .inr ⟨record, ?_, hId, hFingerprint⟩
        rw [records, hTook.committed, retained_map_bare]
        exact mem_retained_of_not_discarded hKept hRecord hId
  | marked token index hAfter hUntaken hUncharged =>
      rw [hAfter]
      rcases hServed with ⟨pending, hPending, hId, hFingerprint, hSucceeded⟩ | hCommitted
      · rw [(hSound.only index).1, List.mem_singleton] at hPending
        subst hPending
        refine .inl ⟨{ step.before.pendingDeliveries.get index with handlerSucceeded := true }, ?_,
          hId, hFingerprint, rfl⟩
        simp [hSound.set_eq_singleton index]
      · exact .inr hCommitted
  | released index hUnserved hAfter hUntaken hUncharged =>
      rw [hAfter]
      rcases hServed with ⟨pending, hPending, hId, hFingerprint, hSucceeded⟩ | hCommitted
      · rw [(hSound.only index).1, List.mem_singleton] at hPending
        rw [hPending, hUnserved] at hSucceeded
        cases hSucceeded
      · exact .inr hCommitted
  | charged token voucherSignature voucherExpiresAt now index hUntaken hToken hDiscards
      hCharged =>
      rw [hDiscards] at hKept
      have hRetained : ∀ record ∈ step.before.records ++
          [step.before.commitRecord token voucherSignature voucherExpiresAt now],
          record.deliveryId = authorizationId → record ∈ step.after.records := by
        intro record hRecord hId
        rw [hCharged.records]
        have hMapped : record ∈ (step.before.committedDeliveries ++
            [step.before.commitRecord token voucherSignature voucherExpiresAt now]).map
              CommittedDelivery.bare := by
          simpa [records] using hRecord
        simpa [records] using mem_retained_of_not_discarded hKept hMapped hId
      rcases hServed with ⟨pending, hPending, hId, hFingerprint, -⟩ |
          ⟨record, hRecord, hId, hFingerprint⟩
      · -- The reservation that stood is the one that was charged.
        rw [(hSound.only index).1, List.mem_singleton] at hPending
        subst hPending
        have hTokenId : token.authorizationId = authorizationId :=
          hCharged.owns.deliveryId.symm.trans hId
        refine .inr ⟨_, hRetained _ (List.mem_append_right _ (List.mem_singleton_self _)) hTokenId,
          hTokenId, ?_⟩
        exact hCharged.owns.requestFingerprint.symm.trans hFingerprint
      · exact .inr ⟨record, hRetained record (List.mem_append_left _ hRecord) hId, hId,
          hFingerprint⟩

theorem Sound.record_unique (hSound : state.Sound) {record other : CommittedDelivery}
    (hRecord : record ∈ state.records) (hOther : other ∈ state.records)
    (hSame : record.deliveryId = other.deliveryId) : record = other :=
  List.inj_on_of_nodup_map (List.pairwise_map.mpr hSound.distinct) hRecord hOther hSame

theorem Served.classifyAuthorization (hSound : state.Sound)
    (hServed : state.Served authorizationId requestFingerprint) (cumulative : ℕ) (now : ℤ) :
    state.classifyAuthorization authorizationId requestFingerprint cumulative now =
        some .committed ∨
      ∃ token, state.classifyAuthorization authorizationId requestFingerprint cumulative now =
        some (.handlerSucceeded token) := by
  simp only [ChannelState.classifyAuthorization]
  rcases hServed with ⟨pending, hPending, hId, hFingerprint, hSucceeded⟩ |
      ⟨record, hRecord, hId, hFingerprint⟩
  · have hUncommitted : state.committedAuthorization authorizationId = none := by
      rw [committedAuthorization_eq_none, ← hId]
      exact hSound.uncommitted pending hPending
    simp only [hUncommitted]
    split
    · rename_i hMissing
      exact absurd hId (pendingIndex_eq_none.mp hMissing pending hPending)
    · rename_i index hIndex
      rw [(hSound.only index).1, List.mem_singleton] at hPending
      rw [← hPending]
      simp [hFingerprint, hSucceeded]
  · split
    · rename_i entry hEntry
      rcases bare_mem_of_committedAuthorization hEntry with ⟨hBare, hEntryId⟩
      have hSame : entry.bare = record :=
        hSound.record_unique hBare hRecord (hEntryId.trans hId.symm)
      have hOwn : entry.requestFingerprint = some requestFingerprint := by
        rw [← hFingerprint, ← hSame, CommittedDelivery.bare_requestFingerprint]
      simp [hOwn]
    · rename_i hMissing
      exact absurd hId (committedAuthorization_eq_none.mp hMissing record hRecord)

theorem Served.refuseReservation (hSound : state.Sound) {request : AuthorizationRequest}
    (hServed : state.Served request.authorizationId request.requestFingerprint)
    (hUnsealed : state.sealed = false) (hUnrequested : state.closeRequestedAt = none) :
    state.refuseReservation request = some .committed ∨
      ∃ token, state.refuseReservation request = some (.handlerSucceeded token) := by
  simp only [ChannelState.refuseReservation, hUnsealed, hUnrequested, Option.isSome_none,
    Bool.false_eq_true, or_self, if_false]
  rcases hServed.classifyAuthorization hSound request.cumulative request.now with
    hCommitted | ⟨token, hSucceeded⟩
  · simp [hCommitted]
  · simp [hSucceeded]

/-- A handler that was marked has its outcome on record, unless the authorization was
committed by another request. -/
theorem served_of_mark {token : ReservationToken}
    (hOk : (state.markAuthorizationHandlerSucceeded token).1 = .ok ())
    (hOwn : ∀ entry, state.committedAuthorization token.authorizationId = some entry →
      entry.requestFingerprint = some token.requestFingerprint) :
    (state.markAuthorizationHandlerSucceeded token).2.Served token.authorizationId
      token.requestFingerprint := by
  rcases state.markAuthorizationHandlerSucceeded_cases token with
    ⟨hAfter, hFound⟩ | ⟨index, hOwns, -, hAfter⟩
  · rcases Option.isSome_iff_exists.mp (hFound hOk) with ⟨entry, hEntry⟩
    rcases bare_mem_of_committedAuthorization hEntry with ⟨hBare, hEntryId⟩
    rw [hAfter]
    exact .inr ⟨entry.bare, hBare, hEntryId, hOwn entry hEntry⟩
  · rw [hAfter]
    refine .inl ⟨{ state.pendingDeliveries.get index with handlerSucceeded := true }, ?_,
      hOwns.deliveryId, hOwns.requestFingerprint, rfl⟩
    exact List.mem_set index.isLt _

end ChannelState

/-! ## Runs -/

/-- A reservation for a voucher that was committed, for any positive amount, is never
taken again. -/
def PaidOnce (trace : List Performed) : Prop :=
  ∀ later commit earlier token voucherSignature voucherExpiresAt now response,
    trace = later ++ commit :: earlier →
    commit.operation =
      .commitAuthorization token voucherSignature voucherExpiresAt now response →
    commit.outcome = .finished (.ok ()) →
    ∀ again ∈ later, ∀ request, again.operation.request = some request →
      0 < request.amount → request.cumulative = token.cumulative →
      ∀ fresh, again.outcome ≠ .reservation (.ok (.reserved fresh))

/-- A reservation for an authorization whose handler was marked finds that outcome,
while the channel is open and no pruning has dropped its record. -/
def ServedOnce (trace : List Performed) : Prop :=
  ∀ latest again between mark earlier token request,
    trace = latest ++ again :: (between ++ mark :: earlier) →
    mark.operation = .markAuthorizationHandlerSucceeded token →
    mark.outcome = .finished (.ok ()) →
    again.operation.request = some request →
    request.authorizationId = token.authorizationId →
    request.requestFingerprint = token.requestFingerprint →
    again.before.sealed = false → again.before.closeRequestedAt = none →
    (∀ step ∈ between, ∀ entry ∈ step.discarded, entry.deliveryId ≠ token.authorizationId) →
    again.outcome = .reservation (.ok .committed) ∨
      ∃ fresh, again.outcome = .reservation (.ok (.handlerSucceeded fresh))

/-- A step that marks a handler does not find its authorization committed by another
request. -/
def Performed.MarksOwn (step : Performed) : Prop :=
  ∀ token, step.operation = .markAuthorizationHandlerSucceeded token →
    ∀ entry, step.before.committedAuthorization token.authorizationId = some entry →
      entry.requestFingerprint = some token.requestFingerprint

namespace Performed

variable {step : Performed}

theorem took_of_taken {request : AuthorizationRequest} {token : ReservationToken}
    (hTaken : step.taken = some (request, token)) :
    step.before.TookReservation request step.after := by
  cases step.effect with
  | reserved other hOther hUncharged hDiscards hTook =>
      rw [hOther] at hTaken
      cases hTaken
      exact hTook
  | kept hAccounts hUntaken hUncharged => simp [hUntaken] at hTaken
  | pruned now hAfter hDiscards hUntaken hUncharged => simp [hUntaken] at hTaken
  | marked token index hAfter hUntaken hUncharged => simp [hUntaken] at hTaken
  | released index hUnserved hAfter hUntaken hUncharged => simp [hUntaken] at hTaken
  | charged token voucherSignature voucherExpiresAt now index hUntaken hToken hDiscards
      hCharged => simp [hUntaken] at hTaken

theorem cumulative_le_of_commit {token : ReservationToken} {voucherSignature : String}
    {voucherExpiresAt now : ℤ} {response : ChannelState → Option Json}
    (hSound : step.before.Sound)
    (hOperation : step.operation =
      .commitAuthorization token voucherSignature voucherExpiresAt now response)
    (hOk : step.outcome = .finished (.ok ())) :
    token.cumulative ≤ step.after.cumulative := by
  simp only [outcome, hOperation, Operation.apply, Outcome.finished.injEq] at hOk
  simp only [after, hOperation, Operation.apply]
  rcases ChannelState.commitAuthorization_cases step.before token voucherSignature
    voucherExpiresAt now response with ⟨hAfter, hFound⟩ | ⟨-, index, hCharged⟩
  · rcases hFound hOk with ⟨entry, hEntry, -, hCumulative⟩
    rcases ChannelState.bare_mem_of_committedAuthorization hEntry with ⟨hBare, -⟩
    rw [hAfter, ← hCumulative]
    exact hSound.below entry.bare hBare
  · exact hCharged.cumulative.ge

theorem outcome_of_refused {request : AuthorizationRequest} {refused : BatchReservation}
    (hRequest : step.operation.request = some request)
    (hRefused : step.before.refuseReservation request = some refused) :
    step.outcome = .reservation (.ok refused) := by
  rcases step with ⟨before, operation⟩
  cases operation with
  | reserveAuthorization other =>
      cases hRequest
      simp only [outcome, Operation.apply, ChannelState.reserveAuthorization, hRefused]
  | reserveAuthorizationStaged other stage =>
      cases hRequest
      simp only [outcome, Operation.apply, ChannelState.reserveAuthorizationStaged, hRefused]
  | _ => simp [Operation.request] at hRequest

end Performed

namespace Run

variable {start state : ChannelState} {trace : List Performed}

theorem paidOnce (hRun : Run start trace state) (hStart : start.Sound) : PaidOnce trace := by
  intro later commit earlier token voucherSignature voucherExpiresAt now response hTrace
    hOperation hOk again hAgain request hRequest hPositive hCumulative fresh hReserved
  rcases List.append_of_mem hAgain with ⟨latest, between, rfl⟩
  have hSplit : trace = latest ++ again :: (between ++ commit :: earlier) := by
    simp [hTrace]
  have hBefore := hRun.before hSplit
  have hPaid : token.cumulative ≤ commit.after.cumulative :=
    Performed.cumulative_le_of_commit ((hRun.before hTrace).sound hStart) hOperation hOk
  have hGrown : commit.after.cumulative ≤ again.before.cumulative :=
    hBefore.after_rel (fun origin state => origin.cumulative ≤ state.cumulative)
      (fun _ => le_rfl) (fun _ step hOrigin => hOrigin.trans step.cumulative_le) rfl
  have hTaken : again.taken = some (request, fresh) := by
    simp only [Performed.taken, hRequest, hReserved]
  have hSteps := add_eq_of_checkedAdd (Performed.took_of_taken hTaken).reservable.steps
  omega

theorem served {between earlier : List Performed} {mark : Performed}
    {authorizationId requestFingerprint : String}
    (hRun : Run start (between ++ mark :: earlier) state) (hStart : start.Sound)
    (hKept : ∀ step ∈ between, ∀ entry ∈ step.discarded, entry.deliveryId ≠ authorizationId)
    (hServed : mark.after.Served authorizationId requestFingerprint) :
    state.Served authorizationId requestFingerprint := by
  induction between generalizing state with
  | nil =>
      cases hRun
      exact hServed
  | cons step between ih =>
      cases hRun with
      | @step _ state operation previous hToken =>
          have hBefore := ih previous fun other hOther => hKept other (List.mem_cons_of_mem _ hOther)
          exact hBefore.step ⟨state, operation⟩ (previous.sound hStart)
            (hKept _ (List.mem_cons_self ..))

theorem servedOnce (hRun : Run start trace state) (hStart : start.Sound)
    (hMarks : ∀ step ∈ trace, step.MarksOwn) : ServedOnce trace := by
  intro latest again between mark earlier token request hTrace hOperation hOk hRequest hId
    hFingerprint hUnsealed hUnrequested hKept
  have hMark : mark.after.Served token.authorizationId token.requestFingerprint := by
    have hOwn := hMarks mark (by simp [hTrace]) token hOperation
    simp only [Performed.outcome, hOperation, Operation.apply, Outcome.finished.injEq] at hOk
    simp only [Performed.after, hOperation, Operation.apply]
    exact ChannelState.served_of_mark hOk hOwn
  have hBefore := hRun.before hTrace
  have hServed := hBefore.served hStart hKept hMark
  rw [← hId, ← hFingerprint] at hServed
  rcases hServed.refuseReservation (hBefore.sound hStart) hUnsealed hUnrequested with
    hCommitted | ⟨fresh, hSucceeded⟩
  · exact .inl (Performed.outcome_of_refused hRequest hCommitted)
  · exact .inr ⟨fresh, Performed.outcome_of_refused hRequest hSucceeded⟩

end Run

/-- In every run from a record without deliveries whose marks each find no record of
another request, what was committed is not reserved again and what was marked is
answered from its record until that is pruned. The first part needs no condition. -/
theorem paidOnce_and_servedOnce {start state : ChannelState} {trace : List Performed}
    (hPending : start.pendingDeliveries = []) (hCommitted : start.committedDeliveries = [])
    (hRun : Run start trace state) :
    PaidOnce trace ∧ ((∀ step ∈ trace, step.MarksOwn) → ServedOnce trace) :=
  ⟨hRun.paidOnce (.initial hPending hCommitted),
    hRun.servedOnce (.initial hPending hCommitted)⟩

/-- An authorization that was served and committed, presented again. Newest operation
first. -/
def presentedAgain : List Operation :=
  .reserveAuthorization ⟨"authorization", "request", 5, 5, 60, 102⟩ :: servedOnce

theorem paidOnce_and_servedOnce_of_presentedAgain :
    PaidOnce (perform openedChannel presentedAgain).1 ∧
      ServedOnce (perform openedChannel presentedAgain).1 := by
  have hOnce := paidOnce_and_servedOnce rfl rfl
    (run_perform (by decide : presentable openedChannel presentedAgain))
  refine ⟨hOnce.1, hOnce.2 ?_⟩
  intro step hStep token hOperation entry hEntry
  simp only [presentedAgain, servedOnce, perform, List.mem_cons, List.not_mem_nil,
    or_false] at hStep
  rcases hStep with rfl | rfl | rfl | rfl
  · cases hOperation
  · cases hOperation
  · cases hOperation
    cases hEntry
  · cases hOperation

/-- Two requests present one authorization id. The first is released after its
handler failed and the second is committed; then the first is marked after all, and
presented again. Newest operation first. -/
def reusedAuthorization : List Operation :=
  [.reserveAuthorization ⟨"authorization", "first", 5, 5, 60, 104⟩,
    .markAuthorizationHandlerSucceeded ⟨"authorization", "first", 5, 1⟩,
    .commitAuthorization ⟨"authorization", "second", 5, 2⟩ "voucher" 200 103 (fun _ => none),
    .reserveAuthorization ⟨"authorization", "second", 5, 5, 60, 102⟩,
    .releaseAuthorization "authorization" "first",
    .reserveAuthorization ⟨"authorization", "first", 5, 5, 60, 100⟩]

theorem reusedAuthorization_conflicts :
    Run openedChannel (perform openedChannel reusedAuthorization).1
        (perform openedChannel reusedAuthorization).2 ∧
      ¬ ServedOnce (perform openedChannel reusedAuthorization).1 := by
  refine ⟨run_perform (by decide), fun hServedOnce => ?_⟩
  have hAgain := hServedOnce [] ⟨(perform openedChannel reusedAuthorization.tail).2, _⟩ []
    ⟨(perform openedChannel (reusedAuthorization.drop 2)).2, _⟩ _ _ _ rfl rfl
    (by decide) rfl rfl rfl (by decide) (by decide) (by simp)
  have hConflict : Performed.outcome ⟨(perform openedChannel reusedAuthorization.tail).2,
      .reserveAuthorization ⟨"authorization", "first", 5, 5, 60, 104⟩⟩ =
      .reservation (.ok .conflict) := by
    decide
  rw [hConflict] at hAgain
  simp at hAgain

end PayKit.Channel
