import PayKit.Channel.AuthorizationRuns

/-!
# Batch authorization accounting

Along every run that starts without deliveries the watermark is worth what was
paid: at most one reservation is in flight, and the watermark is where it started
plus what was reserved by the authorizations committed since. Reservations are
told apart by their sequence numbers, which are only unique until the counter
reaches its largest value.
-/

namespace PayKit.Channel

open Machine Store

/-- The trace holds a reservation taken for `request`, with its token. -/
def Taken (trace : List Performed) (request : AuthorizationRequest) (token : ReservationToken) :
    Prop :=
  ∃ step ∈ trace, step.taken = some (request, token)

/-- The amount that the newest reservation under a sequence number was taken for. -/
def reservedAmount (trace : List Performed) (sequence : ℕ) : ℕ :=
  match (trace.filterMap Performed.taken).find? fun taken => taken.2.sequence = sequence with
  | some taken => taken.1.amount
  | none => 0

/-- The sum of the amounts of all commits performed in a run: for each of them, the
amount its reservation was taken for. -/
def committedTotal : List Performed → ℕ
  | [] => 0
  | step :: earlier =>
      match step.charged with
      | some token => reservedAmount earlier token.sequence + committedTotal earlier
      | none => committedTotal earlier

theorem Performed.cumulative_le (step : Performed) :
    step.before.cumulative ≤ step.after.cumulative := by
  cases step.effect with
  | kept hAccounts hUntaken hUncharged => exact hAccounts.cumulative.ge
  | pruned now hAfter hDiscards hUntaken hUncharged => rw [hAfter]; exact le_rfl
  | reserved request hTaken hUncharged hDiscards hTook => exact hTook.cumulative.ge
  | marked token index hAfter hUntaken hUncharged => rw [hAfter]
  | released index hUnserved hAfter hUntaken hUncharged => rw [hAfter]
  | charged token voucherSignature voucherExpiresAt now index hUntaken hToken hDiscards hCharged =>
      have hSteps := add_eq_of_checkedAdd hCharged.steps
      rw [hCharged.cumulative]
      omega

theorem Performed.sequence_le (step : Performed)
    (hBelow : step.after.nextDeliverySequence < u64Max) :
    step.before.nextDeliverySequence ≤ step.after.nextDeliverySequence := by
  cases step.effect with
  | kept hAccounts hUntaken hUncharged => exact hAccounts.sequence.ge
  | pruned now hAfter hDiscards hUntaken hUncharged => rw [hAfter]; exact le_rfl
  | reserved request hTaken hUncharged hDiscards hTook =>
      rw [hTook.sequence] at hBelow ⊢
      rw [saturatingAdd_of_lt_max hBelow]
      omega
  | marked token index hAfter hUntaken hUncharged => rw [hAfter]
  | released index hUnserved hAfter hUntaken hUncharged => rw [hAfter]
  | charged token voucherSignature voucherExpiresAt now index hUntaken hToken hDiscards hCharged =>
      exact hCharged.sequence.ge

/-- A fence on the watermark: the channel is sealed, or its final amount is fixed. -/
def ChannelState.Fenced (state : ChannelState) : Prop :=
  state.sealed = true ∨ state.finalCumulative.isSome = true

theorem Performed.fenced (step : Performed) (hFenced : step.before.Fenced) :
    step.after.Fenced := by
  cases step.effect with
  | kept hAccounts hUntaken hUncharged =>
      exact hFenced.imp hAccounts.sealed hAccounts.finalCumulative
  | pruned now hAfter hDiscards hUntaken hUncharged => rw [hAfter]; exact hFenced
  | reserved request hTaken hUncharged hDiscards hTook =>
      rw [ChannelState.Fenced, hTook.sealed, hTook.finalCumulative]
      exact hFenced
  | marked token index hAfter hUntaken hUncharged => rw [hAfter]; exact hFenced
  | released index hUnserved hAfter hUntaken hUncharged => rw [hAfter]; exact hFenced
  | charged token voucherSignature voucherExpiresAt now index hUntaken hToken hDiscards hCharged =>
      rw [ChannelState.Fenced, hCharged.sealed, hCharged.finalCumulative]
      exact hFenced

theorem Performed.cumulative_of_fenced (step : Performed) (hFenced : step.before.Fenced) :
    step.after.cumulative = step.before.cumulative := by
  cases step.effect with
  | kept hAccounts hUntaken hUncharged => exact hAccounts.cumulative
  | pruned now hAfter hDiscards hUntaken hUncharged => rw [hAfter]; rfl
  | reserved request hTaken hUncharged hDiscards hTook => exact hTook.cumulative
  | marked token index hAfter hUntaken hUncharged => rw [hAfter]
  | released index hUnserved hAfter hUntaken hUncharged => rw [hAfter]
  | charged token voucherSignature voucherExpiresAt now index hUntaken hToken hDiscards hCharged =>
      rcases hFenced with hSealed | hFinal
      · simp [hCharged.unsealed] at hSealed
      · simp [hCharged.unfenced] at hFinal

/-- What the trace of a run says about the record it ends in. -/
structure Accounted (start : ChannelState) (trace : List Performed) (state : ChannelState) :
    Prop where
  /-- Every sequence number handed out is at most the latest one. -/
  sequences : ∀ request token, Taken trace request token →
    token.sequence ≤ state.nextDeliverySequence
  /-- A standing reservation was taken for its own amount, and no other reservation
  has its sequence number. -/
  reserved : ∀ pending ∈ state.pendingDeliveries, ∃ request token,
    Taken trace request token ∧ token.sequence = pending.sequence
  amounts : ∀ pending ∈ state.pendingDeliveries, ∀ request token, Taken trace request token →
    token.sequence = pending.sequence → request.amount = pending.amount
  total : state.cumulative = start.cumulative + committedTotal trace

namespace Accounted

variable {start : ChannelState} {trace : List Performed} {step : Performed}

theorem initial (hPending : start.pendingDeliveries = []) : Accounted start [] start where
  sequences := by simp [Taken]
  reserved := by simp [hPending]
  amounts := by simp [hPending]
  total := by simp [committedTotal]

theorem taken_cons_of_none {request : AuthorizationRequest} {token : ReservationToken}
    (hUntaken : step.taken = none) :
    Taken (step :: trace) request token ↔ Taken trace request token := by
  simp [Taken, hUntaken]

theorem committedTotal_cons_of_none (hUncharged : step.charged = none) :
    committedTotal (step :: trace) = committedTotal trace := by
  simp only [committedTotal, hUncharged]

/-- A step that takes and charges nothing keeps the accounts, if every reservation
it leaves stood before it, for the same amount. -/
theorem of_quiet (hAccounted : Accounted start trace step.before)
    (hUntaken : step.taken = none) (hUncharged : step.charged = none)
    (hSequence : step.after.nextDeliverySequence = step.before.nextDeliverySequence)
    (hCumulative : step.after.cumulative = step.before.cumulative)
    (hPending : ∀ pending ∈ step.after.pendingDeliveries, ∃ earlier ∈
      step.before.pendingDeliveries, earlier.sequence = pending.sequence ∧
        earlier.amount = pending.amount) :
    Accounted start (step :: trace) step.after where
  sequences request token hTaken := by
    rw [hSequence]
    exact hAccounted.sequences request token ((taken_cons_of_none hUntaken).mp hTaken)
  reserved pending hAfter := by
    rcases hPending pending hAfter with ⟨earlier, hEarlier, hSame, -⟩
    rcases hAccounted.reserved earlier hEarlier with ⟨request, token, hTaken, hToken⟩
    exact ⟨request, token, (taken_cons_of_none hUntaken).mpr hTaken, hToken.trans hSame⟩
  amounts pending hAfter request token hTaken hToken := by
    rcases hPending pending hAfter with ⟨earlier, hEarlier, hSame, hAmount⟩
    rw [← hAmount]
    exact hAccounted.amounts earlier hEarlier request token
      ((taken_cons_of_none hUntaken).mp hTaken) (hToken.trans hSame.symm)
  total := by
    rw [hCumulative, committedTotal_cons_of_none hUncharged]
    exact hAccounted.total

theorem of_reserved {request : AuthorizationRequest}
    (hAccounted : Accounted start trace step.before)
    (hTaken : step.taken = some (request, step.before.reservationToken request))
    (hUncharged : step.charged = none)
    (hTook : step.before.TookReservation request step.after)
    (hBelow : step.after.nextDeliverySequence < u64Max) :
    Accounted start (step :: trace) step.after := by
  -- The sequence number of the new reservation has not been handed out before.
  have hFresh : step.after.nextDeliverySequence = step.before.nextDeliverySequence + 1 := by
    rw [hTook.sequence] at hBelow ⊢
    exact saturatingAdd_of_lt_max hBelow
  have hCases : ∀ other token, Taken (step :: trace) other token →
      (other = request ∧ token.sequence = step.after.nextDeliverySequence) ∨
        Taken trace other token := by
    rintro other token ⟨taker, hTaker, hOther⟩
    rcases List.mem_cons.mp hTaker with rfl | hEarlier
    · rw [hTaken] at hOther
      cases hOther
      exact .inl ⟨rfl, hTook.sequence.symm⟩
    · exact .inr ⟨taker, hEarlier, hOther⟩
  have hPending : ∀ pending ∈ step.after.pendingDeliveries,
      pending = step.before.reservation request := by
    intro pending hPending
    simpa [hTook.pending] using hPending
  constructor
  case sequences =>
    intro other token hOther
    rcases hCases other token hOther with ⟨-, hSequence⟩ | hEarlier
    · omega
    · have hOld := hAccounted.sequences other token hEarlier
      omega
  case reserved =>
    intro pending hAfter
    rw [hPending pending hAfter]
    exact ⟨request, _, ⟨step, List.mem_cons_self .., hTaken⟩, rfl⟩
  case amounts =>
    intro pending hAfter other token hOther hSequence
    rw [hPending pending hAfter] at hSequence ⊢
    rcases hCases other token hOther with ⟨rfl, -⟩ | hEarlier
    · rfl
    · have hOld := hAccounted.sequences other token hEarlier
      have hNew : token.sequence = step.after.nextDeliverySequence :=
        hSequence.trans hTook.sequence.symm
      omega
  case total =>
    rw [hTook.cumulative, committedTotal_cons_of_none hUncharged]
    exact hAccounted.total

/-- The newest reservation under the sequence number of a standing reservation is
that reservation. -/
theorem reservedAmount_eq {state : ChannelState} {pending : PendingDelivery}
    (hAccounted : Accounted start trace state) (hPending : pending ∈ state.pendingDeliveries) :
    reservedAmount trace pending.sequence = pending.amount := by
  rcases hAccounted.reserved pending hPending with ⟨request, token, ⟨step, hStep, hTaken⟩, hSame⟩
  simp only [reservedAmount]
  split
  · rename_i taken hFound
    have hSequence : taken.2.sequence = pending.sequence := by
      simpa using List.find?_some hFound
    rcases List.mem_filterMap.mp (List.mem_of_find?_eq_some hFound) with ⟨taker, hTaker, hTook⟩
    exact hAccounted.amounts pending hPending taken.1 taken.2 ⟨taker, hTaker, hTook⟩ hSequence
  · rename_i hMissing
    have hNone := List.find?_eq_none.mp hMissing (request, token)
      (List.mem_filterMap.mpr ⟨step, hStep, hTaken⟩)
    simp [hSame] at hNone

theorem of_charged {token : ReservationToken} {voucherSignature : String}
    {voucherExpiresAt now : ℤ} {index : Fin step.before.pendingDeliveries.length}
    (hAccounted : Accounted start trace step.before) (hSound : step.before.Sound)
    (hUntaken : step.taken = none) (hToken : step.charged = some token)
    (hCharged : ChannelState.Charged step.before token voucherSignature voucherExpiresAt now
      step.after index) :
    Accounted start (step :: trace) step.after := by
  have hNone : step.after.pendingDeliveries = [] := by
    rw [hCharged.pending, hSound.eraseIdx_eq_nil index]
  constructor
  case sequences =>
    intro request other hTaken
    rw [hCharged.sequence]
    exact hAccounted.sequences request other ((taken_cons_of_none hUntaken).mp hTaken)
  case reserved => simp [hNone]
  case amounts => simp [hNone]
  case total =>
    have hAmount := hAccounted.reservedAmount_eq (List.get_mem _ index)
    have hSteps := add_eq_of_checkedAdd hCharged.steps
    have hTotal := hAccounted.total
    have hSequence := hCharged.owns.sequence
    rw [hSequence] at hAmount
    simp only [hCharged.cumulative, committedTotal, hToken]
    omega

end Accounted

theorem Run.accounted {start state : ChannelState} {trace : List Performed}
    (hRun : Run start trace state) (hPending : start.pendingDeliveries = [])
    (hCommitted : start.committedDeliveries = [])
    (hBelow : state.nextDeliverySequence < u64Max) : Accounted start trace state := by
  induction hRun with
  | start => exact .initial hPending
  | @step trace state operation previous hToken ih =>
      have hSound := previous.sound (.initial hPending hCommitted)
      have hEarlier := Performed.sequence_le ⟨state, operation⟩ hBelow
      have hAccounted : Accounted start trace state := ih (hEarlier.trans_lt hBelow)
      cases Performed.effect ⟨state, operation⟩ with
      | kept hAccounts hUntaken hUncharged =>
          apply hAccounted.of_quiet hUntaken hUncharged hAccounts.sequence hAccounts.cumulative
          rw [hAccounts.pending]
          exact fun pending hOld => ⟨pending, hOld, rfl, rfl⟩
      | pruned now hAfter hDiscards hUntaken hUncharged =>
          apply hAccounted.of_quiet hUntaken hUncharged (by rw [hAfter]; rfl) (by rw [hAfter]; rfl)
          rw [hAfter]
          exact fun pending hOld => ⟨pending, hOld, rfl, rfl⟩
      | reserved request hTaken hUncharged hDiscards hTook =>
          exact hAccounted.of_reserved hTaken hUncharged hTook hBelow
      | marked token index hAfter hUntaken hUncharged =>
          apply hAccounted.of_quiet hUntaken hUncharged (by rw [hAfter]) (by rw [hAfter])
          simp only [hAfter, hSound.set_eq_singleton index, List.mem_singleton, forall_eq]
          exact ⟨_, List.getElem_mem index.isLt, rfl, rfl⟩
      | released index hUnserved hAfter hUntaken hUncharged =>
          apply hAccounted.of_quiet hUntaken hUncharged (by rw [hAfter]) (by rw [hAfter])
          simp [hAfter, hSound.eraseIdx_eq_nil index]
      | charged token voucherSignature voucherExpiresAt now index hUntaken hCharges hDiscards hCharged =>
          exact hAccounted.of_charged hSound hUntaken hCharges hCharged

theorem Performed.charge_of_charged {step : Performed} {token : ReservationToken}
    (hToken : step.charged = some token) :
    ∃ voucherSignature voucherExpiresAt now index,
      ChannelState.Charged step.before token voucherSignature voucherExpiresAt now step.after
        index := by
  cases step.effect with
  | kept hAccounts hUntaken hUncharged => simp [hUncharged] at hToken
  | pruned now hAfter hDiscards hUntaken hUncharged => simp [hUncharged] at hToken
  | reserved request hTaken hUncharged hDiscards hTook => simp [hUncharged] at hToken
  | marked token index hAfter hUntaken hUncharged => simp [hUncharged] at hToken
  | released index hUnserved hAfter hUntaken hUncharged => simp [hUncharged] at hToken
  | charged other voucherSignature voucherExpiresAt now index hUntaken hOther hDiscards hCharged =>
      rw [hOther] at hToken
      cases hToken
      exact ⟨voucherSignature, voucherExpiresAt, now, index, hCharged⟩

namespace Run

variable {start state : ChannelState} {trace later earlier : List Performed} {step : Performed}

theorem sequence_lt (hRun : Run start trace state) (hTrace : trace = later ++ step :: earlier)
    (hBelow : state.nextDeliverySequence < u64Max) :
    step.before.nextDeliverySequence < u64Max := by
  have hAfter : state.nextDeliverySequence < u64Max →
      step.after.nextDeliverySequence ≤ state.nextDeliverySequence := by
    refine hRun.after_rel (fun origin state => state.nextDeliverySequence < u64Max →
      origin.nextDeliverySequence ≤ state.nextDeliverySequence) ?_ ?_ hTrace
    · intro state _
      exact le_rfl
    · intro origin step hOrigin hLater
      have hEarlier := step.sequence_le hLater
      exact (hOrigin (hEarlier.trans_lt hLater)).trans hEarlier
  have hStep := step.sequence_le ((hAfter hBelow).trans_lt hBelow)
  have hLast := hAfter hBelow
  omega

theorem charged_amount {token : ReservationToken} (hRun : Run start trace state)
    (hPending : start.pendingDeliveries = []) (hCommitted : start.committedDeliveries = [])
    (hBelow : state.nextDeliverySequence < u64Max) (hTrace : trace = later ++ step :: earlier)
    (hToken : step.charged = some token) :
    (∃ request taken, Taken earlier request taken ∧ taken.sequence = token.sequence) ∧
      ∀ request taken, Taken earlier request taken → taken.sequence = token.sequence →
        step.after.cumulative = step.before.cumulative + request.amount := by
  have hAccounted := (hRun.before hTrace).accounted hPending hCommitted
    (hRun.sequence_lt hTrace hBelow)
  rcases Performed.charge_of_charged hToken with
    ⟨voucherSignature, voucherExpiresAt, now, index, hCharged⟩
  have hStanding : step.before.pendingDeliveries.get index ∈ step.before.pendingDeliveries :=
    List.getElem_mem index.isLt
  refine ⟨?_, ?_⟩
  · rcases hAccounted.reserved _ hStanding with ⟨request, taken, hTaken, hSequence⟩
    exact ⟨request, taken, hTaken, hSequence.trans hCharged.owns.sequence⟩
  · intro request taken hTaken hSequence
    have hAmount := hAccounted.amounts _ hStanding request taken hTaken
      (hSequence.trans hCharged.owns.sequence.symm)
    have hSteps := add_eq_of_checkedAdd hCharged.steps
    rw [hCharged.cumulative, hAmount, hSteps]

theorem fenced (hRun : Run start trace state) (hTrace : trace = later ++ step :: earlier)
    (hFenced : step.after.Fenced) : state.Fenced := by
  refine hRun.after_rel (fun origin state => origin.Fenced → state.Fenced) ?_ ?_ hTrace hFenced
  · intro state hState
    exact hState
  · intro origin step hOrigin hState
    exact step.fenced (hOrigin hState)

end Run

/-- Batch authorization accounting. In every record reached from one without
deliveries, while the sequence numbers last: at most one reservation stands, and it
is the latest; the watermark has never fallen and is where it started plus the
amounts of all commits performed; the committed records are in the order of their
watermarks and of their retention; each commit that charged raised the watermark by
exactly the amount its reservation was taken for; and once the channel is sealed or
its final amount is fixed no commit changes the watermark. -/
theorem authorizationAccounting {start state : ChannelState} {trace : List Performed}
    (hPending : start.pendingDeliveries = []) (hCommitted : start.committedDeliveries = [])
    (hRun : Run start trace state) (hBelow : state.nextDeliverySequence < 2 ^ 64 - 1) :
    (state.pendingDeliveries = [] ∨ ∃ pending, state.pendingDeliveries = [pending] ∧
        pending.sequence = state.nextDeliverySequence) ∧
      ((∀ step ∈ trace, step.before.cumulative ≤ step.after.cumulative) ∧
        state.cumulative = start.cumulative + committedTotal trace) ∧
      (state.committedDeliveries.Pairwise
          (fun older newer => older.cumulative ≤ newer.cumulative) ∧
        state.committedDeliveries.Pairwise
          (fun older newer => older.retainUntil ≤ newer.retainUntil)) ∧
      (∀ later step earlier token, trace = later ++ step :: earlier →
        step.charged = some token →
        (∃ request taken, Taken earlier request taken ∧ taken.sequence = token.sequence) ∧
          ∀ request taken, Taken earlier request taken → taken.sequence = token.sequence →
            step.after.cumulative = step.before.cumulative + request.amount) ∧
      (∀ later step earlier, trace = later ++ step :: earlier → step.after.Fenced →
        ∀ commit ∈ later, commit.after.cumulative = commit.before.cumulative) := by
  have hSound := hRun.sound (.initial hPending hCommitted)
  refine ⟨hSound.alone, ⟨fun step _ => step.cumulative_le,
    (hRun.accounted hPending hCommitted hBelow).total⟩,
    ⟨by simpa [ChannelState.records, List.pairwise_map] using hSound.cumulativeOrdered,
      by simpa [ChannelState.records, List.pairwise_map] using hSound.retentionOrdered⟩, ?_, ?_⟩
  · intro later step earlier token hTrace hToken
    exact hRun.charged_amount hPending hCommitted hBelow hTrace hToken
  · intro later step earlier hTrace hFenced commit hCommit
    rcases List.append_of_mem hCommit with ⟨latest, between, rfl⟩
    have hSplit : trace = latest ++ commit :: (between ++ step :: earlier) := by
      simp [hTrace]
    exact commit.cumulative_of_fenced ((hRun.before hSplit).fenced rfl hFenced)

/-- One authorization served and committed, newest operation first. -/
def servedOnce : List Operation :=
  [.commitAuthorization ⟨"authorization", "request", 5, 1⟩ "voucher" 200 101 (fun _ => none),
    .markAuthorizationHandlerSucceeded ⟨"authorization", "request", 5, 1⟩,
    .reserveAuthorization ⟨"authorization", "request", 5, 5, 60, 100⟩]

theorem authorizationAccounting_of_servedOnce :
    (perform openedChannel servedOnce).2.cumulative = 5 ∧
      (perform openedChannel servedOnce).2.cumulative =
        openedChannel.cumulative + committedTotal (perform openedChannel servedOnce).1 :=
  ⟨by decide,
    (authorizationAccounting rfl rfl (run_perform (by decide)) (by decide)).2.1.2⟩

end PayKit.Channel
