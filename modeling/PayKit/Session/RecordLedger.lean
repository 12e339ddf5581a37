import PayKit.Session.RecordMoves

/-!
# What every history of a session record keeps

The moves of a record are read here one property at a time: the account that the record stands
for, the terms of the channel, the voucher that proves the watermark, the requests that were
charged, the deposits that were credited and the newest look at the chain. Each property is one
case analysis over the moves, and from it one induction over the history of a record.
-/

namespace PayKit.Session

open Accounting Channel Concurrency Control Encoding Machine Store
open Metered (CommitTask)
open RequestServer (FinalVoucher)

/-! ### The chain as the record has seen it -/

/-- A read that is not behind leaves the fences that it shows, its slot and its time. -/
theorem recordOnchainObservation_fresh {state after : ChannelState} {slot now : ℕ}
    {shown : ObservedLifecycle}
    (hFresh : state.recordOnchainObservation ⟨some slot, shown⟩ now = (.fresh, after)) :
    (state.applyObservedLifecycle shown).onchainObservedSlot ≤ slot ∧
      after = ({ state.applyObservedLifecycle shown with
        extra := insertMember (state.applyObservedLifecycle shown).extra onchainObservedSlotKey
          (.unsigned slot) } : ChannelState).renewObservation now := by
  simp only [ChannelState.recordOnchainObservation] at hFresh
  split at hFresh
  · cases hFresh
  · rename_i hNewest
    cases hFresh
    exact ⟨Nat.le_of_not_lt hNewest, rfl⟩

theorem applyObservedLifecycle_extra {state : ChannelState} (shown : ObservedLifecycle) :
    (state.applyObservedLifecycle shown).extra = state.extra := by
  cases shown with
  | opened => rfl
  | closing startedAt => rfl
  | terminal startedAt => cases startedAt <;> rfl

theorem settledOnChain_of_fresh {state after : ChannelState} {slot now : ℕ}
    {shown : ObservedLifecycle}
    (hFresh : state.recordOnchainObservation ⟨some slot, shown⟩ now = (.fresh, after)) :
    after.settledOnChain = state.settledOnChain := by
  rcases recordOnchainObservation_fresh hFresh with ⟨-, rfl⟩
  cases shown with
  | opened => rfl
  | closing startedAt => rfl
  | terminal startedAt => cases startedAt <;> rfl

/-- What a renewed record shares with the one before. -/
structure Renewed (before after : ChannelState) (slot now : ℕ) : Prop extends
    SameTerms before after where
  deposit : after.deposit = before.deposit
  cumulative : after.cumulative = before.cumulative
  spentAmount : after.spentAmount = before.spentAmount
  settledOnChain : before.settledOnChain ≤ after.settledOnChain
  finalCumulative : after.finalCumulative = before.finalCumulative
  pendingSetup : after.pendingSetup = before.pendingSetup
  pendingDeliveries : after.pendingDeliveries = before.pendingDeliveries
  signature : after.highestVoucherSignature = before.highestVoucherSignature
  expiresAt : after.highestVoucherExpiresAt = before.highestVoucherExpiresAt
  uses : after.processedUses = before.processedUses
  topUps : after.processedTopupSignatures = before.processedTopupSignatures
  closing : ∀ time, before.closeRequestedAt = some time → after.closeRequestedAt = some time
  isSealed : before.sealed = true → after.sealed = true
  terminal : sessionOpenIsTerminal after = sessionOpenIsTerminal before
  observedAt : after.onchainObservedAt = now
  observedSlot : after.onchainObservedSlot = slot
  newest : before.onchainObservedSlot ≤ slot

/-- A record that a read showed to be closing, or closed, takes no more charges. -/
theorem closed_of_fresh {state after : ChannelState} {slot now : ℕ} {shown : ObservedLifecycle}
    (hFresh : state.recordOnchainObservation ⟨some slot, shown⟩ now = (.fresh, after))
    (hShown : shown ≠ .opened) : ¬(accountOf after).Opened := by
  rcases recordOnchainObservation_fresh hFresh with ⟨-, rfl⟩
  intro hOpened
  cases shown with
  | opened => exact hShown rfl
  | closing startedAt => cases hOpened.notClosing
  | terminal startedAt => cases startedAt <;> cases hOpened.unsealed

theorem renewed_of_fresh {before after : ChannelState} {settled slot now : ℕ}
    {shown : ObservedLifecycle}
    (hFresh : ({ before with settledOnChain := max before.settledOnChain settled } :
      ChannelState).recordOnchainObservation ⟨some slot, shown⟩ now = (.fresh, after)) :
    Renewed before after slot now := by
  rcases recordOnchainObservation_fresh hFresh with ⟨hNewest, rfl⟩
  have hSlotKey : onchainObservedSlotKey ≠ onchainObservedAtKey := by decide
  have hTimeKey : openTerminalKey ≠ onchainObservedAtKey := by decide
  have hTerminalKey : openTerminalKey ≠ onchainObservedSlotKey := by decide
  have hSame : ∀ fenced : ChannelState, fenced.extra = before.extra →
      sessionOpenIsTerminal (({ fenced with
        extra := insertMember fenced.extra onchainObservedSlotKey (.unsigned slot) } :
          ChannelState).renewObservation now) = sessionOpenIsTerminal before := by
    intro fenced hExtra
    rw [ChannelState.renewObservation]
    simp only [sessionOpenIsTerminal, lookup_insertMember_of_ne hTimeKey,
      lookup_insertMember_of_ne hTerminalKey, hExtra]
  have hExtra : (({ before with settledOnChain := max before.settledOnChain settled } :
      ChannelState).applyObservedLifecycle shown).extra = before.extra :=
    applyObservedLifecycle_extra shown
  have hTerminal := hSame _ hExtra
  have hOld : ∀ fenced : ChannelState, fenced.extra = before.extra →
      fenced.onchainObservedSlot = before.onchainObservedSlot := by
    intro fenced hFenced
    simp only [ChannelState.onchainObservedSlot, ChannelState.extraU64, hFenced]
  have hAt : ∀ fenced : ChannelState,
      (fenced.renewObservation now).onchainObservedAt = now := by
    intro fenced
    simp [ChannelState.onchainObservedAt, ChannelState.renewObservation, ChannelState.extraU64,
      Json.asU64]
  have hSlot : ∀ fenced : ChannelState, (({ fenced with
      extra := insertMember fenced.extra onchainObservedSlotKey (.unsigned slot) } :
        ChannelState).renewObservation now).onchainObservedSlot = slot := by
    intro fenced
    simp [ChannelState.onchainObservedSlot, ChannelState.renewObservation, ChannelState.extraU64,
      lookup_insertMember_of_ne hSlotKey, Json.asU64]
  rw [hOld _ hExtra] at hNewest
  cases shown with
  | opened =>
      exact ⟨⟨rfl, rfl, rfl, rfl, rfl, rfl⟩, rfl, rfl, rfl, le_max_left _ _, rfl, rfl, rfl, rfl,
        rfl, rfl, rfl, fun _ hTime => hTime, fun hSealed => hSealed, hTerminal, hAt _, hSlot _, hNewest⟩
  | closing startedAt =>
      refine ⟨⟨rfl, rfl, rfl, rfl, rfl, rfl⟩, rfl, rfl, rfl, le_max_left _ _, rfl, rfl, rfl, rfl,
        rfl, rfl, rfl, ?_, fun hSealed => hSealed, hTerminal, hAt _, hSlot _, hNewest⟩
      intro time hTime
      simp [ChannelState.applyObservedLifecycle, ChannelState.requestClose,
        ChannelState.renewObservation, hTime]
  | terminal startedAt =>
      cases startedAt with
      | none =>
          exact ⟨⟨rfl, rfl, rfl, rfl, rfl, rfl⟩, rfl, rfl, rfl, le_max_left _ _, rfl, rfl, rfl, rfl,
            rfl, rfl, rfl, fun _ hTime => hTime, fun _ => rfl, hTerminal, hAt _, hSlot _, hNewest⟩
      | some startedAt =>
          refine ⟨⟨rfl, rfl, rfl, rfl, rfl, rfl⟩, rfl, rfl, rfl, le_max_left _ _, rfl, rfl, rfl,
            rfl, rfl, rfl, rfl, ?_, fun _ => rfl, hTerminal, hAt _, hSlot _, hNewest⟩
          intro time hTime
          simp [ChannelState.applyObservedLifecycle, ChannelState.requestClose,
            ChannelState.markSealed, ChannelState.renewObservation, hTime]

/-! ### The account -/

variable {Scope : Type} {server : RequestServer Scope} {known : Knowledge} {channelId : String}
  {time : ℕ} {before after : ChannelState}

theorem accountOf_funded : (accountOf before).funded = true ↔ opensChannel before = false := by
  simp [accountOf]

theorem opensChannel_congr (hSetup : after.pendingSetup = before.pendingSetup) :
    opensChannel after = opensChannel before := by
  simp [opensChannel, hSetup]

theorem Renewed.account {slot now : ℕ} (hRenewed : Renewed before after slot now)
    (hFunded : opensChannel before = false) : Move (accountOf before) (accountOf after) := by
  have hAfter : accountOf after = { accountOf before with
      settled := after.settledOnChain
      closing := after.closeRequestedAt
      isSealed := after.sealed } := by
    simp only [accountOf, hRenewed.deposit, hRenewed.cumulative, hRenewed.spentAmount,
      hRenewed.finalCumulative, opensChannel_congr hRenewed.pendingSetup]
  rw [hAfter]
  exact .observe (accountOf_funded.mpr hFunded) hRenewed.settledOnChain hRenewed.closing
    hRenewed.isSealed

/-- The record that adopts what the chain settled, its funding apart. -/
def adopting (settled : ℕ) (state : ChannelState) : ChannelState :=
  { state with
    cumulative := max state.cumulative settled
    spentAmount := max state.spentAmount settled
    settledOnChain := max state.settledOnChain settled }

theorem activated_of_pending {deposit settled : ℕ} (hPending : opensChannel before = true) :
    activated deposit settled time before =
      (adopting settled { before with deposit, pendingSetup := none }).renewObservation time := by
  simp only [activated, hPending, if_true]
  rfl

theorem activated_of_funded {deposit settled : ℕ} (hFunded : opensChannel before = false) :
    activated deposit settled time before = (adopting settled before).renewObservation time := by
  simp only [activated, hFunded, Bool.false_eq_true, if_false]
  rfl

theorem accountOf_activated {deposit settled : ℕ} :
    accountOf (activated deposit settled time before) =
      (accountOf before).adopt deposit settled := by
  cases hSetup : opensChannel before with
  | true =>
      rw [activated_of_pending hSetup]
      simp [accountOf, Account.adopt, adopting, ChannelState.renewObservation, hSetup]
      rfl
  | false =>
      rw [activated_of_funded hSetup]
      have hSame : opensChannel ((adopting settled before).renewObservation time) = false := hSetup
      simp [accountOf, Account.adopt, hSetup, hSame]
      exact ⟨rfl, rfl, rfl, rfl, rfl, rfl, rfl⟩

theorem accountOf_retired {marker : Json} :
    accountOf (retired marker before) = (accountOf before).adopt before.deposit 0 := by
  simp [accountOf, Account.adopt, retired, opensChannel]

theorem RecordMove.account (hMove : RecordMove server known channelId time before after)
    (hSound : Sound (accountOf before)) : Move (accountOf before) (accountOf after) := by
  have hCovered : before.spentAmount ≤ before.cumulative := hSound.covered
  cases hMove with
  | aside hSame => exact hSame.account ▸ .rest _
  | @voucher voucher amount lastActivityAt lifecycle hAdmits hRises hWithin hAmount hSigned =>
      refine .charge hAdmits.opened hRises.le hWithin (Nat.le_add_right _ amount) ?_
      change before.spentAmount + amount ≤ voucher.newCumulative
      omega
  | @operator delta signature entry hAdmits hWithin hSigned hTotal hAsked hRecorded =>
      exact .charge hAdmits.opened (Nat.le_add_right _ delta) hWithin (Nat.le_add_right _ delta)
        (Nat.add_le_add_right hCovered delta)
  | @commit task nowMs index hFunded hUnsealed hUnfixed hPays hWithin hSigned =>
      have hRedeem := Move.redeem (accountOf_funded.mpr hFunded) hUnsealed hUnfixed
        (hPays.trans_le hWithin : (accountOf before).authorized +
          (before.pendingDeliveries.get index).amount ≤ (accountOf before).deposit)
      have hAfter : (accountOf before).authorized + (before.pendingDeliveries.get index).amount =
          task.newCumulative := hPays
      rw [hAfter] at hRedeem
      exact hRedeem
  | @close final owed requestedAt pendingDeliveries hOpened hOwes hRises hWithin hCarried =>
      refine .close hOpened hRises hWithin (Nat.le_add_right _ owed) ?_
      rw [saturatingAdd] at hOwes
      omega
  | @topUp amount lastActivityAt signature lifecycle hOpened hUnknown hFinalized =>
      exact .topUp hOpened
  | @observed renewed settled slot now shown lifecycle hFunded hRenewed hSaw hPaid =>
      exact (renewed_of_fresh hRenewed).account hFunded
  | @settled settled hFunded hPaid =>
      exact .observe (accountOf_funded.mpr hFunded) (le_max_left _ settled) (fun _ hTime => hTime)
        fun hSealed => hSealed
  | markSealed hFunded =>
      exact .observe (accountOf_funded.mpr hFunded) le_rfl (fun _ hTime => hTime) fun _ => rfl
  | @activated deposit settled hLanded hPaid =>
      rw [accountOf_activated]
      exact .adopt
  | @retired marker =>
      rw [accountOf_retired]
      exact .adopt

/-! ### The terms and the watermark -/

theorem sameTerms_activated {deposit settled : ℕ} :
    SameTerms before (activated deposit settled time before) := by
  cases hSetup : opensChannel before with
  | true =>
      rw [activated_of_pending hSetup]
      exact ⟨rfl, rfl, rfl, rfl, rfl, rfl⟩
  | false =>
      rw [activated_of_funded hSetup]
      exact ⟨rfl, rfl, rfl, rfl, rfl, rfl⟩

theorem RecordMove.terms (hMove : RecordMove server known channelId time before after) :
    SameTerms before after := by
  cases hMove with
  | aside hSame => exact hSame.toSameTerms
  | observed hFunded hRenewed hSaw hPaid =>
      have hTerms := (renewed_of_fresh hRenewed).toSameTerms
      exact ⟨hTerms.1, hTerms.2, hTerms.3, hTerms.4, hTerms.5, hTerms.6⟩
  | activated hLanded hPaid => exact sameTerms_activated
  | _ => exact ⟨rfl, rfl, rfl, rfl, rfl, rfl⟩

/-- The watermark is settled, or the stored voucher proves it. -/
def RequestServer.Proven (server : RequestServer Scope) (channelId : String)
    (state : ChannelState) : Prop :=
  state.settledOnChain < state.cumulative → ∃ signature,
    state.highestVoucherSignature = some signature ∧
      server.Signed channelId state.cumulative (state.highestVoucherExpiresAt.getD 0) signature
        state.authorizedSigner

theorem RequestServer.Proven.of_settled
    (hProven : server.Proven channelId before) (hSigner : SameTerms before after)
    (hCumulative : after.cumulative = before.cumulative ∨ after.cumulative ≤ after.settledOnChain)
    (hSettled : before.settledOnChain ≤ after.settledOnChain)
    (hSignature : after.highestVoucherSignature = before.highestVoucherSignature)
    (hExpiresAt : after.highestVoucherExpiresAt = before.highestVoucherExpiresAt) :
    server.Proven channelId after := by
  intro hUnsettled
  rcases hCumulative with hSame | hAdopted
  · rw [hSignature, hExpiresAt, hSigner.authorizedSigner, hSame]
    exact hProven (by omega)
  · omega

theorem proven_activated {deposit settled : ℕ} (hProven : server.Proven channelId before) :
    server.Proven channelId (activated deposit settled time before) := by
  have hAdopting : ∀ base : ChannelState, base.cumulative = before.cumulative →
      base.settledOnChain = before.settledOnChain →
      ((adopting settled base).renewObservation time).cumulative = before.cumulative ∨
        ((adopting settled base).renewObservation time).cumulative ≤
          ((adopting settled base).renewObservation time).settledOnChain := by
    intro base hCumulative hSettled
    simp only [adopting, ChannelState.renewObservation, hCumulative, hSettled]
    omega
  have hTerms : SameTerms before (activated deposit settled time before) := sameTerms_activated
  cases hSetup : opensChannel before with
  | true =>
      rw [activated_of_pending hSetup] at hTerms ⊢
      exact hProven.of_settled hTerms (hAdopting _ rfl rfl) (le_max_left _ _) rfl rfl
  | false =>
      rw [activated_of_funded hSetup] at hTerms ⊢
      exact hProven.of_settled hTerms (hAdopting _ rfl rfl) (le_max_left _ _) rfl rfl

theorem RecordMove.proven (hMove : RecordMove server known channelId time before after)
    (hProven : server.Proven channelId before) : server.Proven channelId after := by
  have hTerms := hMove.terms
  cases hMove with
  | aside hSame =>
      have hCumulative : after.cumulative = before.cumulative :=
        congrArg Account.authorized hSame.account
      have hSettled : after.settledOnChain = before.settledOnChain :=
        congrArg Account.settled hSame.account
      exact hProven.of_settled hTerms (.inl hCumulative) hSettled.ge hSame.signature hSame.expiresAt
  | voucher hAdmits hRises hWithin hAmount hSigned => exact fun _ => ⟨_, rfl, hSigned⟩
  | operator hAdmits hWithin hSigned hTotal hAsked hRecorded => exact fun _ => ⟨_, rfl, hSigned⟩
  | commit hFunded hUnsealed hUnfixed hPays hWithin hSigned => exact fun _ => ⟨_, rfl, hSigned⟩
  | close hOpened hOwes hRises hWithin hCarried =>
      rcases hCarried with ⟨hCumulative, hSignature, hExpiresAt⟩ | ⟨signature, hSignature, hSigned⟩
      · exact hProven.of_settled hTerms (.inl hCumulative) le_rfl hSignature hExpiresAt
      · exact fun _ => ⟨signature, hSignature, hSigned⟩
  | topUp hOpened hUnknown hFinalized =>
      exact hProven.of_settled hTerms (.inl rfl) le_rfl rfl rfl
  | @observed renewed settled slot now shown lifecycle hFunded hRenewed hSaw hPaid =>
      have hAfter := renewed_of_fresh hRenewed
      exact hProven.of_settled hTerms (.inl hAfter.cumulative) hAfter.settledOnChain
        hAfter.signature hAfter.expiresAt
  | settled hFunded hPaid => exact hProven.of_settled hTerms (.inl rfl) (le_max_left _ _) rfl rfl
  | markSealed hFunded => exact hProven.of_settled hTerms (.inl rfl) le_rfl rfl rfl
  | activated hLanded hPaid => exact proven_activated hProven
  | retired => exact hProven.of_settled hTerms (.inl rfl) le_rfl rfl rfl

/-! ### The requests that were charged -/

theorem totalFor_recordUse_self {uses : List ProcessedUse} {entry : ProcessedUse} :
    totalFor (recordUse uses entry) entry.idempotencyKey = entry.amount.getD 0 := by
  have hOthers : ∀ recorded ∈ (uses.filter fun recorded =>
      recorded.idempotencyKey ≠ entry.idempotencyKey).drop
        ((uses.filter fun recorded => recorded.idempotencyKey ≠ entry.idempotencyKey).length + 1 -
          maxProcessedUses),
      ¬decide (recorded.idempotencyKey = entry.idempotencyKey) = true := by
    intro recorded hMem
    simpa using List.of_mem_filter (List.mem_of_mem_drop hMem)
  have hDrop : (uses.filter fun recorded =>
      recorded.idempotencyKey ≠ entry.idempotencyKey).length + 1 - maxProcessedUses ≤
        (uses.filter fun recorded => recorded.idempotencyKey ≠ entry.idempotencyKey).length := by
    simp only [maxProcessedUses]
    omega
  rw [totalFor, recordUse, List.length_append, List.length_singleton,
    List.drop_append_of_le_length hDrop, List.find?_append, List.find?_eq_none.mpr hOthers]
  simp

theorem totalFor_recordUse {uses : List ProcessedUse} {entry : ProcessedUse} {key : String}
    (hFits : (recordUse uses entry).length < maxProcessedUses) :
    totalFor (recordUse uses entry) key =
      if key = entry.idempotencyKey then entry.amount.getD 0 else totalFor uses key := by
  have hAll : recordUse uses entry =
      (uses.filter fun recorded => recorded.idempotencyKey ≠ entry.idempotencyKey) ++ [entry] := by
    simp only [recordUse, List.length_drop] at hFits ⊢
    rw [Nat.sub_eq_zero_of_le (by omega), List.drop_zero]
  by_cases hKey : key = entry.idempotencyKey
  · rw [if_pos hKey, hKey]
    exact totalFor_recordUse_self
  · have hSame : (fun recorded : ProcessedUse =>
        decide (decide (recorded.idempotencyKey ≠ entry.idempotencyKey) = true ∧
          decide (recorded.idempotencyKey = key) = true)) =
        fun recorded => decide (recorded.idempotencyKey = key) := by
      funext recorded
      by_cases hRecorded : recorded.idempotencyKey = key
      · simp [hRecorded, hKey]
      · simp [hRecorded]
    rw [totalFor, hAll, List.find?_append, List.find?_filter, hSame, if_neg hKey, totalFor]
    have hEntry : ([entry].find? fun recorded => decide (recorded.idempotencyKey = key)) =
        none := by
      simp [Ne.symm hKey]
    rw [hEntry, Option.or_none]

theorem getLast?_recordUse {uses : List ProcessedUse} {entry : ProcessedUse} :
    (recordUse uses entry).getLast? = some entry := by
  have hLess : (uses.filter fun recorded => recorded.idempotencyKey ≠
      entry.idempotencyKey).length + 1 - maxProcessedUses <
        (uses.filter fun recorded =>
          recorded.idempotencyKey ≠ entry.idempotencyKey).length + 1 := by
    simp only [maxProcessedUses]
    omega
  simp only [recordUse, List.getLast?_drop, List.length_append, List.length_singleton]
  rw [if_neg (by omega)]
  simp

theorem mem_recordUse {uses : List ProcessedUse} {entry recorded : ProcessedUse}
    (hMem : recorded ∈ recordUse uses entry) : recorded ∈ uses ∨ recorded = entry := by
  have hAll := List.mem_of_mem_drop hMem
  rcases List.mem_append.mp hAll with hOld | hNew
  · exact .inl (List.mem_of_mem_filter hOld)
  · exact .inr (List.mem_singleton.mp hNew)

theorem RecordMove.uses (hMove : RecordMove server known channelId time before after) :
    after.processedUses = before.processedUses ∨ ∃ entry delta,
      after.processedUses = recordUse before.processedUses entry ∧
        entry.amount = some (totalFor before.processedUses entry.idempotencyKey + delta) ∧
        after.spentAmount = before.spentAmount + delta ∧
        known.asked channelId entry.challengeId entry.idempotencyKey
          (totalFor before.processedUses entry.idempotencyKey + delta) := by
  cases hMove with
  | aside hSame => exact .inl hSame.uses
  | @operator delta signature entry hAdmits hWithin hSigned hTotal hAsked hRecorded =>
      exact .inr ⟨entry, delta, by rw [RequestServer.operatorCharged], hTotal, rfl,
        hAsked _ hTotal⟩
  | observed hFunded hRenewed hSaw hPaid => exact .inl (renewed_of_fresh hRenewed).uses
  | activated hLanded hPaid =>
      left
      cases hSetup : opensChannel before with
      | true =>
          rw [activated_of_pending hSetup]
          rfl
      | false =>
          rw [activated_of_funded hSetup]
          rfl
  | _ => exact .inl rfl

/-! ### The deposits that were credited -/

/-- The deposit is that of an open that landed, with the finalized top-ups on it. -/
structure Deposited (known : Knowledge) (channelId : String) (state : ChannelState) : Prop where
  once : state.processedTopupSignatures.Nodup
  pending : opensChannel state = true →
    state.processedTopupSignatures = [] ∧ state.deposit = 0
  sum : ∃ opened amounts, (opened = 0 ∨ known.landed channelId opened) ∧
    state.deposit = opened + amounts.sum ∧
    List.Forall₂ (known.finalized channelId) state.processedTopupSignatures amounts

theorem Deposited.of_same (hDeposited : Deposited known channelId before)
    (hDeposit : after.deposit = before.deposit) (hFunded : opensChannel after = true →
      opensChannel before = true)
    (hTopUps : after.processedTopupSignatures = before.processedTopupSignatures) :
    Deposited known channelId after where
  once := hTopUps ▸ hDeposited.once
  pending hPending := by
    rw [hTopUps, hDeposit]
    exact hDeposited.pending (hFunded hPending)
  sum := by
    rw [hTopUps, hDeposit]
    exact hDeposited.sum

theorem RecordMove.deposited (hMove : RecordMove server known channelId time before after)
    (hDeposited : Deposited known channelId before) : Deposited known channelId after := by
  cases hMove with
  | aside hSame =>
      have hFunded : opensChannel after = opensChannel before := by
        simpa [accountOf] using congrArg Account.funded hSame.account
      exact hDeposited.of_same (congrArg Account.deposit hSame.account)
        (fun hPending => hFunded ▸ hPending) hSame.topUps
  | @topUp amount lastActivityAt signature lifecycle hOpened hUnknown hFinalized =>
      rcases hDeposited.sum with ⟨opened, amounts, hLanded, hSum, hEach⟩
      refine ⟨?_, ?_, opened, amounts ++ [amount], hLanded, ?_, ?_⟩
      · exact hDeposited.once.append (List.nodup_singleton _) (by simpa using hUnknown)
      · intro hPending
        have hFunded : opensChannel before = false := accountOf_funded.mp hOpened.funded
        have hStill : opensChannel before = true := hPending
        rw [hFunded] at hStill
        cases hStill
      · simp only [hSum, List.sum_append, List.sum_singleton]
        omega
      · exact List.rel_append hEach (.cons hFinalized .nil)
  | observed hFunded hRenewed hSaw hPaid =>
      have hAfter := renewed_of_fresh hRenewed
      exact hDeposited.of_same hAfter.deposit
        (fun hPending => (opensChannel_congr hAfter.pendingSetup) ▸ hPending) hAfter.topUps
  | @activated deposit settled hLanded hPaid =>
      cases hSetup : opensChannel before with
      | true =>
          rw [activated_of_pending hSetup]
          have hNone := (hDeposited.pending hSetup).1
          refine ⟨?_, ?_, deposit, [], .inr hLanded, rfl, ?_⟩
          · exact hNone ▸ List.nodup_nil
          · intro hPending
            cases hPending
          · exact hNone ▸ .nil
      | false =>
          rw [activated_of_funded hSetup]
          exact hDeposited.of_same rfl (fun hPending => hPending) rfl
  | retired => exact hDeposited.of_same rfl (fun hPending => by cases hPending) rfl
  | _ => exact hDeposited.of_same rfl (fun hPending => hPending) rfl

/-! ### What the chain showed -/

theorem paid_of_max {settled : ℕ} (hPaid : known.paid channelId settled)
    (hMax : after.settledOnChain = max before.settledOnChain settled) :
    after.settledOnChain = before.settledOnChain ∨ known.paid channelId after.settledOnChain := by
  rcases le_total before.settledOnChain settled with hMore | hLess
  · rw [max_eq_right hMore] at hMax
    exact .inr (hMax ▸ hPaid)
  · rw [max_eq_left hLess] at hMax
    exact .inl hMax

theorem settledOnChain_activated {deposit settled : ℕ} :
    (activated deposit settled time before).settledOnChain =
      max before.settledOnChain settled := by
  have hAccount : accountOf (activated deposit settled time before) =
      (accountOf before).adopt deposit settled := accountOf_activated
  exact congrArg Account.settled hAccount

theorem RecordMove.paid (hMove : RecordMove server known channelId time before after) :
    after.settledOnChain = before.settledOnChain ∨ known.paid channelId after.settledOnChain := by
  cases hMove with
  | aside hSame => exact .inl (congrArg Account.settled hSame.account)
  | observed hFunded hRenewed hSaw hPaid =>
      have hMax := settledOnChain_of_fresh hRenewed
      exact paid_of_max hPaid hMax
  | settled hFunded hPaid => exact paid_of_max hPaid rfl
  | activated hLanded hPaid => exact paid_of_max hPaid settledOnChain_activated
  | _ => exact .inl rfl

theorem observation_activated {deposit settled : ℕ} :
    (activated deposit settled time before).onchainObservedAt = time ∧
      (activated deposit settled time before).onchainObservedSlot = before.onchainObservedSlot ∧
      sessionOpenIsTerminal (activated deposit settled time before) =
        sessionOpenIsTerminal before := by
  have hSlotKey : onchainObservedSlotKey ≠ onchainObservedAtKey := by decide
  have hTerminalKey : openTerminalKey ≠ onchainObservedAtKey := by decide
  have hRenewed : ∀ state : ChannelState, state.extra = before.extra →
      (state.renewObservation time).onchainObservedAt = time ∧
        (state.renewObservation time).onchainObservedSlot = before.onchainObservedSlot ∧
        sessionOpenIsTerminal (state.renewObservation time) = sessionOpenIsTerminal before := by
    intro state hExtra
    refine ⟨?_, ?_, ?_⟩
    · simp [ChannelState.onchainObservedAt, ChannelState.renewObservation, ChannelState.extraU64,
        Json.asU64]
    · simp [ChannelState.onchainObservedSlot, ChannelState.renewObservation,
        ChannelState.extraU64, lookup_insertMember_of_ne hSlotKey, hExtra]
    · simp [sessionOpenIsTerminal, ChannelState.renewObservation,
        lookup_insertMember_of_ne hTerminalKey, hExtra]
  cases hSetup : opensChannel before with
  | true =>
      rw [activated_of_pending hSetup]
      exact hRenewed _ rfl
  | false =>
      rw [activated_of_funded hSetup]
      exact hRenewed _ rfl

theorem retired_terminal {marker : Json} :
    sessionOpenIsTerminal (retired marker before) = true := by
  simp [sessionOpenIsTerminal, retired]

theorem retired_observedSlot {marker : Json} :
    (retired marker before).onchainObservedSlot = before.onchainObservedSlot := by
  have hKey : onchainObservedSlotKey ≠ openTerminalKey := by decide
  simp [ChannelState.onchainObservedSlot, ChannelState.extraU64, retired,
    lookup_insertMember_of_ne hKey]

theorem RecordMove.observedSlot (hMove : RecordMove server known channelId time before after) :
    before.onchainObservedSlot ≤ after.onchainObservedSlot := by
  cases hMove with
  | aside hSame => exact hSame.observedSlot.ge
  | observed hFunded hRenewed hSaw hPaid =>
      have hAfter := renewed_of_fresh hRenewed
      exact hAfter.newest.trans hAfter.observedSlot.ge
  | activated hLanded hPaid => exact observation_activated.2.1.ge
  | retired => exact retired_observedSlot.ge
  | _ => exact le_rfl

/-- How a record came to take charges after a move: it took them before, on the same look at the
chain, or a read or a confirmed open just showed the channel open. -/
theorem RecordMove.seen (hMove : RecordMove server known channelId time before after)
    (hOpened : (accountOf after).Opened) (hLive : sessionOpenIsTerminal after = false) :
    (opensChannel before = false ∧ sessionOpenIsTerminal before = false ∧
        after.onchainObservedAt = before.onchainObservedAt) ∨
      known.sawOpen channelId after.onchainObservedAt ∨
      after.onchainObservedAt = time ∧ ∃ deposit, known.landed channelId deposit := by
  have hFunded : opensChannel after = false := accountOf_funded.mp hOpened.funded
  cases hMove with
  | aside hSame =>
      have hSetup : opensChannel after = opensChannel before := by
        simpa [accountOf] using congrArg Account.funded hSame.account
      exact .inl ⟨hSetup ▸ hFunded, hSame.terminal ▸ hLive, hSame.observedAt⟩
  | @observed renewed settled slot now shown lifecycle hSetup hRenewed hSaw hPaid =>
      right
      left
      have hShown : shown = .opened := by
        by_contra hNot
        exact closed_of_fresh hRenewed hNot hOpened
      have hAt : ({ renewed with lifecycle } : ChannelState).onchainObservedAt = now :=
        (renewed_of_fresh hRenewed).observedAt
      rw [hAt]
      exact hSaw hShown
  | activated hLanded hPaid => exact .inr (.inr ⟨observation_activated.1, _, hLanded⟩)
  | retired => simp [retired_terminal] at hLive
  | _ => exact .inl ⟨hFunded, hLive, rfl⟩

/-! ### Why money moves -/

/-- A delivery that was reserved is paid in full. -/
structure Redeems (before after : ChannelState) (delivery : PendingDelivery) : Prop where
  reserved : delivery ∈ before.pendingDeliveries
  taken : after.pendingDeliveries.length + 1 = before.pendingDeliveries.length
  unsealed : before.sealed = false
  unfixed : before.finalCumulative = none
  cumulative : after.cumulative = before.cumulative + delivery.amount
  spent : after.spentAmount = before.spentAmount + delivery.amount

/-- The reasons for which a record can come to owe more. -/
inductive Reason (server : RequestServer Scope) (time : ℕ) (before after : ChannelState) :
    Prop where
  /-- A charge, on an open channel that was read recently. -/
  | charge (admits : server.Admits time before) (within : after.cumulative ≤ before.deposit)
  | delivery (delivery : PendingDelivery) (redeems : Redeems before after delivery)
      (within : after.cumulative ≤ before.deposit)
  /-- The close of the client. -/
  | close (opened : (accountOf before).Opened) (closing : after.closeRequestedAt.isSome = true)
      (fixed : after.finalCumulative = some after.cumulative)
  /-- The chain paid out as much. -/
  | settled (cumulative : after.cumulative ≤ max before.cumulative after.settledOnChain)
      (spent : after.spentAmount ≤ max before.spentAmount after.settledOnChain)

theorem reason_activated {deposit settled : ℕ} :
    Reason server time before (activated deposit settled time before) := by
  have hAccount : accountOf (activated deposit settled time before) =
      (accountOf before).adopt deposit settled := accountOf_activated
  have hCumulative : (activated deposit settled time before).cumulative =
      max before.cumulative settled := congrArg Account.authorized hAccount
  have hSpent : (activated deposit settled time before).spentAmount =
      max before.spentAmount settled := congrArg Account.spent hAccount
  have hSettled : (activated deposit settled time before).settledOnChain =
      max before.settledOnChain settled := congrArg Account.settled hAccount
  exact .settled (by omega) (by omega)

theorem RecordMove.reason (hMove : RecordMove server known channelId time before after) :
    Reason server time before after := by
  cases hMove with
  | aside hSame =>
      have hCumulative : after.cumulative = before.cumulative :=
        congrArg Account.authorized hSame.account
      have hSpent : after.spentAmount = before.spentAmount := congrArg Account.spent hSame.account
      exact .settled (by omega) (by omega)
  | voucher hAdmits hRises hWithin hAmount hSigned => exact .charge hAdmits hWithin
  | operator hAdmits hWithin hSigned hTotal hAsked hRecorded => exact .charge hAdmits hWithin
  | @commit task nowMs index hFunded hUnsealed hUnfixed hPays hWithin hSigned =>
      refine .delivery (before.pendingDeliveries.get index) ?_ hWithin
      refine ⟨List.get_mem _ _, ?_, hUnsealed, hUnfixed, hPays.symm, rfl⟩
      exact List.length_eraseIdx_add_one index.isLt
  | close hOpened hOwes hRises hWithin hCarried => exact .close hOpened rfl rfl
  | observed hFunded hRenewed hSaw hPaid =>
      have hAfter := renewed_of_fresh hRenewed
      exact .settled (hAfter.cumulative.le.trans (le_max_left _ _))
        (hAfter.spentAmount.le.trans (le_max_left _ _))
  | activated hLanded hPaid => exact reason_activated
  | _ => exact .settled (le_max_left _ _) (le_max_left _ _)

end PayKit.Session
