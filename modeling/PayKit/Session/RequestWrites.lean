import PayKit.Session.RecordHistory

/-!
# The updates of the request server are moves

One lemma for each updater: what it wrote follows from the record that it found by a move. What
an update relies on besides that record, such as a signature verified on an older copy of it, is
a hypothesis here, which the programs establish before they call the store.
-/

namespace PayKit.Session

open Accounting Channel Concurrency Control Encoding Machine Store
open Metered (SessionSigner SignedVoucher CommitTask CommitPayload DeliveryRequest reserveDelivery
  recordDeliveryUsage commitDelivery requireFreshSnapshot verifySignature)
open RequestServer (FinalVoucher SignedCharge)

variable {Scope : Type} {server : RequestServer Scope} {known : Knowledge}
  {channelId : String} {time : ℕ} {before updated : ChannelState}

theorem map_swap_eq_ok {Failure First Second : Type} {outcome : Except Failure (First × Second)}
    {first : First} {second : Second} :
    outcome.map Prod.swap = .ok (second, first) ↔ outcome = .ok (first, second) := by
  cases outcome with
  | ok value =>
      rcases value with ⟨left, right⟩
      constructor <;> intro hSame <;> cases hSame <;> rfl
  | error failure => constructor <;> intro hSame <;> cases hSame

/-! ### The policy -/

theorem check_eq_ok [DecidableEq Scope] {state : ChannelState}
    (hChecked : server.store.check state = .ok ()) :
    sessionOpenIsTerminal state = false ∧ opensChannel state = false := by
  simp only [BoundStore.check, mapError_eq_ok, requireBinding, bind_eq_ok, refuseIf_eq_ok,
    Bool.false_eq_true, not_false_eq_true, true_and, Bool.not_eq_true] at hChecked
  rcases hChecked with ⟨-, hLive, -, -, -, -, hFunded⟩
  exact ⟨hLive, hFunded⟩

theorem bound_eq_ok [DecidableEq Scope] {Result : Type} {updater : Updater UpdateFailure Result}
    {record : Option ChannelState} {result : Result}
    (hBound : server.bound updater time record = .ok (result, updated)) :
    server.store.checkExisting record = .ok () ∧ updater time record = .ok (result, updated) ∧
      server.store.check updated = .ok () := by
  simp only [RequestServer.bound, bind_eq_ok, mapError_eq_ok, pure, Except.pure, Except.ok.injEq,
    Prod.mk.injEq] at hBound
  rcases hBound with ⟨⟨⟩, hExisting, ⟨value, record⟩, hUpdated, ⟨⟩, hChecked, rfl, rfl⟩
  exact ⟨hExisting, hUpdated, hChecked⟩

theorem plainly_eq_ok {Result : Type} {updater : Updater StoreError Result}
    {record : Option ChannelState} {result : Result} :
    plainly updater time record = .ok (result, updated) ↔
      updater time record = .ok (result, updated) := by
  simp [plainly]

/-! ### Moves aside -/

theorem Aside.refl (state : ChannelState) : Aside state state :=
  { SameTerms.refl state with
    observedAt := rfl
    observedSlot := rfl
    terminal := rfl
    account := rfl
    signature := rfl
    expiresAt := rfl
    uses := rfl
    topUps := rfl }

/-- What only concerns deliveries, the idle deadline and the last activity is aside. -/
theorem aside_bookkeeping {pendingDeliveries : List PendingDelivery}
    {nextDeliverySequence lastActivityAt spentAmount : ℕ} {lifecycle : Option ChannelLifecycle}
    (hSpent : spentAmount = before.spentAmount) :
    Aside before { before with
      spentAmount
      pendingDeliveries
      nextDeliverySequence
      lastActivityAt
      lifecycle } := by
  subst hSpent
  exact { SameTerms.refl before with
    observedAt := rfl
    observedSlot := rfl
    terminal := rfl
    account := rfl
    signature := rfl
    expiresAt := rfl
    uses := rfl
    topUps := rfl }

theorem reserveDelivery_aside {maxAge now : ℕ} {currency : String} {request : DeliveryRequest}
    {directive : Metered.MeteringDirective}
    (hReserved : reserveDelivery maxAge now currency request (some before) =
      .ok (updated, directive)) : Aside before updated := by
  simp only [reserveDelivery, bind_eq_ok, pure, Except.pure, Except.ok.injEq, Prod.mk.injEq]
    at hReserved
  rcases hReserved with ⟨-, -, -, -, -, -, -, -, -, -, rfl, -⟩
  exact aside_bookkeeping rfl

theorem recordUsage_aside {deliveryId : String} {amount : ℕ}
    (hRecorded : recordDeliveryUsage deliveryId amount (some before) = .ok updated) :
    Aside before updated := by
  rcases Metered.recordDeliveryUsage_eq_ok hRecorded with ⟨index, rfl | ⟨-, rfl⟩⟩
  · exact aside_bookkeeping rfl
  · exact aside_bookkeeping rfl

/-! ### Charges -/

theorem admits_of_checks (hLive : sessionOpenIsTerminal before = false)
    (hFunded : opensChannel before = false) (hUnsealed : before.sealed = false)
    (hClosing : before.closeRequestedAt = none)
    (hFresh : requireFreshSnapshot before server.config.snapshotMaxAge time = .ok ()) :
    server.Admits time before := by
  simp only [requireFreshSnapshot, refuseIf_eq_ok] at hFresh
  exact ⟨⟨accountOf_funded.mpr hFunded, hUnsealed, hClosing⟩, hLive, by omega⟩

/-- A voucher that was verified on an older copy of the record. -/
structure RequestServer.Verified (server : RequestServer Scope) (channelId : String)
    (voucher : Voucher) (snapshot : ChannelState) : Prop where
  within : voucher.newCumulative ≤ snapshot.deposit
  signed : server.Signed channelId voucher.newCumulative voucher.expiresAt voucher.signature
    snapshot.authorizedSigner

theorem verified_of_checkSnapshot {voucher : Voucher} {snapshot : ChannelState}
    (hChecked : checkSnapshot channelId server.checkSignature voucher snapshot = .ok ()) :
    server.Verified channelId voucher snapshot := by
  refine ⟨(checkSnapshot_eq_ok hChecked).1, ?_⟩
  simp only [checkSnapshot, refuseIf_bind_eq_ok, verifyVoucherSignature, mapError_eq_ok] at hChecked
  rcases hChecked with ⟨-, -, -, -, -, -, -, hSigned⟩
  exact hSigned

theorem priceVoucher_eq_ok {amount : ℕ} {allowReplay replay : Bool}
    {guard : ChannelState → Except SessionError Unit} {expiresAt : ℤ}
    (hPriced : server.priceVoucher amount allowReplay guard expiresAt time before replay =
      .ok updated) :
    requireFreshSnapshot before server.config.snapshotMaxAge time = .ok () ∧
      ∃ lifecycle, updated = { before with
        spentAmount := before.spentAmount + if replay then 0 else amount
        lastActivityAt := nowMillis time
        lifecycle } := by
  simp only [RequestServer.priceVoucher, bind_eq_ok, okOr_eq_ok, pure, Except.pure,
    Except.ok.injEq] at hPriced
  rcases hPriced with ⟨⟨⟩, hFresh, -, -, -, -, spentAmount, hSpent, rfl⟩
  exact ⟨hFresh, _, by rw [add_eq_of_checkedAdd hSpent]⟩

theorem voucherUpdater_moves {voucher : Voucher} {amount : ℕ} {allowReplay flag : Bool}
    {guard : ChannelState → Except SessionError Unit} {snapshot : ChannelState}
    (hLive : sessionOpenIsTerminal before = false) (hFunded : opensChannel before = false)
    (hVerified : server.Verified channelId voucher snapshot) (hFollows : Follows snapshot before)
    (hAvailable : voucher.requiredAvailability = amount)
    (hUpdated : RequestServer.voucherUpdater voucher
      (server.priceVoucher amount allowReplay guard voucher.expiresAt) time (some before) =
        .ok (flag, updated)) : RecordMove server known channelId time before updated := by
  have hWithin : voucher.newCumulative ≤ before.deposit :=
    hVerified.within.trans hFollows.account.deposit
  have hSigned := hVerified.signed
  rw [← hFollows.terms.authorizedSigner] at hSigned
  simp only [RequestServer.voucherUpdater, map_swap_eq_ok, commitVoucher, refuseIf_bind_eq_ok,
    Bool.not_eq_true, Option.isSome_eq_false_iff, Option.isNone_iff_eq_none] at hUpdated
  rcases hUpdated with ⟨hUnsealed, hClosing, hUpdated⟩
  split at hUpdated
  · simp only [bind_eq_ok, pure, Except.pure, Except.ok.injEq, Prod.mk.injEq] at hUpdated
    rcases hUpdated with ⟨priced, hPriced, rfl, -⟩
    rcases priceVoucher_eq_ok hPriced with ⟨-, lifecycle, rfl⟩
    exact .aside (aside_bookkeeping rfl)
  · simp only [bind_eq_ok, refuseIf_eq_ok, pure, Except.pure, Except.ok.injEq,
      Prod.mk.injEq, not_le, not_lt] at hUpdated
    rcases hUpdated with ⟨-, hAbove, -, hCovered, priced, hPriced, rfl, -⟩
    rcases priceVoucher_eq_ok hPriced with ⟨hFresh, lifecycle, rfl⟩
    have hAdmits := admits_of_checks hLive hFunded hUnsealed hClosing hFresh
    exact .voucher hAdmits hAbove hWithin (hAvailable ▸ hCovered) hSigned

/-! ### Operator charges -/

/-- What the parameters of an operator's server promise: its keys sign what they are given. -/
structure RequestServer.Signs (server : RequestServer Scope) (key : SessionSigner) : Prop where
  verifies : ∀ data signature cumulative, key.signMessage data = .ok signature →
    parseU64 data.cumulativeAmount = some cumulative →
    server.Signed data.channelId cumulative (data.expiresAt.getD 0) signature key.pubkey

theorem totalFor_of_find? {uses : List ProcessedUse} {key : String}
    (hNone : (uses.find? fun entry => decide (entry.idempotencyKey = key)) = none) :
    totalFor uses key = 0 := by
  rw [totalFor, hNone]
  rfl

theorem checkUseBinding_eq_ok {proof : SessionAuthentication} {authentication : String}
    (hBound : server.checkUseBinding before proof authentication = .ok ()) :
    before.voucherSigner = operatorSigner := by
  simp only [RequestServer.checkUseBinding, bind_eq_ok, refuseIf_eq_ok, not_or, not_not] at hBound
  rcases hBound with ⟨-, -, -, ⟨hOperator, -⟩, -⟩
  exact hOperator

theorem chargeUse_moves {payload : UsePayload}
    {authentication challengeId idempotencyKey : String} {key : SessionSigner}
    {acceptance : UseAcceptance} (hLive : sessionOpenIsTerminal before = false)
    (hFunded : opensChannel before = false) (hOwned : server.Owns channelId before)
    (hKey : server.Signs key) (hOperator : key.pubkey = server.operator)
    (hAsked : known.asked channelId challengeId idempotencyKey server.amount)
    (hUpdated : server.chargeUse payload authentication challengeId idempotencyKey key time
      (some before) = .ok (acceptance, updated)) :
    RecordMove server known channelId time before updated := by
  simp only [RequestServer.chargeUse, bind_eq_ok, refuseIf_eq_ok, not_or, Bool.not_eq_true,
    Option.isSome_eq_false_iff, Option.isNone_iff_eq_none] at hUpdated
  rcases hUpdated with ⟨-, ⟨hUnsealed, hClosing⟩, ⟨⟩, hBinding, hUpdated⟩
  split at hUpdated
  · cases hUpdated
    exact .aside (.refl _)
  · rename_i hNone
    simp only [bind_eq_ok, refuseIf_eq_ok, okOr_eq_ok, mapError_eq_ok, not_lt, pure, Except.pure,
      Except.ok.injEq, Prod.mk.injEq] at hUpdated
    rcases hUpdated with
      ⟨⟨⟩, hFresh, cumulative, hSum, -, hWithin, signature, hSigned, spentAmount, hSpent, -, rfl⟩
    rcases checkedAdd_eq_some.mp hSum with ⟨rfl, hFits⟩
    have hTotal := totalFor_of_find? hNone
    have hVerified := hKey.verifies _ _ _ hSigned (parseU64_repr hFits)
    have hVoucherSigner := hOwned.voucherSigner.symm.trans (checkUseBinding_eq_ok hBinding)
    rw [hOwned.channelId, hOperator, ← hOwned.authorizedSigner hVoucherSigner] at hVerified
    have hAdmits := admits_of_checks hLive hFunded hUnsealed hClosing hFresh
    rw [← add_eq_of_checkedAdd hSpent]
    refine .operator hAdmits hWithin hVerified ?_ ?_ rfl
    · simp only [hTotal, zero_add]
    · intro total hAmount
      cases hAmount
      exact hAsked

theorem recordedUse_total {authenticated : AuthenticatedUse} {recorded : Option RecordedUse}
    (hRecorded : recordedUse before authenticated = .ok recorded) :
    RequestServer.totalOf recorded =
      totalFor before.processedUses authenticated.idempotencyKey := by
  simp only [recordedUse] at hRecorded
  split at hRecorded
  · rename_i hNone
    cases hRecorded
    exact (totalFor_of_find? hNone).symm
  · rename_i entry hFound
    simp only [bind_eq_ok, pure, Except.pure, Except.ok.injEq] at hRecorded
    rcases hRecorded with ⟨-, -, rfl⟩
    rw [totalFor, hFound]
    rfl

/-- A charge that was signed over a watermark, by the operator. -/
structure RequestServer.ChargeSigned (server : RequestServer Scope) (channelId : String)
    (charge : SignedCharge) : Prop where
  cumulative : charge.cumulative = charge.base + charge.delta
  grows : charge.chargedBefore ≤ charge.requestTotal
  signed : server.Signed channelId charge.cumulative 0 charge.signature server.operator

theorem commitCharge_moves {authenticated : AuthenticatedUse}
    {guard : ChannelState → Except SessionError Unit} {charge : SignedCharge}
    {recorded : Option RecordedUse} (hLive : sessionOpenIsTerminal before = false)
    (hFunded : opensChannel before = false) (hOwned : server.Owns channelId before)
    (hSigned : server.ChargeSigned channelId charge)
    (hAsked : known.asked channelId authenticated.challengeId authenticated.idempotencyKey
      charge.requestTotal)
    (hUpdated : server.commitCharge authenticated guard charge time (some before) =
      .ok (recorded, updated)) : RecordMove server known channelId time before updated := by
  simp only [RequestServer.commitCharge, bind_eq_ok, refuseIf_eq_ok, mapError_eq_ok, not_or,
    Bool.not_eq_true, Option.isSome_eq_false_iff, Option.isNone_iff_eq_none] at hUpdated
  rcases hUpdated with
    ⟨-, ⟨hUnsealed, hClosing⟩, ⟨⟩, hBound, ⟨⟩, hFresh, found, hFound, hUpdated⟩
  split at hUpdated
  · cases hUpdated
    exact .aside (.refl _)
  · simp only [bind_eq_ok, refuseIf_eq_ok, okOr_eq_ok, mapError_eq_ok, not_or, not_not, not_lt,
      pure, Except.pure, Except.ok.injEq, Prod.mk.injEq] at hUpdated
    rcases hUpdated with
      ⟨-, ⟨hBase, hBefore⟩, -, hWithin, -, -, spentAmount, hSpent, -, rfl⟩
    have hTotal := (recordedUse_total hFound).symm.trans hBefore
    have hOperator : server.voucherSigner = operatorSigner := by
      simp only [checkBoundAuthentication, refuseIf_eq_ok, not_or, not_not] at hBound
      exact hOwned.voucherSigner.symm.trans hBound.1
    have hVerified := hSigned.signed
    have hGrows := hSigned.grows
    have hAdmits := admits_of_checks hLive hFunded hUnsealed hClosing hFresh
    rw [← hOwned.authorizedSigner hOperator] at hVerified
    rw [hSigned.cumulative, ← hBase] at hVerified hWithin ⊢
    rw [← add_eq_of_checkedAdd hSpent]
    refine .operator hAdmits hWithin hVerified ?_ ?_ rfl
    · simp only [hTotal, SignedCharge.delta, Option.some.injEq]
      omega
    · intro total hAmount
      cases hAmount
      exact hAsked

/-! ### Top-ups -/

theorem creditTopUp_moves {signature : String} {amount : ℕ} {flag : Bool}
    (hFunded : opensChannel before = false)
    (hFinalized : signature ∉ before.processedTopupSignatures →
      known.finalized channelId signature amount)
    (hUpdated : server.creditTopUp channelId signature amount time (some before) =
      .ok (flag, updated)) : RecordMove server known channelId time before updated := by
  simp only [RequestServer.creditTopUp] at hUpdated
  split at hUpdated
  · cases hUpdated
    exact .aside (.refl _)
  · rename_i hUnknown
    simp only [bind_eq_ok, refuseIf_eq_ok, okOr_eq_ok, pure, Except.pure, Except.ok.injEq,
      Prod.mk.injEq, Bool.not_eq_true, Option.isSome_eq_false_iff, Option.isNone_iff_eq_none]
      at hUpdated
    rcases hUpdated with ⟨-, hUnsealed, -, hClosing, deposit, hSum, -, rfl⟩
    rw [← add_eq_of_checkedAdd hSum]
    exact .topUp ⟨accountOf_funded.mpr hFunded, hUnsealed, hClosing⟩ hUnknown
      (hFinalized hUnknown)

/-! ### Deliveries -/

theorem commitDelivery_moves {task : CommitTask} {nowMs : ℕ} {receipt : Metered.CommitReceipt}
    (hFunded : opensChannel before = false)
    (hSigned : server.Signed channelId task.newCumulative task.expiresAt task.signature
      before.authorizedSigner)
    (hUpdated : commitDelivery server.config nowMs task (some before) = .ok (updated, receipt)) :
    RecordMove server known channelId time before updated := by
  simp only [commitDelivery, bind_eq_ok, refuseIf_eq_ok, Bool.not_eq_true,
    Option.isSome_eq_false_iff, Option.isNone_iff_eq_none] at hUpdated
  rcases hUpdated with ⟨-, hUnsealed, -, hUnfixed, hUpdated⟩
  split at hUpdated
  · simp only [bind_eq_ok, pure, Except.pure, Except.ok.injEq, Prod.mk.injEq] at hUpdated
    rcases hUpdated with ⟨-, -, rfl, -⟩
    exact .aside (.refl _)
  · simp only [bind_eq_ok, refuseIf_eq_ok, okOr_eq_ok, not_not, not_le, not_lt, pure, Except.pure,
      Except.ok.injEq, Prod.mk.injEq] at hUpdated
    rcases hUpdated with
      ⟨index, -, -, -, -, hAbove, -, hWithin, -, hAmount, spentAmount, hSpent, rfl, -⟩
    rw [← add_eq_of_checkedAdd hSpent, hAmount]
    exact .commit hFunded hUnsealed hUnfixed (by omega) hWithin hSigned

/-! ### Closes -/

theorem verifySignature_eq_ok {now : ℤ} {voucher : SignedVoucher} {signer : String}
    (hVerified : verifySignature server.config now voucher signer = .ok ()) :
    ∃ cumulative, parseU64 voucher.data.cumulativeAmount = some cumulative ∧
      server.Signed voucher.data.channelId cumulative (voucher.data.expiresAt.getD 0)
        voucher.signature signer := by
  simp only [verifySignature, verifyVoucherSignature, bind_eq_ok, refuseIf_eq_ok, okOr_eq_ok,
    mapError_eq_ok] at hVerified
  rcases hVerified with ⟨-, -, cumulative, hParsed, -, -, -, -, hSigned⟩
  exact ⟨cumulative, hParsed, hSigned⟩

/-- The watermark of a close is the recorded one, with what proved it, or one that is proved
anew. -/
structure RequestServer.Closes (server : RequestServer Scope) (channelId : String)
    (state : ChannelState) (final : FinalVoucher) : Prop where
  rises : state.cumulative ≤ final.cumulative
  within : final.cumulative = state.cumulative ∨ final.cumulative ≤ state.deposit
  carried : final.cumulative = state.cumulative ∧
      final.signature = state.highestVoucherSignature ∧
      final.expiresAt = state.highestVoucherExpiresAt ∨
    ∃ signature, final.signature = some signature ∧ server.Signed channelId final.cumulative
      (final.expiresAt.getD 0) signature state.authorizedSigner

theorem finalVoucher_closes {voucher : Option SignedVoucher} {final : FinalVoucher}
    (hChannel : ∀ presented ∈ voucher, presented.data.channelId = channelId)
    (hFinal : server.finalVoucher time before voucher = .ok final) :
    server.Closes channelId before final := by
  cases voucher with
  | none =>
      cases hFinal
      exact ⟨le_rfl, .inl rfl, .inl ⟨rfl, rfl, rfl⟩⟩
  | some voucher =>
      have hSame : voucher.data.channelId = channelId := hChannel voucher rfl
      simp only [RequestServer.finalVoucher, bind_eq_ok, okOr_eq_ok] at hFinal
      rcases hFinal with ⟨cumulative, hParsed, hFinal⟩
      have hProof : server.verifyFinal time voucher before = .ok () →
          server.Signed channelId cumulative (voucher.data.expiresAt.getD 0) voucher.signature
            before.authorizedSigner := by
        intro hVerified
        simp only [RequestServer.verifyFinal, mapError_eq_ok] at hVerified
        rcases verifySignature_eq_ok hVerified with ⟨verified, hVerifiedAmount, hSigned⟩
        rw [hParsed] at hVerifiedAmount
        cases hVerifiedAmount
        exact hSame ▸ hSigned
      split at hFinal
      · simp only [bind_eq_ok, refuseIf_eq_ok, not_not, pure, Except.pure, Except.ok.injEq]
          at hFinal
        rcases hFinal with ⟨-, ⟨hWatermark, hStored⟩, ⟨⟩, hVerified, rfl⟩
        refine ⟨le_rfl, .inl rfl, ?_⟩
        -- The stored expiry is that of the voucher only when none was stored.
        cases hExpiry : before.highestVoucherExpiresAt with
        | some stored => exact .inl ⟨rfl, rfl, rfl⟩
        | none => exact .inr ⟨_, hStored, hWatermark ▸ hProof hVerified⟩
      · rename_i hAbove
        simp only [bind_eq_ok, refuseIf_eq_ok, not_lt, pure, Except.pure, Except.ok.injEq]
          at hFinal
        rcases hFinal with ⟨-, hWithin, ⟨⟩, hVerified, rfl⟩
        exact ⟨(not_le.mp hAbove).le, .inr hWithin, .inr ⟨_, rfl, hProof hVerified⟩⟩

theorem payOwed_eq_ok {requestedAt livePending : ℕ} {payload : ClosePayload}
    {final : FinalVoucher} {paid : ChannelState}
    (hPaid : RequestServer.payOwed requestedAt livePending payload final before = .ok paid) :
    (livePending = 0 ∨ saturatingAdd before.cumulative livePending ≤ final.cumulative ∧
      before.spentAmount + livePending ≤ u64Max) ∧
      ∃ pendingDeliveries, paid = { before with
        spentAmount := before.spentAmount + livePending
        pendingDeliveries } := by
  rw [RequestServer.payOwed] at hPaid
  split at hPaid
  · rename_i hNothing
    cases hPaid
    exact ⟨.inl hNothing, before.pendingDeliveries, by rw [hNothing]; rfl⟩
  · simp only [bind_eq_ok, refuseIf_eq_ok, okOr_eq_ok, not_or, not_lt, pure, Except.pure,
      Except.ok.injEq] at hPaid
    rcases hPaid with ⟨-, ⟨-, hReaches⟩, spentAmount, hSpent, rfl⟩
    rcases checkedAdd_eq_some.mp hSpent with ⟨rfl, hFits⟩
    exact ⟨.inr ⟨hReaches, hFits⟩, _, rfl⟩

theorem closeChannel_moves {payload : ClosePayload} {requestedAt : ℕ} {value : Unit}
    (hFunded : opensChannel before = false)
    (hChannel : ∀ presented ∈ payload.voucher, presented.data.channelId = channelId)
    (hUpdated : server.closeChannel payload requestedAt time (some before) =
      .ok (value, updated)) : RecordMove server known channelId time before updated := by
  simp only [RequestServer.closeChannel, bind_eq_ok, refuseIf_eq_ok, okOr_eq_ok, pure, Except.pure,
    Except.ok.injEq, Prod.mk.injEq, Bool.not_eq_true, Option.isSome_eq_false_iff,
    Option.isNone_iff_eq_none] at hUpdated
  rcases hUpdated with
    ⟨-, hUnsealed, -, hClosing, owed, -, -, -, final, hFinal, paid, hPaid, -, rfl⟩
  rcases payOwed_eq_ok hPaid with ⟨hOwes, pendingDeliveries, rfl⟩
  have hCloses := finalVoucher_closes hChannel hFinal
  exact .close ⟨accountOf_funded.mpr hFunded, hUnsealed, hClosing⟩ hOwes hCloses.rises
    hCloses.within hCloses.carried

/-! ### The chain -/

theorem recordSnapshot_moves {now slot settled : ℕ} {shown : ObservedLifecycle} {value : Unit}
    (hFunded : opensChannel before = false)
    (hSaw : shown = .opened → known.sawOpen channelId now)
    (hPaid : known.paid channelId settled)
    (hUpdated : server.recordSnapshot now slot settled shown before = .ok (value, updated)) :
    RecordMove server known channelId time before updated := by
  simp only [RequestServer.recordSnapshot] at hUpdated
  split at hUpdated
  · cases hUpdated
  · rename_i hOutcome
    have hRenewed : ({ before with settledOnChain := max before.settledOnChain settled } :
        ChannelState).recordOnchainObservation ⟨some slot, shown⟩ now = (.fresh, _) :=
      Prod.ext hOutcome rfl
    split at hUpdated
    · cases hUpdated
      exact .observed hFunded hRenewed hSaw hPaid
    · cases hUpdated
      exact .observed hFunded hRenewed hSaw hPaid

theorem sealedAt_aside {now : ℕ} :
    Aside before { before with
      extra := insertMember before.extra sealedAtKey (.unsigned now) } := by
  have hTime : onchainObservedAtKey ≠ sealedAtKey := by decide
  have hSlot : onchainObservedSlotKey ≠ sealedAtKey := by decide
  have hTerminal : openTerminalKey ≠ sealedAtKey := by decide
  refine { SameTerms.refl before with
    observedAt := ?_
    observedSlot := ?_
    terminal := ?_
    account := rfl
    signature := rfl
    expiresAt := rfl
    uses := rfl
    topUps := rfl }
  · simp only [ChannelState.onchainObservedAt, ChannelState.extraU64,
      lookup_insertMember_of_ne hTime]
  · simp only [ChannelState.onchainObservedSlot, ChannelState.extraU64,
      lookup_insertMember_of_ne hSlot]
  · simp only [sessionOpenIsTerminal, lookup_insertMember_of_ne hTerminal]

/-! ### Opens -/

theorem insertBinding_eq_ok [DecidableEq Scope] {codec : BindingCodec Scope}
    {binding : PolicyBinding Scope}
    (hBound : insertBinding codec binding before = .ok updated) : ∃ value, updated = { before with
      schemaVersion := channelStateSchemaVersion
      extra := insertMember before.extra bindingKey value } := by
  simp only [insertBinding, bind_eq_ok, pure, Except.pure, Except.ok.injEq] at hBound
  rcases hBound with ⟨value, -, rfl⟩
  exact ⟨value, rfl⟩

theorem boundState_reserved [DecidableEq Scope] {payload : OpenPayload}
    {context : SessionOpenContext} {validated : ValidatedOpen} {prepared : PreparedOpen}
    {now : ℕ} {intent : Json}
    (hSigner : server.voucherSigner = operatorSigner → payload.authorizedSigner = server.operator)
    (hBound : server.boundState payload context validated prepared now intent = .ok updated) :
    server.Reserved payload.channelId updated := by
  have hIntent : openTerminalKey ≠ openIntentKey := by decide
  have hBinding : openTerminalKey ≠ bindingKey := by decide
  rw [SessionServer.boundState] at hBound
  split at hBound
  · rcases insertBinding_eq_ok hBound with ⟨value, rfl⟩
    refine ⟨rfl, rfl, hSigner, rfl, ?_, rfl, rfl, rfl, rfl⟩
    simp [sessionOpenIsTerminal, SessionServer.freshState, lookup_insertMember_of_ne hBinding,
      lookup_insertMember_of_ne hIntent]
  · cases hBound
    refine ⟨rfl, rfl, hSigner, rfl, ?_, rfl, rfl, rfl, rfl⟩
    simp [sessionOpenIsTerminal, SessionServer.freshState, lookup_insertMember_of_ne hIntent]

theorem reserve_eq_ok [DecidableEq Scope] {payload : OpenPayload} {context : SessionOpenContext}
    {validated : ValidatedOpen} {intent : Json} {fresh : ChannelState}
    {record : Option ChannelState} {replay : Bool}
    (hReserved : server.reserve payload context validated intent fresh record =
      .ok (replay, updated)) : record = none ∧ updated = fresh ∨ record = some updated := by
  cases record with
  | none =>
      cases hReserved
      exact .inl ⟨rfl, rfl⟩
  | some state =>
      simp only [RequestServer.reserve, bind_eq_ok, pure, Except.pure, Except.ok.injEq,
        Prod.mk.injEq] at hReserved
      rcases hReserved with ⟨-, -, -, -, -, -, -, -, -, -, -, rfl⟩
      exact .inr rfl

theorem activate_moves [DecidableEq Scope] {deposit settled : ℕ} {intent : Json} {value : Unit}
    {record : Option ChannelState} (hLanded : known.landed channelId deposit)
    (hPaid : known.paid channelId settled)
    (hActivated : server.activate deposit settled time intent record = .ok (value, updated)) :
    ∃ state, record = some state ∧ RecordMove server known channelId time state updated := by
  simp only [RequestServer.activate, bind_eq_ok, okOr_eq_ok, pure, Except.pure, Except.ok.injEq,
    Prod.mk.injEq] at hActivated
  rcases hActivated with ⟨state, hFound, -, -, -, -, -, rfl⟩
  exact ⟨state, hFound, .activated hLanded hPaid⟩

theorem retireElsewhere_moves {intent : Json} {value : Unit} {record : Option ChannelState}
    (hRetired : server.retireElsewhere intent record = .ok (value, updated)) :
    ∃ state, record = some state ∧ RecordMove server known channelId time state updated := by
  simp only [RequestServer.retireElsewhere, bind_eq_ok, okOr_eq_ok, pure, Except.pure,
    Except.ok.injEq, Prod.mk.injEq] at hRetired
  rcases hRetired with ⟨state, hFound, -, -, -, rfl⟩
  exact ⟨state, hFound, .retired⟩

theorem retireExpired_moves {expected : ChannelState} {invalidAt : ℕ} {value : Unit}
    {record : Option ChannelState}
    (hRetired : server.retireExpired expected invalidAt record = .ok (value, updated)) :
    ∃ state, record = some state ∧ RecordMove server known channelId time state updated := by
  simp only [RequestServer.retireExpired, bind_eq_ok, okOr_eq_ok, pure, Except.pure,
    Except.ok.injEq, Prod.mk.injEq] at hRetired
  rcases hRetired with ⟨state, hFound, -, -, -, -, -, -, -, rfl⟩
  exact ⟨state, hFound, .retired⟩

end PayKit.Session
