import PayKit.Session.RequestRules

/-!
# The programs of the request server keep the histories

One lemma for each function of the server. Most of them are a sequence of checks, with an update
at the end whose updater makes moves; what was checked before an update holds within it because
the record that it finds follows every record that was shown before.
-/

namespace PayKit.Session

open Accounting Channel Concurrency Control Encoding Machine Store
open Metered (SessionSigner SignedVoucher CommitTask CommitPayload CommitStage DeliveryRequest
  reserveDelivery recordDeliveryUsage checkCommit commitDelivery)
open RequestServer (SignedCharge checkToppedUp)

variable {Scope Caller : Type} {First Result : Type} {server : RequestServer Scope}
  {requests : Caller → SessionRequest} {caller : Caller} {before world : SessionWorld Caller}
  {channelId : String}

/-! ### Sequences -/

theorem keeps_bind {program : SessionProgram First} {rest : First → SessionProgram Result}
    {middle : First → SessionWorld Caller → Prop} {holds : Result → SessionWorld Caller → Prop}
    (hBefore : Consistent server requests before)
    (hFirst : Keeps server requests caller program middle before)
    (hRest : ∀ value world, Consistent server requests world → before.history <:+ world.history →
      middle value world → Keeps server requests caller (rest value) holds world) :
    Keeps server requests caller (program >>= rest) holds before :=
  Environment.ensures_bind hBefore hFirst hRest

theorem keeps_checked {outcome : Except SessionError First}
    {rest : First → SessionProgram Result} {holds : Result → SessionWorld Caller → Prop}
    (hRest : ∀ value, outcome = .ok value →
      Keeps server requests caller (rest value) holds before) :
    Keeps server requests caller (checked outcome >>= rest) holds before :=
  Environment.ensures_ofExcept_bind hRest

theorem keeps_checkedCore {outcome : Except Error First}
    {rest : First → SessionProgram Result} {holds : Result → SessionWorld Caller → Prop}
    (hRest : ∀ value, outcome = .ok value →
      Keeps server requests caller (rest value) holds before) :
    Keeps server requests caller (checkedCore outcome >>= rest) holds before :=
  keeps_checked fun value hValue => hRest value (mapError_eq_ok.mp hValue)

theorem keeps_end {outcome : Except SessionError Result}
    {holds : Result → SessionWorld Caller → Prop}
    (hHolds : ∀ value, outcome = .ok value → ∀ later : SessionWorld Caller,
      before.history <:+ later.history → holds value later) :
    Keeps server requests caller (checked outcome) holds before :=
  Environment.ensures_ofExcept fun value hValue later hLater =>
    hHolds value hValue later hLater.suffix

theorem keeps_pure {value : Result} {holds : Result → SessionWorld Caller → Prop}
    (hHolds : ∀ later : SessionWorld Caller, before.history <:+ later.history →
      holds value later) :
    Keeps server requests caller (pure value) holds before :=
  Environment.ensures_pure fun later hLater => hHolds later hLater.suffix

theorem keeps_clock : Keeps server requests caller (Fallible.request SessionCall.clock)
    (fun now world => ⟨caller, .clock, now⟩ ∈ world.history) before :=
  (keeps_request .clock trivial).weaken fun _ _ _ _ hTold => hTold.mem

/-! ### The snapshot of the chain -/

/-- What a read of the chain told, in the words of what is known. -/
structure Looked (known : Knowledge) (channelId : String) (now : ℕ)
    (shown : ObservedLifecycle) (settled : ℕ) : Prop where
  saw : shown = .opened → known.sawOpen channelId now
  paid : known.paid channelId settled

theorem Looked.mono {known later : Knowledge} {now settled : ℕ} {shown : ObservedLifecycle}
    (hLe : known.Le later) (hLooked : Looked known channelId now shown settled) :
    Looked later channelId now shown settled :=
  ⟨fun hOpen => hLe.sawOpen _ _ (hLooked.saw hOpen), hLe.paid _ _ hLooked.paid⟩

theorem keeps_lifecycle {now minSlot : ℕ} (hBefore : Consistent server requests before)
    (hClock : ⟨caller, .clock, now⟩ ∈ before.history) :
    Keeps server requests caller (RequestServer.readChannelLifecycle channelId now minSlot)
      (fun answer world => ∀ shown settled, answer.1 = some (shown, settled) →
        Looked (knownOf server requests world.history) channelId now shown settled) before := by
  refine keeps_bind hBefore (keeps_await (.readAccount channelId minSlot) trivial) ?_
  rintro ⟨read, slot⟩ world hConsistent hGrown ⟨reply, hTold, -, hReply⟩
  cases hReply
  apply keeps_pure
  intro later hLater shown settled hShown
  simp only [Option.map_eq_some_iff, Prod.mk.injEq] at hShown
  rcases hShown with ⟨raw, rfl, rfl, rfl⟩
  apply Looked.mono (knownOf_mono hLater)
  refine ⟨?_, .inl ⟨caller, minSlot, raw, slot, hTold.mem, rfl⟩⟩
  intro hOpen
  rcases hTold with ⟨newer, older, hHistory, hEarlier⟩
  exact ⟨caller, minSlot, raw, slot, newer, older, hHistory, hEarlier.mem hClock, hOpen⟩

section

variable [DecidableEq Scope]

theorem keeps_renewSnapshot {now minSlot : ℕ} (hBefore : Consistent server requests before)
    (hClock : ⟨caller, .clock, now⟩ ∈ before.history) :
    Keeps server requests caller (server.renewSnapshot channelId now minSlot) (fun _ _ => True)
      before := by
  refine keeps_bind hBefore (keeps_lifecycle hBefore hClock) ?_
  rintro ⟨read, slot⟩ world hConsistent hGrown hLooked
  apply keeps_checked
  rintro ⟨shown, settled⟩ hRead
  simp only [okOr_eq_ok] at hRead
  have hKnown := hLooked shown settled hRead
  refine keeps_bind hConsistent (keeps_mutate ?_) fun _ _ _ _ _ => keeps_end fun _ _ _ _ => trivial
  intro time state result record hNewest hFunded hRecorded
  exact recordSnapshot_moves hFunded hKnown.saw hKnown.paid hRecorded

theorem keeps_refresh (hBefore : Consistent server requests before) :
    Keeps server requests caller (server.refreshChannelSnapshot channelId) (fun _ _ => True)
      before := by
  refine keeps_bind hBefore keeps_clock ?_
  intro now world hConsistent hGrown hClock
  refine keeps_bind hConsistent keeps_getChannel ?_
  intro found later hLaterConsistent hLater hRead
  split
  · exact keeps_renewSnapshot hLaterConsistent (hLater.mem hClock)
  · exact keeps_pure fun _ _ => trivial

/-! ### Vouchers -/

theorem keeps_acceptVoucherWithCommit {voucher : Voucher} {amount : ℕ} {allowReplay : Bool}
    {guard : ChannelState → Except SessionError Unit}
    (hBefore : Consistent server requests before)
    (hAvailable : voucher.requiredAvailability = amount) :
    Keeps server requests caller (server.acceptVoucherWithCommit channelId voucher
        (server.priceVoucher amount allowReplay guard voucher.expiresAt))
      (fun acceptance world => ∃ state, Shown world.history channelId state ∧
        acceptance.cumulative = state.cumulative) before := by
  refine keeps_bind hBefore keeps_read ?_
  rintro found world hConsistent - ⟨reply, hFound, hRead⟩
  simp only [mapError_eq_ok, bind_eq_ok, pure, Except.pure, Except.ok.injEq] at hFound
  rcases hFound with ⟨value, rfl, -, -, rfl⟩
  apply keeps_checked
  intro snapshot hSnapshot
  simp only [okOr_eq_ok] at hSnapshot
  have hShown := (hRead snapshot (congrArg Except.ok hSnapshot)).shown
  apply keeps_checkedCore
  intro _ hChecked
  have hVerified := verified_of_checkSnapshot hChecked
  refine keeps_bind hConsistent (keeps_update (BoundMoves.bound ?_)) ?_
  · constructor
    · intro time result record hRan
      simp [plainly_eq_ok, RequestServer.voucherUpdater, commitVoucher, Except.map] at hRan
    · intro time state result record hNewest hLive hFunded hRan
      exact voucherUpdater_moves hLive hFunded hVerified (hNewest.follows snapshot hShown)
        hAvailable (plainly_eq_ok.mp hRan)
  · intro updated later _ _ hWrote
    apply keeps_end
    intro acceptance hAccepted last hLast
    simp only [mapError_eq_ok] at hAccepted
    cases updated with
    | error failure => cases hAccepted
    | ok answer =>
        cases hAccepted
        exact ⟨answer.2, (hWrote answer.1 answer.2 rfl).shown.mono hLast, rfl⟩

theorem keeps_verifyVoucherPriced {payload : VoucherPayload} {amount : ℕ} {allowReplay : Bool}
    {guard : ChannelState → Except SessionError Unit}
    (hBefore : Consistent server requests before) :
    Keeps server requests caller (server.verifyVoucherPriced payload amount allowReplay guard)
      (fun acceptance world => ∃ state, Shown world.history payload.channelId state ∧
        acceptance.cumulative = state.cumulative) before := by
  apply keeps_checked
  intro _ _
  apply keeps_checked
  intro _ hSame
  simp only [refuseIf_eq_ok, not_not] at hSame
  rw [hSame]
  refine keeps_bind hBefore (keeps_existing hBefore) ?_
  rintro state world hConsistent - -
  apply keeps_checked
  intro _ _
  apply keeps_checked
  intro _ _
  apply keeps_checked
  intro newCumulative _
  refine keeps_bind hConsistent (keeps_refresh hConsistent) ?_
  rintro _ refreshed hRefreshed - -
  refine keeps_bind hRefreshed keeps_clock ?_
  rintro now later hLater - -
  exact keeps_acceptVoucherWithCommit hLater rfl

/-! ### Operator charges -/

/-- What the parameters of the server promise: its key signs, and, as `validate_open_request`
checks, the channels of an operator-signed session are opened under the operator. -/
structure RequestServer.Trusted (server : RequestServer Scope) : Prop where
  key : ∀ key, server.operatorSigningKey = some key → server.Signs key
  opening : ∀ payload context validated,
    server.validateOpenRequest payload context = .ok validated →
      server.voucherSigner = operatorSigner → payload.authorizedSigner = server.operator

/-- What was answered to a use is recorded. -/
structure UseRecorded (history : SessionHistory Caller) (channelId key : String)
    (acceptance : UseAcceptance) : Prop where
  recorded : ∃ state entry, Shown history channelId state ∧ entry ∈ state.processedUses ∧
    entry.idempotencyKey = key ∧ acceptance.voucher.signature = entry.voucherSignature ∧
    acceptance.voucher.data.cumulativeAmount = entry.cumulative.repr

theorem mem_recordUse_self {uses : List ProcessedUse} {entry : ProcessedUse} :
    entry ∈ recordUse uses entry :=
  List.mem_of_getLast? getLast?_recordUse

omit [DecidableEq Scope] in
theorem operatorCharged_uses {state : ChannelState} {now cumulative spentAmount : ℕ}
    {signature : String} {entry : ProcessedUse} :
    (server.operatorCharged state now cumulative spentAmount signature entry).processedUses =
      recordUse state.processedUses entry := by
  rw [RequestServer.operatorCharged]

omit [DecidableEq Scope] in
theorem chargeUse_recorded {payload : UsePayload} {authentication challengeId key : String}
    {signer : SessionSigner} {time : ℕ} {found : Option ChannelState} {record : ChannelState}
    {acceptance : UseAcceptance}
    (hCharged : server.chargeUse payload authentication challengeId key signer time found =
      .ok (acceptance, record)) :
    ∃ entry ∈ record.processedUses, entry.idempotencyKey = key ∧
      acceptance.voucher.signature = entry.voucherSignature ∧
      acceptance.voucher.data.cumulativeAmount = entry.cumulative.repr := by
  cases found with
  | none => cases hCharged
  | some state =>
      simp only [RequestServer.chargeUse, bind_eq_ok] at hCharged
      rcases hCharged with ⟨-, -, -, -, hCharged⟩
      split at hCharged
      · rename_i entry hFound
        cases hCharged
        have hKey := List.find?_some hFound
        simp only [decide_eq_true_eq] at hKey
        exact ⟨entry, List.mem_of_find?_eq_some hFound, hKey, rfl, rfl⟩
      · simp only [bind_eq_ok, pure, Except.pure, Except.ok.injEq, Prod.mk.injEq] at hCharged
        rcases hCharged with ⟨-, -, cumulative, -, -, -, signature, -, spentAmount, -, rfl, rfl⟩
        refine ⟨⟨challengeId, key, cumulative, signature, some server.amount⟩, ?_, rfl, rfl, rfl⟩
        rw [operatorCharged_uses]
        exact mem_recordUse_self

theorem keeps_processUse {payload : UsePayload} {challengeId idempotencyKey : String}
    (hTrusted : server.Trusted) (hBefore : Consistent server requests before)
    (hAsks : (requests caller).Asks server payload.channelId challengeId idempotencyKey
      server.amount) :
    Keeps server requests caller (server.processUse payload challengeId idempotencyKey)
      (fun acceptance world =>
        UseRecorded world.history payload.channelId idempotencyKey acceptance) before := by
  apply keeps_checked
  intro _ _
  apply keeps_checked
  intro _ _
  apply keeps_checked
  intro key hKey
  simp only [okOr_eq_ok] at hKey
  apply keeps_checked
  intro _ hOperator
  simp only [refuseIf_eq_ok, not_not] at hOperator
  apply keeps_checked
  intro authentication _
  refine keeps_bind hBefore (keeps_refresh hBefore) ?_
  rintro _ world hConsistent - -
  refine keeps_bind hConsistent (keeps_server_update ?_) ?_
  · constructor
    · intro time result record hRan
      cases plainly_eq_ok.mp hRan
    · intro time state result record hNewest hLive hFunded hRan
      exact chargeUse_moves hLive hFunded hNewest.owned (hTrusted.key key hKey) hOperator
        ⟨caller, hAsks⟩ (plainly_eq_ok.mp hRan)
  · rintro ⟨acceptance, record⟩ later - - hWrote
    rcases hWrote.ran with ⟨time, found, hRan, -⟩
    rcases chargeUse_recorded hRan with ⟨entry, hMem, hFacts⟩
    apply keeps_pure
    intro last hLast
    exact ⟨record, entry, hWrote.shown.mono hLast, hMem, hFacts⟩

theorem keeps_authenticateUse {payload : UsePayload} {challengeId idempotencyKey : String}
    (hBefore : Consistent server requests before) :
    Keeps server requests caller (server.authenticateUse payload challengeId idempotencyKey)
      (fun _ _ => True) before := by
  apply keeps_checked
  intro _ _
  apply keeps_checked
  intro _ _
  apply keeps_checked
  intro authentication _
  refine keeps_bind hBefore (keeps_existing hBefore) ?_
  rintro state world hConsistent - -
  apply keeps_checked
  intro _ _
  apply keeps_checked
  intro _ _
  refine keeps_bind hConsistent (keeps_refresh hConsistent) ?_
  intro _ later _ _ _
  exact keeps_pure fun _ _ => trivial

/-! ### Metered operator charges -/

omit [DecidableEq Scope] in
theorem commitCharge_recorded {authenticated : AuthenticatedUse}
    {guard : ChannelState → Except SessionError Unit} {charge : SignedCharge} {time : ℕ}
    {found : Option ChannelState} {recorded : Option RecordedUse} {record : ChannelState}
    (hCharged : server.commitCharge authenticated guard charge time found =
      .ok (recorded, record)) :
    charge.requestTotal ≤ totalFor record.processedUses authenticated.idempotencyKey := by
  cases found with
  | none => cases hCharged
  | some state =>
      simp only [RequestServer.commitCharge, bind_eq_ok, mapError_eq_ok] at hCharged
      rcases hCharged with ⟨-, -, -, -, -, -, found, hFound, hCharged⟩
      split at hCharged
      · rename_i entry hReached
        cases hCharged
        rcases Option.filter_eq_some_iff.mp hReached with ⟨rfl, hReaches⟩
        rw [← recordedUse_total hFound]
        exact of_decide_eq_true hReaches
      · simp only [bind_eq_ok, pure, Except.pure, Except.ok.injEq, Prod.mk.injEq] at hCharged
        rcases hCharged with ⟨-, -, -, -, -, -, spentAmount, -, -, rfl⟩
        have hTotal : totalFor (recordUse state.processedUses
            ⟨authenticated.challengeId, authenticated.idempotencyKey, charge.cumulative,
              charge.signature, some charge.requestTotal⟩) authenticated.idempotencyKey =
                charge.requestTotal :=
          totalFor_recordUse_self
        rw [operatorCharged_uses]
        exact hTotal.ge

/-- A total that was answered for is recorded. -/
def ChargeRecorded (history : SessionHistory Caller) (authenticated : AuthenticatedUse)
    (requestTotal : ℕ) : Prop :=
  ∃ state, Shown history authenticated.channelId state ∧
    requestTotal ≤ totalFor state.processedUses authenticated.idempotencyKey

theorem ChargeRecorded.mono {older newer : SessionHistory Caller}
    {authenticated : AuthenticatedUse} {requestTotal : ℕ} (hGrown : older <:+ newer)
    (hRecorded : ChargeRecorded older authenticated requestTotal) :
    ChargeRecorded newer authenticated requestTotal := by
  rcases hRecorded with ⟨state, hShown, hTotal⟩
  exact ⟨state, hShown.mono hGrown, hTotal⟩

theorem keeps_watermarkMoved {base : ℕ} (hBefore : Consistent server requests before) :
    Keeps server requests caller (server.watermarkMoved channelId base) (fun _ _ => True)
      before := by
  refine keeps_bind hBefore keeps_getChannel ?_
  intro found world _ _ _
  exact keeps_pure fun _ _ => trivial

theorem keeps_concludeCharge {authenticated : AuthenticatedUse}
    {guard : ChannelState → Except SessionError Unit} {charge : SignedCharge}
    {again : SessionProgram OperatorCharge}
    {updated : Except UpdateFailure (Option RecordedUse × ChannelState)}
    (hBefore : Consistent server requests before)
    (hAgain : ∀ world : SessionWorld Caller, Consistent server requests world →
      Keeps server requests caller again
        (fun _ world => ChargeRecorded world.history authenticated charge.requestTotal) world)
    {earlier : SessionHistory Caller}
    (hWrote : ∀ result record, updated = .ok (result, record) →
      Wrote server earlier before.history authenticated.channelId
        (server.bound (server.commitCharge authenticated guard charge)) result record) :
    Keeps server requests caller
      (server.concludeCharge authenticated.channelId charge again updated)
      (fun _ world => ChargeRecorded world.history authenticated charge.requestTotal) before := by
  have hRecorded : ∀ result record, updated = .ok (result, record) →
      ChargeRecorded before.history authenticated charge.requestTotal := by
    intro result record hUpdated
    rcases (hWrote result record hUpdated).ran with ⟨time, found, hRan, -⟩
    exact ⟨record, (hWrote result record hUpdated).shown,
      commitCharge_recorded (bound_eq_ok hRan).2.1⟩
  cases updated with
  | ok answer =>
      rcases answer with ⟨recorded, record⟩
      have hHere := hRecorded recorded record rfl
      cases recorded with
      | some entry => exact keeps_pure fun later hLater => hHere.mono hLater
      | none => exact keeps_pure fun later hLater => hHere.mono hLater
  | error failure =>
      cases failure with
      | moved => exact hAgain before hBefore
      | failed error =>
          refine keeps_bind hBefore (keeps_watermarkMoved hBefore) ?_
          intro moved world hConsistent _ _
          split
          · exact hAgain world hConsistent
          · exact keeps_end fun _ hNever => nomatch hNever

omit [DecidableEq Scope] in
theorem chargeSigned_of_told {authenticated : AuthenticatedUse} {state : ChannelState}
    {recorded : Option RecordedUse} {requestTotal cumulative : ℕ}
    {reply : Except SessionError String} {signature : String}
    (hUnreached : recorded.filter (RequestServer.RecordedUse.reaches requestTotal) = none)
    (hCumulative : RequestServer.chargedCumulative state
      (requestTotal - RequestServer.totalOf recorded) = .ok cumulative)
    (hHonest : server.Honest (.sign server.operator
      ⟨authenticated.channelId, cumulative.repr, none⟩) reply)
    (hSigned : reply = .ok signature) :
    server.ChargeSigned authenticated.channelId
      ⟨state.cumulative, RequestServer.totalOf recorded, requestTotal, cumulative, signature⟩ := by
  simp only [RequestServer.chargedCumulative, bind_eq_ok, okOr_eq_ok, pure, Except.pure,
    Except.ok.injEq] at hCumulative
  rcases hCumulative with ⟨sum, hSum, -, -, rfl⟩
  rcases checkedAdd_eq_some.mp hSum with ⟨hSame, hFits⟩
  refine ⟨hSame.symm, ?_, hHonest signature sum hSigned (parseU64_repr hFits)⟩
  cases recorded with
  | none => exact Nat.zero_le _
  | some entry =>
      have hBelow := Option.filter_eq_none_iff.mp hUnreached entry rfl
      simp only [RequestServer.RecordedUse.reaches, decide_eq_true_eq, not_le] at hBelow
      exact hBelow.le

theorem keeps_chargeAttempts {authenticated : AuthenticatedUse} {requestTotal attempts : ℕ}
    {guard : ChannelState → Except SessionError Unit} (hBefore : Consistent server requests before)
    (hAsks : (requests caller).Asks server authenticated.channelId authenticated.challengeId
      authenticated.idempotencyKey requestTotal) :
    Keeps server requests caller (server.chargeAttempts authenticated requestTotal guard attempts)
      (fun _ world => ChargeRecorded world.history authenticated requestTotal) before := by
  induction attempts generalizing before with
  | zero => exact keeps_end fun _ hNever => nomatch hNever
  | succ attempts hInduction =>
      refine keeps_bind hBefore (keeps_existing hBefore) ?_
      intro state world hConsistent _ hRead
      apply keeps_checked
      intro recorded hRecorded
      simp only [RequestServer.chargeable, bind_eq_ok, mapError_eq_ok] at hRecorded
      rcases hRecorded with ⟨-, -, -, -, hRecorded⟩
      split
      · rename_i entry hReached
        rcases Option.filter_eq_some_iff.mp hReached with ⟨rfl, hReaches⟩
        apply keeps_pure
        intro later hLater
        refine ⟨state, hRead.shown.mono hLater, ?_⟩
        rw [← recordedUse_total hRecorded]
        exact of_decide_eq_true hReaches
      · rename_i hUnreached
        apply keeps_checked
        intro cumulative hCumulative
        refine keeps_bind hConsistent (keeps_await (.sign server.operator
          ⟨authenticated.channelId, cumulative.repr, none⟩) trivial) ?_
        rintro signature signed hSignedConsistent - ⟨reply, -, hHonest, hReply⟩
        have hSigned := chargeSigned_of_told hUnreached hCumulative hHonest hReply
        refine keeps_bind hSignedConsistent (keeps_update (BoundMoves.bound ?_)) ?_
        · constructor
          · intro time result record hRan
            cases hRan
          · intro time found result record hNewest hLive hFunded hRan
            exact commitCharge_moves hLive hFunded hNewest.owned hSigned ⟨caller, hAsks⟩ hRan
        · intro updated later hLaterConsistent _ hWrote
          exact keeps_concludeCharge hLaterConsistent
            (fun again hAgain => hInduction hAgain) hWrote

theorem keeps_chargeOperatorRequest {authenticated : AuthenticatedUse} {signer : String}
    {requestTotal : ℕ} {guard : ChannelState → Except SessionError Unit}
    (hBefore : Consistent server requests before)
    (hAsks : (requests caller).Asks server authenticated.channelId authenticated.challengeId
      authenticated.idempotencyKey requestTotal) :
    Keeps server requests caller
      (server.chargeOperatorRequest authenticated signer requestTotal guard)
      (fun _ world => ChargeRecorded world.history authenticated requestTotal) before := by
  apply keeps_checked
  intro _ _
  apply keeps_checked
  intro _ _
  apply keeps_checked
  intro _ _
  refine keeps_bind hBefore (keeps_refresh hBefore) ?_
  rintro _ world hConsistent - -
  exact keeps_chargeAttempts hConsistent hAsks

end

end PayKit.Session
