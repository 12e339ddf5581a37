import PayKit.Session.ChargePrograms

/-!
# Top-ups, deliveries, closes and opens keep the histories

The rest of the functions of the request server, as `ChargePrograms` has its charges. A top-up is
credited once it was finalized, a delivery is committed by the voucher that was verified when the
record was read, a close seals at a voucher that its update verifies, and an open writes its
reservation before it submits anything.
-/

namespace PayKit.Session

open Accounting Channel Concurrency Control Encoding Machine Store
open Metered (SignedVoucher CommitTask CommitPayload CommitStage DeliveryRequest reserveDelivery
  recordDeliveryUsage checkCommit commitDelivery verifySignature)
open RequestServer (checkToppedUp)

variable {Scope Caller : Type} {server : RequestServer Scope}
  {requests : Caller → SessionRequest} {caller : Caller} {before world : SessionWorld Caller}
  {channelId : String} [DecidableEq Scope]

/-! ### Top-ups -/

/-- The top-up was credited before, or is finalized. -/
def Credits (server : RequestServer Scope) (requests : Caller → SessionRequest)
    (history : SessionHistory Caller) (channelId : String) (existing : ChannelState) (amount : ℕ)
    (signature : String) : Prop :=
  signature ∈ existing.processedTopupSignatures ∨
    (knownOf server requests history).finalized channelId signature amount

omit [DecidableEq Scope] in
theorem keeps_landTopUp {payload : TopUpPayload} {existing : ChannelState} {amount : ℕ}
    {signature : String} (hBefore : Consistent server requests before)
    (hTopsUp : (requests caller).TopsUp server payload.channelId signature amount) :
    Keeps server requests caller (RequestServer.landTopUp payload existing amount signature)
      (fun landed world =>
        Credits server requests world.history payload.channelId existing amount landed)
      before := by
  rw [RequestServer.landTopUp]
  split
  · rename_i hKnown
    exact keeps_pure fun later hLater => .inl hKnown
  · refine keeps_bind hBefore (keeps_await (.submitTopUp signature) trivial) ?_
    rintro slot world hConsistent - ⟨submitted, hSubmitted, -, hSlot⟩
    cases hSlot
    refine keeps_bind hConsistent (keeps_await (.readFinalized payload.channelId slot) trivial) ?_
    rintro found later - hGrown ⟨read, hRead, -, hFound⟩
    cases hFound
    apply keeps_checked
    intro _ hReflected
    apply keeps_pure
    intro last hLast
    exact .inr ⟨caller, slot, found, existing, hTopsUp, (hGrown.trans hLast).mem hSubmitted.mem,
      hLast.mem hRead.mem, hReflected⟩

omit [DecidableEq Scope] in
theorem keeps_verifySubmitAndFetchTopup {payload : TopUpPayload} {existing : ChannelState}
    {amount : ℕ} (hBefore : Consistent server requests before)
    (hRequest : requests caller = .topUp payload)
    (hAmount : parseU64 payload.additionalAmount = some amount) :
    Keeps server requests caller (server.verifySubmitAndFetchTopup payload existing amount)
      (fun landed world =>
        Credits server requests world.history payload.channelId existing amount landed)
      before := by
  apply keeps_checked
  intro prepared hPrepared
  apply keeps_checked
  intro signature hSignature
  simp only [okOr_eq_ok] at hSignature
  subst hSignature
  apply keeps_landTopUp hBefore
  rw [hRequest]
  exact ⟨rfl, hAmount, existing, hPrepared⟩

theorem keeps_topupChannel {payload : TopUpPayload} (hBefore : Consistent server requests before) :
    Keeps server requests caller (server.topupChannel payload)
      (fun answer world => parseU64 payload.additionalAmount = some answer.1 ∧
        Shown world.history payload.channelId answer.2) before := by
  apply keeps_checked
  intro amount hAmount
  simp only [okOr_eq_ok] at hAmount
  apply keeps_checked
  intro _ _
  refine keeps_bind hBefore (keeps_existing hBefore) ?_
  rintro existing world - - hRead
  apply keeps_checked
  intro _ _
  exact keeps_pure fun later hLater => ⟨hAmount, hRead.shown.mono hLater⟩

omit [DecidableEq Scope] in
theorem creditTopUp_recorded {signature : String} {amount time : ℕ} {flag : Bool}
    {found : Option ChannelState} {record : ChannelState}
    (hCredited : server.creditTopUp channelId signature amount time found = .ok (flag, record)) :
    signature ∈ record.processedTopupSignatures := by
  cases found with
  | none => cases hCredited
  | some state =>
      simp only [RequestServer.creditTopUp] at hCredited
      split at hCredited
      · rename_i hKnown
        cases hCredited
        exact hKnown
      · simp only [bind_eq_ok, pure, Except.pure, Except.ok.injEq, Prod.mk.injEq] at hCredited
        rcases hCredited with ⟨-, -, -, -, deposit, -, -, rfl⟩
        simp

theorem keeps_processTopup {payload : TopUpPayload} (hBefore : Consistent server requests before)
    (hRequest : requests caller = .topUp payload) :
    Keeps server requests caller (server.processTopup payload)
      (fun acceptance world => Shown world.history payload.channelId acceptance.state ∧
        acceptance.transactionSignature ∈ acceptance.state.processedTopupSignatures) before := by
  refine keeps_bind hBefore (keeps_topupChannel hBefore) ?_
  rintro ⟨amount, existing⟩ world hConsistent - ⟨hAmount, hShown⟩
  refine keeps_bind hConsistent (keeps_await .pipeline trivial) ?_
  rintro _ later hLater hGrown -
  refine keeps_bind hLater (keeps_verifySubmitAndFetchTopup hLater hRequest hAmount) ?_
  rintro signature landed hLanded hLandedGrown hCredits
  refine keeps_bind hLanded (keeps_server_update ?_) ?_
  · constructor
    · intro time result record hRan
      cases plainly_eq_ok.mp hRan
    · intro time state result record hNewest hLive hFunded hRan
      refine creditTopUp_moves hFunded ?_ (plainly_eq_ok.mp hRan)
      intro hUnknown
      rcases hCredits with hKnown | hFinalized
      · have hEarlier := hShown.mono (hGrown.trans hLandedGrown)
        exact absurd ((hNewest.follows existing hEarlier).topUps hKnown) hUnknown
      · exact hFinalized
  · rintro ⟨replay, record⟩ last - - hWrote
    rcases hWrote.ran with ⟨time, found, hRan, -⟩
    exact keeps_pure fun later hLater => ⟨hWrote.shown.mono hLater, creditTopUp_recorded hRan⟩

/-! ### Deliveries -/

theorem keeps_beginDelivery {request : DeliveryRequest}
    (hBefore : Consistent server requests before) :
    Keeps server requests caller (server.beginDelivery request) (fun _ _ => True) before := by
  apply keeps_checked
  intro _ _
  apply keeps_checkedCore
  intro currency _
  refine keeps_bind hBefore (keeps_refresh hBefore) ?_
  rintro _ world hConsistent - -
  refine keeps_bind hConsistent (keeps_server_update ?_) fun _ _ _ _ _ =>
    keeps_pure fun _ _ => trivial
  constructor
  · intro time result record hRan
    cases plainly_eq_ok.mp hRan
  · intro time state result record hNewest hLive hFunded hRan
    exact .aside (reserveDelivery_aside (map_swap_eq_ok.mp (plainly_eq_ok.mp hRan)))

theorem keeps_recordUsage {deliveryId : String} {amount : ℕ}
    (hBefore : Consistent server requests before) :
    Keeps server requests caller (server.recordUsage channelId deliveryId amount)
      (fun _ _ => True) before := by
  refine keeps_bind hBefore (keeps_server_update ?_) fun _ _ _ _ _ =>
    keeps_pure fun _ _ => trivial
  constructor
  · intro time result record hRan
    cases plainly_eq_ok.mp hRan
  · intro time state result record hNewest hLive hFunded hRan
    have hUpdated := plainly_eq_ok.mp hRan
    cases hUsage : recordDeliveryUsage deliveryId amount (some state) with
    | error error =>
        rw [hUsage] at hUpdated
        cases hUpdated
    | ok updated =>
        rw [hUsage] at hUpdated
        cases hUpdated
        exact .aside (recordUsage_aside hUsage)

omit [DecidableEq Scope] in
/-- A commit that goes on to its update was verified on the record that was read. -/
theorem signed_of_checkCommit {now : ℤ} {payload : CommitPayload} {state : ChannelState}
    {task : CommitTask}
    (hChecked : checkCommit server.config now payload (some state) = .ok (.reserved task)) :
    task.channelId = payload.voucher.data.channelId ∧
      server.Signed task.channelId task.newCumulative task.expiresAt task.signature
        state.authorizedSigner := by
  simp only [checkCommit, bind_eq_ok, okOr_eq_ok, Option.some.injEq] at hChecked
  rcases hChecked with ⟨newCumulative, hParsed, found, rfl, hChecked⟩
  split at hChecked
  · simp only [bind_eq_ok, pure, Except.pure, Except.ok.injEq, reduceCtorEq, and_false,
      exists_false] at hChecked
  · simp only [bind_eq_ok, pure, Except.pure, Except.ok.injEq, CommitStage.reserved.injEq]
      at hChecked
    rcases hChecked with ⟨-, -, -, -, -, -, -, -, _, hVerified, rfl⟩
    rcases verifySignature_eq_ok hVerified with ⟨cumulative, hSame, hSigned⟩
    rw [hParsed] at hSame
    cases hSame
    exact ⟨rfl, hSigned⟩

theorem keeps_processCommit {payload : CommitPayload}
    (hBefore : Consistent server requests before) :
    Keeps server requests caller (server.processCommit payload) (fun _ _ => True) before := by
  apply keeps_checked
  intro _ _
  refine keeps_bind hBefore keeps_getChannel ?_
  rintro found world hConsistent - hRead
  refine keeps_bind hConsistent keeps_clock ?_
  rintro now later hLater hGrown -
  apply keeps_checkedCore
  intro stage hStage
  cases stage with
  | replayed receipt => exact keeps_pure fun _ _ => trivial
  | reserved task =>
      cases found with
      | none =>
          simp only [checkCommit, bind_eq_ok, okOr_eq_ok, reduceCtorEq, false_and, exists_false,
            and_false] at hStage
      | some snapshot =>
          rcases signed_of_checkCommit hStage with ⟨hChannel, hSigned⟩
          have hShown := (hRead snapshot rfl).shown.mono hGrown
          rw [← hChannel] at hShown
          refine keeps_bind hLater (keeps_server_update ?_) fun _ _ _ _ _ =>
            keeps_pure fun _ _ => trivial
          constructor
          · intro time result record hRan
            cases plainly_eq_ok.mp hRan
          · intro time state result record hNewest hLive hFunded hRan
            have hTerms := (hNewest.follows snapshot hShown).terms
            rw [← hTerms.authorizedSigner] at hSigned
            exact commitDelivery_moves hFunded hSigned
              (map_swap_eq_ok.mp (plainly_eq_ok.mp hRan))

/-! ### The seal -/

/-- What is handed out for the seal of a channel whose record was this. -/
structure Sealing (server : RequestServer Scope) (known : Knowledge) (channelId : String)
    (state : ChannelState) (params : SealParams) : Prop where
  address : server.parsePubkey channelId = .ok params.channelId
  signer : params.authorizedSigner = (server.parsePubkey state.authorizedSigner).toOption
  reaches : state.cumulative ≤ params.settled
  /-- Without a voucher, the chain has paid out as much already. With one, the voucher was
  verified for exactly this channel, watermark and expiry, within the deposit. -/
  proof : params.voucherSignature = none ∧
      (params.settled = 0 ∨ known.paid channelId params.settled) ∨
    ∃ signature, params.voucherSignature = some signature ∧
      params.settled = state.cumulative ∧ params.settled ≤ state.deposit ∧
      state.settledOnChain < params.settled ∧
      server.Signed channelId params.settled (params.voucherExpiresAt.getD 0) signature
        state.authorizedSigner

omit [DecidableEq Scope] in
theorem Sealing.mono {known later : Knowledge} {state : ChannelState} {params : SealParams}
    (hLe : known.Le later) (hSealing : Sealing server known channelId state params) :
    Sealing server later channelId state params := by
  refine ⟨hSealing.address, hSealing.signer, hSealing.reaches, ?_⟩
  rcases hSealing.proof with ⟨hNone, hPaid⟩ | hVoucher
  · exact .inl ⟨hNone, hPaid.imp id (hLe.paid _ _)⟩
  · exact .inr hVoucher

omit [DecidableEq Scope] in
theorem sealing_of_params {known : Knowledge} {state : ChannelState} {settled : ℕ}
    {params : SealParams} (hProven : server.Proven channelId state)
    (hWithin : state.cumulative ≤ state.deposit) (hMore : state.settledOnChain ≤ settled)
    (hPaid : settled = 0 ∨ known.paid channelId settled)
    (hParams : server.sealParamsOf channelId { state with settledOnChain := settled } =
      .ok params) : Sealing server known channelId state params := by
  simp only [RequestServer.sealParamsOf, bind_eq_ok, pure, Except.pure, Except.ok.injEq] at hParams
  rcases hParams with ⟨address, hAddress, recipient, -, rfl⟩
  refine ⟨hAddress, rfl, le_max_left _ _, ?_⟩
  by_cases hCarried : settled < state.cumulative
  · have hMax : max state.cumulative settled = state.cumulative := max_eq_left hCarried.le
    rcases hProven (hMore.trans_lt hCarried) with ⟨signature, hStored, hSigned⟩
    refine .inr ⟨signature, ?_, hMax, hMax.le.trans hWithin, ?_, ?_⟩
    · simp only [if_pos hCarried, hStored]
    · exact (hMore.trans_lt hCarried).trans_le hMax.ge
    · simp only [if_pos hCarried, hMax]
      exact hSigned
  · have hMax : max state.cumulative settled = settled := max_eq_right (not_lt.mp hCarried)
    refine .inl ⟨?_, ?_⟩
    · simp only [if_neg hCarried]
    · simp only [hMax]
      exact hPaid

/-- The record that a seal is built from, with what the chain settled by then. -/
structure Adopted (known : Knowledge) (channelId : String) (state adopted : ChannelState) :
    Prop where
  same : ∃ settled, adopted = { state with settledOnChain := settled }
  more : state.settledOnChain ≤ adopted.settledOnChain
  paid : adopted.settledOnChain = 0 ∨ known.paid channelId adopted.settledOnChain

theorem keeps_adoptSettled {state : ChannelState} {now : ℕ}
    {read : Except SessionError (Option (ObservedLifecycle × ℕ) × ℕ)}
    (hBefore : Consistent server requests before)
    (hPaid : state.settledOnChain = 0 ∨
      (knownOf server requests before.history).paid channelId state.settledOnChain)
    (hLooked : ∀ answer, read = .ok answer → ∀ shown settled, answer.1 = some (shown, settled) →
      Looked (knownOf server requests before.history) channelId now shown settled) :
    Keeps server requests caller (server.adoptSettled channelId state read)
      (fun adopted world =>
        Adopted (knownOf server requests world.history) channelId state adopted) before := by
  have hStays : ∀ later : SessionWorld Caller, before.history <:+ later.history →
      Adopted (knownOf server requests later.history) channelId state state :=
    fun later hLater => ⟨⟨state.settledOnChain, rfl⟩, le_rfl,
      hPaid.imp id ((knownOf_mono hLater).paid _ _)⟩
  rcases read with error | ⟨_ | ⟨shown, onchain⟩, slot⟩
  · exact keeps_pure hStays
  · exact keeps_pure hStays
  · have hKnown := hLooked _ rfl shown onchain rfl
    simp only [RequestServer.adoptSettled]
    split
    · rename_i hMore
      refine keeps_bind hBefore (keeps_mutate ?_) ?_
      · intro time current result record hNewest hFunded hMutated
        cases hMutated
        exact .settled hFunded hKnown.paid
      · rintro _ world - hGrown -
        apply keeps_pure
        intro later hLater
        exact ⟨⟨onchain, rfl⟩, hMore.le,
          .inr ((knownOf_mono (hGrown.trans hLater)).paid _ _ hKnown.paid)⟩
    · exact keeps_pure hStays

theorem keeps_sealParams (hBefore : Consistent server requests before) :
    Keeps server requests caller (server.sealParams channelId)
      (fun params world => ∃ state,
        Read server caller before.history world.history channelId state ∧
          Sealing server (knownOf server requests world.history) channelId state params)
      before := by
  refine keeps_bind hBefore (keeps_existing hBefore) ?_
  rintro state world hConsistent - hRead
  rcases hConsistent.shown channelId state hRead.shown with ⟨held, hHeld, rfl⟩
  have hHistory := hConsistent.histories channelId
  have hProven := hHistory.proven held hHeld
  have hPaid := hHistory.paid held hHeld
  apply keeps_checked
  intro _ hWithin
  simp only [RequestServer.checkWithinDeposit, refuseIf_eq_ok, not_lt] at hWithin
  refine keeps_bind hConsistent keeps_clock ?_
  rintro now clocked hClocked hClockGrown hClock
  refine keeps_bind hClocked (Environment.ensures_lift (keeps_lifecycle hClocked hClock)) ?_
  rintro read later hLater hGrown hLooked
  have hPaidLater := hPaid.imp id ((knownOf_mono (hClockGrown.trans hGrown)).paid _ _)
  have hAnswered : ∀ answer, read = .ok answer → ∀ shown settled,
      answer.1 = some (shown, settled) →
        Looked (knownOf server requests later.history) channelId now shown settled := by
    rintro answer rfl shown settled hShown
    exact hLooked shown settled hShown
  refine keeps_bind hLater (keeps_adoptSettled hLater hPaidLater hAnswered) ?_
  · rintro adopted last - hLast ⟨⟨settled, rfl⟩, hMore, hAdoptedPaid⟩
    apply keeps_end
    intro params hParams final hFinal
    have hSealing := sealing_of_params hProven hWithin hMore hAdoptedPaid hParams
    refine ⟨held.record, ⟨?_, hRead.newest⟩, hSealing.mono (knownOf_mono hFinal)⟩
    exact (((hClockGrown.trans hGrown).trans hLast).trans hFinal).mem hRead.told

theorem keeps_markSealed (hBefore : Consistent server requests before) :
    Keeps server requests caller (server.markSealed channelId) (fun _ _ => True) before := by
  refine keeps_bind hBefore (keeps_mutate ?_) ?_
  · intro time state result record hNewest hFunded hMarked
    cases hMarked
    exact .markSealed hFunded
  · rintro _ world hConsistent - -
    refine keeps_bind hConsistent keeps_clock ?_
    rintro now later hLater - -
    refine keeps_bind hLater (keeps_mutate ?_) fun _ _ _ _ _ => keeps_pure fun _ _ => trivial
    intro time state result record hNewest hFunded hMarked
    cases hMarked
    split
    · exact .aside (.refl _)
    · exact .aside sealedAt_aside

/-! ### The close -/

omit [DecidableEq Scope] in
theorem closeChannel_fixed {payload : ClosePayload} {requestedAt time : ℕ}
    {found : Option ChannelState} {value : Unit} {record : ChannelState}
    (hClosed : server.closeChannel payload requestedAt time found = .ok (value, record)) :
    record.closeRequestedAt = some requestedAt ∧
      record.finalCumulative = some record.cumulative := by
  cases found with
  | none => cases hClosed
  | some state =>
      simp only [RequestServer.closeChannel, bind_eq_ok, pure, Except.pure, Except.ok.injEq,
        Prod.mk.injEq] at hClosed
      rcases hClosed with ⟨-, -, -, -, owed, -, -, -, final, -, paid, -, -, rfl⟩
      exact ⟨rfl, rfl⟩

theorem keeps_processClose {payload : ClosePayload} (hBefore : Consistent server requests before) :
    Keeps server requests caller (server.processClose payload)
      (fun params world => ∃ state final, Shown world.history payload.channelId state ∧
        Sealing server (knownOf server requests world.history) payload.channelId state params ∧
        state.closeRequestedAt.isSome = true ∧ state.finalCumulative = some final) before := by
  refine keeps_bind hBefore keeps_clock ?_
  rintro requestedAt world hConsistent - -
  apply keeps_checked
  intro _ hChannel
  simp only [refuseIf_eq_ok, Bool.not_eq_true] at hChannel
  refine keeps_bind hConsistent (keeps_server_update ?_) ?_
  · constructor
    · intro time result record hRan
      cases plainly_eq_ok.mp hRan
    · intro time state result record hNewest hLive hFunded hRan
      refine closeChannel_moves hFunded ?_ (plainly_eq_ok.mp hRan)
      rintro presented hPresented
      rw [Option.mem_def.mp hPresented] at hChannel
      simpa using hChannel
  · rintro ⟨_, record⟩ closed hClosedConsistent - hWrote
    rcases hWrote.ran with ⟨time, found, hRan, -⟩
    rcases closeChannel_fixed hRan with ⟨hRequested, hFixed⟩
    refine (keeps_sealParams hClosedConsistent).weaken ?_
    rintro params later - - ⟨state, hRead, hSealing⟩
    have hFollows := (hRead.newest.follows record hWrote.shown).account
    have hClosing : state.closeRequestedAt = some requestedAt := hFollows.closing _ hRequested
    exact ⟨state, record.cumulative, hRead.shown, hSealing, by simp [hClosing],
      hFollows.fixed _ hFixed⟩

/-! ### Opens -/

omit [DecidableEq Scope] in
theorem keeps_observedFloor {freshOpen : Bool} {openSlot : ℕ}
    (hBefore : Consistent server requests before) :
    Keeps server requests caller (RequestServer.observedFloor freshOpen openSlot)
      (fun _ _ => True) before := by
  rw [RequestServer.observedFloor]
  split
  · refine keeps_bind hBefore (keeps_await (.openSlot openSlot) trivial) ?_
    rintro slot world - - -
    exact keeps_pure fun _ _ => trivial
  · exact keeps_pure fun _ _ => trivial

omit [DecidableEq Scope] in
theorem keeps_finalizedValidAt {freshOpen : Bool} {context : SessionOpenContext}
    {storedIntent : Option OpenIntent} (hBefore : Consistent server requests before) :
    Keeps server requests caller
      (RequestServer.finalizedValidAt freshOpen context storedIntent) (fun _ _ => True)
      before := by
  rw [RequestServer.finalizedValidAt]
  split
  · refine keeps_bind hBefore
      (keeps_request (.blockhashValidity context.recentBlockhash none) trivial) ?_
    rintro validity world - - -
    exact keeps_pure fun _ _ => trivial
  · exact keeps_pure fun _ _ => trivial

omit [DecidableEq Scope] in
theorem opensChannel_activated {deposit settled time : ℕ} {state : ChannelState} :
    opensChannel (activated deposit settled time state) = false := by
  have hAccount : accountOf (activated deposit settled time state) =
      (accountOf state).adopt deposit settled := accountOf_activated
  exact accountOf_funded.mp (congrArg Account.funded hAccount)

omit [DecidableEq Scope] in
theorem keeps_innerUpdate {Result : Type} {updater : Updater StoreError Result}
    (hMoves : Moves server requests before.history channelId (plainly updater)) :
    Keeps server requests caller (RequestServer.innerUpdate channelId updater)
      (fun answer world => BoundWrote server before.history world.history channelId updater
        answer.1 answer.2) before := by
  refine (keeps_await_update hMoves).weaken ?_
  rintro ⟨result, record⟩ world - - ⟨reply, hValue, hWrote⟩
  have hWritten := hWrote result record (mapError_eq_ok.mp hValue)
  rcases hWritten.ran with ⟨time, found, hRan, hNewest⟩
  exact ⟨hWritten.shown, ⟨time, found, plainly_eq_ok.mp hRan, hNewest⟩, hWritten.follows⟩

omit [DecidableEq Scope] in
theorem moves_of_present {Result : Type} {updater : Updater StoreError Result}
    {history : SessionHistory Caller}
    (hPresent : ∀ time found result record, updater time found = .ok (result, record) →
      ∃ state, found = some state ∧
        RecordMove server (knownOf server requests history) channelId time state record) :
    Moves server requests history channelId (plainly updater) where
  reserves time result record hRan := by
    rcases hPresent time none result record (plainly_eq_ok.mp hRan) with ⟨state, hFound, -⟩
    cases hFound
  moves time state result record hNewest hRan := by
    rcases hPresent time (some state) result record (plainly_eq_ok.mp hRan) with
      ⟨_, ⟨⟩, hMove⟩
    exact hMove

theorem keeps_finishOpen {payload : OpenPayload} {deposit : ℕ} {intent : Json} {replay : Bool}
    {submission : OpenSubmission} (hBefore : Consistent server requests before)
    (hLanded : ∀ signature settled, submission = .landed signature settled →
      (knownOf server requests before.history).landed payload.channelId deposit ∧
        (knownOf server requests before.history).paid payload.channelId settled) :
    Keeps server requests caller (server.finishOpen payload deposit intent replay submission)
      (fun acceptance world => Shown world.history payload.channelId acceptance.state ∧
        opensChannel acceptance.state = false) before := by
  cases submission with
  | openedElsewhere =>
      refine keeps_bind hBefore (keeps_innerUpdate ?_) ?_
      · exact moves_of_present fun time found result record hRan => retireElsewhere_moves hRan
      · rintro _ world - - -
        exact keeps_end fun _ hNever => nomatch hNever
  | landed signature settled =>
      rcases hLanded signature settled rfl with ⟨hOpened, hPaid⟩
      refine keeps_bind hBefore (keeps_innerUpdate ?_) ?_
      · exact moves_of_present fun time found result record hRan =>
          activate_moves hOpened hPaid hRan
      · rintro ⟨_, record⟩ world - - hWrote
        rcases hWrote.ran with ⟨time, found, hRan, -⟩
        simp only [RequestServer.activate, bind_eq_ok, pure, Except.pure, Except.ok.injEq,
          Prod.mk.injEq] at hRan
        rcases hRan with ⟨state, -, -, -, -, -, -, rfl⟩
        exact keeps_pure fun later hLater =>
          ⟨hWrote.shown.mono hLater, opensChannel_activated⟩

theorem keeps_openChannel {payload : OpenPayload} {context : SessionOpenContext}
    (hTrusted : server.Trusted) (hBefore : Consistent server requests before)
    (hOpens : ∀ validated, server.validateOpenRequest payload context = .ok validated →
      (requests caller).Opens server before.history caller payload.channelId validated.deposit) :
    Keeps server requests caller (server.openChannel payload context)
      (fun acceptance world => Shown world.history payload.channelId acceptance.state ∧
        opensChannel acceptance.state = false) before := by
  apply keeps_checked
  intro validated hValid
  have hSigner := hTrusted.opening payload context validated hValid
  refine keeps_bind hBefore keeps_innerChannel ?_
  rintro existing read hRead hReadGrown -
  apply keeps_checked
  intro _ _
  refine keeps_bind hRead (keeps_await .pipeline trivial) ?_
  rintro _ ready hReady hReadyGrown -
  apply keeps_checked
  intro prepared _
  refine keeps_bind hReady (keeps_observedFloor hReady) ?_
  rintro observed floored hFloored hFlooredGrown -
  refine keeps_bind hFloored keeps_clock ?_
  rintro now clocked hClocked hClockedGrown -
  apply keeps_checked
  intro storedIntent _
  apply keeps_checked
  intro activationFloor _
  refine keeps_bind hClocked (keeps_finalizedValidAt hClocked) ?_
  rintro validAt valid hValidWorld hValidGrown -
  apply keeps_checked
  intro intent _
  apply keeps_checked
  intro freshState hFresh
  refine keeps_bind hValidWorld (keeps_innerUpdate ?_) ?_
  · constructor
    · intro time result record hRan
      rcases reserve_eq_ok (plainly_eq_ok.mp hRan) with ⟨-, rfl⟩ | hSame
      · exact boundState_reserved hSigner hFresh
      · cases hSame
    · intro time state result record hNewest hRan
      rcases reserve_eq_ok (plainly_eq_ok.mp hRan) with ⟨hNone, -⟩ | hSame
      · cases hNone
      · cases hSame
        exact .aside (.refl _)
  · rintro ⟨replay, reserved⟩ written hWritten hWrittenGrown -
    refine keeps_bind hWritten
      (keeps_await (.submitOpen payload.channelId existing.isNone activationFloor) trivial) ?_
    rintro submission submitted hSubmitted hSubmittedGrown ⟨reply, hTold, -, hReply⟩
    cases hReply
    apply keeps_finishOpen hSubmitted
    rintro signature settled rfl
    have hAll := ((((((hReadGrown.trans hReadyGrown).trans hFlooredGrown).trans
      hClockedGrown).trans hValidGrown).trans hWrittenGrown).trans hSubmittedGrown)
    refine ⟨⟨caller, _, _, signature, settled, hTold.mem, opens_mono hAll (hOpens _ hValid)⟩, ?_⟩
    exact .inr ⟨caller, _, _, signature, hTold.mem⟩

omit [DecidableEq Scope] in
theorem keeps_retirementDue {intent : OpenIntent} {invalidAt : ℕ}
    (hBefore : Consistent server requests before) :
    Keeps server requests caller (server.retirementDue channelId intent invalidAt)
      (fun _ _ => True) before := by
  apply keeps_checked
  intro prepared _
  apply keeps_checked
  intro signature _
  apply keeps_checked
  intro _ _
  refine keeps_bind hBefore (keeps_await (.unfunded channelId signature invalidAt) trivial) ?_
  rintro unfunded world - - -
  exact keeps_pure fun _ _ => trivial

omit [DecidableEq Scope] in
theorem keeps_expiredOpen {intent : OpenIntent} (hBefore : Consistent server requests before) :
    Keeps server requests caller (server.expiredOpen channelId intent) (fun _ _ => True)
      before := by
  rw [RequestServer.expiredOpen]
  split
  · exact keeps_pure fun _ _ => trivial
  · rename_i validAt _
    split
    · exact keeps_pure fun _ _ => trivial
    · refine keeps_bind hBefore (keeps_await .pipeline trivial) ?_
      rintro _ ready hReady - -
      refine keeps_bind hReady
        (keeps_await (.blockhashValidity intent.recentBlockhash (some validAt)) trivial) ?_
      rintro ⟨valid, invalidAt⟩ world hConsistent - -
      dsimp only
      split
      · exact keeps_retirementDue hConsistent
      · exact keeps_pure fun _ _ => trivial

omit [DecidableEq Scope] in
theorem pendingIntent_channelId {state : ChannelState} {intent : OpenIntent}
    (hPending : server.pendingIntent channelId state = .ok intent) :
    intent.payload.channelId = channelId := by
  simp only [SessionServer.pendingIntent, bind_eq_ok, refuseIf_eq_ok, pure, Except.pure,
    Except.ok.injEq, not_or, not_not] at hPending
  rcases hPending with ⟨-, -, value, -, found, -, -, ⟨-, hSame⟩, rfl⟩
  exact hSame

theorem keeps_resumeOpen (hTrusted : server.Trusted) (hBefore : Consistent server requests before)
    (hRequest : requests caller = .resumeOpen channelId) :
    Keeps server requests caller (server.resumeOpen channelId)
      (fun acceptance world => Shown world.history channelId acceptance.state ∧
        opensChannel acceptance.state = false) before := by
  refine keeps_bind hBefore keeps_innerChannel ?_
  rintro found read hReadWorld - hRead
  apply keeps_checked
  intro state hState
  simp only [okOr_eq_ok] at hState
  have hTold := (hRead state hState).told
  apply keeps_checked
  intro _ _
  apply keeps_checked
  intro intent hPending
  have hSame := pendingIntent_channelId hPending
  refine keeps_bind hReadWorld (keeps_expiredOpen hReadWorld) ?_
  rintro expired world hConsistent hGrown -
  cases expired with
  | some invalidAt =>
      refine keeps_bind hConsistent (keeps_innerUpdate ?_) ?_
      · exact moves_of_present fun time found result record hRan => retireExpired_moves hRan
      · rintro _ last - - -
        refine keeps_end fun _ hNever => ?_
        cases hNever
  | none =>
      have hOpens : ∀ validated,
          server.validateOpenRequest intent.payload intent.context = .ok validated →
            (requests caller).Opens server world.history caller intent.payload.channelId
              validated.deposit := by
        intro validated hValid
        rw [hRequest, hSame]
        exact ⟨rfl, state, intent, validated, hGrown.mem hTold, hPending, hValid, rfl⟩
      exact hSame ▸ keeps_openChannel hTrusted hConsistent hOpens

end PayKit.Session
