import PayKit.BatchSettlement.ClientSession
import PayKit.BatchSettlement.Refund
import PayKit.Concurrency.Interleaving

/-!
# No close under a running lease

Refunds run beside everything else that updates a channel's record: paid requests, reads
of the chain, redemptions and other refunds, on any number of replicas. The store and the
chain may fail at any call, also after the store has updated the record.

A cooperative close is submitted, and reported, only behind a fence: one transition that
found no lease running. A reservation whose lease has run out does not hold the fence up,
even when its handler has succeeded. A forced close sets no fence: it leaves commits and
releases as they were until the finalizer seals.
-/

namespace PayKit.BatchSettlement.Refund

open Channel Concurrency Control Machine Solana Store Tx

/-! ### Runs -/

abbrev RefundWorld (Caller : Type) := World Caller ChannelState RefundCall RefundReply

abbrev RefundEvent (Caller : Type) := Event Caller RefundCall RefundReply

abbrev RefundConfig (Caller : Type) :=
  Config Caller ChannelState RefundCall RefundReply (Except String RefundResponse)

/-- An update that answers with a record has left it; any other may have been done or not. -/
structure Updates (deployment : Deployment) (inPlace : Bool) (update : RecordUpdate)
    (state : ChannelState) (reply : Except StoreError ChannelState) (after : ChannelState) :
    Prop where
  done : after = update.after deployment inPlace state ∨ after = state
  answered : ∀ updated, reply = .ok updated →
    (update.result deployment inPlace state).1 = .ok () ∧
      after = update.after deployment inPlace state ∧ updated = after

/-- The store answers from the record or fails; the chain and the clock answer anything. -/
def refundEnvironment (Caller : Type) (deployment : Deployment) (inPlace : Bool) :
    Environment Caller ChannelState RefundCall RefundReply where
  effect call state reply after :=
    match call, reply with
    | .getChannel, reply => (∀ found, reply = .ok found → found = some state) ∧ after = state
    | .update update, reply => Updates deployment inPlace update state reply after
    | _, _ => after = state
  allowed _ _ := True

/-- The amount at which a call closes the channel, or records that it closed. -/
def closesAt : RefundCall → Option ℕ
  | .update (.recordCooperativeClose completed _) => some completed.cumulative
  | .submitClose instructions => some instructions.cumulative
  | _ => none

/-- The time by which a call fences the record. -/
def fencesAt : RefundCall → Option ℕ
  | .update (.request (.cooperativeClose _ _ now)) => some now
  | _ => none

/-- A call that neither closes the channel nor fences its record. -/
def Ordinary (call : RefundCall) : Prop :=
  closesAt call = none ∧ fencesAt call = none

/-- Every caller runs its refund, or anything that closes no channel; no close was saved
before. -/
structure RefundStart {Caller : Type} (refunds : Caller → Option (BatchServer × RefundRequest))
    (start : RefundConfig Caller) : Prop where
  unclosed : recordedCooperativeClose start.world.state = none
  history : start.world.history = []
  refund : ∀ caller server request, refunds caller = some (server, request) →
    start.threads caller = (refundPayment server request).run
  other : ∀ caller, refunds caller = none →
    (start.threads caller).Uses Ordinary

/-- The fence that an event set: its amount, and the time up to which it found no lease. -/
def fenceOf {Caller : Type} : RefundEvent Caller → Option (ℕ × ℕ)
  | ⟨_, .update (.request (.cooperativeClose _ cumulative now)), .ok _⟩ => some (cumulative, now)
  | _ => none

/-- A call that closes the channel at `cumulative`, if at all. -/
def ClosesOnlyAt (cumulative : ℕ) (call : RefundCall) : Prop :=
  (∀ amount ∈ closesAt call, amount = cumulative) ∧ fencesAt call = none

theorem Ordinary.closesOnlyAt {cumulative : ℕ} {call : RefundCall} (hOrdinary : Ordinary call) :
    ClosesOnlyAt cumulative call := by
  refine ⟨?_, hOrdinary.2⟩
  simp [hOrdinary.1]

variable {Caller : Type} {deployment : Deployment} {inPlace : Bool}

/-- A fence at `cumulative` was set. -/
def WasFenced (cumulative : ℕ) (world : RefundWorld Caller) : Prop :=
  ∃ event ∈ world.history, ∃ now, fenceOf event = some (cumulative, now)

theorem WasFenced.mono {cumulative : ℕ} {earlier later : RefundWorld Caller}
    (hSuffix : earlier.history <:+ later.history) (hFenced : WasFenced cumulative earlier) :
    WasFenced cumulative later := by
  rcases hFenced with ⟨event, hMem, now, hFence⟩
  exact ⟨event, hSuffix.mem hMem, now, hFence⟩

/-- What holds between two calls: every fence still stands, and the channel is closed, and
a close saved, only behind one. -/
structure FenceInvariant (world : RefundWorld Caller) : Prop where
  fenced : ∀ event ∈ world.history, ∀ cumulative now, fenceOf event = some (cumulative, now) →
    ⟨event.caller, .now, now⟩ ∈ world.history ∧ Fenced cumulative (asI64 now) world.state
  closed : ∀ event ∈ world.history, ∀ cumulative ∈ closesAt event.call, WasFenced cumulative world
  saved : ∀ done, recordedCooperativeClose world.state = some done →
    WasFenced done.cumulative world

/-- A fence at `cumulative` stands: since the time that its caller read, no lease runs. -/
def StandsFenced (cumulative : ℕ) (world : RefundWorld Caller) : Prop :=
  ∃ event ∈ world.history, ∃ now, fenceOf event = some (cumulative, now) ∧
    ⟨event.caller, .now, now⟩ ∈ world.history ∧ Fenced cumulative (asI64 now) world.state

theorem FenceInvariant.standsFenced {world : RefundWorld Caller} {cumulative : ℕ}
    (hInvariant : FenceInvariant world) (hFenced : WasFenced cumulative world) :
    StandsFenced cumulative world := by
  rcases hFenced with ⟨event, hMem, now, hFence⟩
  exact ⟨event, hMem, now, hFence, hInvariant.fenced event hMem cumulative now hFence⟩

theorem fenced_of_cooperativeClose {state : ChannelState} {voucherSignature : String}
    {cumulative now : ℕ}
    (hOk : ((RecordUpdate.request (.cooperativeClose voucherSignature cumulative now)).result
      deployment inPlace state).1 = .ok ()) :
    Fenced cumulative (asI64 now)
      ((RecordUpdate.request (.cooperativeClose voucherSignature cumulative now)).after
        deployment inPlace state) := by
  simp only [RecordUpdate.result, CloseStep.answer, CloseStep.result] at hOk
  have hAfter : (RecordUpdate.request (.cooperativeClose voucherSignature cumulative now)).after
      deployment inPlace state = (fenceCooperativeClose cumulative now state).2 := by
    simp only [RecordUpdate.after, RecordUpdate.result, CloseStep.answer, CloseStep.after,
      CloseStep.result, hOk]
  rw [hAfter]
  rcases @fenceCooperativeClose_cases state cumulative now voucherSignature with
    ⟨-, hRefused⟩ | ⟨-, hCloses, hChose⟩
  · exact absurd hOk hRefused
  · refine ⟨hCloses.cumulative.trans hChose.carries.symm, hCloses.closing, hChose.fenced, ?_⟩
    have hPending : (fenceCooperativeClose cumulative now state).2.hasBlockingAuthorization
        (asI64 now) = state.hasBlockingAuthorization (asI64 now) := by
      simp only [fenceCooperativeClose]
      repeat' split
      all_goals rfl
    rw [hPending]
    exact hChose.idle

/-- A call keeps the invariant when what it closes was fenced before, and when it fences by
a time that its caller read. -/
theorem FenceInvariant.record {world : RefundWorld Caller} {caller : Caller} {call : RefundCall}
    {reply : RefundReply call} {state : ChannelState} (hInvariant : FenceInvariant world)
    (hCloses : ∀ cumulative ∈ closesAt call, WasFenced cumulative world)
    (hFences : ∀ now ∈ fencesAt call, ⟨caller, .now, now⟩ ∈ world.history)
    (hEffect : (refundEnvironment Caller deployment inPlace).effect call world.state reply state) :
    FenceInvariant (world.record ⟨caller, call, reply⟩ state) := by
  have hSuffix : world.history <:+ (world.record ⟨caller, call, reply⟩ state).history :=
    List.suffix_cons _ _
  have hClosed : ∀ event ∈ (world.record ⟨caller, call, reply⟩ state).history,
      ∀ cumulative ∈ closesAt event.call,
        WasFenced cumulative (world.record ⟨caller, call, reply⟩ state) := by
    intro event hMem cumulative hAmount
    rcases List.mem_cons.mp hMem with rfl | hOld
    · exact (hCloses cumulative hAmount).mono hSuffix
    · exact (hInvariant.closed event hOld cumulative hAmount).mono hSuffix
  by_cases hUpdate : ∃ update, call = .update update
  · rcases hUpdate with ⟨update, rfl⟩
    have hUpdates : Updates deployment inPlace update world.state reply state := hEffect
    refine ⟨?_, hClosed, ?_⟩
    · intro event hMem cumulative now hFence
      rcases List.mem_cons.mp hMem with rfl | hOld
      · simp only [fenceOf] at hFence
        split at hFence
        · rename_i voucherSignature amount time updated hEvent
          cases hFence
          cases hEvent
          rcases hUpdates.answered updated rfl with ⟨hOk, hAfter, -⟩
          refine ⟨hSuffix.mem (hFences now rfl), ?_⟩
          rw [World.record_state, hAfter]
          exact fenced_of_cooperativeClose hOk
        · cases hFence
      · rcases hInvariant.fenced event hOld cumulative now hFence with ⟨hRead, hFenced⟩
        refine ⟨hSuffix.mem hRead, ?_⟩
        rw [World.record_state]
        rcases hUpdates.done with hAfter | hSame
        · rw [hAfter]
          exact RecordUpdate.after_fenced hFenced
        · rw [hSame]
          exact hFenced
    · intro done hDone
      rw [World.record_state] at hDone
      rcases hUpdates.done with hAfter | hSame
      · rw [hAfter, RecordUpdate.recordedCooperativeClose_after] at hDone
        split at hDone
        · rename_i completed time
          cases hDone
          exact (hCloses done.cumulative rfl).mono hSuffix
        · exact (hInvariant.saved done hDone).mono hSuffix
      · rw [hSame] at hDone
        exact (hInvariant.saved done hDone).mono hSuffix
  · have hSame : state = world.state := by
      cases call with
      | getChannel => exact hEffect.2
      | update update => exact absurd ⟨update, rfl⟩ hUpdate
      | _ => exact hEffect
    refine ⟨?_, hClosed, ?_⟩
    · intro event hMem cumulative now hFence
      rw [World.record_state, hSame]
      rcases List.mem_cons.mp hMem with rfl | hOld
      · simp only [fenceOf] at hFence
        split at hFence
        · rename_i voucherSignature amount time updated hEvent
          cases hEvent
          exact absurd ⟨_, rfl⟩ hUpdate
        · cases hFence
      · rcases hInvariant.fenced event hOld cumulative now hFence with ⟨hRead, hFenced⟩
        exact ⟨hSuffix.mem hRead, hFenced⟩
    · intro done hDone
      rw [World.record_state, hSame] at hDone
      exact (hInvariant.saved done hDone).mono hSuffix

/-! ### What a refund does on the way -/

/-- The refund's own read showed the channel closing. -/
def SawClosing (caller : Caller) (world : RefundWorld Caller) : Prop :=
  ∃ channel : OnchainChannel, ⟨caller, .lookupChannel, .ok (some channel)⟩ ∈ world.history ∧
    channel.status = channelStatusClosing

theorem SawClosing.mono {caller : Caller} {earlier later : RefundWorld Caller}
    (hSuffix : earlier.history <:+ later.history) (hSaw : SawClosing caller earlier) :
    SawClosing caller later := by
  rcases hSaw with ⟨channel, hMem, hStatus⟩
  exact ⟨channel, hSuffix.mem hMem, hStatus⟩

/-- The amount of the refund's voucher. -/
def RefundsAt (request : RefundRequest) (cumulative : ℕ) : Prop :=
  ∃ voucher, request.refund.voucher = some voucher ∧ voucher.maxClaimable = .ok cumulative

/-- A property of the results that are no failures. -/
def OnSuccess {Result : Type} (holds : Result → RefundWorld Caller → Prop) :
    Except String Result → RefundWorld Caller → Prop
  | .ok result, world => holds result world
  | .error _, _ => True

/-- A refund in a run: it keeps the invariant, and `holds` of what it returns. -/
abbrev Ensures {Result : Type} (deployment : Deployment) (inPlace : Bool) (caller : Caller)
    (program : RefundProgram Result) (holds : Result → RefundWorld Caller → Prop)
    (before : RefundWorld Caller) : Prop :=
  (refundEnvironment Caller deployment inPlace).Safe FenceInvariant caller (fun _ => True)
    (OnSuccess holds) program.run before

section

variable {caller : Caller} {before : RefundWorld Caller} {First Result : Type}
  {cumulative : ℕ}

theorem uses_ofExcept {allowed : RefundCall → Prop} {result : Except String Result} :
    (RefundProgram.ofExcept result).run.Uses allowed :=
  trivial

theorem uses_ofExcept_bind {allowed : RefundCall → Prop} {result : Except String First}
    {rest : First → RefundProgram Result}
    (hRest : ∀ value, result = .ok value → (rest value).run.Uses allowed) :
    (RefundProgram.ofExcept result >>= rest).run.Uses allowed := by
  cases result with
  | ok value => exact hRest value rfl
  | error error => trivial

theorem uses_await {allowed : RefundCall → Prop} {call : RefundCall}
    {outcome : RefundReply call → Except String Result} (hCall : allowed call) :
    (RefundProgram.await call outcome).run.Uses allowed :=
  ⟨hCall, fun _ => trivial⟩

theorem ensures_stable {program : RefundProgram Result} {reason : RefundWorld Caller → Prop}
    (hStable : ∀ earlier later, earlier.history <:+ later.history → reason earlier → reason later)
    (hUses : program.run.Uses Ordinary) (hReason : reason before) :
    Ensures deployment inPlace caller program (fun _ => reason) before := by
  have hSafe : (refundEnvironment Caller deployment inPlace).Safe FenceInvariant caller
      (fun _ => True) (fun _ => reason) program.run before := by
    refine Environment.Safe.of_uses hStable ?_ hUses hReason
    intro world call reply state hInvariant _ hOrdinary hEffect _
    apply hInvariant.record _ _ hEffect
    · simp [hOrdinary.1]
    · simp [hOrdinary.2]
  apply hSafe.weaken
  intro result world _ _ hHolds
  cases result with
  | ok value => exact hHolds
  | error error => trivial

theorem ensures_of_quiet {program : RefundProgram Result}
    (hUses : program.run.Uses Ordinary) :
    Ensures deployment inPlace caller program (fun _ _ => True) before :=
  ensures_stable (fun _ _ _ _ => trivial) hUses trivial

theorem ensures_of_fenced {program : RefundProgram Result}
    (hUses : program.run.Uses (ClosesOnlyAt cumulative))
    (hFenced : WasFenced cumulative before) :
    Ensures deployment inPlace caller program (fun _ => WasFenced cumulative) before := by
  have hSafe : (refundEnvironment Caller deployment inPlace).Safe FenceInvariant caller
      (fun _ => True) (fun _ => WasFenced cumulative) program.run before := by
    refine Environment.Safe.of_uses (fun _ _ => WasFenced.mono) ?_ hUses hFenced
    intro world call reply state hInvariant hStill hCloses hEffect _
    apply hInvariant.record _ _ hEffect
    · intro amount hAmount
      rw [hCloses.1 amount hAmount]
      exact hStill
    · simp [hCloses.2]
  apply hSafe.weaken
  intro result world _ _ hStill
  cases result with
  | ok value => exact hStill
  | error error => trivial

theorem ensures_bind {program : RefundProgram First} {rest : First → RefundProgram Result}
    {middle : First → RefundWorld Caller → Prop} {holds : Result → RefundWorld Caller → Prop}
    (hInvariant : FenceInvariant before)
    (hFirst : Ensures deployment inPlace caller program middle before)
    (hRest : ∀ value world, FenceInvariant world → middle value world →
      Ensures deployment inPlace caller (rest value) holds world) :
    Ensures deployment inPlace caller (program >>= rest) holds before := by
  apply Environment.Safe.fallible_bind hInvariant hFirst
  · intro value world hHolds _ hMiddle
    exact hRest value world hHolds hMiddle
  · intro error world _ _ _ _ _
    trivial

theorem ensures_ofExcept_bind {result : Except String First}
    {rest : First → RefundProgram Result} {holds : Result → RefundWorld Caller → Prop}
    (hRest : ∀ value, result = .ok value →
      Ensures deployment inPlace caller (rest value) holds before) :
    Ensures deployment inPlace caller (RefundProgram.ofExcept result >>= rest) holds before := by
  cases result with
  | ok value => exact hRest value rfl
  | error error => exact fun _ _ => trivial

theorem ensures_pure {value : Result} {holds : Result → RefundWorld Caller → Prop}
    (hHolds : ∀ world, before.history <:+ world.history → holds value world) :
    Ensures deployment inPlace caller (pure value) holds before :=
  fun _ hInterferes => hHolds _ hInterferes.suffix

theorem ensures_fetchChannel {channelId : Pubkey} :
    Ensures deployment inPlace caller (RefundProgram.fetchChannel channelId)
      (fun channel world => channel.status = channelStatusClosing → SawClosing caller world)
      before := by
  intro now hInterferes
  refine ⟨trivial, ?_⟩
  intro reply state hEffect _
  refine ⟨hInterferes.1.record (fun _ hAmount => nomatch hAmount)
    (fun _ hTime => nomatch hTime) hEffect, ?_⟩
  cases reply with
  | error error => exact fun _ _ => trivial
  | ok found =>
      cases found with
      | none => exact fun _ _ => trivial
      | some channel =>
          intro later hLater hStatus
          refine ⟨channel, hLater.suffix.mem ?_, hStatus⟩
          exact List.mem_cons_self

theorem ensures_getChannel {wrap : StoreError → String} :
    Ensures deployment inPlace caller (RefundProgram.getChannel wrap)
      (fun stored world => ∀ state ∈ stored, ∀ done,
        recordedCooperativeClose state = some done → WasFenced done.cumulative world) before := by
  intro now hInterferes
  refine ⟨trivial, ?_⟩
  intro reply state hEffect _
  refine ⟨hInterferes.1.record (fun _ hAmount => nomatch hAmount)
    (fun _ hTime => nomatch hTime) hEffect, ?_⟩
  cases reply with
  | error error => exact fun _ _ => trivial
  | ok found =>
      intro later hLater stored hStored done hDone
      have hFound := hEffect.1 found rfl
      rw [hFound] at hStored
      cases hStored
      exact (hInterferes.1.saved done hDone).mono
        ((List.suffix_cons _ _).trans hLater.suffix)

theorem ensures_fenceClose {voucher : BatchVoucher} :
    Ensures deployment inPlace caller (fenceClose voucher cumulative)
      (fun _ => WasFenced cumulative) before := by
  intro now hInterferes
  refine ⟨trivial, ?_⟩
  intro time timed hTimed _
  refine ⟨hInterferes.1.record (fun _ hAmount => nomatch hAmount)
    (fun _ hTime => nomatch hTime) hTimed, ?_⟩
  intro later hLater
  refine ⟨trivial, ?_⟩
  intro reply state hEffect _
  have hRead : ⟨caller, .now, time⟩ ∈ later.history := hLater.suffix.mem List.mem_cons_self
  refine ⟨hLater.1.record (fun _ hAmount => nomatch hAmount) ?_ hEffect, ?_⟩
  · intro other hTime
    cases hTime
    exact hRead
  · cases reply with
    | error error => exact fun _ _ => trivial
    | ok updated =>
        intro last hLast
        exact ⟨_, hLast.suffix.mem List.mem_cons_self, time, rfl⟩

end

/-! ### What a refund may call -/

/-- A call that leaves the requests of the record alone. -/
def LeavesRequests : RefundCall → Prop
  | .update (.upsertChannel _ none _) => True
  | .update (.recordClose _ _) => True
  | .update (.recordSettled _) => True
  | .update (.recordRedemption _ _ _) => True
  | .update _ => False
  | .submitClose _ => False
  | _ => True

theorem LeavesRequests.ordinary {call : RefundCall} (hLeaves : LeavesRequests call) :
    Ordinary call := by
  cases call with
  | update update => cases update <;> first | exact ⟨rfl, rfl⟩ | exact hLeaves.elim
  | submitClose instructions => exact hLeaves.elim
  | _ => exact ⟨rfl, rfl⟩

section

variable {server : BatchServer} {request : RefundRequest}

theorem fetchChannel_uses {channelId : Pubkey} :
    (RefundProgram.fetchChannel channelId).run.Uses LeavesRequests :=
  Fallible.uses_bind (uses_await trivial) fun _ => uses_ofExcept

theorem verifyRefund_uses : (verifyRefund server request).run.Uses LeavesRequests := by
  refine Fallible.uses_bind uses_ofExcept fun voucher => ?_
  refine Fallible.uses_bind uses_ofExcept fun maxClaimable => ?_
  refine Fallible.uses_bind (uses_await trivial) fun stored => ?_
  refine Fallible.uses_bind uses_ofExcept fun state => ?_
  split
  · trivial
  · refine Fallible.uses_bind uses_ofExcept fun receiver => ?_
    refine Fallible.uses_bind uses_ofExcept fun _ => ?_
    refine Fallible.uses_bind uses_ofExcept fun payer => ?_
    refine Fallible.uses_bind (uses_await trivial) fun _ => ?_
    refine Fallible.uses_bind fetchChannel_uses fun channel => ?_
    exact Fallible.uses_bind uses_ofExcept fun _ => trivial

theorem claim_uses : (claim server request).run.Uses LeavesRequests := by
  refine Fallible.uses_bind (uses_await trivial) fun onchain => ?_
  cases onchain with
  | none => trivial
  | some onchain =>
      refine Fallible.uses_bind (uses_await trivial) fun stored => ?_
      refine Fallible.uses_bind uses_ofExcept fun state => ?_
      split
      · trivial
      refine Fallible.uses_bind (uses_await trivial) fun _ => ?_
      cases state.highestVoucherSignature with
      | none => trivial
      | some signature =>
          dsimp only
          split
          · trivial
          refine Fallible.uses_bind uses_ofExcept fun authorizedSigner => ?_
          refine Fallible.uses_bind uses_ofExcept fun bytes => ?_
          refine Fallible.uses_bind (uses_await trivial) fun _ => ?_
          refine Fallible.uses_bind ⟨trivial, fun _ => trivial⟩ fun time => ?_
          exact Fallible.uses_bind (uses_await trivial) fun _ => trivial

theorem recordCloseOf_uses {channel : OnchainChannel} :
    (recordCloseOf channel).run.Uses LeavesRequests :=
  Fallible.uses_bind ⟨trivial, fun _ => trivial⟩ fun _ => uses_await trivial

theorem requestClose_uses {transaction : String} {channel : OnchainChannel} :
    (requestClose server request transaction channel).run.Uses LeavesRequests := by
  refine Fallible.uses_bind (uses_await trivial) fun state => ?_
  split
  · exact Fallible.uses_bind claim_uses fun _ => uses_await trivial
  · exact uses_await trivial

theorem moveToClosing_uses {transaction : String} {channel : OnchainChannel} :
    (moveToClosing server request transaction channel).run.Uses LeavesRequests := by
  simp only [moveToClosing]
  split
  · exact requestClose_uses
  · exact uses_ofExcept

theorem forcedClose_uses {transaction : String} :
    (forcedClose server request transaction).run.Uses LeavesRequests := by
  refine Fallible.uses_bind fetchChannel_uses fun channel => ?_
  refine Fallible.uses_bind ⟨trivial, fun _ => trivial⟩ fun time => ?_
  refine Fallible.uses_bind (uses_await trivial) fun _ => ?_
  refine Fallible.uses_bind moveToClosing_uses fun signature => ?_
  refine Fallible.uses_bind fetchChannel_uses fun after => ?_
  split
  · trivial
  · exact Fallible.uses_bind recordCloseOf_uses fun _ => trivial

variable {cumulative : ℕ}

theorem attemptClose_uses {instructions : OnchainChannel → Except String CloseInstructions}
    {rebuilt : Bool} {again : OnchainChannel → RefundProgram String}
    (hInstructions : ∀ onchain built, instructions onchain = .ok built →
      built.cumulative = cumulative)
    (hAgain : ∀ onchain, (again onchain).run.Uses (ClosesOnlyAt cumulative))
    (onchain : OnchainChannel) :
    (attemptClose instructions cumulative rebuilt again onchain).run.Uses
      (ClosesOnlyAt cumulative) := by
  refine uses_ofExcept_bind fun built hBuilt => ?_
  have hAmount : ClosesOnlyAt cumulative (.submitClose built) := by
    refine ⟨?_, rfl⟩
    intro amount hSubmitted
    cases hSubmitted
    exact hInstructions onchain built hBuilt
  refine Fallible.uses_bind (uses_await hAmount) fun submitted => ?_
  cases submitted with
  | ok signatures => trivial
  | error error =>
      refine Fallible.uses_bind (uses_await (Ordinary.closesOnlyAt ⟨rfl, rfl⟩)) fun after => ?_
      split
      · exact hAgain _
      · trivial
      · trivial

theorem cooperativeCloseInstructions_cumulative {voucher : BatchVoucher}
    {authorizedSigner : Pubkey} {onchain : OnchainChannel} {built : CloseInstructions}
    (hBuilt : cooperativeCloseInstructions server request voucher cumulative authorizedSigner
      onchain = .ok built) : built.cumulative = cumulative := by
  simp only [cooperativeCloseInstructions, bind_eq_ok] at hBuilt
  rcases hBuilt with ⟨signature, -, receiver, -, hBuilt⟩
  cases hBuilt
  rfl

theorem completeClose_uses {voucher : BatchVoucher} {onchain : OnchainChannel} :
    (completeClose server request voucher cumulative onchain).run.Uses
      (ClosesOnlyAt cumulative) := by
  refine Fallible.uses_bind uses_ofExcept fun authorizedSigner => ?_
  refine Fallible.uses_bind ?_ fun signature => ?_
  · refine attemptClose_uses (fun _ _ => cooperativeCloseInstructions_cumulative) ?_ onchain
    refine attemptClose_uses (fun _ _ => cooperativeCloseInstructions_cumulative) ?_
    intro again
    trivial
  refine Fallible.uses_bind (uses_await (Ordinary.closesOnlyAt ⟨rfl, rfl⟩)) fun after => ?_
  refine Fallible.uses_bind uses_ofExcept fun _ => ?_
  refine Fallible.uses_bind ⟨Ordinary.closesOnlyAt ⟨rfl, rfl⟩, fun _ => trivial⟩ fun time => ?_
  refine Fallible.uses_bind (uses_await ?_) fun _ => trivial
  refine ⟨?_, rfl⟩
  intro amount hRecorded
  cases hRecorded
  rfl

end

/-! ### What a refund ensures -/

section

variable {caller : Caller} {before : RefundWorld Caller} {server : BatchServer}
  {request : RefundRequest} {cumulative : ℕ}

/-- A refund succeeds on a channel that was seen closing, or that was fenced at its amount. -/
def ClosedBehindFence (caller : Caller) (cumulative : ℕ) (world : RefundWorld Caller) : Prop :=
  SawClosing caller world ∨ WasFenced cumulative world

theorem ensures_of_leavesRequests {Result : Type} {program : RefundProgram Result}
    (hUses : program.run.Uses LeavesRequests) :
    Ensures deployment inPlace caller program (fun _ _ => True) before :=
  ensures_of_quiet (hUses.mono fun _ => LeavesRequests.ordinary)

theorem ensures_forcedClose {transaction : String} (hInvariant : FenceInvariant before) :
    Ensures deployment inPlace caller (forcedClose server request transaction)
      (fun _ => ClosedBehindFence caller cumulative) before := by
  have hClock : RefundProgram.now.run.Uses LeavesRequests := ⟨trivial, fun _ => trivial⟩
  refine ensures_bind hInvariant (ensures_of_leavesRequests fetchChannel_uses) ?_
  intro channel fetched hFetched _
  refine ensures_bind hFetched (ensures_of_leavesRequests hClock) ?_
  intro time timed hTimed _
  refine ensures_bind hTimed (ensures_of_leavesRequests (uses_await trivial)) ?_
  intro upserted updated hUpdated _
  refine ensures_bind hUpdated (ensures_of_leavesRequests moveToClosing_uses) ?_
  intro signature moved hMoved _
  refine ensures_bind hMoved ensures_fetchChannel ?_
  intro after refetched hRefetched hSaw
  split
  · exact fun _ _ => trivial
  · rename_i hClosing
    have hSawClosing := hSaw (not_not.mp hClosing)
    refine ensures_bind hRefetched (ensures_stable (fun _ _ => SawClosing.mono)
      (recordCloseOf_uses.mono fun _ => LeavesRequests.ordinary) hSawClosing) ?_
    intro state recorded _ hStill
    exact ensures_pure fun world hSuffix => .inl (hStill.mono hSuffix)

theorem ensures_cooperativeClose (hInvariant : FenceInvariant before) :
    Ensures deployment inPlace caller (cooperativeClose server request cumulative)
      (fun _ => ClosedBehindFence caller cumulative) before := by
  refine ensures_ofExcept_bind fun voucher _ => ?_
  refine ensures_bind hInvariant ensures_fetchChannel ?_
  intro onchain fetched hFetched hSaw
  split
  · rename_i hClosing
    refine ensures_bind hFetched (ensures_stable (fun _ _ => SawClosing.mono)
      (recordCloseOf_uses.mono fun _ => LeavesRequests.ordinary) (hSaw hClosing)) ?_
    intro state recorded _ hStill
    exact ensures_pure fun world hSuffix => .inl (hStill.mono hSuffix)
  · refine ensures_ofExcept_bind fun _ _ => ?_
    refine ensures_ofExcept_bind fun _ _ => ?_
    refine ensures_ofExcept_bind fun _ _ => ?_
    refine ensures_bind hFetched ensures_fenceClose ?_
    intro fenced world hWorld hFenced
    apply (ensures_of_fenced completeClose_uses hFenced).weaken
    intro result later _ _ hStill
    cases result with
    | ok response => exact .inr hStill
    | error error => trivial

theorem ensures_settleRefund (hInvariant : FenceInvariant before) :
    Ensures deployment inPlace caller (settleRefund server request cumulative)
      (fun _ => ClosedBehindFence caller cumulative) before := by
  refine ensures_bind hInvariant ensures_getChannel ?_
  intro stored read hRead hSaved
  have hClose : Ensures deployment inPlace caller (closeRefunded server request cumulative)
      (fun _ => ClosedBehindFence caller cumulative) read := by
    unfold closeRefunded
    split
    · exact ensures_cooperativeClose hRead
    · exact ensures_forcedClose hRead
  split
  · rename_i state done hDone
    rcases Option.bind_eq_some_iff.mp hDone with ⟨found, hFound, hRecorded⟩
    rcases Option.map_eq_some_iff.mp hRecorded with ⟨saved, hSavedClose, hPair⟩
    cases hPair
    split
    · rename_i hSame
      -- The saved close answers a retry: its first answer was fenced.
      refine ensures_pure fun world hSuffix => .inr ?_
      rw [← hSame]
      exact (hSaved state hFound done hSavedClose).mono hSuffix
    · exact hClose
  · exact hClose

theorem ensures_verifyRefund (hInvariant : FenceInvariant before) :
    Ensures deployment inPlace caller (verifyRefund server request)
      (fun amount _ => RefundsAt request amount) before := by
  refine ensures_ofExcept_bind fun voucher hVoucher => ?_
  refine ensures_ofExcept_bind fun amount hChecked => ?_
  have hRefunds : RefundsAt request amount := by
    refine ⟨voucher, okOr_eq_ok.mp hVoucher, ?_⟩
    simp only [mapError_eq_ok, checkVoucher, bind_eq_ok] at hChecked
    rcases hChecked with ⟨_, -, _, -, claimed, hClaimed, _, -, hAmount⟩
    cases hAmount
    exact hClaimed
  refine ensures_bind hInvariant (ensures_of_leavesRequests (uses_await trivial)) ?_
  intro stored read hRead _
  refine ensures_ofExcept_bind fun state _ => ?_
  split
  · exact ensures_pure fun _ _ => hRefunds
  · refine ensures_ofExcept_bind fun receiver _ => ?_
    refine ensures_ofExcept_bind fun _ _ => ?_
    refine ensures_ofExcept_bind fun payer _ => ?_
    refine ensures_bind hRead (ensures_of_leavesRequests (uses_await trivial)) ?_
    intro _ checked hAccounts _
    refine ensures_bind hAccounts (ensures_of_leavesRequests fetchChannel_uses) ?_
    intro channel fetched _ _
    refine ensures_ofExcept_bind fun _ _ => ?_
    exact ensures_pure fun _ _ => hRefunds

theorem ensures_refundPayment (hInvariant : FenceInvariant before) :
    Ensures deployment inPlace caller (refundPayment server request)
      (fun _ world => SawClosing caller world ∨
        ∃ amount, RefundsAt request amount ∧ WasFenced amount world) before := by
  refine ensures_bind hInvariant (ensures_verifyRefund hInvariant) ?_
  intro amount verified hVerified hRefunds
  apply (ensures_settleRefund hVerified).weaken
  intro result world _ _ hClosed
  cases result with
  | error error => trivial
  | ok response =>
      rcases hClosed with hSaw | hFenced
      · exact .inl hSaw
      · exact .inr ⟨amount, hRefunds, hFenced⟩

/-- With a carried `request_close`, a refund leaves the requests of the record alone. -/
theorem settleRefund_uses {transaction : String}
    (hCarried : request.refund.transaction = some transaction) :
    (settleRefund server request cumulative).run.Uses LeavesRequests := by
  refine Fallible.uses_bind (uses_await trivial) fun stored => ?_
  simp only [closeRefunded, hCarried]
  split
  · split
    · trivial
    · exact forcedClose_uses
  · exact forcedClose_uses

theorem refundPayment_uses {transaction : String}
    (hCarried : request.refund.transaction = some transaction) :
    (refundPayment server request).run.Uses LeavesRequests :=
  Fallible.uses_bind verifyRefund_uses fun _ => settleRefund_uses hCarried

end

/-! ### What a forced close leaves to the requests -/

/-- Two records with the same work and fence, from which commits and releases are decided. -/
structure SameRequests (state after : ChannelState) : Prop where
  pendingDeliveries : after.pendingDeliveries = state.pendingDeliveries
  pendingSetup : after.pendingSetup = state.pendingSetup
  committedDeliveries : after.committedDeliveries = state.committedDeliveries
  sequence : after.nextDeliverySequence = state.nextDeliverySequence
  cumulative : after.cumulative = state.cumulative
  final : after.finalCumulative = state.finalCumulative
  sealed : after.sealed = state.sealed

theorem sameRequests {update : RecordUpdate} (hLeaves : LeavesRequests (.update update))
    (state : ChannelState) : SameRequests state (update.after deployment inPlace state) := by
  cases update with
  | upsertChannel onchain depositSignature time => exact ⟨rfl, rfl, rfl, rfl, rfl, rfl, rfl⟩
  | recordClose closedAt time => exact ⟨rfl, rfl, rfl, rfl, rfl, rfl, rfl⟩
  | recordSettled settled => exact ⟨rfl, rfl, rfl, rfl, rfl, rfl, rfl⟩
  | recordRedemption settled distributed time => exact ⟨rfl, rfl, rfl, rfl, rfl, rfl, rfl⟩
  | _ => exact hLeaves.elim

/-! ### The theorem -/

section

variable {refunds : Caller → Option (BatchServer × RefundRequest)}
  {start reached : RefundConfig Caller}

theorem RefundStart.invariant (hStart : RefundStart refunds start) :
    FenceInvariant start.world where
  fenced := by simp [hStart.history]
  closed := by simp [hStart.history]
  saved := by simp [hStart.unclosed]

/-- A refund that succeeded saw the channel closing, or closed it behind a fence. -/
def Succeeds (refunds : Caller → Option (BatchServer × RefundRequest)) (caller : Caller) :
    Except String RefundResponse → RefundWorld Caller → Prop :=
  OnSuccess fun _ world => ∀ server request, refunds caller = some (server, request) →
    SawClosing caller world ∨ ∃ amount, RefundsAt request amount ∧ WasFenced amount world

theorem RefundStart.safe (hStart : RefundStart refunds start) (caller : Caller) :
    (refundEnvironment Caller deployment inPlace).Safe FenceInvariant caller (fun _ => True)
      (Succeeds refunds caller) (start.threads caller) start.world := by
  cases hRefund : refunds caller with
  | none =>
      have hQuiet := @ensures_of_quiet Caller deployment inPlace caller start.world _
        (ExceptT.mk (start.threads caller)) (hStart.other caller hRefund)
      apply hQuiet.weaken
      intro result world _ _ _
      cases result with
      | error error => trivial
      | ok response => simp [Succeeds, OnSuccess, hRefund]
  | some entry =>
      rcases entry with ⟨server, request⟩
      rw [hStart.refund caller server request hRefund]
      apply (ensures_refundPayment hStart.invariant).weaken
      intro result world _ _ hClosed
      cases result with
      | error error => trivial
      | ok response =>
          intro otherServer otherRequest hOther
          rw [hRefund] at hOther
          cases hOther
          exact hClosed

variable [DecidableEq Caller]

end

/-! ### A close over a served request -/

def receiverKey : Pubkey := .numbered 4

def feePayerKey : Pubkey := .numbered 5

def refundServer : BatchServer where
  deployment := batchDeployment
  chain := {
    decode := fun _ => .error "no transaction"
    serializedSize := fun _ => .error "no transaction"
    serialize := fun _ => []
    verify := fun _ _ _ => false
    findProgramAddress := fun _ program => program }
  curve := payerCurve
  programId := channelKey
  feePayer := feePayerKey
  tokenProgram := tokenProgram
  receiverAuthorizer := feePayerKey
  memo := none
  acceptedVersions := [.v0]
  distributionHash := Pubkey.bytes

/-- A refund at the voucher for 1,000. -/
def refundOf1000 : RefundRequest where
  refund := ⟨payerConfig, some voucherOf1000, none⟩
  channelId := channelKey
  payTo := receiverKey.display
  network := "network"

def openOnchain : OnchainChannel where
  deposit := 5000
  settled := 0
  payoutWatermark := 0
  openSlot := 42
  gracePeriod := 900
  status := channelStatusOpen
  closureStartedAt := 0
  payer := payerKey
  payee := feePayerKey
  rentPayer := feePayerKey
  authorizedSigner := payerKey
  mint := channelKey
  distributionHash := receiverKey.bytes

/-- A channel that was opened with this server as the receiver authorizer. -/
def refundableChannel : ChannelState :=
  { boundChannel with
    deposit := 5000
    extra := insertMember boundChannel.extra receiverBindingKey (.text feePayerKey.display) }

/-- A request that is charged 1,000, and another that was served but is not charged. -/
def paidRequests : List RecordUpdate := [
  .request (.reserve ⟨"first", "request", 1000, 1000, 60, 100⟩ none),
  .request (.markHandlerSucceeded ⟨"first", "request", 1000, 1⟩),
  .request (.finishCommit {
    token := ⟨"first", "request", 1000, 1⟩
    voucherSignature := voucherOf1000.signature
    voucherExpiresAt := 0
    now := 100
    confirmed := none
    depositSignature := none
    rentPayer := feePayerKey.display
    response := fun _ => none }),
  .request (.reserve ⟨"second", "request", 500, 1500, 60, 100⟩ none),
  .request (.markHandlerSucceeded ⟨"second", "request", 1500, 2⟩)]

/-- The caller `true` refunds; the other one serves the requests. -/
def refundStart : RefundConfig Bool where
  world := ⟨refundableChannel, []⟩
  threads caller :=
    if caller then (refundPayment refundServer refundOf1000).run
    else paidRequests.foldr (fun update rest => .perform (.update update) fun _ => rest)
      (.done (.error "served"))

/-- The store answers; the clock reads 200, after the leases have run out; the channel is
open until it is gone. -/
def answerRefund (gone : Bool) : (call : RefundCall) → ChannelState →
    RefundReply call × ChannelState
  | .getChannel, state => (.ok (some state), state)
  | .lookupChannel, state => (.ok (if gone then none else some openOnchain), state)
  | .now, state => (200, state)
  | .update update, state =>
      ((update.result batchDeployment true state).1.map fun _ =>
        update.after batchDeployment true state, update.after batchDeployment true state)
  | .checkSettlementAccounts _ _, state => (.ok (), state)
  | .submitClaim _, state => (.ok [], state)
  | .submitClose _, state => (.ok ["close"], state)
  | .broadcast _, state => (.ok "broadcast", state)

theorem effect_answerRefund (gone : Bool) (call : RefundCall) (state : ChannelState) :
    (refundEnvironment Bool batchDeployment true).effect call state
      (answerRefund gone call state).1 (answerRefund gone call state).2 := by
  cases call with
  | getChannel =>
      refine ⟨?_, rfl⟩
      intro found hFound
      cases hFound
      rfl
  | update update =>
      refine ⟨.inl rfl, ?_⟩
      intro updated hUpdated
      simp only [answerRefund] at hUpdated ⊢
      cases hResult : (update.result batchDeployment true state).1 with
      | error error =>
          rw [hResult] at hUpdated
          cases hUpdated
      | ok value =>
          rw [hResult] at hUpdated
          cases hUpdated
          exact ⟨rfl, trivial, rfl⟩
  | _ => rfl

/-- The refund comes after the leases of both requests. -/
def lapsedRun : RefundConfig Bool :=
  refundStart.runSchedule answerRefund
    (List.replicate 5 (false, false) ++ List.replicate 8 (true, false) ++
      List.replicate 3 (true, true))

theorem lapsedRun_reachable :
    (refundEnvironment Bool batchDeployment true).Reachable refundStart lapsedRun :=
  Config.reachable_runSchedule effect_answerRefund _ _
    (Config.permitted_of_unrestricted (fun _ _ => trivial) _ _)

/-- A refund that has returned a response. -/
def Returned (program : Program RefundCall RefundReply (Except String RefundResponse)) : Bool :=
  match program with
  | .done (.ok _) => true
  | _ => false

theorem exists_of_returned {program : Program RefundCall RefundReply (Except String RefundResponse)}
    (hReturned : Returned program) : ∃ response, program = .done (.ok response) := by
  cases program with
  | done result =>
      cases result with
      | ok response => exact ⟨response, rfl⟩
      | error error => cases hReturned
  | perform call next => cases hReturned

theorem lapsedRun_returned : Returned (lapsedRun.threads true) := by
  decide +kernel

end PayKit.BatchSettlement.Refund
