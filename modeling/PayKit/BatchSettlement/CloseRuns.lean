import PayKit.BatchSettlement.Server
import PayKit.Channel.AuthorizationSpec

/-!
# No charge behind a seal

Requests and the two ways to close a channel meet only in the channel's record. In a run
they take any number of store transitions in any order: a commit may come long after its
lease, and every pass of the finalizer reads the chain and the clock anew.

The fence is what orders them. Choosing to seal sets it in the same transition, and a
commit that finds it is refused; so the watermark stands still from the first choice on,
and every later choice carries it.
-/

namespace PayKit.BatchSettlement

open Channel Machine Store

/-- A store transition on a channel's record. -/
inductive Transition where
  | reserve (request : AuthorizationRequest) (setup : Option PendingSetup)
  | markHandlerSucceeded (token : ReservationToken)
  | finishCommit (commit : Commit)
  | release (authorizationId requestFingerprint : String) (depositSignature : Option String)
  | planClose (closureStartedAt : ℤ) (clock onchainSettled : ℕ) (pastDeadline : Bool) (now : ℤ)
  | cooperativeClose (voucherSignature : String) (cumulative now : ℕ)

inductive Answer where
  | reservation (result : Except StoreError BatchReservation)
  | finished (result : Except StoreError Unit)
  | plan (plan : GraceSealPlan)

/-- How a close seals the channel, with the voucher it carries. -/
inductive Seal where
  | applied (cumulative : ℕ) (voucherSignature : String)
  | frozen
  | cooperative (cumulative : ℕ) (voucherSignature : String)
deriving DecidableEq

/-- One transition and the record it found. -/
structure CloseStep where
  before : ChannelState
  transition : Transition

section

variable (deployment : Deployment) (inPlace : Bool)

namespace CloseStep

/-- The transition on the record itself. -/
def result (step : CloseStep) : Answer × ChannelState :=
  match step.transition with
  | .reserve request setup =>
      let result := step.before.reserveAuthorizationStaged request (stageSetup deployment setup)
      (.reservation result.1, result.2)
  | .markHandlerSucceeded token =>
      let result := step.before.markAuthorizationHandlerSucceeded token
      (.finished result.1, result.2)
  | .finishCommit commit =>
      let result := finishCommit deployment commit step.before
      (.finished result.1, result.2)
  | .release authorizationId requestFingerprint depositSignature =>
      let result := releaseRequest authorizationId requestFingerprint depositSignature step.before
      (.finished result.1, result.2)
  | .planClose closureStartedAt clock onchainSettled pastDeadline now =>
      let result := planClose closureStartedAt clock onchainSettled pastDeadline now step.before
      (.plan result.1, result.2)
  | .cooperativeClose _ cumulative now =>
      let result := fenceCooperativeClose cumulative now step.before
      (.finished result.1, result.2)

def answer (step : CloseStep) : Answer :=
  (step.result deployment).1

/-- The record that the store keeps: a store that does not work in place drops what a
failed transition wrote. -/
def after (step : CloseStep) : ChannelState :=
  match step.answer deployment with
  | .finished (.error _) => if inPlace then (step.result deployment).2 else step.before
  | _ => (step.result deployment).2

/-- The seal that the step chose, with the clock it chose by. -/
def chosen (step : CloseStep) : Option (Seal × ℤ) :=
  match step.transition, step.answer deployment with
  | .planClose _ _ _ _ now, .plan (.apply cumulative signature _) =>
      some (.applied cumulative signature, now)
  | .planClose _ _ _ _ now, .plan .sealFrozen => some (.frozen, now)
  | .cooperativeClose voucherSignature cumulative now, .finished (.ok ()) =>
      some (.cooperative cumulative voucherSignature, asI64 now)
  | _, _ => none

/-- The cumulative amount that the step charged, with the voucher for it. -/
def charged (step : CloseStep) : Option (ℕ × String) :=
  match step.transition, step.answer deployment with
  | .finishCommit commit, .finished (.ok ()) =>
      if (step.before.committedAuthorization commit.token.authorizationId).isNone then
        some (commit.token.cumulative, commit.voucherSignature)
      else none
  | _, _ => none

/-- The reservation that the step took. -/
def reserved (step : CloseStep) : Option ReservationToken :=
  match step.answer deployment with
  | .reservation (.ok (.reserved token)) => some token
  | _ => none

end CloseStep

/-- A run from `start`, newest step first, and the record it ends in. -/
inductive CloseRun (start : ChannelState) : List CloseStep → ChannelState → Prop where
  | start : CloseRun start [] start
  | step {trace : List CloseStep} {state : ChannelState} (transition : Transition) :
      CloseRun start trace state →
      CloseRun start (⟨state, transition⟩ :: trace)
        (CloseStep.after deployment inPlace ⟨state, transition⟩)

/-- The cumulative amount of the last charge and the voucher stored for it. -/
def storedVoucher (start : ChannelState) : List CloseStep → ℕ × Option String
  | [] => (start.cumulative, start.highestVoucherSignature)
  | step :: older =>
      match step.charged deployment with
      | some (cumulative, signature) => (cumulative, some signature)
      | none => storedVoucher start older

end

/-! ### What a transition does to the fence -/

/-- Two records with the same watermark, fence and close mark. -/
structure SameFence (state after : ChannelState) : Prop where
  cumulative : after.cumulative = state.cumulative
  signature : after.highestVoucherSignature = state.highestVoucherSignature
  final : after.finalCumulative = state.finalCumulative
  closing : after.closeRequestedAt = state.closeRequestedAt

section

variable {deployment : Deployment} {inPlace : Bool} {state : ChannelState}

theorem SameFence.refl : SameFence state state :=
  ⟨rfl, rfl, rfl, rfl⟩

theorem reserve_sameFence {request : AuthorizationRequest}
    {stage : ChannelState → Except StoreError (Option PendingSetup)} :
    SameFence state (state.reserveAuthorizationStaged request stage).2 := by
  simp only [ChannelState.reserveAuthorizationStaged]
  split
  · exact .refl
  · split
    · exact .refl
    · exact ⟨rfl, rfl, rfl, rfl⟩
    · exact ⟨rfl, rfl, rfl, rfl⟩

theorem markHandlerSucceeded_sameFence {token : ReservationToken} :
    SameFence state (state.markAuthorizationHandlerSucceeded token).2 := by
  rcases state.markAuthorizationHandlerSucceeded_cases token with
    ⟨hSame, -⟩ | ⟨index, -, -, hMarked⟩
  · rw [hSame]
    exact .refl
  · rw [hMarked]
    exact ⟨rfl, rfl, rfl, rfl⟩

theorem releaseRequest_sameFence {authorizationId requestFingerprint : String}
    {depositSignature : Option String} :
    SameFence state
      (releaseRequest authorizationId requestFingerprint depositSignature state).2 := by
  have hReleased : SameFence state
      (state.releaseAuthorization authorizationId requestFingerprint).2 := by
    rcases state.releaseAuthorization_cases authorizationId requestFingerprint with
      hSame | ⟨index, -, hRemoved⟩
    · rw [hSame]
      exact .refl
    · rw [hRemoved]
      exact ⟨rfl, rfl, rfl, rfl⟩
  simp only [releaseRequest]
  split
  · exact .refl
  · rename_i released hCase
    rw [hCase] at hReleased
    split
    · exact ⟨hReleased.1, hReleased.2, hReleased.3, hReleased.4⟩
    · exact hReleased

theorem recordConfirmedSetup_sameFence {channel : ConfirmedChannel} {rentPayer : String}
    {now : ℤ} {depositSignature : Option String} :
    SameFence state (recordConfirmedSetup state channel rentPayer now depositSignature) :=
  ⟨rfl, rfl, rfl, rfl⟩

/-- What a charge leaves of the fence: it was not set, and the watermark moves to the
voucher. -/
structure ChargesTo (state after : ChannelState) (cumulative : ℕ) (signature : String) :
    Prop where
  unfenced : state.finalCumulative = none
  cumulative : after.cumulative = cumulative
  signature : after.highestVoucherSignature = some signature
  final : after.finalCumulative = none
  closing : after.closeRequestedAt = state.closeRequestedAt

theorem commitAuthorization_fence {token : ReservationToken} {voucherSignature : String}
    {voucherExpiresAt now : ℤ} {response : ChannelState → Option Encoding.Json} :
    let result := state.commitAuthorization token voucherSignature voucherExpiresAt now response
    (result.2 = state ∧ (result.1 = .ok () →
        (state.committedAuthorization token.authorizationId).isNone = false)) ∨
      (result.1 = .ok () ∧
        (state.committedAuthorization token.authorizationId).isNone = true ∧
        ChargesTo state result.2 token.cumulative voucherSignature) := by
  simp only [ChannelState.commitAuthorization]
  split
  · rename_i entry hEntry
    split
    · exact .inl ⟨rfl, by simp⟩
    · exact .inl ⟨rfl, fun _ => by rw [hEntry]; rfl⟩
  rename_i hUncommitted
  split
  · exact .inl ⟨rfl, by simp⟩
  split
  · exact .inl ⟨rfl, by simp⟩
  split
  · exact .inl ⟨rfl, by simp⟩
  rename_i hUnfenced
  split
  · exact .inl ⟨rfl, by simp⟩
  split
  · exact .inl ⟨rfl, by simp⟩
  exact .inr ⟨rfl, by rw [hUncommitted]; rfl, ⟨hUnfenced, rfl, rfl, hUnfenced, rfl⟩⟩

theorem finishCommit_fence {commit : Commit} :
    let result := finishCommit deployment commit state
    (SameFence state result.2 ∧ (result.1 = .ok () →
        (state.committedAuthorization commit.token.authorizationId).isNone = false)) ∨
      (result.1 = .ok () ∧
        (state.committedAuthorization commit.token.authorizationId).isNone = true ∧
        ChargesTo state result.2 commit.token.cumulative commit.voucherSignature) := by
  have hConfirmed : ∀ confirmed : ChannelState, SameFence state confirmed →
      confirmed.committedDeliveries = state.committedDeliveries →
      let result := commitConfirmed deployment commit confirmed
      (SameFence state result.2 ∧ (result.1 = .ok () →
          (state.committedAuthorization commit.token.authorizationId).isNone = false)) ∨
        (result.1 = .ok () ∧
          (state.committedAuthorization commit.token.authorizationId).isNone = true ∧
          ChargesTo state result.2 commit.token.cumulative commit.voucherSignature) := by
    intro confirmed hSame hRecords
    have hFound : state.committedAuthorization commit.token.authorizationId =
        ({ confirmed with
          lastActivityAt := (max commit.now 0).toNat } : ChannelState).committedAuthorization
            commit.token.authorizationId := by
      simp only [ChannelState.committedAuthorization, hRecords]
    rw [hFound, commitConfirmed]
    cases confirmed.checkBindingComplete deployment.readBinding deployment.binding with
    | error error => exact .inl ⟨hSame, by simp⟩
    | ok value =>
        rcases @commitAuthorization_fence
            { confirmed with lastActivityAt := (max commit.now 0).toNat } commit.token
            commit.voucherSignature commit.voucherExpiresAt commit.now commit.response with
          ⟨hKept, hReplayed⟩ | ⟨hOk, hUncommitted, hCharges⟩
        · refine .inl ⟨?_, hReplayed⟩
          simp only [hKept]
          exact ⟨hSame.1, hSame.2, hSame.3, hSame.4⟩
        · refine .inr ⟨hOk, hUncommitted, ?_⟩
          exact ⟨hSame.final ▸ hCharges.unfenced, hCharges.cumulative, hCharges.signature,
            hCharges.final, hCharges.closing.trans hSame.closing⟩
  cases hCase : commit.confirmed with
  | none =>
      simp only [finishCommit, hCase]
      exact hConfirmed state .refl rfl
  | some channel =>
      simp only [finishCommit, hCase]
      exact hConfirmed _ recordConfirmedSetup_sameFence rfl

/-! ### One step -/

/-- The seal carries the watermark of a record and, when the finalizer chose it, the
voucher stored for it. -/
def Seal.Carries (cumulative : ℕ) (signature : Option String) : Seal → Prop
  | .applied carried voucherSignature => carried = cumulative ∧ signature = some voucherSignature
  | .frozen => True
  | .cooperative carried _ => carried = cumulative

/-- What a step that chose a seal leaves. -/
structure Chose (state after : ChannelState) (choice : Seal) (now : ℤ) : Prop where
  carries : choice.Carries state.cumulative state.highestVoucherSignature
  idle : state.hasBlockingAuthorization now = false
  fenced : after.finalCumulative.isSome

/-- Two records with the same watermark, the second closing and fenced at least as
much. -/
structure Closes (state after : ChannelState) : Prop where
  cumulative : after.cumulative = state.cumulative
  signature : after.highestVoucherSignature = state.highestVoucherSignature
  final : state.finalCumulative.isSome → after.finalCumulative.isSome
  closing : after.closeRequestedAt.isSome

theorem planClose_closes {closureStartedAt : ℤ} {clock onchainSettled : ℕ} {pastDeadline : Bool}
    {now : ℤ} :
    Closes state (planClose closureStartedAt clock onchainSettled pastDeadline now state).2 := by
  simp only [planClose]
  split
  · exact ⟨rfl, rfl, fun _ => rfl, rfl⟩
  · exact ⟨rfl, rfl, fun _ => rfl, rfl⟩
  · exact ⟨rfl, rfl, id, rfl⟩
  · exact ⟨rfl, rfl, id, rfl⟩

theorem graceSealPlan_apply {onchainSettled cumulative : ℕ} {pastDeadline : Bool} {now : ℤ}
    {signature : String} {expiresAt : ℤ}
    (hPlan : graceSealPlan state onchainSettled pastDeadline now =
      .apply cumulative signature expiresAt) :
    state.hasBlockingAuthorization now = false ∧ cumulative = state.cumulative ∧
      state.highestVoucherSignature = some signature := by
  simp only [graceSealPlan] at hPlan
  split at hPlan
  · cases hPlan
  rename_i hIdle
  split at hPlan
  · cases hPlan
  split at hPlan
  · cases hPlan
  rename_i stored hStored
  split at hPlan
  · cases hPlan
  cases hPlan
  exact ⟨by simpa using hIdle, rfl, hStored⟩

theorem graceSealPlan_sealFrozen {onchainSettled : ℕ} {pastDeadline : Bool} {now : ℤ}
    (hPlan : graceSealPlan state onchainSettled pastDeadline now = .sealFrozen) :
    state.hasBlockingAuthorization now = false := by
  simp only [graceSealPlan] at hPlan
  split at hPlan
  · cases hPlan
  · rename_i hIdle
    simpa using hIdle

theorem planClose_apply {closureStartedAt : ℤ} {clock onchainSettled cumulative : ℕ}
    {pastDeadline : Bool} {now expiresAt : ℤ} {signature : String}
    (hPlan : (planClose closureStartedAt clock onchainSettled pastDeadline now state).1 =
      .apply cumulative signature expiresAt) :
    Chose state (planClose closureStartedAt clock onchainSettled pastDeadline now state).2
      (.applied cumulative signature) now := by
  simp only [planClose] at hPlan ⊢
  split at hPlan
  · rename_i chosen chosenSignature chosenExpiry hChosen
    rw [hChosen] at hPlan
    cases hPlan
    rcases graceSealPlan_apply hChosen with ⟨hIdle, hCumulative, hSignature⟩
    refine ⟨⟨hCumulative, hSignature⟩, hIdle, ?_⟩
    rfl
  all_goals
    rename_i hChosen
    rw [hChosen] at hPlan
    cases hPlan

theorem planClose_sealFrozen {closureStartedAt : ℤ} {clock onchainSettled : ℕ}
    {pastDeadline : Bool} {now : ℤ}
    (hPlan : (planClose closureStartedAt clock onchainSettled pastDeadline now state).1 =
      .sealFrozen) :
    Chose state (planClose closureStartedAt clock onchainSettled pastDeadline now state).2
      .frozen now := by
  simp only [planClose] at hPlan ⊢
  split at hPlan
  · rename_i hChosen
    rw [hChosen] at hPlan
    cases hPlan
  · rename_i hChosen
    refine ⟨trivial, graceSealPlan_sealFrozen hChosen, ?_⟩
    rfl
  all_goals
    rename_i hChosen
    rw [hChosen] at hPlan
    cases hPlan

theorem fenceCooperativeClose_cases {cumulative now : ℕ} {voucherSignature : String} :
    let result := fenceCooperativeClose cumulative now state
    (result.2 = state ∧ result.1 ≠ .ok ()) ∨
      (result.1 = .ok () ∧ Closes state result.2 ∧
        Chose state result.2 (.cooperative cumulative voucherSignature) (asI64 now)) := by
  simp only [fenceCooperativeClose]
  split
  · exact .inl ⟨rfl, by simp⟩
  rename_i hIdle
  split
  · exact .inl ⟨rfl, by simp⟩
  rename_i hCumulative
  have hChose : Chose state ((state.requestClose now).freezeWatermarkAt cumulative)
      (.cooperative cumulative voucherSignature) (asI64 now) :=
    ⟨(not_not.mp hCumulative).symm, by simpa using hIdle, rfl⟩
  split
  · split
    · exact .inl ⟨rfl, by simp⟩
    · exact .inr ⟨rfl, ⟨rfl, rfl, fun _ => rfl, rfl⟩, hChose⟩
  · exact .inr ⟨rfl, ⟨rfl, rfl, fun _ => rfl, rfl⟩, hChose⟩

end

namespace CloseStep

section

variable (deployment : Deployment) (inPlace : Bool)

/-- Everything a step can do to the fence of a record. -/
inductive Effect (step : CloseStep) : Prop where
  | kept (same : SameFence step.before (step.after deployment inPlace))
      (uncharged : step.charged deployment = none) (unchosen : step.chosen deployment = none)
  | charged (cumulative : ℕ) (signature : String)
      (charged : step.charged deployment = some (cumulative, signature))
      (charges : ChargesTo step.before (step.after deployment inPlace) cumulative signature)
      (unchosen : step.chosen deployment = none)
  | closed (closes : Closes step.before (step.after deployment inPlace))
      (uncharged : step.charged deployment = none)
      (chose : ∀ choice now, step.chosen deployment = some (choice, now) →
        Chose step.before (step.after deployment inPlace) choice now)

end

variable {deployment : Deployment} {inPlace : Bool} {before : ChannelState}

theorem effect_of_sameFence {step : CloseStep}
    (hSame : SameFence step.before (step.result deployment).2)
    (hUncharged : step.charged deployment = none) (hUnchosen : step.chosen deployment = none) :
    step.Effect deployment inPlace := by
  refine .kept ?_ hUncharged hUnchosen
  simp only [after]
  split
  · split
    · exact hSame
    · exact .refl
  · exact hSame

theorem effect_finishCommit (commit : Commit) :
    Effect deployment inPlace ⟨before, .finishCommit commit⟩ := by
  rcases @finishCommit_fence deployment before commit with
    ⟨hSame, hReplayed⟩ | ⟨hOk, hUncommitted, hCharges⟩
  · apply effect_of_sameFence hSame
    · simp only [charged, answer, result]
      split
      · rename_i hTransition hAnswer
        cases hTransition
        rw [hReplayed (by simpa using hAnswer), if_neg (by simp)]
      · rfl
    · rfl
  · refine .charged commit.token.cumulative commit.voucherSignature ?_ ?_ rfl
    · simp only [charged, answer, result, hOk, hUncommitted, if_true]
    · simp only [after, answer, result, hOk]
      exact hCharges

theorem effect_planClose (closureStartedAt : ℤ) (clock onchainSettled : ℕ) (pastDeadline : Bool)
    (now : ℤ) :
    Effect deployment inPlace
      ⟨before, .planClose closureStartedAt clock onchainSettled pastDeadline now⟩ := by
  refine .closed planClose_closes rfl ?_
  intro choice chosenAt hChosen
  simp only [chosen, answer, result] at hChosen
  split at hChosen
  · rename_i cumulative signature expiresAt hTransition hAnswer
    cases hTransition
    cases hChosen
    exact planClose_apply (by simpa using hAnswer)
  · rename_i hTransition hAnswer
    cases hTransition
    cases hChosen
    exact planClose_sealFrozen (by simpa using hAnswer)
  · rename_i hTransition hAnswer
    cases hTransition
  · cases hChosen

theorem effect_cooperativeClose (voucherSignature : String) (cumulative now : ℕ) :
    Effect deployment inPlace ⟨before, .cooperativeClose voucherSignature cumulative now⟩ := by
  rcases @fenceCooperativeClose_cases before cumulative now voucherSignature with
    ⟨hSame, hRefused⟩ | ⟨hOk, hCloses, hChose⟩
  · refine effect_of_sameFence ?_ rfl ?_
    · simp only [result, hSame]
      exact .refl
    · simp only [chosen, answer, result]
      split
      · rename_i hTransition hAnswer
        cases hTransition
      · rename_i hTransition hAnswer
        cases hTransition
      · rename_i hTransition hAnswer
        exact absurd (by simpa using hAnswer) hRefused
      · rfl
  · refine .closed ?_ rfl ?_
    · simp only [after, answer, result, hOk]
      exact hCloses
    · intro choice chosenAt hChosen
      simp only [chosen, answer, result, hOk, Option.some.injEq, Prod.mk.injEq] at hChosen
      rcases hChosen with ⟨rfl, rfl⟩
      simp only [after, answer, result, hOk]
      exact hChose

theorem effect (step : CloseStep) : step.Effect deployment inPlace := by
  rcases step with ⟨before, transition⟩
  cases transition with
  | reserve request setup => exact effect_of_sameFence reserve_sameFence rfl rfl
  | markHandlerSucceeded token =>
      exact effect_of_sameFence markHandlerSucceeded_sameFence rfl rfl
  | finishCommit commit => exact effect_finishCommit commit
  | release authorizationId requestFingerprint depositSignature =>
      exact effect_of_sameFence releaseRequest_sameFence rfl rfl
  | planClose closureStartedAt clock onchainSettled pastDeadline now =>
      exact effect_planClose closureStartedAt clock onchainSettled pastDeadline now
  | cooperativeClose voucherSignature cumulative now =>
      exact effect_cooperativeClose voucherSignature cumulative now

theorem reserved_of_closing {step : CloseStep}
    (hClosing : step.before.closeRequestedAt.isSome) : step.reserved deployment = none := by
  rcases step with ⟨before, transition⟩
  cases transition with
  | reserve request setup =>
      rcases before.reserveAuthorizationStaged_cases request (stageSetup deployment setup) with
        ⟨-, hRefused⟩ | ⟨-, hTook⟩
      · simp only [reserved, answer, result]
        split
        · rename_i token hReserved
          exact absurd (by simpa using hReserved) (hRefused token)
        · rfl
      · rw [hTook.reservable.unrequested] at hClosing
        cases hClosing
  | markHandlerSucceeded token => rfl
  | finishCommit commit => rfl
  | release authorizationId requestFingerprint depositSignature => rfl
  | planClose closureStartedAt clock onchainSettled pastDeadline now => rfl
  | cooperativeClose voucherSignature cumulative now => rfl

theorem after_of_fenced {step : CloseStep} (hFenced : step.before.finalCumulative.isSome) :
    (step.after deployment inPlace).finalCumulative.isSome ∧
      (step.after deployment inPlace).cumulative = step.before.cumulative ∧
      (step.after deployment inPlace).highestVoucherSignature =
        step.before.highestVoucherSignature := by
  cases @effect deployment inPlace step with
  | kept hSame hUncharged hUnchosen =>
      exact ⟨by rw [hSame.final]; exact hFenced, hSame.cumulative, hSame.signature⟩
  | charged cumulative signature hCharged hCharges hUnchosen =>
      rw [hCharges.unfenced] at hFenced
      cases hFenced
  | closed hCloses hUncharged hChose =>
      exact ⟨hCloses.final hFenced, hCloses.cumulative, hCloses.signature⟩

theorem after_of_closing {step : CloseStep} (hClosing : step.before.closeRequestedAt.isSome) :
    (step.after deployment inPlace).closeRequestedAt.isSome := by
  cases @effect deployment inPlace step with
  | kept hSame hUncharged hUnchosen =>
      rw [hSame.closing]
      exact hClosing
  | charged cumulative signature hCharged hCharges hUnchosen =>
      rw [hCharges.closing]
      exact hClosing
  | closed hCloses hUncharged hChose => exact hCloses.closing

theorem after_of_chosen {step : CloseStep} {choice : Seal} {now : ℤ}
    (hChosen : step.chosen deployment = some (choice, now)) :
    Chose step.before (step.after deployment inPlace) choice now ∧
      (step.after deployment inPlace).cumulative = step.before.cumulative ∧
      (step.after deployment inPlace).highestVoucherSignature =
        step.before.highestVoucherSignature := by
  cases @effect deployment inPlace step with
  | kept hSame hUncharged hUnchosen => cases hUnchosen.symm.trans hChosen
  | charged cumulative signature hCharged hCharges hUnchosen =>
      cases hUnchosen.symm.trans hChosen
  | closed hCloses hUncharged hChose =>
      exact ⟨hChose choice now hChosen, hCloses.cumulative, hCloses.signature⟩

end CloseStep

/-! ### Runs -/

namespace CloseRun

variable {deployment : Deployment} {inPlace : Bool} {start final : ChannelState}
  {trace newer older : List CloseStep} {step : CloseStep}

theorem storedVoucher_eq (hRun : CloseRun deployment inPlace start trace final) :
    storedVoucher deployment start trace = (final.cumulative, final.highestVoucherSignature) := by
  induction hRun with
  | start => rfl
  | @step trace state transition hRun hInduction =>
      cases @CloseStep.effect deployment inPlace ⟨state, transition⟩ with
      | kept hSame hUncharged hUnchosen =>
          simp only [storedVoucher, hUncharged, hInduction, hSame.cumulative, hSame.signature]
      | charged cumulative signature hCharged hCharges hUnchosen =>
          simp only [storedVoucher, hCharged, hCharges.cumulative, hCharges.signature]
      | closed hCloses hUncharged hChose =>
          simp only [storedVoucher, hUncharged, hInduction, hCloses.cumulative, hCloses.signature]

theorem split (hRun : CloseRun deployment inPlace start (newer ++ step :: older) final) :
    CloseRun deployment inPlace start older step.before ∧
      CloseRun deployment inPlace (step.after deployment inPlace) newer final := by
  induction newer generalizing final with
  | nil =>
      cases hRun with
      | step transition hOlder => exact ⟨hOlder, .start⟩
  | cons newest newer hInduction =>
      cases hRun with
      | step transition hRest =>
          rcases hInduction hRest with ⟨hOlder, hNewer⟩
          exact ⟨hOlder, .step transition hNewer⟩

theorem cumulative_of_fenced (hRun : CloseRun deployment inPlace start trace final)
    (hFenced : start.finalCumulative.isSome) :
    final.finalCumulative.isSome ∧ final.cumulative = start.cumulative ∧
      final.highestVoucherSignature = start.highestVoucherSignature ∧
      ∀ later ∈ trace, later.before.cumulative = start.cumulative := by
  induction hRun with
  | start => exact ⟨hFenced, rfl, rfl, by simp⟩
  | @step trace state transition hRun hInduction =>
      rcases hInduction with ⟨hStill, hSame, hSigned, hEarlier⟩
      rcases @CloseStep.after_of_fenced deployment inPlace ⟨state, transition⟩ hStill with
        ⟨hAfter, hCumulative, hSignature⟩
      refine ⟨hAfter, hCumulative.trans hSame, hSignature.trans hSigned, ?_⟩
      intro later hMem
      rcases List.mem_cons.mp hMem with rfl | hMem
      · exact hSame
      · exact hEarlier later hMem

theorem reserved_of_closing (hRun : CloseRun deployment inPlace start trace final)
    (hClosing : start.closeRequestedAt.isSome) :
    final.closeRequestedAt.isSome ∧ ∀ later ∈ trace, later.reserved deployment = none := by
  induction hRun with
  | start => exact ⟨hClosing, by simp⟩
  | @step trace state transition hRun hInduction =>
      rcases hInduction with ⟨hStill, hEarlier⟩
      refine ⟨CloseStep.after_of_closing hStill, ?_⟩
      intro later hMem
      rcases List.mem_cons.mp hMem with rfl | hMem
      · exact CloseStep.reserved_of_closing hStill
      · exact hEarlier later hMem

end CloseRun

/-- From the first choice to seal a channel on its watermark stands still, and every seal
that is chosen carries it. No seal is chosen while reserved work may still be charged,
and a closing channel reserves nothing. -/
theorem seals_carry_the_final_watermark {deployment : Deployment} {inPlace : Bool}
    {start final : ChannelState} {trace : List CloseStep}
    (hRun : CloseRun deployment inPlace start trace final) :
    (∀ newer step older choice now, trace = newer ++ step :: older →
      step.chosen deployment = some (choice, now) →
      step.before.cumulative = final.cumulative ∧
      (∀ later ∈ newer, later.before.cumulative = final.cumulative) ∧
      (storedVoucher deployment start trace).1 = final.cumulative ∧
      choice.Carries final.cumulative (storedVoucher deployment start trace).2 ∧
      (∀ setup ∈ step.before.pendingSetup, setup.expiresAt ≤ now) ∧
      ∀ pending ∈ step.before.pendingDeliveries, pending.expiresAt ≤ now) ∧
    ∀ newer step older, trace = newer ++ step :: older →
      step.before.closeRequestedAt.isSome →
      ∀ later ∈ newer ++ [step], later.reserved deployment = none := by
  refine ⟨?_, ?_⟩
  · intro newer step older choice now hTrace hChosen
    have hStored := hRun.storedVoucher_eq
    rw [hTrace] at hRun
    rcases hRun.split with ⟨-, hFrom⟩
    rcases @CloseStep.after_of_chosen deployment inPlace step choice now hChosen with
      ⟨hChose, hCumulative, hSignature⟩
    rcases hFrom.cumulative_of_fenced hChose.fenced with ⟨-, hFinal, hFinalSignature, hLater⟩
    have hSame : step.before.cumulative = final.cumulative := by rw [hFinal, hCumulative]
    have hSigned : step.before.highestVoucherSignature = final.highestVoucherSignature := by
      rw [hFinalSignature, hSignature]
    have hIdle := ChannelState.hasBlockingAuthorization_eq_false.mp hChose.idle
    refine ⟨hSame, ?_, by rw [hStored], ?_, hIdle⟩
    · intro later hMem
      rw [hLater later hMem, hFinal]
    · rw [hStored, ← hSame, ← hSigned]
      exact hChose.carries
  · intro newer step older hTrace hClosing later hMem
    rw [hTrace] at hRun
    rcases List.mem_append.mp hMem with hNewer | hStep
    · exact (hRun.split.2.reserved_of_closing (CloseStep.after_of_closing hClosing)).2 later hNewer
    · rw [List.mem_singleton.mp hStep]
      exact CloseStep.reserved_of_closing hClosing

/-! ### Two closes of a served channel -/

/-- The steps of a sequence of transitions, newest first, and the record they lead to. -/
def perform (deployment : Deployment) (inPlace : Bool) (start : ChannelState)
    (transitions : List Transition) : List CloseStep × ChannelState :=
  transitions.foldl (fun run transition =>
    (⟨run.2, transition⟩ :: run.1, CloseStep.after deployment inPlace ⟨run.2, transition⟩))
    ([], start)

theorem closeRun_perform {deployment : Deployment} {inPlace : Bool} {start : ChannelState}
    {transitions : List Transition} :
    CloseRun deployment inPlace start (perform deployment inPlace start transitions).1
      (perform deployment inPlace start transitions).2 := by
  induction transitions using List.reverseRecOn with
  | nil => exact .start
  | append_singleton earlier transition hInduction =>
      simp only [perform, List.foldl_append, List.foldl_cons, List.foldl_nil]
      exact .step transition hInduction

/-- A deployment that reads the bindings it writes. -/
def batchDeployment : Deployment where
  binding := ⟨"batch-settlement", some "receiver", some "network", some "program"⟩
  withdrawDelay := 900
  readBinding json :=
    match (json.get? "scheme").bind Encoding.Json.asStr with
    | some scheme =>
        .ok ⟨scheme, (json.get? "payTo").bind Encoding.Json.asStr,
          (json.get? "network").bind Encoding.Json.asStr,
          (json.get? "programId").bind Encoding.Json.asStr⟩
    | none => .error "missing field"

/-- An open channel that is bound to the deployment. -/
def boundChannel : ChannelState :=
  { openedChannel with
    extra := [
      (channelBindingKey, .object [("scheme", .text "batch-settlement"),
        ("payTo", .text "receiver"), ("network", .text "network"), ("programId", .text "program")]),
      (gracePeriodKey, .unsigned 900)] }

/-- A request that is reserved, served and charged 10. -/
def servedRequest : List Transition := [
  .reserve ⟨"access", "request", 10, 10, 60, 100⟩ none,
  .markHandlerSucceeded ⟨"access", "request", 10, 1⟩,
  .finishCommit {
    token := ⟨"access", "request", 10, 1⟩
    voucherSignature := "first"
    voucherExpiresAt := 0
    now := 101
    confirmed := none
    depositSignature := none
    rentPayer := "payer"
    response := fun _ => none }]

/-- The finalizer closes the served channel. -/
def finalizedClose : List CloseStep × ChannelState :=
  perform batchDeployment true boundChannel (servedRequest ++ [.planClose 150 200 0 false 200])

theorem seals_carry_the_final_watermark_of_finalizedClose :
    finalizedClose.1.map (·.chosen batchDeployment) =
      [some (.applied 10 "first", 200), none, none, none] ∧
    finalizedClose.2.cumulative = 10 ∧
    (storedVoucher batchDeployment boundChannel finalizedClose.1).1 = finalizedClose.2.cumulative ∧
    Seal.Carries finalizedClose.2.cumulative
      (storedVoucher batchDeployment boundChannel finalizedClose.1).2 (.applied 10 "first") := by
  refine ⟨by decide, by decide, ?_⟩
  have hRun : CloseRun batchDeployment true boundChannel finalizedClose.1 finalizedClose.2 :=
    closeRun_perform
  rcases (seals_carry_the_final_watermark hRun).1 [] _ _ (.applied 10 "first") 200 rfl
    (by decide) with ⟨-, -, hStored, hCarries, -⟩
  exact ⟨hStored, hCarries⟩

/-- The payer closes the served channel with a second signature of its last voucher. -/
def cooperativeClose : List CloseStep × ChannelState :=
  perform batchDeployment true boundChannel (servedRequest ++ [.cooperativeClose "second" 10 200])

/-- A cooperative close carries the voucher of the refund, not the one that is stored. -/
theorem cooperativeClose_carries_refund_voucher :
    ¬∀ trace final, CloseRun batchDeployment true boundChannel trace final →
      ∀ step ∈ trace, ∀ cumulative signature now,
        step.chosen batchDeployment = some (.cooperative cumulative signature, now) →
        storedVoucher batchDeployment boundChannel trace = (cumulative, some signature) := by
  intro hStored
  have hSame := hStored cooperativeClose.1 cooperativeClose.2 closeRun_perform _
    List.mem_cons_self 10 "second" 200 (by decide)
  exact absurd hSame (by decide)

end PayKit.BatchSettlement
