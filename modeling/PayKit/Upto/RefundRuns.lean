import PayKit.PaymentChannel.PayerRefund

/-!
# When an upto server forfeits a refund

The settlement of an open of `x402/server/upto.rs` and the passes of `distribute_sealed`, with
the decisions on the payer's refund that they take. The chain does not record when a channel was
sealed, so a settlement goes by the time at which it is built, and a pass by the time at which
the channel was opened.

A run is any sequence of moves of the server, of the payer and of the chain. What the payer and
the chain do between the moves of the server is arbitrary. The log of decisions keeps, beside
what the server decided, when the channel had in fact been sealed.
-/

namespace PayKit.Upto

open Machine PaymentChannel Solana

/-! ### The server -/

/-- A channel and the configuration of its server. -/
structure RefundTask where
  associatedTokenAddress : Pubkey → Pubkey → Pubkey → Pubkey
  channel : Pubkey
  payer : Pubkey
  mint : Pubkey
  tokenProgram : Pubkey
  deposit : ℕ
  maxAmount : ℕ
  withdrawDelay : ℕ
  /-- `X402Upto::new` replaces a delay of zero. -/
  withdrawDelay_pos : 0 < withdrawDelay
  /-- The block time of the slot that the channel was opened in. -/
  openedAt : ℤ
  openedAt_nonneg : 0 ≤ openedAt

namespace RefundTask

variable (task : RefundTask)

def terms (settled : ℕ) (payerWithdrawnAt : ℤ) : SealedRefundTerms where
  channel := task.channel
  payer := task.payer
  mint := task.mint
  tokenProgram := task.tokenProgram
  deposit := task.deposit
  settled
  payerWithdrawnAt

/-- `sealed_refund`, with the account that it reads when a refund is due. -/
def sealedRefund (terms : SealedRefundTerms) (account : Option ObservedAccount)
    (sealedAt now : ℤ) : PayerRefund :=
  let deadline : RefundDeadline := ⟨sealedAt, task.withdrawDelay⟩
  if terms.refundDue = 0 then payerRefund task.associatedTokenAddress terms none deadline now
  else payerRefund task.associatedTokenAddress terms account deadline now

end RefundTask

/-! ### Runs -/

/-- Where the channel is on the chain. -/
inductive ChannelPhase where
  | opened
  | sealed (sealedAt : ℤ) (settled : ℕ) (payerWithdrawnAt : ℤ)
  | distributed

/-- A settlement that was built: what it seals the channel at, and whether it distributes. -/
structure SettlementBundle where
  settled : ℕ
  distributes : Bool
deriving DecidableEq

structure RefundDecision where
  time : ℤ
  /-- The seal time that the server goes by. -/
  standIn : ℤ
  /-- When the channel was sealed, if it is. A settlement has yet to seal it. -/
  sealedAt : Option ℤ
  terms : SealedRefundTerms
  account : Option ObservedAccount
  outcome : PayerRefund

structure RefundState where
  now : ℤ
  account : Option ObservedAccount
  phase : ChannelPhase
  bundles : List SettlementBundle
  decisions : List RefundDecision

inductive RefundMove where
  | wait (seconds : ℕ)
  /-- The payer's token account changes. -/
  | touch (account : Option ObservedAccount)
  /-- A settlement is built for an amount. -/
  | settle (actual : ℕ)
  /-- A settlement that was built lands. -/
  | land (bundle : SettlementBundle)
  | withdraw (time : ℤ)
  /-- A pass comes to the channel, and its distribute lands or not. -/
  | pass (lands : Bool)

namespace RefundState

variable (task : RefundTask) (state : RefundState)

/-- `build_settlement_instructions`: the bundle seals the channel now. -/
def settlementDecision (actual : ℕ) : RefundDecision where
  time := state.now
  standIn := state.now
  sealedAt := none
  terms := task.terms actual 0
  account := state.account
  outcome := task.sealedRefund (task.terms actual 0) state.account state.now state.now

/-- A pass of `distribute_sealed` over a sealed channel. -/
def passDecision (sealedAt : ℤ) (settled : ℕ) (payerWithdrawnAt : ℤ) : RefundDecision where
  time := state.now
  standIn := task.openedAt
  sealedAt := some sealedAt
  terms := task.terms settled payerWithdrawnAt
  account := state.account
  outcome := task.sealedRefund (task.terms settled payerWithdrawnAt) state.account task.openedAt
    state.now

def decide (decision : RefundDecision) : RefundState :=
  { state with decisions := decision :: state.decisions }

def apply : RefundMove → Option RefundState
  | .wait seconds => some { state with now := state.now + seconds }
  | .touch account => some { state with account }
  | .settle actual =>
      if actual ≤ task.maxAmount then
        let decision := state.settlementDecision task actual
        some { state.decide decision with
          bundles := ⟨actual, decision.outcome.clearance.isSome⟩ :: state.bundles }
      else none
  | .land bundle =>
      match state.phase with
      | .opened =>
          if bundle ∈ state.bundles then
            some { state with
              phase := if bundle.distributes then .distributed
                else .sealed state.now bundle.settled 0 }
          else none
      | _ => none
  | .withdraw time =>
      match state.phase with
      | .sealed sealedAt settled payerWithdrawnAt =>
          if payerWithdrawnAt = 0 ∧ time ≠ 0 then
            some { state with phase := .sealed sealedAt settled time }
          else none
      | _ => none
  | .pass lands =>
      match state.phase with
      | .sealed sealedAt settled payerWithdrawnAt =>
          let decision := state.passDecision task sealedAt settled payerWithdrawnAt
          some { state.decide decision with
            phase := if decision.outcome.clearance.isSome ∧ lands then .distributed
              else state.phase }
      | _ => none

end RefundState

/-- The state that the channel was opened in. -/
def RefundTask.start (task : RefundTask) (account : Option ObservedAccount) : RefundState where
  now := task.openedAt
  account
  phase := .opened
  bundles := []
  decisions := []

/-- The state after a sequence of moves. -/
def RefundTask.run (task : RefundTask) (account : Option ObservedAccount)
    (moves : List RefundMove) : Option RefundState :=
  moves.foldlM (fun state move => state.apply task move) (task.start account)

/-! ### What is promised -/

namespace RefundDecision

variable (task : RefundTask) (decision : RefundDecision)

/-- The decision forfeits no refund before the grace period after the seal has passed, and does
not wait for longer, for a payer who withdrew, or for an account that can be paid. -/
structure Promised : Prop where
  forfeits : decision.outcome.Forfeits → ∃ sealedAt, decision.sealedAt = some sealedAt ∧
    sealedAt + task.withdrawDelay ≤ decision.time
  defers : decision.outcome.Defers → (unpayableReason decision.terms decision.account).isSome ∧
    decision.terms.payerWithdrawnAt = 0 ∧
      ∀ sealedAt, decision.sealedAt = some sealedAt →
        decision.time < sealedAt + task.withdrawDelay

/-- A refund that an account can not take is decided on before the grace period after the
stand-in has passed, or after the one after the seal. -/
def InTime : Prop :=
  Withheld decision.terms decision.account →
    decision.time < (⟨decision.standIn, task.withdrawDelay⟩ : RefundDeadline).untilTime ∨
      ∃ sealedAt, decision.sealedAt = some sealedAt ∧
        sealedAt + task.withdrawDelay ≤ decision.time

/-- What every decision of a run is. -/
structure Taken : Prop where
  outcome_eq : decision.outcome = payerRefund task.associatedTokenAddress decision.terms
    decision.account ⟨decision.standIn, task.withdrawDelay⟩ decision.time
  opened : ∀ sealedAt, decision.sealedAt = some sealedAt →
    decision.standIn = task.openedAt ∧ task.openedAt ≤ sealedAt

end RefundDecision

section

variable {task : RefundTask} {state after : RefundState}

theorem RefundTask.sealedRefund_eq (task : RefundTask) (terms : SealedRefundTerms)
    (account : Option ObservedAccount) (sealedAt now : ℤ) :
    task.sealedRefund terms account sealedAt now =
      payerRefund task.associatedTokenAddress terms account ⟨sealedAt, task.withdrawDelay⟩ now := by
  unfold RefundTask.sealedRefund
  by_cases hDue : terms.refundDue = 0
  · have hPayable : ∀ account, ¬Withheld terms account := by
      rintro account ⟨hPositive, -⟩
      omega
    rw [if_pos hDue, payerRefund_of_not_withheld (hPayable none),
      payerRefund_of_not_withheld (hPayable account)]
  · rw [if_neg hDue]

theorem untilTime_le {sealedAt : ℤ} {gracePeriod : ℕ} (hSealed : 0 ≤ sealedAt) :
    (⟨sealedAt, gracePeriod⟩ : RefundDeadline).untilTime ≤ sealedAt + gracePeriod := by
  simp only [RefundDeadline.untilTime, saturatingAddI64, i64Min, i64Max]
  omega

theorem not_withdrawn_of_withheld {terms : SealedRefundTerms} {account : Option ObservedAccount}
    (hWithheld : Withheld terms account) : terms.payerWithdrawnAt = 0 := by
  by_contra hWithdrawn
  have hDue := hWithheld.1
  rw [SealedRefundTerms.refundDue, if_pos hWithdrawn] at hDue
  exact absurd hDue (lt_irrefl 0)

theorem RefundDecision.Taken.promised_iff {decision : RefundDecision}
    (hTaken : decision.Taken task) : decision.Promised task ↔ decision.InTime task := by
  rcases hTaken with ⟨hOutcome, hOpened⟩
  constructor
  · intro hPromised hWithheld
    by_cases hBefore :
        decision.time < (⟨decision.standIn, task.withdrawDelay⟩ : RefundDeadline).untilTime
    · exact .inl hBefore
    · apply Or.inr
      apply hPromised.forfeits
      rw [hOutcome, forfeits_payerRefund]
      exact ⟨hWithheld, not_lt.mp hBefore⟩
  · intro hInTime
    constructor
    · intro hForfeits
      rw [hOutcome, forfeits_payerRefund] at hForfeits
      rcases hInTime hForfeits.1 with hBefore | hAfter
      · exact absurd hForfeits.2 (not_le.mpr hBefore)
      · exact hAfter
    · intro hDefers
      rw [hOutcome, defers_payerRefund] at hDefers
      rcases hDefers with ⟨hWithheld, hBefore⟩
      refine ⟨hWithheld.2, not_withdrawn_of_withheld hWithheld, ?_⟩
      intro sealedAt hSealed
      rcases hOpened sealedAt hSealed with ⟨hStandIn, hOrder⟩
      rw [hStandIn] at hBefore
      have hUntil : (⟨task.openedAt, task.withdrawDelay⟩ : RefundDeadline).untilTime ≤
          task.openedAt + task.withdrawDelay := untilTime_le task.openedAt_nonneg
      omega

/-! ### Every run -/

structure RefundInvariant (task : RefundTask) (state : RefundState) : Prop where
  opened_le : task.openedAt ≤ state.now
  sealed_after : ∀ sealedAt settled payerWithdrawnAt,
    state.phase = .sealed sealedAt settled payerWithdrawnAt → task.openedAt ≤ sealedAt
  taken : ∀ decision ∈ state.decisions, decision.Taken task

theorem taken_settlementDecision {actual : ℕ} :
    (state.settlementDecision task actual).Taken task where
  outcome_eq := task.sealedRefund_eq _ _ _ _
  opened := by
    rintro sealedAt ⟨⟩

theorem taken_passDecision {sealedAt payerWithdrawnAt : ℤ} {settled : ℕ}
    (hSealed : task.openedAt ≤ sealedAt) :
    (state.passDecision task sealedAt settled payerWithdrawnAt).Taken task where
  outcome_eq := task.sealedRefund_eq _ _ _ _
  opened := by
    rintro _ ⟨⟩
    exact ⟨rfl, hSealed⟩

theorem RefundInvariant.apply (hInvariant : RefundInvariant task state) {move : RefundMove}
    (hMove : state.apply task move = some after) : RefundInvariant task after := by
  rcases hInvariant with ⟨hOpened, hSealed, hTaken⟩
  cases move with
  | wait seconds =>
      cases hMove
      refine ⟨?_, hSealed, hTaken⟩
      show task.openedAt ≤ state.now + seconds
      omega
  | touch account =>
      cases hMove
      exact ⟨hOpened, hSealed, hTaken⟩
  | settle actual =>
      simp only [RefundState.apply, Option.ite_none_right_eq_some, Option.some.injEq] at hMove
      rcases hMove with ⟨-, rfl⟩
      refine ⟨hOpened, hSealed, ?_⟩
      intro decision hDecision
      rcases List.mem_cons.mp hDecision with rfl | hBefore
      · exact taken_settlementDecision
      · exact hTaken decision hBefore
  | land bundle =>
      simp only [RefundState.apply] at hMove
      split at hMove
      · simp only [Option.ite_none_right_eq_some, Option.some.injEq] at hMove
        rcases hMove with ⟨-, rfl⟩
        refine ⟨hOpened, ?_, hTaken⟩
        intro sealedAt settled payerWithdrawnAt hPhase
        dsimp only at hPhase
        split at hPhase
        · cases hPhase
        · cases hPhase
          exact hOpened
      · cases hMove
  | withdraw time =>
      simp only [RefundState.apply] at hMove
      split at hMove
      · rename_i sealedAt settled payerWithdrawnAt hPhase
        simp only [Option.ite_none_right_eq_some, Option.some.injEq] at hMove
        rcases hMove with ⟨-, rfl⟩
        refine ⟨hOpened, ?_, hTaken⟩
        rintro _ _ _ ⟨⟩
        exact hSealed sealedAt settled payerWithdrawnAt hPhase
      · cases hMove
  | pass lands =>
      simp only [RefundState.apply] at hMove
      split at hMove
      · rename_i sealedAt settled payerWithdrawnAt hPhase
        cases hMove
        have hOrder := hSealed sealedAt settled payerWithdrawnAt hPhase
        refine ⟨hOpened, ?_, ?_⟩
        · intro later other withdrawn hAfter
          dsimp only at hAfter
          split at hAfter
          · cases hAfter
          · rw [hPhase] at hAfter
            cases hAfter
            exact hOrder
        · intro decision hDecision
          rcases List.mem_cons.mp hDecision with rfl | hBefore
          · exact taken_passDecision hOrder
          · exact hTaken decision hBefore
      · cases hMove

theorem RefundInvariant.foldlM {moves : List RefundMove} (hInvariant : RefundInvariant task state)
    (hRun : moves.foldlM (fun state move => state.apply task move) state = some after) :
    RefundInvariant task after := by
  induction moves generalizing state with
  | nil =>
      cases hRun
      exact hInvariant
  | cons move moves hInduction =>
      rw [List.foldlM_cons] at hRun
      rcases Option.bind_eq_some_iff.mp hRun with ⟨next, hMove, hRest⟩
      exact hInduction (hInvariant.apply hMove) hRest

theorem refundInvariant_of_run {account : Option ObservedAccount} {moves : List RefundMove}
    (hRun : task.run account moves = some after) : RefundInvariant task after := by
  refine RefundInvariant.foldlM ⟨le_refl _, ?_, ?_⟩ hRun
  · rintro _ _ _ ⟨⟩
  · exact fun _ hMem => absurd hMem List.not_mem_nil

end

/-! ### A long request -/

def refundTask : RefundTask where
  associatedTokenAddress payer _ _ := payer
  channel := systemProgram
  payer := systemProgram
  mint := systemProgram
  tokenProgram := tokenProgram
  deposit := 1000
  maxAmount := 1000
  withdrawDelay := 900
  withdrawDelay_pos := by decide
  openedAt := 1000
  openedAt_nonneg := by decide

/-- The request of the open is served for longer than the grace period, its settlement seals the
channel of a payer without a token account, and a pass comes a second later. -/
def longRequest : List RefundMove :=
  [.wait 2000, .settle 400, .land ⟨400, false⟩, .wait 1, .pass true]

/-- The same for a request that is settled in the second of its open. -/
def shortRequest : List RefundMove :=
  [.settle 400, .land ⟨400, false⟩, .wait 1, .pass true, .wait 899, .pass true]

end PayKit.Upto
