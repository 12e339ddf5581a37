import PayKit.Concurrency.Sequential
import PayKit.Subscription.Binding

/-!
# The billing period of a receipt

An activation that is presented again and a proof of the same activation are both answered by a
receipt for the period that the delegation is in. The proof's receipt counts the periods from the
anchor that the binding keeps. The activation's receipt is always for the period zero, and the
binding of an activation is never written again, so the two agree in the first period only.
-/

namespace PayKit.Subscription

open Charge Concurrency Control Machine Solana Store

/-! ### A stored binding of a live delegation -/

/-- What a node that has seen the delegation replies when it replies. -/
def Shows (pda : Pubkey) (delegation : SubscriptionDelegationView) :
    (request : SubscriptionCall) → SubscriptionReply request → Prop
  | .fetchDelegation other, reply => other = pda → ∀ found, reply = .ok found →
      found = some delegation
  | _, _ => True

/-- The store, and a node that has seen the delegation. -/
def showing (pda : Pubkey) (delegation : SubscriptionDelegationView)
    (request : SubscriptionCall) (before : SubscriptionState) (reply : SubscriptionReply request)
    (after : SubscriptionState) : Prop :=
  effect request before reply after ∧ Shows pda delegation request reply

/-- A binding that was written for a confirmed activation. Its slot may be missing. -/
def SubscriptionServer.Wrote (server : SubscriptionServer) (pda : Pubkey)
    (bound : ActivationBinding) : Prop :=
  ∃ activation signature delegation slot landedSlot,
    server.subscriptionPda activation.subscriber = pda ∧
      bound = { candidateBinding server activation signature delegation slot with landedSlot }

/-- The binding is the current one, and it is the record of its activation, if there is one. -/
structure Bound (pda : Pubkey) (bound : ActivationBinding) (state : SubscriptionState) :
    Prop where
  current : state.entries (subscriptionBindingKey pda) = some (.binding bound)
  recorded : ∀ record, state.entries (activationKey bound.activationSignature) = some record →
    record = .binding bound

/-- Two receipts for one period, which is counted from the anchor of the binding. -/
structure AgreeOnPeriod (bound : ActivationBinding) (delegation : SubscriptionDelegationView)
    (retried proved : SubscriptionReceipt) : Prop where
  subscriptionId : retried.subscriptionId = proved.subscriptionId
  subscriptionDelegation : retried.subscriptionDelegation = proved.subscriptionDelegation
  periodIndex : retried.periodIndex = proved.periodIndex
  periodStart : retried.periodStart = proved.periodStart
  periodEnd : retried.periodEnd = proved.periodEnd
  counted : delegation.currentPeriodStartTs =
    bound.periodStartTs + proved.periodIndex * (delegation.periodHours * 3600)

section

variable {server : SubscriptionServer} {pda : Pubkey} {delegation : SubscriptionDelegationView}
  {bound : ActivationBinding} {activation : PreparedActivation} {access : PreparedAccess}
  {rounds : ℕ} {retried proved : SubscriptionReceipt} {state before after : SubscriptionState}
  {Result : Type}

/-! ### Single calls -/

theorem ends_call {request : SubscriptionCall} {reply : SubscriptionReply request} :
    (call request).run.Ends (showing pda delegation) before (.ok reply) after ↔
      effect request before reply after ∧ Shows pda delegation request reply :=
  Fallible.ends_request

theorem ends_check {checked : Except VerificationError Result} {result : Result} :
    (check checked).run.Ends (showing pda delegation) before (.ok result) after ↔
      checked = .ok result ∧ after = before := by
  cases checked with
  | ok value =>
      rw [check, Fallible.ends_pure]
      constructor
      · rintro ⟨rfl, hAfter⟩
        exact ⟨rfl, hAfter⟩
      · rintro ⟨⟨⟩, hAfter⟩
        exact ⟨rfl, hAfter⟩
  | error error =>
      constructor
      · exact fun hEnds => (Fallible.not_ends_throw hEnds).elim
      · rintro ⟨⟨⟩, -⟩

theorem Bound.elsewhere {request : SubscriptionCall} {reply : SubscriptionReply request}
    (hElsewhere : Elsewhere request) (hEffect : showing pda delegation request before reply after)
    (hBound : Bound pda bound before) : Bound pda bound after := by
  have hConsumed : ∀ key value, (∃ signature, key = consumedKey signature) →
      Bound pda bound (before.setEntry key value) := by
    rintro _ value ⟨signature, rfl⟩
    constructor
    · rw [SubscriptionState.setEntry_of_ne (bindingKey_ne_consumedKey pda signature)]
      exact hBound.current
    · rw [SubscriptionState.setEntry_of_ne (activationKey_ne_consumedKey _ signature)]
      exact hBound.recorded
  have hSame : after = before → Bound pda bound after := by
    rintro rfl
    exact hBound
  cases request with
  | get key => exact hSame hEffect.1.2
  | putIfAbsent key value =>
      rcases hEffect.1 with ⟨-, -, rfl⟩ | ⟨-, -, hAfter⟩
      · exact hConsumed key _ hElsewhere
      · exact hSame hAfter
  | putIfEq key expected value => exact hElsewhere.elim
  | delete key =>
      obtain rfl : after = before.setEntry key none := hEffect.1
      exact hConsumed key _ hElsewhere
  | rpc call =>
      rcases hEffect.1 with ⟨landings, -, rfl⟩
      exact ⟨hBound.current, hBound.recorded⟩
  | fetchDelegation other => exact hSame hEffect.1
  | fetchAuthorityInitId authority => exact hSame hEffect.1
  | landedSlot signature => exact hSame hEffect.1.1
  | chain signature =>
      rcases hEffect.1 with ⟨next, -, rfl⟩
      exact ⟨hBound.current, hBound.recorded⟩

theorem Bound.keeps {program : Program SubscriptionCall SubscriptionReply Result}
    {result : Result} (hBound : Bound pda bound before) (hUses : program.Uses Elsewhere)
    (hEnds : program.Ends (showing pda delegation) before result after) :
    Bound pda bound after :=
  hEnds.keeps hUses (fun _ _ _ _ => Bound.elsewhere) hBound

/-! ### The delegation that is read -/

/-- Whatever attempt reads the delegation, it is the one that the node has seen. -/
theorem ends_awaitDelegation {attempts : ℕ} {found : SubscriptionDelegationView}
    (hEnds : (awaitDelegation pda attempts).run.Ends (showing pda delegation) before (.ok found)
      after) : found = delegation := by
  induction attempts generalizing before with
  | zero =>
      simp only [awaitDelegation, fetchSubscriptionDelegation, Fallible.ends_bind,
        ends_check] at hEnds
      rcases hEnds with ⟨reply, middle, hCall, read, _, ⟨hRead, rfl⟩, hFound⟩
      obtain rfl : read = some delegation := (ends_call.mp hCall).2 rfl read hRead
      exact (Fallible.ends_pure.mp hFound).1
  | succ attempts hInduction =>
      simp only [awaitDelegation, Fallible.ends_bind, ends_check] at hEnds
      rcases hEnds with ⟨reply, middle, hCall, read, _, ⟨hRead, rfl⟩, hFound⟩
      obtain rfl : read = some delegation := (ends_call.mp hCall).2 rfl read hRead
      exact (Fallible.ends_pure.mp hFound).1

theorem ends_confirmedDelegation {found : SubscriptionDelegationView × ℕ}
    (hPda : server.subscriptionPda activation.subscriber = pda)
    (hEnds : (confirmedDelegation server activation).run.Ends (showing pda delegation) before
      (.ok found) after) : found = (delegation, delegation.periodHours) := by
  simp only [confirmedDelegation, fetchActivatedDelegation, hPda, Fallible.ends_bind,
    ends_check] at hEnds
  rcases hEnds with ⟨read, _, hRead, amount, _, ⟨-, rfl⟩, hours, _, ⟨-, rfl⟩, _, _,
    ⟨hChecked, rfl⟩, _, _, ⟨-, rfl⟩, _, _, -, hFound⟩
  obtain rfl := ends_awaitDelegation hRead
  simp only [checkActivatedDelegation, refuseIf_bind_eq_ok, not_not] at hChecked
  rw [hChecked.2.1]
  exact (Fallible.ends_pure.mp hFound).1

/-! ### The two receipts -/

theorem ends_publishActivationBinding {candidate : ℕ → ActivationBinding} {published : Entry}
    (hBound : Bound pda bound before)
    (hEnds : (publishActivationBinding (subscriptionBindingKey pda) bound.activationSignature
      candidate).run.Ends (showing pda delegation) before (.ok published) after) :
    published = .binding bound := by
  simp only [publishActivationBinding, Fallible.ends_bind] at hEnds
  rcases hEnds with ⟨current, _, hCurrent, recorded, _, hRecorded, claimed, middle, hClaimed,
    hPublished⟩
  obtain ⟨rfl, rfl⟩ := (ends_call.mp hCurrent).1
  obtain ⟨hRecorded, rfl⟩ := (ends_call.mp hRecorded).1
  rw [hBound.current] at hClaimed hPublished
  have hClaim : claimed = .binding bound := by
    cases recorded with
    | some record =>
        rw [(Fallible.ends_pure.mp hClaimed).1]
        exact hBound.recorded record hRecorded.symm
    | none =>
        -- the current binding is already the activation's, so it becomes the record
        simp only [claimActivation, candidateRecord, Entry.activationSignature, if_true,
          Fallible.ends_bind, Fallible.ends_pure] at hClaimed
        rcases hClaimed with ⟨written, _, ⟨rfl, rfl⟩, stored, after, hStored, hReturned⟩
        rcases (ends_call.mp hStored).1 with ⟨-, rfl, rfl⟩ | ⟨hTaken, -, -⟩
        · exact (Fallible.ends_pure.mp hReturned).1
        · exact absurd hRecorded.symm hTaken
  rw [hClaim, publishAttempts, publishBinding, if_pos rfl] at hPublished
  exact (Fallible.ends_pure.mp hPublished).1

theorem ends_bindConfirmedActivation (hBound : Bound pda bound before)
    (hPda : server.subscriptionPda activation.subscriber = pda)
    (hEnds : (bindConfirmedActivation server activation bound.activationSignature).run.Ends
      (showing pda delegation) before (.ok retried) after) :
    bound.challengeId = activation.challengeId ∧
      retried = activationReceipt server activation bound.activationSignature delegation
        delegation.periodHours := by
  simp only [bindConfirmedActivation, hPda, Fallible.ends_bind] at hEnds
  rcases hEnds with ⟨found, middle, hFound, published, _, hPublished, hReceipt⟩
  have hMiddle := hBound.keeps (uses_confirmedDelegation.mono fun _ => ReadsChain.elsewhere) hFound
  obtain rfl := ends_confirmedDelegation hPda hFound
  obtain rfl := ends_publishActivationBinding hMiddle hPublished
  split at hReceipt
  · exact (Fallible.not_ends_throw hReceipt).elim
  · rename_i hSame
    exact ⟨not_not.mp hSame, (Fallible.ends_pure.mp hReceipt).1⟩

theorem ends_verifyActivation (hBound : Bound pda bound before)
    (hPda : server.subscriptionPda activation.subscriber = pda)
    (hSignature : activation.signature = .ok bound.activationSignature)
    (hEnds : (verifyActivation server activation rounds).run.Ends (showing pda delegation) before
      (.ok (some retried)) after) :
    bound.challengeId = activation.challengeId ∧
      retried = activationReceipt server activation bound.activationSignature delegation
        delegation.periodHours := by
  have hAnswered : ∀ {middle : SubscriptionState}, Bound pda bound middle →
      (do return some (← bindConfirmedActivation server activation bound.activationSignature) :
        SubscriptionM (Option SubscriptionReceipt)).run.Ends (showing pda delegation) middle
          (.ok (some retried)) after →
      bound.challengeId = activation.challengeId ∧
        retried = activationReceipt server activation bound.activationSignature delegation
          delegation.periodHours := by
    intro middle hMiddle hReturned
    rcases Fallible.ends_bind.mp hReturned with ⟨receipt, _, hReceipt, hSome⟩
    cases (Fallible.ends_pure.mp hSome).1
    exact ends_bindConfirmedActivation hMiddle hPda hReceipt
  simp only [verifyActivation, Fallible.ends_bind, ends_check, hSignature] at hEnds
  rcases hEnds with ⟨seen, middle, hSeen, _, start, ⟨⟨⟩, hStart⟩, hRest⟩
  obtain rfl : middle = before := (ends_call.mp hSeen).1
  obtain rfl := hStart
  split at hRest
  · simp only [Fallible.ends_bind] at hRest
    rcases hRest with ⟨_, landed, hLanded, _, held, hHeld, hReturned⟩
    have hAtLanded := hBound.keeps uses_ensureActivationLanded_elsewhere hLanded
    exact hAnswered (hAtLanded.keeps uses_tryReserve_elsewhere hHeld)
      (Fallible.ends_bind.mpr hReturned)
  · rcases Fallible.ends_bind.mp hRest with ⟨_, held, hHeld, hSent⟩
    rcases Fallible.ends_bind.mp hSent with ⟨outcome, sent, hOutcome, hReturned⟩
    have hAtHeld := hBound.keeps uses_reserve_elsewhere hHeld
    have hAtSent := hAtHeld.keeps ((uses_node _).mono fun _ => ReadsChain.elsewhere) hOutcome
    rcases outcome with _ | (_ | _) | _
    · cases (Fallible.ends_pure.mp hReturned).1
    · simp only [Fallible.ends_bind] at hReturned
      rcases hReturned with ⟨_, _, -, hFailed⟩
      exact (Fallible.not_ends_throw hFailed).elim
    · exact (Fallible.not_ends_throw hReturned).elim
    · exact hAnswered hAtSent hReturned

theorem periodIndex_eq_ok {start anchor : ℤ} {periodHours index : ℕ}
    (hIndex : periodIndex start anchor periodHours = .ok index) :
    start = anchor + index * (periodHours * 3600) := by
  simp only [periodIndex, bind_eq_ok, refuseIf_eq_ok, exists_const, not_not, Int.not_lt] at hIndex
  rcases hIndex with ⟨-, hAligned, hLater, hReturned⟩
  cases hReturned
  rw [Int.toNat_of_nonneg hLater, Int.tdiv_mul_cancel (Int.dvd_of_tmod_eq_zero hAligned)]
  omega

theorem periodIndex_self {anchor : ℤ} {periodHours index : ℕ}
    (hIndex : periodIndex anchor anchor periodHours = .ok index) : index = 0 := by
  simp only [periodIndex, Int.sub_self, Int.zero_tdiv, bind_eq_ok, refuseIf_eq_ok,
    exists_const] at hIndex
  rcases hIndex with ⟨-, -, -, hReturned⟩
  exact (Except.ok.inj hReturned).symm

theorem ensureLiveDelegation_eq_ok {parseTimestamp : String → Except String ℤ}
    {expectedAmount periodHours : ℕ} {expires : Option String} {now ends : ℤ}
    (hLive : ensureLiveDelegation parseTimestamp delegation expectedAmount periodHours expires
      now = .ok ends) :
    delegation.periodHours = periodHours ∧ ends = periodEnd delegation periodHours := by
  simp only [ensureLiveDelegation, refuseIf_bind_eq_ok, not_or, not_not] at hLive
  rcases hLive with ⟨⟨-, hHours, -⟩, -, hEnds⟩
  refine ⟨hHours, ?_⟩
  cases expires with
  | none => exact (Except.ok.inj hEnds).symm
  | some expiresAt =>
      simp only [bind_eq_ok, refuseIf_eq_ok, exists_const] at hEnds
      rcases hEnds with ⟨_, -, -, hReturned⟩
      exact (Except.ok.inj hReturned).symm

theorem ends_activeDelegation {subscriber : Pubkey} {expectedAmount periodHours : ℕ}
    {expires : Option String} {now : ℤ} {found : SubscriptionDelegationView × ℤ}
    (hEnds : (activeDelegation server subscriber expectedAmount periodHours expires now).run.Ends
      (showing (server.subscriptionPda subscriber) delegation) before (.ok found) after) :
    delegation.periodHours = periodHours ∧
      found = (delegation, periodEnd delegation periodHours) := by
  simp only [activeDelegation, Fallible.ends_bind, ends_check, Fallible.ends_pure] at hEnds
  rcases hEnds with ⟨read, _, hRead, _, _, ⟨-, rfl⟩, _, _, -, _, _, ⟨-, rfl⟩, ends, _,
    ⟨hLive, rfl⟩, rfl, rfl⟩
  obtain rfl : read = delegation := @ends_awaitDelegation _ _ _ _ 0 _ hRead
  rcases ensureLiveDelegation_eq_ok hLive with ⟨hHours, rfl⟩
  exact ⟨hHours, rfl⟩

/-- A proof is answered for the period that the delegation is in, counted from the anchor. -/
theorem ends_verifyAccessCredential (hBound : Bound pda bound before)
    (hDelegation : access.subscriptionDelegation = pda.display)
    (hEnds : (verifyAccessCredential server access).run.Ends (showing pda delegation) before
      (.ok (some proved)) after) :
    proved.subscriptionId = bound.subscriptionId ∧ proved.subscriptionDelegation = pda.display ∧
      proved.periodStart = delegation.currentPeriodStartTs ∧
      proved.periodEnd = periodEnd delegation delegation.periodHours ∧
      periodIndex delegation.currentPeriodStartTs bound.periodStartTs delegation.periodHours =
        .ok proved.periodIndex := by
  simp only [verifyAccessCredential, Fallible.ends_bind, ends_check, Fallible.ends_pure] at hEnds
  rcases hEnds with ⟨payer, _, ⟨hPayer, rfl⟩, stored, _, hStored, binding, _, ⟨hBinding, rfl⟩, _, _,
    ⟨-, rfl⟩, hours, _, ⟨-, rfl⟩, found, _, hFound, anchor, _, ⟨hAnchor, rfl⟩, subscriptionId, _,
    ⟨hId, rfl⟩, _, _, ⟨-, rfl⟩, index, _, ⟨hIndex, rfl⟩, hProved, -⟩
  have hKey := bindingKey_of_checkAccess hPayer hDelegation
  have hPda : server.subscriptionPda payer = pda := by
    simp only [checkAccess, bind_eq_ok, refuseIf_eq_ok, exists_const, not_not] at hPayer
    rcases hPayer with ⟨-, found, -, hSame, valid, -, -, hReturned⟩
    cases hReturned
    exact Pubkey.display_injective (hSame.symm.trans hDelegation)
  obtain ⟨rfl, rfl⟩ := (ends_call.mp hStored).1
  rw [hKey, hBound.current] at hBinding
  cases (matches_of_checkBinding hBinding).1
  subst hPda
  rcases ends_activeDelegation hFound with ⟨rfl, rfl⟩
  cases okOr_eq_ok.mp hAnchor
  cases okOr_eq_ok.mp hId
  cases hProved
  exact ⟨rfl, rfl, rfl, rfl, hIndex⟩

/-- Two receipts of one binding agree on the billing period exactly in the first one. -/
theorem receipts_agree_iff (hBound : Bound pda bound state) (hWritten : server.Wrote pda bound)
    (hPda : server.subscriptionPda activation.subscriber = pda)
    (hSignature : activation.signature = .ok bound.activationSignature)
    (hDelegation : access.subscriptionDelegation = pda.display)
    (hRetried : (verifyActivation server activation rounds).run.Ends (showing pda delegation) state
      (.ok (some retried)) after)
    (hProved : (verifyAccessCredential server access).run.Ends (showing pda delegation) state
      (.ok (some proved)) before) :
    AgreeOnPeriod bound delegation retried proved ↔
      delegation.currentPeriodStartTs = bound.periodStartTs := by
  rcases ends_verifyActivation hBound hPda hSignature hRetried with ⟨hChallenge, rfl⟩
  rcases ends_verifyAccessCredential hBound hDelegation hProved with
    ⟨hId, hProvedDelegation, hStart, hEnd, hIndex⟩
  have hCounted := periodIndex_eq_ok hIndex
  constructor
  · intro hAgree
    have hZero : proved.periodIndex = 0 := hAgree.periodIndex.symm
    rw [hCounted, hZero]
    omega
  · intro hFirst
    rcases hWritten with ⟨written, signature, first, slot, landedSlot, hWritten, hCandidate⟩
    rw [hFirst] at hIndex
    refine ⟨?_, ?_, (periodIndex_self hIndex).symm, hStart.symm, hEnd.symm, hCounted⟩
    · rw [hId, activationReceipt, hPda, ← hChallenge, hCandidate, ← hWritten]
      rfl
    · rw [hProvedDelegation, ← hPda]
      rfl

end

/-! ### Before and after a renewal -/

/-- The binding of the proven activation, in the first period. -/
def provenBinding : ActivationBinding :=
  candidateBinding plainServer provenActivation "signature" paidDelegation 0

/-- The activation has landed and is bound. -/
def boundState : SubscriptionState :=
  { landedUnbound with
    entries := fun key =>
      if key = subscriptionBindingKey systemProgram ∨ key = activationKey "signature" then
        some (.binding provenBinding)
      else if key = consumedKey "signature" then some (.reservation "challenge")
      else none }

/-- The delegation after its first renewal. -/
def renewedDelegation : SubscriptionDelegationView :=
  { paidDelegation with currentPeriodStartTs := 86400 }

def renewedNow : ℤ := 86460

def retriedActivation (now : ℤ) : PreparedActivation :=
  { provenActivation with now }

def repeatedAccess (now : ℤ) : PreparedAccess :=
  { provenAccess with now }

theorem boundState_bound : Bound systemProgram provenBinding boundState := by
  constructor
  · simp only [boundState, true_or, if_true]
  · intro record hRecord
    have hStored : boundState.entries (activationKey provenBinding.activationSignature) =
        some (.binding provenBinding) := by
      simp only [boundState, provenBinding, candidateBinding, or_true, if_true]
    exact Option.some.inj (hRecord.symm.trans hStored)

theorem provenBinding_wrote : plainServer.Wrote systemProgram provenBinding :=
  ⟨provenActivation, "signature", paidDelegation, 0, some 0, rfl, rfl⟩

theorem showing_handleLive {live : SubscriptionDelegationView} (request : SubscriptionCall)
    (state : SubscriptionState) :
    showing systemProgram live request state (handleLive live () request state).1
      (handleLive live () request state).2 := by
  refine ⟨effect_handleLive live () request state, ?_⟩
  cases request with
  | fetchDelegation other =>
      rintro - found ⟨⟩
      rfl
  | _ => trivial

/-- The answers to an activation and to its proof, when the node has seen the delegation. -/
theorem ends_of_exec {live : SubscriptionDelegationView} {answer : SubscriptionAnswer}
    {program : Program SubscriptionCall SubscriptionReply SubscriptionAnswer}
    (hAnswer : (program.exec (handleLive live ()) boundState).1 = answer) :
    program.Ends (showing systemProgram live) boundState answer
      (program.exec (handleLive live ()) boundState).2 := by
  rw [← hAnswer]
  exact Program.ends_exec showing_handleLive program boundState

/-- In the first period both receipts are for the period zero. -/
theorem receipts_agree_iff_first :
    AgreeOnPeriod provenBinding paidDelegation holderReceipt holderReceipt := by
  have hRetried : ((verifyActivation plainServer (retriedActivation 60) 1).run.exec
      (handleLive paidDelegation ()) boundState).1 = .ok (some holderReceipt) := by decide +kernel
  have hProved : ((verifyAccessCredential plainServer (repeatedAccess 60)).run.exec
      (handleLive paidDelegation ()) boundState).1 = .ok (some holderReceipt) := by decide +kernel
  exact (receipts_agree_iff boundState_bound provenBinding_wrote rfl rfl rfl
    (ends_of_exec hRetried) (ends_of_exec hProved)).mpr rfl

/-- A receipt of the second period. -/
def renewedReceipt (periodIndex : ℕ) : SubscriptionReceipt :=
  { holderReceipt with
    periodIndex
    periodStart := 86400
    periodEnd := 172800 }

/-- After a renewal the activation is answered for the period zero, and its proof for the period
one. -/
theorem receipts_disagree_after_renewal :
    (∃ after, (verifyActivation plainServer (retriedActivation renewedNow) 1).run.Ends
        (showing systemProgram renewedDelegation) boundState (.ok (some (renewedReceipt 0)))
          after) ∧
      (∃ after, (verifyAccessCredential plainServer (repeatedAccess renewedNow)).run.Ends
        (showing systemProgram renewedDelegation) boundState (.ok (some (renewedReceipt 1)))
          after) ∧
      Bound systemProgram provenBinding boundState ∧
      plainServer.Wrote systemProgram provenBinding ∧
      ¬AgreeOnPeriod provenBinding renewedDelegation (renewedReceipt 0) (renewedReceipt 1) := by
  have hRetried : ((verifyActivation plainServer (retriedActivation renewedNow) 1).run.exec
      (handleLive renewedDelegation ()) boundState).1 = .ok (some (renewedReceipt 0)) := by
    decide +kernel
  have hProved : ((verifyAccessCredential plainServer (repeatedAccess renewedNow)).run.exec
      (handleLive renewedDelegation ()) boundState).1 = .ok (some (renewedReceipt 1)) := by
    decide +kernel
  refine ⟨⟨_, ends_of_exec hRetried⟩, ⟨_, ends_of_exec hProved⟩, boundState_bound,
    provenBinding_wrote, ?_⟩
  intro hAgree
  exact absurd hAgree.periodIndex (by decide)

end PayKit.Subscription
