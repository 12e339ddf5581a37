import Mathlib.Data.List.Induction
import PayKit.Upto.Served

/-!
# A payer is charged for a released response only

The settlement knows every signature that may have been charged: a signature leaves its list
when the node says that it can not land, and no other way. So an empty list at the answer
means that nothing was charged and nothing will be, and a list that is not empty becomes a
receipt, after which only the metered amount is settled.

`Accounted` says this of every reached world, about the calls that were made and the state of
the channel. The assertions of the settlement, in `AwaitingAnswer`, are about its own calls.
-/

namespace PayKit.Upto

open Concurrency X402

/-! ### What happened -/

/-- The amount was handed to a settlement. -/
def settles (amount : ℕ) : (call : ServedCall) → ServedReply call → Prop
  | .settle other, _ => other = amount
  | _, _ => False

/-- The signature was named for a settlement of the amount. -/
def settlesAs (amount : ℕ) (signature : String) : (call : ServedCall) → ServedReply call → Prop
  | .settle other, .ok response => other = amount ∧ response.transaction = signature
  | .settle other, .error error => other = amount ∧ error = .settlementPending signature
  | _, _ => False

/-- The node says that the signature can not land. -/
def findsDead (signature : String) : (call : ServedCall) → ServedReply call → Prop
  | .resolve _ other, .ok none => other = signature
  | _, _ => False

/-- The call reported that the settlement landed. -/
def reports (response : UptoSettlementResponse) : (call : ServedCall) → ServedReply call → Prop
  | .settle _, .ok reported => reported = response
  | .resolve _ _, .ok (some reported) => reported = response
  | _, _ => False

def answers (receipt : Option UptoSettlementResponse) :
    (call : ServedCall) → ServedReply call → Prop
  | .answer given, _ => given = receipt
  | _, _ => False

abbrev ServedHistory := List (Event ServedParty ServedCall ServedReply)

abbrev SettlementDid (history : ServedHistory)
    (kind : (call : ServedCall) → ServedReply call → Prop) : Prop :=
  Did history .settlement kind

/-! ### The channel -/

section

variable {opened : ServedOpen} {amountOf : String → ℕ} {call : ServedCall}
  {reply : ServedReply call} {before after : SettlementChain} {signature : String} {amount : ℕ}
  {response : UptoSettlementResponse}

theorem SettlementChain.NeverLands.not_charges {chain : SettlementChain}
    (hNever : chain.NeverLands signature) : ¬chain.Charges signature := by
  rcases hNever with ⟨hLanded, hDead⟩
  rintro (hLands | ⟨hOpen, hSubmitted⟩)
  · exact hLanded hLands
  · rcases hDead with hDead | hSealed
    · rw [hDead] at hSubmitted
      cases hSubmitted
    · exact hSealed hOpen

theorem landed_kept (hEffect : servedEffect opened amountOf call before reply after)
    (hLanded : before.landed = some signature) : after.landed = some signature := by
  cases call with
  | settle amount =>
      rcases hEffect with ⟨_, -, hOpen, -⟩ | ⟨_, -, -, rfl⟩ | ⟨_, -, -, -, rfl⟩
      · rw [hLanded] at hOpen
        cases hOpen
      · exact hLanded
      · exact hLanded
  | resolve amount other => rwa [hEffect.1]
  | answer receipt => rwa [show after = before from hEffect]
  | land other =>
      rcases hEffect with ⟨hOpen, -⟩ | rfl
      · rw [hLanded] at hOpen
        cases hOpen
      · exact hLanded
  | die other =>
      rcases hEffect with ⟨-, -, rfl⟩ | rfl
      · exact hLanded
      · exact hLanded

theorem submission_submit {chain : SettlementChain} {other : String}
    (hOther : signature ≠ other) :
    (chain.submit other).submission signature = chain.submission signature :=
  Function.update_of_ne hOther _ _

theorem neverLands_kept (hEffect : servedEffect opened amountOf call before reply after)
    (hNever : before.NeverLands signature) : after.NeverLands signature := by
  rcases hNever with ⟨hLanded, hDead⟩
  cases call with
  | settle amount =>
      rcases hEffect with ⟨other, -, hOpen, hAlive, -, rfl⟩ | ⟨_, -, -, rfl⟩ |
        ⟨other, -, hAlive, -, rfl⟩
      · have hGone : before.submission signature = .dead :=
          hDead.resolve_right fun hSealed => hSealed hOpen
        refine ⟨?_, .inl hGone⟩
        rintro ⟨⟩
        exact hAlive hGone
      · exact ⟨hLanded, hDead⟩
      · refine ⟨hLanded, ?_⟩
        rcases hDead with hGone | hSealed
        · have hOther : signature ≠ other := by
            rintro rfl
            exact hAlive hGone
          exact .inl ((submission_submit hOther).trans hGone)
        · exact .inr hSealed
  | resolve amount other =>
      rw [hEffect.1]
      exact ⟨hLanded, hDead⟩
  | answer receipt =>
      rw [show after = before from hEffect]
      exact ⟨hLanded, hDead⟩
  | land other =>
      rcases hEffect with ⟨hOpen, hSubmitted, rfl⟩ | rfl
      · have hGone : before.submission signature = .dead :=
          hDead.resolve_right fun hSealed => hSealed hOpen
        refine ⟨?_, .inl hGone⟩
        rintro ⟨⟩
        rw [hGone] at hSubmitted
        cases hSubmitted
      · exact ⟨hLanded, hDead⟩
  | die other =>
      rcases hEffect with ⟨-, -, rfl⟩ | rfl
      · refine ⟨hLanded, ?_⟩
        rcases hDead with hGone | hSealed
        · left
          by_cases hSame : signature = other
          · rw [hSame]
            exact Function.update_self ..
          · exact (Function.update_of_ne hSame _ _).trans hGone
        · exact .inr hSealed
      · exact ⟨hLanded, hDead⟩

theorem charges_new (hEffect : servedEffect opened amountOf call before reply after)
    (hCharges : after.Charges signature) :
    before.Charges signature ∨
      ∃ amount, settlesAs amount signature call reply ∧ amountOf signature = amount := by
  cases call with
  | settle amount =>
      rcases hEffect with ⟨other, rfl, hOpen, -, hAmount, rfl⟩ | ⟨_, -, -, rfl⟩ |
        ⟨other, rfl, -, hAmount, rfl⟩
      · rcases hCharges with ⟨⟨⟩⟩ | ⟨⟨⟩, -⟩
        exact .inr ⟨amount, ⟨rfl, rfl⟩, hAmount⟩
      · exact .inl hCharges
      · by_cases hSame : signature = other
        · subst hSame
          exact .inr ⟨amount, ⟨rfl, rfl⟩, hAmount⟩
        · rcases hCharges with hLanded | ⟨hOpen, hSubmitted⟩
          · exact .inl (.inl hLanded)
          · exact .inl (.inr ⟨hOpen, (submission_submit hSame).symm.trans hSubmitted⟩)
  | resolve amount other =>
      rw [hEffect.1] at hCharges
      exact .inl hCharges
  | answer receipt =>
      rw [show after = before from hEffect] at hCharges
      exact .inl hCharges
  | land other =>
      rcases hEffect with ⟨hOpen, hSubmitted, rfl⟩ | rfl
      · rcases hCharges with ⟨⟨⟩⟩ | ⟨⟨⟩, -⟩
        exact .inl (.inr ⟨hOpen, hSubmitted⟩)
      · exact .inl hCharges
  | die other =>
      rcases hEffect with ⟨-, -, rfl⟩ | rfl
      · rcases hCharges with hLanded | ⟨hOpen, hSubmitted⟩
        · exact .inl (.inl hLanded)
        · by_cases hSame : signature = other
          · subst hSame
            simp [SettlementChain.kill] at hSubmitted
          · exact .inl (.inr ⟨hOpen, (Function.update_of_ne hSame _ _).symm.trans hSubmitted⟩)
      · exact .inl hCharges

theorem neverLands_of_dead (hEffect : servedEffect opened amountOf call before reply after)
    (hDead : findsDead signature call reply) : after.NeverLands signature := by
  cases call with
  | resolve amount other =>
      rcases hEffect with ⟨rfl, ⟨rfl, -⟩ | ⟨rfl, hNever⟩ | ⟨error, rfl⟩⟩
      · exact hDead.elim
      · obtain rfl : other = signature := hDead
        exact hNever
      · exact hDead.elim
  | _ => exact hDead.elim

theorem landed_of_reported (hEffect : servedEffect opened amountOf call before reply after)
    (hReports : reports response call reply) : after.landed = some response.transaction := by
  cases call with
  | settle amount =>
      rcases hEffect with ⟨signature, rfl, -, -, -, rfl⟩ | ⟨error, rfl, -⟩ | ⟨signature, rfl, -⟩
      · obtain rfl := hReports
        rfl
      · exact hReports.elim
      · exact hReports.elim
  | resolve amount other =>
      rcases hEffect with ⟨rfl, ⟨rfl, hLanded⟩ | ⟨rfl, -⟩ | ⟨error, rfl⟩⟩
      · obtain rfl := hReports
        exact hLanded
      · exact hReports.elim
      · exact hReports.elim
  | _ => exact hReports.elim

theorem settles_of_settlesAs (hSettles : settlesAs amount signature call reply) :
    settles amount call reply := by
  cases call with
  | settle other =>
      cases reply with
      | ok settled => exact hSettles.1
      | error error => exact hSettles.1
  | _ => exact hSettles.elim

end

/-! ### The invariant -/

/-- What is so in every world that a settlement of `actual` reaches. -/
structure Accounted (amountOf : String → ℕ) (actual : ℕ) (world : ServedWorld) : Prop where
  traced : ∀ signature, world.state.Charges signature →
    ∃ amount, SettlementDid world.history (settlesAs amount signature) ∧
      amountOf signature = amount
  dropped : ∀ signature, SettlementDid world.history (findsDead signature) →
    world.state.NeverLands signature
  reported : ∀ response, SettlementDid world.history (reports response) →
    world.state.landed = some response.transaction
  amounts : ∀ amount, SettlementDid world.history (settles amount) →
    amount = actual ∨ amount = 0
  withheld : SettlementDid world.history (answers none) →
    ∀ signature, world.state.Charges signature → amountOf signature = 0
  confirmed : ∀ receipt, SettlementDid world.history (answers (some receipt)) →
    receipt.success = true →
      world.state.landed = some receipt.transaction ∧ amountOf receipt.transaction = actual
  released : ∀ receipt, SettlementDid world.history (answers (some receipt)) →
    ∀ amount, SettlementDid world.history (settles amount) → amount = actual

/-- Only the metered amount was settled so far. -/
def OnlyActual (actual : ℕ) (history : ServedHistory) : Prop :=
  ∀ amount, SettlementDid history (settles amount) → amount = actual

/-- A call that keeps the accounts. -/
def Accountable (amountOf : String → ℕ) (actual : ℕ) (world : ServedWorld)
    (caller : ServedParty) : ServedCall → Prop
  | .settle amount => caller = .settlement ∧ (amount = actual ∨ amount = 0) ∧
      (SettlementDid world.history (answers none) → amount = 0) ∧
      ∀ receipt, SettlementDid world.history (answers (some receipt)) → amount = actual
  | .resolve _ _ => caller = .settlement
  | .answer none => ∀ signature, ¬world.state.Charges signature
  | .answer (some receipt) => OnlyActual actual world.history ∧
      (receipt.success = true → world.state.landed = some receipt.transaction)
  | .land _ => True
  | .die _ => True

section

variable {opened : ServedOpen} {amountOf : String → ℕ} {actual : ℕ} {caller : ServedParty}
  {call : ServedCall} {reply : ServedReply call} {world : ServedWorld} {after : SettlementChain}
  {signature : String} {receipt : UptoSettlementResponse}

theorem settlesAs_caller {amount : ℕ} (hAllowed : Accountable amountOf actual world caller call)
    (hSettles : settlesAs amount signature call reply) : caller = .settlement := by
  cases call with
  | settle other => exact hAllowed.1
  | _ => exact hSettles.elim

/-- What is settled when only the metered amount was settled is settled for that amount. -/
theorem Accounted.amountOf_landed (hAccounted : Accounted amountOf actual world)
    (hOnly : OnlyActual actual world.history) (hLanded : world.state.landed = some signature) :
    amountOf signature = actual := by
  rcases hAccounted.traced signature (.inl hLanded) with ⟨amount, hSettled, hAmount⟩
  rw [hAmount]
  exact hOnly amount (hSettled.mono fun _ _ => settles_of_settlesAs)

theorem Accounted.step (hAccounted : Accounted amountOf actual world)
    (hEffect : servedEffect opened amountOf call world.state reply after)
    (hAllowed : Accountable amountOf actual world caller call) :
    Accounted amountOf actual (world.record ⟨caller, call, reply⟩ after) where
  traced signature hCharges := by
    rcases charges_new hEffect hCharges with hBefore | ⟨amount, hNow, hAmount⟩
    · rcases hAccounted.traced signature hBefore with ⟨amount, hSettled, hAmount⟩
      exact ⟨amount, did_cons.mpr (.inr hSettled), hAmount⟩
    · exact ⟨amount, did_cons.mpr (.inl ⟨settlesAs_caller hAllowed hNow, hNow⟩), hAmount⟩
  dropped signature hDropped := by
    rcases did_cons.mp hDropped with ⟨-, hNow⟩ | hBefore
    · exact neverLands_of_dead hEffect hNow
    · exact neverLands_kept hEffect (hAccounted.dropped signature hBefore)
  reported response hReported := by
    rcases did_cons.mp hReported with ⟨-, hNow⟩ | hBefore
    · exact landed_of_reported hEffect hNow
    · exact landed_kept hEffect (hAccounted.reported response hBefore)
  amounts amount hSettled := by
    rcases did_cons.mp hSettled with ⟨-, hNow⟩ | hBefore
    · cases call with
      | settle other =>
          obtain rfl : other = amount := hNow
          exact hAllowed.2.1
      | _ => exact hNow.elim
    · exact hAccounted.amounts amount hBefore
  withheld hWithheld signature hCharges := by
    rcases did_cons.mp hWithheld with ⟨-, hNow⟩ | hBefore
    · cases call with
      | answer receipt =>
          obtain rfl : receipt = none := hNow
          obtain rfl : after = world.state := hEffect
          exact absurd hCharges (hAllowed signature)
      | _ => exact hNow.elim
    · rcases charges_new hEffect hCharges with hChargedBefore | ⟨amount, hNow, hAmount⟩
      · exact hAccounted.withheld hBefore signature hChargedBefore
      · cases call with
        | settle other =>
            obtain rfl : other = amount := settles_of_settlesAs hNow
            rw [hAmount]
            exact hAllowed.2.2.1 hBefore
        | _ => exact hNow.elim
  confirmed receipt hAnswered hSuccess := by
    rcases did_cons.mp hAnswered with ⟨-, hNow⟩ | hBefore
    · cases call with
      | answer given =>
          obtain rfl : given = some receipt := hNow
          obtain rfl : after = world.state := hEffect
          have hLanded := hAllowed.2 hSuccess
          exact ⟨hLanded, hAccounted.amountOf_landed hAllowed.1 hLanded⟩
      | _ => exact hNow.elim
    · rcases hAccounted.confirmed receipt hBefore hSuccess with ⟨hLanded, hAmount⟩
      exact ⟨landed_kept hEffect hLanded, hAmount⟩
  released receipt hAnswered amount hSettled := by
    rcases did_cons.mp hAnswered with ⟨-, hNow⟩ | hAnsweredBefore
    · rcases did_cons.mp hSettled with ⟨-, hSettlesNow⟩ | hSettledBefore
      · cases call with
        | settle other => exact hNow.elim
        | _ => exact hSettlesNow.elim
      · cases call with
        | answer given =>
            obtain rfl : given = some receipt := hNow
            exact hAllowed.1 amount hSettledBefore
        | _ => exact hNow.elim
    · rcases did_cons.mp hSettled with ⟨-, hNow⟩ | hBefore
      · cases call with
        | settle other =>
            obtain rfl : other = amount := hNow
            exact hAllowed.2.2.2 receipt hAnsweredBefore
        | _ => exact hNow.elim
      · exact hAccounted.released receipt hAnsweredBefore amount hBefore

end

/-! ### The settlement -/

/-- The program keeps the accounts and ends in the postcondition. -/
abbrev KeepsAccounts {Result : Type} (opened : ServedOpen) (amountOf : String → ℕ)
    (actual : ℕ) (post : Result → ServedWorld → Prop) (program : ServedM Result)
    (before : ServedWorld) : Prop :=
  (servedEnvironment opened amountOf).Safe (Accounted amountOf actual) .settlement
    (fun _ => True) post program before

/-- The settlement did not answer yet, and settled the metered amount only. -/
structure Unanswered (actual : ℕ) (history : ServedHistory) : Prop where
  unanswered : ∀ receipt, ¬SettlementDid history (answers receipt)
  onlyActual : OnlyActual actual history

/-- Every signature that was named and not found dead is listed. -/
def Listed (submitted : List String) (history : ServedHistory) : Prop :=
  ∀ amount signature, SettlementDid history (settlesAs amount signature) →
    signature ∈ submitted ∨ SettlementDid history (findsDead signature)

/-- What the settlement knows of an outcome. -/
def Known (submitted : List String) (history : ServedHistory) :
    Option UptoSettlementResponse → Prop
  | some settlement => SettlementDid history (reports settlement)
  | none => Listed submitted history

section

variable {opened : ServedOpen} {amountOf : String → ℕ} {actual : ℕ} {call : ServedCall}
  {reply : ServedReply call} {before after : ServedWorld} {submitted : List String}
  {history : ServedHistory} {Result : Type} {post : Result → ServedWorld → Prop}
  {invariant : ServedWorld → Prop}

theorem Unanswered.interfere (hUnanswered : Unanswered actual before.history)
    (hInterferes : Interferes invariant .settlement before after) :
    Unanswered actual after.history where
  unanswered receipt := by
    rw [SettlementDid, hInterferes.did_iff]
    exact hUnanswered.unanswered receipt
  onlyActual amount hSettled := hUnanswered.onlyActual amount (hInterferes.did_iff.mp hSettled)

theorem Listed.interfere (hListed : Listed submitted before.history)
    (hInterferes : Interferes invariant .settlement before after) :
    Listed submitted after.history := by
  intro amount signature hSettled
  rcases hListed amount signature (hInterferes.did_iff.mp hSettled) with hMem | hDead
  · exact .inl hMem
  · exact .inr (hInterferes.did_iff.mpr hDead)

theorem Known.interfere {landed : Option UptoSettlementResponse}
    (hKnown : Known submitted before.history landed)
    (hInterferes : Interferes invariant .settlement before after) :
    Known submitted after.history landed := by
  cases landed with
  | some settlement => exact hInterferes.did_iff.mpr hKnown
  | none => exact Listed.interfere hKnown hInterferes

theorem Unanswered.settle (hUnanswered : Unanswered actual history)
    (reply : ServedReply (.settle actual)) :
    Unanswered actual (⟨.settlement, .settle actual, reply⟩ :: history) where
  unanswered receipt hAnswered := by
    rcases did_cons.mp hAnswered with ⟨-, hNow⟩ | hBefore
    · exact hNow
    · exact hUnanswered.unanswered receipt hBefore
  onlyActual amount hSettled := by
    rcases did_cons.mp hSettled with ⟨-, hNow⟩ | hBefore
    · exact Eq.symm hNow
    · exact hUnanswered.onlyActual amount hBefore

theorem Unanswered.resolve {signature : String} (hUnanswered : Unanswered actual history)
    (reply : ServedReply (.resolve actual signature)) :
    Unanswered actual (⟨.settlement, .resolve actual signature, reply⟩ :: history) where
  unanswered receipt hAnswered := by
    rcases did_cons.mp hAnswered with ⟨-, hNow⟩ | hBefore
    · exact hNow
    · exact hUnanswered.unanswered receipt hBefore
  onlyActual amount hSettled := by
    rcases did_cons.mp hSettled with ⟨-, hNow⟩ | hBefore
    · exact hNow.elim
    · exact hUnanswered.onlyActual amount hBefore

theorem Listed.of_error {error : Error} (hListed : Listed submitted history) :
    Listed (submitted ++ pendingSignature error)
      (⟨.settlement, .settle actual, .error error⟩ :: history) := by
  intro amount signature hSettled
  rcases did_cons.mp hSettled with ⟨-, hNow⟩ | hBefore
  · rw [hNow.2]
    exact .inl (List.mem_append.mpr (.inr (List.mem_singleton.mpr rfl)))
  · rcases hListed amount signature hBefore with hMem | hDead
    · exact .inl (List.mem_append.mpr (.inl hMem))
    · exact .inr (did_cons.mpr (.inr hDead))

theorem Listed.of_resolved {other : String} {reply : ServedReply (.resolve actual other)}
    {left : List String} (hListed : Listed submitted history)
    (hLeft : ∀ signature ∈ submitted, signature ∈ left ∨ findsDead signature _ reply) :
    Listed left (⟨.settlement, .resolve actual other, reply⟩ :: history) := by
  intro amount signature hSettled
  rcases did_cons.mp hSettled with ⟨-, hNow⟩ | hBefore
  · exact hNow.elim
  · rcases hListed amount signature hBefore with hMem | hDead
    · rcases hLeft signature hMem with hKept | hNow
      · exact .inl hKept
      · exact .inr (did_self hNow)
    · exact .inr (did_cons.mpr (.inr hDead))

theorem keepsAccounts_perform {next : ServedReply call → ServedM Result}
    (hAllowed : ∀ now : ServedWorld, Interferes (Accounted amountOf actual) .settlement before now →
      Accountable amountOf actual now .settlement call)
    (hNext : ∀ (now : ServedWorld) reply state,
      Interferes (Accounted amountOf actual) .settlement before now →
        Accounted amountOf actual (now.record ⟨.settlement, call, reply⟩ state) →
          KeepsAccounts opened amountOf actual post (next reply)
            (now.record ⟨.settlement, call, reply⟩ state)) :
    KeepsAccounts opened amountOf actual post (.perform call next) before := by
  intro now hInterferes
  refine ⟨trivial, ?_⟩
  intro reply state hEffect _
  have hKept := hInterferes.1.step hEffect (hAllowed now hInterferes)
  exact ⟨hKept, hNext now reply state hInterferes hKept⟩

theorem Unanswered.accountable_settle (hUnanswered : Unanswered actual before.history) :
    Accountable amountOf actual before .settlement (.settle actual) :=
  ⟨rfl, .inl rfl, fun hAnswered => absurd hAnswered (hUnanswered.unanswered none),
    fun _ _ => rfl⟩

/-! The rounds before the answer. -/

/-- The outcome of a part of the settlement before its answer. -/
abbrev LeavesKnown (actual : ℕ) (outcome : Option UptoSettlementResponse × List String)
    (world : ServedWorld) : Prop :=
  Unanswered actual world.history ∧ Known outcome.2 world.history outcome.1

theorem settleInline_keeps {attempts : ℕ} {last : Option Error}
    (hUnanswered : Unanswered actual before.history) (hListed : Listed submitted before.history) :
    KeepsAccounts opened amountOf actual
      (fun outcome => LeavesKnown actual (outcome.1.toOption, outcome.2))
      (settleInline actual attempts last submitted) before := by
  induction attempts generalizing last submitted before with
  | zero =>
      intro now hInterferes
      exact ⟨hUnanswered.interfere hInterferes, hListed.interfere hInterferes⟩
  | succ attempts hInduction =>
      apply keepsAccounts_perform
      · intro now hInterferes
        exact (hUnanswered.interfere hInterferes).accountable_settle
      · intro now reply state hInterferes _
        have hStill := (hUnanswered.interfere hInterferes).settle reply
        cases reply with
        | ok settlement =>
            intro later hLater
            refine ⟨hStill.interfere hLater, ?_⟩
            exact hLater.did_iff.mpr (did_self rfl)
        | error error => exact hInduction hStill (hListed.interfere hInterferes).of_error

theorem resolveEach_keeps {pending unknown : List String}
    (hUnanswered : Unanswered actual before.history)
    (hListed : Listed (unknown ++ pending) before.history) :
    KeepsAccounts opened amountOf actual (LeavesKnown actual)
      (resolveEach actual pending unknown) before := by
  induction pending generalizing unknown before with
  | nil =>
      rw [List.append_nil] at hListed
      intro now hInterferes
      exact ⟨hUnanswered.interfere hInterferes, hListed.interfere hInterferes⟩
  | cons signature pending hInduction =>
      apply keepsAccounts_perform
      · intro now hInterferes
        exact rfl
      · intro now reply state hInterferes _
        have hStill := (hUnanswered.interfere hInterferes).resolve reply
        have hListedNow := hListed.interfere hInterferes
        rcases reply with error | _ | settlement
        · apply hInduction hStill
          apply hListedNow.of_resolved
          intro other hMem
          exact .inl (by simpa using hMem)
        · apply hInduction hStill
          apply hListedNow.of_resolved
          intro other hMem
          rcases List.mem_append.mp hMem with hUnknown | hPending
          · exact .inl (List.mem_append.mpr (.inl hUnknown))
          · rcases List.mem_cons.mp hPending with rfl | hRest
            · exact .inr rfl
            · exact .inl (List.mem_append.mpr (.inr hRest))
        · intro later hLater
          refine ⟨hStill.interfere hLater, ?_⟩
          exact hLater.did_iff.mpr (did_self rfl)

theorem resolveInline_keeps {attempts : ℕ} (holds : Accounted amountOf actual before)
    (hUnanswered : Unanswered actual before.history) (hListed : Listed submitted before.history) :
    KeepsAccounts opened amountOf actual (LeavesKnown actual)
      (resolveInline actual attempts submitted) before := by
  induction attempts generalizing submitted before with
  | zero =>
      intro now hInterferes
      exact ⟨hUnanswered.interfere hInterferes, hListed.interfere hInterferes⟩
  | succ attempts hInduction =>
      rw [resolveInline]
      split
      · intro now hInterferes
        exact ⟨hUnanswered.interfere hInterferes, hListed.interfere hInterferes⟩
      · have hNone : Listed ([] ++ submitted) before.history := hListed
        apply Environment.Safe.bind holds (resolveEach_keeps hUnanswered hNone)
        rintro ⟨landed, left⟩ now hHolds - ⟨hStill, hKnown⟩
        cases landed with
        | some settlement =>
            intro later hLater
            exact ⟨hStill.interfere hLater, hKnown.interfere hLater⟩
        | none => exact hInduction hHolds hStill hKnown

theorem settleAndResolve_keeps {attempts : ℕ} (holds : Accounted amountOf actual before)
    (hUnanswered : Unanswered actual before.history) (hListed : Listed [] before.history) :
    KeepsAccounts opened amountOf actual (LeavesKnown actual)
      (settleAndResolve actual attempts) before := by
  apply Environment.Safe.bind holds (settleInline_keeps hUnanswered hListed)
  rintro ⟨outcome, submitted⟩ now hHolds - ⟨hStill, hKnown⟩
  cases outcome with
  | ok settlement =>
      intro later hLater
      exact ⟨hStill.interfere hLater, hKnown.interfere hLater⟩
  | error error => exact resolveInline_keeps hHolds hStill hKnown

/-! The background work. -/

/-- Looking signatures up is accountable at any time. -/
def Resolves : ServedCall → Prop
  | .resolve _ _ => True
  | _ => False

theorem resolveEach_uses {pending unknown : List String} :
    (resolveEach actual pending unknown).Uses Resolves := by
  induction pending generalizing unknown with
  | nil => trivial
  | cons signature pending hInduction =>
      refine ⟨trivial, ?_⟩
      rintro (error | _ | settlement)
      · exact hInduction
      · exact hInduction
      · trivial

theorem resolvePending_keeps {pending : List String} :
    KeepsAccounts opened amountOf actual
      (fun _ world => Environment.QuietSince Resolves .settlement before world)
      (resolvePending actual pending) before := by
  refine ((Environment.Safe.of_quiet ?_ resolveEach_uses).frame resolveEach_uses).weaken
    fun _ _ _ _ hSince => hSince.2
  intro world call reply state hHolds hResolves hEffect _
  cases call with
  | resolve amount signature => exact hHolds.step hEffect rfl
  | _ => exact hResolves.elim

theorem not_answered_of_quiet {receipt : Option UptoSettlementResponse}
    (hSince : Environment.QuietSince Resolves .settlement before after)
    (hBefore : ¬SettlementDid before.history (answers receipt)) :
    ¬SettlementDid after.history (answers receipt) := by
  rintro ⟨⟨mover, call, reply⟩, hMem, hOwn, hAnswers⟩
  apply hBefore
  refine ⟨_, hSince.mem_before hOwn ?_ hMem, hOwn, hAnswers⟩
  cases call with
  | answer given => exact id
  | _ => exact hAnswers.elim

theorem not_answered_of_settle {amount : ℕ} {reply : ServedReply (.settle amount)}
    {receipt : Option UptoSettlementResponse}
    (hBefore : ¬SettlementDid history (answers receipt)) :
    ¬SettlementDid (⟨.settlement, .settle amount, reply⟩ :: history) (answers receipt) := by
  intro hAnswered
  rcases did_cons.mp hAnswered with ⟨-, hNow⟩ | hAnsweredBefore
  · exact hNow
  · exact hBefore hAnsweredBefore

theorem settleReleased_keeps {attempts : ℕ} (holds : Accounted amountOf actual before)
    (hReleased : ¬SettlementDid before.history (answers none)) :
    KeepsAccounts opened amountOf actual (fun _ _ => True)
      (settleReleased actual attempts submitted) before := by
  induction attempts generalizing submitted before with
  | zero => exact fun _ _ => trivial
  | succ attempts hInduction =>
      apply Environment.Safe.bind holds resolvePending_keeps
      rintro ⟨landed, left⟩ now hHolds - hSince
      have hStill := not_answered_of_quiet hSince hReleased
      cases landed with
      | some settlement => exact fun _ _ => trivial
      | none =>
          have hNow (next : ServedWorld)
              (hInterferes : Interferes (Accounted amountOf actual) .settlement now next) :
              ¬SettlementDid next.history (answers none) :=
            fun hAnswered => hStill (hInterferes.did_iff.mp hAnswered)
          apply keepsAccounts_perform
          · intro next hInterferes
            exact ⟨rfl, .inl rfl, fun hAnswered => absurd hAnswered (hNow next hInterferes),
              fun _ _ => rfl⟩
          · intro next reply state hInterferes hKept
            cases reply with
            | ok settlement => exact fun _ _ => trivial
            | error error =>
                exact hInduction hKept (not_answered_of_settle (hNow next hInterferes))

theorem refundWithheld_keeps {attempts : ℕ}
    (hWithheld : ∀ receipt, ¬SettlementDid before.history (answers (some receipt))) :
    KeepsAccounts opened amountOf actual (fun _ _ => True) (refundWithheld attempts) before := by
  induction attempts generalizing before with
  | zero => exact fun _ _ => trivial
  | succ attempts hInduction =>
      have hNow (now : ServedWorld)
          (hInterferes : Interferes (Accounted amountOf actual) .settlement before now) :
          ∀ receipt, ¬SettlementDid now.history (answers (some receipt)) :=
        fun receipt hAnswered => hWithheld receipt (hInterferes.did_iff.mp hAnswered)
      apply keepsAccounts_perform
      · intro now hInterferes
        exact ⟨rfl, .inr rfl, fun _ => rfl,
          fun receipt hAnswered => absurd hAnswered (hNow now hInterferes receipt)⟩
      · intro now reply state hInterferes _
        cases reply with
        | ok settlement => exact fun _ _ => trivial
        | error error =>
            exact hInduction fun receipt => not_answered_of_settle (hNow now hInterferes receipt)

/-! The answer. -/

theorem not_answered_of_answer {given other : Option UptoSettlementResponse}
    (hUnanswered : Unanswered actual history) (hOther : given ≠ other) :
    ¬SettlementDid (⟨.settlement, .answer given, ()⟩ :: history) (answers other) := by
  intro hAnswered
  rcases did_cons.mp hAnswered with ⟨-, hNow⟩ | hBefore
  · exact hOther hNow
  · exact hUnanswered.unanswered other hBefore

theorem Accounted.not_charges (hAccounted : Accounted amountOf actual before)
    (hListed : Listed [] before.history) (signature : String) :
    ¬before.state.Charges signature := by
  intro hCharges
  rcases hAccounted.traced signature hCharges with ⟨amount, hSettled, -⟩
  rcases hListed amount signature hSettled with hMem | hDead
  · cases hMem
  · exact (hAccounted.dropped signature hDead).not_charges hCharges

theorem settleServedUptoWith_keeps {retry : UptoSettlementRetry}
    (holds : Accounted amountOf actual before) (hUnanswered : Unanswered actual before.history)
    (hListed : Listed [] before.history) :
    KeepsAccounts opened amountOf actual (fun _ _ => True)
      (settleServedUptoWith opened actual retry) before := by
  apply Environment.Safe.bind holds (settleAndResolve_keeps holds hUnanswered hListed)
  rintro ⟨landed, submitted⟩ now hHolds - ⟨hStill, hKnown⟩
  cases landed with
  | some settlement =>
      apply keepsAccounts_perform
      · intro next hInterferes
        refine ⟨(hStill.interfere hInterferes).onlyActual, fun _ => ?_⟩
        exact hInterferes.1.reported settlement (hInterferes.did_iff.mpr hKnown)
      · exact fun _ _ _ _ _ _ _ => trivial
  | none =>
      show KeepsAccounts opened amountOf actual _ (ite _ _ _) now
      split
      · apply keepsAccounts_perform
        · intro next hInterferes
          exact ⟨(hStill.interfere hInterferes).onlyActual, fun hSuccess => nomatch hSuccess⟩
        · intro next reply state hInterferes hKept
          exact settleReleased_keeps hKept
            (not_answered_of_answer (hStill.interfere hInterferes) (by simp))
      · rename_i hNothingLeft
        obtain rfl : submitted = [] := not_not.mp hNothingLeft
        apply keepsAccounts_perform
        · intro next hInterferes
          exact hInterferes.1.not_charges (Listed.interfere hKnown hInterferes)
        · intro next reply state hInterferes _
          apply refundWithheld_keeps
          intro receipt
          exact not_answered_of_answer (hStill.interfere hInterferes) (by simp)

end

/-! ### Runs -/

section

variable {opened : ServedOpen} {amountOf : String → ℕ} {actual : ℕ}
  {retry : UptoSettlementRetry} {moves : List ChainMove} {reached later : ServedRun}
  {signature : String}

theorem accounted_servedStart :
    Accounted amountOf actual (servedStart opened actual retry moves).world where
  traced signature hCharges := by
    rcases hCharges with hLanded | ⟨-, hSubmitted⟩
    · cases hLanded
    · cases hSubmitted
  dropped _ hDropped := absurd hDropped not_did_nil
  reported _ hReported := absurd hReported not_did_nil
  amounts _ hSettled := absurd hSettled not_did_nil
  withheld hWithheld := absurd hWithheld not_did_nil
  confirmed _ hAnswered := absurd hAnswered not_did_nil
  released _ hAnswered := absurd hAnswered not_did_nil

/-- The chain moves settlements that were submitted. -/
def MovesChain : ServedCall → Prop
  | .land _ => True
  | .die _ => True
  | _ => False

theorem chainMoves_uses : (chainMoves moves).Uses MovesChain := by
  induction moves with
  | nil => trivial
  | cons move moves hInduction =>
      cases move with
      | land signature => exact ⟨trivial, fun _ => hInduction⟩
      | die signature => exact ⟨trivial, fun _ => hInduction⟩

theorem accounted_of_reachable
    (hRun : (servedEnvironment opened amountOf).Reachable
      (servedStart opened actual retry moves) reached) :
    Accounted amountOf actual reached.world := by
  have hSafe (caller : ServedParty) : (servedEnvironment opened amountOf).Safe
      (Accounted amountOf actual) caller (fun _ => True) (fun _ _ => True)
      ((servedStart opened actual retry moves).threads caller)
      (servedStart opened actual retry moves).world := by
    cases caller with
    | settlement =>
        apply settleServedUptoWith_keeps accounted_servedStart
        · exact ⟨fun _ => not_did_nil, fun _ hSettled => absurd hSettled not_did_nil⟩
        · exact fun _ _ hSettled => absurd hSettled not_did_nil
    | chain =>
        refine Environment.Safe.of_quiet ?_ chainMoves_uses
        intro world call reply state hHolds hMoves hEffect _
        have hKept : servedEffect opened amountOf call world.state reply state := hEffect
        cases call with
        | land signature => exact hHolds.step hKept trivial
        | die signature => exact hHolds.step hKept trivial
        | _ => exact hMoves.elim
  exact (Environment.safe_of_reachable accounted_servedStart hSafe hRun).1

theorem landed_of_reachable
    (hRun : (servedEnvironment opened amountOf).Reachable reached later)
    (hLanded : reached.world.state.landed = some signature) :
    later.world.state.landed = some signature := by
  apply Environment.Reachable.world_induction hRun
    (motive := fun world => world.state.landed = some signature) hLanded
  intro world event state hBefore hEffect _
  exact landed_kept hEffect hBefore

end

/-! ### Requests that are dropped -/

section

variable {maxBaseUnits : ℕ} {request : OpenedUpto}

/-- The amount that was metered last, of those that the handler charged. -/
def meteredLast (maxBaseUnits : ℕ) (charges : List ℕ) : ℕ :=
  (charges.getLast?.map (min · maxBaseUnits)).getD 0

theorem settlements_of_released {moves : List RequestMove} (hReleased : request.held = false) :
    (moves.foldl (OpenedUpto.apply maxBaseUnits) request).settlements = request.settlements := by
  induction moves generalizing request with
  | nil => rfl
  | cons move moves hInduction =>
      have hNext : (request.apply maxBaseUnits move).held = false ∧
          (request.apply maxBaseUnits move).settlements = request.settlements := by
        cases move with
        | charge baseUnits => exact ⟨hReleased, rfl⟩
        | drop runtime => simp [OpenedUpto.apply, hReleased]
        | settle => simp [OpenedUpto.apply, hReleased]
      rw [List.foldl_cons, hInduction hNext.1, hNext.2]

theorem requestRun_charges (charges : List ℕ) :
    requestRun maxBaseUnits (charges.map .charge) =
      ⟨true, charges.getLast?.map (min · maxBaseUnits), []⟩ := by
  induction charges using List.reverseRecOn with
  | nil => rfl
  | append_singleton charges baseUnits hInduction =>
      rw [requestRun] at hInduction
      rw [requestRun, List.map_append, List.foldl_append, hInduction]
      simp [OpenedUpto.apply]

theorem settlements_of_dropped (charges : List ℕ) (rest : List RequestMove) :
    (requestRun maxBaseUnits (charges.map .charge ++ .drop true :: rest)).settlements =
      [meteredLast maxBaseUnits charges] := by
  have hCharged : requestRun maxBaseUnits (charges.map .charge) =
      ⟨true, charges.getLast?.map (min · maxBaseUnits), []⟩ := requestRun_charges charges
  rw [requestRun] at hCharged
  rw [requestRun, List.foldl_append, hCharged, List.foldl_cons, settlements_of_released rfl]
  rfl

end

theorem not_released_of_none {Body Failure : Type}
    {settlementHeader : UptoSettlementResponse → Option (String × String)}
    {body : Except Failure Body} {released : Body} {header : String × String} :
    releaseUptoResponse settlementHeader body none ≠ .released released header := by
  cases body with
  | error failure => exact nofun
  | ok body => exact nofun

/-! ### The payer's side -/

/-- What a payer can rely on, for every amount and every order of outcomes. -/
theorem charged_only_for_released {opened : ServedOpen} {amountOf : String → ℕ} {actual : ℕ}
    {retry : UptoSettlementRetry} {moves : List ChainMove} {reached later : ServedRun}
    (hRun : (servedEnvironment opened amountOf).Reachable
      (servedStart opened actual retry moves) reached)
    (hLater : (servedEnvironment opened amountOf).Reachable reached later) :
    (∀ signature, reached.world.state.landed = some signature →
      (amountOf signature = actual ∨ amountOf signature = 0) ∧
        later.world.state.landed = some signature) ∧
      (SettlementDid reached.world.history (answers none) →
        (∀ signature, later.world.state.landed = some signature → amountOf signature = 0) ∧
          ∀ (Body Failure : Type) (settlementHeader : UptoSettlementResponse →
            Option (String × String)) (body : Except Failure Body) released header,
              releaseUptoResponse settlementHeader body none ≠ .released released header) ∧
      (∀ receipt, SettlementDid reached.world.history (answers (some receipt)) →
        receipt.success = true →
          reached.world.state.landed = some receipt.transaction ∧
            amountOf receipt.transaction = actual) ∧
      (∀ receipt, SettlementDid reached.world.history (answers (some receipt)) →
        ∀ amount, SettlementDid later.world.history (settles amount) → amount = actual) ∧
      ∀ maxBaseUnits charges rest,
        (requestRun maxBaseUnits (charges.map .charge ++ .drop true :: rest)).settlements =
          [meteredLast maxBaseUnits charges] := by
  have hAccounted := accounted_of_reachable hRun
  have hAccountedLater := accounted_of_reachable (hRun.trans hLater)
  have hGrown := Environment.Reachable.history_suffix hLater
  refine ⟨?_, ?_, hAccounted.confirmed, ?_, fun _ => settlements_of_dropped⟩
  · intro signature hLanded
    refine ⟨?_, landed_of_reachable hLater hLanded⟩
    rcases hAccounted.traced signature (.inl hLanded) with ⟨amount, hSettled, hAmount⟩
    rw [hAmount]
    exact hAccounted.amounts amount (hSettled.mono fun _ _ => settles_of_settlesAs)
  · intro hWithheld
    refine ⟨?_, fun _ _ _ _ _ _ => not_released_of_none⟩
    intro signature hLanded
    exact hAccountedLater.withheld (hWithheld.suffix hGrown) signature (.inl hLanded)
  · intro receipt hAnswered
    exact hAccountedLater.released receipt (hAnswered.suffix hGrown)

/-! A node that accepts settlements of `actual`, and says what landed but not what did not. -/

def slowOpen : ServedOpen :=
  ⟨"payer", "solana:devnet"⟩

def slowRetry : UptoSettlementRetry :=
  ⟨1, 1⟩

def handleSlow (actual : ℕ) (_ : Unit) : (call : ServedCall) → SettlementChain →
    ServedReply call × SettlementChain
  | .settle amount, chain =>
      if amount = actual ∧ chain.submission "slow" ≠ .dead then
        (.error (.settlementPending "slow"), chain.submit "slow")
      else (.error didNotRun, chain)
  | .resolve amount signature, chain =>
      if chain.landed = some signature then
        (.ok (some (settlementResponse slowOpen amount signature)), chain)
      else (.error didNotRun, chain)
  | .answer _, chain => ((), chain)
  | .land signature, chain =>
      if chain.landed = none ∧ chain.submission signature = .submitted then
        ((), { chain with landed := some signature })
      else ((), chain)
  | .die _, chain => ((), chain)

theorem effect_handleSlow (actual : ℕ) (choice : Unit) (call : ServedCall)
    (chain : SettlementChain) :
    servedEffect slowOpen (fun _ => actual) call chain (handleSlow actual choice call chain).1
      (handleSlow actual choice call chain).2 := by
  cases call with
  | settle amount =>
      rw [handleSlow]
      split
      · rename_i hAccepted
        exact .inr (.inr ⟨"slow", rfl, hAccepted.2, hAccepted.1.symm, rfl⟩)
      · exact .inr (.inl ⟨didNotRun, rfl, by simp [didNotRun], rfl⟩)
  | resolve amount signature =>
      rw [handleSlow]
      split
      · rename_i hLanded
        exact ⟨rfl, .inl ⟨rfl, hLanded⟩⟩
      · exact ⟨rfl, .inr (.inr ⟨didNotRun, rfl⟩)⟩
  | answer receipt => rfl
  | land signature =>
      rw [handleSlow]
      split
      · rename_i hLands
        exact .inl ⟨hLands.1, hLands.2, rfl⟩
      · exact .inr rfl
  | die signature => exact .inr rfl

/-- The settlement and the chain take turns at the slow node. -/
def slowRun (actual : ℕ) (turns : List ServedParty) : ServedRun :=
  (servedStart slowOpen actual slowRetry [.land "slow"]).runSchedule (handleSlow actual)
    (turns.map fun party => (party, ()))

theorem reachable_slowRun (actual : ℕ) (turns : List ServedParty) :
    (servedEnvironment slowOpen fun _ => actual).Reachable
      (servedStart slowOpen actual slowRetry [.land "slow"]) (slowRun actual turns) :=
  Config.reachable_runSchedule (effect_handleSlow actual) _ _
    (Config.permitted_of_unrestricted (fun _ _ => trivial) _ _)

/-- The settlement lands after its pending receipt was given out. -/
theorem charged_only_for_released_of_lateLanding :
    (slowRun 7 [.settlement, .settlement, .settlement, .chain]).world.state.landed =
        some "slow" ∧
      ∀ amount, SettlementDid
        (slowRun 7 [.settlement, .settlement, .settlement, .chain]).world.history
          (settles amount) → amount = 7 := by
  refine ⟨rfl, ?_⟩
  have hAnswered : SettlementDid
      (slowRun 7 [.settlement, .settlement, .settlement, .chain]).world.history
        (answers (some (pendingReceipt slowOpen 7 ["slow"]))) :=
    ⟨_, .tail _ (.head _), rfl, rfl⟩
  exact (charged_only_for_released (reachable_slowRun 7 _) .refl).2.2.2.1 _ hAnswered

/-- A request that metered nothing settles zero in any case, also after a pending receipt, and
a request that is dropped outside of a runtime settles nothing. -/
theorem zero_settled_after_pending :
    ∃ (reached later : ServedRun) (receipt : UptoSettlementResponse),
      (servedEnvironment slowOpen fun _ => 0).Reachable
        (servedStart slowOpen 0 slowRetry [.land "slow"]) reached ∧
      (servedEnvironment slowOpen fun _ => 0).Reachable reached later ∧
      receipt.errorReason = some "settlement_pending" ∧
      SettlementDid reached.world.history (answers (some receipt)) ∧
      (∃ event, later.world.history = event :: reached.world.history ∧
        settles 0 event.call event.reply) ∧
      (requestRun 10 [.charge 3, .drop false]).settlements = [] := by
  refine ⟨slowRun 0 [.settlement, .settlement, .settlement, .settlement],
    slowRun 0 [.settlement, .settlement, .settlement, .settlement, .settlement],
    pendingReceipt slowOpen 0 ["slow"], reachable_slowRun 0 _, ?_, rfl, ?_, ?_, rfl⟩
  · exact Config.reachable_runSchedule (effect_handleSlow 0)
      (slowRun 0 [.settlement, .settlement, .settlement, .settlement]) [(.settlement, ())]
      (Config.permitted_of_unrestricted (fun _ _ => trivial) _ _)
  · exact ⟨_, .tail _ (.head _), rfl, rfl⟩
  · exact ⟨_, rfl, rfl⟩

end PayKit.Upto
