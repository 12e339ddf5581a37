import Mathlib.Data.Nat.Basic
import Mathlib.Order.MinMax

/-!
# Prepaid accounts

Funds are deposited with a third party, which pays them out against the highest amount that the
owner authorized. Services are paid by spending what is authorized. The third party may pay out
on its own account, and its settled total is learned late; the account may then have to adopt it.
An account is closed in two steps: it stops taking charges, and it may fix the amount at which it
will be paid out.

`Move` says all that can happen to such an account. Two things follow for every history: it stays
`Sound`, and what was promised never goes back, which is `Later`.
-/

namespace PayKit.Accounting

/-- A prepaid account. -/
structure Account where
  /-- What was deposited. -/
  deposit : ℕ
  /-- The highest amount authorized. -/
  authorized : ℕ
  /-- What services were charged. -/
  spent : ℕ
  /-- What is known to be paid out. -/
  settled : ℕ
  /-- When the close was requested. -/
  closing : Option ℕ
  /-- The amount at which the account will be paid out, once it is fixed. -/
  fixed : Option ℕ
  isSealed : Bool
  funded : Bool

namespace Account

/-- The account takes charges. -/
structure Opened (account : Account) : Prop where
  funded : account.funded = true
  unsealed : account.isSealed = false
  notClosing : account.closing = none

/-- The account with new amounts. -/
def pay (account : Account) (authorized spent : ℕ) : Account :=
  { account with authorized, spent }

/-- The account that learns what was paid out, and owes no less. -/
def adopt (account : Account) (deposit settled : ℕ) : Account :=
  { account with
    deposit := if account.funded then account.deposit else deposit
    authorized := max account.authorized settled
    spent := max account.spent settled
    settled := max account.settled settled
    funded := true }

end Account

open Account

/-- All that can happen to an account. -/
inductive Move : Account → Account → Prop where
  | rest (account : Account) : Move account account
  /-- A service is charged against a higher authorization. -/
  | charge {account : Account} {authorized spent : ℕ} (opened : account.Opened)
      (rises : account.authorized ≤ authorized) (within : authorized ≤ account.deposit)
      (charges : account.spent ≤ spent) (covered : spent ≤ authorized) :
      Move account (account.pay authorized spent)
  /-- A service that was promised before is paid. -/
  | redeem {account : Account} {amount : ℕ} (funded : account.funded = true)
      (unsealed : account.isSealed = false) (unfixed : account.fixed = none)
      (within : account.authorized + amount ≤ account.deposit) :
      Move account (account.pay (account.authorized + amount) (account.spent + amount))
  /-- The owner closes the account at a last authorization. -/
  | close {account : Account} {authorized spent time : ℕ} (opened : account.Opened)
      (rises : account.authorized ≤ authorized)
      (within : authorized = account.authorized ∨ authorized ≤ account.deposit)
      (charges : account.spent ≤ spent) (covered : spent ≤ authorized) :
      Move account { account.pay authorized spent with
        closing := some time
        fixed := some authorized }
  | topUp {account : Account} {amount : ℕ} (opened : account.Opened) :
      Move account { account with deposit := account.deposit + amount }
  /-- The third party is seen to have paid out, or to be closing or to have closed. -/
  | observe {account : Account} {settled : ℕ} {closing : Option ℕ} {isSealed : Bool}
      (funded : account.funded = true) (more : account.settled ≤ settled)
      (keepsTime : ∀ time, account.closing = some time → closing = some time)
      (keepsSeal : account.isSealed = true → isSealed = true) :
      Move account { account with settled, closing, isSealed }
  | adopt {account : Account} {deposit settled : ℕ} :
      Move account (account.adopt deposit settled)

/-- What holds of an account at all times. -/
structure Sound (account : Account) : Prop where
  covered : account.spent ≤ account.authorized
  escrowed : account.authorized ≤ max account.deposit account.settled
  unfunded : account.funded = false →
    account.deposit = 0 ∧ account.authorized = 0 ∧ account.spent = 0 ∧
      account.isSealed = false ∧ account.closing = none ∧ account.fixed = none
  fixed : ∀ amount, account.fixed = some amount → account.closing.isSome = true ∧
    amount ≤ account.authorized ∧ account.authorized ≤ max amount account.settled

/-- What an account keeps of an earlier one. -/
structure Later (before after : Account) : Prop where
  deposit : before.deposit ≤ after.deposit
  authorized : before.authorized ≤ after.authorized
  spent : before.spent ≤ after.spent
  settled : before.settled ≤ after.settled
  closing : ∀ time, before.closing = some time → after.closing = some time
  fixed : ∀ amount, before.fixed = some amount → after.fixed = some amount
  isSealed : before.isSealed = true → after.isSealed = true
  funded : before.funded = true → after.funded = true
  /-- A closed account takes no deposit. -/
  closedDeposit : before.funded = true → ¬before.Opened → after.deposit = before.deposit
  /-- A sealed account grows only by what is found to be paid out. -/
  sealedAuthorized : before.isSealed = true → after.authorized ≤ max before.authorized after.settled
  sealedSpent : before.isSealed = true → after.spent ≤ max before.spent after.settled

variable {before middle after : Account}

theorem Later.refl (account : Account) : Later account account where
  deposit := le_rfl
  authorized := le_rfl
  spent := le_rfl
  settled := le_rfl
  closing _ hTime := hTime
  fixed _ hAmount := hAmount
  isSealed hSealed := hSealed
  funded hFunded := hFunded
  closedDeposit _ _ := rfl
  sealedAuthorized _ := le_max_left _ _
  sealedSpent _ := le_max_left _ _

/-- An account that is open later was open before. -/
theorem Later.opened (hLater : Later before after) (hFunded : before.funded = true)
    (hOpened : after.Opened) : before.Opened where
  funded := hFunded
  unsealed := by
    cases hSealed : before.isSealed with
    | false => rfl
    | true => simpa [hOpened.unsealed] using hLater.isSealed hSealed
  notClosing := by
    cases hClosing : before.closing with
    | none => rfl
    | some time => simpa [hOpened.notClosing] using hLater.closing time hClosing

theorem Later.trans (hFirst : Later before middle) (hSecond : Later middle after) :
    Later before after where
  deposit := hFirst.deposit.trans hSecond.deposit
  authorized := hFirst.authorized.trans hSecond.authorized
  spent := hFirst.spent.trans hSecond.spent
  settled := hFirst.settled.trans hSecond.settled
  closing time hTime := hSecond.closing time (hFirst.closing time hTime)
  fixed amount hAmount := hSecond.fixed amount (hFirst.fixed amount hAmount)
  isSealed hSealed := hSecond.isSealed (hFirst.isSealed hSealed)
  funded hFunded := hSecond.funded (hFirst.funded hFunded)
  closedDeposit hFunded hClosed := by
    have hMiddle : ¬middle.Opened := fun hOpened => hClosed (hFirst.opened hFunded hOpened)
    rw [hSecond.closedDeposit (hFirst.funded hFunded) hMiddle, hFirst.closedDeposit hFunded hClosed]
  sealedAuthorized hSealed := by
    have hAfter := hSecond.sealedAuthorized (hFirst.isSealed hSealed)
    have hMiddle := hFirst.sealedAuthorized hSealed
    have hSettled := hSecond.settled
    omega
  sealedSpent hSealed := by
    have hAfter := hSecond.sealedSpent (hFirst.isSealed hSealed)
    have hMiddle := hFirst.sealedSpent hSealed
    have hSettled := hSecond.settled
    omega

theorem Sound.fixed_of_closing (hSound : Sound before) (hNone : before.closing = none) :
    before.fixed = none := by
  cases hFixed : before.fixed with
  | none => rfl
  | some amount => simpa [hNone] using (hSound.fixed amount hFixed).1

theorem Move.sound (hMove : Move before after) (hSound : Sound before) : Sound after := by
  rcases hSound with ⟨hCovered, hEscrowed, hUnfunded, hFixed⟩
  cases hMove with
  | rest => exact ⟨hCovered, hEscrowed, hUnfunded, hFixed⟩
  | @charge authorized spent hOpened hRises hWithin hCharges hSpent =>
      refine ⟨hSpent, le_max_of_le_left hWithin, ?_, ?_⟩
      · intro hNot
        simp [pay, hOpened.funded] at hNot
      · intro amount hAmount
        have hClosing := (hFixed amount hAmount).1
        simp [hOpened.notClosing] at hClosing
  | @redeem amount hFunded hUnsealed hUnfixed hWithin =>
      refine ⟨Nat.add_le_add_right hCovered amount, le_max_of_le_left hWithin, ?_, ?_⟩
      · intro hNot
        simp [pay, hFunded] at hNot
      · intro other hOther
        simp [pay, hUnfixed] at hOther
  | @close authorized spent time hOpened hRises hWithin hCharges hSpent =>
      refine ⟨hSpent, ?_, ?_, ?_⟩
      · rcases hWithin with rfl | hWithin
        · exact hEscrowed
        · exact le_max_of_le_left hWithin
      · intro hNot
        simp [pay, hOpened.funded] at hNot
      · intro amount hAmount
        cases hAmount
        exact ⟨rfl, le_rfl, le_max_left _ _⟩
  | @topUp amount hOpened =>
      refine ⟨hCovered, ?_, ?_, hFixed⟩
      · simp only
        omega
      · intro hNot
        simp [hOpened.funded] at hNot
  | @observe settled closing isSealed hFunded hMore hKeepsTime hKeepsSeal =>
      refine ⟨hCovered, ?_, ?_, ?_⟩
      · simp only
        omega
      · intro hNot
        simp [hFunded] at hNot
      · intro amount hAmount
        rcases hFixed amount hAmount with ⟨hClosing, hBelow, hAbove⟩
        rcases Option.isSome_iff_exists.mp hClosing with ⟨time, hTime⟩
        refine ⟨by simp [hKeepsTime time hTime], hBelow, ?_⟩
        simp only
        omega
  | @adopt deposit settled =>
      refine ⟨?_, ?_, ?_, ?_⟩
      · simp only [Account.adopt]
        omega
      · simp only [Account.adopt]
        split
        · omega
        · rename_i hNot
          have hZero := hUnfunded (by simpa using hNot)
          omega
      · simp [Account.adopt]
      · intro amount hAmount
        rcases hFixed amount hAmount with ⟨hClosing, hBelow, hAbove⟩
        refine ⟨hClosing, ?_, ?_⟩
        · simp only [Account.adopt]
          omega
        · simp only [Account.adopt]
          omega

theorem Move.later (hMove : Move before after) (hSound : Sound before) : Later before after := by
  cases hMove with
  | rest => exact .refl before
  | @charge authorized spent hOpened hRises hWithin hCharges hSpent =>
      exact { Later.refl before with
        authorized := hRises
        spent := hCharges
        closedDeposit := fun _ hClosed => absurd hOpened hClosed
        sealedAuthorized := fun hSealed => by simp [hOpened.unsealed] at hSealed
        sealedSpent := fun hSealed => by simp [hOpened.unsealed] at hSealed }
  | @redeem amount hFunded hUnsealed hUnfixed hWithin =>
      exact { Later.refl before with
        authorized := Nat.le_add_right _ _
        spent := Nat.le_add_right _ _
        sealedAuthorized := fun hSealed => by simp [hUnsealed] at hSealed
        sealedSpent := fun hSealed => by simp [hUnsealed] at hSealed }
  | @close authorized spent time hOpened hRises hWithin hCharges hSpent =>
      exact { Later.refl before with
        authorized := hRises
        spent := hCharges
        closing := fun other hOther => by simp [hOpened.notClosing] at hOther
        fixed := fun other hOther => by
          simp [hSound.fixed_of_closing hOpened.notClosing] at hOther
        closedDeposit := fun _ hClosed => absurd hOpened hClosed
        sealedAuthorized := fun hSealed => by simp [hOpened.unsealed] at hSealed
        sealedSpent := fun hSealed => by simp [hOpened.unsealed] at hSealed }
  | @topUp amount hOpened =>
      exact { Later.refl before with
        deposit := Nat.le_add_right _ _
        closedDeposit := fun _ hClosed => absurd hOpened hClosed }
  | @observe settled closing isSealed hFunded hMore hKeepsTime hKeepsSeal =>
      exact { Later.refl before with
        settled := hMore
        closing := hKeepsTime
        isSealed := hKeepsSeal
        sealedAuthorized := fun _ => le_max_left _ _
        sealedSpent := fun _ => le_max_left _ _ }
  | @adopt deposit settled =>
      exact { Later.refl before with
        deposit := by
          simp only [Account.adopt]
          split
          · exact le_rfl
          · rename_i hNot
            rw [(hSound.unfunded (by simpa using hNot)).1]
            exact Nat.zero_le _
        authorized := le_max_left _ _
        spent := le_max_left _ _
        settled := le_max_left _ _
        funded := fun _ => rfl
        closedDeposit := fun hFunded _ => if_pos hFunded
        sealedAuthorized := fun _ => by
          simp only [Account.adopt]
          omega
        sealedSpent := fun _ => by
          simp only [Account.adopt]
          omega }

end PayKit.Accounting
