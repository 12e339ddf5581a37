import PayKit.Exact.Settlement

/-!
# One grant for each settled payment

The ledger says `true` for a signature while someone holds it: a call that was granted, or
a charge that claimed it and has not given it back. Only a confirmation or a claim makes it
say so, which finds it saying something else, and only a release by the holder ends it. So
two calls never hold one signature, whatever their markers went through before.

That a marker is pending says nothing about who holds it, and the invariant does not
mention it.
-/

namespace PayKit.Exact

open Concurrency Rpc Store X402

variable {Caller : Type}

/-- The key and the value that a call writes. -/
def puts : (call : SettleCall) → SettleReply call → Option (String × Value)
  | .store (.putIfAbsent key value), true => some (key, value)
  | .store (.putIfEq key _ value), true => some (key, value)
  | _, _ => none

/-- The call by which a holder gives a signature back. -/
def giveUp (signature : String) : SettleCall :=
  .store (.putIfEq (consumedSignatureKey signature) (some (.bool true)) releasedMarker)

theorem giveUp_injective : Function.Injective giveUp := by
  intro signature other hSame
  simp only [giveUp, SettleCall.store.injEq, Call.putIfEq.injEq] at hSame
  exact consumedSignatureKey_injective hSame.1

/-- The caller made the ledger say that the signature is consumed. -/
def Took (history : List (SettleEvent Caller)) (caller : Caller) (signature : String) : Prop :=
  Did history caller fun call reply =>
    puts call reply = some (consumedSignatureKey signature, .bool true)

def GaveUp (history : List (SettleEvent Caller)) (caller : Caller) (signature : String) : Prop :=
  Did history caller fun call _ => call = giveUp signature

/-- The caller took the signature and did not give it back. -/
def Holds (history : List (SettleEvent Caller)) (caller : Caller) (signature : String) : Prop :=
  Took history caller signature ∧ ¬GaveUp history caller signature

/-- The node says that the transaction succeeded. -/
def tellsSuccess (signature : String) : (call : SettleCall) → SettleReply call → Prop
  | .rpc (.signatureStatus other _), .ok (some .succeeded) => other = signature
  | _, _ => False

/-- The caller was told that the transaction succeeded. -/
def SawSuccess (history : List (SettleEvent Caller)) (caller : Caller) (signature : String) :
    Prop :=
  Did history caller (tellsSuccess signature)

structure GrantInvariant (world : SettleWorld Caller) : Prop where
  held : ∀ caller signature, Holds world.history caller signature →
    world.state.store.entries (consumedSignatureKey signature) = some (.bool true)
  oneHolder : ∀ left right signature, Holds world.history left signature →
    Holds world.history right signature → left = right
  landed : ∀ caller signature, SawSuccess world.history caller signature →
    (world.state.landings signature).Succeeded

/-- A call that some party may make: no ledger key is deleted, and one that says consumed
is only ever released. -/
def Lawful : SettleCall → Prop
  | .store (.get _) => True
  | .store (.putIfAbsent _ _) => True
  | .store (.putIfEq _ expected value) => expected = some (.bool true) → value = releasedMarker
  | .store (.delete key) => ∀ signature, key ≠ consumedSignatureKey signature
  | .store _ => False
  | .rpc _ => True
  | .chain _ => True

/-- A lawful call that gives no signature back. -/
def Quiet (call : SettleCall) : Prop :=
  Lawful call ∧ ∀ signature, call ≠ giveUp signature

section

variable {call : SettleCall} {reply : SettleReply call} {before after : SettleState}
  {history : List (SettleEvent Caller)} {mover caller : Caller} {signature : String}

theorem succeeded_of_told (hEffect : effect call before reply after)
    (hTold : tellsSuccess signature call reply) : (before.landings signature).Succeeded := by
  cases call with
  | store call => exact hTold.elim
  | chain other => exact hTold.elim
  | rpc call =>
      cases call with
      | sendTransaction other => exact hTold.elim
      | isBlockhashValid other => exact hTold.elim
      | signatureStatus other searched =>
          rcases reply with error | _ | succeeded | error
          · exact hTold.elim
          · exact hTold.elim
          · obtain rfl : other = signature := hTold
            exact hEffect.1.2 rfl
          · exact hTold.elim

theorem entry_of_taken (hEffect : effect call before reply after) (hLawful : Lawful call)
    (hPuts : puts call reply = some (consumedSignatureKey signature, .bool true)) :
    before.store.entries (consumedSignatureKey signature) ≠ some (.bool true) ∧
      after.store.entries (consumedSignatureKey signature) = some (.bool true) := by
  cases call with
  | rpc call => simp [puts] at hPuts
  | chain other => simp [puts] at hPuts
  | store call =>
      cases call with
      | putIfAbsent key value =>
          rcases hEffect.1 with ⟨hAbsent, rfl, hAfter⟩ | ⟨-, rfl, -⟩
          · simp only [puts, Option.some.injEq, Prod.mk.injEq] at hPuts
            rcases hPuts with ⟨rfl, rfl⟩
            rw [hAfter]
            simp [hAbsent]
          · simp [puts] at hPuts
      | putIfEq key expected value =>
          rcases hEffect.1 with ⟨hExpected, rfl, hAfter⟩ | ⟨-, rfl, -⟩
          · simp only [puts, Option.some.injEq, Prod.mk.injEq] at hPuts
            rcases hPuts with ⟨rfl, rfl⟩
            refine ⟨?_, by rw [hAfter, Backend.setEntry_entries_self]⟩
            intro hTrue
            have hReleased := hLawful (hExpected.symm.trans hTrue)
            simp [releasedMarker] at hReleased
          · simp [puts] at hPuts
      | _ => simp [puts] at hPuts

theorem entry_kept (hEffect : effect call before reply after) (hLawful : Lawful call)
    (hEntry : before.store.entries (consumedSignatureKey signature) = some (.bool true))
    (hKept : call ≠ giveUp signature) :
    after.store.entries (consumedSignatureKey signature) = some (.bool true) := by
  cases call with
  | rpc call => rw [hEffect.2, hEntry]
  | chain other => rw [hEffect.1, hEntry]
  | store call =>
      cases call with
      | get key => rw [hEffect.1.2, hEntry]
      | delete key =>
          rw [show after.store = _ from hEffect.1,
            Backend.setEntry_entries_of_ne _ _ (hLawful signature).symm, hEntry]
      | putIfAbsent key value =>
          rcases hEffect.1 with ⟨hAbsent, -, hAfter⟩ | ⟨-, -, hAfter⟩
          · have hOther : consumedSignatureKey signature ≠ key := by
              rintro rfl
              simp [hEntry] at hAbsent
            rw [hAfter, Backend.setEntry_entries_of_ne _ _ hOther, hEntry]
          · rw [hAfter, hEntry]
      | putIfEq key expected value =>
          rcases hEffect.1 with ⟨hExpected, -, hAfter⟩ | ⟨-, -, hAfter⟩
          · have hOther : consumedSignatureKey signature ≠ key := by
              rintro rfl
              obtain rfl : some (.bool true) = expected := hEntry.symm.trans hExpected
              exact hKept (by rw [giveUp, hLawful rfl])
            rw [hAfter, Backend.setEntry_entries_of_ne _ _ hOther, hEntry]
          · rw [hAfter, hEntry]
      | sendTransaction other => exact hLawful.elim
      | signatureStatus other => exact hLawful.elim
      | clientBroadcast other => exact hLawful.elim

theorem succeeded_kept (hEffect : effect call before reply after)
    (hSucceeded : (before.landings signature).Succeeded) :
    (after.landings signature).Succeeded := by
  cases call with
  | store call => rwa [hEffect.2]
  | chain other =>
      rcases hEffect.2 with ⟨next, hAdvances, hAfter⟩
      rw [hAfter]
      by_cases hSame : signature = other
      · subst hSame
        simpa using hSucceeded.advances hAdvances
      · simpa [Function.update_of_ne hSame] using hSucceeded
  | rpc call =>
      rcases landing_of_effect hEffect.1 signature with hSame | ⟨-, hForwarded⟩
      · rwa [hSame]
      · rw [hForwarded]
        exact hSucceeded.forward

theorem holds_of_cons (hHolds : Holds (⟨mover, call, reply⟩ :: history) caller signature) :
    (mover = caller ∧ puts call reply = some (consumedSignatureKey signature, .bool true)) ∨
      Holds history caller signature := by
  rcases hHolds with ⟨hTook, hKept⟩
  rcases did_cons.mp hTook with hNow | hBefore
  · exact .inl hNow
  · exact .inr ⟨hBefore, fun hGaveUp => hKept (did_cons.mpr (.inr hGaveUp))⟩

theorem GrantInvariant.step {world : SettleWorld Caller} (hInvariant : GrantInvariant world)
    (hEffect : effect call world.state reply after) (hLawful : Lawful call)
    (hHolder : ∀ signature, call = giveUp signature → Holds world.history mover signature) :
    GrantInvariant (world.record ⟨mover, call, reply⟩ after) where
  held caller signature hHolds := by
    rcases holds_of_cons hHolds with ⟨rfl, hPuts⟩ | hBefore
    · exact (entry_of_taken hEffect hLawful hPuts).2
    · apply entry_kept hEffect hLawful (hInvariant.held caller signature hBefore)
      intro hGiveUp
      obtain rfl := hInvariant.oneHolder mover caller signature (hHolder signature hGiveUp) hBefore
      exact hHolds.2 (did_self hGiveUp)
  oneHolder left right signature hLeft hRight := by
    rcases holds_of_cons hLeft with ⟨rfl, hPuts⟩ | hLeftBefore
    · rcases holds_of_cons hRight with ⟨rfl, -⟩ | hRightBefore
      · rfl
      · exact absurd (hInvariant.held right signature hRightBefore)
          (entry_of_taken hEffect hLawful hPuts).1
    · rcases holds_of_cons hRight with ⟨rfl, hPuts⟩ | hRightBefore
      · exact absurd (hInvariant.held left signature hLeftBefore)
          (entry_of_taken hEffect hLawful hPuts).1
      · exact hInvariant.oneHolder left right signature hLeftBefore hRightBefore
  landed caller signature hSaw := by
    apply succeeded_kept hEffect
    rcases did_cons.mp hSaw with ⟨-, hTold⟩ | hBefore
    · exact succeeded_of_told hEffect hTold
    · exact hInvariant.landed caller signature hBefore

end

/-! ### The calls of the parties -/

/-- Calls answered in any way the store, the node and the chain allow, in any order. -/
def anyOrder : Environment Caller SettleState SettleCall SettleReply where
  effect := effect
  allowed _ _ := True

section

variable {signature : String}

theorem quiet_putIfEq {key : String} {expected value : Value} (hExpected : expected ≠ .bool true) :
    Quiet (.store (.putIfEq key (some expected) value)) := by
  refine ⟨fun hSame => absurd (Option.some.inj hSame) hExpected, ?_⟩
  intro other hSame
  simp only [giveUp, SettleCall.store.injEq, Call.putIfEq.injEq, Option.some.injEq] at hSame
  exact hExpected hSame.2.1

theorem quiet_putIfAbsent {key : String} {value : Value} :
    Quiet (.store (.putIfAbsent key value)) :=
  ⟨trivial, fun _ => by simp [giveUp]⟩

theorem quiet_delete {key : String} (hKey : key ∈ legacyConsumedSignatureKeys signature) :
    Quiet (.store (.delete key)) := by
  refine ⟨?_, fun _ => by simp [giveUp]⟩
  rintro other rfl
  exact consumedSignatureKey_not_mem_legacy other signature hKey

theorem ledger_uses {Result : Type} {operation : StoreM Result} {quiet : SettleCall → Prop}
    (hUses : operation.run.Uses fun call => quiet (.store call)) :
    (ledger operation).Uses quiet :=
  hUses.within

theorem node_uses {Result : Type} (program : RpcM Result) : (node program).Uses Quiet := by
  induction program with
  | done result => trivial
  | perform call next hInduction =>
      exact ⟨⟨trivial, fun _ => by simp [giveUp]⟩, hInduction⟩

theorem giveBack_uses {keys : List String}
    (hKeys : ∀ key ∈ keys, key ∈ legacyConsumedSignatureKeys signature) :
    (ConsumedSignatures.giveBack keys).run.Uses fun call => Quiet (.store call) := by
  induction keys with
  | nil => trivial
  | cons key keys hInduction =>
      rw [List.forall_mem_cons] at hKeys
      exact ⟨quiet_delete hKeys.1, fun _ => hInduction hKeys.2⟩

theorem claimLedgerKey_uses {value : Value} {taken : List String}
    (hTaken : ∀ key ∈ taken, key ∈ legacyConsumedSignatureKeys signature) :
    (ConsumedSignatures.claimLedgerKey signature value taken).run.Uses
      fun call => Quiet (.store call) := by
  refine ⟨quiet_putIfAbsent, ?_⟩
  intro inserted
  cases inserted with
  | true => trivial
  | false =>
      refine ⟨quiet_putIfEq (by simp [releasedMarker]), ?_⟩
      intro swapped
      cases swapped with
      | true => trivial
      | false => exact Fallible.uses_bind (giveBack_uses hTaken) fun _ => trivial

theorem claimFrom_uses {value : Value} {taken keys : List String}
    (hTaken : ∀ key ∈ taken, key ∈ legacyConsumedSignatureKeys signature)
    (hKeys : ∀ key ∈ keys, key ∈ legacyConsumedSignatureKeys signature) :
    (ConsumedSignatures.claimFrom signature value taken keys).run.Uses
      fun call => Quiet (.store call) := by
  induction keys generalizing taken with
  | nil => exact claimLedgerKey_uses hTaken
  | cons key keys hInduction =>
      rw [List.forall_mem_cons] at hKeys
      refine ⟨quiet_putIfAbsent, ?_⟩
      intro inserted
      cases inserted with
      | true =>
          apply hInduction _ hKeys.2
          intro other hOther
          rcases List.mem_append.mp hOther with hBefore | hNow
          · exact hTaken other hBefore
          · rw [List.mem_singleton.mp hNow]
            exact hKeys.1
      | false => exact Fallible.uses_bind (giveBack_uses hTaken) fun _ => trivial

theorem claimWith_uses {value : Value} :
    (ConsumedSignatures.claimWith signature value).run.Uses fun call => Quiet (.store call) :=
  claimFrom_uses (by simp) fun _ => id

theorem claimPending_uses :
    (ConsumedSignatures.claimPending signature).run.Uses fun call => Quiet (.store call) := by
  apply Fallible.uses_bind claimWith_uses
  intro claimed
  cases claimed with
  | true => trivial
  | false =>
      refine ⟨⟨trivial, fun _ => by simp [giveUp]⟩, ?_⟩
      intro value
      show (ite _ _ _ : StoreM PendingClaim).run.Uses _
      split <;> trivial

theorem releasePending_uses :
    (ConsumedSignatures.releasePending signature).run.Uses fun call => Quiet (.store call) := by
  refine ⟨quiet_putIfEq (by simp [pendingMarker]), ?_⟩
  intro swapped
  cases swapped with
  | true => exact Fallible.uses_bind (giveBack_uses fun _ => id) fun _ => trivial
  | false => trivial

theorem confirm_uses :
    (ConsumedSignatures.confirm signature).run.Uses fun call => Quiet (.store call) :=
  ⟨quiet_putIfEq (by simp [pendingMarker]), fun _ => trivial⟩

theorem concludeSettlement_uses (broadcast : Broadcast Settled) :
    (concludeSettlement signature broadcast).Uses Quiet := by
  rcases broadcast with _ | failure | settled
  · trivial
  · cases failure with
    | unknown error => trivial
    | notLanded error => exact (ledger_uses releasePending_uses).bind fun _ => trivial
    | failedOnChain error => exact (ledger_uses releasePending_uses).bind fun _ => trivial
  · cases settled with
    | confirmed confirmed =>
        apply (ledger_uses confirm_uses).bind
        rintro (error | swapped)
        · trivial
        · cases swapped <;> trivial
    | alreadyLanded confirmed =>
        apply (ledger_uses confirm_uses).bind
        rintro (error | swapped) <;> trivial

theorem settleClaimed_uses {prior : PriorBroadcast} {rounds : ℕ} :
    (settleClaimed signature prior rounds).Uses Quiet :=
  (node_uses _).bind concludeSettlement_uses

theorem consumeSignature_uses : (consumeSignature signature).Uses Quiet := by
  apply (ledger_uses claimWith_uses).bind
  rintro (error | claimed)
  · trivial
  · cases claimed <;> trivial

theorem settleExact_uses (payment : VerifiedExactPayment) (rounds : ℕ) :
    (settleExact payment rounds).Uses Quiet := by
  cases payment with
  | signature signature =>
      apply consumeSignature_uses.bind
      rintro (error | -) <;> trivial
  | transaction cosigned =>
      cases cosigned with
      | error error => trivial
      | ok signature =>
          apply (ledger_uses claimPending_uses).bind
          rintro (error | claimed)
          · trivial
          · cases claimed with
            | consumed => trivial
            | fresh => exact settleClaimed_uses
            | resumePending => exact settleClaimed_uses

end

/-! ### What an answer stands for -/

section

variable {Result : Type} {caller : Caller} {signature : String} {before : SettleWorld Caller}
  {post : Result → SettleWorld Caller → Prop}

/-- The program keeps the invariant and ends in the postcondition, in any order. -/
abbrev SettlesTo (caller : Caller) (post : Result → SettleWorld Caller → Prop)
    (program : SettleM Result) (before : SettleWorld Caller) : Prop :=
  anyOrder.Safe GrantInvariant caller (fun _ => True) post program before

theorem settlesTo_perform {call : SettleCall} {next : SettleReply call → SettleM Result}
    (hQuiet : Quiet call)
    (hNext : ∀ (now : SettleWorld Caller) reply state,
      GrantInvariant (now.record ⟨caller, call, reply⟩ state) →
        SettlesTo caller post (next reply) (now.record ⟨caller, call, reply⟩ state)) :
    SettlesTo caller post (.perform call next) before := by
  intro now hInterferes
  refine ⟨trivial, ?_⟩
  intro reply state hEffect _
  have hKept : GrantInvariant (now.record ⟨caller, call, reply⟩ state) :=
    hInterferes.1.step hEffect hQuiet.1 fun other hGiveUp => absurd hGiveUp (hQuiet.2 other)
  exact ⟨hKept, hNext now reply state hKept⟩

theorem settlesTo_of_uses {program : SettleM Result} (hUses : program.Uses Quiet) :
    SettlesTo caller (fun _ _ => True) program before := by
  refine Environment.Safe.of_quiet ?_ hUses
  intro world call reply state hInvariant hQuiet hEffect _
  exact hInvariant.step hEffect hQuiet.1 fun other hGiveUp => absurd hGiveUp (hQuiet.2 other)

/-- A claim was taken by the caller, if the answer says so. -/
abbrev TakenIfTrue (caller : Caller) (signature : String) (outcome : Except StoreError Bool)
    (world : SettleWorld Caller) : Prop :=
  outcome = .ok true → Took world.history caller signature

theorem settlesTo_refused {keys : List String}
    (hKeys : ∀ key ∈ keys, key ∈ legacyConsumedSignatureKeys signature) :
    SettlesTo caller (TakenIfTrue caller signature) (ledger (do
      ConsumedSignatures.giveBack keys
      return false)) before := by
  induction keys generalizing before with
  | nil =>
      intro world _ hTrue
      cases hTrue
  | cons key keys hInduction =>
      rw [List.forall_mem_cons] at hKeys
      exact settlesTo_perform (quiet_delete hKeys.1) fun _ _ _ _ => hInduction hKeys.2

theorem settlesTo_taken (hTook : Took before.history caller signature) :
    SettlesTo caller (TakenIfTrue caller signature) (.done (.ok true)) before :=
  fun _ hInterferes _ => hTook.suffix hInterferes.suffix

theorem settlesTo_claimLedgerKey {taken : List String}
    (hTaken : ∀ key ∈ taken, key ∈ legacyConsumedSignatureKeys signature) :
    SettlesTo caller (TakenIfTrue caller signature)
      (ledger (ConsumedSignatures.claimLedgerKey signature (.bool true) taken)) before := by
  apply settlesTo_perform quiet_putIfAbsent
  intro _ inserted _ _
  cases inserted with
  | true => exact settlesTo_taken (did_self rfl)
  | false =>
      apply settlesTo_perform (quiet_putIfEq (by simp [releasedMarker]))
      intro _ swapped _ _
      cases swapped with
      | true => exact settlesTo_taken (did_self rfl)
      | false => exact settlesTo_refused hTaken

theorem settlesTo_claimFrom {taken keys : List String}
    (hTaken : ∀ key ∈ taken, key ∈ legacyConsumedSignatureKeys signature)
    (hKeys : ∀ key ∈ keys, key ∈ legacyConsumedSignatureKeys signature) :
    SettlesTo caller (TakenIfTrue caller signature)
      (ledger (ConsumedSignatures.claimFrom signature (.bool true) taken keys)) before := by
  induction keys generalizing taken before with
  | nil => exact settlesTo_claimLedgerKey hTaken
  | cons key keys hInduction =>
      rw [List.forall_mem_cons] at hKeys
      apply settlesTo_perform quiet_putIfAbsent
      intro _ inserted _ _
      cases inserted with
      | true =>
          apply hInduction _ hKeys.2
          intro other hOther
          rcases List.mem_append.mp hOther with hBefore | hNow
          · exact hTaken other hBefore
          · rw [List.mem_singleton.mp hNow]
            exact hKeys.1
      | false => exact settlesTo_refused hTaken

theorem settlesTo_claim : SettlesTo caller (TakenIfTrue caller signature)
    (ledger (ConsumedSignatures.claim signature)) before :=
  settlesTo_claimFrom (by simp) fun _ => id

theorem settlesTo_confirm : SettlesTo caller (TakenIfTrue caller signature)
    (ledger (ConsumedSignatures.confirm signature)) before := by
  apply settlesTo_perform (quiet_putIfEq (by simp [pendingMarker]))
  intro _ swapped _ _
  cases swapped with
  | true => exact settlesTo_taken (did_self rfl)
  | false =>
      intro world _ hTrue
      cases hTrue

/-- The caller was told of the success that it reports. -/
abbrev SawIfConfirmed (caller : Caller) (signature : String) (broadcast : Broadcast Settled)
    (world : SettleWorld Caller) : Prop :=
  ∀ confirmed, broadcast = some (.ok (.confirmed confirmed)) →
    SawSuccess world.history caller signature

theorem settlesTo_unconfirmed {broadcast : Broadcast Settled}
    (hUnconfirmed : ∀ confirmed, broadcast ≠ some (.ok (.confirmed confirmed))) :
    SettlesTo caller (SawIfConfirmed caller signature) (.done broadcast) before :=
  fun _ _ confirmed hConfirmed => absurd hConfirmed (hUnconfirmed confirmed)

theorem settlesTo_seen {broadcast : Broadcast Settled}
    (hSaw : SawSuccess before.history caller signature) :
    SettlesTo caller (SawIfConfirmed caller signature) (.done broadcast) before :=
  fun _ hInterferes _ _ => hSaw.suffix hInterferes.suffix

theorem quiet_rpc (call : RpcCall) : Quiet (.rpc call) :=
  ⟨trivial, fun _ => by simp [giveUp]⟩

theorem settlesTo_confirmSettlement {rounds : ℕ} :
    SettlesTo caller (SawIfConfirmed caller signature)
      (node (confirmSettlement signature rounds)) before := by
  induction rounds generalizing before with
  | zero => exact settlesTo_unconfirmed (by simp)
  | succ rounds hInduction =>
      apply settlesTo_perform (quiet_rpc _)
      rintro _ (error | _ | succeeded | failed) _ _
      · exact settlesTo_unconfirmed (by simp)
      · apply settlesTo_perform (quiet_rpc _)
        rintro _ (error | valid) _ _
        · exact settlesTo_unconfirmed (by simp)
        cases valid with
        | true => exact hInduction
        | false =>
            apply settlesTo_perform (quiet_rpc _)
            rintro _ (error | _ | succeeded | failed) _ _
            · exact settlesTo_unconfirmed (by simp)
            · exact settlesTo_unconfirmed (by simp)
            · exact hInduction
            · exact settlesTo_unconfirmed (by simp)
      · exact settlesTo_seen (did_self rfl)
      · exact settlesTo_unconfirmed (by simp)

theorem settlesTo_sendAndConfirm {prior : PriorBroadcast} {rounds : ℕ} :
    SettlesTo caller (SawIfConfirmed caller signature)
      (node (sendAndConfirmSettlement signature prior rounds)) before := by
  apply settlesTo_perform (quiet_rpc _)
  rintro _ (_ | ⟨preflight, error⟩ | error) _ _
  · exact settlesTo_confirmSettlement
  · apply settlesTo_perform (quiet_rpc _)
    rintro _ (other | _ | succeeded | failed) _ _
    · exact settlesTo_unconfirmed (by simp)
    · exact settlesTo_unconfirmed (by simp)
    · show SettlesTo _ _ (node (ite _ _ _)) _
      split
      · exact settlesTo_unconfirmed (by simp)
      · exact settlesTo_confirmSettlement
    · exact settlesTo_unconfirmed (by simp)
  · exact settlesTo_unconfirmed (by simp)

/-- A grant, when the answer is one, is taken by the caller for a success it saw. -/
abbrev Paid (caller : Caller) (signature : String) (answer : Answer)
    (world : SettleWorld Caller) : Prop :=
  ∀ receipt, answer = some (.ok receipt) →
    Took world.history caller signature ∧ SawSuccess world.history caller signature

theorem settlesTo_unpaid {answer : Answer} (hUnpaid : ∀ receipt, answer ≠ some (.ok receipt)) :
    SettlesTo caller (Paid caller signature) (.done answer) before :=
  fun _ _ receipt hPaid => absurd hPaid (hUnpaid receipt)

theorem settlesTo_concludeSettlement {broadcast : Broadcast Settled}
    (hInvariant : GrantInvariant before)
    (hSaw : SawIfConfirmed caller signature broadcast before) :
    SettlesTo caller (Paid caller signature) (concludeSettlement signature broadcast) before := by
  rcases broadcast with _ | failure | settled
  · exact settlesTo_unpaid (by simp)
  · cases failure with
    | unknown error => exact settlesTo_unpaid (by simp)
    | notLanded error =>
        apply Environment.Safe.bind hInvariant (settlesTo_of_uses (ledger_uses releasePending_uses))
        exact fun _ _ _ _ _ => settlesTo_unpaid (by simp)
    | failedOnChain error =>
        apply Environment.Safe.bind hInvariant (settlesTo_of_uses (ledger_uses releasePending_uses))
        exact fun _ _ _ _ _ => settlesTo_unpaid (by simp)
  · cases settled with
    | confirmed confirmed =>
        apply Environment.Safe.bind hInvariant settlesTo_confirm
        rintro (error | swapped) world _ hSuffix hTook
        · exact settlesTo_unpaid (by simp)
        cases swapped with
        | true =>
            intro later hInterferes _ _
            have hSeen := (hSaw confirmed rfl).suffix hSuffix
            exact ⟨(hTook rfl).suffix hInterferes.suffix, hSeen.suffix hInterferes.suffix⟩
        | false => exact settlesTo_unpaid (by simp)
    | alreadyLanded confirmed =>
        apply Environment.Safe.bind hInvariant settlesTo_confirm
        rintro (error | swapped) _ _ _ _ <;> exact settlesTo_unpaid (by simp)

theorem settlesTo_settleClaimed {prior : PriorBroadcast} {rounds : ℕ}
    (hInvariant : GrantInvariant before) :
    SettlesTo caller (Paid caller signature) (settleClaimed signature prior rounds) before := by
  apply Environment.Safe.bind hInvariant settlesTo_sendAndConfirm
  intro broadcast world hNow _ hSaw
  exact settlesTo_concludeSettlement hNow hSaw

theorem settlesTo_transaction {rounds : ℕ} (hInvariant : GrantInvariant before) :
    SettlesTo caller (Paid caller signature)
      (settleExact (.transaction (.ok signature)) rounds) before := by
  apply Environment.Safe.bind hInvariant (settlesTo_of_uses (ledger_uses claimPending_uses))
  rintro (error | claimed) world hNow _ _
  · exact settlesTo_unpaid (by simp)
  · cases claimed with
    | consumed => exact settlesTo_unpaid (by simp)
    | fresh => exact settlesTo_settleClaimed hNow
    | resumePending => exact settlesTo_settleClaimed hNow

theorem settlesTo_consumeSignature (hInvariant : GrantInvariant before) :
    SettlesTo caller (fun outcome world => outcome = .ok () →
      Took world.history caller signature) (consumeSignature signature) before := by
  apply Environment.Safe.bind hInvariant settlesTo_claim
  rintro (error | claimed) world _ _ hTook
  · intro _ _ hOk
    cases hOk
  · cases claimed with
    | true => exact fun _ hInterferes _ => (hTook rfl).suffix hInterferes.suffix
    | false =>
        intro _ _ hOk
        cases hOk

theorem settlesTo_pushProgram : SettlesTo caller (Paid caller signature)
    (Role.pushProgram signature) before := by
  apply settlesTo_perform (quiet_rpc _)
  rintro now (error | _ | succeeded | failed) state hKept
  · exact settlesTo_unpaid (by simp)
  · exact settlesTo_unpaid (by simp)
  · have hSaw : SawSuccess (now.record ⟨caller, .rpc (.signatureStatus signature true),
        .ok (some .succeeded)⟩ state).history caller signature := did_self rfl
    apply Environment.Safe.bind hKept (settlesTo_consumeSignature hKept)
    rintro (error | ⟨⟩) world _ hSuffix hTook
    · exact settlesTo_unpaid (by simp)
    · intro later hInterferes _ _
      have hSeen := hSaw.suffix hSuffix
      exact ⟨(hTook rfl).suffix hInterferes.suffix, hSeen.suffix hInterferes.suffix⟩
  · exact settlesTo_unpaid (by simp)

end

/-! ### The parties -/

namespace Role

variable {caller : Caller} {signature : String} {before : SettleWorld Caller}

/-- What a party's answer stands for. -/
def Answered (role : Role) (caller : Caller) (answer : Answer) (world : SettleWorld Caller) :
    Prop :=
  ∀ signature, role.pays = some signature → ∀ receipt, answer = some (.ok receipt) →
    Holds world.history caller signature ∧ SawSuccess world.history caller signature

theorem not_gaveUp (hFresh : before.history = []) {after : SettleWorld Caller}
    (hQuiet : Environment.QuietSince Quiet caller before after) :
    ¬GaveUp after.history caller signature := by
  rintro ⟨event, hEvent, hOwn, hGiveUp⟩
  have hLoud : ¬Quiet event.call := fun hQuietCall => hQuietCall.2 signature hGiveUp
  have hBefore := hQuiet.mem_before hOwn hLoud hEvent
  simp [hFresh] at hBefore

theorem answered_of_paid {role : Role} {program : SettleM Answer}
    (hPays : role.pays = some signature) (hFresh : before.history = [])
    (hPaid : SettlesTo caller (Paid caller signature) program before)
    (hUses : program.Uses Quiet) : SettlesTo caller (role.Answered caller) program before := by
  apply (hPaid.frame hUses).weaken
  rintro answer world _ _ ⟨hAnswer, hQuiet⟩ other hOther receipt hReceipt
  obtain rfl : signature = other := Option.some.inj (hPays.symm.trans hOther)
  rcases hAnswer receipt hReceipt with ⟨hTook, hSaw⟩
  exact ⟨⟨hTook, not_gaveUp hFresh hQuiet⟩, hSaw⟩

theorem answered_of_unpaid {role : Role} {program : SettleM Answer} (hPays : role.pays = none)
    (hSafe : SettlesTo caller (fun _ _ => True) program before) :
    SettlesTo caller (role.Answered caller) program before := by
  apply hSafe.weaken
  intro answer world _ _ _ other hOther
  simp [hPays] at hOther

theorem settlesTo_chargeProgram {releases : Bool} (hInvariant : GrantInvariant before)
    (hFresh : before.history = []) :
    SettlesTo caller (fun _ _ => True) (chargeProgram signature releases) before := by
  apply Environment.Safe.bind hInvariant
    (settlesTo_claim.frame (ledger_uses claimWith_uses))
  rintro (error | claimed) world hNow _ ⟨hTook, hQuiet⟩
  · exact fun _ _ => trivial
  cases claimed with
  | false => exact fun _ _ => trivial
  | true =>
      cases releases with
      | false => exact fun _ _ => trivial
      | true =>
          intro now hInterferes
          refine ⟨trivial, ?_⟩
          intro swapped state hEffect _
          have hHolds : Holds now.history caller signature :=
            ⟨(hTook rfl).suffix hInterferes.suffix, not_gaveUp hFresh (hQuiet.interfere hInterferes)⟩
          refine ⟨hInterferes.1.step hEffect (fun _ => rfl) ?_, ?_⟩
          · intro other hGiveUp
            rwa [← giveUp_injective hGiveUp]
          · cases swapped with
            | true =>
                have hRest : (ledger (do
                    ConsumedSignatures.giveBack (legacyConsumedSignatureKeys signature)
                    return true)).Uses Quiet :=
                  ledger_uses (Fallible.uses_bind (giveBack_uses fun _ => id) fun _ => trivial)
                exact settlesTo_of_uses (hRest.bind fun _ => (trivial : (Program.done none).Uses _))
            | false => exact fun _ _ => trivial

theorem chainProgram_uses {signatures : List String} : (chainProgram signatures).Uses Quiet := by
  induction signatures with
  | nil => trivial
  | cons signature signatures hInduction =>
      exact ⟨⟨trivial, fun _ => by simp [giveUp]⟩, fun _ => hInduction⟩

theorem pushProgram_uses : (pushProgram signature).Uses Quiet := by
  refine ⟨quiet_rpc _, ?_⟩
  rintro (error | _ | succeeded | failed)
  · trivial
  · trivial
  · exact settleExact_uses (.signature signature) 0
  · trivial

theorem settlesTo_program (role : Role) (hInvariant : GrantInvariant before)
    (hFresh : before.history = []) :
    SettlesTo caller (role.Answered caller) role.program before := by
  cases role with
  | pull cosigned rounds =>
      cases cosigned with
      | error error => exact answered_of_unpaid rfl fun _ _ => trivial
      | ok signature =>
          exact answered_of_paid rfl hFresh (settlesTo_transaction hInvariant)
            (settleExact_uses (.transaction (.ok signature)) rounds)
  | push signature => exact answered_of_paid rfl hFresh settlesTo_pushProgram pushProgram_uses
  | charge signature releases =>
      exact answered_of_unpaid rfl (settlesTo_chargeProgram hInvariant hFresh)
  | chain signatures => exact answered_of_unpaid rfl (settlesTo_of_uses chainProgram_uses)

end Role

theorem grantInvariant_start {state : SettleState} :
    GrantInvariant (⟨state, []⟩ : SettleWorld Caller) where
  held _ _ hHolds := absurd hHolds.1 not_did_nil
  oneHolder _ _ _ hHolds := absurd hHolds.1 not_did_nil
  landed _ _ hSaw := absurd hSaw not_did_nil

/-- However the parties interleave, one of them at most is granted a signature, and only
for a transaction that succeeded. -/
theorem one_grant [DecidableEq Caller] (roles : Caller → Role) (state : SettleState)
    {reached : SettleConfig Caller} (hRun : anyOrder.Reachable (startOf roles state) reached)
    (signature : String) :
    (∀ left right, Granted roles reached left signature →
      Granted roles reached right signature → left = right) ∧
    (∀ caller, Granted roles reached caller signature →
      (reached.world.state.landings signature).Succeeded) := by
  have hAnswered : GrantInvariant reached.world ∧ ∀ caller answer,
      reached.threads caller = .done answer →
        (roles caller).Answered caller answer reached.world := by
    have hSafe : ∀ caller, SettlesTo caller ((roles caller).Answered caller)
        ((startOf roles state).threads caller) (startOf roles state).world :=
      fun caller => Role.settlesTo_program (roles caller) grantInvariant_start rfl
    rcases Environment.safe_of_reachable grantInvariant_start hSafe hRun with ⟨hInvariant, hSafe⟩
    refine ⟨hInvariant, ?_⟩
    intro caller answer hDone
    have hCaller := hSafe caller
    rw [hDone] at hCaller
    exact hCaller.post_of_done hInvariant
  rcases hAnswered with ⟨hInvariant, hAnswered⟩
  refine ⟨?_, ?_⟩
  · rintro left right ⟨hLeftPays, leftReceipt, hLeft⟩ ⟨hRightPays, rightReceipt, hRight⟩
    have hLeftHolds := (hAnswered left _ (receiptOf_eq_some.mp hLeft) signature hLeftPays
      leftReceipt rfl).1
    have hRightHolds := (hAnswered right _ (receiptOf_eq_some.mp hRight) signature hRightPays
      rightReceipt rfl).1
    exact hInvariant.oneHolder left right signature hLeftHolds hRightHolds
  · rintro caller ⟨hPays, receipt, hDone⟩
    have hSaw := (hAnswered caller _ (receiptOf_eq_some.mp hDone) signature hPays receipt rfl).2
    exact hInvariant.landed caller signature hSaw

/-! ### A run -/

/-- Two calls that settle one transaction, and the chain. -/
inductive Presenter where
  | first
  | second
  | chain
deriving DecidableEq

def oneTransactionTwice : Presenter → Role
  | .first => .pull (.ok "signature") 2
  | .second => .pull (.ok "signature") 2
  | .chain => .chain ["signature"]

/-- An empty ledger, and a chain that knows of no transaction. -/
def unsettled : SettleState :=
  ⟨⟨fun _ => none, fun _ => none⟩, fun _ => {}⟩

/-- The second call resumes the claim of the first and confirms it before the first does. -/
def resumedGrant : SettleConfig Presenter :=
  (startOf oneTransactionTwice unsettled).runSchedule handle
    (List.replicate 5 (.first, .accepted) ++ List.replicate 3 (.second, .accepted) ++
      [(.first, .accepted), (.chain, .accepted)] ++ List.replicate 2 (.second, .accepted) ++
        List.replicate 2 (.first, .accepted))

theorem one_grant_of_resumedGrant :
    receiptOf resumedGrant .second = some "signature" ∧
      (resumedGrant.world.state.landings "signature").Succeeded ∧
        ∀ caller, Granted oneTransactionTwice resumedGrant caller "signature" →
          caller = .second := by
  have hGiven : receiptOf resumedGrant .second = some "signature" := by decide
  have hGranted : Granted oneTransactionTwice resumedGrant .second "signature" := ⟨rfl, _, hGiven⟩
  have hRun : anyOrder.Reachable (startOf oneTransactionTwice unsettled) resumedGrant :=
    Config.reachable_runSchedule effect_handle _ _
      (Config.permitted_of_unrestricted (fun _ _ => trivial) _ _)
  rcases one_grant oneTransactionTwice unsettled hRun "signature" with ⟨hOne, hLanded⟩
  exact ⟨hGiven, hLanded _ hGranted, fun caller hOther => hOne caller .second hOther hGranted⟩

end PayKit.Exact
