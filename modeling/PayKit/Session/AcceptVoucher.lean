import PayKit.Channel.State
import PayKit.Concurrency.Interleaving
import PayKit.Control.Refusal

/-!
# Accepting a voucher

`accept_voucher` of `core/session.rs` as its two store calls: a snapshot of the
channel record is read and checked, and one atomic update then decides again
under the store's lock. Everything between the two is local.

Whether the signature is the signer's is decided by Ed25519, which is a parameter
here. The updater of the source reports through a flag it captures whether it
found a replay; the update call returns that flag with the new record.
-/

namespace PayKit.Session

open Channel Concurrency Control Machine Store

/-- `Error::Other` of `core`. -/
inductive Error where
  | other (message : String)
deriving DecidableEq

def storeErr (error : StoreError) : Error :=
  .other ("store error: " ++ error.display)

/-- The awaited calls on the record of one channel. -/
inductive ChannelCall where
  | getChannel
  | updateChannel (updater : Option ChannelState → Except StoreError (ChannelState × Bool))

abbrev ChannelReply : ChannelCall → Type
  | .getChannel => Option ChannelState
  | .updateChannel _ => Except StoreError (ChannelState × Bool)

/-- How the store answers: an updater that fails leaves the record as it was. -/
def handle : (call : ChannelCall) → Option ChannelState → ChannelReply call × Option ChannelState
  | .getChannel, record => (record, record)
  | .updateChannel updater, record =>
      match updater record with
      | .ok (updated, flag) => (.ok (updated, flag), some updated)
      | .error error => (.error error, record)

/-- Outcome of accepting a cumulative voucher. -/
structure VoucherAcceptance where
  cumulative : ℕ
  charged : ℕ
  replay : Bool
deriving DecidableEq

/-- A presented voucher with the clock and the policy it is accepted under. -/
structure Voucher where
  newCumulative : ℕ
  expiresAt : ℤ
  signature : String
  now : ℤ
  minVoucherDelta : ℕ
  settlementWindow : ℤ
  requiredAvailability : ℕ
deriving DecidableEq

/-- Ed25519 over the voucher message: channel, cumulative and expiry, the signature
and the authorized signer. It refuses what does not parse. -/
abbrev SignatureCheck := String → ℕ → ℤ → String → String → Except String Unit

section

variable (channelId : String) (checkSignature : SignatureCheck) (voucher : Voucher)

/-- `verify_voucher_signature`: the expiry rules, then the signature. An expiry of `0`
never expires. -/
def verifyVoucherSignature (authorizedSigner : String) : Except Error Unit := do
  refuseIf (voucher.expiresAt ≠ 0 ∧ voucher.expiresAt ≤ voucher.now) (.other "Voucher has expired")
  let settleDeadline := saturatingAddI64 voucher.now (max voucher.settlementWindow 0)
  refuseIf (voucher.expiresAt ≠ 0 ∧ voucher.expiresAt ≤ settleDeadline)
    (.other (s!"Voucher expiry {voucher.expiresAt} does not outlast the settlement window " ++
      s!"(must be > {settleDeadline} = now {voucher.now} + window {voucher.settlementWindow})"))
  (checkSignature channelId voucher.newCumulative voucher.expiresAt voucher.signature
    authorizedSigner).mapError Error.other

/-- The voucher is the highest one accepted: same cumulative and same signature. -/
def Voucher.isReplay (state : ChannelState) : Bool :=
  voucher.newCumulative = state.cumulative ∧
    state.highestVoucherSignature = some voucher.signature

/-- The checks made on the snapshot. -/
def checkSnapshot (state : ChannelState) : Except Error Unit := do
  refuseIf state.sealed (.other "Channel is already sealed")
  refuseIf state.closeRequestedAt.isSome
    (.other "Channel close is pending — no further vouchers accepted")
  let initialReplay := voucher.isReplay state
  refuseIf (¬initialReplay ∧ voucher.newCumulative ≤ state.cumulative)
    (.other
      s!"Voucher cumulative {voucher.newCumulative} must exceed watermark {state.cumulative}")
  refuseIf (state.deposit < voucher.newCumulative)
    (.other s!"Voucher cumulative {voucher.newCumulative} exceeds deposit {state.deposit}")
  let delta := voucher.newCumulative - state.cumulative
  refuseIf (¬initialReplay ∧ 0 < voucher.minVoucherDelta ∧ delta < voucher.minVoucherDelta)
    (.other s!"Voucher delta {delta} is below minimum {voucher.minVoucherDelta}")
  verifyVoucherSignature channelId checkSignature voucher state.authorizedSigner

/-- The updater run under the store's lock. The flag says whether the voucher was a
replay; `commit` is the caller's part of the transition. -/
def commitVoucher (commit : ChannelState → Bool → Except StoreError ChannelState) :
    Option ChannelState → Except StoreError (ChannelState × Bool)
  | none => .error (.internal "Channel not found")
  | some state => do
      refuseIf state.sealed (.internal "Channel is already sealed")
      refuseIf state.closeRequestedAt.isSome
        (.internal "Channel close is pending — no further vouchers accepted")
      if voucher.isReplay state then
        return (← commit state true, true)
      else
        refuseIf (voucher.newCumulative ≤ state.cumulative)
          (.internal "Concurrent update: watermark advanced")
        refuseIf (voucher.newCumulative - state.spentAmount < voucher.requiredAvailability)
          (.internal "insufficient authorized voucher availability")
        let committed ← commit state false
        return ({ committed with
          cumulative := voucher.newCumulative
          highestVoucherSignature := some voucher.signature
          highestVoucherExpiresAt := some voucher.expiresAt }, false)

/-- What the caller is told after the update. The prior watermark is the one of the
snapshot. -/
def acceptance (priorCumulative : ℕ) :
    Except StoreError (ChannelState × Bool) → Except Error VoucherAcceptance
  | .error error => .error (storeErr error)
  | .ok (newState, wasReplay) =>
      .ok
        { cumulative := newState.cumulative
          charged := if wasReplay then 0 else newState.cumulative - priorCumulative
          replay := wasReplay }

def acceptVoucherWithCommit (commit : ChannelState → Bool → Except StoreError ChannelState) :
    Fallible Error ChannelCall ChannelReply VoucherAcceptance := do
  match ← Fallible.request ChannelCall.getChannel with
  | none => throw (.other s!"Channel {channelId} not found")
  | some state =>
      ExceptT.mk (.done (checkSnapshot channelId checkSignature voucher state))
      let updated ← Fallible.request (ChannelCall.updateChannel (commitVoucher voucher commit))
      ExceptT.mk (.done (acceptance state.cumulative updated))

/-- Accept a cumulative voucher against the channel's stored state. -/
def acceptVoucher : Fallible Error ChannelCall ChannelReply VoucherAcceptance :=
  acceptVoucherWithCommit channelId checkSignature voucher fun state _ => .ok state

end

/-! ## What the parts do -/

section

variable {channelId : String} {checkSignature : SignatureCheck} {voucher : Voucher}
  {state : ChannelState}

theorem checkSnapshot_eq_ok
    (hChecked : checkSnapshot channelId checkSignature voucher state = .ok ()) :
    voucher.newCumulative ≤ state.deposit ∧
      (voucher.isReplay state = true ∨ state.cumulative < voucher.newCumulative ∧
        state.cumulative + voucher.minVoucherDelta ≤ voucher.newCumulative) := by
  simp only [checkSnapshot, refuseIf_bind_eq_ok, not_and, not_le, not_lt] at hChecked
  rcases hChecked with ⟨-, -, hExceeds, hDeposit, hDelta, -⟩
  refine ⟨hDeposit, ?_⟩
  by_cases hReplay : voucher.isReplay state = true
  · exact .inl hReplay
  · have hAbove := hExceeds hReplay
    have hMinimum := hDelta hReplay
    right
    omega

/-- The record after a fresh voucher was accepted. -/
def accepted (voucher : Voucher) (state : ChannelState) : ChannelState :=
  { state with
    cumulative := voucher.newCumulative
    highestVoucherSignature := some voucher.signature
    highestVoucherExpiresAt := some voucher.expiresAt }

/-- Under the lock a voucher is a replay, which changes nothing, or raises the
watermark. -/
theorem commitVoucher_eq_ok {record : Option ChannelState} {updated : ChannelState} {flag : Bool}
    (hCommitted : commitVoucher voucher (fun state _ => .ok state) record = .ok (updated, flag)) :
    ∃ state, record = some state ∧
      (flag = true ∧ updated = state ∨
        flag = false ∧ state.cumulative < voucher.newCumulative ∧
          updated = accepted voucher state) := by
  cases record with
  | none => cases hCommitted
  | some state =>
      refine ⟨state, rfl, ?_⟩
      simp only [commitVoucher, refuseIf_bind_eq_ok] at hCommitted
      rcases hCommitted with ⟨-, -, hCommitted⟩
      split at hCommitted
      · simp only [bind, Except.bind, pure, Except.pure, Except.ok.injEq, Prod.mk.injEq]
          at hCommitted
        exact .inl ⟨hCommitted.2.symm, hCommitted.1.symm⟩
      · simp only [refuseIf_bind_eq_ok, not_le] at hCommitted
        rcases hCommitted with ⟨hAbove, -, hCommitted⟩
        simp only [bind, Except.bind, pure, Except.pure, Except.ok.injEq, Prod.mk.injEq]
          at hCommitted
        exact .inr ⟨hCommitted.2.symm, hAbove, hCommitted.1.symm⟩

theorem acceptVoucher_run :
    (acceptVoucher channelId checkSignature voucher).run =
      .perform .getChannel fun record =>
        match record with
        | none => .done (.error (.other s!"Channel {channelId} not found"))
        | some state =>
            match checkSnapshot channelId checkSignature voucher state with
            | .error error => .done (.error error)
            | .ok () =>
                .perform (.updateChannel (commitVoucher voucher fun state _ => .ok state))
                  fun updated => .done (acceptance state.cumulative updated) := by
  simp only [acceptVoucher, acceptVoucherWithCommit, Fallible.run_request_bind]
  congr 1
  funext record
  cases record with
  | none => rfl
  | some state =>
      simp only [ExceptT.run_bind, ExceptT.run_mk]
      cases checkSnapshot channelId checkSignature voucher state with
      | error error => rfl
      | ok checked => rfl

end

end PayKit.Session
