import PayKit.BatchSettlement.TransactionPolicy
import PayKit.Control.Update
import PayKit.Voucher.Signature

/-!
# The client's view of a channel

`BatchChannel` of `x402/client/batch_settlement/payment.rs`: the cumulative amount that
the server has confirmed charging, which the next voucher adds to. It is adopted from a
successful response, from a metered response of a server that signs vouchers itself, or
from the snapshot of a corrective challenge.

The crate's error is kept as its text.
-/

namespace PayKit.BatchSettlement

open Control Machine Solana Tx Voucher

/-! ### The wire types -/

def parseAmount (value field : String) : Except String ℕ :=
  okOr (parseU64 value) ("invalid " ++ field ++ ": " ++ value.quote)

structure BatchVoucher where
  channelId : String
  maxClaimableAmount : String
  expiresAt : ℤ
  signature : String
deriving DecidableEq

def BatchVoucher.maxClaimable (voucher : BatchVoucher) : Except String ℕ :=
  parseAmount voucher.maxClaimableAmount "voucher.maxClaimableAmount"

structure BatchAuthorization where
  channelId : String
  payer : String
  authorizedAmount : String

structure ChannelStateSnapshot where
  channelId : String
  balance : String
  chargedCumulativeAmount : Option String

/-- The signed voucher that a corrective challenge proves its snapshot with. -/
structure VoucherState where
  signedMaxClaimable : String
  expiresAt : ℤ
  signature : String

structure BatchSettlementExtra where
  commitmentId : Option String
  chargedAmount : Option String
  channelState : Option ChannelStateSnapshot
  voucher : Option BatchVoucher

structure BatchSettlementResponse where
  success : Bool
  errorReason : Option String
  extra : Option BatchSettlementExtra

/-- The price of a challenge, and its corrective state when it carries one. -/
structure BatchRequirements where
  amount : String
  channelState : Option ChannelStateSnapshot
  voucherState : Option VoucherState

def batchErr (code detail : String) : String :=
  (⟨code, detail⟩ : BatchError).display

/-! ### Verification of vouchers -/

def voucherExpiresAt : ℤ := 0

section

variable (curve : Ed25519)

def checkVoucherExpiry (expiresAt : ℤ) : Except BatchError Unit :=
  refuseIf (expiresAt ≠ voucherExpiresAt)
    (⟨errors.invalidVoucherExpiry, s!"voucher expiresAt must be 0, got {expiresAt}"⟩ : BatchError)

/-- `verify_voucher_signature` of the scheme: neither clock nor window matter. -/
def verifySchemeSignature (channelId : String) (maxClaimable : ℕ) (expiresAt : ℤ)
    (signature payerAuthorizer : String) : Except BatchError Unit :=
  (verifyVoucherSignature curve channelId maxClaimable expiresAt signature payerAuthorizer 0
    0).mapError (⟨errors.invalidVoucherSignature, ·⟩)

def checkVoucher (voucher : BatchVoucher) (config : BatchChannelConfig) (channelId : Pubkey) :
    Except BatchError ℕ := do
  refuseIf (voucher.channelId ≠ channelId.display)
    (⟨errors.invalidChannelIdMismatch, "voucher.channelId " ++ voucher.channelId ++
      " does not match the derived PDA " ++ channelId.display⟩ : BatchError)
  checkVoucherExpiry voucher.expiresAt
  let maxClaimable ← voucher.maxClaimable.mapError (⟨errors.invalidVoucherSignature, ·⟩)
  verifySchemeSignature curve voucher.channelId maxClaimable voucher.expiresAt voucher.signature
    config.payerAuthorizer
  return maxClaimable

/-- `check_corrective_voucher_state`: the cumulative base the client may adopt. -/
def checkCorrectiveVoucherState (voucherState : VoucherState)
    (channelId payerAuthorizer : String) (chargedCumulativeAmount : ℕ) : Except BatchError ℕ := do
  checkVoucherExpiry voucherState.expiresAt
  let signed ← (parseAmount voucherState.signedMaxClaimable
    "voucherState.signedMaxClaimable").mapError (⟨errors.invalidCumulativeAmountMismatch, ·⟩)
  verifySchemeSignature curve channelId signed voucherState.expiresAt voucherState.signature
    payerAuthorizer
  refuseIf (signed < chargedCumulativeAmount)
    (⟨errors.invalidCumulativeAmountMismatch, s!"corrective chargedCumulativeAmount " ++
      s!"{chargedCumulativeAmount} exceeds the proven signedMaxClaimable {signed}"⟩ : BatchError)
  return chargedCumulativeAmount

/-- `sign_voucher`, by a signer of messages. -/
def signVoucher (signer : List UInt8 → Except String Signature) (channelId : Pubkey)
    (maxClaimable : ℕ) : Except String BatchVoucher := do
  let message := voucherMessageBytes channelId maxClaimable voucherExpiresAt
  let signature ← (signer message).mapError ("voucher signing failed: " ++ ·)
  return {
    channelId := channelId.display
    maxClaimableAmount := maxClaimable.repr
    expiresAt := voucherExpiresAt
    signature := curve.encode64 signature }

end

/-! ### The tracker -/

/-- A client's view of one payment channel. -/
structure BatchChannel where
  channelId : Pubkey
  config : BatchChannelConfig
  chargedCumulativeAmount : ℕ
  deposit : ℕ
  /-- Whether the cumulative amount includes every offchain charge. -/
  historyComplete : Bool

namespace BatchChannel

def new (channelId : Pubkey) (config : BatchChannelConfig)
    (chargedCumulativeAmount deposit : ℕ) : BatchChannel :=
  ⟨channelId, config, chargedCumulativeAmount, deposit, true⟩

def recovered (channelId : Pubkey) (config : BatchChannelConfig)
    (chargedCumulativeAmount deposit : ℕ) : BatchChannel :=
  ⟨channelId, config, chargedCumulativeAmount, deposit, false⟩

section

variable (curve : Ed25519)

open Update

def signNextVoucher (signer : List UInt8 → Except String Signature) (amount : ℕ) :
    Update BatchChannel String BatchVoucher := do
  let channel ← read id
  let next ← check (okOr (checkedAdd channel.chargedCumulativeAmount amount)
    "cumulative amount overflow")
  check (signVoucher curve signer channel.channelId next)

/-- The commitment identifier of a response is present and not empty. -/
def checkCommitmentId (extra : BatchSettlementExtra) : Except String Unit :=
  refuseIf (extra.commitmentId.getD "" = "")
    (batchErr errors.invalidChannelState "PAYMENT-RESPONSE carries no commitmentId")

def checkSuccess (response : BatchSettlementResponse) : Except String Unit :=
  refuseIf (¬response.success)
    (batchErr errors.invalidChannelState (response.errorReason.getD "settlement failed"))

def applyPaymentResponse (response : BatchSettlementResponse) (requirements : BatchRequirements)
    (submitted : BatchVoucher) : Update BatchChannel String Unit := do
  check (checkSuccess response)
  let extra ← check (okOr response.extra
    (batchErr errors.invalidChannelState "PAYMENT-RESPONSE has no extra"))
  check (checkCommitmentId extra)
  check (refuseIf (extra.chargedAmount ≠ some requirements.amount)
    (batchErr errors.invalidChannelState
      "PAYMENT-RESPONSE charged an amount other than the advertised price"))
  let state ← check (okOr extra.channelState
    (batchErr errors.invalidChannelState "PAYMENT-RESPONSE has no channelState"))
  let text ← check (okOr state.chargedCumulativeAmount
    (batchErr errors.invalidChannelState
      "PAYMENT-RESPONSE channelState has no chargedCumulativeAmount"))
  let charged ← check (okOr (parseU64 text)
    (batchErr errors.invalidChannelState "invalid chargedCumulativeAmount"))
  let submittedCumulative ← check submitted.maxClaimable
  check (refuseIf (charged ≠ submittedCumulative)
    (batchErr errors.invalidCumulativeAmountMismatch
      s!"server charged {charged}, submitted {submittedCumulative}"))
  let balance ← check (okOr (parseU64 state.balance)
    (batchErr errors.invalidChannelState "invalid channelState.balance"))
  write fun channel => { channel with chargedCumulativeAmount := charged }
  write fun channel => { channel with deposit := balance }

/-- A cumulative that the response reports is the one its voucher confirms. -/
def checkReported (extra : BatchSettlementExtra) (cumulative : ℕ) : Except String Unit :=
  match extra.channelState.bind ChannelStateSnapshot.chargedCumulativeAmount with
  | none => .ok ()
  | some text => do
      let reported ← okOr (parseU64 text)
        (batchErr errors.invalidChannelState "invalid chargedCumulativeAmount")
      refuseIf (reported ≠ cumulative)
        (batchErr errors.invalidCumulativeAmountMismatch (s!"server reported cumulative " ++
          s!"{reported}, signed voucher confirms {cumulative}"))

/-- The escrow ceiling that the client has proven, when it has. -/
def adoptDeposit (confirmedDeposit : Option ℕ) : Update BatchChannel String Unit :=
  match confirmedDeposit with
  | none => pure ()
  | some deposit => do
      let channel ← read id
      check (refuseIf (deposit < channel.deposit)
        (batchErr errors.invalidChannelState
          "confirmed deposit is below the current escrow ceiling"))
      write fun channel => { channel with deposit := deposit }

def applyAuthorizationResponseWithDeposit (response : BatchSettlementResponse)
    (authorization : BatchAuthorization) (confirmedDeposit : Option ℕ) :
    Update BatchChannel String Unit := do
  check (checkSuccess response)
  let channel ← read id
  check (refuseIf (authorization.channelId ≠ channel.channelId.display ∨
      authorization.payer ≠ channel.config.payer)
    (batchErr errors.invalidChannelIdMismatch
      "PAYMENT-RESPONSE does not correspond to the submitted authorization"))
  let authorized ← check (okOr (parseU64 authorization.authorizedAmount)
    (batchErr errors.invalidChannelState "invalid authorizedAmount"))
  let extra ← check (okOr response.extra
    (batchErr errors.invalidChannelState "PAYMENT-RESPONSE has no extra"))
  check (checkCommitmentId extra)
  let voucher ← check (okOr extra.voucher
    (batchErr errors.invalidVoucherSignature "server-signed PAYMENT-RESPONSE carries no voucher"))
  let cumulative ← check ((checkVoucher curve voucher channel.config
    channel.channelId).mapError BatchError.display)
  check (refuseIf (cumulative < channel.chargedCumulativeAmount)
    (batchErr errors.invalidCumulativeAmountMismatch (s!"server voucher cumulative {cumulative} " ++
      s!"is below local cumulative {channel.chargedCumulativeAmount}")))
  let text ← check (okOr extra.chargedAmount
    (batchErr errors.invalidChannelState "PAYMENT-RESPONSE has no chargedAmount"))
  let charged ← check (okOr (parseU64 text)
    (batchErr errors.invalidChannelState "invalid chargedAmount"))
  let cumulativeDelta := cumulative - channel.chargedCumulativeAmount
  check (refuseIf (channel.historyComplete ∧ cumulativeDelta ≠ charged)
    (batchErr errors.invalidCumulativeAmountMismatch (s!"server voucher advanced by " ++
      s!"{cumulativeDelta}, but chargedAmount is {charged}")))
  check (refuseIf (authorized < charged)
    (batchErr errors.invalidCumulativeAmountMismatch
      s!"server charged {charged}, above authorized ceiling {authorized}"))
  check (checkReported extra cumulative)
  let deposit := confirmedDeposit.getD channel.deposit
  check (refuseIf (deposit < cumulative)
    (batchErr errors.invalidChannelState
      s!"server voucher cumulative {cumulative} exceeds escrow ceiling {deposit}"))
  adoptDeposit confirmedDeposit
  write fun channel => { channel with chargedCumulativeAmount := cumulative }
  write fun channel => { channel with historyComplete := true }

def applyAuthorizationResponse (response : BatchSettlementResponse)
    (authorization : BatchAuthorization) : Update BatchChannel String Unit :=
  applyAuthorizationResponseWithDeposit curve response authorization none

def adoptCorrectiveState (requirements : BatchRequirements) :
    Update BatchChannel String ℕ := do
  let state ← check (okOr requirements.channelState
    (batchErr errors.invalidCumulativeAmountMismatch
      "corrective challenge carries no channelState"))
  let channel ← read id
  check (refuseIf (state.channelId ≠ channel.channelId.display)
    (batchErr errors.invalidChannelIdMismatch
      "corrective channelState names a different channel"))
  let charged ← check (okOr (parseU64 (state.chargedCumulativeAmount.getD "0"))
    (batchErr errors.invalidCumulativeAmountMismatch "invalid chargedCumulativeAmount"))
  let proof ← check (okOr requirements.voucherState
    (batchErr errors.invalidCumulativeAmountMismatch
      "corrective challenge carries no voucherState proof"))
  let adopted ← check ((checkCorrectiveVoucherState curve proof state.channelId
    channel.config.payerAuthorizer charged).mapError BatchError.display)
  check (refuseIf (channel.deposit < adopted)
    (batchErr errors.invalidChannelState
      (s!"corrective cumulative {adopted} exceeds local escrow ceiling {channel.deposit}")))
  write fun channel => { channel with chargedCumulativeAmount := adopted }
  return adopted

/-! ### What an accepting call does -/

variable {curve} {channel final : BatchChannel}

theorem signVoucher_eq_ok {signer : List UInt8 → Except String Signature} {channelId : Pubkey}
    {maxClaimable : ℕ} {voucher : BatchVoucher} (hFits : maxClaimable ≤ u64Max)
    (hSigned : signVoucher curve signer channelId maxClaimable = .ok voucher) :
    voucher.maxClaimable = .ok maxClaimable := by
  simp only [signVoucher, bind_eq_ok] at hSigned
  rcases hSigned with ⟨signature, -, hVoucher⟩
  cases hVoucher
  rw [BatchVoucher.maxClaimable, parseAmount, okOr_eq_ok, parseU64_repr hFits]

theorem signNextVoucher_eq_ok {signer : List UInt8 → Except String Signature} {amount : ℕ}
    {voucher : BatchVoucher}
    (hSigned : signNextVoucher curve signer amount channel = (.ok voucher, final)) :
    final = channel ∧
      voucher.maxClaimable = .ok (channel.chargedCumulativeAmount + amount) := by
  simp only [signNextVoucher, read_bind, id, check_bind_eq_ok, okOr_eq_ok, check_eq_ok] at hSigned
  rcases hSigned with ⟨next, hNext, hVoucher, rfl⟩
  rcases checkedAdd_eq_some.mp hNext with ⟨rfl, hFits⟩
  exact ⟨rfl, signVoucher_eq_ok hFits hVoucher⟩

theorem applyPaymentResponse_eq_ok {response : BatchSettlementResponse}
    {requirements : BatchRequirements} {submitted : BatchVoucher} {value : Unit}
    (hApplied : applyPaymentResponse response requirements submitted channel =
      (.ok value, final)) :
    ∃ charged balance, submitted.maxClaimable = .ok charged ∧
      final = { channel with chargedCumulativeAmount := charged, deposit := balance } := by
  simp only [applyPaymentResponse, check_bind_eq_ok, okOr_eq_ok, refuseIf_eq_ok, not_not,
    write_bind, write_eq_ok, exists_const] at hApplied
  rcases hApplied with ⟨_, -, extra, -, _, -, -, state, -, text, -, charged, -, submittedCumulative,
    hSubmitted, rfl, balance, -, rfl⟩
  exact ⟨charged, balance, hSubmitted, rfl⟩

theorem checkCorrectiveVoucherState_eq_ok {proof : VoucherState}
    {channelId payerAuthorizer : String} {charged adopted : ℕ}
    (hChecked : checkCorrectiveVoucherState curve proof channelId payerAuthorizer charged =
      .ok adopted) :
    ∃ signed, parseU64 proof.signedMaxClaimable = some signed ∧
      verifyVoucherSignature curve channelId signed proof.expiresAt proof.signature
        payerAuthorizer 0 0 = .ok () ∧
      adopted ≤ signed := by
  simp only [checkCorrectiveVoucherState, bind_eq_ok, mapError_eq_ok, verifySchemeSignature,
    parseAmount, okOr_eq_ok, refuseIf_eq_ok, exists_const] at hChecked
  rcases hChecked with ⟨_, -, signed, hParsed, _, hVerified, hCovered, hAdopted⟩
  cases hAdopted
  exact ⟨signed, hParsed, hVerified, by omega⟩

theorem adoptCorrectiveState_eq_ok {requirements : BatchRequirements} {adopted : ℕ}
    (hAdopted : adoptCorrectiveState curve requirements channel = (.ok adopted, final)) :
    (∃ proof signed, requirements.voucherState = some proof ∧
      parseU64 proof.signedMaxClaimable = some signed ∧
      verifyVoucherSignature curve channel.channelId.display signed proof.expiresAt
        proof.signature channel.config.payerAuthorizer 0 0 = .ok () ∧
      adopted ≤ signed) ∧
    final = { channel with chargedCumulativeAmount := adopted } := by
  simp only [adoptCorrectiveState, check_bind_eq_ok, read_bind, id, okOr_eq_ok, refuseIf_eq_ok,
    not_not, mapError_eq_ok, write_bind, pure_eq_ok, exists_const] at hAdopted
  rcases hAdopted with ⟨state, -, hChannel, charged, -, proof, hProof, other, hChecked, -, rfl, rfl⟩
  rw [hChannel] at hChecked
  rcases checkCorrectiveVoucherState_eq_ok hChecked with ⟨signed, hParsed, hVerified, hCovered⟩
  exact ⟨⟨proof, signed, hProof, hParsed, hVerified, hCovered⟩, rfl⟩

theorem adoptDeposit_eq_ok {confirmedDeposit : Option ℕ} {value : Unit}
    (hAdopted : adoptDeposit confirmedDeposit channel = (.ok value, final)) :
    final = { channel with deposit := confirmedDeposit.getD channel.deposit } := by
  cases confirmedDeposit with
  | none =>
      simp only [adoptDeposit, pure_eq_ok] at hAdopted
      rw [← hAdopted.2]
      rfl
  | some deposit =>
      simp only [adoptDeposit, read_bind, id, check_bind_eq_ok, refuseIf_eq_ok, write_eq_ok,
        exists_const] at hAdopted
      rw [← hAdopted.2]
      rfl

theorem applyAuthorizationResponse_eq_ok {response : BatchSettlementResponse}
    {authorization : BatchAuthorization} {confirmedDeposit : Option ℕ} {value : Unit}
    (hApplied : applyAuthorizationResponseWithDeposit curve response authorization
      confirmedDeposit channel = (.ok value, final)) :
    ∃ cumulative authorized, parseU64 authorization.authorizedAmount = some authorized ∧
      channel.chargedCumulativeAmount ≤ cumulative ∧
      (channel.historyComplete → cumulative ≤ channel.chargedCumulativeAmount + authorized) ∧
      cumulative ≤ confirmedDeposit.getD channel.deposit ∧
      final = { channel with
        chargedCumulativeAmount := cumulative
        deposit := confirmedDeposit.getD channel.deposit
        historyComplete := true } := by
  simp only [applyAuthorizationResponseWithDeposit, check_bind_eq_ok, read_bind, id, okOr_eq_ok,
    refuseIf_eq_ok, mapError_eq_ok, exists_const] at hApplied
  rcases hApplied with ⟨_, -, -, authorized, hAuthorized, extra, -, _, -, voucher, -, cumulative, -,
    hForward, text, -, charged, -, hDelta, hCeiling, _, -, hEscrow, hApplied⟩
  simp only [Update.bind_eq_ok, write_bind, write_eq_ok] at hApplied
  rcases hApplied with ⟨_, next, hDeposit, rfl⟩
  rw [adoptDeposit_eq_ok hDeposit]
  refine ⟨cumulative, authorized, hAuthorized, by omega, ?_, by omega, rfl⟩
  intro hComplete
  have hCharged : cumulative - channel.chargedCumulativeAmount = charged := by
    by_contra hOther
    exact hDelta ⟨hComplete, hOther⟩
  omega

/-! ### Failing calls -/

theorem signNextVoucher_atomic {signer : List UInt8 → Except String Signature} {amount : ℕ} :
    Atomic (signNextVoucher curve signer amount) :=
  read_bind_atomic fun _ => check_bind_atomic fun _ => check_readOnly.atomic

theorem applyPaymentResponse_atomic {response : BatchSettlementResponse}
    {requirements : BatchRequirements} {submitted : BatchVoucher} :
    Atomic (applyPaymentResponse response requirements submitted) := by
  rw [applyPaymentResponse]
  iterate 10 refine check_bind_atomic fun _ => ?_
  exact (write_total.bind fun _ => write_total).atomic

theorem adoptDeposit_atomic {confirmedDeposit : Option ℕ} :
    Atomic (adoptDeposit confirmedDeposit) := by
  cases confirmedDeposit with
  | none => exact pure_total.atomic
  | some deposit =>
      exact read_bind_atomic fun _ => check_bind_atomic fun _ => write_total.atomic

theorem applyAuthorizationResponse_atomic {response : BatchSettlementResponse}
    {authorization : BatchAuthorization} {confirmedDeposit : Option ℕ} :
    Atomic (applyAuthorizationResponseWithDeposit curve response authorization
      confirmedDeposit) := by
  rw [applyAuthorizationResponseWithDeposit]
  refine check_bind_atomic fun _ => read_bind_atomic fun _ => ?_
  iterate 13 refine check_bind_atomic fun _ => ?_
  exact adoptDeposit_atomic.bind_total fun _ => write_total.bind fun _ => write_total

theorem adoptCorrectiveState_atomic {requirements : BatchRequirements} :
    Atomic (adoptCorrectiveState curve requirements) := by
  rw [adoptCorrectiveState]
  refine check_bind_atomic fun _ => read_bind_atomic fun _ => ?_
  iterate 5 refine check_bind_atomic fun _ => ?_
  exact (write_total.bind fun _ => pure_total).atomic

end

end BatchChannel

end PayKit.BatchSettlement
