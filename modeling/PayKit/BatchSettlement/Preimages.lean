import PayKit.BatchSettlement.Client
import PayKit.Challenge.Binding
import PayKit.Encoding.Framing
import PayKit.Encoding.Numeral
import PayKit.Upto.Open

/-!
# What is hashed and signed of a channel

The bytes under a voucher's signature, under the commitment to a channel's recipients, under the
authorization of a cooperative close and under the fingerprint of a request. Each of them is made
of framed fields, so it determines what it was made from.

The fingerprint pins the price, the asset and the sponsor of the requirements. What the server may
change between two challenges for one price is not in it: construction hints, limits of batches
and the corrective state.
-/

namespace PayKit.BatchSettlement

open Challenge Control Encoding Machine Solana Tx Upto Voucher

/-! ### The preimages -/

/-- The bytes that `distribution_hash` hashes. -/
def distributionPreimage (recipients : List Distribution) : List UInt8 :=
  Encoding.counted 4
    (fun recipient : Distribution => recipient.recipient.bytes ++ encodeLE 2 recipient.bps)
    recipients

def closeAuthorizationDomain : List UInt8 :=
  utf8 "x402:batch-settlement:svm:close:v1"

structure CloseAuthorizationScope where
  network : String
  programId : Pubkey
  feePayer : Pubkey
  channelId : Pubkey
  maxClaimableAmount : ℕ
  voucherExpiresAt : ℤ

/-- The bytes that `close_authorization_digest` hashes. -/
def closeAuthorizationPreimage (scope : CloseAuthorizationScope) (validBefore : ℤ) :
    Except BatchError (List UInt8) := do
  let network := utf8 scope.network
  refuseIf (65535 < network.length) (⟨errors.invalidCloseAuthorization,
    "network identifier is longer than 65535 bytes"⟩ : BatchError)
  return closeAuthorizationDomain ++ [0] ++ lengthPrefixed 2 network ++ scope.programId.bytes ++
    scope.feePayer.bytes ++ scope.channelId.bytes ++ encodeLE 8 scope.maxClaimableAmount ++
    encodeLE 8 (scope.voucherExpiresAt % 256 ^ 8).toNat ++
    encodeLE 8 (validBefore % 256 ^ 8).toNat

namespace Wire

structure BatchExtra where
  paymentFlow : Option String
  feePayer : String
  transactionVersions : Option (List TxVersion)
  receiverAuthorizer : Option String
  withdrawDelay : ℕ
  tokenProgram : String
  memo : Option String
  recentBlockhash : Option String
  recentSlot : Option ℕ
  minDeposit : Option String
  voucherSigner : Option String
  operator : Option String
  maxIdleSecs : Option ℕ
  maxClaimChannels : Option ℕ
  maxSettleChannels : Option ℕ
  channelState : Option ChannelStateSnapshot
  voucherState : Option VoucherState

/-- An entry of `accepts[]`, with all its fields. -/
structure BatchRequirements where
  scheme : String
  network : String
  amount : String
  asset : String
  payTo : String
  maxTimeoutSeconds : ℕ
  extra : BatchExtra

end Wire

/-- The fields of `request_fingerprint`, in their order. -/
def fingerprintFields (voucherSignature : String) (requirements : Wire.BatchRequirements) :
    List String :=
  [voucherSignature, requirements.scheme, requirements.network, requirements.amount,
    requirements.asset, requirements.payTo, requirements.maxTimeoutSeconds.repr,
    requirements.extra.paymentFlow.getD "", requirements.extra.feePayer,
    requirements.extra.receiverAuthorizer.getD "", requirements.extra.withdrawDelay.repr,
    requirements.extra.tokenProgram, requirements.extra.memo.getD ""]

/-- The bytes that `request_fingerprint` hashes. -/
def fingerprintPreimage (voucherSignature : String) (requirements : Wire.BatchRequirements) :
    List UInt8 :=
  (fingerprintFields voucherSignature requirements).flatMap fun field =>
    lengthPrefixed 8 (utf8 field)

/-! ### The hashes -/

section

variable (sha256 : List UInt8 → List UInt8)

def distributionHash (recipients : List Distribution) : List UInt8 :=
  sha256 (distributionPreimage recipients)

def closeAuthorizationDigest (scope : CloseAuthorizationScope) (validBefore : ℤ) :
    Except BatchError (List UInt8) :=
  (closeAuthorizationPreimage scope validBefore).map sha256

def requestFingerprint (encode32 : List UInt8 → String) (voucherSignature : String)
    (requirements : Wire.BatchRequirements) : String :=
  encode32 (sha256 (fingerprintPreimage voucherSignature requirements))

end

/-! ### The codes -/

theorem selfDelimiting_pubkey : SelfDelimiting (fun _ : Pubkey => True) Pubkey.bytes := by
  refine .of_width (fun key _ => key.length_bytes) ?_
  rintro ⟨left, _⟩ ⟨right, _⟩ - - rfl
  rfl

theorem selfDelimiting_u64 : SelfDelimiting (fun number => number ≤ u64Max) (encodeLE 8) :=
  fun left right after rest hLeft hRight hSame =>
    SelfDelimiting.number 8 left right after rest (Nat.lt_of_le_of_lt hLeft (by decide))
      (Nat.lt_of_le_of_lt hRight (by decide)) hSame

def InI64 (value : ℤ) : Prop :=
  i64Min ≤ value ∧ value ≤ i64Max

theorem selfDelimiting_i64 :
    SelfDelimiting InI64 fun value => encodeLE 8 (value % 256 ^ 8).toNat := by
  intro left right after rest hLeft hRight hSame
  have hRange : ∀ value, InI64 value → i64Min ≤ value ∧ value < i64Min + 256 ^ 8 := by
    rintro value ⟨hLeast, hGreatest⟩
    unfold i64Min i64Max at *
    omega
  exact SelfDelimiting.wrapped 8 i64Min left right after rest (hRange left hLeft)
    (hRange right hRight) hSame

theorem selfDelimiting_distribution :
    SelfDelimiting (fun recipient : Distribution => recipient.bps < 2 ^ 16)
      (fun recipient => recipient.recipient.bytes ++ encodeLE 2 recipient.bps) := by
  intro left right after rest hLeft hRight hSame
  simp only [List.append_assoc] at hSame
  rcases selfDelimiting_pubkey _ _ _ _ trivial trivial hSame with ⟨hRecipient, hShares⟩
  rcases SelfDelimiting.number 2 _ _ _ _ hLeft hRight hShares with ⟨hBps, hRest⟩
  refine ⟨?_, hRest⟩
  cases left
  cases right
  simp only [Distribution.mk.injEq]
  exact ⟨hRecipient, hBps⟩

/-- A text that a machine can hold. -/
def Holdable (text : String) : Prop :=
  (utf8 text).length < 2 ^ 64

theorem selfDelimiting_text :
    SelfDelimiting Holdable fun text => lengthPrefixed 8 (utf8 text) := by
  intro left right after rest hLeft hRight hSame
  rcases SelfDelimiting.lengthPrefixed 8 _ _ _ _ hLeft hRight hSame with ⟨hTexts, hRest⟩
  exact ⟨utf8_injective hTexts, hRest⟩

/-! ### What the preimages determine -/

theorem voucherMessageBytes_injective {channelId otherId : Pubkey} {cumulative other : ℕ}
    {expiresAt otherExpiry : ℤ} (hCumulative : cumulative ≤ u64Max) (hOther : other ≤ u64Max)
    (hExpiresAt : InI64 expiresAt) (hOtherExpiry : InI64 otherExpiry)
    (hSame : voucherMessageBytes channelId cumulative expiresAt =
      voucherMessageBytes otherId other otherExpiry) :
    channelId = otherId ∧ cumulative = other ∧ expiresAt = otherExpiry := by
  simp only [voucherMessageBytes, List.append_assoc, List.append_cancel_left_eq] at hSame
  rcases selfDelimiting_pubkey _ _ _ _ trivial trivial hSame with ⟨hChannel, hAmounts⟩
  rcases selfDelimiting_u64 _ _ _ _ hCumulative hOther hAmounts with ⟨hAmount, hExpiries⟩
  exact ⟨hChannel, hAmount, selfDelimiting_i64.injective hExpiresAt hOtherExpiry hExpiries⟩

/-- A list of recipients as the program takes it. -/
def Countable (recipients : List Distribution) : Prop :=
  recipients.length < 2 ^ 32 ∧ ∀ recipient ∈ recipients, recipient.bps < 2 ^ 16

theorem distributionPreimage_injective {left right : List Distribution} (hLeft : Countable left)
    (hRight : Countable right) (hSame : distributionPreimage left = distributionPreimage right) :
    left = right :=
  (selfDelimiting_distribution.counted 4).injective hLeft hRight hSame

structure CloseAuthorizationScope.InRange (scope : CloseAuthorizationScope) : Prop where
  maxClaimableAmount : scope.maxClaimableAmount ≤ u64Max
  voucherExpiresAt : InI64 scope.voucherExpiresAt

theorem closeAuthorizationPreimage_injective {left right : CloseAuthorizationScope}
    {leftBefore rightBefore : ℤ} {bytes : List UInt8} (hLeft : left.InRange)
    (hRight : right.InRange) (hLeftBefore : InI64 leftBefore) (hRightBefore : InI64 rightBefore)
    (hLeftBytes : closeAuthorizationPreimage left leftBefore = .ok bytes)
    (hRightBytes : closeAuthorizationPreimage right rightBefore = .ok bytes) :
    left = right ∧ leftBefore = rightBefore := by
  simp only [closeAuthorizationPreimage, refuseIf_bind_eq_ok, Nat.not_lt] at hLeftBytes hRightBytes
  rcases hLeftBytes with ⟨hLeftNetwork, hLeftBytes⟩
  rcases hRightBytes with ⟨hRightNetwork, hRightBytes⟩
  have hSame := Except.ok.inj (hLeftBytes.trans hRightBytes.symm)
  simp only [List.append_assoc, List.append_cancel_left_eq] at hSame
  rcases SelfDelimiting.lengthPrefixed 2 _ _ _ _ (Nat.lt_of_le_of_lt hLeftNetwork (by decide))
    (Nat.lt_of_le_of_lt hRightNetwork (by decide)) hSame with ⟨hNetwork, hPrograms⟩
  rcases selfDelimiting_pubkey _ _ _ _ trivial trivial hPrograms with ⟨hProgram, hPayers⟩
  rcases selfDelimiting_pubkey _ _ _ _ trivial trivial hPayers with ⟨hPayer, hChannels⟩
  rcases selfDelimiting_pubkey _ _ _ _ trivial trivial hChannels with ⟨hChannel, hAmounts⟩
  rcases selfDelimiting_u64 _ _ _ _ hLeft.maxClaimableAmount hRight.maxClaimableAmount hAmounts
    with ⟨hAmount, hExpiries⟩
  rcases selfDelimiting_i64 _ _ _ _ hLeft.voucherExpiresAt hRight.voucherExpiresAt hExpiries
    with ⟨hExpiry, hBefore⟩
  refine ⟨?_, selfDelimiting_i64.injective hLeftBefore hRightBefore hBefore⟩
  cases left
  cases right
  simp only [CloseAuthorizationScope.mk.injEq]
  exact ⟨utf8_injective hNetwork, hProgram, hPayer, hChannel, hAmount, hExpiry⟩

/-- The requirements pin the same payment. An optional text that is absent is as good as an empty
one. -/
structure Wire.BatchRequirements.PinsAs (left right : Wire.BatchRequirements) : Prop where
  scheme : left.scheme = right.scheme
  network : left.network = right.network
  amount : left.amount = right.amount
  asset : left.asset = right.asset
  payTo : left.payTo = right.payTo
  maxTimeoutSeconds : left.maxTimeoutSeconds = right.maxTimeoutSeconds
  paymentFlow : left.extra.paymentFlow.getD "" = right.extra.paymentFlow.getD ""
  feePayer : left.extra.feePayer = right.extra.feePayer
  receiverAuthorizer :
    left.extra.receiverAuthorizer.getD "" = right.extra.receiverAuthorizer.getD ""
  withdrawDelay : left.extra.withdrawDelay = right.extra.withdrawDelay
  tokenProgram : left.extra.tokenProgram = right.extra.tokenProgram
  memo : left.extra.memo.getD "" = right.extra.memo.getD ""

theorem fingerprintPreimage_injective {leftSignature rightSignature : String}
    {left right : Wire.BatchRequirements}
    (hLeft : ∀ field ∈ fingerprintFields leftSignature left, Holdable field)
    (hRight : ∀ field ∈ fingerprintFields rightSignature right, Holdable field)
    (hSame : fingerprintPreimage leftSignature left = fingerprintPreimage rightSignature right) :
    leftSignature = rightSignature ∧ left.PinsAs right := by
  have hEnds : fingerprintPreimage leftSignature left ++ [] =
      fingerprintPreimage rightSignature right ++ [] := by rw [hSame]
  have hFields := (selfDelimiting_text.flatMap hLeft hRight rfl hEnds).1
  simp only [fingerprintFields, List.cons.injEq] at hFields
  rcases hFields with ⟨hSignature, hScheme, hNetwork, hAmount, hAsset, hPayTo, hTimeout, hFlow,
    hFeePayer, hAuthorizer, hDelay, hTokenProgram, hMemo, -⟩
  exact ⟨hSignature, hScheme, hNetwork, hAmount, hAsset, hPayTo, repr_injective hTimeout, hFlow,
    hFeePayer, hAuthorizer, repr_injective hDelay, hTokenProgram, hMemo⟩

/-- What is signed for a voucher and hashed for a list of recipients, for a cooperative close and
for a request determines the voucher, the list, the close and what the request pins. -/
theorem preimages_injective :
    (∀ channelId otherId cumulative other expiresAt otherExpiry, cumulative ≤ u64Max →
      other ≤ u64Max → InI64 expiresAt → InI64 otherExpiry →
      voucherMessageBytes channelId cumulative expiresAt =
        voucherMessageBytes otherId other otherExpiry →
      channelId = otherId ∧ cumulative = other ∧ expiresAt = otherExpiry) ∧
    (∀ left right, Countable left → Countable right →
      distributionPreimage left = distributionPreimage right → left = right) ∧
    (∀ (left right : CloseAuthorizationScope) leftBefore rightBefore bytes, left.InRange →
      right.InRange → InI64 leftBefore → InI64 rightBefore →
      closeAuthorizationPreimage left leftBefore = .ok bytes →
      closeAuthorizationPreimage right rightBefore = .ok bytes →
      left = right ∧ leftBefore = rightBefore) ∧
    ∀ leftSignature rightSignature left right,
      (∀ field ∈ fingerprintFields leftSignature left, Holdable field) →
      (∀ field ∈ fingerprintFields rightSignature right, Holdable field) →
      fingerprintPreimage leftSignature left = fingerprintPreimage rightSignature right →
      leftSignature = rightSignature ∧ left.PinsAs right :=
  ⟨fun _ _ _ _ _ _ => voucherMessageBytes_injective, fun _ _ => distributionPreimage_injective,
    fun _ _ _ _ _ => closeAuthorizationPreimage_injective,
    fun _ _ _ _ => fingerprintPreimage_injective⟩

def sampleScope : CloseAuthorizationScope where
  network := "solana:5eykt4UsFv8P8NJdTREpY1vzqKqZKvdp"
  programId := rentSysvar
  feePayer := rentSysvar
  channelId := rentSysvar
  maxClaimableAmount := 1000
  voucherExpiresAt := 0

/-- An authorization of a close does not authorize it for longer. -/
theorem longer_close_not_authorized :
    ¬∃ bytes, closeAuthorizationPreimage sampleScope 60 = .ok bytes ∧
      closeAuthorizationPreimage sampleScope 61 = .ok bytes := by
  rintro ⟨bytes, hBytes, hLonger⟩
  have hRange : sampleScope.InRange := ⟨by decide, by decide, by decide⟩
  have hBefore := (preimages_injective.2.2.1 sampleScope sampleScope 60 61 bytes hRange hRange
    ⟨by decide, by decide⟩ ⟨by decide, by decide⟩ hBytes hLonger).2
  cases hBefore

def sampleRequirements (operator minDeposit : Option String) : Wire.BatchRequirements where
  scheme := "batch-settlement"
  network := "solana:5eykt4UsFv8P8NJdTREpY1vzqKqZKvdp"
  amount := "1000"
  asset := "EPjFWdd5AufqSSqeM2qN1xzybapC8G4wEGGkZwyTDt1v"
  payTo := "CXhrFZJLKqjzmP3sjYLcF4dTeXWKCy9e2SXXZ2Yo6MPY"
  maxTimeoutSeconds := 60
  extra :=
    { paymentFlow := none
      feePayer := "9xAXssX9j7vuK99c7cFwqbixzL3bFrzPy9PUhCtDPAYJ"
      transactionVersions := none
      receiverAuthorizer := none
      withdrawDelay := 900
      tokenProgram := "TokenkegQfeZyiNwAJbNbGKPFXCWuBvf9Ss623VQ5DA"
      memo := none
      recentBlockhash := none
      recentSlot := none
      minDeposit
      voucherSigner := some "server"
      operator
      maxIdleSecs := none
      maxClaimChannels := none
      maxSettleChannels := none
      channelState := none
      voucherState := none }

/-- Requirements that are alike but for the operator and the least deposit have one fingerprint. -/
theorem operator_not_fingerprinted :
    ∃ left right : Wire.BatchRequirements,
      fingerprintPreimage "voucher" left = fingerprintPreimage "voucher" right ∧
        left.extra.operator.getD "" ≠ right.extra.operator.getD "" ∧
        left.extra.minDeposit.getD "" ≠ right.extra.minDeposit.getD "" :=
  ⟨sampleRequirements (some "first") (some "1"), sampleRequirements (some "second") (some "2"), rfl,
    by decide, by decide⟩

end PayKit.BatchSettlement
