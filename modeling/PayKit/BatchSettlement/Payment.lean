import PayKit.BatchSettlement.Client
import PayKit.BatchSettlement.RecordUpdate

/-!
# Payments

What `verify_payment` of `x402/server/batch_settlement.rs` checks of a `deposit` or a
`voucher` payload against a snapshot of the channel record. A payload with a deposit
carries the setup transaction that funds it, which is broadcast only after the request has
been served; until then it counts towards the ceiling of what the voucher may authorize.

What the chain is asked on the way is collected in `ChainReadings`.
-/

namespace PayKit.BatchSettlement

open Channel Control Encoding Machine Solana Store Tx Voucher

/-- What a server's payments depend on. -/
structure BatchServer where
  deployment : Deployment
  chain : Chain
  curve : Ed25519
  programId : Pubkey
  feePayer : Pubkey
  tokenProgram : Pubkey
  receiverAuthorizer : Pubkey
  memo : Option String
  acceptedVersions : List TxVersion
  /-- `distribution_hash` of the whole share to one recipient. -/
  distributionHash : Pubkey → List UInt8

/-- What a payload's transaction is held against. -/
def expectations (server : BatchServer) (config : BatchChannelConfig) (channelId receiver : Pubkey) :
    TransactionExpectations where
  programId := server.programId
  feePayer := server.feePayer
  config := config
  channelId := channelId
  tokenProgram := server.tokenProgram
  receiver := receiver
  memo := server.memo
  receiverAuthorizer := server.receiverAuthorizer
  acceptedVersions := server.acceptedVersions

def checkChannelBindings (server : BatchServer) (config : BatchChannelConfig) (payTo : String)
    (channel : OnchainChannel) (minDeposit : ℕ) : Except String Unit := do
  let expect (holds : Bool) (what : String) : Except String Unit :=
    refuseIf (¬holds) (batchErr errors.invalidChannelState
      s!"confirmed channel {what} does not match the payload")
  expect (channel.status = channelStatusOpen) "status"
  expect (minDeposit ≤ channel.deposit) "deposit"
  expect (channel.payer.display = config.payer) "payer"
  expect (channel.payee = server.feePayer) "payee"
  expect (channel.rentPayer = server.feePayer) "rent_payer"
  expect (channel.authorizedSigner.display = config.payerAuthorizer) "authorized_signer"
  expect (channel.mint.display = config.token) "mint"
  expect (channel.gracePeriod = config.withdrawDelay) "grace_period"
  expect (channel.openSlot = config.openSlot) "open_slot"
  let receiver ← parsePubkey payTo
  expect (channel.distributionHash = server.distributionHash receiver) "distribution"

/-! ### The payload -/

structure BatchDeposit where
  amount : String
  transaction : String

def BatchDeposit.parsedAmount (deposit : BatchDeposit) : Except String ℕ :=
  parseAmount deposit.amount "deposit.amount"

/-- A payload with a voucher, and what its request derives before looking at it. The
checks that only compare the payload with the requirements are collected in `envelope`. -/
structure BatchPayment where
  config : BatchChannelConfig
  channelId : Pubkey
  payTo : String
  envelope : Except String Unit
  charge : ℕ
  voucher : BatchVoucher
  deposit : Option BatchDeposit
  /-- `request_fingerprint` of a voucher's signature. -/
  fingerprint : String → String

/-- The setup transaction that a payload carries, and what it adds to the deposit. -/
structure CarriedSetup where
  message : VersionedMessage
  amount : ℕ
deriving DecidableEq

namespace BatchPayment

variable (chain : Chain) (payment : BatchPayment)

def carriedTransaction : Option VersionedTransaction := do
  let deposit ← payment.deposit
  (chain.decode deposit.transaction).toOption

def carriedSetup : Option CarriedSetup := do
  let deposit ← payment.deposit
  let tx ← payment.carriedTransaction chain
  let amount ← deposit.parsedAmount.toOption
  return ⟨tx.message, amount⟩

end BatchPayment

/-- What the chain answers while a payload is verified. -/
structure ChainReadings where
  onchain : Except String Bool
  mintOwner : Except String Unit
  settlementAccounts : Except String Unit
  recentSlot : Option ℕ
  depositCanLand : Except String Unit

/-- `BatchOutcome` of a payment. -/
structure BatchOutcome where
  payment : BatchPayment
  replay : Bool
  chargedAmount : ℕ
  maxClaimable : ℕ
  depositSignature : Option String
  opensChannel : Bool

namespace BatchOutcome

variable (outcome : BatchOutcome)

/-- `authorization_for`. -/
def authorizationId : String :=
  s!"access:{outcome.payment.channelId.display}:{outcome.maxClaimable}"

def requestFingerprint : String :=
  outcome.payment.fingerprint outcome.payment.voucher.signature

/-- The amount of the carried setup transaction. -/
def depositAmount : ℕ :=
  match outcome.payment.deposit with
  | some deposit => deposit.parsedAmount.toOption.getD 0
  | none => 0

end BatchOutcome

/-! ### The checks -/

def checkChannelOpen (sealed closeRequested : Bool) : Except String Unit := do
  refuseIf sealed (batchErr errors.invalidCloseState "channel is sealed")
  refuseIf closeRequested
    (batchErr errors.invalidChannelClosing "channel close is pending; open a new channel")

/-- `check_watermark`: whether the voucher is a replay. A fresh one steps by the price. -/
def checkWatermark (cumulative : ℕ) (highestVoucherSignature : Option String)
    (voucher : BatchVoucher) (maxClaimable charge : ℕ) : Except String Bool :=
  if maxClaimable = cumulative ∧ highestVoucherSignature = some voucher.signature then .ok true
  else do
    let expected ← okOr (checkedAdd cumulative charge)
      (batchErr errors.invalidChannelState "cumulative amount overflow")
    refuseIf (maxClaimable ≠ expected) (batchErr errors.invalidCumulativeAmountMismatch
      (s!"voucher authorizes {maxClaimable}, expected {expected} (charged {cumulative} + " ++
        s!"amount {charge})"))
    return false

/-- `deposit_ceiling`: what a voucher may authorize once the carried setup transaction is
confirmed. One that is recorded as processed is in the stored deposit already. -/
def depositCeiling (stored : Option ChannelState) (depositAmount : ℕ)
    (depositSignature : Option String) : Except String ℕ :=
  match stored with
  | none => .ok depositAmount
  | some state =>
      if depositSignature.any (· ∈ state.processedTopupSignatures) then .ok state.deposit
      else okOr (checkedAdd state.deposit depositAmount)
        (batchErr errors.invalidChannelState "deposit overflow")

def checkDepositCap (maxClaimable deposit : ℕ) : Except String Unit :=
  refuseIf (deposit < maxClaimable) (batchErr errors.invalidCumulativeExceedsDeposit
    s!"voucher authorizes {maxClaimable} over a deposit of {deposit}")

def depositAlreadyRecorded (stored : Option ChannelState) (signature : Option String) : Bool :=
  match stored, signature with
  | some state, some signature =>
      state.pendingSetup.any (·.payerSignature = signature) ||
        signature ∈ state.processedTopupSignatures
  | _, _ => false

def payerSignature (curve : Ed25519) (tx : VersionedTransaction) : Option String :=
  tx.signatures[1]?.map curve.encode64

/-- `setup_form_from_transaction`: the form of the only setup instruction. -/
def setupFormFromTransaction (chain : Chain) (transaction : String) (programId : Pubkey) :
    Except BatchError SetupForm := do
  let tx ← decodeTransaction chain transaction "setup"
  let keys := tx.message.staticAccountKeys
  let forms := tx.message.instructions.filterMap fun ix =>
    if programOf keys ix = some programId then
      match ix.data.head? with
      | some 1 => some SetupForm.open
      | some 3 => some SetupForm.topUp
      | _ => none
    else none
  match forms with
  | [form] => return form
  | _ => .error (setupError "transaction must contain exactly one open or top_up instruction")

section

variable (server : BatchServer) (payment : BatchPayment) (readings : ChainReadings)

def checkVoucherOf : Except String ℕ :=
  (checkVoucher server.curve payment.voucher payment.config payment.channelId).mapError
    BatchError.display

/-- The binding check of a read of the record. -/
def checkStoredBinding (stored : Option ChannelState) : Except String Unit :=
  match stored with
  | none => .ok ()
  | some state =>
      (state.checkBinding server.deployment.readBinding server.deployment.binding).mapError
        fun error => batchErr errors.invalidChannelState ("store error: " ++ error.display)

/-- The `voucher` arm of `verify_payment`. -/
def verifyVoucher (stored : Option ChannelState) : Except String BatchOutcome := do
  let channel := payment.channelId.display
  checkStoredBinding server stored
  let state ← okOr stored (batchErr errors.invalidChannelState
    s!"no channel {channel}; open one with a deposit payload")
  checkChannelOpen state.sealed state.closeRequestedAt.isSome
  let maxClaimable ← checkVoucherOf server payment
  let replay ← checkWatermark state.cumulative state.highestVoucherSignature payment.voucher
    maxClaimable payment.charge
  checkDepositCap maxClaimable state.deposit
  return ⟨payment, replay, if replay then 0 else payment.charge, maxClaimable, none, false⟩

/-- Whether the first voucher of a channel authorizes exactly the price. -/
def checkFirstVoucher (maxClaimable charge : ℕ) : Except String Bool := do
  refuseIf (maxClaimable ≠ charge) (batchErr errors.invalidCumulativeAmountMismatch
    s!"first voucher must authorize exactly {charge}, got {maxClaimable}")
  return false

/-- The watermark rule on the stored record, or on a channel that has none. -/
def checkStored (stored : Option ChannelState) (maxClaimable : ℕ) : Except String Bool :=
  match stored with
  | some state => do
      (state.checkBinding server.deployment.readBinding server.deployment.binding).mapError
        fun error => batchErr errors.invalidChannelState error.display
      checkChannelOpen state.sealed state.closeRequestedAt.isSome
      checkWatermark state.cumulative state.highestVoucherSignature payment.voucher maxClaimable
        payment.charge
  | none => checkFirstVoucher maxClaimable payment.charge

/-- The setup transaction that a deposit carries, validated. -/
def checkSetup (stored : Option ChannelState) (deposit : BatchDeposit) (form : SetupForm)
    (depositAmount : ℕ) : Except String ValidatedTransaction := do
  let receiver ← parsePubkey payment.payTo
  readings.mintOwner
  readings.settlementAccounts
  let carried ← (decodeTransaction server.chain deposit.transaction "setup").mapError
    BatchError.display
  let onchain ← readings.onchain
  let retrying := onchain ||
    stored.any fun state => state.pendingSetup.any fun setup =>
      some setup.payerSignature = payerSignature server.curve carried
  let recentSlot := if form = .open ∧ ¬retrying then readings.recentSlot else none
  (validateSetupTransaction server.chain deposit.transaction form
    (expectations server payment.config payment.channelId receiver) depositAmount
    recentSlot).mapError BatchError.display

/-- A setup that was not seen before has to be able to land. -/
def checkLanding (stored : Option ChannelState) (signature : Option String) :
    Except String Unit :=
  if depositAlreadyRecorded stored signature then .ok () else readings.depositCanLand

/-- The `deposit` arm of `verify_payment`. -/
def verifyDeposit (deposit : BatchDeposit) (stored : Option ChannelState) :
    Except String BatchOutcome := do
  let channel := payment.channelId.display
  let maxClaimable ← checkVoucherOf server payment
  let onchain ← readings.onchain
  refuseIf (stored.isNone ∧ onchain) (batchErr errors.invalidChannelState
    (s!"channel {channel} is open onchain but has no record in this store; its accepted " ++
      "vouchers are unknown, so open a new channel"))
  let depositAmount ← deposit.parsedAmount
  let form ← (setupFormFromTransaction server.chain deposit.transaction
    server.programId).mapError BatchError.display
  let replay ← checkStored server payment stored maxClaimable
  let validated ← checkSetup server payment readings stored deposit form depositAmount
  let signature := payerSignature server.curve validated.transaction
  checkLanding readings stored signature
  let depositAfter ← depositCeiling stored depositAmount signature
  checkDepositCap maxClaimable depositAfter
  return ⟨payment, replay, if replay then 0 else payment.charge, maxClaimable, signature,
    form = .open⟩

/-- `verify_payment` of a payload with a voucher, on a snapshot of the record. -/
def verifyPayment (stored : Option ChannelState) : Except String BatchOutcome := do
  payment.envelope
  match payment.deposit with
  | none => verifyVoucher server payment stored
  | some deposit => verifyDeposit server payment readings deposit stored

end

/-- The payer's signature of the carried setup transaction. -/
def BatchPayment.carriedSignature (server : BatchServer) (payment : BatchPayment) :
    Option String :=
  (payment.carriedTransaction server.chain).bind (payerSignature server.curve)

/-! ### What an accepted payload may authorize -/

section

variable {server : BatchServer} {payment : BatchPayment} {readings : ChainReadings}
  {stored : Option ChannelState} {outcome : BatchOutcome}

theorem checkDepositCap_eq_ok {maxClaimable deposit : ℕ} {value : Unit} :
    checkDepositCap maxClaimable deposit = .ok value ↔ maxClaimable ≤ deposit := by
  simp [checkDepositCap]

theorem depositCeiling_eq_ok {state : ChannelState} {depositAmount ceiling : ℕ}
    {signature : Option String}
    (hCeiling : depositCeiling (some state) depositAmount signature = .ok ceiling) :
    (signature.any (· ∈ state.processedTopupSignatures) ∧ ceiling = state.deposit) ∨
      ¬signature.any (· ∈ state.processedTopupSignatures) ∧
        ceiling = state.deposit + depositAmount := by
  simp only [depositCeiling] at hCeiling
  split at hCeiling
  · rename_i hProcessed
    cases hCeiling
    exact .inl ⟨hProcessed, rfl⟩
  · rename_i hUnprocessed
    exact .inr ⟨hUnprocessed, (add_eq_of_checkedAdd (okOr_eq_ok.mp hCeiling)).symm⟩

theorem verifyVoucher_eq_ok (hVerified : verifyVoucher server payment stored = .ok outcome) :
    outcome.payment = payment ∧
      ∃ state, stored = some state ∧ outcome.maxClaimable ≤ state.deposit := by
  simp only [verifyVoucher, bind_eq_ok, okOr_eq_ok] at hVerified
  rcases hVerified with ⟨_, -, state, hStored, _, -, maxClaimable, -, replay, -, _, hCap, hOutcome⟩
  cases hOutcome
  exact ⟨rfl, state, hStored, checkDepositCap_eq_ok.mp hCap⟩

theorem validateSetup_transaction {chain : Chain} {tx : VersionedTransaction}
    {form : SetupForm} {expected : TransactionExpectations} {depositAmount : ℕ}
    {recentSlot : Option ℕ} {validated : ValidatedTransaction}
    (hValidated : validateSetup chain tx form expected depositAmount recentSlot = .ok validated) :
    validated.transaction = tx := by
  simp only [validateSetup, bind_eq_ok] at hValidated
  rcases hValidated with ⟨payer, -, ix, -, hForm⟩
  cases form with
  | «open» =>
      simp only [bind_eq_ok] at hForm
      rcases hForm with ⟨_, -, _, -, _, -, _, -, hForm⟩
      cases hForm
      rfl
  | topUp =>
      simp only [bind_eq_ok] at hForm
      rcases hForm with ⟨_, -, _, -, _, -, _, -, hForm⟩
      cases hForm
      rfl

theorem checkSetup_eq_ok {deposit : BatchDeposit} {form : SetupForm} {depositAmount : ℕ}
    {validated : ValidatedTransaction}
    (hChecked : checkSetup server payment readings stored deposit form depositAmount =
      .ok validated) :
    server.chain.decode deposit.transaction = .ok validated.transaction := by
  simp only [checkSetup, bind_eq_ok, mapError_eq_ok] at hChecked
  rcases hChecked with ⟨receiver, -, _, -, _, -, carried, -, onchain, -, hValidated⟩
  simp only [validateSetupTransaction, decodeTransaction, bind_eq_ok, mapError_eq_ok] at hValidated
  rcases hValidated with ⟨tx, hDecoded, hValidated⟩
  rw [validateSetup_transaction hValidated]
  exact hDecoded

theorem verifyDeposit_eq_ok {deposit : BatchDeposit} (hDeposit : payment.deposit = some deposit)
    (hVerified : verifyDeposit server payment readings deposit stored = .ok outcome) :
    outcome.payment = payment ∧ ∃ setup ceiling,
      payment.carriedSetup server.chain = some setup ∧
      depositCeiling stored setup.amount (payment.carriedSignature server) = .ok ceiling ∧
      outcome.maxClaimable ≤ ceiling := by
  simp only [verifyDeposit, bind_eq_ok] at hVerified
  rcases hVerified with ⟨maxClaimable, -, onchain, -, _, -, depositAmount, hAmount, form, -,
    replay, -, validated, hSetup, _, -, ceiling, hCeiling, _, hCap, hOutcome⟩
  have hCarried : payment.carriedTransaction server.chain = some validated.transaction := by
    simp [BatchPayment.carriedTransaction, hDeposit, checkSetup_eq_ok hSetup, Except.toOption]
  cases hOutcome
  refine ⟨rfl, ⟨validated.transaction.message, depositAmount⟩, ceiling, ?_, ?_,
    checkDepositCap_eq_ok.mp hCap⟩
  · simp [BatchPayment.carriedSetup, hDeposit, hCarried, hAmount, Except.toOption]
  · simp only [BatchPayment.carriedSignature, hCarried, Option.bind_some]
    exact hCeiling

end

end PayKit.BatchSettlement
