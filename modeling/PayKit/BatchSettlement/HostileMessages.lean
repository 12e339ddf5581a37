import PayKit.BatchSettlement.SponsorPolicy
import PayKit.Tx.FeeCap

/-!
# The policy on hostile messages

A message decodes whatever its header counts are: nothing relates the number of signers, of
read-only signers and of keys to each other. The validators of the policy index, slice and
subtract on such a message; here they are with these operations as the machine does them, so
that a run ends with a refusal, an accepted transaction or a fault.

Every operation but one is guarded by a check before it. The exception is `is_writable`, which
subtracts the read-only signers from the signers: where a message has more of the former, looking
at an account of a signer faults, and looking at none of them leaves the message unrefused.
-/

namespace PayKit.BatchSettlement

open Control Encoding Faulting Machine PaymentChannel Solana Tx

/-! ### The validators on machine integers -/

/-- `decode_compute_budget_op`. -/
def machineDecodeComputeBudgetOp (ix : CompiledInstruction) :
    Faulting String (Option ComputeBudgetOp) :=
  if ix.data.head? = some setUnitLimitTag ∧ ix.data.length = 5 then do
    let units ← range ix.data 1 5
    return some (.unitLimit (decodeLE units))
  else if ix.data.head? = some setUnitPriceTag ∧ ix.data.length = 9 then do
    let price ← range ix.data 1 9
    return some (.unitPrice (decodeLE price))
  else if ix.data.head? = some setLoadedAccountsDataSizeLimitTag ∧ ix.data.length = 5 then do
    let bytes ← range ix.data 1 5
    return some (.loadedAccountsDataSizeLimit (decodeLE bytes))
  else .ok none

section Layout

variable (keys : List Pubkey) (feePayer : Pubkey) (label : String)

/-- The prefix of `scan_channel_tx_layout`. -/
def machineScanPrefix :
    List CompiledInstruction → Bool → Bool → Faulting String (List CompiledInstruction)
  | [], _, _ => .ok []
  | ix :: rest, seenLimit, seenPrice => do
      let program ← faultless (programIn keys label ix)
      if program ≠ computeBudgetProgram then
        return ix :: rest
      else
        faultless (rejectFeePayer keys feePayer ix "ComputeBudget")
        let op ← machineDecodeComputeBudgetOp ix
        match op with
        | some (.unitLimit units) => do
            faultless (refuseIf seenLimit
              (label ++ " transaction has a duplicate SetComputeUnitLimit instruction"))
            faultless (refuseIf seenPrice
              (label ++ " transaction SetComputeUnitLimit must precede SetComputeUnitPrice"))
            faultless (refuseIf (openMaxComputeUnitLimit < units)
              (label ++ s!" transaction compute unit limit {units} exceeds maximum " ++
                s!"{openMaxComputeUnitLimit}"))
            machineScanPrefix rest true seenPrice
        | some (.unitPrice price) => do
            faultless (refuseIf seenPrice
              (label ++ " transaction has a duplicate SetComputeUnitPrice instruction"))
            faultless (refuseIf (maxComputeUnitPriceMicrolamports < price)
              (label ++ s!" transaction compute unit price {price} exceeds maximum " ++
                s!"{maxComputeUnitPriceMicrolamports}"))
            machineScanPrefix rest seenLimit true
        | some (.loadedAccountsDataSizeLimit _) =>
            faultless
              (.error (label ++ " transaction has an unsupported ComputeBudget instruction"))
        | none =>
            faultless
              (.error (label ++ " transaction has an unsupported ComputeBudget instruction"))

/-- The bound on the suffix is a subtraction; the rest of the suffix has none. -/
def machineScanSuffix (policy : MemoPolicy) (suffix : List CompiledInstruction) :
    Faulting String SuffixCounts := do
  let _ ← minus (openMaxOptionalSuffix + policy.maxMemos) 1
  faultless (scanSuffix keys feePayer label policy suffix {})

/-- What `scan_channel_tx_layout` checks from the payment-channels instruction on. -/
def machineScanRest (tx : VersionedTransaction) (programId : Pubkey) (discriminator : UInt8)
    (policy : MemoPolicy) : List CompiledInstruction → Faulting String CompiledInstruction
  | [] =>
      faultless (.error (label ++ " transaction contains no payment-channels instruction"))
  | primary :: suffix => do
      let program ← faultless (programIn keys label primary)
      faultless (refuseIf (program ≠ programId)
        (label ++ " transaction targets an unexpected program"))
      faultless (refuseIf (primary.data.head? ≠ some discriminator)
        (label ++ " transaction is not a payment-channels " ++ label ++ " instruction"))
      let counts ← machineScanSuffix keys feePayer label policy suffix
      faultless (refuseIf (counts.memo = 0 ∧ policy.isRequired)
        (label ++ " transaction must carry exactly one Memo instruction"))
      faultless (refuseIf (counts.binding = 0 ∧ policy.isBinding)
        (label ++ " transaction must carry exactly one binding Memo"))
      let _ ← mapRefusal (machineCheckPriorityFee tx.message maxSponsoredPriorityFeeLamports)
        fun error =>
          label ++ " transaction compute unit price exceeds the sponsored fee maximum: " ++ error
      return primary

end Layout

/-- `scan_channel_tx_layout`. -/
def machineScanChannelTxLayout (tx : VersionedTransaction) (programId : Pubkey)
    (discriminator : UInt8) (label : String) (policy : MemoPolicy) :
    Faulting String CompiledInstruction := do
  let keys := tx.message.staticAccountKeys
  let feePayer ← faultless (okOr keys.head? (label ++ " transaction has no fee payer"))
  let rest ← machineScanPrefix keys feePayer label tx.message.instructions false false
  machineScanRest keys feePayer label tx programId discriminator policy rest

/-- `check_envelope`. -/
def machineCheckEnvelope (chain : Chain) (tx : VersionedTransaction)
    (expected : TransactionExpectations) (label : String) : Faulting BatchError Pubkey := do
  let version := TxVersion.of tx.message
  faultless (refuseIf (version ∉ expected.acceptedVersions)
    (⟨errors.unsupportedTransactionVersion, label ++ " transaction is version " ++
      version.display ++ ", which this sponsor does not accept"⟩ : BatchError))
  let _ ← faultless
    (envelope label (Tx.checkEnvelope chain.serializedSize tx expected.acceptedVersions))
  let _ ← mapRefusal (machineCheckV1BudgetCapsWith tx.message openMaxComputeUnitLimit
    maxComputeUnitPriceMicrolamports .present) fun error =>
      setupError (label ++ " transaction: " ++ error)
  faultless (envelope label (rejectV1HeapRequest tx.message))
  let payer ← faultless (configKey "payer" expected.config.payer)
  faultless (refuseIf (payer = expected.feePayer)
    (⟨errors.invalidFeePayerMismatch, "channelConfig.payer must not equal extra.feePayer"⟩ :
      BatchError))
  let keys := tx.message.staticAccountKeys
  faultless (refuseIf (keys.head? ≠ some expected.feePayer)
    (setupError (label ++ " transaction fee payer must be " ++ expected.feePayer.display)))
  let required := tx.message.header.numRequiredSignatures.toNat
  faultless (refuseIf (required ≠ 2)
    (setupError (label ++ s!" transaction must require exactly 2 signatures, got {required}")))
  faultless (refuseIf (keys[1]? ≠ some payer)
    (setupError (label ++ " transaction second signer must be the channel payer " ++
      payer.display)))
  faultless (refuseIf (tx.signatures.length ≠ required)
    (setupError (label ++ s!" transaction has {tx.signatures.length} signature slots but " ++
      s!"requires {required}")))
  let signature ← index tx.signatures 1
  faultless (refuseIf (¬chain.verify signature payer (chain.serialize tx.message))
    (setupError (label ++ " transaction is missing a valid channel-payer signature")))
  return payer

/-- The refusal of an `open_slot` that is too old. -/
def staleOpenSlot (openSlot recentSlot : ℕ) : BatchError :=
  setupError (s!"open open_slot {openSlot} is outside the {openSlotWindow}-slot window of " ++
    s!"the current slot {recentSlot}")

/-- The freshness checks of `check_open_args`. -/
def machineCheckOpenSlot (openSlot : ℕ) : Option ℕ → Faulting BatchError Unit
  | none => .ok ()
  | some recentSlot => do
      faultless (refuseIf (recentSlot < openSlot)
        (setupError s!"open open_slot {openSlot} is ahead of the current slot {recentSlot}"))
      let age ← minus recentSlot openSlot
      faultless (refuseIf (openSlotWindow < age)
        (staleOpenSlot openSlot recentSlot))

/-- `check_open_args`. -/
def machineCheckOpenArgs (chain : Chain) (expected : TransactionExpectations)
    (ix : CompiledInstruction) (depositAmount : ℕ) (recentSlot : Option ℕ) :
    Faulting BatchError Unit := do
  let wantLength := openArgsPrefixLength + 4 + distributionEntryLength
  faultless (refuseIf (ix.data.length ≠ wantLength)
    (setupError (s!"open args must be exactly {wantLength} bytes for a single-recipient " ++
      s!"distribution, got {ix.data.length}")))
  let saltBytes ← range ix.data 1 9
  let depositBytes ← range ix.data 9 17
  let gracePeriodBytes ← range ix.data 17 21
  let openSlotBytes ← range ix.data 21 29
  let salt := decodeLE saltBytes
  let deposit := decodeLE depositBytes
  let gracePeriod := decodeLE gracePeriodBytes
  let openSlot := decodeLE openSlotBytes
  let wantSalt ← faultless (okOr (parseU64 expected.config.salt)
    (setupError ("channelConfig.salt: invalid channelConfig.salt: " ++
      expected.config.salt.quote)))
  faultless (refuseIf (salt ≠ wantSalt)
    (setupError s!"open salt {salt} does not match channelConfig.salt {wantSalt}"))
  faultless (refuseIf (deposit ≠ depositAmount)
    (setupError s!"open deposit {deposit} does not match deposit.amount {depositAmount}"))
  faultless (refuseIf (gracePeriod ≠ expected.config.withdrawDelay)
    (⟨errors.invalidWithdrawDelayMismatch, s!"open grace_period {gracePeriod} does not match " ++
      s!"withdrawDelay {expected.config.withdrawDelay}"⟩ : BatchError))
  faultless (refuseIf (openSlot ≠ expected.config.openSlot)
    (setupError (s!"open open_slot {openSlot} does not match channelConfig.openSlot " ++
      s!"{expected.config.openSlot}")))
  let countBytes ← range ix.data openArgsPrefixLength (openArgsPrefixLength + 4)
  let count := decodeLE countBytes
  faultless (refuseIf (count ≠ 1)
    (setupError s!"open distribution must have exactly one recipient, got {count}"))
  let entry ← range ix.data (openArgsPrefixLength + 4) ix.data.length
  let recipientBytes ← range entry 0 32
  let recipient ← faultless (okOr (pubkeyOfBytes recipientBytes)
    (setupError "open distribution recipient is not a pubkey"))
  let bpsBytes ← range entry 32 34
  let bps := decodeLE bpsBytes
  faultless (refuseIf (recipient ≠ expected.receiver ∨ bps ≠ fullShareBps)
    (setupError ("open distribution must pay 100% to " ++ expected.receiver.display ++ ", got " ++
      recipient.display ++ s!" at {bps} bps")))
  let payer ← faultless ((parsePubkey expected.config.payer).mapError setupError)
  let mint ← faultless ((parsePubkey expected.config.token).mapError setupError)
  let authorizedSigner ← faultless
    ((parsePubkey expected.config.payerAuthorizer).mapError setupError)
  let derived := chain.findChannelPda payer expected.feePayer mint authorizedSigner salt openSlot
    expected.programId
  faultless (refuseIf (derived ≠ expected.channelId)
    (⟨errors.invalidChannelIdMismatch, "open channel " ++ expected.channelId.display ++
      " is not the PDA derived from its own args (" ++ derived.display ++ ")"⟩ : BatchError))
  machineCheckOpenSlot openSlot recentSlot

/-- `check_top_up_args`. -/
def machineCheckTopUpArgs (ix : CompiledInstruction) (depositAmount : ℕ) (label : String) :
    Faulting BatchError Unit := do
  faultless (refuseIf (ix.data.length ≠ 9)
    (setupError (label ++ s!" args must be exactly 9 bytes, got {ix.data.length}")))
  let amountBytes ← range ix.data 1 9
  let amount := decodeLE amountBytes
  faultless (refuseIf (amount ≠ depositAmount)
    (setupError (label ++ s!" amount {amount} does not match deposit.amount {depositAmount}")))

/-- `is_writable`: only the subtraction of the read-only signers is not a saturating one. -/
def machineIsWritable (tx : VersionedTransaction) (index : ℕ) : Faulting BatchError Bool :=
  let header := tx.message.header
  let signers := header.numRequiredSignatures.toNat
  let total := tx.message.staticAccountKeys.length
  if index < signers then do
    let writableSigners ← minus signers header.numReadonlySignedAccounts.toNat
    return index < writableSigners
  else .ok (index < total - header.numReadonlyUnsignedAccounts.toNat)

/-- `check_privileges` for an account that must be writable. -/
def machineCheckWritable (tx : VersionedTransaction) (ix : CompiledInstruction) (label : String)
    (position : ℕ) (role : String) : Faulting BatchError Unit := do
  let accountIndex ← faultless (okOr ix.accounts[position]?
    (setupError (label ++ " " ++ role ++ s!" account position {position} is missing")))
  let writable ← machineIsWritable tx accountIndex.toNat
  faultless (refuseIf (¬writable) (setupError (label ++ " " ++ role ++ " must be writable")))

/-- The positions whose privileges are checked, with their roles. -/
def SetupForm.writableRoles : SetupForm → List (ℕ × String)
  | .open => [(0, "payer"), (1, "rent_payer"), (5, "channel"), (6, "payer_token_account"),
      (7, "channel_token_account")]
  | .topUp => [(0, "payer"), (1, "channel"), (2, "payer_token_account"),
      (3, "channel_token_account")]

/-- `validate_setup_transaction`, from a decoded transaction. -/
def machineValidateSetup (chain : Chain) (tx : VersionedTransaction) (form : SetupForm)
    (expected : TransactionExpectations) (depositAmount : ℕ) (recentSlot : Option ℕ) :
    Faulting BatchError ValidatedTransaction := do
  let label := form.label
  let payer ← machineCheckEnvelope chain tx expected label
  let keys := tx.message.staticAccountKeys
  let policy := match form with
    | .open => MemoPolicy.requiredWithBinding expected.memo receiverBindingMemoPrefix
    | .topUp => MemoPolicy.required expected.memo
  let ix ← mapRefusal
    (machineScanChannelTxLayout tx expected.programId form.discriminator label policy) setupError
  match form with
  | .open => do
      faultless (checkReceiverBinding expected tx keys)
      faultless (checkOpenAccounts chain expected keys payer ix label)
      machineCheckOpenArgs chain expected ix depositAmount recentSlot
      SetupForm.open.writableRoles.forM fun entry =>
        machineCheckWritable tx ix label entry.1 entry.2
      return ⟨tx, payer⟩
  | .topUp => do
      faultless (checkTopUpAccounts chain expected keys payer ix label)
      machineCheckTopUpArgs ix depositAmount label
      SetupForm.topUp.writableRoles.forM fun entry =>
        machineCheckWritable tx ix label entry.1 entry.2
      faultless (rejectFeePayerAccount keys expected.feePayer ix label)
      return ⟨tx, payer⟩

/-- `validate_request_close_transaction`, from a decoded transaction. -/
def machineValidateRequestClose (chain : Chain) (tx : VersionedTransaction)
    (expected : TransactionExpectations) : Faulting BatchError ValidatedTransaction := do
  let label := "request_close"
  let payer ← mapRefusal (machineCheckEnvelope chain tx expected label) fun error =>
    if error.code = errors.unsupportedTransactionVersion then error else refundError error.detail
  let keys := tx.message.staticAccountKeys
  let ix ← mapRefusal (machineScanChannelTxLayout tx expected.programId requestCloseDiscriminator
    label (.required expected.memo)) refundError
  faultless (refuseIf (ix.accounts.length ≠ 2)
    (refundError s!"request_close must have exactly 2 accounts, got {ix.accounts.length}"))
  faultless ((expectAccounts keys ix label 0 [("payer", payer), ("channel", expected.channelId)])
    |>.mapError fun error => refundError error.detail)
  faultless (refuseIf (ix.data.length ≠ 1)
    (refundError s!"request_close takes no arguments, got {ix.data.length} data bytes"))
  mapRefusal (machineCheckWritable tx ix label 1 "channel") fun error => refundError error.detail
  faultless ((rejectFeePayerAccount keys expected.feePayer ix label).mapError fun error =>
    refundError error.detail)
  return ⟨tx, payer⟩

/-- The validator of what a client submits. -/
def Submission.machineValidate (chain : Chain) (tx : VersionedTransaction)
    (expected : TransactionExpectations) : Submission → Faulting BatchError ValidatedTransaction
  | .setup form depositAmount recentSlot =>
      machineValidateSetup chain tx form expected depositAmount recentSlot
  | .requestClose => machineValidateRequestClose chain tx expected

/-! ### The guarded operations -/

theorem machineDecodeComputeBudgetOp_eq (ix : CompiledInstruction) :
    machineDecodeComputeBudgetOp ix = .ok (decodeComputeBudgetOp ix) := by
  unfold machineDecodeComputeBudgetOp decodeComputeBudgetOp
  split_ifs with hLimit hPrice hLoaded
  · rw [range_of_le (by omega) (by omega)]
    rfl
  · rw [range_of_le (by omega) (by omega)]
    rfl
  · rw [range_of_le (by omega) (by omega)]
    rfl
  · rfl

section Layout

variable {keys : List Pubkey} {feePayer : Pubkey} {label : String}

theorem machineScanPrefix_eq (instructions : List CompiledInstruction)
    (seenLimit seenPrice : Bool) :
    machineScanPrefix keys feePayer label instructions seenLimit seenPrice =
      faultless (scanPrefix keys feePayer label instructions seenLimit seenPrice) := by
  induction instructions generalizing seenLimit seenPrice with
  | nil => rfl
  | cons ix rest hInduction =>
      rw [machineScanPrefix, scanPrefix]
      refine bind_eq_faultless rfl fun program _ => ?_
      by_cases hProgram : program ≠ computeBudgetProgram
      · rw [if_pos hProgram, if_pos hProgram]
        rfl
      · rw [if_neg hProgram, if_neg hProgram]
        refine bind_eq_faultless rfl fun _ _ => ?_
        rw [machineDecodeComputeBudgetOp_eq, ok_bind]
        cases decodeComputeBudgetOp ix with
        | none => rfl
        | some op =>
            cases op with
            | unitLimit units =>
                refine bind_eq_faultless rfl fun _ _ => ?_
                refine bind_eq_faultless rfl fun _ _ => ?_
                exact bind_eq_faultless rfl fun _ _ => hInduction true seenPrice
            | unitPrice price =>
                refine bind_eq_faultless rfl fun _ _ => ?_
                exact bind_eq_faultless rfl fun _ _ => hInduction seenLimit true
            | loadedAccountsDataSizeLimit bytes => rfl

theorem machineScanSuffix_eq (policy : MemoPolicy) (suffix : List CompiledInstruction) :
    machineScanSuffix keys feePayer label policy suffix =
      faultless (scanSuffix keys feePayer label policy suffix {}) := by
  have hBound : 1 ≤ openMaxOptionalSuffix + policy.maxMemos := by
    simp only [openMaxOptionalSuffix]
    omega
  rw [machineScanSuffix, minus_of_le hBound, ok_bind]

end Layout

theorem machineScanChannelTxLayout_eq {tx : VersionedTransaction}
    (hFields : tx.message.FitsFields) (programId : Pubkey) (discriminator : UInt8)
    (label : String) (policy : MemoPolicy) :
    machineScanChannelTxLayout tx programId discriminator label policy =
      faultless (scanChannelTxLayout tx programId discriminator label policy) := by
  rw [machineScanChannelTxLayout, scanChannelTxLayout]
  refine bind_eq_faultless rfl fun feePayer _ => ?_
  refine bind_eq_faultless (machineScanPrefix_eq _ _ _) fun rest _ => ?_
  cases rest with
  | nil => rfl
  | cons primary suffix =>
      refine bind_eq_faultless rfl fun program _ => ?_
      refine bind_eq_faultless rfl fun _ _ => ?_
      refine bind_eq_faultless rfl fun _ _ => ?_
      refine bind_eq_faultless (machineScanSuffix_eq policy suffix) fun counts _ => ?_
      refine bind_eq_faultless rfl fun _ _ => ?_
      refine bind_eq_faultless rfl fun _ _ => ?_
      refine bind_eq_faultless ?_ fun _ _ => rfl
      rw [machineCheckPriorityFee_eq hFields, mapRefusal_faultless]

theorem machineCheckEnvelope_eq {tx : VersionedTransaction} (hFields : tx.message.FitsFields)
    (chain : Chain) (expected : TransactionExpectations) (label : String) :
    machineCheckEnvelope chain tx expected label =
      faultless (checkEnvelope chain tx expected label) := by
  rw [machineCheckEnvelope, checkEnvelope]
  refine bind_eq_faultless rfl fun _ _ => ?_
  refine bind_eq_faultless rfl fun _ _ => ?_
  refine bind_eq_faultless ?_ fun _ _ => ?_
  · rw [machineCheckV1BudgetCapsWith_eq hFields, mapRefusal_faultless]
    rfl
  refine bind_eq_faultless rfl fun _ _ => ?_
  refine bind_eq_faultless rfl fun payer _ => ?_
  refine bind_eq_faultless rfl fun _ _ => ?_
  refine bind_eq_faultless rfl fun _ _ => ?_
  refine bind_eq_faultless rfl fun _ hRequired => ?_
  refine bind_eq_faultless rfl fun _ _ => ?_
  refine bind_eq_faultless rfl fun _ hSignatures => ?_
  -- There are exactly two signatures, so the second is there.
  rw [refuseIf_eq_ok, not_not] at hRequired hSignatures
  have hSecond : tx.signatures[1]? = some (tx.signatures.get ⟨1, by omega⟩) :=
    List.getElem?_eq_getElem (by omega)
  rw [index_of_getElem? hSecond, ok_bind, hSecond]
  exact bind_eq_faultless rfl fun _ _ => rfl

theorem machineCheckOpenSlot_eq (openSlot : ℕ) (recentSlot : Option ℕ) :
    machineCheckOpenSlot openSlot recentSlot = faultless (do
      refuseIf (recentSlot.any (· < openSlot))
        (setupError s!"open open_slot {openSlot} is ahead of the current slot {recentSlot.getD 0}")
      refuseIf (recentSlot.any (openSlotWindow < · - openSlot))
        (staleOpenSlot openSlot (recentSlot.getD 0))) := by
  cases recentSlot with
  | none => rfl
  | some recentSlot =>
      simp only [machineCheckOpenSlot, Option.any_some, Option.getD_some]
      refine bind_eq_faultless (congrArg faultless (refuseIf_congr ?_)) fun _ hAhead => ?_
      · rw [decide_eq_true_eq]
      · rw [refuseIf_eq_ok, decide_eq_true_eq, not_lt] at hAhead
        rw [minus_of_le hAhead, ok_bind]
        exact congrArg faultless (refuseIf_congr decide_eq_true_iff.symm)

theorem machineCheckOpenArgs_eq (chain : Chain) (expected : TransactionExpectations)
    (ix : CompiledInstruction) (depositAmount : ℕ) (recentSlot : Option ℕ) :
    machineCheckOpenArgs chain expected ix depositAmount recentSlot =
      faultless (checkOpenArgs chain expected ix depositAmount recentSlot) := by
  rw [machineCheckOpenArgs, checkOpenArgs]
  refine bind_eq_faultless rfl fun _ hLength => ?_
  rw [refuseIf_eq_ok, not_not] at hLength
  have hBytes : ix.data.length = 67 := hLength
  have hPrefix : openArgsPrefixLength = 29 := rfl
  rw [range_of_le (by omega) (by omega), ok_bind, range_of_le (by omega) (by omega), ok_bind,
    range_of_le (by omega) (by omega), ok_bind, range_of_le (by omega) (by omega), ok_bind]
  refine bind_eq_faultless rfl fun wantSalt _ => ?_
  refine bind_eq_faultless rfl fun _ _ => ?_
  refine bind_eq_faultless rfl fun _ _ => ?_
  refine bind_eq_faultless rfl fun _ _ => ?_
  refine bind_eq_faultless rfl fun _ _ => ?_
  rw [range_of_le (by omega) (by omega), ok_bind]
  refine bind_eq_faultless rfl fun _ _ => ?_
  have hEntry : (ix.data.drop (openArgsPrefixLength + 4)).length = 34 := by
    rw [List.length_drop]
    omega
  rw [range_of_le (by omega) le_rfl, ok_bind, List.take_length, range_of_le (by omega) (by omega),
    ok_bind, List.drop_zero]
  refine bind_eq_faultless rfl fun recipient _ => ?_
  rw [range_of_le (by omega) (by omega), ok_bind]
  refine bind_eq_faultless rfl fun _ _ => ?_
  refine bind_eq_faultless rfl fun payer _ => ?_
  refine bind_eq_faultless rfl fun mint _ => ?_
  refine bind_eq_faultless rfl fun authorizedSigner _ => ?_
  refine bind_eq_faultless rfl fun _ _ => ?_
  exact machineCheckOpenSlot_eq (fromLeBytes ix.data 21 29) recentSlot

theorem machineCheckTopUpArgs_eq (ix : CompiledInstruction) (depositAmount : ℕ) (label : String) :
    machineCheckTopUpArgs ix depositAmount label =
      faultless (checkTopUpArgs ix depositAmount label) := by
  rw [machineCheckTopUpArgs, checkTopUpArgs]
  refine bind_eq_faultless rfl fun _ hLength => ?_
  rw [refuseIf_eq_ok, not_not] at hLength
  rw [range_of_le (by omega) (by omega), ok_bind]
  rfl

/-! ### Up to the privileges, and from there -/

namespace Submission

/-- The positions of the accounts whose privileges are checked. -/
def writablePositions : Submission → List ℕ
  | setup form _ _ => form.writableRoles.map Prod.fst
  | requestClose => [1]

/-- Whether the instruction must not name the fee payer. -/
def excludesFeePayer : Submission → Bool
  | setup .open _ _ => false
  | setup .topUp _ _ => true
  | requestClose => true

/-- The checks before those of the privileges: the payer and the instruction. -/
def checkBeforePrivileges (chain : Chain) (tx : VersionedTransaction)
    (expected : TransactionExpectations) :
    Submission → Except BatchError (Pubkey × CompiledInstruction)
  | setup .open depositAmount recentSlot => do
      let payer ← checkEnvelope chain tx expected SetupForm.open.label
      let ix ← (scanChannelTxLayout tx expected.programId SetupForm.open.discriminator
        SetupForm.open.label (.requiredWithBinding expected.memo receiverBindingMemoPrefix))
        |>.mapError setupError
      checkReceiverBinding expected tx tx.message.staticAccountKeys
      checkOpenAccounts chain expected tx.message.staticAccountKeys payer ix SetupForm.open.label
      checkOpenArgs chain expected ix depositAmount recentSlot
      return (payer, ix)
  | setup .topUp depositAmount _ => do
      let payer ← checkEnvelope chain tx expected SetupForm.topUp.label
      let ix ← (scanChannelTxLayout tx expected.programId SetupForm.topUp.discriminator
        SetupForm.topUp.label (.required expected.memo)).mapError setupError
      checkTopUpAccounts chain expected tx.message.staticAccountKeys payer ix SetupForm.topUp.label
      checkTopUpArgs ix depositAmount SetupForm.topUp.label
      return (payer, ix)
  | requestClose => do
      let payer ← (checkEnvelope chain tx expected "request_close").mapError fun error =>
        if error.code = errors.unsupportedTransactionVersion then error
        else refundError error.detail
      let ix ← (scanChannelTxLayout tx expected.programId requestCloseDiscriminator
        "request_close" (.required expected.memo)).mapError refundError
      refuseIf (ix.accounts.length ≠ 2)
        (refundError s!"request_close must have exactly 2 accounts, got {ix.accounts.length}")
      (expectAccounts tx.message.staticAccountKeys ix "request_close" 0
        [("payer", payer), ("channel", expected.channelId)]).mapError fun error =>
          refundError error.detail
      refuseIf (ix.data.length ≠ 1)
        (refundError s!"request_close takes no arguments, got {ix.data.length} data bytes")
      return (payer, ix)

def machineCheckPrivileges (tx : VersionedTransaction) (ix : CompiledInstruction) :
    Submission → Faulting BatchError Unit
  | setup form _ _ =>
      form.writableRoles.forM fun entry => machineCheckWritable tx ix form.label entry.1 entry.2
  | requestClose =>
      mapRefusal (machineCheckWritable tx ix "request_close" 1 "channel") fun error =>
        refundError error.detail

/-- The check after those of the privileges. -/
def checkFeePayer (tx : VersionedTransaction) (expected : TransactionExpectations)
    (ix : CompiledInstruction) : Submission → Except BatchError Unit
  | setup .open _ _ => .ok ()
  | setup .topUp _ _ =>
      rejectFeePayerAccount tx.message.staticAccountKeys expected.feePayer ix SetupForm.topUp.label
  | requestClose =>
      (rejectFeePayerAccount tx.message.staticAccountKeys expected.feePayer ix "request_close")
        |>.mapError fun error => refundError error.detail

variable {chain : Chain} {tx : VersionedTransaction} {expected : TransactionExpectations}

theorem machineValidate_eq (hFields : tx.message.FitsFields) (submission : Submission) :
    submission.machineValidate chain tx expected =
      faultless (submission.checkBeforePrivileges chain tx expected) >>= fun checked =>
        submission.machineCheckPrivileges tx checked.2 >>= fun _ =>
          faultless (submission.checkFeePayer tx expected checked.2) >>= fun _ =>
            .ok ⟨tx, checked.1⟩ := by
  cases submission with
  | requestClose =>
      simp only [machineValidate, machineValidateRequestClose, checkBeforePrivileges,
        machineCheckPrivileges, checkFeePayer, machineCheckEnvelope_eq hFields,
        machineScanChannelTxLayout_eq hFields, mapRefusal_faultless, faultless_bind, bind_assoc]
      rfl
  | setup form depositAmount recentSlot =>
      cases form with
      | «open» =>
          simp only [machineValidate, machineValidateSetup, checkBeforePrivileges,
            machineCheckPrivileges, checkFeePayer, machineCheckEnvelope_eq hFields,
            machineScanChannelTxLayout_eq hFields, machineCheckOpenArgs_eq, mapRefusal_faultless,
            faultless_bind, bind_assoc]
          rfl
      | topUp =>
          simp only [machineValidate, machineValidateSetup, checkBeforePrivileges,
            machineCheckPrivileges, checkFeePayer, machineCheckEnvelope_eq hFields,
            machineScanChannelTxLayout_eq hFields, machineCheckTopUpArgs_eq, mapRefusal_faultless,
            faultless_bind, bind_assoc]
          rfl

end Submission

/-! ### The privileges of an inconsistent header -/

/-- The header's counts fit each other and the keys. -/
def ConsistentHeader (message : VersionedMessage) : Prop :=
  message.header.numReadonlySignedAccounts ≤ message.header.numRequiredSignatures ∧
    message.header.numRequiredSignatures.toNat ≤ message.staticAccountKeys.length

instance (message : VersionedMessage) : Decidable (ConsistentHeader message) :=
  inferInstanceAs (Decidable (_ ∧ _))

/-- What an account can be that is not a writable one of no signer. -/
inductive Obstacle where
  | signer
  | readonly
deriving DecidableEq

/-- The first of the accounts that is a signer's or read-only. -/
def firstObstacle (message : VersionedMessage) : List UInt8 → Option Obstacle
  | [] => none
  | account :: rest =>
      if account < message.header.numRequiredSignatures then some .signer
      else if message.staticAccountKeys.length -
          message.header.numReadonlyUnsignedAccounts.toNat ≤ account.toNat then some .readonly
      else firstObstacle message rest

/-- How the checks of privileges end: with a fault, a refusal or neither. -/
def EndsAs (run : Faulting BatchError Unit) : Option Obstacle → Prop
  | some .signer => run = fault
  | some .readonly => ∃ error, run = .error (.refused error)
  | none => run = .ok ()

theorem firstObstacle_append (message : VersionedMessage) (before after : List UInt8) :
    firstObstacle message (before ++ after) =
      (firstObstacle message before).or (firstObstacle message after) := by
  induction before with
  | nil => rfl
  | cons account before hInduction =>
      simp only [List.cons_append, firstObstacle]
      split
      · rfl
      · split
        · rfl
        · exact hInduction

theorem EndsAs.bind {run rest : Faulting BatchError Unit} {first later : Option Obstacle}
    (hRun : EndsAs run first) (hRest : EndsAs rest later) :
    EndsAs (run >>= fun _ => rest) (first.or later) := by
  match first, hRun with
  | some .signer, hRun =>
      have hFault : run = fault := hRun
      rw [hFault]
      rfl
  | some .readonly, hRun =>
      rcases hRun with ⟨error, hRefused⟩
      rw [hRefused]
      exact ⟨error, rfl⟩
  | none, hRun =>
      have hDone : run = .ok () := hRun
      rw [hDone, ok_bind, Option.none_or]
      exact hRest

theorem EndsAs.mapRefusal {run : Faulting BatchError Unit} {obstacle : Option Obstacle}
    {wrap : BatchError → BatchError} (hRun : EndsAs run obstacle) :
    EndsAs (mapRefusal run wrap) obstacle := by
  match obstacle, hRun with
  | some .signer, hRun =>
      have hFault : run = fault := hRun
      rw [hFault]
      rfl
  | some .readonly, hRun =>
      rcases hRun with ⟨error, hRefused⟩
      rw [hRefused]
      exact ⟨wrap error, rfl⟩
  | none, hRun =>
      have hDone : run = .ok () := hRun
      rw [hDone]
      rfl

section Privileges

variable {tx : VersionedTransaction} {ix : CompiledInstruction} {label role : String}
  {position : ℕ}

theorem machineCheckWritable_endsAs {account : UInt8}
    (hReadonly : tx.message.header.numRequiredSignatures <
      tx.message.header.numReadonlySignedAccounts)
    (hAccount : ix.accounts[position]? = some account) :
    EndsAs (machineCheckWritable tx ix label position role)
      (firstObstacle tx.message [account]) := by
  have hUnderflow : ¬tx.message.header.numReadonlySignedAccounts.toNat ≤
      tx.message.header.numRequiredSignatures.toNat := by
    rw [not_le]
    exact UInt8.lt_iff_toNat_lt.mp hReadonly
  simp only [machineCheckWritable, hAccount, okOr, faultless_ok, ok_bind, machineIsWritable,
    firstObstacle]
  by_cases hSigner : account < tx.message.header.numRequiredSignatures
  · have hIndex := UInt8.lt_iff_toNat_lt.mp hSigner
    rw [if_pos hSigner, if_pos hIndex, minus, if_neg hUnderflow]
    rfl
  · have hIndex : ¬account.toNat < tx.message.header.numRequiredSignatures.toNat :=
      fun hLess => hSigner (UInt8.lt_iff_toNat_lt.mpr hLess)
    rw [if_neg hSigner, if_neg hIndex, ok_bind]
    split
    · next hLate =>
        refine ⟨setupError (label ++ " " ++ role ++ " must be writable"), ?_⟩
        have hDenied : ¬account.toNat < tx.message.staticAccountKeys.length -
            tx.message.header.numReadonlyUnsignedAccounts.toNat := not_lt.mpr hLate
        simp [refuseIf, hDenied]
    · next hEarly =>
        have hAllowed := not_le.mp hEarly
        simp [refuseIf, hAllowed, EndsAs]

/-- The accounts at some positions of an instruction. -/
def accountsAt (ix : CompiledInstruction) (positions : List ℕ) : List UInt8 :=
  positions.filterMap (ix.accounts[·]?)

theorem forM_machineCheckWritable_endsAs {roles : List (ℕ × String)}
    (hReadonly : tx.message.header.numRequiredSignatures <
      tx.message.header.numReadonlySignedAccounts)
    (hPositions : ∀ position ∈ roles.map Prod.fst, position < ix.accounts.length) :
    EndsAs (roles.forM fun entry => machineCheckWritable tx ix label entry.1 entry.2)
      (firstObstacle tx.message (accountsAt ix (roles.map Prod.fst))) := by
  induction roles with
  | nil => rfl
  | cons entry roles hInduction =>
      rcases entry with ⟨position, role⟩
      simp only [List.map_cons, List.forall_mem_cons] at hPositions
      rcases hPositions with ⟨hHere, hLater⟩
      have hAccount : ix.accounts[position]? = some (ix.accounts.get ⟨position, hHere⟩) :=
        List.getElem?_eq_getElem hHere
      have hFirst : EndsAs (machineCheckWritable tx ix label position role)
          (firstObstacle tx.message [ix.accounts.get ⟨position, hHere⟩]) :=
        machineCheckWritable_endsAs hReadonly hAccount
      have hAccounts : accountsAt ix (((position, role) :: roles).map Prod.fst) =
          [ix.accounts.get ⟨position, hHere⟩] ++ accountsAt ix (roles.map Prod.fst) := by
        simp [accountsAt, hAccount]
      rw [hAccounts, firstObstacle_append, List.forM]
      exact hFirst.bind (hInduction hLater)

theorem machineCheckWritable_faultless
    (hConsistent : tx.message.header.numReadonlySignedAccounts ≤
      tx.message.header.numRequiredSignatures) :
    Yields (fun _ => True) (machineCheckWritable tx ix label position role) := by
  have hOrder := UInt8.le_iff_toNat_le.mp hConsistent
  refine (yields_faultless fun _ _ => trivial).bind fun account _ => ?_
  have hWritable : Yields (fun _ => True) (machineIsWritable tx account.toNat) := by
    simp only [machineIsWritable, minus_of_le hOrder, ok_bind]
    split <;> exact yields_ok trivial
  exact hWritable.bind fun writable _ => yields_faultless fun _ _ => trivial

theorem forM_machineCheckWritable_faultless {roles : List (ℕ × String)}
    (hConsistent : tx.message.header.numReadonlySignedAccounts ≤
      tx.message.header.numRequiredSignatures) :
    Yields (fun _ => True)
      (roles.forM fun entry => machineCheckWritable tx ix label entry.1 entry.2) := by
  induction roles with
  | nil => exact yields_ok trivial
  | cons entry roles hInduction =>
      rw [List.forM]
      exact (machineCheckWritable_faultless hConsistent).bind fun _ _ => hInduction

end Privileges

/-! ### Exactly when a message is handled safely -/

namespace Submission

variable {chain : Chain} {tx : VersionedTransaction} {expected : TransactionExpectations}
  {submission : Submission} {payer : Pubkey} {ix : CompiledInstruction}

theorem checkBeforePrivileges_eq_ok
    (hChecked : submission.checkBeforePrivileges chain tx expected = .ok (payer, ix)) :
    tx.message.header.numRequiredSignatures.toNat ≤ tx.message.staticAccountKeys.length ∧
      ∀ position ∈ submission.writablePositions, position < ix.accounts.length := by
  have hKeys : ∀ {label : String} {signer : Pubkey},
      checkEnvelope chain tx expected label = .ok signer →
        tx.message.header.numRequiredSignatures.toNat ≤ tx.message.staticAccountKeys.length := by
    intro label signer hEnvelope
    have hSigned : SignedBy (fun _ _ => True) tx expected signer :=
      checkEnvelope_eq_ok (fun _ _ _ _ => trivial) hEnvelope
    have hSecond := (List.getElem?_eq_some_iff.mp hSigned.payerSecond).1
    rw [hSigned.required]
    exact hSecond
  cases submission with
  | requestClose =>
      simp only [checkBeforePrivileges, bind_eq_ok, mapError_eq_ok, refuseIf_eq_ok, not_not,
        exists_const, pure, Except.pure, Except.ok.injEq, Prod.mk.injEq] at hChecked
      rcases hChecked with ⟨signer, hEnvelope, _, _, hLength, _, _, _, rfl, rfl⟩
      refine ⟨hKeys hEnvelope, ?_⟩
      simp [writablePositions, hLength]
  | setup form depositAmount recentSlot =>
      cases form with
      | «open» =>
          simp only [checkBeforePrivileges, checkOpenAccounts, bind_eq_ok, mapError_eq_ok,
            refuseIf_eq_ok, not_not, exists_const, pure, Except.pure, Except.ok.injEq,
            Prod.mk.injEq] at hChecked
          rcases hChecked with
            ⟨signer, hEnvelope, _, _, _, _, _, ⟨hLength, _⟩, _, _, rfl, rfl⟩
          refine ⟨hKeys hEnvelope, ?_⟩
          simp [writablePositions, SetupForm.writableRoles, hLength]
      | topUp =>
          simp only [checkBeforePrivileges, checkTopUpAccounts, bind_eq_ok, mapError_eq_ok,
            refuseIf_eq_ok, not_not, exists_const, pure, Except.pure, Except.ok.injEq,
            Prod.mk.injEq] at hChecked
          rcases hChecked with ⟨signer, hEnvelope, _, _, _, ⟨hLength, _⟩, _, _, rfl, rfl⟩
          refine ⟨hKeys hEnvelope, ?_⟩
          simp [writablePositions, SetupForm.writableRoles, hLength]

theorem machineCheckPrivileges_faultless
    (hConsistent : tx.message.header.numReadonlySignedAccounts ≤
      tx.message.header.numRequiredSignatures) :
    submission.machineCheckPrivileges tx ix ≠ fault := by
  cases submission with
  | setup form depositAmount recentSlot =>
      exact (forM_machineCheckWritable_faultless hConsistent).1
  | requestClose =>
      have hRun : machineCheckWritable tx ix "request_close" 1 "channel" ≠ fault :=
        (machineCheckWritable_faultless hConsistent).1
      simp only [machineCheckPrivileges]
      cases hEnd : machineCheckWritable tx ix "request_close" 1 "channel" with
      | ok value => exact nofun
      | error halt =>
          cases halt with
          | refused error => exact nofun
          | fault => exact absurd hEnd hRun

theorem machineCheckPrivileges_endsAs
    (hReadonly : tx.message.header.numRequiredSignatures <
      tx.message.header.numReadonlySignedAccounts)
    (hPositions : ∀ position ∈ submission.writablePositions, position < ix.accounts.length) :
    EndsAs (submission.machineCheckPrivileges tx ix)
      (firstObstacle tx.message (accountsAt ix submission.writablePositions)) := by
  cases submission with
  | setup form depositAmount recentSlot =>
      exact forM_machineCheckWritable_endsAs hReadonly hPositions
  | requestClose =>
      have hSecond : 1 < ix.accounts.length := hPositions 1 (by simp [writablePositions])
      have hAccount : ix.accounts[1]? = some (ix.accounts.get ⟨1, hSecond⟩) :=
        List.getElem?_eq_getElem hSecond
      have hRun : EndsAs (machineCheckWritable tx ix "request_close" 1 "channel")
          (firstObstacle tx.message [ix.accounts.get ⟨1, hSecond⟩]) :=
        machineCheckWritable_endsAs hReadonly hAccount
      have hAccounts : accountsAt ix requestClose.writablePositions =
          [ix.accounts.get ⟨1, hSecond⟩] := by
        simp [accountsAt, writablePositions, hAccount]
      rw [hAccounts]
      exact hRun.mapRefusal

theorem checkFeePayer_eq_ok {value : Unit} :
    submission.checkFeePayer tx expected ix = .ok value ↔
      ¬(submission.excludesFeePayer = true ∧
        namesFeePayer tx.message.staticAccountKeys expected.feePayer ix = true) := by
  cases submission with
  | setup form depositAmount recentSlot =>
      cases form <;> simp [checkFeePayer, excludesFeePayer, rejectFeePayerAccount]
  | requestClose => simp [checkFeePayer, excludesFeePayer, rejectFeePayerAccount]

end Submission

/-- A transaction that decodes is validated without a fault, and refused when the counts of its
header do not fit each other or the keys. -/
def SafelyValidates (chain : Chain) (transaction : String) (expected : TransactionExpectations)
    (submission : Submission) : Prop :=
  ∀ tx, chain.decode transaction = .ok tx →
    submission.machineValidate chain tx expected ≠ fault ∧
      (¬ConsistentHeader tx.message →
        ∃ error, submission.machineValidate chain tx expected = .error (.refused error))

/-- A transaction that passes the checks before those of the privileges does not have more
read-only signers than signers, or else none of the accounts that are looked at is a signer's up
to one that is read-only or, without such a one, the instruction names the fee payer where it
must not. -/
def Guarded (chain : Chain) (transaction : String) (expected : TransactionExpectations)
    (submission : Submission) : Prop :=
  ∀ tx payer ix, chain.decode transaction = .ok tx →
    submission.checkBeforePrivileges chain tx expected = .ok (payer, ix) →
      tx.message.header.numReadonlySignedAccounts ≤ tx.message.header.numRequiredSignatures ∨
      firstObstacle tx.message (accountsAt ix submission.writablePositions) = some .readonly ∨
      (firstObstacle tx.message (accountsAt ix submission.writablePositions) = none ∧
        submission.excludesFeePayer = true ∧
        namesFeePayer tx.message.staticAccountKeys expected.feePayer ix = true)

section

variable {chain : Chain} {tx : VersionedTransaction} {expected : TransactionExpectations}
  {submission : Submission} {payer : Pubkey} {ix : CompiledInstruction}

theorem machineValidate_of_refused (hFields : tx.message.FitsFields) {error : BatchError}
    (hChecked : submission.checkBeforePrivileges chain tx expected = .error error) :
    submission.machineValidate chain tx expected = .error (.refused error) := by
  rw [Submission.machineValidate_eq hFields, hChecked]
  rfl

/-- With a consistent header nothing faults after the checks before those of the privileges. -/
theorem machineValidate_of_consistent (hFields : tx.message.FitsFields)
    (hChecked : submission.checkBeforePrivileges chain tx expected = .ok (payer, ix))
    (hConsistent : tx.message.header.numReadonlySignedAccounts ≤
      tx.message.header.numRequiredSignatures) :
    submission.machineValidate chain tx expected ≠ fault := by
  have hPrivileges : submission.machineCheckPrivileges tx ix ≠ fault :=
    Submission.machineCheckPrivileges_faultless hConsistent
  rw [Submission.machineValidate_eq hFields, hChecked, faultless_ok, ok_bind]
  cases hRun : submission.machineCheckPrivileges tx ix with
  | error halt =>
      cases halt with
      | refused error => exact nofun
      | fault => exact absurd hRun hPrivileges
  | ok value =>
      rw [ok_bind]
      cases submission.checkFeePayer tx expected ix <;> exact nofun

/-- With more read-only signers than signers, the first obstacle decides how a run ends. -/
theorem machineValidate_of_inconsistent (hFields : tx.message.FitsFields)
    (hChecked : submission.checkBeforePrivileges chain tx expected = .ok (payer, ix))
    (hReadonly : tx.message.header.numRequiredSignatures <
      tx.message.header.numReadonlySignedAccounts) :
    (submission.machineValidate chain tx expected ≠ fault ∧
        ∃ error, submission.machineValidate chain tx expected = .error (.refused error)) ↔
      firstObstacle tx.message (accountsAt ix submission.writablePositions) = some .readonly ∨
      (firstObstacle tx.message (accountsAt ix submission.writablePositions) = none ∧
        submission.excludesFeePayer = true ∧
        namesFeePayer tx.message.staticAccountKeys expected.feePayer ix = true) := by
  have hEnds : EndsAs (submission.machineCheckPrivileges tx ix) _ :=
    Submission.machineCheckPrivileges_endsAs hReadonly
      (Submission.checkBeforePrivileges_eq_ok hChecked).2
  rw [Submission.machineValidate_eq hFields, hChecked, faultless_ok, ok_bind]
  cases hObstacle : firstObstacle tx.message (accountsAt ix submission.writablePositions) with
  | none =>
      rw [hObstacle] at hEnds
      have hRun : submission.machineCheckPrivileges tx ix = .ok () := hEnds
      rw [hRun, ok_bind]
      have hNamed : submission.checkFeePayer tx expected ix = .ok () ↔ _ :=
        Submission.checkFeePayer_eq_ok
      cases hFeePayer : submission.checkFeePayer tx expected ix with
      | ok value =>
          have hUnnamed := hNamed.mp hFeePayer
          simp [hUnnamed]
      | error error =>
          have hNames := not_not.mp (mt hNamed.mpr (by simp [hFeePayer]))
          refine iff_of_true ⟨?_, error, rfl⟩ (.inr ⟨rfl, hNames⟩)
          rintro ⟨⟩
  | some obstacle =>
      rw [hObstacle] at hEnds
      cases obstacle with
      | signer =>
          have hRun : submission.machineCheckPrivileges tx ix = fault := hEnds
          rw [hRun]
          simp [fault, bind, Except.bind]
      | readonly =>
          rcases hEnds with ⟨error, hRun⟩
          rw [hRun]
          refine iff_of_true ⟨?_, error, rfl⟩ (.inl rfl)
          rintro ⟨⟩

end

theorem closeChain_fitsFields (transaction : String) (tx : VersionedTransaction)
    (hDecoded : closeChain.decode transaction = .ok tx) : tx.message.FitsFields := by
  simp only [closeChain] at hDecoded
  split at hDecoded
  · cases hDecoded
    trivial
  · cases hDecoded

/-- The payer's Ed25519 signature of the close with three read-only signers of two. -/
def hostileSignature : Signature where
  bytes := [215, 54, 69, 33, 195, 15, 248, 101, 190, 150, 60, 232, 97, 6, 97, 226, 200, 62, 96, 182,
    188, 86, 53, 252, 188, 197, 204, 25, 115, 164, 241, 80, 172, 119, 166, 119, 1, 98, 191, 234,
    138, 30, 172, 63, 184, 158, 204, 150, 14, 252, 87, 109, 237, 146, 190, 232, 23, 49, 11, 89, 4,
    107, 254, 13]
  length_bytes := rfl

/-- The close with three read-only signers of two. -/
def hostileTransaction : VersionedTransaction where
  signatures := [Signature.default, hostileSignature]
  message := .v0
    { header := ⟨2, 3, 3⟩
      accountKeys := closeTransaction.message.staticAccountKeys
      recentBlockhash := List.replicate 32 0
      instructions := closeTransaction.message.instructions }
    []

/-- The wire form of the transaction in base 64. -/
def hostileText : String :=
  "AgAAAAAAAAAAAAAAAAAAAAAAAAAAAAAAAAAAAAAAAAAAAAAAAAAAAAAAAAAAAAAAAAAAAAAAAAAAAAAAAAAA" ++
  "AAADXNkUhww/4Zb6WPOhhBmHiyD5gtrxWNfy8xcwZc6TxUKx3pncBYr/qih6sP7iezJYO/Fdt7ZK+6BcxC1k" ++
  "Ea/4NgAIDAwYAAAAAAAAAAAAAAAAAAAAAAAAAAAAAAAAAAAAAAAAAAYE5dw6ofRdfVqNUZsNMfszLjYqRtO4" ++
  "3ol32D1uPybOUAAAAAAAAAAAAAAAAAAAAAAAAAAAAAAAAAAAAAAAAAAOnofuk6ysJCZP30t/WK4niuHIHemO" ++
  "f19dHqOmfY9QVrgVKU1qZKSEGTSTocWDaOHx8NbXdvJK7geQfqEBBBUSNAwZGb+UhFzL/7K26csOb57yM5bv" ++
  "F9xJrLEObOkAAAAAAAAAAAAAAAAAAAAAAAAAAAAAAAAAAAAAAAAAAAAAAAAMFAAkD6AMAAAAAAAADAgECAQU" ++
  "EACAwMTIzNDU2Nzg5YWJjZGVmMDEyMzQ1Njc4OWFiY2RlZgA="

/-- The Solana crates on the hostile close. -/
def hostileChain : Chain where
  decode text := if text = hostileText then .ok hostileTransaction else .error "invalid base64"
  serializedSize := closeChain.serializedSize
  serialize := serializeSmall
  verify signature key bytes :=
    signature = hostileSignature ∧ key = closePayer ∧
      bytes = serializeSmall hostileTransaction.message
  findProgramAddress := closeChain.findProgramAddress

end PayKit.BatchSettlement
