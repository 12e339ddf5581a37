import PayKit.Charge.Request
import PayKit.Matching.FirstMatch
import PayKit.Tx.Policy

/-!
# Verifying a pull transaction

`verify_versioned_transaction_pre_broadcast` of `mpp/server/charge.rs`: what a
transaction that a client signed must contain before the server co-signs and sends
it. The expected transfers and memos each take the first instruction that fits and
was not taken before; then every instruction must be a taken one, a compute budget
or the creation of an allowed token account, and every signer the fee payer or the
one authority that funds the transfers.

The address of a token account is derived from its owner, token program and mint by
the token-account program; `associatedTokenAddress` is that derivation.
-/

namespace PayKit.Charge

open Control Machine Matching Solana Tx

def maxComputeUnitLimit : ℕ := 200000
def maxComputeUnitPriceMicrolamports : ℕ := 5000000
def maxComputeUnitPriceMicrolamportsFeeSponsored : ℕ := 10000

structure Leg where
  recipient : Pubkey
  amount : ℕ
deriving DecidableEq

/-- The highest unit price the payer of the fees allows. -/
def maxUnitPrice (feeSponsored : Bool) : ℕ :=
  if feeSponsored then maxComputeUnitPriceMicrolamportsFeeSponsored
  else maxComputeUnitPriceMicrolamports

def accountKey (keys : List Pubkey) (ix : CompiledInstruction) (position : ℕ) (label : String) :
    Except VerificationError Pubkey :=
  okOr (accountAt keys ix position) (.invalidPayload s!"Invalid {label} index")

def programId (keys : List Pubkey) (ix : CompiledInstruction) : Except VerificationError Pubkey :=
  okOr (programOf keys ix) (.invalidPayload "Invalid program_id_index")

def expectedFeePayer (tx : VersionedTransaction) (details : MethodDetails) :
    Except VerificationError (Option Pubkey) :=
  if details.feeSponsored then
    match details.feePayerKey with
    | none => .error (.invalidPayload "feePayer=true requires feePayerKey in methodDetails")
    | some text => do
        let feePayer ← parseKey text fun error => .invalidPayload s!"Invalid fee payer: {error}"
        match tx.message.staticAccountKeys.head? with
        | none => .error (.invalidPayload "Transaction has no fee payer")
        | some txFeePayer => do
            refuseIf (txFeePayer ≠ feePayer)
              (.invalidPayload s!"Transaction fee payer must be {feePayer.display}")
            return some feePayer
  else
    .ok none

def expectedTokenProgram (details : MethodDetails) : Except VerificationError (Option Pubkey) :=
  match details.tokenProgram with
  | none => .ok none
  | some text => do
      refuseIf (text ≠ programs.tokenProgram ∧ text ≠ programs.token2022Program)
        (.invalidPayload ("Unsupported token program: " ++ text))
      let key ← parseKey text fun error => .invalidPayload s!"Invalid token program: {error}"
      return some key

/-! ### Matching the expected instructions -/

/-- Whether an instruction is the System transfer of a leg. -/
def inspectSolTransfer (keys : List Pubkey) (feePayer : Option Pubkey) (leg : Leg)
    (ix : CompiledInstruction) : Except VerificationError Bool := do
  let program ← programId keys ix
  if program ≠ systemProgram then return false
  else if ix.data.length ≠ 12 then return false
  else if fromLeBytes ix.data 0 4 ≠ 2 then return false
  -- Exactly source and destination: trailing accounts could add signers.
  else if ix.accounts.length ≠ 2 then return false
  else
    let source ← accountKey keys ix 0 "source"
    let destination ← accountKey keys ix 1 "destination"
    if destination = leg.recipient ∧ fromLeBytes ix.data 4 12 = leg.amount then
      refuseIf (feePayer = some source)
        (.invalidPayload "Fee payer cannot fund the SOL payment transfer")
      return true
    else return false

def verifySolTransferInstructions (tx : VersionedTransaction) (keys : List Pubkey)
    (feePayer : Option Pubkey) (leg : Leg) (matched : List ℕ) :
    Except VerificationError (List ℕ) :=
  takeFirst (inspectSolTransfer keys feePayer leg)
    (.invalidAmount
      s!"No matching SOL transfer of {leg.amount} lamports to {leg.recipient.display}")
    tx.message.instructions matched

/-- What a TransferChecked instruction is expected to move. -/
structure TokenTransfer where
  mint : Pubkey
  tokenProgram : Option Pubkey
  decimals : Option UInt8

/-- Whether an instruction is the TransferChecked instruction of a leg. -/
def inspectSplTransfer (associatedTokenAddress : Pubkey → Pubkey → Pubkey → Pubkey)
    (keys : List Pubkey) (expected : TokenTransfer) (feePayer : Option Pubkey) (leg : Leg)
    (ix : CompiledInstruction) : Except VerificationError Bool := do
  let program ← programId keys ix
  if program ≠ tokenProgram ∧ program ≠ token2022Program then return false
  else if expected.tokenProgram.any (program ≠ ·) then return false
  else if ix.data.head? ≠ some 12 then return false
  -- Exactly source, mint, destination and authority: no multisig signers.
  else if ix.data.length ≠ 10 ∨ ix.accounts.length ≠ 4 then return false
  else if fromLeBytes ix.data 1 9 ≠ leg.amount then return false
  else if expected.decimals.any (ix.data[9]? ≠ some ·) then return false
  else
    let source ← accountKey keys ix 0 "source"
    let destination ← accountKey keys ix 2 "destination"
    let mint ← accountKey keys ix 1 "mint"
    if mint ≠ expected.mint then return false
    else
      let authority ← accountKey keys ix 3 "authority"
      refuseIf (feePayer = some authority)
        (.invalidPayload "Fee payer cannot authorize the SPL payment transfer")
      refuseIf (feePayer.any fun feePayer => source = associatedTokenAddress feePayer program mint)
        (.invalidPayload "Fee payer token account cannot fund the SPL payment transfer")
      return decide (destination = associatedTokenAddress leg.recipient program mint)

def verifySplTransferInstructions (associatedTokenAddress : Pubkey → Pubkey → Pubkey → Pubkey)
    (tx : VersionedTransaction) (keys : List Pubkey) (expected : TokenTransfer)
    (feePayer : Option Pubkey) (leg : Leg) (matched : List ℕ) :
    Except VerificationError (List ℕ) :=
  takeFirst (inspectSplTransfer associatedTokenAddress keys expected feePayer leg)
    (.invalidAmount s!"No matching SPL transferChecked of {leg.amount} to {leg.recipient.display}")
    tx.message.instructions matched

/-- Match the transfer of each split in turn. -/
def matchSplits (verify : Leg → List ℕ → Except VerificationError (List ℕ)) :
    List Split → List ℕ → Except VerificationError (List ℕ)
  | [], matched => .ok matched
  | split :: rest, matched => do
      let recipient ← parseSplitRecipient split
      let amount ← parseSplitAmount split
      let matched ← verify ⟨recipient, amount⟩ matched
      matchSplits verify rest matched

/-- Whether an instruction is the memo of a text, without accounts. -/
def inspectMemo (keys : List Pubkey) (memo : String) (ix : CompiledInstruction) :
    Except VerificationError Bool := do
  let program ← programId keys ix
  return decide (program = memoProgram ∧ ix.accounts = [] ∧ ix.data = asBytes memo)

/-- `verify_memo_instructions`, over the expected memos with their labels. -/
def verifyMemoInstructions (tx : VersionedTransaction) (keys : List Pubkey) :
    List (String × String) → List ℕ → Except VerificationError (List ℕ)
  | [], matched => .ok matched
  | (label, memo) :: rest, matched => do
      refuseIf (maxMemoBytes < memo.utf8ByteSize)
        (.invalidPayload s!"memo cannot exceed {maxMemoBytes} bytes")
      let matched ← takeFirst (inspectMemo keys memo)
        (.invalidPayload s!"No memo instruction found for {label} memo \"{memo}\"")
        tx.message.instructions matched
      verifyMemoInstructions tx keys rest matched

/-! ### The other instructions -/

def validateComputeBudgetInstruction (ix : CompiledInstruction) (feeSponsored : Bool) :
    Except VerificationError Unit := do
  refuseIf (ix.accounts ≠ [])
    (.invalidPayload "Compute budget instruction must not have accounts")
  match decodeComputeBudgetOp ix with
  | some (.unitLimit units) => do
      refuseIf (units = 0) (.invalidPayload "Compute unit limit must be positive")
      refuseIf (maxComputeUnitLimit < units)
        (.invalidPayload s!"Compute unit limit {units} exceeds maximum {maxComputeUnitLimit}")
  | some (.unitPrice price) =>
      refuseIf (maxUnitPrice feeSponsored < price)
        (.invalidPayload
          s!"Compute unit price {price} exceeds maximum {maxUnitPrice feeSponsored}")
  | some (.loadedAccountsDataSizeLimit _) =>
      .error (.invalidPayload "Unsupported compute budget instruction")
  | none => .error (.invalidPayload "Unsupported compute budget instruction")

/-- `validate_create_ata_idempotent_instruction`: the owner of the account created. -/
def validateCreateAtaIdempotentInstruction
    (associatedTokenAddress : Pubkey → Pubkey → Pubkey → Pubkey) (keys : List Pubkey)
    (expectedMint : Option Pubkey) (allowedOwners : List Pubkey)
    (expectedTokenProgram : Option Pubkey) (expectedPayer : Pubkey) (ix : CompiledInstruction) :
    Except VerificationError Pubkey :=
  match expectedMint with
  | none => .error (.invalidPayload "ATA creation is not allowed for native SOL payments")
  | some expectedMint => do
      refuseIf (ix.data ≠ [1]) (.invalidPayload "Only idempotent ATA creation is allowed")
      refuseIf (ix.accounts.length ≠ 6)
        (.invalidPayload "Unexpected ATA creation account layout")
      let payer ← accountKey keys ix 0 "ATA payer"
      let ata ← accountKey keys ix 1 "ATA address"
      let owner ← accountKey keys ix 2 "ATA owner"
      let mint ← accountKey keys ix 3 "ATA mint"
      let system ← accountKey keys ix 4 "ATA system program"
      let token ← accountKey keys ix 5 "ATA token program"
      refuseIf (payer ≠ expectedPayer)
        (.invalidPayload "ATA payer must match the transaction fee payer")
      refuseIf (mint ≠ expectedMint)
        (.invalidPayload "ATA creation mint does not match the charge currency")
      refuseIf (owner ∉ allowedOwners)
        (.invalidPayload "ATA creation owner is not authorized by the challenge")
      refuseIf (system.display ≠ programs.systemProgram)
        (.invalidPayload "ATA creation must reference the System Program")
      refuseIf (token.display ≠ programs.tokenProgram ∧ token.display ≠ programs.token2022Program)
        (.invalidPayload "ATA creation uses an unsupported token program")
      refuseIf (expectedTokenProgram.any (token ≠ ·))
        (.invalidPayload
          "ATA creation token program does not match methodDetails.tokenProgram")
      refuseIf (ata ≠ associatedTokenAddress owner token mint)
        (.invalidPayload "ATA creation address does not match owner/mint/token program")
      return owner

/-- What the other instructions of a payment are checked against. -/
structure Allowlist where
  mint : Option Pubkey
  ataPolicy : AtaCreationPolicy
  tokenProgram : Option Pubkey
  feePayer : Option Pubkey

/-- One instruction of the allow-list: the owner of the token account it creates. -/
def validateInstruction (associatedTokenAddress : Pubkey → Pubkey → Pubkey → Pubkey)
    (keys : List Pubkey) (matched : List ℕ) (allowlist : Allowlist) (ataPayer : Pubkey)
    (index : ℕ) (ix : CompiledInstruction) : Except VerificationError (Option Pubkey) := do
  let program ← programId keys ix
  if program = computeBudgetProgram then
    validateComputeBudgetInstruction ix allowlist.feePayer.isSome
    return none
  else if program = memoProgram then
    refuseIf (index ∉ matched)
      (.invalidPayload "Unexpected Memo Program instruction in payment transaction")
    return none
  else if program = systemProgram then
    refuseIf (index ∉ matched)
      (.invalidPayload "Unexpected System Program instruction in payment transaction")
    return none
  else if program = tokenProgram ∨ program = token2022Program then
    refuseIf (index ∉ matched)
      (.invalidPayload "Unexpected Token Program instruction in payment transaction")
    return none
  else if program = ataProgram then
    let owner ← validateCreateAtaIdempotentInstruction associatedTokenAddress keys allowlist.mint
      allowlist.ataPolicy.allowedOwners allowlist.tokenProgram ataPayer ix
    return some owner
  else
    .error (.invalidPayload
      ("Unexpected program instruction in payment transaction: " ++ program.display))

/-- The owners of the token accounts created, from the instruction at `index` on. -/
def validateInstructions (associatedTokenAddress : Pubkey → Pubkey → Pubkey → Pubkey)
    (keys : List Pubkey) (matched : List ℕ) (allowlist : Allowlist) (ataPayer : Pubkey) :
    ℕ → List CompiledInstruction → Except VerificationError (List Pubkey)
  | _, [] => .ok []
  | index, ix :: rest => do
      let owner ← validateInstruction associatedTokenAddress keys matched allowlist ataPayer index
        ix
      let owners ← validateInstructions associatedTokenAddress keys matched allowlist ataPayer
        (index + 1) rest
      return owner.toList ++ owners

def validateInstructionAllowlist (associatedTokenAddress : Pubkey → Pubkey → Pubkey → Pubkey)
    (tx : VersionedTransaction) (keys : List Pubkey) (matched : List ℕ) (allowlist : Allowlist) :
    Except VerificationError Unit :=
  match tx.message.staticAccountKeys.head? with
  | none => .error (.invalidPayload "Transaction has no fee payer")
  | some txFeePayer => do
      let created ← validateInstructions associatedTokenAddress keys matched allowlist
        (allowlist.feePayer.getD txFeePayer) 0 tx.message.instructions
      match allowlist.ataPolicy.requiredOwners.find? (· ∉ created) with
      | some owner => .error (.invalidPayload
          ("Missing required ATA creation instruction for split recipient " ++ owner.display))
      | none => .ok ()

/-! ### Signers -/

/-- The authority of a transfer, by the account position its program gives it. -/
def transferAuthority (keys : List Pubkey) (ix : CompiledInstruction) : Option Pubkey :=
  if programOf keys ix = some systemProgram then accountAt keys ix 0
  else if programOf keys ix = some tokenProgram ∨ programOf keys ix = some token2022Program then
    accountAt keys ix 3
  else none

/-- The one authority of the given ones, if there is any. -/
def sharedAuthority (authorities : List Pubkey) : Except VerificationError (Option Pubkey) :=
  authorities.foldlM
    (fun funder authority => do
      refuseIf (funder.any (· ≠ authority))
        (VerificationError.invalidPayload "Payment transfers must share one funding authority")
      return some authority)
    none

def verifyRequiredSigners (tx : VersionedTransaction) (keys : List Pubkey) (matched : List ℕ) :
    Except VerificationError Unit := do
  let authorities := (claimed tx.message.instructions matched).filterMap (transferAuthority keys)
  let funder ← sharedAuthority authorities
  let allowed := keys.head?.toList ++ funder.toList
  let required := tx.message.header.numRequiredSignatures.toNat
  refuseIf ((keys.take required).any (· ∉ allowed))
    (.invalidPayload "Unexpected signer in payment transaction")

/-! ### The whole verification -/

section

variable (serializedSize : VersionedTransaction → Except String ℕ)
  (associatedTokenAddress : Pubkey → Pubkey → Pubkey → Pubkey)

/-- Refuse with the text of an envelope error. -/
def envelopeCheck {Result : Type} (check : Except String Result) :
    Except VerificationError Result :=
  check.mapError .invalidPayload

/-- What both kinds of payment are checked against. -/
structure Payment where
  primary : Leg
  splits : List Split
  externalId : Option String
  feePayer : Option Pubkey
  ataPolicy : AtaCreationPolicy

/-- The instructions of a native SOL payment. -/
def verifyNativePayment (tx : VersionedTransaction) (payment : Payment) :
    Except VerificationError Unit := do
  let keys := tx.message.staticAccountKeys
  let verify := verifySolTransferInstructions tx keys payment.feePayer
  let matched ← verify payment.primary []
  let matched ← matchSplits verify payment.splits matched
  let matched ← verifyMemoInstructions tx keys
    (expectedMemos payment.externalId payment.splits) matched
  validateInstructionAllowlist associatedTokenAddress tx keys matched
    ⟨none, payment.ataPolicy, none, payment.feePayer⟩
  verifyRequiredSigners tx keys matched

/-- The instructions of an SPL token payment. -/
def verifyTokenPayment (tx : VersionedTransaction) (request : ChargeRequest)
    (details : MethodDetails) (payment : Payment) : Except VerificationError Unit := do
  let keys := tx.message.staticAccountKeys
  let mint ← resolveExpectedMint request.currency details.network
  refuseIf (payment.ataPolicy.requiredOwners ≠ [] ∧ ¬(Pubkey.fromStr request.currency).isOk)
    (.invalidPayload "ataCreationRequired requires currency to be an SPL token mint address")
  let tokenProgram ← expectedTokenProgram details
  let verify := verifySplTransferInstructions associatedTokenAddress tx keys
    ⟨mint, tokenProgram, details.decimals⟩ payment.feePayer
  let matched ← verify payment.primary []
  let matched ← matchSplits verify payment.splits matched
  let matched ← verifyMemoInstructions tx keys
    (expectedMemos payment.externalId payment.splits) matched
  validateInstructionAllowlist associatedTokenAddress tx keys matched
    ⟨some mint, payment.ataPolicy, tokenProgram, payment.feePayer⟩
  verifyRequiredSigners tx keys matched

def requestRecipient (request : ChargeRequest) : Except VerificationError Pubkey :=
  match request.recipient with
  | none => .error (.invalidRecipient "No recipient in charge request")
  | some recipient =>
      parseKey recipient fun error => .invalidRecipient s!"Invalid recipient: {error}"

def verifyVersionedTransactionPreBroadcast (tx : VersionedTransaction) (request : ChargeRequest)
    (details : MethodDetails) (acceptedVersions : List TxVersion) :
    Except VerificationError Unit := do
  let _ ← envelopeCheck (checkEnvelopeWithoutLegacy serializedSize tx acceptedVersions)
  let maxPrice := maxUnitPrice details.feeSponsored
  let _ ← envelopeCheck (checkV1BudgetCaps tx.message maxComputeUnitLimit maxPrice)
  let splits := details.splitList
  refuseIf (maxSplits < splits.length)
    (.tooManySplits s!"Too many splits: {splits.length} (maximum {maxSplits})")
  let amount ← primaryAmount request splits
  let recipient ← requestRecipient request
  let feePayer ← expectedFeePayer tx details
  refuseIf (isNativeSol request ∧ splits.any (·.ataCreationRequired = some true))
    (.invalidPayload "ataCreationRequired requires an SPL token charge")
  let ataPolicy ← expectedAtaCreationPolicy splits feePayer
  let payment : Payment := ⟨⟨recipient, amount⟩, splits, request.externalId, feePayer, ataPolicy⟩
  (if isNativeSol request then verifyNativePayment associatedTokenAddress tx payment
    else verifyTokenPayment associatedTokenAddress tx request details payment)
  let _ ← envelopeCheck (checkV0BudgetCaps tx.message maxComputeUnitLimit maxPrice)
  return ()

end

end PayKit.Charge
