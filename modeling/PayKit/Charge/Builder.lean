import PayKit.Charge.Request
import PayKit.Tx.Compile

/-!
# Building a charge transaction

`build_prepared_charge` of `mpp/client/charge.rs`: the client turns a charge into the transfers,
memos and token-account creations that pay it, one group for the recipient and then one for each
split, and compiles them for the fee payer that the challenge names.

The client's RPC, the derivation of token accounts and the compilation of messages are
parameters.
-/

namespace PayKit.Charge

open Control Encoding Machine Solana Tx

/-- The errors of `mpp/error.rs` that a builder returns. -/
inductive MppError where
  | rpc (message : String)
  | splitsExceedAmount
  | tooManySplits
  | invalidConfig (message : String)
  | invalidChallenge (message : String)
  | payerFundedAtaCreationDeclined
  | transactionTooLarge (size limit : ℕ)
  | other (message : String)
deriving DecidableEq

/-- The method details of a challenge, with what only the client reads. -/
structure ChallengeDetails extends MethodDetails where
  recentBlockhash : Option String
  transactionVersions : Option (List TxVersion)
  confidential : Option Bool
  /-- Whether the challenge is a channel charge. -/
  channelCharge : Bool

/-- What to do when the signer would pay for the token account of a split. -/
inductive PayerFundedAtaCreation where
  | include
  | decline
deriving DecidableEq

structure ComputeBudgetOptions where
  computeUnitPriceMicroLamports : ℕ := 1
  computeUnitLimit : ℕ := 200000

structure BuildChargeTransactionOptions where
  maxTxVersion : Option TxVersion := none
  externalId : Option String := none
  allowUnknownToken2022 : Bool := false
  maxAmountBaseUnits : Option ℕ := none
  expectedNetwork : Option String := none
  expectedRecipient : Option String := none
  payerFundedAtaCreation : PayerFundedAtaCreation := .decline
  computeBudget : ComputeBudgetOptions := {}

structure ChargeClient where
  compile : MessageCompiler
  serializedSize : VersionedTransaction → Except String ℕ
  associatedTokenAddress : Pubkey → Pubkey → Pubkey → Pubkey
  /-- The owner of a mint's account. -/
  mintOwner : Pubkey → Except String Pubkey
  /-- The blockhash to sign, from the challenge's hint. -/
  resolveBlockhash : Option String → Except MppError (List UInt8)

def solanaMaxComputeUnitLimit : ℕ := 1400000
def maxClientComputeUnitPriceMicrolamports : ℕ := 5000000

def ComputeBudgetOptions.validate (budget : ComputeBudgetOptions) : Except MppError Unit := do
  refuseIf (solanaMaxComputeUnitLimit < budget.computeUnitLimit)
    (.other (s!"compute_unit_limit {budget.computeUnitLimit} exceeds Solana's per-transaction " ++
      s!"ceiling of {solanaMaxComputeUnitLimit}"))
  refuseIf (maxClientComputeUnitPriceMicrolamports < budget.computeUnitPriceMicroLamports)
    (.other (s!"compute_unit_price_micro_lamports {budget.computeUnitPriceMicroLamports} exceeds " ++
      s!"the client-side sanity ceiling of {maxClientComputeUnitPriceMicrolamports}"))

/-! ### Instructions -/

/-- `system_instruction::transfer`. -/
def systemTransferIx (sender recipient : Pubkey) (lamports : ℕ) : Instruction where
  programId := systemProgram
  accounts := [.new sender true, .new recipient false]
  data := encodeLE 4 2 ++ encodeLE 8 lamports

def transferCheckedIx (tokenProgram source mint destination authority : Pubkey) (amount : ℕ)
    (decimals : UInt8) : Instruction where
  programId := tokenProgram
  accounts := [.new source false, .newReadonly mint false, .new destination false,
    .newReadonly authority true]
  data := 12 :: encodeLE 8 amount ++ [decimals]

/-- `create_associated_token_account_idempotent`. -/
def createAtaIdempotentIx (ata payer owner mint tokenProgram : Pubkey) : Instruction where
  programId := ataProgram
  accounts := [.new payer true, .new ata false, .newReadonly owner false, .newReadonly mint false,
    .newReadonly systemProgram false, .newReadonly tokenProgram false]
  data := [1]

def memoIx (memo : String) : Instruction :=
  ⟨memoProgram, [], asBytes memo⟩

/-- `push_memo_instruction`. -/
def memoInstructions (memo : Option String) : Except MppError (List Instruction) :=
  match memo with
  | none => .ok []
  | some memo => do
      refuseIf (maxMemoBytes < memo.utf8ByteSize)
        (.other s!"memo cannot exceed {maxMemoBytes} bytes")
      return [memoIx memo]

structure TransferEntry where
  recipient : Pubkey
  amount : ℕ
  ataCreationRequired : Bool
  memo : Option String

/-- Who pays what in a batch of token transfers. -/
structure TransferBatch where
  authority : Pubkey
  mint : Pubkey
  tokenProgram : Pubkey
  decimals : UInt8
  feePayer : Pubkey

section

variable (associatedTokenAddress : Pubkey → Pubkey → Pubkey → Pubkey) (batch : TransferBatch)

def TransferBatch.ata (owner : Pubkey) : Pubkey :=
  associatedTokenAddress owner batch.tokenProgram batch.mint

/-- The transfer of an entry, after the creation of its token account. -/
def TransferBatch.transfer (entry : TransferEntry) : List Instruction :=
  (if entry.ataCreationRequired then
    [createAtaIdempotentIx (batch.ata associatedTokenAddress entry.recipient) batch.feePayer
      entry.recipient batch.mint batch.tokenProgram]
  else []) ++
  [transferCheckedIx batch.tokenProgram (batch.ata associatedTokenAddress batch.authority)
    batch.mint (batch.ata associatedTokenAddress entry.recipient) batch.authority entry.amount
    batch.decimals]

def buildSplTransferBatchInstructions :
    List TransferEntry → Except MppError (List Instruction)
  | [] => .ok []
  | entry :: entries => do
      let memo ← memoInstructions entry.memo
      let rest ← buildSplTransferBatchInstructions entries
      return batch.transfer associatedTokenAddress entry ++ memo ++ rest

end

def clientSplitRecipient (split : Split) : Except MppError Pubkey :=
  (Pubkey.fromStr split.recipient).mapError fun error =>
    .other s!"Invalid split recipient: {error.display}"

def clientSplitAmount (split : Split) : Except MppError ℕ :=
  okOr (parseU64 split.amount) (.other ("Invalid split amount: " ++ split.amount))

/-- The transfers and memos of splits in native SOL. -/
def buildSolSplits (signer : Pubkey) : List Split → Except MppError (List Instruction)
  | [] => .ok []
  | split :: splits => do
      let recipient ← clientSplitRecipient split
      let amount ← clientSplitAmount split
      let memo ← memoInstructions split.memo
      let rest ← buildSolSplits signer splits
      return systemTransferIx signer recipient amount :: memo ++ rest

def buildSolInstructions (signer recipient : Pubkey) (primaryAmount : ℕ)
    (externalId : Option String) (splits : List Split) : Except MppError (List Instruction) := do
  let memo ← memoInstructions externalId
  let rest ← buildSolSplits signer splits
  return systemTransferIx signer recipient primaryAmount :: memo ++ rest

def splitEntry (split : Split) : Except MppError TransferEntry := do
  let recipient ← clientSplitRecipient split
  let amount ← clientSplitAmount split
  return ⟨recipient, amount, split.ataCreationRequired = some true, split.memo⟩

/-- The token program the challenge declares, or the owner of the mint. -/
def declaredTokenProgram (client : ChargeClient) (mint : Pubkey) (details : MethodDetails) :
    Except MppError Pubkey :=
  match details.tokenProgram with
  | some text => (Pubkey.fromStr text).mapError fun error =>
      .invalidChallenge s!"Invalid token program: {error.display}"
  | none => (client.mintOwner mint).mapError fun error =>
      .invalidChallenge ("tokenProgram omitted and the mint account lookup failed: " ++ error)

def resolveTokenProgram (client : ChargeClient) (mint : Pubkey) (details : MethodDetails) :
    Except MppError Pubkey := do
  let tokenProgram ← declaredTokenProgram client mint details
  refuseIf (tokenProgram.display ≠ programs.tokenProgram ∧
      tokenProgram.display ≠ programs.token2022Program)
    (.invalidChallenge ("Unsupported token program: " ++ tokenProgram.display))
  return tokenProgram

def isKnownStablecoinMint (mint : String) : Bool :=
  [mints.usdcMainnet, mints.usdcDevnet, mints.usdtestDevnet, mints.usdtMainnet, mints.usdgMainnet,
    mints.usdgDevnet, mints.pyusdMainnet, mints.pyusdDevnet, mints.cashMainnet,
    mints.usdptMainnet].contains mint

/-- What a charge pays: the amount of the recipient, the memo beside it and the splits. -/
structure ChargeLegs where
  recipient : Pubkey
  primaryAmount : ℕ
  externalId : Option String
  splits : List Split

def buildSplInstructions (client : ChargeClient) (signer : Pubkey) (spl : String)
    (details : MethodDetails) (legs : ChargeLegs) (feePayer : Option Pubkey)
    (allowUnknownToken2022 : Bool) : Except MppError (List Instruction) := do
  let mint ← (Pubkey.fromStr spl).mapError fun error =>
    MppError.other s!"Invalid mint: {error.display}"
  let tokenProgram ← resolveTokenProgram client mint details
  refuseIf (tokenProgram.display = programs.token2022Program ∧ isKnownStablecoinMint spl = false ∧
      allowUnknownToken2022 = false)
    (.other (s!"Refusing to sign for unknown Token-2022 mint {spl}: set " ++
      "BuildChargeTransactionOptions::allow_unknown_token_2022 to opt in (Token-2022 supports " ++
      "transfer hooks)"))
  let decimals ← okOr details.decimals (MppError.invalidChallenge
    "methodDetails.decimals is required for SPL charges (spec §7.2)")
  let entries ← legs.splits.mapM splitEntry
  buildSplTransferBatchInstructions client.associatedTokenAddress
    ⟨signer, mint, tokenProgram, decimals, feePayer.getD signer⟩
    (⟨legs.recipient, legs.primaryAmount, false, legs.externalId⟩ :: entries)

/-! ### What the client refuses -/

def canonicalNetwork (network : Option String) : Option String :=
  if network = none ∨ network = some defaultNetwork ∨ network = some "mainnet-beta" then
    some defaultNetwork
  else if network = some networkDevnet then some networkDevnet
  else if network = some "localnet" then some "localnet"
  else none

def validateChallengeDetails (currency : String) (details : MethodDetails) :
    Except MppError Unit := do
  refuseIf (canonicalNetwork details.network = none)
    (.invalidConfig ("Unsupported challenge network `" ++ details.network.getD "" ++ "` (allowed: " ++
      "`mainnet`, `devnet`, `localnet`)"))
  refuseIf (eqIgnoreAsciiCase currency "sol" ∧ details.tokenProgram.isSome)
    (.invalidChallenge
      "methodDetails.tokenProgram MUST NOT be present when currency is \"sol\"")
  refuseIf (details.feePayer = some true ∧ details.feePayerKey = none)
    (.invalidChallenge
      "methodDetails.feePayer is true but the challenge names no feePayerKey")

def isMainnetName (network : String) : Bool :=
  network = defaultNetwork ∨ network = "mainnet-beta"

def checkClientPolicy (totalAmount : ℕ) (recipient : String) (details : MethodDetails)
    (options : BuildChargeTransactionOptions) : Except MppError Unit := do
  refuseIf (options.maxAmountBaseUnits.any (· < totalAmount))
    (.other (s!"Challenge amount {totalAmount} exceeds client max_amount_base_units " ++
      s!"{options.maxAmountBaseUnits.getD 0}"))
  let actual := details.network.getD defaultNetwork
  refuseIf (options.expectedNetwork.any fun expected =>
      actual ≠ expected ∧ ¬(isMainnetName actual ∧ isMainnetName expected))
    (.other (s!"Challenge network `{actual}` does not match client expected_network " ++
      "`" ++ options.expectedNetwork.getD "" ++ "`"))
  refuseIf (options.expectedRecipient.any (recipient ≠ ·))
    (.other (s!"Challenge recipient `{recipient}` does not match client expected_recipient " ++
      "`" ++ options.expectedRecipient.getD "" ++ "`"))

def signerAsFeePayer : MppError :=
  .invalidConfig ("Fee payer cannot authorize the payment: feePayerKey names the signer; a " ++
    "sponsored charge needs a separate server fee payer")

def serverFeePayer (details : MethodDetails) (signer : Pubkey) :
    Except MppError (Option Pubkey) :=
  if details.feeSponsored = false then .ok none
  else do
    let text ← okOr details.feePayerKey (MppError.invalidChallenge
      "methodDetails.feePayer is true but the challenge names no feePayerKey")
    let feePayer ← (Pubkey.fromStr text).mapError fun error =>
      MppError.other s!"Invalid fee payer: {error.display}"
    refuseIf (feePayer = signer) signerAsFeePayer
    return some feePayer

/-- `try_resolve_mint`. -/
def clientMint (currency : String) (network : Option String) :
    Except MppError (Option String) :=
  (tryResolveStablecoinMint currency network).mapError fun _ =>
    .invalidConfig ("USDtest is devnet-only; set network to `devnet` (got `" ++
      network.getD defaultNetwork ++ "`)")

def checkTransactionSize (serializedSize : VersionedTransaction → Except String ℕ)
    (tx : VersionedTransaction) : Except MppError ℕ := do
  let size ← (serializedSize tx).mapError fun error =>
    MppError.other ("Failed to measure transaction size: " ++ error)
  let limit := (TxVersion.of tx.message).limits.maxBytes
  refuseIf (limit < size) (.transactionTooLarge size limit)
  return size

/-- The checks on token accounts that a charge has created. -/
def checkAtaCreation (currency : String) (mint : Option String) (splits : List Split)
    (feePayer : Option Pubkey) (options : BuildChargeTransactionOptions) :
    Except MppError Unit :=
  if splits.any (·.ataCreationRequired = some true) then do
    let mint ← okOr mint (MppError.other "ataCreationRequired requires an SPL token charge")
    refuseIf (mint ≠ currency)
      (.other "ataCreationRequired requires currency to be an SPL token mint address")
    refuseIf (feePayer = none ∧ options.payerFundedAtaCreation = .decline)
      .payerFundedAtaCreationDeclined
  else .ok ()

/-- An unsigned charge transaction. -/
structure PreparedCharge where
  transaction : VersionedTransaction
  feePayer : Pubkey
  blockhash : List UInt8

def chargeInstructions (client : ChargeClient) (signer : Pubkey) (mint : Option String)
    (details : MethodDetails) (legs : ChargeLegs) (feePayer : Option Pubkey)
    (options : BuildChargeTransactionOptions) : Except MppError (List Instruction) :=
  match mint with
  | some spl => buildSplInstructions client signer spl details legs feePayer
      options.allowUnknownToken2022
  | none => buildSolInstructions signer legs.recipient legs.primaryAmount legs.externalId
      legs.splits

def buildPreparedCharge (client : ChargeClient) (signer : Pubkey) (totalAmount : ℕ)
    (currency recipient : String) (details : ChallengeDetails)
    (options : BuildChargeTransactionOptions) : Except MppError PreparedCharge := do
  refuseIf (details.channelCharge = true) (.invalidConfig
    "channelCharge requires the explicit build_channel_charge_credential API")
  validateChallengeDetails currency details.toMethodDetails
  checkClientPolicy totalAmount recipient details.toMethodDetails options
  let splits := details.splitList
  refuseIf (maxSplits < splits.length) .tooManySplits
  let splitsTotal ← okOr (checkedSumSplitAmounts splits) MppError.splitsExceedAmount
  refuseIf (totalAmount < splitsTotal) .splitsExceedAmount
  refuseIf (totalAmount - splitsTotal = 0) .splitsExceedAmount
  let recipientKey ← (Pubkey.fromStr recipient).mapError fun error =>
    MppError.other s!"Invalid recipient: {error.display}"
  let serverPayer ← serverFeePayer details.toMethodDetails signer
  options.computeBudget.validate
  let mint ← clientMint currency details.network
  checkAtaCreation currency mint splits serverPayer options
  let ixs ← chargeInstructions client signer mint details.toMethodDetails
    ⟨recipientKey, totalAmount - splitsTotal, options.externalId, splits⟩ serverPayer options
  let blockhash ← client.resolveBlockhash details.recentBlockhash
  let feePayer := serverPayer.getD signer
  let version ← (negotiate details.transactionVersions options.maxTxVersion).mapError
    MppError.other
  let transaction ← (buildUnsignedUnchecked client.compile version feePayer ixs blockhash
    (some ⟨options.computeBudget.computeUnitLimit,
      options.computeBudget.computeUnitPriceMicroLamports,
      maxLoadedAccountsDataSizeBytes⟩)).mapError MppError.other
  let _ ← checkTransactionSize client.serializedSize transaction
  return ⟨transaction, feePayer, blockhash⟩

end PayKit.Charge
