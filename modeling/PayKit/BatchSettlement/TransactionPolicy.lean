import PayKit.Arithmetic.Decimal
import PayKit.BatchSettlement.Error
import PayKit.PaymentChannel.Layout

/-!
# Which client transactions a sponsor co-signs

`tx_policy.rs` of the batch-settlement scheme: `validate_setup_transaction` for the
opening and the topping up of a channel, and `validate_request_close_transaction`.

The wire format (`decode`, `serializedSize`), the bytes a signature covers
(`serialize`), the signature check and the derivation of program addresses belong to
the Solana crates and are collected in `Chain`.
-/

namespace PayKit.BatchSettlement

open Control Encoding Machine PaymentChannel Solana Tx

/-- What the policy uses of the Solana crates. -/
structure Chain where
  decode : String → Except String VersionedTransaction
  serializedSize : VersionedTransaction → Except String ℕ
  serialize : VersionedMessage → List UInt8
  /-- `Signature::verify` of a signature by a key over bytes. -/
  verify : Signature → Pubkey → List UInt8 → Bool
  /-- `Pubkey::find_program_address` of seeds under a program. -/
  findProgramAddress : List (List UInt8) → Pubkey → Pubkey

namespace Chain

variable (chain : Chain)

def findChannelPda (payer payee mint authorizedSigner : Pubkey) (salt openSlot : ℕ)
    (programId : Pubkey) : Pubkey :=
  chain.findProgramAddress
    [asBytes "channel", payer.bytes, payee.bytes, mint.bytes, authorizedSigner.bytes,
      encodeLE 8 salt, encodeLE 8 openSlot] programId

def findEventAuthorityPda (programId : Pubkey) : Pubkey :=
  chain.findProgramAddress [asBytes "event_authority"] programId

def findAssociatedTokenAddress (owner mint tokenProgram : Pubkey) : Pubkey :=
  chain.findProgramAddress [owner.bytes, tokenProgram.bytes, mint.bytes] ataProgram

end Chain

def rentSysvar : Pubkey := .ofConst "SysvarRent111111111111111111111111111111111"

def openDiscriminator : UInt8 := 1
def topUpDiscriminator : UInt8 := 3
def requestCloseDiscriminator : UInt8 := 5
def distributionEntryLength : ℕ := 34
def openArgsPrefixLength : ℕ := 1 + 8 + 8 + 4 + 8
def fullShareBps : ℕ := 10000
def openSlotWindow : ℕ := 1500
def receiverBindingMemoPrefix : String := "x402:batch-settlement:svm:rcvauth:v1:"

/-- Which setup form a payload carries. -/
inductive SetupForm where
  | open
  | topUp
deriving DecidableEq

namespace SetupForm

def label : SetupForm → String
  | .open => "open"
  | topUp => "top_up"

def discriminator : SetupForm → UInt8
  | .open => openDiscriminator
  | topUp => topUpDiscriminator

end SetupForm

/-- The channel configuration a payload carries. -/
structure BatchChannelConfig where
  payer : String
  payerAuthorizer : String
  token : String
  withdrawDelay : ℕ
  salt : String
  openSlot : ℕ

/-- What a client transaction is checked against. -/
structure TransactionExpectations where
  programId : Pubkey
  feePayer : Pubkey
  config : BatchChannelConfig
  channelId : Pubkey
  tokenProgram : Pubkey
  receiver : Pubkey
  memo : Option String
  receiverAuthorizer : Pubkey
  acceptedVersions : List TxVersion

/-- A validated transaction; only the fee payer's signature is missing. -/
structure ValidatedTransaction where
  transaction : VersionedTransaction
  payer : Pubkey
deriving DecidableEq

/-- A refusal of a setup transaction. -/
def setupError (detail : String) : BatchError :=
  ⟨errors.invalidSetupTransaction, detail⟩

def refundError (detail : String) : BatchError :=
  ⟨errors.invalidRefundTransaction, detail⟩

def parsePubkey (text : String) : Except String Pubkey :=
  match Pubkey.fromStr text with
  | .ok key => .ok key
  | .error error => .error ("invalid pubkey " ++ text ++ ": " ++ error.display)

/-- A key of the channel configuration. -/
def configKey (field text : String) : Except BatchError Pubkey :=
  (parsePubkey text).mapError fun error => setupError ("channelConfig." ++ field ++ ": " ++ error)

section Envelope

variable (chain : Chain) (tx : VersionedTransaction) (expected : TransactionExpectations)
  (label : String)

/-- A check of the transaction's envelope, refusing as the scheme does. -/
def envelope {Result : Type} (check : Except String Result) : Except BatchError Result :=
  check.mapError fun error => setupError (label ++ " transaction: " ++ error)

/-- `check_envelope`: the channel payer. -/
def checkEnvelope : Except BatchError Pubkey := do
  let version := TxVersion.of tx.message
  refuseIf (version ∉ expected.acceptedVersions)
    (⟨errors.unsupportedTransactionVersion, label ++ " transaction is version " ++
      version.display ++ ", which this sponsor does not accept"⟩ : BatchError)
  let _ ← envelope label (Tx.checkEnvelope chain.serializedSize tx expected.acceptedVersions)
  let _ ← envelope label (checkV1BudgetCapsWith tx.message openMaxComputeUnitLimit
    maxComputeUnitPriceMicrolamports .present)
  envelope label (rejectV1HeapRequest tx.message)
  let payer ← configKey "payer" expected.config.payer
  refuseIf (payer = expected.feePayer)
    (⟨errors.invalidFeePayerMismatch, "channelConfig.payer must not equal extra.feePayer"⟩ :
      BatchError)
  let keys := tx.message.staticAccountKeys
  refuseIf (keys.head? ≠ some expected.feePayer)
    (setupError (label ++ " transaction fee payer must be " ++ expected.feePayer.display))
  let required := tx.message.header.numRequiredSignatures.toNat
  refuseIf (required ≠ 2)
    (setupError (label ++ s!" transaction must require exactly 2 signatures, got {required}"))
  refuseIf (keys[1]? ≠ some payer)
    (setupError (label ++ " transaction second signer must be the channel payer " ++
      payer.display))
  refuseIf (tx.signatures.length ≠ required)
    (setupError (label ++ s!" transaction has {tx.signatures.length} signature slots but " ++
      s!"requires {required}"))
  refuseIf (¬tx.signatures[1]?.any (chain.verify · payer (chain.serialize tx.message)))
    (setupError (label ++ " transaction is missing a valid channel-payer signature"))
  return payer

end Envelope

/-! ### Account tables -/

def expectAccount (keys : List Pubkey) (ix : CompiledInstruction) (position : ℕ) (want : Pubkey)
    (role label : String) : Except BatchError Unit :=
  refuseIf (accountAt keys ix position ≠ some want)
    (setupError (label ++ " " ++ role ++ " mismatch: expected " ++ want.display ++ ", got " ++
      ((accountAt keys ix position).map Pubkey.display).getD "<none>"))

/-- `expect_account` for each position of a table, from `position` on. -/
def expectAccounts (keys : List Pubkey) (ix : CompiledInstruction) (label : String) :
    ℕ → List (String × Pubkey) → Except BatchError Unit
  | _, [] => .ok ()
  | position, (role, want) :: rest => do
      expectAccount keys ix position want role label
      expectAccounts keys ix label (position + 1) rest

def rejectFeePayerAccount (keys : List Pubkey) (feePayer : Pubkey) (ix : CompiledInstruction)
    (label : String) : Except BatchError Unit :=
  refuseIf (namesFeePayer keys feePayer ix)
    (setupError (label ++ " instruction must not reference the fee payer"))

section Open

variable (chain : Chain) (expected : TransactionExpectations)

/-- The accounts of `open`, with their roles. -/
def openAccounts (payer mint authorizedSigner : Pubkey) : List (String × Pubkey) := [
  ("payer", payer),
  ("rent_payer", expected.feePayer),
  ("payee", expected.feePayer),
  ("mint", mint),
  ("authorized_signer", authorizedSigner),
  ("channel", expected.channelId),
  ("payer_token_account", chain.findAssociatedTokenAddress payer mint expected.tokenProgram),
  ("channel_token_account",
    chain.findAssociatedTokenAddress expected.channelId mint expected.tokenProgram),
  ("token_program", expected.tokenProgram),
  ("system_program", systemProgram),
  ("rent", rentSysvar),
  ("associated_token_program", ataProgram),
  ("event_authority", chain.findEventAuthorityPda expected.programId),
  ("self_program", expected.programId)]

def checkOpenAccounts (keys : List Pubkey) (payer : Pubkey) (ix : CompiledInstruction)
    (label : String) : Except BatchError Unit := do
  refuseIf (ix.accounts.length ≠ 14)
    (setupError ("open must have exactly 14 accounts and no remaining accounts, got " ++
      s!"{ix.accounts.length}"))
  let mint ← configKey "token" expected.config.token
  let authorizedSigner ← configKey "payerAuthorizer" expected.config.payerAuthorizer
  expectAccounts keys ix label 0 (openAccounts chain expected payer mint authorizedSigner)

/-- The receiver-binding memo of a key. -/
def receiverBindingMemo (receiverAuthorizer : Pubkey) : String :=
  receiverBindingMemoPrefix ++ receiverAuthorizer.display

/-- `parse_receiver_binding_memo`: none when the data is no binding memo. -/
def parseReceiverBindingMemo (data : List UInt8) : Option (Except BatchError Pubkey) :=
  if (asBytes receiverBindingMemoPrefix).isPrefixOf data then
    let key := (String.fromUTF8? ⟨(data.drop (asBytes receiverBindingMemoPrefix).length).toArray⟩)
      |>.bind fun text => (parsePubkey text).toOption
    some (okOr (key.filter fun parsed => asBytes (receiverBindingMemo parsed) = data)
      ⟨errors.invalidReceiverAuthorizerMismatch,
        "receiver-binding memo does not name a base58 Solana address"⟩)
  else none

def checkReceiverBinding (tx : VersionedTransaction) (keys : List Pubkey) :
    Except BatchError Unit :=
  let bound := (tx.message.instructions.filter fun ix => programOf keys ix = some memoProgram)
    |>.filterMap fun ix => parseReceiverBindingMemo ix.data
  match bound with
  | [key] => do
      let key ← key
      refuseIf (key ≠ expected.receiverAuthorizer)
        (⟨errors.invalidReceiverAuthorizerMismatch, "open binds receiver authorizer " ++
          key.display ++ ", not extra.receiverAuthorizer " ++
          expected.receiverAuthorizer.display⟩ : BatchError)
  | _ => .error (setupError "open transaction must carry exactly one receiver-binding Memo")

/-- `Pubkey::try_from` of a byte slice. -/
def pubkeyOfBytes (bytes : List UInt8) : Option Pubkey :=
  if hLength : bytes.length = 32 then some ⟨bytes, hLength⟩ else none

def checkOpenArgs (ix : CompiledInstruction) (depositAmount : ℕ) (recentSlot : Option ℕ) :
    Except BatchError Unit := do
  let wantLength := openArgsPrefixLength + 4 + distributionEntryLength
  refuseIf (ix.data.length ≠ wantLength)
    (setupError (s!"open args must be exactly {wantLength} bytes for a single-recipient " ++
      s!"distribution, got {ix.data.length}"))
  let salt := fromLeBytes ix.data 1 9
  let deposit := fromLeBytes ix.data 9 17
  let gracePeriod := fromLeBytes ix.data 17 21
  let openSlot := fromLeBytes ix.data 21 29
  let wantSalt ← okOr (parseU64 expected.config.salt)
    (setupError ("channelConfig.salt: invalid channelConfig.salt: " ++
      expected.config.salt.quote))
  refuseIf (salt ≠ wantSalt)
    (setupError s!"open salt {salt} does not match channelConfig.salt {wantSalt}")
  refuseIf (deposit ≠ depositAmount)
    (setupError s!"open deposit {deposit} does not match deposit.amount {depositAmount}")
  refuseIf (gracePeriod ≠ expected.config.withdrawDelay)
    (⟨errors.invalidWithdrawDelayMismatch, s!"open grace_period {gracePeriod} does not match " ++
      s!"withdrawDelay {expected.config.withdrawDelay}"⟩ : BatchError)
  refuseIf (openSlot ≠ expected.config.openSlot)
    (setupError (s!"open open_slot {openSlot} does not match channelConfig.openSlot " ++
      s!"{expected.config.openSlot}"))
  let count := fromLeBytes ix.data openArgsPrefixLength (openArgsPrefixLength + 4)
  refuseIf (count ≠ 1)
    (setupError s!"open distribution must have exactly one recipient, got {count}")
  let entry := ix.data.drop (openArgsPrefixLength + 4)
  let recipient ← okOr (pubkeyOfBytes (entry.take 32))
    (setupError "open distribution recipient is not a pubkey")
  let bps := fromLeBytes entry 32 34
  refuseIf (recipient ≠ expected.receiver ∨ bps ≠ fullShareBps)
    (setupError ("open distribution must pay 100% to " ++ expected.receiver.display ++ ", got " ++
      recipient.display ++ s!" at {bps} bps"))
  let payer ← (parsePubkey expected.config.payer).mapError setupError
  let mint ← (parsePubkey expected.config.token).mapError setupError
  let authorizedSigner ← (parsePubkey expected.config.payerAuthorizer).mapError setupError
  let derived := chain.findChannelPda payer expected.feePayer mint authorizedSigner salt openSlot
    expected.programId
  refuseIf (derived ≠ expected.channelId)
    (⟨errors.invalidChannelIdMismatch, "open channel " ++ expected.channelId.display ++
      " is not the PDA derived from its own args (" ++ derived.display ++ ")"⟩ : BatchError)
  refuseIf (recentSlot.any (· < openSlot))
    (setupError s!"open open_slot {openSlot} is ahead of the current slot {recentSlot.getD 0}")
  refuseIf (recentSlot.any (openSlotWindow < · - openSlot))
    (setupError (s!"open open_slot {openSlot} is outside the {openSlotWindow}-slot window of " ++
      s!"the current slot {recentSlot.getD 0}"))

end Open

section TopUp

variable (chain : Chain) (expected : TransactionExpectations)

/-- The accounts of `top_up`, with their roles. -/
def topUpAccounts (payer mint : Pubkey) : List (String × Pubkey) := [
  ("payer", payer),
  ("channel", expected.channelId),
  ("payer_token_account", chain.findAssociatedTokenAddress payer mint expected.tokenProgram),
  ("channel_token_account",
    chain.findAssociatedTokenAddress expected.channelId mint expected.tokenProgram),
  ("mint", mint),
  ("token_program", expected.tokenProgram)]

def checkTopUpAccounts (keys : List Pubkey) (payer : Pubkey) (ix : CompiledInstruction)
    (label : String) : Except BatchError Unit := do
  refuseIf (ix.accounts.length ≠ 6)
    (setupError ("top_up must have exactly 6 accounts and no remaining accounts, got " ++
      s!"{ix.accounts.length}"))
  let mint ← configKey "token" expected.config.token
  expectAccounts keys ix label 0 (topUpAccounts chain expected payer mint)

def checkTopUpArgs (ix : CompiledInstruction) (depositAmount : ℕ) (label : String) :
    Except BatchError Unit := do
  refuseIf (ix.data.length ≠ 9)
    (setupError (label ++ s!" args must be exactly 9 bytes, got {ix.data.length}"))
  let amount := fromLeBytes ix.data 1 9
  refuseIf (amount ≠ depositAmount)
    (setupError (label ++ s!" amount {amount} does not match deposit.amount {depositAmount}"))

end TopUp

/-! ### Account privileges -/

/-- Whether the static account at a position is writable, from the message header. -/
def isWritable (tx : VersionedTransaction) (index : ℕ) : Bool :=
  let header := tx.message.header
  let signers := header.numRequiredSignatures.toNat
  let total := tx.message.staticAccountKeys.length
  -- More read-only signers than signers wrap around, as in a release build.
  if index < signers then
    index < (signers + 2 ^ 64 - header.numReadonlySignedAccounts.toNat) % 2 ^ 64
  else index < total - header.numReadonlyUnsignedAccounts.toNat

/-- `check_privileges` for an account that must be writable. -/
def checkWritable (tx : VersionedTransaction) (ix : CompiledInstruction) (label : String)
    (position : ℕ) (role : String) : Except BatchError Unit := do
  let index ← okOr ix.accounts[position]?
    (setupError (label ++ " " ++ role ++ s!" account position {position} is missing"))
  refuseIf (¬isWritable tx index.toNat)
    (setupError (label ++ " " ++ role ++ " must be writable"))

/-! ### The validators -/

/-- `validate_setup_transaction`, from a decoded transaction. -/
def validateSetup (chain : Chain) (tx : VersionedTransaction) (form : SetupForm)
    (expected : TransactionExpectations) (depositAmount : ℕ) (recentSlot : Option ℕ) :
    Except BatchError ValidatedTransaction := do
  let label := form.label
  let payer ← checkEnvelope chain tx expected label
  let keys := tx.message.staticAccountKeys
  let policy := match form with
    | .open => MemoPolicy.requiredWithBinding expected.memo receiverBindingMemoPrefix
    | .topUp => MemoPolicy.required expected.memo
  let ix ← (scanChannelTxLayout tx expected.programId form.discriminator label policy).mapError
    setupError
  match form with
  | .open => do
      checkReceiverBinding expected tx keys
      checkOpenAccounts chain expected keys payer ix label
      checkOpenArgs chain expected ix depositAmount recentSlot
      [(0, "payer"), (1, "rent_payer"), (5, "channel"), (6, "payer_token_account"),
        (7, "channel_token_account")].forM fun entry => checkWritable tx ix label entry.1 entry.2
      return ⟨tx, payer⟩
  | .topUp => do
      checkTopUpAccounts chain expected keys payer ix label
      checkTopUpArgs ix depositAmount label
      [(0, "payer"), (1, "channel"), (2, "payer_token_account"),
        (3, "channel_token_account")].forM fun entry => checkWritable tx ix label entry.1 entry.2
      rejectFeePayerAccount keys expected.feePayer ix label
      return ⟨tx, payer⟩

/-- `decode` of the policy. -/
def decodeTransaction (chain : Chain) (transaction label : String) :
    Except BatchError VersionedTransaction :=
  (chain.decode transaction).mapError fun error =>
    setupError (label ++ " transaction could not be decoded: " ++ error)

def validateSetupTransaction (chain : Chain) (transaction : String) (form : SetupForm)
    (expected : TransactionExpectations) (depositAmount : ℕ) (recentSlot : Option ℕ) :
    Except BatchError ValidatedTransaction := do
  let tx ← decodeTransaction chain transaction form.label
  validateSetup chain tx form expected depositAmount recentSlot

/-- `validate_request_close_transaction`, from a decoded transaction. -/
def validateRequestClose (chain : Chain) (tx : VersionedTransaction)
    (expected : TransactionExpectations) : Except BatchError ValidatedTransaction := do
  let label := "request_close"
  let asRefund {Result : Type} (check : Except BatchError Result) : Except BatchError Result :=
    check.mapError fun error => refundError error.detail
  let payer ← (checkEnvelope chain tx expected label).mapError fun error =>
    if error.code = errors.unsupportedTransactionVersion then error else refundError error.detail
  let keys := tx.message.staticAccountKeys
  let ix ← (scanChannelTxLayout tx expected.programId requestCloseDiscriminator label
    (.required expected.memo)).mapError refundError
  refuseIf (ix.accounts.length ≠ 2)
    (refundError s!"request_close must have exactly 2 accounts, got {ix.accounts.length}")
  asRefund (expectAccounts keys ix label 0 [("payer", payer), ("channel", expected.channelId)])
  refuseIf (ix.data.length ≠ 1)
    (refundError s!"request_close takes no arguments, got {ix.data.length} data bytes")
  asRefund (checkWritable tx ix label 1 "channel")
  asRefund (rejectFeePayerAccount keys expected.feePayer ix label)
  return ⟨tx, payer⟩

def validateRequestCloseTransaction (chain : Chain) (transaction : String)
    (expected : TransactionExpectations) : Except BatchError ValidatedTransaction := do
  let tx ← (decodeTransaction chain transaction "request_close").mapError fun error =>
    refundError error.detail
  validateRequestClose chain tx expected

end PayKit.BatchSettlement
