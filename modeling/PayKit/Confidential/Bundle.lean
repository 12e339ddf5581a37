import PayKit.Charge.VerificationError
import PayKit.Tx.Compile

/-!
# Verifying a confidential bundle

The first pass of `settle_confidential_bundle` of `mpp/server/confidential.rs`. A client sends
transactions that the gateway pays for. Each is checked alone: its instructions against a list
of what is allowed, its signers, its signatures. Then the accounts that the transactions create
are followed over the whole bundle: each is initialized where it is created and closed in the
last transaction, which is the one with the transfer.

The record program, the size of a transaction and the verification of a signature are
parameters.
-/

namespace PayKit.Confidential

open Charge Control Encoding Machine Solana Tx

def zkElgamalProofProgram : Pubkey := .ofConst "ZkE1Gama1Proof11111111111111111111111111111"
def maxCtCreateAccountSpace : ℕ := 4096
def maxCtCreateAccountLamports : ℕ := 50000000
def maxCtBundleFundedAccounts : ℕ := 6
def maxCtBundleCreateLamports : ℕ := maxCtCreateAccountLamports * maxCtBundleFundedAccounts
def maxConfidentialComputeUnitLimit : ℕ := 1400000
def maxComputeUnitPriceMicrolamportsFeeSponsored : ℕ := 10000

def rentExemptCeiling (space : ℕ) : ℕ :=
  (128 + space) * 3480 * 2

/-- The record program: its key, and where the payload of a record starts. -/
structure RecordProgram where
  id : Pubkey
  writableStartIndex : ℕ

structure BundleScope where
  gateway : Pubkey
  tokenProgram : Pubkey
  recipientAta : Pubkey
  acceptedVersions : List TxVersion
  recordProgram : RecordProgram
  serializedSize : VersionedTransaction → Except String ℕ
  /-- Whether a key signed a message. -/
  verifySignature : VersionedMessage → Pubkey → Signature → Bool

/-- The number in the bytes of a range, if they are all there. -/
def leAt (data : List UInt8) (start stop : ℕ) : Option ℕ :=
  if stop ≤ data.length then some (fromLeBytes data start stop) else none

/-- The key in the 32 bytes from a position on. -/
def keyBytesAt (data : List UInt8) (start : ℕ) : Option Pubkey :=
  if hLength : start + 32 ≤ data.length then
    some ⟨slice data start (start + 32), by rw [length_slice hLength]; omega⟩
  else none

def mismatch (message : String) : VerificationError :=
  .credentialMismatch message

/-! ### One transaction -/

/-- What the scan of a transaction has seen. -/
structure BundleTxScan where
  transferCount : ℕ
  createdAccounts : List Pubkey
  transferAccounts : List Pubkey

/-- `System::create_account`: tag, lamports, space and owner. -/
structure CreateAccount where
  lamports : ℕ
  space : ℕ
  owner : Pubkey

/-- Whether the data of an instruction is that of a confidential transfer. -/
def isConfidentialTransfer (data : List UInt8) : Bool :=
  data[0]? = some 27 && (data[1]? = some 7 || data[1]? = some 13)

section

variable (scope : BundleScope) (keys : List Pubkey)

def checkCreateAccount (ix : CompiledInstruction) : Except VerificationError Unit := do
  refuseIf (leAt ix.data 0 4 ≠ some 0) (mismatch "only System create_account is allowed")
  refuseIf (accountAt keys ix 0 ≠ some scope.gateway)
    (mismatch "create_account is not funded by the gateway")
  refuseIf (keyBytesAt ix.data 20 ≠ some zkElgamalProofProgram ∧
      keyBytesAt ix.data 20 ≠ some scope.recordProgram.id)
    (mismatch "create_account assigns a non-proof/record account")
  let lamports := leAt ix.data 4 12
  let space := leAt ix.data 12 20
  refuseIf (space.all (maxCtCreateAccountSpace < ·) ∨ lamports.all (maxCtCreateAccountLamports < ·))
    (mismatch "create_account exceeds the allowed size/rent for a proof/record account")
  refuseIf (space.any fun space => lamports.any (rentExemptCeiling space < ·))
    (mismatch (s!"create_account funds {lamports.getD 0} lamports, more than the " ++
      s!"{rentExemptCeiling (space.getD 0)} rent-exempt minimum for {space.getD 0} bytes"))

def checkZkInstruction (ix : CompiledInstruction) : Except VerificationError Unit :=
  if ix.data.head? = some 0 then
    refuseIf (accountAt keys ix 1 ≠ some scope.gateway ∨ accountAt keys ix 2 ≠ some scope.gateway)
      (mismatch "close_context_state must return rent to and be authorized by the gateway")
  else if ix.accounts.isEmpty then .ok ()
  else
    -- the form that reads its proof from an account has that account first
    refuseIf (accountAt keys ix (if ix.data.length = 5 then 2 else 1) ≠ some scope.gateway)
      (mismatch "ZK verify context_state_authority must be the gateway")

def checkRecordInstruction (ix : CompiledInstruction) : Except VerificationError Unit :=
  if ix.data.head? = some 0 then
    refuseIf (accountAt keys ix 1 ≠ some scope.gateway)
      (mismatch "spl-record initialize authority must be the gateway")
  else if ix.data.head? = some 2 then
    .error (mismatch "spl-record set_authority is not allowed in a confidential bundle")
  else if ix.data.head? = some 3 then
    refuseIf (accountAt keys ix 1 ≠ some scope.gateway ∨ accountAt keys ix 2 ≠ some scope.gateway)
      (mismatch "spl-record close_account must return rent to and be authorized by the gateway")
  else .ok ()

def checkBudgetInstruction (ix : CompiledInstruction) : Except VerificationError Unit :=
  match decodeComputeBudgetOp ix with
  | some (.unitLimit units) =>
      refuseIf (maxConfidentialComputeUnitLimit < units)
        (mismatch s!"compute unit limit {units} exceeds maximum {maxConfidentialComputeUnitLimit}")
  | some (.unitPrice price) =>
      refuseIf (maxComputeUnitPriceMicrolamportsFeeSponsored < price)
        (mismatch (s!"compute unit price {price} exceeds the fee-sponsored maximum " ++
          s!"{maxComputeUnitPriceMicrolamportsFeeSponsored}"))
  | some (.loadedAccountsDataSizeLimit _) | none =>
      .error (mismatch
        "only SetComputeUnitLimit / SetComputeUnitPrice are allowed on ComputeBudget")

def checkTransfer (ix : CompiledInstruction) : Except VerificationError Unit := do
  refuseIf (isConfidentialTransfer ix.data = false)
    (mismatch "only the confidential Transfer instruction is allowed on Token-2022")
  refuseIf (accountAt keys ix 2 ≠ some scope.recipientAta)
    (mismatch "confidential transfer destination is not the expected recipient")

/-- The keys that an instruction names. -/
def namedKeys (ix : CompiledInstruction) : List Pubkey :=
  ix.accounts.filterMap (keyAt keys)

def bundleProgram (ix : CompiledInstruction) : Except VerificationError Pubkey :=
  okOr (programOf keys ix)
    (VerificationError.invalidPayload "instruction references unknown program")

/-- One instruction of a transaction. -/
def scanBundleInstruction (scan : BundleTxScan) (ix : CompiledInstruction) :
    Except VerificationError BundleTxScan := do
  let program ← bundleProgram keys ix
  if program = systemProgram then
    checkCreateAccount scope keys ix
    return { scan with createdAccounts := (accountAt keys ix 1).toList ++ scan.createdAccounts }
  else if program = zkElgamalProofProgram then
    checkZkInstruction scope keys ix
    return scan
  else if program = scope.recordProgram.id then
    checkRecordInstruction scope keys ix
    return scan
  else if program = computeBudgetProgram then
    checkBudgetInstruction ix
    return scan
  else if program = scope.tokenProgram then
    checkTransfer scope keys ix
    return { scan with
      transferCount := scan.transferCount + 1
      transferAccounts := namedKeys keys ix ++ scan.transferAccounts }
  else .error (mismatch ("disallowed program " ++ program.display))

/-- The signers beside the gateway: `transferSigners` counts those that only the transfer
names. -/
def countTransferSigners (scan : BundleTxScan) : List Pubkey → Except VerificationError ℕ
  | [] => .ok 0
  | signer :: signers => do
      if signer ∈ scan.createdAccounts then countTransferSigners scan signers
      else if signer ∈ scan.transferAccounts then
        let count ← countTransferSigners scan signers
        return count + 1
      else .error (mismatch "unexpected signer in confidential bundle transaction")

end

/-- `verify_confidential_bundle_tx`: the number of transfers in a transaction. -/
def verifyConfidentialBundleTx (scope : BundleScope) (tx : VersionedTransaction) :
    Except VerificationError ℕ := do
  let _ ← (checkEnvelopeWithoutLegacy scope.serializedSize tx scope.acceptedVersions).mapError
    VerificationError.invalidPayload
  let _ ← (checkV1BudgetCaps tx.message maxConfidentialComputeUnitLimit
    maxComputeUnitPriceMicrolamportsFeeSponsored).mapError VerificationError.invalidPayload
  let keys := tx.message.staticAccountKeys
  refuseIf (keys.head? ≠ some scope.gateway) (mismatch "fee payer is not the gateway")
  let scan ← tx.message.instructions.foldlM (scanBundleInstruction scope keys) ⟨0, [], []⟩
  let required := tx.message.header.numRequiredSignatures.toNat
  let transferSigners ← countTransferSigners scan ((keys.take required).drop 1)
  refuseIf (1 < transferSigners)
    (mismatch "confidential transfer has more than one authority signer")
  return scan.transferCount

def checkSlot (scope : BundleScope) (tx : VersionedTransaction) (index : ℕ)
    (slot : Signature × Pubkey) : Except String Unit :=
  if slot.2 = scope.gateway then
    refuseIf (index ≠ 0 ∨ slot.1 ≠ Signature.default)
      "fee-payer signature slot must be empty before server co-signing"
  else
    refuseIf (scope.verifySignature tx.message slot.2 slot.1 = false)
      ("invalid client transaction signature for required signer " ++ slot.2.display)

/-- `require_presigned`, for the gateway as the fee payer. -/
def requirePresigned (scope : BundleScope) (tx : VersionedTransaction) : Except String Unit := do
  let required := tx.message.header.numRequiredSignatures.toNat
  let keys := tx.message.staticAccountKeys
  refuseIf (tx.signatures.length ≠ required ∨ keys.length < required)
    "transaction signature slots do not match its required signers"
  (tx.signatures.zip keys).zipIdx.forM fun slot => checkSlot scope tx slot.2 slot.1

/-! ### The accounts of a bundle -/

inductive FundedAccountKind where
  | proofContext
  | record
deriving DecidableEq

structure FundedAccount where
  kind : FundedAccountKind
  initialized : Bool
  closed : Bool
  space : ℕ
  written : ℕ
  /-- The transaction that creates the account. -/
  createdIn : ℕ

/-- The instructions of the record program. -/
inductive RecordIx where
  | initializeRecord
  | write (length : ℕ)
  | closeAccount

def RecordIx.parse (data : List UInt8) : Except VerificationError RecordIx :=
  if data.head? = some 0 then .ok .initializeRecord
  else if data.head? = some 1 then do
    let length ← okOr (leAt data 9 13) (mismatch "spl-record write has malformed data")
    refuseIf (length = 0) (mismatch "spl-record write is empty")
    refuseIf (data.length ≠ 13 + length) (mismatch "spl-record write has malformed data")
    return .write length
  else if data.head? = some 3 then .ok .closeAccount
  else .error (mismatch "unsupported spl-record instruction in confidential bundle")

/-- The accounts followed so far, in the order of their creation, and what the current
transaction did. -/
structure Lifecycle where
  funded : List (Pubkey × FundedAccount)
  totalLamports : ℕ
  createdInTransaction : List Pubkey
  advances : Bool

namespace Lifecycle

/-- The record with the state of an account changed. -/
def setAccount (funded : List (Pubkey × FundedAccount)) (account : Pubkey)
    (change : FundedAccount → FundedAccount) : List (Pubkey × FundedAccount) :=
  funded.map fun entry => if entry.1 = account then (entry.1, change entry.2) else entry

end Lifecycle

/-- Where in a bundle an instruction stands. -/
structure BundlePosition where
  txIndex : ℕ
  finalTx : ℕ
  keys : List Pubkey

section

variable (scope : BundleScope) (position : BundlePosition) (state : Lifecycle)

/-- The creation of a temporary account. -/
def createTemporary (ix : CompiledInstruction) : Except VerificationError Lifecycle := do
  let account ← okOr (accountAt position.keys ix 1)
    (mismatch "create_account is missing its new account")
  let owner ← okOr (keyBytesAt ix.data 20) (mismatch "create_account has malformed owner data")
  let kind := if owner = zkElgamalProofProgram then FundedAccountKind.proofContext else .record
  let lamports ← okOr (leAt ix.data 4 12) (mismatch "create_account has malformed lamport data")
  let totalLamports ← okOr (checkedAdd state.totalLamports lamports)
    (mismatch "confidential bundle account funding overflows")
  refuseIf (maxCtBundleCreateLamports < totalLamports)
    (mismatch (s!"confidential bundle funds {totalLamports} lamports of temporary accounts " ++
      s!"(max {maxCtBundleCreateLamports})"))
  let space ← okOr (leAt ix.data 12 20) (mismatch "create_account has malformed space data")
  refuseIf (account = scope.gateway ∨ (state.funded.lookup account).isSome)
    (mismatch "confidential bundle creates the same temporary account more than once")
  let funded := state.funded ++ [(account, ⟨kind, false, false, space, 0, position.txIndex⟩)]
  refuseIf (maxCtBundleFundedAccounts < funded.length)
    (mismatch (s!"confidential bundle creates more than {maxCtBundleFundedAccounts} " ++
      "temporary accounts"))
  return ⟨funded, totalLamports, account :: state.createdInTransaction, true⟩

/-- The `transition` of an account: its initialization or its close. -/
def transition (account : Pubkey) (expectedKind : FundedAccountKind) (close : Bool) :
    Except VerificationError Lifecycle := do
  let found ← okOr (state.funded.lookup account)
    (mismatch "confidential bundle uses a temporary account it did not create")
  refuseIf (found.kind ≠ expectedKind ∨ found.closed = true ∨ (¬close ∧ found.initialized = true))
    (mismatch "confidential bundle has an invalid temporary-account lifecycle")
  refuseIf (¬close ∧ account ∉ state.createdInTransaction)
    (mismatch ("gateway-funded temporary accounts must be created and initialized in the same " ++
      "transaction"))
  if close then
    refuseIf (position.txIndex ≠ position.finalTx)
      (mismatch "gateway-funded temporary accounts must be closed in the final transaction")
    refuseIf (found.initialized = false)
      (mismatch "confidential bundle closes an uninitialized temporary account")
    return { state with
      funded := Lifecycle.setAccount state.funded account ({ · with closed := true }) }
  else
    return { state with
      funded := Lifecycle.setAccount state.funded account ({ · with initialized := true })
      advances := true }

/-- The context account of a proof instruction, and whether it is closed. -/
def zkContext (keys : List Pubkey) (ix : CompiledInstruction) : Option Pubkey × Bool :=
  if ix.data.head? = some 0 then (accountAt keys ix 0, true)
  else if ix.data.length = 5 then (accountAt keys ix 1, false)
  else (accountAt keys ix 0, false)

def followZk (ix : CompiledInstruction) : Except VerificationError Lifecycle :=
  if ix.accounts.isEmpty then .ok state
  else do
    let account ← okOr (zkContext position.keys ix).1
      (mismatch "ZK instruction is missing its context account")
    transition position state account .proofContext (zkContext position.keys ix).2

def writeRecord (account : Pubkey) (length : ℕ) : Except VerificationError Lifecycle := do
  let found ← okOr (state.funded.lookup account)
    (mismatch "confidential bundle writes a record it did not create")
  refuseIf (found.kind ≠ .record ∨ found.initialized = false ∨ found.closed = true)
    (mismatch "confidential bundle writes outside an initialized record lifecycle")
  let written := saturatingAdd found.written length
  refuseIf (found.space - scope.recordProgram.writableStartIndex < written)
    (mismatch "confidential bundle writes more record data than the record holds")
  return { state with
    funded := Lifecycle.setAccount state.funded account ({ · with written })
    advances := true }

def followRecord (ix : CompiledInstruction) : Except VerificationError Lifecycle := do
  let account ← okOr (accountAt position.keys ix 0)
    (mismatch "spl-record instruction is missing its record account")
  match ← RecordIx.parse ix.data with
  | .initializeRecord => transition position state account .record false
  | .write length => writeRecord scope state account length
  | .closeAccount => transition position state account .record true

def followInstruction (ix : CompiledInstruction) : Except VerificationError Lifecycle := do
  let program ← bundleProgram position.keys ix
  if program = systemProgram then createTemporary scope position state ix
  else if program = zkElgamalProofProgram then followZk position state ix
  else if program = scope.recordProgram.id then followRecord scope position state ix
  else .ok state

end

def followTransaction (scope : BundleScope) (finalTx : ℕ) (state : Lifecycle)
    (tx : VersionedTransaction × ℕ) : Except VerificationError Lifecycle := do
  let position : BundlePosition := ⟨tx.2, finalTx, tx.1.message.staticAccountKeys⟩
  let state ← tx.1.message.instructions.foldlM (followInstruction scope position)
    { state with createdInTransaction := [], advances := false }
  refuseIf (tx.2 ≠ finalTx ∧ state.advances = false)
    (mismatch s!"confidential bundle transaction {tx.2} advances no temporary account")
  return state

structure BundleAccount where
  address : Pubkey
  kind : FundedAccountKind
  createdIn : ℕ
deriving DecidableEq

/-- `verify_confidential_account_lifecycle`. Accounts that one transaction creates come in the
order of their creation. -/
def verifyConfidentialAccountLifecycle (scope : BundleScope)
    (transactions : List VersionedTransaction) : Except VerificationError (List BundleAccount) := do
  let state ← transactions.zipIdx.foldlM (followTransaction scope (transactions.length - 1))
    ⟨[], 0, [], false⟩
  refuseIf (state.funded.any fun entry => ¬entry.2.initialized ∨ ¬entry.2.closed)
    (mismatch ("every gateway-funded temporary account must be initialized and closed back to " ++
      "the gateway"))
  return state.funded.map fun entry => ⟨entry.1, entry.2.kind, entry.2.createdIn⟩

/-! ### The first pass -/

/-- The transfers found so far, and the transaction of the last one. -/
structure TransferScan where
  count : ℕ
  tx : Option ℕ

def bundleTxError (index : ℕ) (message : String) : VerificationError :=
  mismatch (s!"Bundle tx {index}: " ++ message)

/-- One transaction of the first pass. -/
def admitTransaction (scope : BundleScope) (scan : TransferScan) (tx : VersionedTransaction × ℕ) :
    Except VerificationError TransferScan := do
  let transfers ← (verifyConfidentialBundleTx scope tx.1).mapError fun error =>
    bundleTxError tx.2 error.message
  (requirePresigned scope tx.1).mapError (bundleTxError tx.2)
  refuseIf (1 < scan.count + transfers)
    (mismatch "Confidential bundle contains more than one transfer")
  return ⟨scan.count + transfers, if 0 < transfers then some tx.2 else scan.tx⟩

/-- The first pass of `settle_confidential_bundle`, over the decoded transactions. -/
def verifyBundle (scope : BundleScope) (transactions : List VersionedTransaction) :
    Except VerificationError (List BundleAccount) := do
  let scan ← transactions.zipIdx.foldlM (admitTransaction scope) ⟨0, none⟩
  refuseIf (scan.count ≠ 1)
    (mismatch (s!"Confidential bundle must contain exactly one transfer (found {scan.count})"))
  refuseIf (scan.tx ≠ some (transactions.length - 1))
    (mismatch "The confidential transfer must be in the bundle's final transaction")
  verifyConfidentialAccountLifecycle scope transactions

end PayKit.Confidential
