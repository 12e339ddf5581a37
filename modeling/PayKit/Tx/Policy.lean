import PayKit.Tx.Budget

/-!
# The transaction envelope

`core/tx/policy.rs`: the checks every verifier runs before it looks at an
instruction. The version is accepted, no lookup table hides an account, the size
and counts are within the version's limits, and the declared budget is within the
caps of whoever pays the fee.

`serializedSize` is the size of a transaction on the wire.
-/

namespace PayKit.Tx

open Solana Control Machine

variable (serializedSize : VersionedTransaction → Except String ℕ)

def checkLimits (tx : VersionedTransaction) (version : TxVersion) : Except String ℕ := do
  let limits := version.limits
  let size ← serializedSize tx
  refuseIf (limits.maxBytes < size)
    (s!"version {version.display} transaction is {size} bytes, over the {limits.maxBytes}-byte " ++
      "limit")
  let accounts := tx.message.staticAccountKeys.length
  refuseIf (limits.maxStaticAccounts < accounts)
    (s!"version {version.display} transaction has {accounts} accounts, over the limit of " ++
      s!"{limits.maxStaticAccounts}")
  let count := tx.message.instructions.length
  refuseIf (limits.maxInstructions.any (· < count))
    (s!"version {version.display} transaction has {count} instructions, over the limit of " ++
      s!"{limits.maxInstructions.getD 0}")
  let signatures := tx.message.header.numRequiredSignatures.toNat
  refuseIf (limits.maxSignatures.any (· < signatures))
    (s!"version {version.display} transaction requires {signatures} signatures, over the limit " ++
      s!"of {limits.maxSignatures.getD 0}")
  return size

def requireStaticAccounts (message : VersionedMessage) : Except String Unit :=
  refuseIf (message.addressTableLookups.any (!·.isEmpty))
    "transactions with address lookup tables are not supported"

def checkEnvelope (tx : VersionedTransaction) (accepted : List TxVersion) :
    Except String TxVersion := do
  let version := TxVersion.of tx.message
  refuseIf (version ∉ accepted)
    (s!"transaction version {version.display} is not accepted; accepted versions: " ++
      displayVersions accepted)
  requireStaticAccounts tx.message
  let _ ← checkLimits serializedSize tx version
  return version

def VersionedMessage.isLegacy : VersionedMessage → Bool
  | .legacy _ => true
  | _ => false

def checkEnvelopeWithoutLegacy (tx : VersionedTransaction) (accepted : List TxVersion) :
    Except String TxVersion := do
  refuseIf tx.message.isLegacy
    (s!"legacy transaction version is not accepted; accepted versions: " ++
      displayVersions accepted)
  checkEnvelope serializedSize tx accepted

/-- What a version-1 message's loaded-data limit must be. -/
inductive LoadedDataLimitRule where
  | maximum
  | present
deriving DecidableEq

namespace LoadedDataLimitRule

def accepts : LoadedDataLimitRule → Option ℕ → Bool
  | maximum, limit => limit = some maxLoadedAccountsDataSizeBytes
  | present, limit => limit.any fun limit => 0 < limit ∧ limit ≤ maxLoadedAccountsDataSizeBytes

def refusal : LoadedDataLimitRule → String
  | maximum =>
      s!"version 1 loaded accounts data size limit must be {maxLoadedAccountsDataSizeBytes}"
  | present =>
      "version 1 loaded accounts data size limit must be present, nonzero and at most " ++
        s!"{maxLoadedAccountsDataSizeBytes}"

end LoadedDataLimitRule

/-- The caps on a declared unit limit and unit price. -/
def checkDeclaredCaps (declared : DeclaredBudget) (maxUnitLimit maxUnitPriceMicroLamports : ℕ) :
    Except String Unit := do
  refuseIf (declared.unitLimit = some 0) "compute unit limit must be positive"
  refuseIf (declared.unitLimit.any (maxUnitLimit < ·))
    s!"compute unit limit {declared.unitLimit.getD 0} exceeds maximum {maxUnitLimit}"
  refuseIf (declared.unitPriceMicroLamports.any (maxUnitPriceMicroLamports < ·))
    (s!"compute unit price {declared.unitPriceMicroLamports.getD 0} exceeds maximum " ++
      s!"{maxUnitPriceMicroLamports}")

def checkV1BudgetCapsWith (message : VersionedMessage)
    (maxUnitLimit maxUnitPriceMicroLamports : ℕ) (loaded : LoadedDataLimitRule) :
    Except String (Option DeclaredBudget) :=
  match TxVersion.of message with
  | .v0 => .ok none
  | .v1 => do
      let declared ← DeclaredBudget.of message
      checkDeclaredCaps declared maxUnitLimit maxUnitPriceMicroLamports
      refuseIf (¬loaded.accepts declared.loadedAccountsDataSizeLimit) loaded.refusal
      return some declared

def checkV1BudgetCaps (message : VersionedMessage)
    (maxUnitLimit maxUnitPriceMicroLamports : ℕ) : Except String (Option DeclaredBudget) :=
  checkV1BudgetCapsWith message maxUnitLimit maxUnitPriceMicroLamports .maximum

def rejectV1HeapRequest : VersionedMessage → Except String Unit
  | .v1 _ config =>
      refuseIf config.heapSize.isSome
        "version 1 transaction config must not request a heap size"
  | _ => .ok ()

/-- The number of instructions the runtime budgets when no limit is declared. -/
def budgetedInstructions (message : VersionedMessage) (declared : DeclaredBudget) : ℕ :=
  message.instructions.length - declared.instructionIndexes.length

def checkV0BudgetCaps (message : VersionedMessage)
    (maxUnitLimit maxUnitPriceMicroLamports : ℕ) : Except String (Option DeclaredBudget) :=
  match TxVersion.of message with
  | .v1 => .ok none
  | .v0 => do
      let declared ← DeclaredBudget.of message
      refuseIf (declared.instructionIndexes.any fun index =>
          message.instructions[index]?.any (!·.accounts.isEmpty))
        "ComputeBudget instructions must not have accounts"
      refuseIf declared.loadedAccountsDataSizeLimit.isSome
        "SetLoadedAccountsDataSizeLimit is not supported"
      checkDeclaredCaps declared maxUnitLimit maxUnitPriceMicroLamports
      let implicitLimit :=
        (ComputeBudget.runtimeDefault (budgetedInstructions message declared)).unitLimit
      refuseIf (declared.unitPriceMicroLamports.any (0 < ·) ∧ declared.unitLimit = none ∧
          maxUnitLimit < implicitLimit)
        (s!"implicit compute unit limit {implicitLimit} exceeds maximum {maxUnitLimit}; declare " ++
          "SetComputeUnitLimit")
      return some declared

/-- Highest total priority fee, in lamports, a fee sponsor pays. -/
def maxSponsoredPriorityFeeLamports : ℕ := 2000

/-- The priority fee of a message with a declared budget, in lamports. -/
def priorityFee (message : VersionedMessage) (declared : DeclaredBudget) : ℕ :=
  match message with
  | .v1 _ config => config.priorityFee.getD 0
  | _ =>
      let price := declared.unitPriceMicroLamports.getD 0
      let limit := declared.unitLimit.getD
        (ComputeBudget.runtimeDefault (budgetedInstructions message declared)).unitLimit
      ComputeBudget.priorityFeeLamports { unitLimit := limit, unitPriceMicroLamports := price }

def checkPriorityFee (message : VersionedMessage) (maxLamports : ℕ) : Except String ℕ := do
  let declared ← DeclaredBudget.of message
  let fee := priorityFee message declared
  refuseIf (maxLamports < fee)
    s!"priority fee {fee} lamports exceeds the sponsored maximum {maxLamports}"
  return fee

end PayKit.Tx
