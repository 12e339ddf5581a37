import PayKit.Arithmetic.Machine
import PayKit.Tx.Message

/-!
# Compute budgets

`core/tx/budget.rs`: the compute budget a message declares, read from ComputeBudget
instructions on version 0 and from the message's configuration on version 1. The
operations return the text of their error.
-/

namespace PayKit.Tx

open Solana Control Machine

def setUnitLimitTag : UInt8 := 2
def setUnitPriceTag : UInt8 := 3
def setLoadedAccountsDataSizeLimitTag : UInt8 := 4

/-- The runtime's maximum for loaded account data. -/
def maxLoadedAccountsDataSizeBytes : ℕ := 64 * 1024 * 1024

structure ComputeBudget where
  unitLimit : ℕ
  unitPriceMicroLamports : ℕ
  loadedAccountsDataSizeLimit : ℕ := maxLoadedAccountsDataSizeBytes
deriving DecidableEq

/-- What the runtime gives a transaction that sets no budget. -/
def ComputeBudget.runtimeDefault (numInstructions : ℕ) : ComputeBudget where
  unitLimit := min (200000 * numInstructions) 1400000
  unitPriceMicroLamports := 0

/-- Total priority fee in lamports, rounded up. -/
def ComputeBudget.priorityFeeLamports (budget : ComputeBudget) : ℕ :=
  min ((budget.unitLimit * budget.unitPriceMicroLamports + 999999) / 1000000) u64Max

/-- A decoded ComputeBudget instruction. -/
inductive ComputeBudgetOp where
  | unitLimit (units : ℕ)
  | unitPrice (price : ℕ)
  | loadedAccountsDataSizeLimit (bytes : ℕ)
deriving DecidableEq

def decodeComputeBudgetOp (ix : CompiledInstruction) : Option ComputeBudgetOp :=
  if ix.data.head? = some setUnitLimitTag ∧ ix.data.length = 5 then
    some (.unitLimit (fromLeBytes ix.data 1 5))
  else if ix.data.head? = some setUnitPriceTag ∧ ix.data.length = 9 then
    some (.unitPrice (fromLeBytes ix.data 1 9))
  else if ix.data.head? = some setLoadedAccountsDataSizeLimitTag ∧ ix.data.length = 5 then
    some (.loadedAccountsDataSizeLimit (fromLeBytes ix.data 1 5))
  else
    none

/-- The compute budget a message declares. -/
structure DeclaredBudget where
  unitLimit : Option ℕ := none
  unitPriceMicroLamports : Option ℕ := none
  loadedAccountsDataSizeLimit : Option ℕ := none
  /-- Positions of the ComputeBudget instructions that carried the budget. -/
  instructionIndexes : List ℕ := []
deriving DecidableEq

namespace DeclaredBudget

/-- Note one ComputeBudget instruction of a version-0 message. -/
def declare (budget : DeclaredBudget) (index : ℕ) (ix : CompiledInstruction) :
    Except String DeclaredBudget :=
  match decodeComputeBudgetOp ix with
  | some (.unitLimit units) =>
      if budget.unitLimit.isSome then
        .error "duplicate SetComputeUnitLimit instruction"
      else
        .ok { budget with
              unitLimit := some units
              instructionIndexes := budget.instructionIndexes ++ [index] }
  | some (.unitPrice price) =>
      if budget.unitPriceMicroLamports.isSome then
        .error "duplicate SetComputeUnitPrice instruction"
      else
        .ok { budget with
              unitPriceMicroLamports := some price
              instructionIndexes := budget.instructionIndexes ++ [index] }
  | some (.loadedAccountsDataSizeLimit bytes) =>
      if budget.loadedAccountsDataSizeLimit.isSome then
        .error "duplicate SetLoadedAccountsDataSizeLimit instruction"
      else
        .ok { budget with
              loadedAccountsDataSizeLimit := some bytes
              instructionIndexes := budget.instructionIndexes ++ [index] }
  | none => .error "unsupported ComputeBudget instruction"

/-- Whether an instruction calls the ComputeBudget program. -/
def isComputeBudget (keys : List Pubkey) (ix : CompiledInstruction) : Bool :=
  programOf keys ix = some computeBudgetProgram

/-- The scan of a version-0 message, from the instruction at `index` on. -/
def scan (keys : List Pubkey) :
    ℕ → List CompiledInstruction → DeclaredBudget → Except String DeclaredBudget
  | _, [], budget => .ok budget
  | index, ix :: rest, budget =>
      if isComputeBudget keys ix then do
        let budget ← budget.declare index ix
        scan keys (index + 1) rest budget
      else
        scan keys (index + 1) rest budget

/-- The price per unit that a total fee amounts to, rounded up. -/
def unitPrice (unitLimit fee : ℕ) : ℕ :=
  if unitLimit = 0 then u64Max
  else min ((fee * 1000000 + (unitLimit - 1)) / unitLimit) u64Max

def of : VersionedMessage → Except String DeclaredBudget
  | .v1 message config => do
      refuseIf (message.instructions.any (isComputeBudget message.accountKeys))
        "version 1 transactions must not contain ComputeBudget instructions"
      match config.computeUnitLimit with
      | none => .error "version 1 transaction config must set computeUnitLimit"
      | some unitLimit =>
          .ok { unitLimit := some unitLimit
                unitPriceMicroLamports := config.priorityFee.map (unitPrice unitLimit)
                loadedAccountsDataSizeLimit := config.loadedAccountsDataSizeLimit
                instructionIndexes := [] }
  | .v0 message _ => scan message.accountKeys 0 message.instructions {}
  | .legacy message => scan message.accountKeys 0 message.instructions {}

end DeclaredBudget

end PayKit.Tx
