import PayKit.Tx.Policy

/-!
# The layout of a sponsored channel transaction

`scan_channel_tx_layout` of `core/payment_channel/v1.rs`: a transaction that a sponsor
co-signs has a compute-budget prefix, one payment-channels instruction and a suffix of
memos and Lighthouse assertions. The scan is one pass over the instructions with a few
counters. It ends with a bound on the priority fee.

An error is its text.
-/

namespace PayKit.PaymentChannel

open Control Solana Tx

def lighthouseProgram : Pubkey :=
  .ofConst "L2TExMFKdjpN9kozasaurPirfHy9P8sbXoAN1qA3S95"

def openMaxComputeUnitLimit : ℕ := 400000
def maxComputeUnitPriceMicrolamports : ℕ := 5000000
def openMaxLighthouseInstructions : ℕ := 3
def openMaxOptionalSuffix : ℕ := 4
def openMaxMemoBytes : ℕ := 256
def minMemoNonceBytes : ℕ := 16

/-- How the memos of the suffix are policed. -/
inductive MemoPolicy where
  /-- Neither required nor inspected. -/
  | optional
  /-- Exactly one, with the declared text or else a hexadecimal nonce. -/
  | required (memo : Option String)
  /-- A required memo and exactly one more that starts with the prefix. -/
  | requiredWithBinding (memo : Option String) (bindingPrefix : String)

namespace MemoPolicy

/-- How many memos the suffix may carry. -/
def maxMemos : MemoPolicy → ℕ
  | optional => 1
  | required _ => 1
  | requiredWithBinding _ _ => 2

def isRequired : MemoPolicy → Bool
  | optional => false
  | _ => true

def isBinding : MemoPolicy → Bool
  | requiredWithBinding _ _ => true
  | _ => false

end MemoPolicy

variable (keys : List Pubkey) (feePayer : Pubkey) (label : String)

/-- The instruction names the fee payer among its accounts. -/
def namesFeePayer (ix : CompiledInstruction) : Bool :=
  ix.accounts.any (keyAt keys · = some feePayer)

def rejectFeePayer (ix : CompiledInstruction) (wrapper : String) : Except String Unit :=
  refuseIf (namesFeePayer keys feePayer ix)
    (wrapper ++ " instruction must not reference the fee payer")

def programIn (ix : CompiledInstruction) : Except String Pubkey :=
  okOr (programOf keys ix) (label ++ " instruction program id out of range")

/-- The compute-budget prefix, with whether a limit and a price have been seen: the
instructions from the first that is no compute budget. -/
def scanPrefix :
    List CompiledInstruction → Bool → Bool → Except String (List CompiledInstruction)
  | [], _, _ => .ok []
  | ix :: rest, seenLimit, seenPrice => do
      let program ← programIn keys label ix
      if program ≠ computeBudgetProgram then
        return ix :: rest
      else
        rejectFeePayer keys feePayer ix "ComputeBudget"
        match decodeComputeBudgetOp ix with
        | some (.unitLimit units) => do
            refuseIf seenLimit
              (label ++ " transaction has a duplicate SetComputeUnitLimit instruction")
            refuseIf seenPrice
              (label ++ " transaction SetComputeUnitLimit must precede SetComputeUnitPrice")
            refuseIf (openMaxComputeUnitLimit < units)
              (label ++ s!" transaction compute unit limit {units} exceeds maximum " ++
                s!"{openMaxComputeUnitLimit}")
            scanPrefix rest true seenPrice
        | some (.unitPrice price) => do
            refuseIf seenPrice
              (label ++ " transaction has a duplicate SetComputeUnitPrice instruction")
            refuseIf (maxComputeUnitPriceMicrolamports < price)
              (label ++ s!" transaction compute unit price {price} exceeds maximum " ++
                s!"{maxComputeUnitPriceMicrolamports}")
            scanPrefix rest seenLimit true
        | some (.loadedAccountsDataSizeLimit _) =>
            .error (label ++ " transaction has an unsupported ComputeBudget instruction")
        | none => .error (label ++ " transaction has an unsupported ComputeBudget instruction")

/-- `memo_text`: a memo's data as bounded text. -/
def memoText (data : List UInt8) : Except String String := do
  refuseIf (openMaxMemoBytes < data.length)
    (label ++ s!" transaction memo is {data.length} bytes, over the {openMaxMemoBytes}-byte " ++
      "maximum")
  okOr (String.fromUTF8? ⟨data.toArray⟩) (label ++ " transaction memo is not valid UTF-8")

def isAsciiHexdigit (byte : UInt8) : Bool :=
  (48 ≤ byte ∧ byte ≤ 57) ∨ (65 ≤ byte ∧ byte ≤ 70) ∨ (97 ≤ byte ∧ byte ≤ 102)

/-- A memo against the declared text, or else against the form of a nonce. -/
def checkExpectedMemo (expected : Option String) (data : List UInt8) : Except String Unit := do
  let text ← memoText label data
  match expected with
  | some expected =>
      refuseIf (text ≠ expected)
        (label ++ " transaction memo does not match the declared extra.memo")
  | none =>
      refuseIf (data.length < minMemoNonceBytes * 2 ∨ ¬data.all isAsciiHexdigit)
        (label ++ s!" transaction memo must be a hex nonce of at least {minMemoNonceBytes} bytes")

def checkMemoData (policy : MemoPolicy) (data : List UInt8) : Except String Unit :=
  match policy with
  | .optional => .ok ()
  | .required expected => checkExpectedMemo label expected data
  | .requiredWithBinding expected _ => checkExpectedMemo label expected data

/-- What the suffix has carried so far. -/
structure SuffixCounts where
  lighthouse : ℕ := 0
  optional : ℕ := 0
  memo : ℕ := 0
  binding : ℕ := 0

def scanMemo (policy : MemoPolicy) (ix : CompiledInstruction) (counts : SuffixCounts) :
    Except String SuffixCounts :=
  match policy with
  | .requiredWithBinding _ bindingPrefix =>
      if (asBytes bindingPrefix).isPrefixOf ix.data then do
        refuseIf (1 < counts.binding + 1)
          (label ++ " transaction must carry exactly one binding Memo")
        let _ ← memoText label ix.data
        return { counts with binding := counts.binding + 1 }
      else do
        refuseIf (1 < counts.memo + 1)
          (label ++ " transaction allows at most one Memo instruction besides the binding Memo")
        checkMemoData label policy ix.data
        return { counts with memo := counts.memo + 1 }
  | .required _ => do
      refuseIf (1 < counts.memo + 1) (label ++ " transaction allows at most one Memo instruction")
      checkMemoData label policy ix.data
      return { counts with memo := counts.memo + 1 }
  | .optional => do
      checkMemoData label policy ix.data
      return { counts with memo := counts.memo + 1 }

def scanSuffixInstruction (policy : MemoPolicy) (ix : CompiledInstruction)
    (counts : SuffixCounts) : Except String SuffixCounts := do
  let maxSuffix := openMaxOptionalSuffix + policy.maxMemos - 1
  let counts := { counts with optional := counts.optional + 1 }
  refuseIf (maxSuffix < counts.optional)
    (label ++ s!" transaction allows at most {maxSuffix} instructions after " ++ label)
  let program ← programIn keys label ix
  if program = lighthouseProgram then
    let counts := { counts with lighthouse := counts.lighthouse + 1 }
    refuseIf (openMaxLighthouseInstructions < counts.lighthouse)
      (label ++ s!" transaction allows at most {openMaxLighthouseInstructions} Lighthouse " ++
        "instructions after " ++ label)
    rejectFeePayer keys feePayer ix "Lighthouse"
    return counts
  else if program = memoProgram then
    rejectFeePayer keys feePayer ix "Memo"
    scanMemo label policy ix counts
  else
    .error (label ++ " transaction instruction after " ++ label ++
      " must be Lighthouse or Memo, found " ++ program.display)

/-- The suffix, with what it has carried so far. -/
def scanSuffix (policy : MemoPolicy) :
    List CompiledInstruction → SuffixCounts → Except String SuffixCounts
  | [], counts => .ok counts
  | ix :: rest, counts => do
      let counts ← scanSuffixInstruction keys feePayer label policy ix counts
      scanSuffix policy rest counts

/-- `scan_channel_tx_layout`: the payment-channels instruction. -/
def scanChannelTxLayout (tx : VersionedTransaction) (programId : Pubkey) (discriminator : UInt8)
    (label : String) (policy : MemoPolicy) : Except String CompiledInstruction := do
  let keys := tx.message.staticAccountKeys
  let feePayer ← okOr keys.head? (label ++ " transaction has no fee payer")
  let rest ← scanPrefix keys feePayer label tx.message.instructions false false
  match rest with
  | [] => .error (label ++ " transaction contains no payment-channels instruction")
  | primary :: suffix => do
      let program ← programIn keys label primary
      refuseIf (program ≠ programId) (label ++ " transaction targets an unexpected program")
      refuseIf (primary.data.head? ≠ some discriminator)
        (label ++ " transaction is not a payment-channels " ++ label ++ " instruction")
      let counts ← scanSuffix keys feePayer label policy suffix {}
      refuseIf (counts.memo = 0 ∧ policy.isRequired)
        (label ++ " transaction must carry exactly one Memo instruction")
      refuseIf (counts.binding = 0 ∧ policy.isBinding)
        (label ++ " transaction must carry exactly one binding Memo")
      let _ ← (checkPriorityFee tx.message maxSponsoredPriorityFeeLamports).mapError fun error =>
        label ++ " transaction compute unit price exceeds the sponsored fee maximum: " ++ error
      return primary

end PayKit.PaymentChannel
