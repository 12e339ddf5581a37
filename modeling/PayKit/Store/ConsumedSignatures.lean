import PayKit.Store.KeyValue

/-!
# The consumed-signature ledger

`ConsumedSignatures` of `core/store.rs`: the ledger of transaction signatures
that already authorized a response. A claim takes the four keys under which the
previous release claimed signatures, one at a time, and then the ledger key. A
release swaps the ledger key to a marker first and gives the legacy keys back
afterwards.
-/

namespace PayKit.Store

/-- Key of a signature in the ledger shared by every protocol. -/
def consumedSignatureKey (signature : String) : String :=
  "solana:consumed-signature:" ++ signature

theorem toList_consumedSignatureKey (signature : String) :
    (consumedSignatureKey signature).toList =
      "solana:consumed-signature:".toList ++ signature.toList := by
  unfold consumedSignatureKey
  rw [String.toList_append]

/-- CAIP-2 networks that scoped the claims of the x402 `exact` server before
the ledger was shared. -/
def legacyX402Networks : List String :=
  ["solana:5eykt4UsFv8P8NJdTREpY1vzqKqZKvdp",
    "solana:EtWTRABZaYq6iMfeYKouRu166VU2xqa1",
    "solana:4uhcVJyU9pJkvQyS88uRDiswHXSCkY3z"]

/-- Keys under which the previous release claimed a signature. -/
def legacyConsumedSignatureKeys (signature : String) : List String :=
  ("solana-charge:consumed:" ++ signature) ::
    legacyX402Networks.map fun network => "x402-exact:consumed:" ++ network ++ ":" ++ signature

theorem consumedSignatureKey_not_mem_legacy (signature other : String) :
    consumedSignatureKey signature ∉ legacyConsumedSignatureKeys other := by
  intro member
  simp only [legacyConsumedSignatureKeys, legacyX402Networks, List.map_cons, List.map_nil,
    List.mem_cons, List.not_mem_nil, or_false] at member
  rcases member with same | same | same | same <;> (
    have chars := congrArg String.toList same
    rw [toList_consumedSignatureKey] at chars
    simp only [String.toList_append] at chars
    have atSix := congrArg (fun list : List Char => list[6]?) chars
    simp at atSix)

theorem consumedSignatureKey_injective : Function.Injective consumedSignatureKey := by
  intro left right same
  have chars := congrArg String.toList same
  rw [toList_consumedSignatureKey, toList_consumedSignatureKey, List.append_cancel_left_eq] at chars
  exact String.toList_inj.mp chars

/-- What a released claim leaves behind: absent, for every claim. -/
def releasedMarker : Value :=
  .marker "released"

def pendingMarker : Value :=
  .marker "pending"

/-- Outcome of `claimPending`. -/
inductive PendingClaim where
  | fresh
  | resumePending
  | consumed
deriving DecidableEq, Repr

namespace ConsumedSignatures

/-- Delete the legacy keys a refused claim took. -/
def giveBack : List String → StoreM Unit
  | [] => pure ()
  | key :: keys => do
      delete key
      giveBack keys

/-- Take the ledger key, absent or released, and give the legacy keys back if
it is held. -/
def claimLedgerKey (signature : String) (value : Value) (taken : List String) :
    StoreM Bool := do
  let key := consumedSignatureKey signature
  let outcome ←
    if ← putIfAbsent key value then pure true
    else putIfEq key (some releasedMarker) value
  if !outcome then
    giveBack taken
  return outcome

/-- The loop of `claim_with` over the legacy keys still to take. -/
def claimFrom (signature : String) (value : Value) (taken : List String) :
    List String → StoreM Bool
  | [] => claimLedgerKey signature value taken
  | key :: remaining => do
      if ← putIfAbsent key (.bool true) then
        claimFrom signature value (taken ++ [key]) remaining
      else
        giveBack taken
        return false

/-- Take every legacy key, then the ledger key holding `value`. -/
def claimWith (signature : String) (value : Value) : StoreM Bool :=
  claimFrom signature value [] (legacyConsumedSignatureKeys signature)

def claim (signature : String) : StoreM Bool :=
  claimWith signature (.bool true)

/-- Claim a signature whose transaction is about to be broadcast. -/
def claimPending (signature : String) : StoreM PendingClaim := do
  if ← claimWith signature pendingMarker then
    return .fresh
  if (← get (consumedSignatureKey signature)) = some pendingMarker then
    return .resumePending
  else
    return .consumed

/-- Turn a pending claim into a consumed signature. -/
def confirm (signature : String) : StoreM Bool :=
  putIfEq (consumedSignatureKey signature) (some pendingMarker) (.bool true)

/-- Swap the ledger key from `held` to the released marker, then delete the
legacy keys. -/
def releaseHolding (signature : String) (held : Value) : StoreM Bool := do
  if ← putIfEq (consumedSignatureKey signature) (some held) releasedMarker then
    giveBack (legacyConsumedSignatureKeys signature)
    return true
  else
    return false

def release (signature : String) : StoreM Bool :=
  releaseHolding signature (.bool true)

def releasePending (signature : String) : StoreM Bool :=
  releaseHolding signature pendingMarker

end ConsumedSignatures

end PayKit.Store
