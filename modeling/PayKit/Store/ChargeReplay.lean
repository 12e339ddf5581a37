import PayKit.Store.KeyValue

/-!
# The charge replay ledger

`ChargeReplayStore` of `core/store.rs`. A charge record is a chain of
generations, one key each; every transition out of generation `g` is a
`put_if_absent` of generation `g + 1`. The operations below are transcribed
call by call, so that every await of the source is a point at which other
callers may run.

Clock readings are arguments: the source reads the clock once in `reserve` and
once in the other writers, and no property here depends on when.
-/

namespace PayKit.Store

/-- Seconds a terminal charge record is retained. -/
def defaultChargeRecordRetention : Int :=
  24 * 60 * 60

/-- Seconds a reservation holds before another presentation may reclaim it. -/
def chargeReservationLease : UInt64 :=
  2 * 60

/-- Outcome of `reserve`. -/
inductive ChargeReservation where
  | reserved (generation : ℕ)
  | alreadyConfirmed (finalSignature : String)
  | alreadyFailed (reason : String)
  | pendingConfirmation (generation : ℕ) (finalSignature : String)
  | inProgress
  | conflict
deriving DecidableEq, Repr

/-- Bound on a record's generation chain. -/
def maxChargeRecordGenerations : ℕ :=
  64

/-- Key of one generation of a charge record. -/
def chargeRecordKey (challengeId : String) (generation : ℕ) : String :=
  if generation = 0 then "solana-charge:record:" ++ challengeId
  else "solana-charge:record:" ++ challengeId ++ ":" ++ toString generation

theorem repr_injective {left right : ℕ} (same : left.repr = right.repr) : left = right := by
  have digits : Nat.toDigits 10 left = Nat.toDigits 10 right := by
    simpa using congrArg String.toList same
  have values := congrArg (fun chars => Nat.ofDigitChars 10 chars 0) digits
  simpa using values

/-- What the key of a generation appends to the challenge id. -/
def generationSuffix (generation : ℕ) : List Char :=
  if generation = 0 then [] else ':' :: (Nat.repr generation).toList

theorem toList_chargeRecordKey (challengeId : String) (generation : ℕ) :
    (chargeRecordKey challengeId generation).toList =
      "solana-charge:record:".toList ++ (challengeId.toList ++ generationSuffix generation) := by
  by_cases root : generation = 0 <;>
    simp [chargeRecordKey, generationSuffix, root, String.toList_append]

theorem generationSuffix_injective {left right : ℕ}
    (same : generationSuffix left = generationSuffix right) : left = right := by
  unfold generationSuffix at same
  split at same <;> split at same
  · omega
  · simp at same
  · simp at same
  · apply repr_injective
    simpa only [List.cons.injEq, true_and, String.toList_inj] using same

theorem chargeRecordKey_injective (challengeId : String) :
    Function.Injective (chargeRecordKey challengeId) := by
  intro left right same
  have chars := congrArg String.toList same
  rw [toList_chargeRecordKey, toList_chargeRecordKey, List.append_cancel_left_eq,
    List.append_cancel_left_eq] at chars
  exact generationSuffix_injective chars

theorem takeWhile_append_generationSuffix {chars : List Char} (plain : ':' ∉ chars)
    (generation : ℕ) :
    (chars ++ generationSuffix generation).takeWhile (· ≠ ':') = chars := by
  rw [List.takeWhile_append_of_pos]
  · unfold generationSuffix
    split <;> simp
  · intro char charMem
    simpa using ne_of_mem_of_not_mem charMem plain

/-- Challenge ids are base64url digests: without a colon in them, the keys of
different challenges and generations differ. -/
theorem chargeRecordKey_inj {left right : String} {leftGeneration rightGeneration : ℕ}
    (leftPlain : ':' ∉ left.toList) (rightPlain : ':' ∉ right.toList)
    (same : chargeRecordKey left leftGeneration = chargeRecordKey right rightGeneration) :
    left = right ∧ leftGeneration = rightGeneration := by
  have chars := congrArg String.toList same
  rw [toList_chargeRecordKey, toList_chargeRecordKey, List.append_cancel_left_eq] at chars
  have ids := congrArg (List.takeWhile (· ≠ ':')) chars
  rw [takeWhile_append_generationSuffix leftPlain, takeWhile_append_generationSuffix rightPlain,
    String.toList_inj] at ids
  subst ids
  exact ⟨rfl, chargeRecordKey_injective left same⟩
namespace ChargeReplayStore

/-- The record with another state and outcome, retained from `now`. -/
def terminal (record : ChargeRecord) (state : ChargeRecordState)
    (finalSignature failureReason : Option String) (now : Int) : ChargeRecord :=
  { record with
    state
    finalSignature
    failureReason
    updatedAt := now
    expiresAt := now + defaultChargeRecordRetention }

def read (challengeId : String) (generation : ℕ) : StoreM (Option ChargeRecord) := do
  match ← get (chargeRecordKey challengeId generation) with
  | none => return none
  | some (.record record) => return some record
  | some _ => throw (.serialization "invalid type: expected struct ChargeRecord")

def tooLong (challengeId : String) : StoreError :=
  .internal s!"charge record `{challengeId}` exceeds {maxChargeRecordGenerations} generations"

/-- The loop of `tip` from the record read at `generation`. The source refuses
the read that brings the generation to `maxChargeRecordGenerations`; `remaining`
counts the generations that may still be passed. -/
def tipFrom (challengeId : String) (remaining generation : ℕ) (record : ChargeRecord) :
    StoreM (ℕ × ChargeRecord) := do
  match ← read challengeId (generation + 1) with
  | none => return (generation, record)
  | some next =>
      match remaining with
      | 0 => throw (tooLong challengeId)
      | remaining + 1 => tipFrom challengeId remaining (generation + 1) next

/-- The latest generation and its record. -/
def tip (challengeId : String) : StoreM (Option (ℕ × ChargeRecord)) := do
  match ← read challengeId 0 with
  | none => return none
  | some record =>
      let latest ← tipFrom challengeId (maxChargeRecordGenerations - 1) 0 record
      return some latest

/-- Append `record` as `generation`; `false` when another writer won it. -/
def append (challengeId : String) (generation : ℕ) (record : ChargeRecord) : StoreM Bool :=
  putIfAbsent (chargeRecordKey challengeId generation) (.record record)

/-- The record a reservation writes. -/
def freshRecord (challengeId normalizedRequestDigest : String) (lease : UInt64) (now : Int) :
    ChargeRecord where
  challengeId
  normalizedRequestDigest
  finalSignature := none
  failureReason := none
  state := .reserved
  updatedAt := now
  expiresAt := now + lease.toInt64.toInt

def orphaned (challengeId : String) : StoreError :=
  .internal (s!"charge record `{challengeId}` lost its root while later generations remain; " ++
    "the store must expire a record's generations together")

def contended (challengeId : String) : StoreError :=
  .internal s!"charge record `{challengeId}` is contended"

def noReservation (challengeId : String) : StoreError :=
  .internal s!"cannot settle charge record `{challengeId}`: no reservation found"

/-- The root was just written: refuse if a descendant is there. -/
def recheckRoot (challengeId : String) : StoreM ChargeReservation := do
  if (← read challengeId 1).isSome then
    delete (chargeRecordKey challengeId 0)
    throw (orphaned challengeId)
  return .reserved 0

/-- The loop of `reserve` over an existing record. -/
def classify (challengeId normalizedRequestDigest : String) (fresh : ChargeRecord) (now : Int) :
    ℕ → StoreM ChargeReservation
  | 0 => throw (contended challengeId)
  | attempts + 1 => do
      match ← tip challengeId with
      | none => throw (.internal "charge record vanished after put_if_absent conflict")
      | some (generation, existing) =>
          if existing.normalizedRequestDigest ≠ normalizedRequestDigest then
            return .conflict
          match existing.state with
          | .confirmed => return .alreadyConfirmed (existing.finalSignature.getD "")
          | .failed => return .alreadyFailed (existing.failureReason.getD "")
          | .pending =>
              return .pendingConfirmation generation (existing.finalSignature.getD "")
          | .reserved =>
              if existing.expiresAt > now then
                return .inProgress
              else if ← append challengeId (generation + 1) fresh then
                return .reserved (generation + 1)
              else
                classify challengeId normalizedRequestDigest fresh now attempts

/-- Reserve a challenge for settlement, or classify its record. -/
def reserve (challengeId normalizedRequestDigest : String) (lease : UInt64) (now : Int) :
    StoreM ChargeReservation := do
  let fresh := freshRecord challengeId normalizedRequestDigest lease now
  if (← read challengeId 1).isSome then
    if (← read challengeId 0).isNone then
      throw (orphaned challengeId)
  if ← append challengeId 0 fresh then
    recheckRoot challengeId
  else
    classify challengeId normalizedRequestDigest fresh now maxChargeRecordGenerations

/-- The latest generation of a challenge that must have been reserved. -/
def tipOrFail (challengeId : String) : StoreM (ℕ × ChargeRecord) := do
  match ← tip challengeId with
  | none => throw (noReservation challengeId)
  | some latest => return latest

/-- What `mark_confirmed`, `release_pending`, `confirm_pending`, `mark_pending`
and `mark_failed` have in common: if `generation` is the latest one and its
record is `ready`, append what `update` makes of it. -/
def advance (challengeId : String) (generation : ℕ) (ready : ChargeRecord → Bool)
    (update : ChargeRecord → ChargeRecord) : StoreM Bool := do
  let (latest, record) ← tipOrFail challengeId
  if latest ≠ generation ∨ !ready record then
    return false
  append challengeId (generation + 1) (update record)

/-- `record` is the pending broadcast of `finalSignature`. -/
def isPendingFor (finalSignature : String) (record : ChargeRecord) : Bool :=
  record.state = .pending && record.finalSignature = some finalSignature

/-- Record the confirmed signature for the generation this caller owns. -/
def markConfirmed (challengeId : String) (generation : ℕ) (finalSignature : String)
    (now : Int) : StoreM Bool :=
  advance challengeId generation
    (fun record => record.state = .reserved || isPendingFor finalSignature record)
    (fun record => terminal record .confirmed (some finalSignature) none now)

/-- The retry loop of `record_confirmed`. -/
def recordConfirmedFrom (challengeId finalSignature : String) (now : Int) : ℕ → StoreM Bool
  | 0 => throw (contended challengeId)
  | attempts + 1 => do
      let (generation, record) ← tipOrFail challengeId
      match record.state with
      | .confirmed => return true
      | .failed => return false
      | .reserved | .pending =>
          if ← append challengeId (generation + 1)
              (terminal record .confirmed (some finalSignature) none now) then
            return true
          else
            recordConfirmedFrom challengeId finalSignature now attempts

/-- Record a settlement confirmed outside this ledger's ownership. -/
def recordConfirmed (challengeId finalSignature : String) (now : Int) : StoreM Bool :=
  recordConfirmedFrom challengeId finalSignature now maxChargeRecordGenerations

/-- Return a pending record to a reservation that may be reclaimed at once. -/
def releasePending (challengeId : String) (generation : ℕ) (finalSignature : String)
    (now : Int) : StoreM Bool :=
  advance challengeId generation (isPendingFor finalSignature) fun record =>
    { record with
      state := .reserved
      finalSignature := none
      updatedAt := now
      expiresAt := now }

/-- Confirm the pending broadcast at `generation`. -/
def confirmPending (challengeId : String) (generation : ℕ) (finalSignature : String)
    (now : Int) : StoreM Bool :=
  advance challengeId generation (isPendingFor finalSignature)
    (fun record => terminal record .confirmed (some finalSignature) none now)

/-- The pending broadcast recorded under `normalizedRequestDigest`, if any. -/
def pending (challengeId normalizedRequestDigest : String) : StoreM (Option (ℕ × String)) := do
  match ← tip challengeId with
  | some (generation, record) =>
      if record.state = .pending ∧ record.normalizedRequestDigest = normalizedRequestDigest then
        return record.finalSignature.map fun signature => (generation, signature)
      else
        return none
  | none => return none

/-- Record that `finalSignature` is about to be broadcast. -/
def markPending (challengeId : String) (generation : ℕ) (finalSignature : String)
    (now : Int) : StoreM Bool :=
  advance challengeId generation (fun record => record.state = .reserved)
    (fun record => terminal record .pending (some finalSignature) none now)

/-- Record a terminal settlement failure. -/
def markFailed (challengeId : String) (generation : ℕ) (reason : String) (now : Int) :
    StoreM Bool :=
  advance challengeId generation
    (fun record => record.state = .reserved || record.state = .pending)
    (fun record => terminal record .failed none (some reason) now)

end ChargeReplayStore

end PayKit.Store
