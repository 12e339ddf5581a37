import PayKit.Store.ChargeChain
import PayKit.Store.ConsumedSignatures

/-!
# What ties the two ledgers of a settlement together

A settlement holds a transaction's signature in one ledger and a challenge's
generation in the other. The invariant says who holds a signature, that a
presentation records at most one broadcast, and, when abandoned broadcasts are
left undisturbed, that a broadcast which may still be confirmed belongs to the
presentation holding its signature.

The last part is the only one that depends on how the steps interleave. It is
lost when a broadcast's signature is released while its record still says
pending: `Undisturbed` rules out the steps that make use of that state.
-/

namespace PayKit.Charge

open Concurrency Store ChargeReplayStore

theorem chargeRecordKey_ne_consumedSignatureKey (challengeId signature : String)
    (generation : ℕ) :
    chargeRecordKey challengeId generation ≠ consumedSignatureKey signature := by
  intro same
  have chars := congrArg String.toList same
  rw [toList_chargeRecordKey, toList_consumedSignatureKey] at chars
  have atSix := congrArg (fun list : List Char => list[6]?) chars
  simp at atSix

theorem chargeRecordKey_not_mem_legacy (challengeId signature : String) (generation : ℕ) :
    chargeRecordKey challengeId generation ∉ legacyConsumedSignatureKeys signature := by
  intro member
  simp only [legacyConsumedSignatureKeys, legacyX402Networks, List.map_cons, List.map_nil,
    List.mem_cons, List.not_mem_nil, or_false] at member
  rcases member with same | same | same | same <;> (
    have chars := congrArg String.toList same
    rw [toList_chargeRecordKey] at chars
    simp only [String.toList_append] at chars
    have atFourteen := congrArg (fun list : List Char => list[14]?) chars
    simp at atFourteen)

variable {Caller : Type}

/-- `caller` won the claim of `signature`. -/
def Took (history : List (LedgerEvent Caller)) (caller : Caller) (signature : String) : Prop :=
  (⟨caller, .putIfAbsent (consumedSignatureKey signature) (.bool true), true⟩ :
      LedgerEvent Caller) ∈ history ∨
    (⟨caller, .putIfEq (consumedSignatureKey signature) (some releasedMarker) (.bool true), true⟩ :
      LedgerEvent Caller) ∈ history

/-- `caller` released `signature`. -/
def Released (history : List (LedgerEvent Caller)) (caller : Caller) (signature : String) : Prop :=
  (⟨caller, .putIfEq (consumedSignatureKey signature) (some (.bool true)) releasedMarker, true⟩ :
    LedgerEvent Caller) ∈ history

/-- `caller` took `signature` and did not give it back. -/
def Holding (history : List (LedgerEvent Caller)) (caller : Caller) (signature : String) : Prop :=
  Took history caller signature ∧ ¬Released history caller signature

/-- What a settlement may write after which record. -/
def MayFollow (previous record : ChargeRecord) : Prop :=
  match record.state with
  | .reserved | .failed => previous.state = .reserved ∨ previous.state = .pending
  | .pending => previous.state = .reserved
  | .confirmed => previous.state = .pending ∧ record.finalSignature = previous.finalSignature

theorem MayFollow.unresolved {previous record : ChargeRecord} (follows : MayFollow previous record) :
    previous.state = .reserved ∨ previous.state = .pending := by
  unfold MayFollow at follows
  split at follows
  · exact follows
  · exact follows
  · exact .inl follows
  · exact .inr follows.1

/-- Challenge ids are base64url digests, so they contain no colon. -/
def challengeIds : Set String :=
  {id | ':' ∉ id.toList}

def settlementRules : ChainRules Caller where
  ids := challengeIds
  apart := fun _ leftMem _ rightMem _ _ same => chargeRecordKey_inj leftMem rightMem same
  mayOpen _ _ record := record.state = .reserved
  mayFollow _ _ _ previous record := MayFollow previous record

/-- The record at `generation` is the last one, or was confirmed by the next. -/
def Unsettled (backend : Backend) (id : String) (generation : ℕ) : Prop :=
  backend.entries (chargeRecordKey id (generation + 1)) = none ∨
    ∃ record, backend.entries (chargeRecordKey id (generation + 1)) = some (.record record) ∧
      record.state = .confirmed

/-- `strict` says whether the run leaves abandoned broadcasts undisturbed. -/
structure SettlementInvariant (strict : Prop) (world : LedgerWorld Caller) : Prop where
  chain : ChainInvariant settlementRules world
  held : ∀ caller signature, Holding world.history caller signature →
    world.state.entries (consumedSignatureKey signature) = some (.bool true)
  oneHolder : ∀ left right signature, Holding world.history left signature →
    Holding world.history right signature → left = right
  onePending : ∀ caller, ∀ left ∈ challengeIds, ∀ right ∈ challengeIds,
      ∀ leftGeneration rightGeneration leftRecord rightRecord,
        Wrote world.history caller left leftGeneration leftRecord →
          Wrote world.history caller right rightGeneration rightRecord →
            leftRecord.state = .pending → rightRecord.state = .pending →
              left = right ∧ leftGeneration = rightGeneration
  owned : strict → ∀ caller, ∀ id ∈ challengeIds,
    ∀ generation record signature, Wrote world.history caller id generation record →
      isPendingFor signature record = true → Unsettled world.state id generation →
        Took world.history caller signature ∧
          (Released world.history caller signature →
            world.state.entries (chargeRecordKey id (generation + 1)) = none ∧
              ∀ other, ¬Holding world.history other signature)

/-- A broadcast whose signature was released by the caller that recorded it,
while its record is still the last one. -/
def Abandoned (world : LedgerWorld Caller) (id : String) (generation : ℕ)
    (signature : String) : Prop :=
  ∃ caller record, Wrote world.history caller id generation record ∧
    isPendingFor signature record = true ∧ Released world.history caller signature ∧
      world.state.entries (chargeRecordKey id (generation + 1)) = none

/-- The step releases no broadcast that a retry confirmed, and while a record
says pending for a released signature it neither claims the signature nor
confirms the record. -/
structure Undisturbed (world : LedgerWorld Caller) (event : LedgerEvent Caller) : Prop where
  release : ∀ caller signature, event = ⟨caller, .putIfEq (consumedSignatureKey signature)
      (some (.bool true)) releasedMarker, true⟩ →
    ∀ id ∈ challengeIds, ∀ generation record, Wrote world.history caller id generation record →
      isPendingFor signature record = true → ∀ next,
        world.state.entries (chargeRecordKey id (generation + 1)) = some (.record next) →
          next.state ≠ .confirmed
  claim : ∀ id ∈ challengeIds, ∀ generation signature, Abandoned world id generation signature →
    ∀ caller, event ≠ ⟨caller, .putIfAbsent (consumedSignatureKey signature) (.bool true), true⟩ ∧
      event ≠ ⟨caller, .putIfEq (consumedSignatureKey signature) (some releasedMarker)
        (.bool true), true⟩
  confirm : ∀ id ∈ challengeIds, ∀ generation signature, Abandoned world id generation signature →
    ∀ caller next, next.state = .confirmed →
      event ≠ ⟨caller, .putIfAbsent (chargeRecordKey id (generation + 1)) (.record next), true⟩

/-- An event that touches neither ledger. -/
structure Inert (event : LedgerEvent Caller) : Prop where
  record : RecordNeutral settlementRules event
  noClaim : ∀ caller signature,
    event ≠ ⟨caller, .putIfAbsent (consumedSignatureKey signature) (.bool true), true⟩
  noReclaim : ∀ caller signature,
    event ≠ ⟨caller, .putIfEq (consumedSignatureKey signature) (some releasedMarker)
      (.bool true), true⟩
  noRelease : ∀ caller signature,
    event ≠ ⟨caller, .putIfEq (consumedSignatureKey signature) (some (.bool true))
      releasedMarker, true⟩

section

variable {history : List (LedgerEvent Caller)} {event : LedgerEvent Caller}
  {caller : Caller} {signature : String}

theorem mem_cons_of_ne {other : LedgerEvent Caller} (different : event ≠ other) :
    other ∈ event :: history ↔ other ∈ history := by
  simp [List.mem_cons, Ne.symm different]

theorem Inert.took_cons (inert : Inert event) :
    Took (event :: history) caller signature ↔ Took history caller signature := by
  simp only [Took, mem_cons_of_ne (inert.noClaim caller signature),
    mem_cons_of_ne (inert.noReclaim caller signature)]

theorem Inert.released_cons (inert : Inert event) :
    Released (event :: history) caller signature ↔ Released history caller signature := by
  simp only [Released, mem_cons_of_ne (inert.noRelease caller signature)]

theorem Inert.holding_cons (inert : Inert event) :
    Holding (event :: history) caller signature ↔ Holding history caller signature := by
  simp only [Holding, inert.took_cons, inert.released_cons]

theorem Took.mono {later : List (LedgerEvent Caller)} (took : Took history caller signature)
    (suffix : history <:+ later) : Took later caller signature :=
  took.imp (fun absent => suffix.mem absent) fun released => suffix.mem released

theorem holding_cons_record {writer : Caller} {id : String} {generation : ℕ} {value : Value} :
    (Took (⟨writer, .putIfAbsent (chargeRecordKey id generation) value, true⟩ :: history) caller
        signature ↔ Took history caller signature) ∧
      (Released (⟨writer, .putIfAbsent (chargeRecordKey id generation) value, true⟩ :: history)
        caller signature ↔ Released history caller signature) := by
  have noClaim : (⟨writer, .putIfAbsent (chargeRecordKey id generation) value, true⟩ :
      LedgerEvent Caller) ≠
        ⟨caller, .putIfAbsent (consumedSignatureKey signature) (.bool true), true⟩ := by
    apply event_ne_of_call_ne
    intro same
    rw [Call.putIfAbsent.injEq] at same
    exact chargeRecordKey_ne_consumedSignatureKey id signature generation same.1
  constructor
  · simp only [Took, mem_cons_of_ne noClaim]
    rw [mem_cons_of_ne (event_ne_of_call_ne (by simp))]
  · simp only [Released]
    rw [mem_cons_of_ne (event_ne_of_call_ne (by simp))]

end

namespace SettlementInvariant

variable {strict : Prop} {world : LedgerWorld Caller}

theorem of_inert {event : LedgerEvent Caller} {state : Backend}
    (invariant : SettlementInvariant strict world) (inert : Inert event)
    (records : ∀ id generation, state.entries (chargeRecordKey id generation) =
      world.state.entries (chargeRecordKey id generation))
    (signatures : ∀ signature, state.entries (consumedSignatureKey signature) =
      world.state.entries (consumedSignatureKey signature)) :
    SettlementInvariant strict (world.record event state) := by
  have wrote_iff : ∀ {caller id generation record}, id ∈ challengeIds →
      (Wrote (event :: world.history) caller id generation record ↔
        Wrote world.history caller id generation record) :=
    fun idMem => ChainInvariant.wrote_cons_of_neutral inert.record idMem
  constructor
  · exact invariant.chain.of_neutral inert.record fun id _ generation => records id generation
  · intro caller signature holding
    rw [World.record_history, inert.holding_cons] at holding
    rw [World.record_state, signatures]
    exact invariant.held caller signature holding
  · intro left right signature holdingLeft holdingRight
    rw [World.record_history, inert.holding_cons] at holdingLeft holdingRight
    exact invariant.oneHolder left right signature holdingLeft holdingRight
  · intro caller left leftMem right rightMem leftGeneration rightGeneration leftRecord
      rightRecord wroteLeft wroteRight
    rw [World.record_history, wrote_iff leftMem] at wroteLeft
    rw [World.record_history, wrote_iff rightMem] at wroteRight
    exact invariant.onePending caller left leftMem right rightMem leftGeneration rightGeneration
      leftRecord rightRecord wroteLeft wroteRight
  · intro isStrict caller id idMem generation record signature wrote isPending unsettled
    simp only [World.record_history, World.record_state, wrote_iff idMem, inert.took_cons,
      inert.released_cons, inert.holding_cons, Unsettled, records] at wrote unsettled ⊢
    exact invariant.owned isStrict caller id idMem generation record signature wrote isPending
      unsettled

theorem setEntry_signature_record (backend : Backend) (signature id : String) (generation : ℕ)
    (value : Option Value) :
    (backend.setEntry (consumedSignatureKey signature) value).entries
      (chargeRecordKey id generation) = backend.entries (chargeRecordKey id generation) :=
  Backend.setEntry_entries_of_ne _ _ (chargeRecordKey_ne_consumedSignatureKey id signature generation)

theorem setEntry_record_signature (backend : Backend) (signature id : String) (generation : ℕ)
    (value : Option Value) :
    (backend.setEntry (chargeRecordKey id generation) value).entries
      (consumedSignatureKey signature) = backend.entries (consumedSignatureKey signature) :=
  Backend.setEntry_entries_of_ne _ _
    (chargeRecordKey_ne_consumedSignatureKey id signature generation).symm

theorem setEntry_signature_of_ne (backend : Backend) {signature other : String}
    (different : other ≠ signature) (value : Option Value) :
    (backend.setEntry (consumedSignatureKey signature) value).entries
      (consumedSignatureKey other) = backend.entries (consumedSignatureKey other) :=
  Backend.setEntry_entries_of_ne _ _ fun same => different (consumedSignatureKey_injective same)

/-- The two ways in which a claim takes the ledger key. -/
def IsClaim (event : LedgerEvent Caller) (caller : Caller) (signature : String) : Prop :=
  event = ⟨caller, .putIfAbsent (consumedSignatureKey signature) (.bool true), true⟩ ∨
    event = ⟨caller, .putIfEq (consumedSignatureKey signature) (some releasedMarker)
      (.bool true), true⟩

theorem IsClaim.record {event : LedgerEvent Caller} {caller : Caller} {signature : String}
    (isClaim : IsClaim event caller signature) : RecordNeutral settlementRules event := by
  rcases isClaim with rfl | rfl
  · constructor
    · intro writer id _ generation record
      apply event_ne_of_call_ne
      simp
    · intro dropper id _
      exact event_ne_of_call_ne (by simp)
  · constructor
    · intro writer id _ generation record
      exact event_ne_of_call_ne (by simp)
    · intro dropper id _
      exact event_ne_of_call_ne (by simp)

theorem IsClaim.took_cons {event : LedgerEvent Caller} {history : List (LedgerEvent Caller)}
    {caller other : Caller} {signature otherSignature : String}
    (isClaim : IsClaim event caller signature) :
    Took (event :: history) other otherSignature ↔
      (other = caller ∧ otherSignature = signature) ∨ Took history other otherSignature := by
  rcases isClaim with rfl | rfl
  · have same_iff : ((⟨other, .putIfAbsent (consumedSignatureKey otherSignature) (.bool true),
        true⟩ : LedgerEvent Caller) =
          ⟨caller, .putIfAbsent (consumedSignatureKey signature) (.bool true), true⟩) ↔
            other = caller ∧ otherSignature = signature := by
      constructor
      · intro same
        have sameCall := congrArg Event.call same
        rw [Call.putIfAbsent.injEq] at sameCall
        exact ⟨congrArg Event.caller same, consumedSignatureKey_injective sameCall.1⟩
      · rintro ⟨rfl, rfl⟩
        rfl
    simp only [Took, List.mem_cons, same_iff]
    have different : (⟨other, .putIfEq (consumedSignatureKey otherSignature)
        (some releasedMarker) (.bool true), true⟩ : LedgerEvent Caller) ≠
          ⟨caller, .putIfAbsent (consumedSignatureKey signature) (.bool true), true⟩ :=
      event_ne_of_call_ne (by simp)
    simp only [different, false_or, or_assoc]
  · have same_iff : ((⟨other, .putIfEq (consumedSignatureKey otherSignature)
        (some releasedMarker) (.bool true), true⟩ : LedgerEvent Caller) =
          ⟨caller, .putIfEq (consumedSignatureKey signature) (some releasedMarker) (.bool true),
            true⟩) ↔ other = caller ∧ otherSignature = signature := by
      constructor
      · intro same
        have sameCall := congrArg Event.call same
        rw [Call.putIfEq.injEq] at sameCall
        exact ⟨congrArg Event.caller same, consumedSignatureKey_injective sameCall.1⟩
      · rintro ⟨rfl, rfl⟩
        rfl
    simp only [Took, List.mem_cons, same_iff]
    have different : (⟨other, .putIfAbsent (consumedSignatureKey otherSignature) (.bool true),
        true⟩ : LedgerEvent Caller) ≠
          ⟨caller, .putIfEq (consumedSignatureKey signature) (some releasedMarker) (.bool true),
            true⟩ :=
      event_ne_of_call_ne (by simp)
    simp only [different, false_or]
    tauto

theorem IsClaim.released_cons {event : LedgerEvent Caller} {history : List (LedgerEvent Caller)}
    {caller other : Caller} {signature otherSignature : String}
    (isClaim : IsClaim event caller signature) :
    Released (event :: history) other otherSignature ↔ Released history other otherSignature := by
  rcases isClaim with rfl | rfl
  · exact mem_cons_of_ne (event_ne_of_call_ne (by simp))
  · exact mem_cons_of_ne (event_ne_of_call_ne (by simp [releasedMarker]))

theorem claimed {event : LedgerEvent Caller} {caller : Caller} {signature : String}
    (invariant : SettlementInvariant strict world) (isClaim : IsClaim event caller signature)
    (free : world.state.entries (consumedSignatureKey signature) ≠ some (.bool true))
    (undisturbed : strict → Undisturbed world event) :
    SettlementInvariant strict (world.record event
      (world.state.setEntry (consumedSignatureKey signature) (some (.bool true)))) := by
  have unheld : ∀ {other}, ¬Holding world.history other signature :=
    fun holding => free (invariant.held _ _ holding)
  have holding_iff : ∀ {other otherSignature},
      Holding (event :: world.history) other otherSignature ↔
        (other = caller ∧ otherSignature = signature ∧
          ¬Released world.history caller signature) ∨
            Holding world.history other otherSignature := by
    intro other otherSignature
    simp only [Holding, isClaim.took_cons, isClaim.released_cons]
    constructor
    · rintro ⟨⟨rfl, rfl⟩ | took, kept⟩
      · exact .inl ⟨rfl, rfl, kept⟩
      · exact .inr ⟨took, kept⟩
    · rintro (⟨rfl, rfl, kept⟩ | ⟨took, kept⟩)
      · exact ⟨.inl ⟨rfl, rfl⟩, kept⟩
      · exact ⟨.inr took, kept⟩
  have wrote_iff : ∀ {writer id generation record}, id ∈ challengeIds →
      (Wrote (event :: world.history) writer id generation record ↔
        Wrote world.history writer id generation record) :=
    fun idMem => ChainInvariant.wrote_cons_of_neutral isClaim.record idMem
  constructor
  · exact invariant.chain.of_neutral isClaim.record fun id _ generation =>
      setEntry_signature_record _ _ _ _ _
  · intro other otherSignature holding
    rw [World.record_history, holding_iff] at holding
    rw [World.record_state]
    rcases holding with ⟨_, rfl, _⟩ | holding
    · simp
    · have different : otherSignature ≠ signature := by
        rintro rfl
        exact unheld holding
      rw [setEntry_signature_of_ne _ different]
      exact invariant.held other otherSignature holding
  · intro left right otherSignature holdingLeft holdingRight
    rw [World.record_history, holding_iff] at holdingLeft holdingRight
    rcases holdingLeft with ⟨rfl, rfl, _⟩ | holdingLeft
    · rcases holdingRight with ⟨rfl, _⟩ | holdingRight
      · rfl
      · exact absurd holdingRight unheld
    · rcases holdingRight with ⟨rfl, rfl, _⟩ | holdingRight
      · exact absurd holdingLeft unheld
      · exact invariant.oneHolder left right otherSignature holdingLeft holdingRight
  · intro writer left leftMem right rightMem leftGeneration rightGeneration leftRecord
      rightRecord wroteLeft wroteRight
    rw [World.record_history, wrote_iff leftMem] at wroteLeft
    rw [World.record_history, wrote_iff rightMem] at wroteRight
    exact invariant.onePending writer left leftMem right rightMem leftGeneration rightGeneration
      leftRecord rightRecord wroteLeft wroteRight
  · intro isStrict writer id idMem generation record otherSignature wrote isPending unsettled
    rw [World.record_history, wrote_iff idMem] at wrote
    simp only [World.record_state, Unsettled, setEntry_signature_record] at unsettled
    rcases invariant.owned isStrict writer id idMem generation record otherSignature wrote
      isPending unsettled with ⟨took, whenReleased⟩
    have different : otherSignature ≠ signature := by
      -- the broadcast's own presentation does not hold the signature, so it
      -- released it, and the claim would disturb an abandoned broadcast
      rintro rfl
      have released : Released world.history writer otherSignature := by
        by_contra kept
        exact unheld ⟨took, kept⟩
      have abandoned : Abandoned world id generation otherSignature :=
        ⟨writer, record, wrote, isPending, released, (whenReleased released).1⟩
      have notClaim := (undisturbed isStrict).claim id idMem generation otherSignature abandoned
        caller
      rcases isClaim with same | same
      · exact notClaim.1 same
      · exact notClaim.2 same
    refine ⟨isClaim.took_cons.mpr (.inr took), ?_⟩
    intro released
    rw [World.record_history, isClaim.released_cons] at released
    rcases whenReleased released with ⟨last, nobody⟩
    refine ⟨?_, ?_⟩
    · rw [World.record_state, setEntry_signature_record]
      exact last
    · intro other holding
      rw [World.record_history, holding_iff] at holding
      rcases holding with ⟨_, same, _⟩ | holding
      · exact different same
      · exact nobody other holding

theorem released {caller : Caller} {signature : String}
    (invariant : SettlementInvariant strict world)
    (holds : Holding world.history caller signature)
    (undisturbed : strict → Undisturbed world ⟨caller, .putIfEq (consumedSignatureKey signature)
      (some (.bool true)) releasedMarker, true⟩) :
    SettlementInvariant strict (world.record ⟨caller, .putIfEq (consumedSignatureKey signature)
        (some (.bool true)) releasedMarker, true⟩
      (world.state.setEntry (consumedSignatureKey signature) (some releasedMarker))) := by
  have neutral : RecordNeutral settlementRules (⟨caller, .putIfEq (consumedSignatureKey signature)
      (some (.bool true)) releasedMarker, true⟩ : LedgerEvent Caller) :=
    ⟨fun _ _ _ _ _ => event_ne_of_call_ne (by simp), fun _ _ _ => event_ne_of_call_ne (by simp)⟩
  have took_iff : ∀ {other otherSignature},
      Took (⟨caller, .putIfEq (consumedSignatureKey signature) (some (.bool true))
        releasedMarker, true⟩ :: world.history) other otherSignature ↔
          Took world.history other otherSignature := by
    intro other otherSignature
    simp only [Took]
    rw [mem_cons_of_ne (event_ne_of_call_ne (by simp)),
      mem_cons_of_ne (event_ne_of_call_ne (by simp [releasedMarker]))]
  have released_iff : ∀ {other otherSignature},
      Released (⟨caller, .putIfEq (consumedSignatureKey signature) (some (.bool true))
        releasedMarker, true⟩ :: world.history) other otherSignature ↔
          (other = caller ∧ otherSignature = signature) ∨
            Released world.history other otherSignature := by
    intro other otherSignature
    simp only [Released, List.mem_cons]
    apply or_congr_left
    constructor
    · intro same
      have sameCall := congrArg Event.call same
      rw [Call.putIfEq.injEq] at sameCall
      exact ⟨congrArg Event.caller same, consumedSignatureKey_injective sameCall.1⟩
    · rintro ⟨rfl, rfl⟩
      rfl
  have holding_of : ∀ {other otherSignature},
      Holding (⟨caller, .putIfEq (consumedSignatureKey signature) (some (.bool true))
        releasedMarker, true⟩ :: world.history) other otherSignature →
          Holding world.history other otherSignature ∧ otherSignature ≠ signature := by
    rintro other otherSignature ⟨took, kept⟩
    rw [took_iff] at took
    rw [released_iff, not_or] at kept
    refine ⟨⟨took, kept.2⟩, ?_⟩
    rintro rfl
    exact kept.1 ⟨invariant.oneHolder _ _ _ ⟨took, kept.2⟩ holds, rfl⟩
  have wrote_iff : ∀ {writer id generation record}, id ∈ challengeIds →
      (Wrote (⟨caller, .putIfEq (consumedSignatureKey signature) (some (.bool true))
        releasedMarker, true⟩ :: world.history) writer id generation record ↔
          Wrote world.history writer id generation record) :=
    fun idMem => ChainInvariant.wrote_cons_of_neutral neutral idMem
  constructor
  · exact invariant.chain.of_neutral neutral fun id _ generation =>
      setEntry_signature_record _ _ _ _ _
  · intro other otherSignature holding
    rcases holding_of holding with ⟨held, different⟩
    rw [World.record_state, setEntry_signature_of_ne _ different]
    exact invariant.held other otherSignature held
  · intro left right otherSignature holdingLeft holdingRight
    exact invariant.oneHolder left right otherSignature (holding_of holdingLeft).1
      (holding_of holdingRight).1
  · intro writer left leftMem right rightMem leftGeneration rightGeneration leftRecord
      rightRecord wroteLeft wroteRight
    rw [World.record_history, wrote_iff leftMem] at wroteLeft
    rw [World.record_history, wrote_iff rightMem] at wroteRight
    exact invariant.onePending writer left leftMem right rightMem leftGeneration rightGeneration
      leftRecord rightRecord wroteLeft wroteRight
  · intro isStrict writer id idMem generation record otherSignature wrote isPending unsettled
    rw [World.record_history, wrote_iff idMem] at wrote
    simp only [World.record_state, Unsettled, setEntry_signature_record] at unsettled
    rcases invariant.owned isStrict writer id idMem generation record otherSignature wrote
      isPending unsettled with ⟨took, whenReleased⟩
    refine ⟨took_iff.mpr took, ?_⟩
    intro releasedNow
    rw [World.record_history, released_iff] at releasedNow
    simp only [World.record_state, World.record_history, setEntry_signature_record]
    rcases releasedNow with ⟨rfl, rfl⟩ | before
    · refine ⟨?_, fun other holding => (holding_of holding).2 rfl⟩
      rcases unsettled with last | ⟨next, entry, confirmed⟩
      · exact last
      · exact absurd confirmed ((undisturbed isStrict).release writer otherSignature rfl id idMem
          generation record wrote isPending next entry)
    · rcases whenReleased before with ⟨last, nobody⟩
      exact ⟨last, fun other holding => nobody other (holding_of holding).1⟩

/-- Winning a generation: a broadcast is recorded by the holder of its
signature, as its only one, and no abandoned broadcast is confirmed. -/
theorem recorded {caller : Caller} {id : String} {generation : ℕ} {record : ChargeRecord}
    (invariant : SettlementInvariant strict world) (idMem : id ∈ challengeIds)
    (chain : ChainInvariant settlementRules (world.record
      ⟨caller, .putIfAbsent (chargeRecordKey id generation) (.record record), true⟩
      (world.state.setEntry (chargeRecordKey id generation) (some (.record record)))))
    (absent : world.state.entries (chargeRecordKey id generation) = none)
    (pending : record.state = .pending →
      (∀ other ∈ challengeIds, ∀ otherGeneration otherRecord,
        Wrote world.history caller other otherGeneration otherRecord →
          otherRecord.state ≠ .pending) ∧
      ∀ signature, record.finalSignature = some signature →
        Holding world.history caller signature)
    (undisturbed : strict → Undisturbed world
      ⟨caller, .putIfAbsent (chargeRecordKey id generation) (.record record), true⟩) :
    SettlementInvariant strict (world.record
      ⟨caller, .putIfAbsent (chargeRecordKey id generation) (.record record), true⟩
      (world.state.setEntry (chargeRecordKey id generation) (some (.record record)))) := by
  have ruled : id ∈ (settlementRules : ChainRules Caller).ids := idMem
  have wrote_iff : ∀ {writer other otherGeneration otherRecord}, other ∈ challengeIds →
      (Wrote (⟨caller, .putIfAbsent (chargeRecordKey id generation) (.record record), true⟩ ::
          world.history) writer other otherGeneration otherRecord ↔
        (writer = caller ∧ other = id ∧ otherGeneration = generation ∧ otherRecord = record) ∨
          Wrote world.history writer other otherGeneration otherRecord) :=
    fun otherMem => ChainInvariant.wrote_cons_of_won ruled otherMem
  have holding_iff : ∀ {other signature},
      Holding (⟨caller, .putIfAbsent (chargeRecordKey id generation) (.record record), true⟩ ::
        world.history) other signature ↔ Holding world.history other signature := by
    intro other signature
    simp only [Holding, holding_cons_record.1, holding_cons_record.2]
  have entry_eq : ∀ other, other ∈ challengeIds → ∀ otherGeneration,
      (world.state.setEntry (chargeRecordKey id generation) (some (.record record))).entries
          (chargeRecordKey other otherGeneration) =
        if other = id ∧ otherGeneration = generation then some (.record record)
        else world.state.entries (chargeRecordKey other otherGeneration) :=
    fun other otherMem otherGeneration => ChainInvariant.entries_setEntry_record ruled otherMem
      generation otherGeneration world.state (some (.record record))
  constructor
  · exact chain
  · intro other signature holding
    rw [World.record_history, holding_iff] at holding
    rw [World.record_state, setEntry_record_signature]
    exact invariant.held other signature holding
  · intro left right signature holdingLeft holdingRight
    rw [World.record_history, holding_iff] at holdingLeft holdingRight
    exact invariant.oneHolder left right signature holdingLeft holdingRight
  · intro writer left leftMem right rightMem leftGeneration rightGeneration leftRecord
      rightRecord wroteLeft wroteRight pendingLeft pendingRight
    rw [World.record_history, wrote_iff leftMem] at wroteLeft
    rw [World.record_history, wrote_iff rightMem] at wroteRight
    rcases wroteLeft with ⟨rfl, rfl, rfl, rfl⟩ | wroteLeft
    · rcases wroteRight with ⟨_, rfl, rfl, rfl⟩ | wroteRight
      · exact ⟨rfl, rfl⟩
      · exact absurd pendingRight ((pending pendingLeft).1 right rightMem _ _ wroteRight)
    · rcases wroteRight with ⟨rfl, rfl, rfl, rfl⟩ | wroteRight
      · exact absurd pendingLeft ((pending pendingRight).1 left leftMem _ _ wroteLeft)
      · exact invariant.onePending writer left leftMem right rightMem leftGeneration
          rightGeneration leftRecord rightRecord wroteLeft wroteRight pendingLeft pendingRight
  · intro isStrict writer other otherMem otherGeneration otherRecord signature wrote isPending
      unsettled
    simp only [World.record_history, World.record_state, wrote_iff otherMem,
      holding_cons_record.1, holding_cons_record.2, holding_iff, Unsettled,
      entry_eq other otherMem] at wrote unsettled ⊢
    rcases wrote with ⟨rfl, rfl, rfl, rfl⟩ | wrote
    · have isPendingNow : otherRecord.state = .pending ∧
          otherRecord.finalSignature = some signature := by
        simpa [isPendingFor] using isPending
      have holding := (pending isPendingNow.1).2 signature isPendingNow.2
      exact ⟨holding.1, fun released => absurd released holding.2⟩
    · by_cases next : other = id ∧ otherGeneration + 1 = generation
      · rcases next with ⟨rfl, rfl⟩
        simp only [and_self, if_true] at unsettled ⊢
        rcases unsettled with last | ⟨following, entry, confirmed⟩
        · contradiction
        · obtain rfl : record = following := by simpa using entry
          rcases invariant.owned isStrict writer other otherMem otherGeneration otherRecord
            signature wrote isPending (.inl absent) with ⟨took, whenReleased⟩
          refine ⟨took, ?_⟩
          intro released
          have abandoned : Abandoned world other otherGeneration signature :=
            ⟨writer, otherRecord, wrote, isPending, released, absent⟩
          exact absurd rfl ((undisturbed isStrict).confirm other otherMem otherGeneration
            signature abandoned caller record confirmed)
      · simp only [next, if_false] at unsettled ⊢
        exact invariant.owned isStrict writer other otherMem otherGeneration otherRecord
          signature wrote isPending unsettled

theorem dropRoot {caller : Caller} {id : String} (invariant : SettlementInvariant strict world)
    (idMem : id ∈ challengeIds)
    (present : world.state.entries (chargeRecordKey id 1) ≠ none) :
    SettlementInvariant strict (world.record ⟨caller, .delete (chargeRecordKey id 0), ()⟩
      (world.state.setEntry (chargeRecordKey id 0) none)) := by
  have old : ∀ {call : Call} {other : Caller} {reply : Reply call},
      call ≠ .delete (chargeRecordKey id 0) →
        ((⟨other, call, reply⟩ : LedgerEvent Caller) ∈
            (⟨caller, .delete (chargeRecordKey id 0), ()⟩ : LedgerEvent Caller) :: world.history ↔
          (⟨other, call, reply⟩ : LedgerEvent Caller) ∈ world.history) :=
    fun different => mem_cons_of_ne (event_ne_of_call_ne (Ne.symm different))
  have ruled : id ∈ (settlementRules : ChainRules Caller).ids := idMem
  have entry_eq : ∀ other, other ∈ challengeIds → ∀ generation,
      (world.state.setEntry (chargeRecordKey id 0) none).entries
          (chargeRecordKey other (generation + 1)) =
        world.state.entries (chargeRecordKey other (generation + 1)) := by
    intro other otherMem generation
    rw [ChainInvariant.entries_setEntry_record ruled otherMem, if_neg (by omega)]
  constructor
  · exact invariant.chain.dropRoot idMem present
  · intro other signature holding
    simp only [World.record_history, Holding, Took, Released] at holding
    rw [old (by simp), old (by simp), old (by simp)] at holding
    rw [World.record_state, setEntry_record_signature]
    exact invariant.held other signature holding
  · intro left right signature holdingLeft holdingRight
    simp only [World.record_history, Holding, Took, Released] at holdingLeft holdingRight
    rw [old (by simp), old (by simp), old (by simp)] at holdingLeft holdingRight
    exact invariant.oneHolder left right signature holdingLeft holdingRight
  · intro writer left leftMem right rightMem leftGeneration rightGeneration leftRecord
      rightRecord wroteLeft wroteRight
    simp only [World.record_history, Wrote] at wroteLeft wroteRight
    rw [old (by simp)] at wroteLeft wroteRight
    exact invariant.onePending writer left leftMem right rightMem leftGeneration rightGeneration
      leftRecord rightRecord wroteLeft wroteRight
  · intro isStrict writer other otherMem generation record signature wrote isPending unsettled
    simp only [World.record_history, World.record_state, Wrote, Unsettled,
      entry_eq other otherMem, Holding, Took, Released] at wrote unsettled ⊢
    rw [old (by simp)] at wrote
    have owned := invariant.owned isStrict writer other otherMem generation record signature wrote
      isPending unsettled
    simp only [Holding, Took, Released] at owned
    simpa only [List.mem_cons, reduceCtorEq, false_and, and_false, false_or, Event.mk.injEq]
      using owned

end SettlementInvariant

end PayKit.Charge
