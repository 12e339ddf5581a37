import Mathlib.Data.Nat.Init
import PayKit.Store.ChargeReplay

/-!
# The chain invariant of the charge replay ledger

Whatever callers do, the generations of a charge record are related by the
history of the calls that wrote them. The invariant says this for any set of
challenges whose keys do not collide. It is parametrized by what a caller may
write first (`mayOpen`) and what it may write after which record
(`mayFollow`), so that it serves both the ledger on its own and the settlement
built on it.

The root needs care. A `reserve` that has just written generation 0 deletes it
again when it finds generation 1 in place, so the clauses about the root only
speak while no root was dropped. Later generations are never deleted.
-/

namespace PayKit.Store

open Concurrency

abbrev LedgerEvent (Caller : Type) := Event Caller Call Reply

abbrev LedgerWorld (Caller : Type) := World Caller Backend Call Reply

variable {Caller : Type}

/-- `caller` won the `put_if_absent` of a generation. -/
def Wrote (history : List (LedgerEvent Caller)) (caller : Caller) (challengeId : String)
    (generation : ℕ) (record : ChargeRecord) : Prop :=
  (⟨caller, .putIfAbsent (chargeRecordKey challengeId generation) (.record record), true⟩ :
    LedgerEvent Caller) ∈ history

/-- Some caller deleted the root of the record. -/
def RootDropped (history : List (LedgerEvent Caller)) (challengeId : String) : Prop :=
  ∃ caller, (⟨caller, .delete (chargeRecordKey challengeId 0), ()⟩ : LedgerEvent Caller) ∈ history

theorem Wrote.mono {history later : List (LedgerEvent Caller)} {caller : Caller}
    {challengeId : String} {generation : ℕ} {record : ChargeRecord}
    (wrote : Wrote history caller challengeId generation record) (suffix : history <:+ later) :
    Wrote later caller challengeId generation record :=
  suffix.mem wrote

/-- The challenges in play and what their writers may write. -/
structure ChainRules (Caller : Type) where
  ids : Set String
  apart : ∀ left ∈ ids, ∀ right ∈ ids, ∀ leftGeneration rightGeneration,
    chargeRecordKey left leftGeneration = chargeRecordKey right rightGeneration →
      left = right ∧ leftGeneration = rightGeneration
  mayOpen : Caller → String → ChargeRecord → Prop
  mayFollow : Caller → String → ℕ → ChargeRecord → ChargeRecord → Prop

structure ChainInvariant (rules : ChainRules Caller) (world : LedgerWorld Caller) : Prop where
  /-- A later generation still holds what was written to it. -/
  current : ∀ caller, ∀ id ∈ rules.ids, ∀ generation record,
    Wrote world.history caller id (generation + 1) record →
      world.state.entries (chargeRecordKey id (generation + 1)) = some (.record record)
  rootCurrent : ∀ caller, ∀ id ∈ rules.ids, ∀ record, Wrote world.history caller id 0 record →
    ¬RootDropped world.history id →
      world.state.entries (chargeRecordKey id 0) = some (.record record)
  /-- Every entry was written by somebody. -/
  written : ∀ id ∈ rules.ids, ∀ generation value,
    world.state.entries (chargeRecordKey id generation) = some value →
      ∃ caller record, value = .record record ∧ Wrote world.history caller id generation record
  opened : ∀ caller, ∀ id ∈ rules.ids, ∀ record, Wrote world.history caller id 0 record →
    rules.mayOpen caller id record
  followed : ∀ caller, ∀ id ∈ rules.ids, ∀ generation record,
    Wrote world.history caller id (generation + 1) record →
      ∃ writer previous, Wrote world.history writer id generation previous ∧
        rules.mayFollow caller id generation previous record
  unique : ∀ left right, ∀ id ∈ rules.ids, ∀ generation leftRecord rightRecord,
    Wrote world.history left id (generation + 1) leftRecord →
      Wrote world.history right id (generation + 1) rightRecord → left = right
  rootUnique : ∀ left right, ∀ id ∈ rules.ids, ∀ leftRecord rightRecord,
    Wrote world.history left id 0 leftRecord → Wrote world.history right id 0 rightRecord →
      ¬RootDropped world.history id → left = right
  /-- The root is only dropped under a later generation. -/
  dropped : ∀ id ∈ rules.ids, RootDropped world.history id →
    world.state.entries (chargeRecordKey id 1) ≠ none

/-- An event that neither writes nor drops a record of the challenges in play. -/
structure RecordNeutral (rules : ChainRules Caller) (event : LedgerEvent Caller) : Prop where
  noWrite : ∀ caller, ∀ id ∈ rules.ids, ∀ generation record,
    event ≠ ⟨caller, .putIfAbsent (chargeRecordKey id generation) (.record record), true⟩
  noDrop : ∀ caller, ∀ id ∈ rules.ids, event ≠ ⟨caller, .delete (chargeRecordKey id 0), ()⟩

theorem event_ne_of_call_ne {left right : LedgerEvent Caller} (different : left.call ≠ right.call) :
    left ≠ right :=
  fun same => different (congrArg Event.call same)

theorem refused_ne_won {left right : Caller} {leftKey rightKey : String}
    {leftValue rightValue : Value} :
    (⟨left, .putIfAbsent leftKey leftValue, false⟩ : LedgerEvent Caller) ≠
      ⟨right, .putIfAbsent rightKey rightValue, true⟩ := by
  intro same
  rw [Event.mk.injEq] at same
  rcases same with ⟨_, sameCall, sameReply⟩
  cases sameCall
  simp at sameReply

theorem RecordNeutral.of_get (rules : ChainRules Caller) (caller : Caller) (key : String)
    (reply : Option Value) : RecordNeutral rules ⟨caller, .get key, reply⟩ :=
  ⟨fun _ _ _ _ _ => event_ne_of_call_ne (by simp), fun _ _ _ => event_ne_of_call_ne (by simp)⟩

theorem RecordNeutral.of_refused (rules : ChainRules Caller) (caller : Caller) (key : String)
    (value : Value) : RecordNeutral rules ⟨caller, .putIfAbsent key value, false⟩ :=
  ⟨fun _ _ _ _ _ => refused_ne_won, fun _ _ _ => event_ne_of_call_ne (by simp)⟩

namespace ChainInvariant

variable {rules : ChainRules Caller} {world : LedgerWorld Caller}

theorem wrote_cons_of_neutral {event : LedgerEvent Caller} (neutral : RecordNeutral rules event)
    {caller : Caller} {id : String} (idMem : id ∈ rules.ids) {generation : ℕ}
    {record : ChargeRecord} :
    Wrote (event :: world.history) caller id generation record ↔
      Wrote world.history caller id generation record := by
  simp only [Wrote, List.mem_cons]
  constructor
  · rintro (same | old)
    · exact absurd same.symm (neutral.noWrite caller id idMem generation record)
    · exact old
  · exact Or.inr

theorem rootDropped_cons_of_neutral {event : LedgerEvent Caller}
    (neutral : RecordNeutral rules event) {id : String} (idMem : id ∈ rules.ids) :
    RootDropped (event :: world.history) id ↔ RootDropped world.history id := by
  simp only [RootDropped, List.mem_cons]
  constructor
  · rintro ⟨caller, same | old⟩
    · exact absurd same.symm (neutral.noDrop caller id idMem)
    · exact ⟨caller, old⟩
  · rintro ⟨caller, old⟩
    exact ⟨caller, Or.inr old⟩

theorem of_neutral {event : LedgerEvent Caller} {state : Backend}
    (invariant : ChainInvariant rules world) (neutral : RecordNeutral rules event)
    (unchanged : ∀ id ∈ rules.ids, ∀ generation,
      state.entries (chargeRecordKey id generation) =
        world.state.entries (chargeRecordKey id generation)) :
    ChainInvariant rules (world.record event state) := by
  constructor
  · intro caller id idMem generation record wrote
    rw [World.record_history, wrote_cons_of_neutral neutral idMem] at wrote
    rw [World.record_state, unchanged id idMem]
    exact invariant.current caller id idMem generation record wrote
  · intro caller id idMem record wrote kept
    rw [World.record_history, wrote_cons_of_neutral neutral idMem] at wrote
    rw [World.record_history, rootDropped_cons_of_neutral neutral idMem] at kept
    rw [World.record_state, unchanged id idMem]
    exact invariant.rootCurrent caller id idMem record wrote kept
  · intro id idMem generation value entry
    rw [World.record_state, unchanged id idMem] at entry
    rcases invariant.written id idMem generation value entry with ⟨caller, record, rfl, wrote⟩
    exact ⟨caller, record, rfl, (wrote_cons_of_neutral neutral idMem).mpr wrote⟩
  · intro caller id idMem record wrote
    rw [World.record_history, wrote_cons_of_neutral neutral idMem] at wrote
    exact invariant.opened caller id idMem record wrote
  · intro caller id idMem generation record wrote
    rw [World.record_history, wrote_cons_of_neutral neutral idMem] at wrote
    rcases invariant.followed caller id idMem generation record wrote with
      ⟨writer, previous, wrotePrevious, follows⟩
    exact ⟨writer, previous, (wrote_cons_of_neutral neutral idMem).mpr wrotePrevious, follows⟩
  · intro left right id idMem generation leftRecord rightRecord wroteLeft wroteRight
    rw [World.record_history, wrote_cons_of_neutral neutral idMem] at wroteLeft wroteRight
    exact invariant.unique left right id idMem generation leftRecord rightRecord
      wroteLeft wroteRight
  · intro left right id idMem leftRecord rightRecord wroteLeft wroteRight kept
    rw [World.record_history, wrote_cons_of_neutral neutral idMem] at wroteLeft wroteRight
    rw [World.record_history, rootDropped_cons_of_neutral neutral idMem] at kept
    exact invariant.rootUnique left right id idMem leftRecord rightRecord wroteLeft wroteRight kept
  · intro id idMem dropped
    rw [World.record_history, rootDropped_cons_of_neutral neutral idMem] at dropped
    rw [World.record_state, unchanged id idMem]
    exact invariant.dropped id idMem dropped

theorem wrote_cons_of_won {caller writer : Caller} {id other : String} (idMem : id ∈ rules.ids)
    (otherMem : other ∈ rules.ids) {generation otherGeneration : ℕ}
    {record otherRecord : ChargeRecord} :
    Wrote (⟨caller, .putIfAbsent (chargeRecordKey id generation) (.record record), true⟩ ::
        world.history) writer other otherGeneration otherRecord ↔
      (writer = caller ∧ other = id ∧ otherGeneration = generation ∧ otherRecord = record) ∨
        Wrote world.history writer other otherGeneration otherRecord := by
  simp only [Wrote, List.mem_cons]
  apply or_congr_left
  constructor
  · intro same
    rw [Event.mk.injEq] at same
    rcases same with ⟨sameCaller, sameCall, _⟩
    rw [Call.putIfAbsent.injEq, Value.record.injEq] at sameCall
    rcases rules.apart other otherMem id idMem _ _ sameCall.1 with ⟨sameId, sameGeneration⟩
    exact ⟨sameCaller, sameId, sameGeneration, sameCall.2⟩
  · rintro ⟨rfl, rfl, rfl, rfl⟩
    rfl

theorem rootDropped_cons_of_won {caller : Caller} {key : String} {value : Value} {id : String} :
    RootDropped (⟨caller, .putIfAbsent key value, true⟩ :: world.history) id ↔
      RootDropped world.history id := by
  simp only [RootDropped, List.mem_cons]
  constructor
  · rintro ⟨dropper, same | old⟩
    · exact absurd same (event_ne_of_call_ne (by simp))
    · exact ⟨dropper, old⟩
  · rintro ⟨dropper, old⟩
    exact ⟨dropper, Or.inr old⟩

theorem entries_setEntry_record {id other : String} (idMem : id ∈ rules.ids)
    (otherMem : other ∈ rules.ids) (generation otherGeneration : ℕ) (backend : Backend)
    (value : Option Value) :
    (backend.setEntry (chargeRecordKey id generation) value).entries
        (chargeRecordKey other otherGeneration) =
      if other = id ∧ otherGeneration = generation then value
      else backend.entries (chargeRecordKey other otherGeneration) := by
  split
  · rename_i same
    rcases same with ⟨rfl, rfl⟩
    exact Backend.setEntry_entries_self ..
  · rename_i different
    apply Backend.setEntry_entries_of_ne
    intro sameKey
    exact different (rules.apart other otherMem id idMem _ _ sameKey)

/-- A generation that is absent was not won before, unless it is a root that
was dropped. -/
theorem dropped_of_wrote_absent {writer : Caller} {id : String} {generation : ℕ}
    {record : ChargeRecord} (invariant : ChainInvariant rules world) (idMem : id ∈ rules.ids)
    (absent : world.state.entries (chargeRecordKey id generation) = none)
    (wrote : Wrote world.history writer id generation record) :
    generation = 0 ∧ RootDropped world.history id := by
  cases generation with
  | zero =>
      refine ⟨rfl, ?_⟩
      by_contra kept
      have present := invariant.rootCurrent writer id idMem record wrote kept
      rw [absent] at present
      contradiction
  | succ below =>
      have present := invariant.current writer id idMem below record wrote
      rw [absent] at present
      contradiction

theorem won {caller : Caller} {id : String} {generation : ℕ} {record : ChargeRecord}
    (invariant : ChainInvariant rules world) (idMem : id ∈ rules.ids)
    (opens : generation = 0 → rules.mayOpen caller id record)
    (follows : ∀ below, generation = below + 1 → ∃ writer previous,
      Wrote world.history writer id below previous ∧
        rules.mayFollow caller id below previous record)
    (absent : world.state.entries (chargeRecordKey id generation) = none) :
    ChainInvariant rules (world.record
      ⟨caller, .putIfAbsent (chargeRecordKey id generation) (.record record), true⟩
      (world.state.setEntry (chargeRecordKey id generation) (some (.record record)))) := by
  have unwritten : ∀ {other old}, Wrote world.history other id generation old →
      generation = 0 ∧ RootDropped world.history id :=
    fun wrote => invariant.dropped_of_wrote_absent idMem absent wrote
  constructor
  · intro other otherId otherMem otherGeneration old wrote
    rw [World.record_history, wrote_cons_of_won idMem otherMem] at wrote
    rw [World.record_state, entries_setEntry_record idMem otherMem]
    rcases wrote with ⟨_, rfl, rfl, rfl⟩ | wrote
    · simp
    · split
      · rename_i same
        rcases same with ⟨rfl, rfl⟩
        have := (unwritten wrote).1
        omega
      · exact invariant.current other otherId otherMem otherGeneration old wrote
  · intro other otherId otherMem old wrote kept
    rw [World.record_history, wrote_cons_of_won idMem otherMem] at wrote
    rw [World.record_history, rootDropped_cons_of_won] at kept
    rw [World.record_state, entries_setEntry_record idMem otherMem]
    rcases wrote with ⟨_, rfl, rfl, rfl⟩ | wrote
    · simp
    · split
      · rename_i same
        rcases same with ⟨rfl, rfl⟩
        exact absurd (unwritten wrote).2 kept
      · exact invariant.rootCurrent other otherId otherMem old wrote kept
  · intro otherId otherMem otherGeneration value entry
    rw [World.record_state, entries_setEntry_record idMem otherMem] at entry
    split at entry
    · rename_i same
      rcases same with ⟨rfl, rfl⟩
      refine ⟨caller, record, (Option.some.inj entry).symm, ?_⟩
      exact (wrote_cons_of_won idMem idMem).mpr (.inl ⟨rfl, rfl, rfl, rfl⟩)
    · rcases invariant.written otherId otherMem otherGeneration value entry with
        ⟨other, old, rfl, wrote⟩
      exact ⟨other, old, rfl, (wrote_cons_of_won idMem otherMem).mpr (.inr wrote)⟩
  · intro other otherId otherMem old wrote
    rw [World.record_history, wrote_cons_of_won idMem otherMem] at wrote
    rcases wrote with ⟨rfl, rfl, rfl, rfl⟩ | wrote
    · exact opens rfl
    · exact invariant.opened other otherId otherMem old wrote
  · intro other otherId otherMem otherGeneration old wrote
    rw [World.record_history, wrote_cons_of_won idMem otherMem] at wrote
    have below : ∃ writer previous,
        Wrote world.history writer otherId otherGeneration previous ∧
          rules.mayFollow other otherId otherGeneration previous old := by
      rcases wrote with ⟨rfl, rfl, rfl, rfl⟩ | wrote
      · exact follows otherGeneration rfl
      · exact invariant.followed other otherId otherMem otherGeneration old wrote
    rcases below with ⟨writer, previous, wrotePrevious, mayFollow⟩
    exact ⟨writer, previous, (wrote_cons_of_won idMem otherMem).mpr (.inr wrotePrevious),
      mayFollow⟩
  · intro left right otherId otherMem otherGeneration leftRecord rightRecord wroteLeft wroteRight
    rw [World.record_history, wrote_cons_of_won idMem otherMem] at wroteLeft wroteRight
    rcases wroteLeft with ⟨rfl, rfl, rfl, _⟩ | wroteLeft
    · rcases wroteRight with ⟨rfl, _⟩ | wroteRight
      · rfl
      · have := (unwritten wroteRight).1
        omega
    · rcases wroteRight with ⟨rfl, rfl, rfl, _⟩ | wroteRight
      · have := (unwritten wroteLeft).1
        omega
      · exact invariant.unique left right otherId otherMem otherGeneration leftRecord
          rightRecord wroteLeft wroteRight
  · intro left right otherId otherMem leftRecord rightRecord wroteLeft wroteRight kept
    rw [World.record_history, wrote_cons_of_won idMem otherMem] at wroteLeft wroteRight
    rw [World.record_history, rootDropped_cons_of_won] at kept
    rcases wroteLeft with ⟨rfl, rfl, rfl, _⟩ | wroteLeft
    · rcases wroteRight with ⟨rfl, _⟩ | wroteRight
      · rfl
      · exact absurd (unwritten wroteRight).2 kept
    · rcases wroteRight with ⟨rfl, rfl, rfl, _⟩ | wroteRight
      · exact absurd (unwritten wroteLeft).2 kept
      · exact invariant.rootUnique left right otherId otherMem leftRecord rightRecord
          wroteLeft wroteRight kept
  · intro otherId otherMem dropped
    rw [World.record_history, rootDropped_cons_of_won] at dropped
    rw [World.record_state, entries_setEntry_record idMem otherMem]
    split
    · simp
    · exact invariant.dropped otherId otherMem dropped

theorem initial (unused : world.history = [])
    (empty : ∀ id ∈ rules.ids, ∀ generation,
      world.state.entries (chargeRecordKey id generation) = none) :
    ChainInvariant rules world := by
  have nothing : ∀ {caller id generation record},
      ¬Wrote world.history caller id generation record := by
    simp [Wrote, unused]
  constructor
  · intro caller id idMem generation record wrote
    exact absurd wrote nothing
  · intro caller id idMem record wrote
    exact absurd wrote nothing
  · intro id idMem generation value entry
    rw [empty id idMem] at entry
    contradiction
  · intro caller id idMem record wrote
    exact absurd wrote nothing
  · intro caller id idMem generation record wrote
    exact absurd wrote nothing
  · intro left right id idMem generation leftRecord rightRecord wrote
    exact absurd wrote nothing
  · intro left right id idMem leftRecord rightRecord wrote
    exact absurd wrote nothing
  · rintro id idMem ⟨caller, dropped⟩
    simp [unused] at dropped

theorem wrote_below (invariant : ChainInvariant rules world) {id : String}
    (idMem : id ∈ rules.ids) {generation later : ℕ} (ordered : generation ≤ later)
    {caller : Caller} {record : ChargeRecord}
    (wrote : Wrote world.history caller id later record) :
    ∃ writer below, Wrote world.history writer id generation below := by
  induction later, ordered using Nat.le_induction generalizing caller record with
  | base => exact ⟨caller, record, wrote⟩
  | succ later _ ih =>
      rcases invariant.followed caller id idMem later record wrote with
        ⟨writer, previous, wrotePrevious, _⟩
      exact ih wrotePrevious

theorem append {caller writer : Caller} {id : String} {generation : ℕ}
    {previous record : ChargeRecord} (invariant : ChainInvariant rules world)
    (idMem : id ∈ rules.ids) (wrotePrevious : Wrote world.history writer id generation previous)
    (follows : rules.mayFollow caller id generation previous record)
    (absent : world.state.entries (chargeRecordKey id (generation + 1)) = none) :
    ChainInvariant rules (world.record
      ⟨caller, .putIfAbsent (chargeRecordKey id (generation + 1)) (.record record), true⟩
      (world.state.setEntry (chargeRecordKey id (generation + 1)) (some (.record record)))) := by
  apply invariant.won idMem (by omega) _ absent
  intro below same
  obtain rfl : below = generation := by omega
  exact ⟨writer, previous, wrotePrevious, follows⟩

theorem openRoot {caller : Caller} {id : String} {record : ChargeRecord}
    (invariant : ChainInvariant rules world) (idMem : id ∈ rules.ids)
    (opens : rules.mayOpen caller id record)
    (absent : world.state.entries (chargeRecordKey id 0) = none) :
    ChainInvariant rules (world.record
      ⟨caller, .putIfAbsent (chargeRecordKey id 0) (.record record), true⟩
      (world.state.setEntry (chargeRecordKey id 0) (some (.record record)))) :=
  invariant.won idMem (fun _ => opens) (by omega) absent

/-- Dropping a root from under a later generation keeps the invariant, which
says nothing more about that root. -/
theorem dropRoot {caller : Caller} {id : String} (invariant : ChainInvariant rules world)
    (idMem : id ∈ rules.ids) (present : world.state.entries (chargeRecordKey id 1) ≠ none) :
    ChainInvariant rules (world.record ⟨caller, .delete (chargeRecordKey id 0), ()⟩
      (world.state.setEntry (chargeRecordKey id 0) none)) := by
  have wrote_iff : ∀ {writer other generation record},
      Wrote (⟨caller, .delete (chargeRecordKey id 0), ()⟩ :: world.history) writer other
        generation record ↔ Wrote world.history writer other generation record := by
    intro writer other generation record
    simp only [Wrote, List.mem_cons]
    constructor
    · rintro (same | old)
      · exact absurd same (event_ne_of_call_ne (by simp))
      · exact old
    · exact Or.inr
  have dropped_mono : ∀ {other}, RootDropped world.history other →
      RootDropped (⟨caller, .delete (chargeRecordKey id 0), ()⟩ :: world.history) other := by
    rintro other ⟨dropper, old⟩
    exact ⟨dropper, List.mem_cons_of_mem _ old⟩
  constructor
  · intro other otherId otherMem otherGeneration old wrote
    rw [World.record_history, wrote_iff] at wrote
    rw [World.record_state, entries_setEntry_record idMem otherMem, if_neg (by omega)]
    exact invariant.current other otherId otherMem otherGeneration old wrote
  · intro other otherId otherMem old wrote kept
    rw [World.record_history, wrote_iff] at wrote
    rw [World.record_state, entries_setEntry_record idMem otherMem]
    split
    · rename_i same
      rcases same with ⟨rfl, _⟩
      exact absurd ⟨caller, List.mem_cons_self ..⟩ kept
    · exact invariant.rootCurrent other otherId otherMem old wrote fun dropped =>
        kept (dropped_mono dropped)
  · intro otherId otherMem otherGeneration value entry
    rw [World.record_state, entries_setEntry_record idMem otherMem] at entry
    split at entry
    · contradiction
    · rcases invariant.written otherId otherMem otherGeneration value entry with
        ⟨other, old, rfl, wrote⟩
      exact ⟨other, old, rfl, wrote_iff.mpr wrote⟩
  · intro other otherId otherMem old wrote
    rw [World.record_history, wrote_iff] at wrote
    exact invariant.opened other otherId otherMem old wrote
  · intro other otherId otherMem otherGeneration old wrote
    rw [World.record_history, wrote_iff] at wrote
    rcases invariant.followed other otherId otherMem otherGeneration old wrote with
      ⟨below, older, wroteOlder, followsOlder⟩
    exact ⟨below, older, wrote_iff.mpr wroteOlder, followsOlder⟩
  · intro left right otherId otherMem otherGeneration leftRecord rightRecord wroteLeft wroteRight
    rw [World.record_history, wrote_iff] at wroteLeft wroteRight
    exact invariant.unique left right otherId otherMem otherGeneration leftRecord rightRecord
      wroteLeft wroteRight
  · intro left right otherId otherMem leftRecord rightRecord wroteLeft wroteRight kept
    rw [World.record_history, wrote_iff] at wroteLeft wroteRight
    exact invariant.rootUnique left right otherId otherMem leftRecord rightRecord wroteLeft
      wroteRight fun dropped => kept (dropped_mono dropped)
  · intro otherId otherMem dropped
    rw [World.record_state, entries_setEntry_record idMem otherMem, if_neg (by omega)]
    rcases dropped with ⟨dropper, happened⟩
    rcases List.mem_cons.mp happened with same | old
    · have sameCall : Call.delete (chargeRecordKey otherId 0) =
          .delete (chargeRecordKey id 0) := congrArg Event.call same
      rw [Call.delete.injEq] at sameCall
      obtain ⟨rfl, _⟩ := rules.apart otherId otherMem id idMem _ _ sameCall
      exact present
    · exact invariant.dropped otherId otherMem ⟨dropper, old⟩

end ChainInvariant

end PayKit.Store
