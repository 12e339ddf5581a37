import Mathlib.Data.Nat.Find
import Mathlib.Data.Set.Finite.Basic
import PayKit.Store.ChargeSpec

/-!
# Concurrent callers of the charge replay ledger

Any number of callers run one operation each on the record of one challenge.
The record is an append-only chain with one owner per generation in every run
in which a `reserve` that has just written the root finds no later generation
when it reads on. The schedule at the end of the file shows what happens in
the other runs: the root of a live chain is deleted.
-/

namespace PayKit.Store

open Concurrency ChargeReplayStore

/-- One call of a `ChargeReplayStore` operation, with the clock it reads. -/
inductive LedgerOperation where
  | reserve (digest : String) (lease : UInt64) (now : Int)
  | markPending (generation : ℕ) (signature : String) (now : Int)
  | markConfirmed (generation : ℕ) (signature : String) (now : Int)
  | confirmPending (generation : ℕ) (signature : String) (now : Int)
  | recordConfirmed (signature : String) (now : Int)
  | releasePending (generation : ℕ) (signature : String) (now : Int)
  | markFailed (generation : ℕ) (reason : String) (now : Int)
deriving DecidableEq, Repr

inductive LedgerOutcome where
  | reservation (reservation : ChargeReservation)
  | recorded (recorded : Bool)
deriving DecidableEq, Repr

namespace LedgerOperation

/-- The store calls of an operation on `challengeId`. -/
def body (challengeId : String) : LedgerOperation → StoreM LedgerOutcome
  | .reserve digest lease now => do
      return .reservation (← ChargeReplayStore.reserve challengeId digest lease now)
  | .markPending generation signature now => do
      return .recorded (← ChargeReplayStore.markPending challengeId generation signature now)
  | .markConfirmed generation signature now => do
      return .recorded (← ChargeReplayStore.markConfirmed challengeId generation signature now)
  | .confirmPending generation signature now => do
      return .recorded (← ChargeReplayStore.confirmPending challengeId generation signature now)
  | .recordConfirmed signature now => do
      return .recorded (← ChargeReplayStore.recordConfirmed challengeId signature now)
  | .releasePending generation signature now => do
      return .recorded (← ChargeReplayStore.releasePending challengeId generation signature now)
  | .markFailed generation reason now => do
      return .recorded (← ChargeReplayStore.markFailed challengeId generation reason now)

/-- The record an operation may append to `previous`, the record at `generation`. -/
def MayFollow (challengeId : String) (generation : ℕ) (previous record : ChargeRecord) :
    LedgerOperation → Prop
  | .reserve digest lease now =>
      previous.state = .reserved ∧ previous.normalizedRequestDigest = digest ∧
        record = freshRecord challengeId digest lease now
  | .markPending expected signature now =>
      generation = expected ∧ previous.state = .reserved ∧
        record = terminal previous .pending (some signature) none now
  | .markConfirmed expected signature now =>
      generation = expected ∧
        (previous.state = .reserved ∨ isPendingFor signature previous = true) ∧
          record = terminal previous .confirmed (some signature) none now
  | .confirmPending expected signature now =>
      generation = expected ∧ isPendingFor signature previous = true ∧
        record = terminal previous .confirmed (some signature) none now
  | .recordConfirmed signature now =>
      (previous.state = .reserved ∨ previous.state = .pending) ∧
        record = terminal previous .confirmed (some signature) none now
  | .releasePending expected signature now =>
      generation = expected ∧ isPendingFor signature previous = true ∧
        record = { previous with
          state := .reserved
          finalSignature := none
          updatedAt := now
          expiresAt := now }
  | .markFailed expected reason now =>
      generation = expected ∧ (previous.state = .reserved ∨ previous.state = .pending) ∧
        record = terminal previous .failed none (some reason) now

variable {challengeId : String} {generation : ℕ} {previous record : ChargeRecord}
  {operation : LedgerOperation}

theorem MayFollow.unresolved (follows : operation.MayFollow challengeId generation previous record) :
    previous.state = .reserved ∨ previous.state = .pending := by
  cases operation <;> simp only [MayFollow, isPendingFor, Bool.and_eq_true,
    decide_eq_true_eq] at follows <;> tauto

theorem MayFollow.digest (follows : operation.MayFollow challengeId generation previous record) :
    record.normalizedRequestDigest = previous.normalizedRequestDigest := by
  cases operation with
  | reserve digest lease now =>
      rcases follows with ⟨_, sameDigest, rfl⟩
      exact sameDigest.symm
  | recordConfirmed signature now =>
      rcases follows with ⟨_, rfl⟩
      rfl
  | _ =>
      rcases follows with ⟨_, _, rfl⟩
      rfl

theorem MayFollow.released (follows : operation.MayFollow challengeId generation previous record)
    {signature : String} (pending : previous.state = .pending)
    (broadcast : previous.finalSignature = some signature)
    (stillOpen : record.state = .reserved ∨ record.state = .pending) :
    ∃ now, operation = .releasePending generation signature now := by
  cases operation with
  | reserve digest lease now => simp [MayFollow, pending] at follows
  | markPending expected other now => simp [MayFollow, pending] at follows
  | markConfirmed expected other now =>
      rcases follows with ⟨_, _, rfl⟩
      simp [terminal] at stillOpen
  | confirmPending expected other now =>
      rcases follows with ⟨_, _, rfl⟩
      simp [terminal] at stillOpen
  | recordConfirmed other now =>
      rcases follows with ⟨_, rfl⟩
      simp [terminal] at stillOpen
  | markFailed expected reason now =>
      rcases follows with ⟨_, _, rfl⟩
      simp [terminal] at stillOpen
  | releasePending expected other now =>
      rcases follows with ⟨rfl, isPending, _⟩
      obtain rfl : signature = other := by
        simpa [isPendingFor, pending, broadcast] using isPending
      exact ⟨now, rfl⟩

end LedgerOperation

variable {Caller : Type}

/-- The writers of one record: callers that run the given operations on it. -/
def operationRules (challengeId : String) (operation : Caller → LedgerOperation) :
    ChainRules Caller where
  ids := {challengeId}
  apart := by
    rintro left rfl right rfl leftGeneration rightGeneration same
    exact ⟨rfl, chargeRecordKey_injective _ same⟩
  mayOpen caller _ record := ∃ digest lease now,
    operation caller = .reserve digest lease now ∧
      record = freshRecord challengeId digest lease now
  mayFollow caller _ generation previous record :=
    (operation caller).MayFollow challengeId generation previous record

/-- The store alone: every interleaving of the callers' steps. -/
def unrestricted : Environment Caller Backend Call Reply where
  effect := effect
  allowed _ _ := True

/-- A caller that wrote the root finds no later generation when it reads on. -/
def RootStillAlone (challengeId : String) (world : LedgerWorld Caller)
    (event : LedgerEvent Caller) : Prop :=
  event.call = .get (chargeRecordKey challengeId 1) →
    ∀ record, Wrote world.history event.caller challengeId 0 record →
      world.state.entries (chargeRecordKey challengeId 1) = none

/-- The runs in which no fresh root is overtaken before its writer read on. -/
def rootsStayAlone (challengeId : String) : Environment Caller Backend Call Reply where
  effect := effect
  allowed := RootStillAlone challengeId

abbrev LedgerConfig (Caller : Type) :=
  Config Caller Backend Call Reply (Except StoreError LedgerOutcome)

/-- Every caller is about to run its operation on a challenge without a record. -/
structure LedgerStart (challengeId : String) (operation : Caller → LedgerOperation)
    (start : LedgerConfig Caller) : Prop where
  empty : ∀ generation, start.world.state.entries (chargeRecordKey challengeId generation) = none
  unused : start.world.history = []
  ready : ∀ caller, start.threads caller = ((operation caller).body challengeId).run

/-- `caller` was granted `generation`. -/
def Granted (config : LedgerConfig Caller) (caller : Caller) (generation : ℕ) : Prop :=
  config.threads caller = .done (.ok (.reservation (.reserved generation)))

/-- The record is a chain of generations without gaps, every generation has at
most one owner, nothing follows a terminal generation, a pending broadcast is
only overtaken after its release, and all generations are for one request. -/
structure AppendOnlyChain (challengeId : String) (operation : Caller → LedgerOperation)
    (config : LedgerConfig Caller) : Prop where
  noGaps : ∃ length, ∀ generation,
    config.world.state.entries (chargeRecordKey challengeId generation) ≠ none ↔
      generation < length
  oneOwner : ∀ left right generation, Granted config left generation →
    Granted config right generation → left = right
  terminalIsLast : ∀ generation record,
    config.world.state.entries (chargeRecordKey challengeId generation) = some (.record record) →
      record.state = .confirmed ∨ record.state = .failed →
        ∀ later, generation < later →
          config.world.state.entries (chargeRecordKey challengeId later) = none
  releasedBefore : ∀ generation record signature caller later,
    config.world.state.entries (chargeRecordKey challengeId generation) = some (.record record) →
      record.state = .pending → record.finalSignature = some signature →
        generation < later → Granted config caller later →
          ∃ releaser now, operation releaser = .releasePending generation signature now ∧
            config.threads releaser = .done (.ok (.recorded true))
  releasedAfter : ∀ releaser generation signature now,
    operation releaser = .releasePending generation signature now →
      config.threads releaser = .done (.ok (.recorded true)) → ∃ record,
        config.world.state.entries (chargeRecordKey challengeId generation) =
            some (.record record) ∧
          record.state = .pending ∧ record.finalSignature = some signature
  oneDigest : ∀ left right leftRecord rightRecord,
    config.world.state.entries (chargeRecordKey challengeId left) = some (.record leftRecord) →
      config.world.state.entries (chargeRecordKey challengeId right) = some (.record rightRecord) →
        leftRecord.normalizedRequestDigest = rightRecord.normalizedRequestDigest

/-- The chain invariant of runs in which the root is never dropped. -/
def WholeChain (challengeId : String) (operation : Caller → LedgerOperation)
    (world : LedgerWorld Caller) : Prop :=
  ChainInvariant (operationRules challengeId operation) world ∧
    ¬RootDropped world.history challengeId

section

variable {challengeId : String} {operation : Caller → LedgerOperation}
  {world : LedgerWorld Caller}

theorem not_rootDropped_cons {event : LedgerEvent Caller}
    (kept : ¬RootDropped world.history challengeId)
    (noDelete : event.call ≠ .delete (chargeRecordKey challengeId 0)) :
    ¬RootDropped (event :: world.history) challengeId := by
  rintro ⟨caller, happened⟩
  rcases List.mem_cons.mp happened with same | old
  · exact noDelete (congrArg Event.call same).symm
  · exact kept ⟨caller, old⟩

theorem ledgerSetting (challengeId : String) (operation : Caller → LedgerOperation) :
    LedgerSetting (rootsStayAlone challengeId) (WholeChain challengeId operation)
      (operationRules challengeId operation) where
  answers := rfl
  chain _ holds := holds.1
  read world caller key holds := by
    refine ⟨holds.1.of_neutral (.of_get _ _ _ _) fun _ _ _ => rfl, ?_⟩
    exact not_rootDropped_cons holds.2 (by simp)
  refused world caller key value holds := by
    refine ⟨holds.1.of_neutral (.of_refused _ _ _ _) fun _ _ _ => rfl, ?_⟩
    exact not_rootDropped_cons holds.2 (by simp)

namespace WholeChain

theorem append {caller writer : Caller} {generation : ℕ} {previous record : ChargeRecord}
    (holds : WholeChain challengeId operation world)
    (wrote : Wrote world.history writer challengeId generation previous)
    (follows : (operation caller).MayFollow challengeId generation previous record)
    (absent : world.state.entries (chargeRecordKey challengeId (generation + 1)) = none) :
    WholeChain challengeId operation (world.record
      ⟨caller, .putIfAbsent (chargeRecordKey challengeId (generation + 1)) (.record record), true⟩
      (world.state.setEntry (chargeRecordKey challengeId (generation + 1))
        (some (.record record)))) :=
  ⟨holds.1.append rfl wrote follows absent, not_rootDropped_cons holds.2 (by simp)⟩

theorem entry_of_wrote (holds : WholeChain challengeId operation world) {caller : Caller}
    {generation : ℕ} {record : ChargeRecord}
    (wrote : Wrote world.history caller challengeId generation record) :
    world.state.entries (chargeRecordKey challengeId generation) = some (.record record) := by
  cases generation with
  | zero => exact holds.1.rootCurrent caller challengeId rfl record wrote holds.2
  | succ below => exact holds.1.current caller challengeId rfl below record wrote

theorem wrote_of_entry (holds : WholeChain challengeId operation world) {generation : ℕ}
    {record : ChargeRecord}
    (entry : world.state.entries (chargeRecordKey challengeId generation) =
      some (.record record)) :
    ∃ caller, Wrote world.history caller challengeId generation record := by
  rcases holds.1.written challengeId rfl generation _ entry with ⟨caller, found, same, wrote⟩
  obtain rfl : record = found := by simpa using same
  exact ⟨caller, wrote⟩

theorem caller_unique (holds : WholeChain challengeId operation world) {left right : Caller}
    {generation : ℕ} {leftRecord rightRecord : ChargeRecord}
    (wroteLeft : Wrote world.history left challengeId generation leftRecord)
    (wroteRight : Wrote world.history right challengeId generation rightRecord) :
    left = right := by
  cases generation with
  | zero =>
      exact holds.1.rootUnique left right challengeId rfl _ _ wroteLeft wroteRight holds.2
  | succ below =>
      exact holds.1.unique left right challengeId rfl below _ _ wroteLeft wroteRight

theorem record_unique (holds : WholeChain challengeId operation world) {left right : Caller}
    {generation : ℕ} {leftRecord rightRecord : ChargeRecord}
    (wroteLeft : Wrote world.history left challengeId generation leftRecord)
    (wroteRight : Wrote world.history right challengeId generation rightRecord) :
    leftRecord = rightRecord := by
  have same := (holds.entry_of_wrote wroteLeft).symm.trans (holds.entry_of_wrote wroteRight)
  simpa using same

theorem followed (holds : WholeChain challengeId operation world) {caller writer : Caller}
    {generation : ℕ} {previous record : ChargeRecord}
    (wrotePrevious : Wrote world.history writer challengeId generation previous)
    (wrote : Wrote world.history caller challengeId (generation + 1) record) :
    (operation caller).MayFollow challengeId generation previous record := by
  rcases holds.1.followed caller challengeId rfl generation record wrote with
    ⟨below, found, wroteFound, follows⟩
  obtain rfl := holds.record_unique wroteFound wrotePrevious
  exact follows

theorem unresolved_of_later (holds : WholeChain challengeId operation world)
    {generation later : ℕ} (ordered : generation < later) {caller writer : Caller}
    {record last : ChargeRecord}
    (wrote : Wrote world.history caller challengeId generation record)
    (wroteLast : Wrote world.history writer challengeId later last) :
    record.state = .reserved ∨ record.state = .pending := by
  rcases holds.1.wrote_below rfl ordered wroteLast with ⟨next, following, wroteFollowing⟩
  exact (holds.followed wrote wroteFollowing).unresolved

theorem digest_of_le (holds : WholeChain challengeId operation world) {generation later : ℕ}
    (ordered : generation ≤ later) {caller writer : Caller} {record last : ChargeRecord}
    (wrote : Wrote world.history caller challengeId generation record)
    (wroteLast : Wrote world.history writer challengeId later last) :
    last.normalizedRequestDigest = record.normalizedRequestDigest := by
  induction later, ordered using Nat.le_induction generalizing writer last with
  | base => rw [holds.record_unique wrote wroteLast]
  | succ later _ ih =>
      rcases holds.1.followed writer challengeId rfl later last wroteLast with
        ⟨between, previous, wrotePrevious, follows⟩
      exact (LedgerOperation.MayFollow.digest follows).trans (ih wrotePrevious)

theorem noGaps (holds : WholeChain challengeId operation world) :
    ∃ length, ∀ generation,
      world.state.entries (chargeRecordKey challengeId generation) ≠ none ↔
        generation < length := by
  have present_iff : ∀ generation,
      world.state.entries (chargeRecordKey challengeId generation) ≠ none ↔
        ∃ caller record, Wrote world.history caller challengeId generation record := by
    intro generation
    constructor
    · intro present
      rcases Option.ne_none_iff_exists'.mp present with ⟨value, entry⟩
      rcases holds.1.written challengeId rfl generation value entry with
        ⟨caller, record, _, wrote⟩
      exact ⟨caller, record, wrote⟩
    · rintro ⟨caller, record, wrote⟩
      simp [holds.entry_of_wrote wrote]
  have absent : ∃ generation,
      ¬∃ caller record, Wrote world.history caller challengeId generation record := by
    by_contra allWritten
    push Not at allWritten
    choose caller record wrote using allWritten
    have injective : Function.Injective fun generation =>
        (⟨caller generation, .putIfAbsent (chargeRecordKey challengeId generation)
          (.record (record generation)), true⟩ : LedgerEvent Caller) := by
      intro left right same
      have sameCall := congrArg Event.call same
      rw [Call.putIfAbsent.injEq] at sameCall
      exact chargeRecordKey_injective challengeId sameCall.1
    exact Set.infinite_of_injective_forall_mem injective wrote world.history.finite_toSet
  classical
  refine ⟨Nat.find absent, ?_⟩
  intro generation
  rw [present_iff]
  constructor
  · rintro ⟨caller, record, wrote⟩
    by_contra notBelow
    exact Nat.find_spec absent (holds.1.wrote_below rfl (by omega) wrote)
  · intro below
    by_contra missing
    exact Nat.find_min absent below missing

end WholeChain

end

/-- What holds while a caller waits: a releaser that is still running wrote
nothing. -/
def Waiting (operation : LedgerOperation) (caller : Caller) (world : LedgerWorld Caller) : Prop :=
  match operation with
  | .releasePending _ _ _ => Unwritten caller world
  | _ => True

/-- What a caller achieved when its operation returned. -/
def Achieved (challengeId : String) (caller : Caller) (operation : LedgerOperation)
    (outcome : Except StoreError LedgerOutcome) (world : LedgerWorld Caller) : Prop :=
  match operation with
  | .reserve digest lease now => ∀ generation,
      outcome = .ok (.reservation (.reserved generation)) →
        Wrote world.history caller challengeId generation
          (freshRecord challengeId digest lease now)
  | .releasePending generation signature _ =>
      (∀ reservation, outcome ≠ .ok (.reservation reservation)) ∧
        ((outcome = .ok (.recorded true) ∧ ∃ writer record,
          Wrote world.history writer challengeId generation record ∧
            isPendingFor signature record = true) ∨
        (outcome ≠ .ok (.recorded true) ∧ Unwritten caller world))
  | _ => ∀ generation, outcome ≠ .ok (.reservation (.reserved generation))

section

variable {challengeId : String} {operation : Caller → LedgerOperation}
  {world before : LedgerWorld Caller} {caller : Caller}

theorem safe_recheckRoot_alone {running : LedgerWorld Caller → Prop} {digest : String}
    {fresh : ChargeRecord} (steady : Steady (WholeChain challengeId operation) caller running)
    (run : running before) (wrote : Wrote before.history caller challengeId 0 fresh) :
    (rootsStayAlone challengeId).Safe (WholeChain challengeId operation) caller running
      (Reserves running caller challengeId digest fresh) (recheckRoot challengeId).run before := by
  unfold recheckRoot ChargeReplayStore.read
  rw [bind_assoc]
  apply safe_get_bind (ledgerSetting challengeId operation) steady run
  intro now interference _ permitted
  have alone := permitted rfl fresh (wrote.mono interference.suffix)
  simp only [alone]
  intro after further
  have granted := wrote.mono interference.suffix
  exact .inl ⟨rfl, granted.mono ((List.suffix_cons _ _).trans further.suffix)⟩

theorem safe_recorded {running : LedgerWorld Caller → Prop} {generation : ℕ}
    {ready : ChargeRecord → Bool} {update : ChargeRecord → ChargeRecord}
    (steady : Steady (WholeChain challengeId operation) caller running)
    (holds : WholeChain challengeId operation before) (run : running before)
    (follows : ∀ record, ready record = true →
      (operation caller).MayFollow challengeId generation record (update record)) :
    (rootsStayAlone challengeId).Safe (WholeChain challengeId operation) caller running
      (fun outcome world => (∀ reservation, outcome ≠ .ok (.reservation reservation)) ∧
        ((outcome = .ok (.recorded true) ∧ ∃ writer record,
          Wrote world.history writer challengeId generation record ∧ ready record = true) ∨
        (outcome ≠ .ok (.recorded true) ∧ running world)))
      (do return LedgerOutcome.recorded (← advance challengeId generation ready update) :
        StoreM LedgerOutcome).run before := by
  have advances := safe_advance (ledgerSetting challengeId operation) steady rfl holds run
    fun world writer record holdsNow _ _ wrote isReady absent _ =>
      holdsNow.append wrote (follows record isReady) absent
  apply Environment.Safe.fallible_bind holds advances
  · intro won world holdsNow suffix reached after further
    refine ⟨by simp, ?_⟩
    rcases reached with ⟨same, writer, record, wrote, isReady, _⟩ | ⟨lost, runNow⟩
    · obtain rfl : won = true := by simpa using same
      exact .inl ⟨rfl, writer, record, wrote.mono further.suffix, isReady⟩
    · refine .inr ⟨?_, steady.interfere _ _ further runNow⟩
      intro same
      apply lost
      simpa using same
  · intro error world holdsNow suffix reached after further
    refine ⟨by simp, .inr ⟨by simp, ?_⟩⟩
    rcases reached with ⟨same, _⟩ | ⟨_, runNow⟩
    · simp at same
    · exact steady.interfere _ _ further runNow

theorem safe_reserve_body {digest : String} {lease : UInt64} {now : Int}
    (runs : operation caller = .reserve digest lease now)
    (holds : WholeChain challengeId operation before) :
    (rootsStayAlone challengeId).Safe (WholeChain challengeId operation) caller (fun _ => True)
      (fun outcome world => ∀ generation, outcome = .ok (.reservation (.reserved generation)) →
        Wrote world.history caller challengeId generation
          (freshRecord challengeId digest lease now))
      ((LedgerOperation.reserve digest lease now).body challengeId).run before := by
  have steady := Steady.trivial (WholeChain challengeId operation) caller
  apply Environment.Safe.fallible_bind holds
    (safe_reserve (ledgerSetting challengeId operation) steady rfl holds trivial ?_ ?_ ?_)
  · intro reservation world holdsNow suffix reached after further generation same
    obtain rfl : reservation = .reserved generation := by simpa using same
    rcases reached with ⟨root, wrote⟩ | ⟨below, _, _, next, _, _, _, wrote⟩ | ⟨_, classified⟩
    · obtain rfl : generation = 0 := by simpa using root
      exact wrote.mono further.suffix
    · obtain rfl : generation = below + 1 := by simpa using next
      exact wrote.mono further.suffix
    · exact classified.elim
  · intro error world holdsNow suffix reached after further generation same
    simp at same
  · intro world holdsNow suffix _ absent _
    refine ⟨holdsNow.1.openRoot rfl ⟨digest, lease, now, runs, rfl⟩ absent, ?_⟩
    exact not_rootDropped_cons holdsNow.2 (by simp)
  · intro world holdsNow suffix wrote
    exact safe_recheckRoot_alone steady trivial wrote
  · intro world writer generation record holdsNow suffix _ wrote reserved sameDigest absent _
    apply holdsNow.append wrote _ absent
    rw [runs]
    exact ⟨reserved, sameDigest, rfl⟩

theorem safe_body {op : LedgerOperation} (runs : operation caller = op)
    (holds : WholeChain challengeId operation before) (unwritten : Unwritten caller before) :
    (rootsStayAlone challengeId).Safe (WholeChain challengeId operation) caller
      (Waiting op caller) (Achieved challengeId caller op) (op.body challengeId).run before := by
  have trivially := Steady.trivial (WholeChain challengeId operation) caller
  cases op with
  | reserve digest lease now => exact safe_reserve_body runs holds
  | markPending generation signature now =>
      refine (safe_recorded trivially holds trivial ?_).weaken fun _ _ _ _ reached _ => reached.1 _
      intro record isReady
      rw [runs]
      exact ⟨rfl, by simpa using isReady, rfl⟩
  | markConfirmed generation signature now =>
      refine (safe_recorded trivially holds trivial ?_).weaken fun _ _ _ _ reached _ => reached.1 _
      intro record isReady
      rw [runs]
      exact ⟨rfl, by simpa using isReady, rfl⟩
  | confirmPending generation signature now =>
      refine (safe_recorded trivially holds trivial ?_).weaken fun _ _ _ _ reached _ => reached.1 _
      intro record isReady
      rw [runs]
      exact ⟨rfl, isReady, rfl⟩
  | recordConfirmed signature now =>
      apply Environment.Safe.fallible_bind holds (safe_recordConfirmedFrom
        (ledgerSetting challengeId operation) trivially rfl holds trivial ?_)
      · intro recorded world holdsNow suffix reached after further generation
        simp
      · intro error world holdsNow suffix reached after further generation
        simp
      · intro world writer generation record holdsNow suffix _ wrote unresolved absent _
        apply holdsNow.append wrote _ absent
        rw [runs]
        exact ⟨unresolved, rfl⟩
  | releasePending generation signature now =>
      refine (safe_recorded (Steady.unwritten _ caller) holds unwritten ?_).weaken
        fun _ _ _ _ reached => reached
      intro record isReady
      rw [runs]
      exact ⟨rfl, isReady, rfl⟩
  | markFailed generation reason now =>
      refine (safe_recorded trivially holds trivial ?_).weaken fun _ _ _ _ reached _ => reached.1 _
      intro record isReady
      rw [runs]
      exact ⟨rfl, by simpa using isReady, rfl⟩

theorem LedgerStart.wholeChain {start : LedgerConfig Caller}
    (starts : LedgerStart challengeId operation start) :
    WholeChain challengeId operation start.world := by
  refine ⟨.initial starts.unused ?_, ?_⟩
  · rintro id rfl generation
    exact starts.empty generation
  · simp [RootDropped, starts.unused]

/-- Where a run of the ledger's operations can be: on a whole chain, with every
caller waiting or returned as its operation promises. -/
structure LedgerReached (challengeId : String) (operation : Caller → LedgerOperation)
    (config : LedgerConfig Caller) : Prop where
  whole : WholeChain challengeId operation config.world
  safe : ∀ caller, (rootsStayAlone challengeId).Safe (WholeChain challengeId operation) caller
    (Waiting (operation caller) caller) (Achieved challengeId caller (operation caller))
    (config.threads caller) config.world

theorem LedgerStart.reached [DecidableEq Caller] {start reached : LedgerConfig Caller}
    (starts : LedgerStart challengeId operation start)
    (run : (rootsStayAlone challengeId).Reachable start reached) :
    LedgerReached challengeId operation reached := by
  have safeAtStart : ∀ caller, (rootsStayAlone challengeId).Safe
      (WholeChain challengeId operation) caller (Waiting (operation caller) caller)
      (Achieved challengeId caller (operation caller)) (start.threads caller) start.world := by
    intro caller
    rw [starts.ready caller]
    apply safe_body rfl starts.wholeChain
    simp [Unwritten, Wrote, starts.unused]
  rcases Environment.safe_of_reachable starts.wholeChain safeAtStart run with ⟨whole, safe⟩
  exact ⟨whole, safe⟩

namespace LedgerReached

variable {config : LedgerConfig Caller}

theorem granted (reached : LedgerReached challengeId operation config) {generation : ℕ}
    (grant : Granted config caller generation) :
    ∃ record, Wrote config.world.history caller challengeId generation record ∧
      record.state = .reserved ∧ ∃ digest lease now,
        operation caller = .reserve digest lease now := by
  have safe := reached.safe caller
  rw [grant] at safe
  have achieved := safe.post_of_done reached.whole
  cases runs : operation caller with
  | reserve digest lease now =>
      rw [runs] at achieved
      exact ⟨_, achieved generation rfl, rfl, digest, lease, now, rfl⟩
  | releasePending expected signature now =>
      rw [runs] at achieved
      exact absurd rfl (achieved.1 (.reserved generation))
  | _ =>
      rw [runs] at achieved
      exact absurd rfl (achieved generation)

theorem released (reached : LedgerReached challengeId operation config) {generation expected : ℕ}
    {signature : String} {now : Int} {record : ChargeRecord}
    (runs : operation caller = .releasePending expected signature now)
    (wrote : Wrote config.world.history caller challengeId generation record) :
    config.threads caller = .done (.ok (.recorded true)) := by
  have safe := reached.safe caller
  rw [runs] at safe
  cases thread : config.threads caller with
  | perform call next =>
      rw [thread] at safe
      exact absurd wrote (safe.running_of_perform reached.whole _ _ _)
  | done outcome =>
      rw [thread] at safe
      rcases (safe.post_of_done reached.whole).2 with ⟨rfl, _⟩ | ⟨_, unwritten⟩
      · rfl
      · exact absurd wrote (unwritten _ _ _)

/-- A release that returned `true` released a pending broadcast of its signature. -/
theorem released_pending (reached : LedgerReached challengeId operation config)
    {generation : ℕ} {signature : String} {now : Int}
    (runs : operation caller = .releasePending generation signature now)
    (returned : config.threads caller = .done (.ok (.recorded true))) :
    ∃ writer record, Wrote config.world.history writer challengeId generation record ∧
      record.state = .pending ∧ record.finalSignature = some signature := by
  have safe := reached.safe caller
  rw [runs, returned] at safe
  rcases (safe.post_of_done reached.whole).2 with ⟨_, writer, record, wrote, isPending⟩ | ⟨lost, _⟩
  · have pendingFor : record.state = .pending ∧ record.finalSignature = some signature := by
      simpa [isPendingFor] using isPending
    exact ⟨writer, record, wrote, pendingFor⟩
  · exact absurd rfl lost

theorem releasedBefore (reached : LedgerReached challengeId operation config)
    {generation later : ℕ} {signature : String} {writer : Caller} {record : ChargeRecord}
    (wrote : Wrote config.world.history writer challengeId generation record)
    (pending : record.state = .pending) (broadcast : record.finalSignature = some signature)
    (ordered : generation < later) (grant : Granted config caller later) :
    ∃ releaser now, operation releaser = .releasePending generation signature now ∧
      config.threads releaser = .done (.ok (.recorded true)) := by
  have whole := reached.whole
  rcases reached.granted grant with ⟨granted, wroteGranted, isReserved, _, _, _, reserves⟩
  rcases whole.1.wrote_below rfl ordered wroteGranted with ⟨releaser, next, wroteNext⟩
  have follows := whole.followed wrote wroteNext
  have stillOpen : next.state = .reserved ∨ next.state = .pending := by
    rcases Nat.lt_or_eq_of_le ordered with above | same
    · exact whole.unresolved_of_later above wroteNext wroteGranted
    · subst same
      rw [whole.record_unique wroteNext wroteGranted]
      exact .inl isReserved
  rcases follows.released pending broadcast stillOpen with ⟨now, runs⟩
  exact ⟨releaser, now, runs, reached.released runs wroteNext⟩

theorem appendOnlyChain (reached : LedgerReached challengeId operation config) :
    AppendOnlyChain challengeId operation config := by
  have whole := reached.whole
  constructor
  · exact whole.noGaps
  · intro left right generation grantLeft grantRight
    rcases reached.granted grantLeft with ⟨_, wroteLeft, _⟩
    rcases reached.granted grantRight with ⟨_, wroteRight, _⟩
    exact whole.caller_unique wroteLeft wroteRight
  · intro generation record entry isTerminal later ordered
    by_contra present
    rcases Option.ne_none_iff_exists'.mp present with ⟨value, laterEntry⟩
    rcases whole.1.written challengeId rfl later value laterEntry with ⟨_, last, _, wroteLast⟩
    rcases whole.wrote_of_entry entry with ⟨_, wrote⟩
    rcases whole.unresolved_of_later ordered wrote wroteLast with state | state <;>
      simp [state] at isTerminal
  · intro generation record signature caller later entry pending broadcast ordered grant
    rcases whole.wrote_of_entry entry with ⟨_, wrote⟩
    exact reached.releasedBefore wrote pending broadcast ordered grant
  · intro releaser generation signature now runs returned
    rcases reached.released_pending runs returned with ⟨_, record, wrote, isPending⟩
    exact ⟨record, whole.entry_of_wrote wrote, isPending⟩
  · intro left right leftRecord rightRecord leftEntry rightEntry
    rcases whole.wrote_of_entry leftEntry with ⟨_, wroteLeft⟩
    rcases whole.wrote_of_entry rightEntry with ⟨_, wroteRight⟩
    rcases Nat.le_total left right with ordered | ordered
    · exact (whole.digest_of_le ordered wroteLeft wroteRight).symm
    · exact whole.digest_of_le ordered wroteRight wroteLeft

end LedgerReached

/-- In a run in which no fresh root is overtaken, the record is an append-only
chain in every configuration, and no generation once written is removed or
rewritten. -/
theorem appendOnlyChain_of_rootsStayAlone [DecidableEq Caller]
    {start between reached : LedgerConfig Caller}
    (starts : LedgerStart challengeId operation start)
    (first : (rootsStayAlone challengeId).Reachable start between)
    (second : (rootsStayAlone challengeId).Reachable between reached) :
    AppendOnlyChain challengeId operation reached ∧ ∀ generation value,
      between.world.state.entries (chargeRecordKey challengeId generation) = some value →
        reached.world.state.entries (chargeRecordKey challengeId generation) = some value := by
  have atReached := starts.reached (first.trans second)
  refine ⟨atReached.appendOnlyChain, ?_⟩
  intro generation value entry
  have wholeBetween := (starts.reached first).whole
  rcases wholeBetween.1.written challengeId rfl generation value entry with
    ⟨caller, record, rfl, wrote⟩
  exact atReached.whole.entry_of_wrote (wrote.mono second.history_suffix)

end

/-- A node that answers nothing of use: the ledger's operations never ask it. -/
def silentNode : NodeAnswer where
  send := .unknown "not asked"
  seesTransaction := false

/-- Callers about to run the given operations on a challenge over an empty store. -/
def emptyLedger (challengeId : String) (operation : Caller → LedgerOperation) :
    LedgerConfig Caller :=
  ⟨⟨⟨fun _ => none, fun _ => none⟩, []⟩, fun caller => ((operation caller).body challengeId).run⟩

theorem ledgerStart_emptyLedger (challengeId : String) (operation : Caller → LedgerOperation) :
    LedgerStart challengeId operation (emptyLedger challengeId operation) :=
  ⟨fun _ => rfl, rfl, fun _ => rfl⟩

/-- Run the callers one call each, in the given order. -/
def inOrder [DecidableEq Caller] (config : LedgerConfig Caller) (callers : List Caller) :
    LedgerConfig Caller :=
  config.runSchedule (fun _ : Unit => handle silentNode) (callers.map fun caller => (caller, ()))

theorem reachable_inOrder [DecidableEq Caller] (config : LedgerConfig Caller)
    (callers : List Caller) : unrestricted.Reachable config (inOrder config callers) :=
  Config.reachable_runSchedule (fun _ => effect_handle silentNode) config _
    (Config.permitted_of_unrestricted (fun _ _ => trivial) config _)

def loneReserve : Unit → LedgerOperation :=
  fun _ => .reserve "digest" chargeReservationLease 1000

theorem appendOnlyChain_of_loneReserve :
    AppendOnlyChain "challenge" loneReserve
        (inOrder (emptyLedger "challenge" loneReserve) [(), (), ()]) ∧
      Granted (inOrder (emptyLedger "challenge" loneReserve) [(), (), ()]) () 0 := by
  refine ⟨(appendOnlyChain_of_rootsStayAlone (ledgerStart_emptyLedger "challenge" loneReserve)
    (.refl) (Config.reachable_runSchedule (fun _ : Unit => effect_handle silentNode) _
      [((), ()), ((), ()), ((), ())] ?_)).1, rfl⟩
  refine ⟨?_, ?_, ?_, trivial⟩
  · rintro _ record wrote
    simp [Wrote, emptyLedger] at wrote
  · intro reads
    have different : (.putIfAbsent (chargeRecordKey "challenge" 0)
        (.record (freshRecord "challenge" "digest" chargeReservationLease 1000)) : Call) =
          .get (chargeRecordKey "challenge" 1) := reads
    simp at different
  · intro _ record _
    rfl

/-- A settlement found elsewhere is recorded between a `reserve`'s write of the
root and its second look. -/
def overtakenReserve : Bool → LedgerOperation
  | false => .reserve "digest" chargeReservationLease 1000
  | true => .recordConfirmed "signature" 1000

/-- The root of a confirmed record is deleted: it was written, it is gone, and
the generation above it remains. -/
theorem overtakenReserve_drops_root :
    ∃ between reached : LedgerConfig Bool,
      LedgerStart "challenge" overtakenReserve (emptyLedger "challenge" overtakenReserve) ∧
      unrestricted.Reachable (emptyLedger "challenge" overtakenReserve) between ∧
        unrestricted.Reachable between reached ∧
          between.world.state.entries (chargeRecordKey "challenge" 0) ≠ none ∧
            reached.world.state.entries (chargeRecordKey "challenge" 0) = none ∧
              reached.world.state.entries (chargeRecordKey "challenge" 1) ≠ none := by
  refine ⟨inOrder (emptyLedger "challenge" overtakenReserve) [false, false, true, true, true],
    inOrder (inOrder (emptyLedger "challenge" overtakenReserve) [false, false, true, true, true])
      [false, false], ledgerStart_emptyLedger _ _, reachable_inOrder _ _, reachable_inOrder _ _,
    ?_, ?_, ?_⟩
  · decide +kernel
  · decide +kernel
  · decide +kernel

end PayKit.Store
