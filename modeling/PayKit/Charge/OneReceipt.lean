import PayKit.Charge.SettlementInvariant
import PayKit.Charge.VerifyBound
import PayKit.Store.ChargeSpec

/-!
# One receipt per payment

Any number of presentations of any number of challenges run `verify_bound`
over one store, while payers broadcast their own transactions. A challenge gets
at most one receipt in every run: its confirmed generation is the last one. A
transaction gets at most one receipt in every run that leaves abandoned
broadcasts undisturbed. The schedule at the end of the file presents one
transaction under two challenges and obtains two receipts for it, because
`abandon` frees the signature before the pending record.
-/

namespace PayKit.Charge

open Concurrency Store ChargeReplayStore

variable {Caller : Type}

/-- The steps of settlements and payers; with `strict`, only those that leave
abandoned broadcasts undisturbed. -/
def settling (strict : Prop) : Environment Caller Backend Call Reply where
  effect := effect
  allowed world event := strict → Undisturbed world event

section Events

variable {caller : Caller}

/-- A call that is no record write, no claim and no release of a signature, and
deletes no root. -/
def Harmless (call : Call) : Prop :=
  (∀ id ∈ challengeIds, ∀ generation record,
      call ≠ .putIfAbsent (chargeRecordKey id generation) (.record record)) ∧
    (∀ id ∈ challengeIds, call ≠ .delete (chargeRecordKey id 0)) ∧
    (∀ signature, call ≠ .putIfAbsent (consumedSignatureKey signature) (.bool true)) ∧
    (∀ signature, call ≠ .putIfEq (consumedSignatureKey signature) (some releasedMarker)
      (.bool true)) ∧
    ∀ signature, call ≠ .putIfEq (consumedSignatureKey signature) (some (.bool true))
      releasedMarker

theorem Harmless.inert {call : Call} (harmless : Harmless call) (reply : Reply call) :
    Inert (⟨caller, call, reply⟩ : LedgerEvent Caller) where
  record := ⟨fun _ id idMem generation record =>
      event_ne_of_call_ne (harmless.1 id idMem generation record),
    fun _ id idMem => event_ne_of_call_ne (harmless.2.1 id idMem)⟩
  noClaim _ signature := event_ne_of_call_ne (harmless.2.2.1 signature)
  noReclaim _ signature := event_ne_of_call_ne (harmless.2.2.2.1 signature)
  noRelease _ signature := event_ne_of_call_ne (harmless.2.2.2.2 signature)

theorem harmless_get (key : String) : Harmless (.get key) := by
  simp [Harmless]

theorem harmless_send (signature : String) : Harmless (.sendTransaction signature) := by
  simp [Harmless]

theorem harmless_status (signature : String) : Harmless (.signatureStatus signature) := by
  simp [Harmless]

theorem harmless_clientBroadcast (signature : String) : Harmless (.clientBroadcast signature) := by
  simp [Harmless]

theorem harmless_takeLegacy {key signature : String}
    (legacy : key ∈ legacyConsumedSignatureKeys signature) :
    Harmless (.putIfAbsent key (.bool true)) := by
  refine ⟨by simp, by simp, ?_, by simp, by simp⟩
  intro other same
  rw [Call.putIfAbsent.injEq] at same
  rw [same.1] at legacy
  exact consumedSignatureKey_not_mem_legacy other signature legacy

theorem harmless_deleteLegacy {key signature : String}
    (legacy : key ∈ legacyConsumedSignatureKeys signature) : Harmless (.delete key) := by
  refine ⟨by simp, ?_, by simp, by simp, by simp⟩
  intro id _ same
  rw [Call.delete.injEq] at same
  rw [same] at legacy
  exact chargeRecordKey_not_mem_legacy id signature 0 legacy

theorem inert_refused (key : String) (value : Value) :
    Inert (⟨caller, .putIfAbsent key value, false⟩ : LedgerEvent Caller) where
  record := .of_refused _ _ _ _
  noClaim _ _ := refused_ne_won
  noReclaim _ _ := event_ne_of_call_ne (by simp)
  noRelease _ _ := event_ne_of_call_ne (by simp)

theorem inert_unequal (key : String) (expected : Option Value) (value : Value) :
    Inert (⟨caller, .putIfEq key expected value, false⟩ : LedgerEvent Caller) where
  record := ⟨fun _ _ _ _ _ => event_ne_of_call_ne (by simp),
    fun _ _ _ => event_ne_of_call_ne (by simp)⟩
  noClaim _ _ := event_ne_of_call_ne (by simp)
  noReclaim _ _ same := by
    rw [Event.mk.injEq] at same
    rcases same with ⟨_, sameCall, sameReply⟩
    cases sameCall
    simp at sameReply
  noRelease _ _ same := by
    rw [Event.mk.injEq] at same
    rcases same with ⟨_, sameCall, sameReply⟩
    cases sameCall
    simp at sameReply

end Events

variable {strict : Prop} {caller : Caller} {before : LedgerWorld Caller}

theorem settlementSetting (strict : Prop) :
    LedgerSetting (settling strict) (SettlementInvariant strict : LedgerWorld Caller → Prop)
      settlementRules where
  answers := rfl
  chain _ holds := holds.chain
  read _ _ key holds :=
    holds.of_inert ((harmless_get key).inert _) (fun _ _ => rfl) fun _ => rfl
  refused _ _ key value holds :=
    holds.of_inert (inert_refused key value) (fun _ _ => rfl) fun _ => rfl

theorem SettlementInvariant.legacy {world : LedgerWorld Caller} {call : Call}
    {reply : Reply call} {key signature : String} {value : Option Value}
    (holds : SettlementInvariant strict world) (harmless : Harmless call)
    (legacy : key ∈ legacyConsumedSignatureKeys signature) :
    SettlementInvariant strict
      (world.record ⟨caller, call, reply⟩ (world.state.setEntry key value)) := by
  apply holds.of_inert (harmless.inert reply)
  · intro id generation
    apply Backend.setEntry_entries_of_ne
    rintro rfl
    exact chargeRecordKey_not_mem_legacy id signature generation legacy
  · intro other
    apply Backend.setEntry_entries_of_ne
    rintro rfl
    exact consumedSignatureKey_not_mem_legacy other signature legacy

section Signatures

variable {signature : String}

theorem safe_giveBack {keys : List String}
    (legacy : ∀ key ∈ keys, key ∈ legacyConsumedSignatureKeys signature) :
    (settling strict).Safe (SettlementInvariant strict) caller (fun _ => True)
      (fun outcome _ => outcome = .ok ()) (ConsumedSignatures.giveBack keys).run before := by
  induction keys generalizing before with
  | nil => exact fun _ _ => rfl
  | cons key keys ih =>
      intro now interference
      refine ⟨trivial, ?_⟩
      intro reply state answered _
      have isLegacy := legacy key (List.mem_cons_self ..)
      obtain rfl : state = now.state.setEntry key none := answered
      have kept : SettlementInvariant strict (now.record ⟨caller, .delete key, reply⟩
          (now.state.setEntry key none)) :=
        interference.1.legacy (harmless_deleteLegacy isLegacy) isLegacy
      exact ⟨kept, ih fun other otherMem => legacy other (List.mem_cons_of_mem _ otherMem)⟩

theorem safe_claimLedgerKey {taken : List String}
    (legacy : ∀ key ∈ taken, key ∈ legacyConsumedSignatureKeys signature) :
    (settling strict).Safe (SettlementInvariant strict) caller (fun _ => True)
      (fun outcome world => outcome = .ok true → Took world.history caller signature)
      (ConsumedSignatures.claimLedgerKey signature (.bool true) taken).run before := by
  have refused : ∀ world : LedgerWorld Caller, SettlementInvariant strict world →
      (settling strict).Safe (SettlementInvariant strict) caller (fun _ => True)
        (fun outcome later => outcome = .ok true → Took later.history caller signature)
        (do
          ConsumedSignatures.giveBack taken
          return false : StoreM Bool).run world := by
    intro world holdsNow
    apply Environment.Safe.fallible_bind holdsNow (safe_giveBack legacy)
    · intro _ later _ _ _ after _ same
      simp at same
    · intro error later _ _ same
      simp at same
  intro now interference
  refine ⟨trivial, ?_⟩
  intro reply state answered permitted
  rcases answered with ⟨absent, rfl, rfl⟩ | ⟨present, rfl, rfl⟩
  · have isClaim : SettlementInvariant.IsClaim (⟨caller, .putIfAbsent
        (consumedSignatureKey signature) (.bool true), true⟩ : LedgerEvent Caller) caller
          signature := .inl rfl
    refine ⟨interference.1.claimed isClaim (by simp [absent]) permitted, ?_⟩
    intro after further _
    have took : Took ((⟨caller, .putIfAbsent (consumedSignatureKey signature) (.bool true),
        true⟩ : LedgerEvent Caller) :: now.history) caller signature :=
      .inl (List.mem_cons_self ..)
    exact took.mono further.suffix
  · have keptFirst : SettlementInvariant strict (now.record ⟨caller, .putIfAbsent
        (consumedSignatureKey signature) (.bool true), false⟩ now.state) :=
      interference.1.of_inert (inert_refused _ _) (fun _ _ => rfl) fun _ => rfl
    refine ⟨keptFirst, ?_⟩
    intro later further
    refine ⟨trivial, ?_⟩
    intro reply state answered permitted
    rcases answered with ⟨wasReleased, rfl, rfl⟩ | ⟨_, rfl, rfl⟩
    · have isClaim : SettlementInvariant.IsClaim (⟨caller, .putIfEq
          (consumedSignatureKey signature) (some releasedMarker) (.bool true), true⟩ :
            LedgerEvent Caller) caller signature := .inr rfl
      refine ⟨further.1.claimed isClaim (by simp [wasReleased, releasedMarker]) permitted, ?_⟩
      intro after last _
      have took : Took ((⟨caller, .putIfEq (consumedSignatureKey signature)
          (some releasedMarker) (.bool true), true⟩ : LedgerEvent Caller) :: later.history) caller
            signature :=
        .inr (List.mem_cons_self ..)
      exact took.mono last.suffix
    · have keptSecond : SettlementInvariant strict (later.record ⟨caller, .putIfEq
          (consumedSignatureKey signature) (some releasedMarker) (.bool true), false⟩
            later.state) :=
        further.1.of_inert (inert_unequal _ _ _) (fun _ _ => rfl) fun _ => rfl
      exact ⟨keptSecond, refused _ keptSecond⟩

theorem safe_claimFrom {taken remaining : List String}
    (legacyTaken : ∀ key ∈ taken, key ∈ legacyConsumedSignatureKeys signature)
    (legacy : ∀ key ∈ remaining, key ∈ legacyConsumedSignatureKeys signature) :
    (settling strict).Safe (SettlementInvariant strict) caller (fun _ => True)
      (fun outcome world => outcome = .ok true → Took world.history caller signature)
      (ConsumedSignatures.claimFrom signature (.bool true) taken remaining).run before := by
  induction remaining generalizing before taken with
  | nil => exact safe_claimLedgerKey legacyTaken
  | cons key remaining ih =>
      have isLegacy := legacy key (List.mem_cons_self ..)
      intro now interference
      refine ⟨trivial, ?_⟩
      intro reply state answered _
      rcases answered with ⟨_, rfl, rfl⟩ | ⟨_, rfl, rfl⟩
      · have kept : SettlementInvariant strict (now.record ⟨caller, .putIfAbsent key (.bool true),
            true⟩ (now.state.setEntry key (some (.bool true)))) :=
          interference.1.legacy (harmless_takeLegacy isLegacy) isLegacy
        refine ⟨kept, ih ?_ fun other otherMem => legacy other (List.mem_cons_of_mem _ otherMem)⟩
        intro other otherMem
        rcases List.mem_append.mp otherMem with old | new
        · exact legacyTaken other old
        · rw [List.mem_singleton.mp new]
          exact isLegacy
      · have kept : SettlementInvariant strict (now.record ⟨caller, .putIfAbsent key (.bool true),
            false⟩ now.state) :=
          interference.1.of_inert (inert_refused _ _) (fun _ _ => rfl) fun _ => rfl
        refine ⟨kept, ?_⟩
        apply Environment.Safe.fallible_bind kept (safe_giveBack legacyTaken)
        · intro _ later _ _ _ after _ same
          simp at same
        · intro error later _ _ same
          simp at same

theorem safe_claim :
    (settling strict).Safe (SettlementInvariant strict) caller (fun _ => True)
      (fun outcome world => outcome = .ok true → Took world.history caller signature)
      (ConsumedSignatures.claim signature).run before :=
  safe_claimFrom (by simp) fun _ keyMem => keyMem

theorem safe_release (took : Took before.history caller signature)
    (kept : ¬Released before.history caller signature) :
    (settling strict).Safe (SettlementInvariant strict) caller (fun _ => True)
      (fun _ _ => True) (ConsumedSignatures.release signature).run before := by
  intro now interference
  refine ⟨trivial, ?_⟩
  intro reply state answered permitted
  have keptNow : ¬Released now.history caller signature :=
    fun released => kept (interference.mem_history_of_own rfl released)
  rcases answered with ⟨_, rfl, rfl⟩ | ⟨_, rfl, rfl⟩
  · have after := interference.1.released ⟨took.mono interference.suffix, keptNow⟩ permitted
    refine ⟨after, ?_⟩
    apply Environment.Safe.fallible_bind after (safe_giveBack fun _ keyMem => keyMem)
    · exact fun _ _ _ _ _ _ _ => trivial
    · exact fun _ _ _ _ _ _ _ => trivial
  · refine ⟨?_, fun _ _ => trivial⟩
    exact interference.1.of_inert (inert_unequal _ _ _) (fun _ _ => rfl) fun _ => rfl

theorem uses_claim {quiet : Call → Prop} (takes : ∀ key, quiet (.putIfAbsent key (.bool true)))
    (retakes : ∀ key, quiet (.putIfEq key (some releasedMarker) (.bool true)))
    (deletes : ∀ key, quiet (.delete key)) :
    (ConsumedSignatures.claim signature).run.Uses quiet := by
  have usesGiveBack : ∀ keys, (ConsumedSignatures.giveBack keys).run.Uses quiet := by
    intro keys
    induction keys with
    | nil => exact trivial
    | cons key keys ih => exact ⟨deletes key, fun _ => ih⟩
  have usesRefused : ∀ keys, (do
      ConsumedSignatures.giveBack keys
      return false : StoreM Bool).run.Uses quiet :=
    fun keys => Fallible.uses_bind (usesGiveBack keys) fun _ => trivial
  have usesFrom : ∀ remaining taken,
      (ConsumedSignatures.claimFrom signature (.bool true) taken remaining).run.Uses quiet := by
    intro remaining
    induction remaining with
    | nil =>
        intro taken
        refine ⟨takes _, fun won => ?_⟩
        cases won with
        | true => exact trivial
        | false =>
            refine ⟨retakes _, fun rewon => ?_⟩
            cases rewon with
            | true => exact trivial
            | false => exact usesRefused taken
    | cons key remaining ih =>
        intro taken
        refine ⟨takes _, fun won => ?_⟩
        cases won with
        | true => exact ih _
        | false => exact usesRefused taken
  exact usesFrom _ _

end Signatures

theorem safe_attempt_bind {First Second : Type} {operation : StoreM First}
    {rest : Except StoreError First → VerifyM Second}
    {middle : Except StoreError First → LedgerWorld Caller → Prop}
    {post : Except VerificationError Second → LedgerWorld Caller → Prop}
    (holds : SettlementInvariant strict before)
    (first : (settling strict).Safe (SettlementInvariant strict) caller (fun _ => True) middle
      operation.run before)
    (second : ∀ outcome world, SettlementInvariant strict world →
      before.history <:+ world.history → middle outcome world →
        (settling strict).Safe (SettlementInvariant strict) caller (fun _ => True) post
          (rest outcome).run world) :
    (settling strict).Safe (SettlementInvariant strict) caller (fun _ => True) post
      (attempt operation >>= rest).run before := by
  have unfolded : (attempt operation >>= rest).run =
      operation.run >>= fun outcome => (rest outcome).run := by
    rw [attempt, ExceptT.run_bind, ExceptT.run_lift, bind_map_left]
  rw [unfolded]
  exact first.bind holds second

theorem safe_storing {Result : Type} {operation : StoreM Result}
    {middle : Except StoreError Result → LedgerWorld Caller → Prop}
    (holds : SettlementInvariant strict before)
    (first : (settling strict).Safe (SettlementInvariant strict) caller (fun _ => True) middle
      operation.run before)
    (stable : ∀ result before after,
      Interferes (SettlementInvariant strict) caller before after →
        middle (.ok result) before → middle (.ok result) after) :
    (settling strict).Safe (SettlementInvariant strict) caller (fun _ => True)
      (fun outcome world => ∀ result, outcome = .ok result → middle (.ok result) world)
      (storing operation).run before := by
  apply safe_attempt_bind holds first
  intro outcome world _ _ reached
  cases outcome with
  | ok result =>
      intro after further found same
      obtain rfl : result = found := by simpa using same
      exact stable result world after further reached
  | error error =>
      intro after further found same
      simp at same

theorem safe_harmless_bind {call : Call} {Result : Type} {rest : Reply call → VerifyM Result}
    {post : Except VerificationError Result → LedgerWorld Caller → Prop}
    (harmless : Harmless call)
    (unchanged : ∀ backend reply after, effect call backend reply after →
      after.entries = backend.entries)
    (next : ∀ reply world, SettlementInvariant strict world →
      Environment.QuietSince (· = call) caller before world →
        (settling strict).Safe (SettlementInvariant strict) caller (fun _ => True) post
          (rest reply).run world) :
    (settling strict).Safe (SettlementInvariant strict) caller (fun _ => True) post
      (Fallible.request call >>= rest).run before := by
  rw [Fallible.run_request_bind]
  intro now interference
  refine ⟨trivial, ?_⟩
  intro reply state answered _
  have sameEntries := unchanged _ _ _ answered
  have kept : SettlementInvariant strict (now.record ⟨caller, call, reply⟩ state) :=
    interference.1.of_inert (harmless.inert reply) (fun _ _ => by rw [sameEntries])
      fun _ => by rw [sameEntries]
  refine ⟨kept, next reply _ kept ?_⟩
  rcases interference with ⟨_, events, history, others⟩
  refine ⟨⟨caller, call, reply⟩ :: events, ?_, ?_⟩
  · rw [World.record_history, history, List.cons_append]
  · intro event eventMem own
    rcases List.mem_cons.mp eventMem with rfl | old
    · rfl
    · exact absurd own (others event old)

theorem SettlementInvariant.append {writer : Caller} {world : LedgerWorld Caller} {id : String}
    {generation : ℕ} {previous record : ChargeRecord} (holds : SettlementInvariant strict world)
    (idMem : id ∈ challengeIds) (wrote : Wrote world.history writer id generation previous)
    (follows : MayFollow previous record) (noBroadcast : record.state ≠ .pending)
    (absent : world.state.entries (chargeRecordKey id (generation + 1)) = none)
    (undisturbed : strict → Undisturbed world
      ⟨caller, .putIfAbsent (chargeRecordKey id (generation + 1)) (.record record), true⟩) :
    SettlementInvariant strict (world.record
      ⟨caller, .putIfAbsent (chargeRecordKey id (generation + 1)) (.record record), true⟩
      (world.state.setEntry (chargeRecordKey id (generation + 1)) (some (.record record)))) :=
  holds.recorded idMem (holds.chain.append idMem wrote follows absent) absent
    (fun pending => absurd pending noBroadcast) undisturbed

/-- A receipt was earned by writing the confirmed generation of its challenge. -/
def Answered (caller : Caller) (presentation : Presentation)
    (outcome : Except VerificationError Receipt) (world : LedgerWorld Caller) : Prop :=
  ∀ receipt, outcome = .ok receipt → receipt.challengeId = presentation.challengeId ∧
    ∃ generation record,
      Wrote world.history caller presentation.challengeId (generation + 1) record ∧
        record.state = .confirmed ∧ record.finalSignature = some receipt.reference

section Presentations

variable {presentation : Presentation}

theorem safe_refused {error : VerificationError} :
    (settling strict).Safe (SettlementInvariant strict) caller (fun _ => True)
      (Answered caller presentation) (throw error : VerifyM Receipt).run before := by
  intro after _ receipt same
  simp at same

theorem safe_refuse {generation : ℕ} {error : VerificationError}
    (idMem : presentation.challengeId ∈ challengeIds)
    (holds : SettlementInvariant strict before) :
    (settling strict).Safe (SettlementInvariant strict) caller (fun _ => True)
      (Answered caller presentation) (presentation.refuse generation error).run before := by
  apply safe_attempt_bind holds (safe_advance (settlementSetting strict) (Steady.trivial _ _) idMem
    holds trivial ?_)
  · intro _ _ _ _ _
    exact safe_refused
  · intro world writer record holdsNow _ _ wrote isReady absent permitted
    have unresolved : record.state = .reserved ∨ record.state = .pending := by
      simpa using isReady
    exact holdsNow.append idMem wrote unresolved (by simp [terminal]) absent permitted

theorem safe_confirming {generation : ℕ} {signature : String} {now : Int}
    {ready : ChargeRecord → Bool} {rest : Except StoreError Bool → VerifyM Receipt}
    (idMem : presentation.challengeId ∈ challengeIds)
    (holds : SettlementInvariant strict before)
    (pending : ∀ world writer record, SettlementInvariant strict world →
      before.history <:+ world.history →
      Wrote world.history writer presentation.challengeId generation record →
        ready record = true → isPendingFor signature record = true)
    (granted : rest (.ok true) = return .success signature presentation.challengeId)
    (otherwise : ∀ outcome, outcome ≠ .ok true → ∃ error, rest outcome = throw error) :
    (settling strict).Safe (SettlementInvariant strict) caller (fun _ => True)
      (Answered caller presentation)
      (attempt (advance presentation.challengeId generation ready
        (fun record => terminal record .confirmed (some signature) none now)) >>= rest).run
      before := by
  apply safe_attempt_bind holds (safe_advance (settlementSetting strict) (Steady.trivial _ _) idMem
    holds trivial ?_)
  · intro outcome world holdsNow suffix reached
    rcases reached with ⟨rfl, writer, record, wrote, isReady, wroteConfirmed⟩ | ⟨lost, _⟩
    · rw [granted]
      intro after further receipt same
      obtain rfl : Receipt.success signature presentation.challengeId = receipt := by
        simpa using same
      exact ⟨rfl, generation, _, wroteConfirmed.mono further.suffix, rfl, rfl⟩
    · rcases otherwise outcome lost with ⟨error, refuses⟩
      rw [refuses]
      exact safe_refused
  · intro world writer record holdsNow suffix _ wrote isReady absent permitted
    have isPending : record.state = .pending ∧ record.finalSignature = some signature := by
      simpa [isPendingFor] using pending world writer record holdsNow suffix wrote isReady
    refine holdsNow.append idMem wrote ⟨isPending.1, ?_⟩ (by simp [terminal]) absent permitted
    rw [isPending.2]
    rfl

theorem safe_reconcilePendingCharge {parseSignature : String → Except String Unit}
    {generation : ℕ} {signature : String} (idMem : presentation.challengeId ∈ challengeIds) :
    (settling strict).Safe (SettlementInvariant strict) caller (fun _ => True)
      (Answered caller presentation)
      (presentation.reconcilePendingCharge parseSignature generation signature).run before := by
  unfold Presentation.reconcilePendingCharge
  cases parseSignature signature with
  | error error => exact safe_refused
  | ok _ =>
      apply safe_harmless_bind (harmless_status signature)
      · intro backend reply after answered
        rw [answered.1]
      · intro reply world holds _
        rcases reply with error | (_ | (_ | error))
        · exact safe_refused
        · exact safe_refused
        · refine safe_confirming idMem holds ?_ rfl ?_
          · intro _ _ _ _ _ _ isReady
            exact isReady
          · intro outcome lost
            rcases outcome with error | (_ | _)
            · exact ⟨_, rfl⟩
            · exact ⟨_, rfl⟩
            · exact absurd rfl lost
        · exact safe_refuse idMem holds

/-- Before its broadcast is recorded, a presentation released no signature of
its own and recorded no other broadcast. -/
def Prepared (caller : Caller) (signature : String) (world : LedgerWorld Caller) : Prop :=
  ¬Released world.history caller signature ∧ ∀ id ∈ challengeIds, ∀ generation record,
    Wrote world.history caller id generation record → record.state ≠ .pending

/-- A call that neither releases a signature nor records a broadcast. -/
def Preparing (call : Call) : Prop :=
  (∀ key, call ≠ .putIfEq key (some (.bool true)) releasedMarker) ∧
    ∀ key record, call = .putIfAbsent key (.record record) → record.state ≠ .pending

theorem Prepared.since {signature : String} {after : LedgerWorld Caller}
    (prepared : Prepared caller signature before)
    (since : Environment.QuietSince Preparing caller before after) :
    Prepared caller signature after := by
  refine ⟨?_, ?_⟩
  · intro released
    exact prepared.1 (since.mem_before rfl (fun quiet => quiet.1 _ rfl) released)
  · intro id idMem generation record wrote isPending
    exact prepared.2 id idMem generation record
      (since.mem_before rfl (fun quiet => quiet.2 _ _ rfl isPending) wrote) isPending

theorem Prepared.interfere {signature : String} {after : LedgerWorld Caller}
    (prepared : Prepared caller signature before)
    (interference : Interferes (SettlementInvariant strict) caller before after) :
    Prepared caller signature after :=
  ⟨fun released => prepared.1 (interference.mem_history_of_own rfl released),
    fun id idMem generation record wrote =>
      prepared.2 id idMem generation record (interference.mem_history_of_own rfl wrote)⟩

/-- A presentation that took its signature and is about to record its broadcast. -/
def Equipped (caller : Caller) (signature : String) (world : LedgerWorld Caller) : Prop :=
  Took world.history caller signature ∧ Prepared caller signature world

theorem SettlementInvariant.broadcast {writer : Caller} {world : LedgerWorld Caller} {id : String}
    {generation : ℕ} {previous record : ChargeRecord} {signature : String}
    (holds : SettlementInvariant strict world) (idMem : id ∈ challengeIds)
    (wrote : Wrote world.history writer id generation previous)
    (isReserved : previous.state = .reserved) (isPending : isPendingFor signature record = true)
    (equipped : Equipped caller signature world)
    (absent : world.state.entries (chargeRecordKey id (generation + 1)) = none)
    (undisturbed : strict → Undisturbed world
      ⟨caller, .putIfAbsent (chargeRecordKey id (generation + 1)) (.record record), true⟩) :
    SettlementInvariant strict (world.record
      ⟨caller, .putIfAbsent (chargeRecordKey id (generation + 1)) (.record record), true⟩
      (world.state.setEntry (chargeRecordKey id (generation + 1)) (some (.record record)))) := by
  have pendingNow : record.state = .pending ∧ record.finalSignature = some signature := by
    simpa [isPendingFor] using isPending
  have follows : MayFollow previous record := by
    simpa only [MayFollow, pendingNow.1] using isReserved
  refine holds.recorded idMem (holds.chain.append idMem wrote follows absent) absent ?_ undisturbed
  intro _
  refine ⟨equipped.2.2, ?_⟩
  intro other same
  obtain rfl : signature = other := by simpa [pendingNow.2] using same
  exact ⟨equipped.1, equipped.2.1⟩

theorem steady_prepared (strict : Prop) (caller : Caller) (signature : String) :
    Steady (SettlementInvariant strict) caller (Prepared caller signature) := by
  constructor
  · intro before after interference prepared
    exact prepared.interfere interference
  · intro world key reply prepared
    exact prepared.since ⟨[_], rfl, by simp [Preparing]⟩
  · intro world key value prepared
    refine ⟨?_, ?_⟩
    · intro released
      exact prepared.1 ((mem_cons_of_ne (event_ne_of_call_ne (by simp))).mp released)
    · intro id idMem generation record wrote
      exact prepared.2 id idMem generation record ((mem_cons_of_ne refused_ne_won).mp wrote)

theorem steady_equipped (strict : Prop) (caller : Caller) (signature : String) :
    Steady (SettlementInvariant strict) caller (Equipped caller signature) := by
  have prepared := steady_prepared strict caller signature
  constructor
  · intro before after interference equipped
    exact ⟨equipped.1.mono interference.suffix, prepared.interfere _ _ interference equipped.2⟩
  · intro world key reply equipped
    exact ⟨equipped.1.mono (List.suffix_cons _ _), prepared.read _ _ _ equipped.2⟩
  · intro world key value equipped
    exact ⟨equipped.1.mono (List.suffix_cons _ _), prepared.refused _ _ _ equipped.2⟩

/-- A presentation whose broadcast is recorded and whose signature it holds. -/
def Broadcasting (caller : Caller) (presentation : Presentation) (generation : ℕ)
    (world : LedgerWorld Caller) : Prop :=
  (∃ record, Wrote world.history caller presentation.challengeId (generation + 1) record ∧
    isPendingFor presentation.signature record = true) ∧
      Took world.history caller presentation.signature ∧
        ¬Released world.history caller presentation.signature

theorem Broadcasting.since {generation : ℕ} {after : LedgerWorld Caller} {quiet : Call → Prop}
    (broadcasting : Broadcasting caller presentation generation before)
    (since : Environment.QuietSince quiet caller before after)
    (noRelease : ∀ key, ¬quiet (.putIfEq key (some (.bool true)) releasedMarker)) :
    Broadcasting caller presentation generation after := by
  rcases broadcasting with ⟨⟨record, wrote, isPending⟩, took, kept⟩
  have suffix : before.history <:+ after.history := by
    rcases since with ⟨events, history, _⟩
    exact ⟨events, history.symm⟩
  refine ⟨⟨record, wrote.mono suffix, isPending⟩, took.mono suffix, ?_⟩
  exact fun released => kept (since.mem_before rfl (noRelease _) released)

theorem preparing_claim {signature : String} :
    (ConsumedSignatures.claim signature).run.Uses Preparing := by
  apply uses_claim
  · intro key
    simp [Preparing]
  · intro key
    simp [Preparing, releasedMarker]
  · intro key
    simp [Preparing]

theorem safe_consumeSignature (holds : SettlementInvariant strict before)
    (prepared : Prepared caller presentation.signature before) :
    (settling strict).Safe (SettlementInvariant strict) caller (fun _ => True)
      (fun outcome world => outcome = .ok () → Equipped caller presentation.signature world)
      presentation.consumeSignature.run before := by
  apply Environment.Safe.fallible_bind holds
    (safe_storing holds (safe_claim.frame preparing_claim) ?_)
  · intro won world _ _ reached
    cases won with
    | true =>
        rcases reached true rfl with ⟨took, since⟩
        intro after further _
        exact ⟨(took rfl).mono further.suffix, (prepared.since since).interfere further⟩
    | false =>
        intro after further same
        simp at same
  · intro error world _ _ _ after further same
    simp at same
  · intro won first last interference reached
    refine ⟨?_, reached.2.interfere interference⟩
    intro same
    exact (reached.1 same).mono interference.suffix

theorem safe_markPending {generation : ℕ} {now : Int}
    (idMem : presentation.challengeId ∈ challengeIds)
    (holds : SettlementInvariant strict before)
    (equipped : Equipped caller presentation.signature before) :
    (settling strict).Safe (SettlementInvariant strict) caller (fun _ => True)
      (fun outcome world =>
        (outcome = .ok true ∧ Broadcasting caller presentation generation world) ∨
          (outcome ≠ .ok true ∧ Equipped caller presentation.signature world))
      (markPending presentation.challengeId generation presentation.signature now).run before := by
  have quietly : (markPending presentation.challengeId generation presentation.signature
      now).run.Uses fun call => ∀ key, call ≠ .putIfEq key (some (.bool true)) releasedMarker :=
    uses_advance (by simp) (by simp)
  refine Environment.Safe.weaken (Environment.Safe.frame (Environment.Safe.weaken_running
    (safe_advance (settlementSetting strict)
      (steady_equipped strict caller presentation.signature) idMem holds equipped ?_)
    fun _ _ => trivial) quietly) ?_
  · intro world writer record holdsNow _ equippedNow wrote isReady absent permitted
    have isReserved : record.state = .reserved := by simpa using isReady
    exact holdsNow.broadcast idMem wrote isReserved (by simp [isPendingFor, terminal]) equippedNow
      absent permitted
  · rintro outcome world _ suffix ⟨⟨rfl, writer, record, _, _, wrote⟩ | ⟨lost, equippedNow⟩, since⟩
    · refine .inl ⟨rfl, ⟨_, wrote, by simp [isPendingFor, terminal]⟩, equipped.1.mono suffix, ?_⟩
      exact fun released => equipped.2.1 (since.mem_before rfl (by simp) released)
    · exact .inr ⟨lost, equippedNow⟩

theorem safe_releaseSignature {rest : Unit → VerifyM ℕ}
    {post : Except VerificationError ℕ → LedgerWorld Caller → Prop}
    (holds : SettlementInvariant strict before)
    (took : Took before.history caller presentation.signature)
    (kept : ¬Released before.history caller presentation.signature)
    (next : ∀ world, SettlementInvariant strict world → before.history <:+ world.history →
      (settling strict).Safe (SettlementInvariant strict) caller (fun _ => True) post
        (rest ()).run world) :
    (settling strict).Safe (SettlementInvariant strict) caller (fun _ => True) post
      (presentation.releaseSignature >>= rest).run before := by
  have releases : (settling strict).Safe (SettlementInvariant strict) caller (fun _ => True)
      (fun outcome _ => outcome = .ok ()) presentation.releaseSignature.run before := by
    apply safe_attempt_bind holds (safe_release took kept)
    exact fun _ _ _ _ _ _ _ => rfl
  apply Environment.Safe.fallible_bind holds releases
  · intro _ world holdsNow suffix _
    exact next world holdsNow suffix
  · intro error world _ _ same
    simp at same

theorem safe_beginBroadcast {generation : ℕ} (idMem : presentation.challengeId ∈ challengeIds)
    (holds : SettlementInvariant strict before)
    (prepared : Prepared caller presentation.signature before) :
    (settling strict).Safe (SettlementInvariant strict) caller (fun _ => True)
      (fun outcome world => ∀ pending, outcome = .ok pending →
        pending = generation + 1 ∧ Broadcasting caller presentation generation world)
      (presentation.beginBroadcast generation).run before := by
  have refused : ∀ {error : VerificationError} {world : LedgerWorld Caller},
      (settling strict).Safe (SettlementInvariant strict) caller (fun _ => True)
        (fun outcome later => ∀ pending, outcome = .ok pending →
          pending = generation + 1 ∧ Broadcasting caller presentation generation later)
        (throw error : VerifyM ℕ).run world := by
    intro error world after _ pending same
    simp at same
  apply Environment.Safe.fallible_bind holds (safe_consumeSignature holds prepared)
  · intro _ world holdsNow _ reached
    apply safe_attempt_bind holdsNow (safe_markPending idMem holdsNow (reached rfl))
    intro outcome later holdsLater _ recorded
    rcases recorded with ⟨rfl, broadcasting⟩ | ⟨lost, equipped⟩
    · intro after further pending same
      obtain rfl : generation + 1 = pending := by simpa using same
      refine ⟨rfl, ?_⟩
      rcases broadcasting with ⟨⟨record, wrote, isPending⟩, took, kept⟩
      exact ⟨⟨record, wrote.mono further.suffix, isPending⟩, took.mono further.suffix,
        fun released => kept (further.mem_history_of_own rfl released)⟩
    · rcases outcome with error | (_ | _)
      · exact refused
      · exact safe_releaseSignature holdsLater equipped.1 equipped.2.1 fun _ _ _ => refused
      · exact absurd rfl lost
  · intro error world _ _ _
    exact refused

theorem SettlementInvariant.record_unique {left right : Caller} {world : LedgerWorld Caller}
    {id : String} {generation : ℕ} {leftRecord rightRecord : ChargeRecord}
    (holds : SettlementInvariant strict world) (idMem : id ∈ challengeIds)
    (wroteLeft : Wrote world.history left id (generation + 1) leftRecord)
    (wroteRight : Wrote world.history right id (generation + 1) rightRecord) :
    leftRecord = rightRecord := by
  have leftEntry := holds.chain.current left id idMem generation leftRecord wroteLeft
  have rightEntry := holds.chain.current right id idMem generation rightRecord wroteRight
  simpa using leftEntry.symm.trans rightEntry

theorem safe_concludeConfirmed {generation : ℕ} (idMem : presentation.challengeId ∈ challengeIds)
    (holds : SettlementInvariant strict before)
    (broadcasting : Broadcasting caller presentation generation before) :
    (settling strict).Safe (SettlementInvariant strict) caller (fun _ => True)
      (Answered caller presentation) (presentation.concludeConfirmed (generation + 1)).run
      before := by
  refine safe_confirming idMem holds ?_ rfl ?_
  · intro world writer record holdsNow suffix wrote _
    rcases broadcasting.1 with ⟨own, wroteOwn, isPending⟩
    rw [holdsNow.record_unique idMem wrote (wroteOwn.mono suffix)]
    exact isPending
  · intro outcome lost
    rcases outcome with error | (_ | _)
    · exact ⟨_, rfl⟩
    · exact ⟨_, rfl⟩
    · exact absurd rfl lost

theorem safe_abandon {generation : ℕ} (idMem : presentation.challengeId ∈ challengeIds)
    (holds : SettlementInvariant strict before)
    (took : Took before.history caller presentation.signature)
    (kept : ¬Released before.history caller presentation.signature) :
    (settling strict).Safe (SettlementInvariant strict) caller (fun _ => True)
      (fun _ _ => True) (presentation.abandon generation).run before := by
  apply safe_releaseSignature holds took kept
  intro world holdsNow _
  apply safe_attempt_bind holdsNow (safe_advance (settlementSetting strict) (Steady.trivial _ _)
    idMem holdsNow trivial ?_)
  · intro outcome _ _ _ _
    rcases outcome with error | (_ | _)
    · exact fun _ _ => trivial
    · exact fun _ _ => trivial
    · exact fun _ _ => trivial
  · intro later writer record holdsLater _ _ wrote isReady absent permitted
    have isPending : record.state = .pending ∧
        record.finalSignature = some presentation.signature := by
      simpa [isPendingFor] using isReady
    exact holdsLater.append idMem wrote (.inr isPending.1) (by simp) absent permitted

theorem safe_sendAndConclude {generation : ℕ} (idMem : presentation.challengeId ∈ challengeIds)
    (broadcasting : Broadcasting caller presentation generation before) :
    (settling strict).Safe (SettlementInvariant strict) caller (fun _ => True)
      (Answered caller presentation) (presentation.sendAndConclude (generation + 1)).run
      before := by
  apply safe_harmless_bind (harmless_send presentation.signature)
  · intro backend reply after answered
    cases reply with
    | landed outcome => rw [answered.1, Backend.land_entries]
    | preflightRejected error => rw [show after = backend from answered]
    | unknown error => rcases answered with rfl | ⟨outcome, rfl⟩ <;> rfl
  · intro reply world holds since
    have broadcastingNow := broadcasting.since since (by simp)
    rcases reply with (_ | error) | error | error
    · exact safe_concludeConfirmed idMem holds broadcastingNow
    · exact safe_refuse idMem holds
    · apply Environment.Safe.fallible_bind holds
        (safe_abandon idMem holds broadcastingNow.2.1 broadcastingNow.2.2)
      · intro current later holdsLater _ _
        exact safe_refuse idMem holdsLater
      · intro failure later _ _ _
        exact safe_refused
    · exact safe_refused

theorem safe_settle {generation : ℕ} (idMem : presentation.challengeId ∈ challengeIds)
    (holds : SettlementInvariant strict before)
    (prepared : Prepared caller presentation.signature before) :
    (settling strict).Safe (SettlementInvariant strict) caller (fun _ => True)
      (Answered caller presentation) (presentation.settle generation).run before := by
  unfold Presentation.settle
  cases presentation.sendable with
  | error error => exact safe_refuse idMem holds
  | ok _ =>
      simp only
      rw [ExceptT.run_bind, ExceptT.run_lift, bind_map_left]
      apply (safe_beginBroadcast idMem holds prepared).bind holds
      intro outcome world holdsNow _ reached
      cases outcome with
      | error error => exact safe_refuse idMem holdsNow
      | ok pending =>
          rcases reached pending rfl with ⟨rfl, broadcasting⟩
          exact safe_sendAndConclude idMem broadcasting

/-- The root's writer reads on and deletes the root if it finds a later
generation, which then stays. -/
theorem safe_recheckRoot {id digest : String} {fresh : ChargeRecord} (idMem : id ∈ challengeIds)
    (wrote : Wrote before.history caller id 0 fresh) :
    (settling strict).Safe (SettlementInvariant strict) caller (fun _ => True)
      (Reserves (fun _ => True) caller id digest fresh) (recheckRoot id).run before := by
  unfold recheckRoot ChargeReplayStore.read
  rw [bind_assoc]
  apply safe_get_bind (settlementSetting strict) (Steady.trivial _ _) trivial
  intro now interference _ _
  cases entry : now.state.entries (chargeRecordKey id 1) with
  | none =>
      intro after further
      have granted := wrote.mono interference.suffix
      exact .inl ⟨rfl, granted.mono ((List.suffix_cons _ _).trans further.suffix)⟩
  | some value =>
      rcases interference.1.chain.written id idMem 1 value entry with ⟨writer, next, rfl, wroteNext⟩
      intro later further
      refine ⟨trivial, ?_⟩
      intro reply state answered _
      obtain rfl : state = later.state.setEntry (chargeRecordKey id 0) none := answered
      have wroteLater := wroteNext.mono ((List.suffix_cons _ _).trans further.suffix)
      have present := further.1.chain.current writer id idMem 0 next wroteLater
      refine ⟨further.1.dropRoot idMem (by simp [present]), ?_⟩
      exact fun _ _ => .inr (.inr ⟨trivial, trivial⟩)

theorem safe_reserve_prepared {digest : String} {lease : UInt64} {now : Int}
    (idMem : presentation.challengeId ∈ challengeIds)
    (holds : SettlementInvariant strict before)
    (prepared : Prepared caller presentation.signature before) :
    (settling strict).Safe (SettlementInvariant strict) caller (fun _ => True)
      (fun _ world => Prepared caller presentation.signature world)
      (reserve presentation.challengeId digest lease now).run before := by
  have quietly : (reserve presentation.challengeId digest lease now).run.Uses Preparing := by
    apply uses_reserve
    · intro key
      simp [Preparing]
    · intro key
      simp [Preparing]
    · intro key
      refine ⟨by simp, ?_⟩
      intro other record same
      rw [Call.putIfAbsent.injEq, Value.record.injEq] at same
      rw [← same.2]
      simp [freshRecord]
  refine Environment.Safe.weaken (Environment.Safe.frame (safe_reserve (settlementSetting strict)
    (Steady.trivial _ _) idMem holds trivial ?_ ?_ ?_) quietly) ?_
  · intro world holdsNow _ _ absent permitted
    exact holdsNow.recorded idMem (holdsNow.chain.openRoot idMem rfl absent) absent
      (by simp [freshRecord]) permitted
  · intro world _ _ wrote
    exact safe_recheckRoot idMem wrote
  · intro world writer generation record holdsNow _ _ wrote isReserved _ absent permitted
    exact holdsNow.append idMem wrote (.inl isReserved) (by simp [freshRecord]) absent permitted
  · intro outcome world _ _ reached
    exact prepared.since reached.2

theorem safe_reserveAndSettle {parseSignature : String → Except String Unit}
    (idMem : presentation.challengeId ∈ challengeIds)
    (holds : SettlementInvariant strict before)
    (prepared : Prepared caller presentation.signature before) :
    (settling strict).Safe (SettlementInvariant strict) caller (fun _ => True)
      (Answered caller presentation) (presentation.reserveAndSettle parseSignature).run
      before := by
  apply Environment.Safe.fallible_bind holds
    (safe_storing holds (safe_reserve_prepared idMem holds prepared) ?_)
  · intro reservation world holdsNow _ reached
    cases reservation with
    | reserved generation => exact safe_settle idMem holdsNow (reached _ rfl)
    | pendingConfirmation generation signature => exact safe_reconcilePendingCharge idMem
    | _ => exact safe_refused
  · intro error world _ _ _
    exact safe_refused
  · intro _ _ _ interference preparedThen
    exact preparedThen.interfere interference

theorem safe_pending {digest : String} (idMem : presentation.challengeId ∈ challengeIds)
    (holds : SettlementInvariant strict before)
    (prepared : Prepared caller presentation.signature before) :
    (settling strict).Safe (SettlementInvariant strict) caller (fun _ => True)
      (fun _ world => Prepared caller presentation.signature world)
      (pending presentation.challengeId digest).run before := by
  refine Environment.Safe.weaken_running (Environment.Safe.fallible_bind holds
    (safe_tip (settlementSetting strict) (steady_prepared strict caller presentation.signature)
      idMem holds prepared) ?_ ?_) fun _ _ => trivial
  · intro found world _ _ reached
    rcases found with _ | ⟨generation, record⟩
    · exact fun _ interference => reached.1.interfere interference
    · simp only
      split
      · exact fun _ interference => reached.1.interfere interference
      · exact fun _ interference => reached.1.interfere interference
  · intro error world _ _ reached
    exact fun _ interference => reached.1.interfere interference

theorem safe_expiredPendingCharge (idMem : presentation.challengeId ∈ challengeIds)
    (holds : SettlementInvariant strict before)
    (prepared : Prepared caller presentation.signature before) :
    (settling strict).Safe (SettlementInvariant strict) caller (fun _ => True)
      (fun outcome world => ∀ found, outcome = .ok found →
        Prepared caller presentation.signature world)
      presentation.expiredPendingCharge.run before := by
  unfold Presentation.expiredPendingCharge
  cases presentation.expired with
  | none => exact fun _ interference _ _ => prepared.interfere interference
  | some expires =>
      apply Environment.Safe.fallible_bind holds
        (safe_storing holds (safe_pending idMem holds prepared) ?_)
      · intro found world holdsNow _ reached
        cases found with
        | none =>
            intro after _ other same
            simp at same
        | some found => exact fun _ interference _ _ => (reached _ rfl).interfere interference
      · intro error world _ _ _ after _ found same
        simp at same
      · intro _ _ _ interference preparedThen
        exact preparedThen.interfere interference

theorem safe_verifyBound {parseSignature : String → Except String Unit}
    (idMem : presentation.challengeId ∈ challengeIds)
    (holds : SettlementInvariant strict before)
    (prepared : Prepared caller presentation.signature before) :
    (settling strict).Safe (SettlementInvariant strict) caller (fun _ => True)
      (Answered caller presentation) (presentation.verifyBound parseSignature).run before := by
  unfold Presentation.verifyBound
  apply Environment.Safe.fallible_bind holds (safe_expiredPendingCharge idMem holds prepared)
  · intro expiredPending world holdsNow _ reached
    cases admitted : presentation.admitted with
    | error error => exact safe_refused
    | ok _ =>
        rcases expiredPending with _ | ⟨generation, signature⟩
        · exact safe_reserveAndSettle idMem holdsNow (reached _ rfl)
        · exact safe_reconcilePendingCharge idMem
  · intro error world _ _ _
    exact safe_refused

end Presentations

/-- Who acts on the store and the chain: presentations of credentials, and
payers that broadcast their transaction themselves. -/
inductive Participant where
  | presents (presentation : Presentation)
  | broadcasts (signature : String)

inductive ParticipantResult where
  | answered (outcome : Except VerificationError Receipt)
  | sent

def Participant.program (parseSignature : String → Except String Unit) :
    Participant → Program Call Reply ParticipantResult
  | .presents presentation => do
      let outcome ← (presentation.verifyBound parseSignature).run
      return .answered outcome
  | .broadcasts signature => do
      let _ ← Program.request (Call.clientBroadcast signature)
      return .sent

abbrev SettlementConfig (Caller : Type) :=
  Config Caller Backend Call Reply ParticipantResult

/-- Every participant is about to act, on challenges without a record. -/
structure SettlementStart (parseSignature : String → Except String Unit)
    (participant : Caller → Participant) (start : SettlementConfig Caller) : Prop where
  unrecorded : ∀ id ∈ challengeIds, ∀ generation,
    start.world.state.entries (chargeRecordKey id generation) = none
  unused : start.world.history = []
  ready : ∀ caller, start.threads caller = (participant caller).program parseSignature
  issued : ∀ caller presentation, participant caller = .presents presentation →
    presentation.challengeId ∈ challengeIds

/-- The receipt a participant was given. -/
def receiptOf (config : SettlementConfig Caller) (caller : Caller) : Option Receipt :=
  match config.threads caller with
  | .done (.answered (.ok receipt)) => some receipt
  | _ => none

theorem SettlementStart.invariant {parseSignature : String → Except String Unit}
    {participant : Caller → Participant} {start : SettlementConfig Caller}
    (starts : SettlementStart parseSignature participant start) :
    SettlementInvariant strict start.world := by
  have nothing : ∀ {caller id generation record},
      ¬Wrote start.world.history caller id generation record := by
    simp [Wrote, starts.unused]
  have unheld : ∀ {caller signature}, ¬Holding start.world.history caller signature := by
    simp [Holding, Took, starts.unused]
  constructor
  · exact .initial starts.unused starts.unrecorded
  · intro caller signature holding
    exact absurd holding unheld
  · intro left right signature holding
    exact absurd holding unheld
  · intro caller left _ right _ leftGeneration rightGeneration leftRecord rightRecord wrote
    exact absurd wrote nothing
  · intro _ caller id _ generation record signature wrote
    exact absurd wrote nothing

def Achieved (caller : Caller) (participant : Participant) (result : ParticipantResult)
    (world : LedgerWorld Caller) : Prop :=
  ∀ receipt, result = .answered (.ok receipt) → ∃ presentation,
    participant = .presents presentation ∧ Answered caller presentation (.ok receipt) world

theorem safe_program {parseSignature : String → Except String Unit} {participant : Participant}
    (issued : ∀ presentation, participant = .presents presentation →
      presentation.challengeId ∈ challengeIds)
    (holds : SettlementInvariant strict before)
    (fresh : ∀ signature, Prepared caller signature before) :
    (settling strict).Safe (SettlementInvariant strict) caller (fun _ => True)
      (Achieved caller participant) (participant.program parseSignature) before := by
  cases participant with
  | presents presentation =>
      apply (safe_verifyBound (issued presentation rfl) holds (fresh _)).bind holds
      intro outcome world _ _ answered after further receipt same
      obtain rfl : outcome = .ok receipt := by simpa using same
      refine ⟨presentation, rfl, ?_⟩
      intro other sameReceipt
      rcases answered other sameReceipt with ⟨challenge, generation, record, wrote, confirmed⟩
      exact ⟨challenge, generation, record, wrote.mono further.suffix, confirmed⟩
  | broadcasts signature =>
      intro now interference
      refine ⟨trivial, ?_⟩
      intro reply state answered _
      have sameEntries : state.entries = now.state.entries := by
        rcases answered with rfl | ⟨outcome, rfl⟩ <;> rfl
      refine ⟨?_, ?_⟩
      · exact interference.1.of_inert ((harmless_clientBroadcast signature).inert reply)
          (fun _ _ => by rw [sameEntries]) fun _ => by rw [sameEntries]
      · intro after _ receipt same
        simp at same

namespace SettlementInvariant

variable {world : LedgerWorld Caller} {id : String} {left right : Caller}

theorem confirmed_unique (holds : SettlementInvariant strict world) (idMem : id ∈ challengeIds)
    {leftGeneration rightGeneration : ℕ} {leftRecord rightRecord : ChargeRecord}
    (wroteLeft : Wrote world.history left id (leftGeneration + 1) leftRecord)
    (wroteRight : Wrote world.history right id (rightGeneration + 1) rightRecord)
    (confirmedLeft : leftRecord.state = .confirmed)
    (confirmedRight : rightRecord.state = .confirmed) : left = right := by
  have last : ∀ {first second : Caller} {below above : ℕ} {lower upper : ChargeRecord},
      Wrote world.history first id (below + 1) lower → lower.state = .confirmed →
        Wrote world.history second id (above + 1) upper → ¬below < above := by
    intro first second below above lower upper wroteLower confirmed wroteUpper ordered
    have next : below + 1 + 1 ≤ above + 1 := by omega
    rcases holds.chain.wrote_below idMem next wroteUpper with ⟨_, following, wroteFollowing⟩
    rcases holds.chain.followed _ id idMem _ following wroteFollowing with
      ⟨_, previous, wrotePrevious, follows⟩
    rw [holds.record_unique idMem wrotePrevious wroteLower] at follows
    rcases MayFollow.unresolved follows with state | state <;> simp [confirmed] at state
  have notBelow := last wroteLeft confirmedLeft wroteRight
  have notAbove := last wroteRight confirmedRight wroteLeft
  obtain rfl : leftGeneration = rightGeneration := by omega
  exact holds.chain.unique left right id idMem leftGeneration leftRecord rightRecord wroteLeft
    wroteRight

/-- A confirmed generation follows the broadcast of the holder of its signature. -/
theorem confirmed_holder (holds : SettlementInvariant True world) (idMem : id ∈ challengeIds)
    {generation : ℕ} {record : ChargeRecord} {signature : String}
    (wrote : Wrote world.history left id (generation + 1) record)
    (confirmed : record.state = .confirmed)
    (settles : record.finalSignature = some signature) :
    ∃ holder broadcast, Wrote world.history holder id generation broadcast ∧
      broadcast.state = .pending ∧ Holding world.history holder signature := by
  rcases holds.chain.followed left id idMem generation record wrote with
    ⟨holder, broadcast, wroteBroadcast, follows⟩
  have afterPending : broadcast.state = .pending ∧
      record.finalSignature = broadcast.finalSignature := by
    have unfolded : MayFollow broadcast record := follows
    simpa only [MayFollow, confirmed] using unfolded
  have isPending : isPendingFor signature broadcast = true := by
    simp [isPendingFor, afterPending.1, ← afterPending.2, settles]
  have entry := holds.chain.current left id idMem generation record wrote
  rcases holds.owned trivial holder id idMem generation broadcast signature wroteBroadcast
    isPending (.inr ⟨record, entry, confirmed⟩) with ⟨took, whenReleased⟩
  refine ⟨holder, broadcast, wroteBroadcast, afterPending.1, took, ?_⟩
  intro released
  have last := (whenReleased released).1
  rw [entry] at last
  contradiction

end SettlementInvariant

section

variable [DecidableEq Caller] {parseSignature : String → Except String Unit}
  {participant : Caller → Participant} {start reached : SettlementConfig Caller}

theorem SettlementStart.earned (starts : SettlementStart parseSignature participant start)
    (run : (settling strict).Reachable start reached) :
    SettlementInvariant strict reached.world ∧
      ∀ caller receipt, receiptOf reached caller = some receipt →
        receipt.challengeId ∈ challengeIds ∧ ∃ generation record,
          Wrote reached.world.history caller receipt.challengeId (generation + 1) record ∧
            record.state = .confirmed ∧ record.finalSignature = some receipt.reference := by
  have safeAtStart : ∀ caller, (settling strict).Safe (SettlementInvariant strict) caller
      (fun _ => True) (Achieved caller (participant caller)) (start.threads caller)
      start.world := by
    intro caller
    rw [starts.ready caller]
    apply safe_program (starts.issued caller) starts.invariant
    simp [Prepared, Released, Wrote, starts.unused]
  rcases Environment.safe_of_reachable starts.invariant safeAtStart run with ⟨holds, safe⟩
  refine ⟨holds, ?_⟩
  intro caller receipt given
  unfold receiptOf at given
  split at given
  · rename_i found thread
    obtain rfl : found = receipt := by simpa using given
    have safeNow := safe caller
    rw [thread] at safeNow
    rcases safeNow.post_of_done holds found rfl with ⟨presentation, presents, answered⟩
    rcases answered found rfl with ⟨challenge, earned⟩
    rw [challenge]
    exact ⟨starts.issued caller presentation presents, earned⟩
  · contradiction

/-- At most one receipt per challenge in every run, and at most one receipt per
transaction in every run that leaves abandoned broadcasts undisturbed. -/
theorem one_receipt_per_payment (starts : SettlementStart parseSignature participant start) :
    (∀ reached, (settling False).Reachable start reached → ∀ left right leftReceipt rightReceipt,
      receiptOf reached left = some leftReceipt → receiptOf reached right = some rightReceipt →
        leftReceipt.challengeId = rightReceipt.challengeId → left = right) ∧
    (∀ reached, (settling True).Reachable start reached → ∀ left right leftReceipt rightReceipt,
      receiptOf reached left = some leftReceipt → receiptOf reached right = some rightReceipt →
        leftReceipt.reference = rightReceipt.reference → left = right) := by
  constructor
  · intro reached run left right leftReceipt rightReceipt givenLeft givenRight sameChallenge
    rcases starts.earned run with ⟨holds, earned⟩
    rcases earned left leftReceipt givenLeft with ⟨idMem, _, _, wroteLeft, confirmedLeft, _⟩
    rcases earned right rightReceipt givenRight with ⟨_, _, _, wroteRight, confirmedRight, _⟩
    rw [← sameChallenge] at wroteRight
    exact holds.confirmed_unique idMem wroteLeft wroteRight confirmedLeft confirmedRight
  · intro reached run left right leftReceipt rightReceipt givenLeft givenRight sameSignature
    rcases starts.earned run with ⟨holds, earned⟩
    rcases earned left leftReceipt givenLeft with
      ⟨leftMem, leftGeneration, leftRecord, wroteLeft, confirmedLeft, settlesLeft⟩
    rcases earned right rightReceipt givenRight with
      ⟨rightMem, rightGeneration, rightRecord, wroteRight, confirmedRight, settlesRight⟩
    rw [← sameSignature] at settlesRight
    rcases holds.confirmed_holder leftMem wroteLeft confirmedLeft settlesLeft with
      ⟨leftHolder, leftBroadcast, wroteLeftBroadcast, leftPending, leftHolding⟩
    rcases holds.confirmed_holder rightMem wroteRight confirmedRight settlesRight with
      ⟨rightHolder, rightBroadcast, wroteRightBroadcast, rightPending, rightHolding⟩
    obtain rfl := holds.oneHolder leftHolder rightHolder _ leftHolding rightHolding
    rcases holds.onePending leftHolder _ leftMem _ rightMem _ _ _ _ wroteLeftBroadcast
      wroteRightBroadcast leftPending rightPending with ⟨sameChallenge, _⟩
    rw [← sameChallenge] at wroteRight
    exact holds.confirmed_unique leftMem wroteLeft wroteRight confirmedLeft confirmedRight

end

/-- A presentation of the transaction `signature` for a live challenge, whose
local checks all pass. -/
def presentation (challengeId signature : String) : Participant :=
  .presents {
    challengeId
    digest := "digest of " ++ challengeId
    signature
    expired := none
    admitted := .ok ()
    sendable := .ok ()
    clock := ⟨1000, 1000, 1000, 1000, 1000, 1000⟩ }

/-- A start over an empty store and a chain without the transactions. -/
def emptySettlement (participant : Caller → Participant) : SettlementConfig Caller :=
  ⟨⟨⟨fun _ => none, fun _ => none⟩, []⟩,
    fun caller => (participant caller).program fun _ => .ok ()⟩

/-- The node rejects every transaction in preflight. -/
def rejectingNode : NodeAnswer where
  send := .preflightRejected "Simulation failed: BlockhashNotFound"
  seesTransaction := false

/-- The node lands every transaction and knows of it. -/
def landingNode : NodeAnswer where
  send := .landed .succeeded
  seesTransaction := true

/-- Two challenges paid with one transaction, and a retry of the first. -/
inductive Presenter where
  | first
  | second
  | retry
deriving DecidableEq

def onePaymentTwice : Presenter → Participant
  | .first => presentation "first-challenge" "signature"
  | .second => presentation "second-challenge" "signature"
  | .retry => presentation "first-challenge" "signature"

theorem settlementStart_onePaymentTwice :
    SettlementStart (fun _ => .ok ()) onePaymentTwice (emptySettlement onePaymentTwice) where
  unrecorded _ _ _ := rfl
  unused := rfl
  ready _ := rfl
  issued caller shown same := by
    have plain : ∀ id ∈ ["first-challenge", "second-challenge"], ':' ∉ id.toList := by decide
    cases caller <;> cases same <;> exact plain _ (by decide)

/-- The first presentation is rejected in preflight and stops after releasing
its signature; the second one pays; the retry reconciles the record of the first. -/
def paidTwice : SettlementConfig Presenter :=
  (emptySettlement onePaymentTwice).runSchedule handle
    (List.replicate 17 (.first, rejectingNode) ++ List.replicate 17 (.second, landingNode) ++
      List.replicate 11 (.retry, landingNode))

/-- One transaction, two receipts. -/
theorem onePaymentTwice_two_receipts :
    SettlementStart (fun _ => .ok ()) onePaymentTwice (emptySettlement onePaymentTwice) ∧
      (settling False).Reachable (emptySettlement onePaymentTwice) paidTwice ∧
        receiptOf paidTwice .second = some (.success "signature" "second-challenge") ∧
          receiptOf paidTwice .retry = some (.success "signature" "first-challenge") := by
  refine ⟨settlementStart_onePaymentTwice, ?_, ?_, ?_⟩
  · exact Config.reachable_runSchedule effect_handle _ _
      (Config.permitted_of_unrestricted (fun _ _ => False.elim) _ _)
  · decide +kernel
  · decide +kernel

/-- The call is no release of a signature. -/
def isNoRelease : Call → Bool
  | .putIfEq _ (some (.bool true)) _ => false
  | _ => true

theorem undisturbed_of_noRelease {world : LedgerWorld Caller} {event : LedgerEvent Caller}
    (noRelease : ∀ old ∈ event :: world.history, isNoRelease old.call = true) :
    Undisturbed world event := by
  have unreleased : ∀ id generation signature, ¬Abandoned world id generation signature := by
    rintro id generation signature ⟨caller, record, _, _, released, _⟩
    have happened := noRelease _ (List.mem_cons_of_mem _ released)
    simp [isNoRelease] at happened
  constructor
  · rintro caller signature rfl
    have happens := noRelease _ (List.mem_cons_self ..)
    simp [isNoRelease] at happens
  · intro id _ generation signature abandoned
    exact absurd abandoned (unreleased id generation signature)
  · intro id _ generation signature abandoned
    exact absurd abandoned (unreleased id generation signature)

def paidOnce : SettlementConfig Presenter :=
  (emptySettlement onePaymentTwice).runSchedule handle (List.replicate 16 (.second, landingNode))

theorem one_receipt_per_payment_of_paidOnce :
    receiptOf paidOnce .second = some (.success "signature" "second-challenge") ∧
      ∀ other receipt, receiptOf paidOnce other = some receipt →
        receipt.reference = "signature" → other = .second := by
  have given : receiptOf paidOnce .second = some (.success "signature" "second-challenge") := by
    decide +kernel
  refine ⟨given, ?_⟩
  intro other receipt found same
  have run : (settling True).Reachable (emptySettlement onePaymentTwice) paidOnce := by
    apply Config.reachable_runSchedule effect_handle
    exact Config.permitted_of_history (fun _ _ noRelease _ => undisturbed_of_noRelease noRelease)
      _ _ (by decide +kernel)
  exact (one_receipt_per_payment settlementStart_onePaymentTwice).2 paidOnce run other .second
    receipt _ found given same

end PayKit.Charge
