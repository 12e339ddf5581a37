import PayKit.Store.ChargeChain

/-!
# What the operations of the charge replay ledger guarantee

One specification for each operation of `ChargeReplayStore`, under any
interference that keeps the chain invariant. A caller that read a record knows
that somebody wrote it, and this is all it knows afterwards: the generation it
appends to may long be superseded, in which case `put_if_absent` refuses.
-/

namespace PayKit.Store

open Concurrency

variable {Caller : Type}

/-- The store answers as the store does, the invariant contains the chain
invariant, and calls that change nothing keep it. -/
structure LedgerSetting (environment : Environment Caller Backend Call Reply)
    (invariant : LedgerWorld Caller → Prop) (rules : ChainRules Caller) : Prop where
  answers : environment.effect = effect
  chain : ∀ world, invariant world → ChainInvariant rules world
  read : ∀ world caller key, invariant world →
    invariant (world.record ⟨caller, .get key, world.state.entries key⟩ world.state)
  refused : ∀ world caller key value, invariant world →
    invariant (world.record ⟨caller, .putIfAbsent key value, false⟩ world.state)

/-- An assertion that neither the others nor the caller's own reads and refused
writes can break. -/
structure Steady (invariant : LedgerWorld Caller → Prop) (caller : Caller)
    (running : LedgerWorld Caller → Prop) : Prop where
  interfere : ∀ before after, Interferes invariant caller before after →
    running before → running after
  read : ∀ world key reply, running world →
    running (world.record ⟨caller, .get key, reply⟩ world.state)
  refused : ∀ world key value, running world →
    running (world.record ⟨caller, .putIfAbsent key value, false⟩ world.state)

theorem Steady.trivial (invariant : LedgerWorld Caller → Prop) (caller : Caller) :
    Steady invariant caller fun _ => True :=
  ⟨fun _ _ _ _ => True.intro, fun _ _ _ _ => True.intro, fun _ _ _ _ => True.intro⟩

/-- `caller` has not won a generation of any record. -/
def Unwritten (caller : Caller) (world : LedgerWorld Caller) : Prop :=
  ∀ id generation record, ¬Wrote world.history caller id generation record

theorem Steady.unwritten (invariant : LedgerWorld Caller → Prop) (caller : Caller) :
    Steady invariant caller (Unwritten caller) := by
  constructor
  · intro before after interference unwritten id generation record wrote
    exact unwritten id generation record (interference.mem_history_of_own rfl wrote)
  · intro world key reply unwritten id generation record wrote
    rcases List.mem_cons.mp wrote with same | old
    · exact absurd same (event_ne_of_call_ne (by simp))
    · exact unwritten id generation record old
  · intro world key value unwritten id generation record wrote
    rcases List.mem_cons.mp wrote with same | old
    · exact absurd same.symm refused_ne_won
    · exact unwritten id generation record old

namespace ChargeReplayStore

variable {environment : Environment Caller Backend Call Reply}
  {invariant : LedgerWorld Caller → Prop} {rules : ChainRules Caller} {caller : Caller}
  {running : LedgerWorld Caller → Prop} {before : LedgerWorld Caller} {id : String}
  {Result : Type} {post : Except StoreError Result → LedgerWorld Caller → Prop}

theorem safe_get_bind {key : String} {rest : Option Value → StoreM Result}
    (setting : LedgerSetting environment invariant rules)
    (steady : Steady invariant caller running) (run : running before)
    (next : ∀ now, Interferes invariant caller before now → running now →
      environment.allowed now ⟨caller, .get key, now.state.entries key⟩ →
        environment.Safe invariant caller running post (rest (now.state.entries key)).run
          (now.record ⟨caller, .get key, now.state.entries key⟩ now.state)) :
    environment.Safe invariant caller running post (get key >>= rest).run before := by
  rw [get, Fallible.run_request_bind]
  intro now interference
  have runNow := steady.interfere before now interference run
  refine ⟨runNow, ?_⟩
  intro reply state answered permitted
  rw [setting.answers] at answered
  rcases answered with ⟨rfl, rfl⟩
  exact ⟨setting.read now caller key interference.1, next now interference runNow permitted⟩

/-- A won generation is in the history, and a lost one leaves the caller where
it was. -/
theorem safe_append (id : String) (generation : ℕ) (record : ChargeRecord)
    (setting : LedgerSetting environment invariant rules)
    (steady : Steady invariant caller running) (run : running before)
    (won : ∀ now, Interferes invariant caller before now → running now →
      now.state.entries (chargeRecordKey id generation) = none →
      environment.allowed now
        ⟨caller, .putIfAbsent (chargeRecordKey id generation) (.record record), true⟩ →
        invariant (now.record
          ⟨caller, .putIfAbsent (chargeRecordKey id generation) (.record record), true⟩
          (now.state.setEntry (chargeRecordKey id generation) (some (.record record))))) :
    environment.Safe invariant caller running
      (fun outcome world =>
        (outcome = .ok true ∧ Wrote world.history caller id generation record) ∨
          (outcome = .ok false ∧ running world))
      (append id generation record).run before := by
  intro now interference
  have runNow := steady.interfere before now interference run
  refine ⟨runNow, ?_⟩
  intro reply state answered permitted
  rw [setting.answers] at answered
  rcases answered with ⟨absent, rfl, rfl⟩ | ⟨_, rfl, rfl⟩
  · refine ⟨won now interference runNow absent permitted, ?_⟩
    intro after further
    have wrote : Wrote (now.record ⟨caller, .putIfAbsent (chargeRecordKey id generation)
        (.record record), true⟩ (now.state.setEntry (chargeRecordKey id generation)
          (some (.record record)))).history caller id generation record :=
      List.mem_cons_self ..
    exact .inl ⟨rfl, wrote.mono further.suffix⟩
  · refine ⟨setting.refused now caller _ _ interference.1, ?_⟩
    intro after further
    exact .inr ⟨rfl, steady.interfere _ _ further (steady.refused now _ _ runNow)⟩

theorem safe_read {generation : ℕ} (setting : LedgerSetting environment invariant rules)
    (steady : Steady invariant caller running) (idMem : id ∈ rules.ids)
    (run : running before) :
    environment.Safe invariant caller running
      (fun outcome world => running world ∧ ∀ record, outcome = .ok (some record) →
        ∃ writer, Wrote world.history writer id generation record)
      (read id generation).run before := by
  apply safe_get_bind setting steady run
  intro now interference runNow _
  have kept := steady.read now (chargeRecordKey id generation)
    (now.state.entries (chargeRecordKey id generation)) runNow
  cases entry : now.state.entries (chargeRecordKey id generation) with
  | none =>
      rw [entry] at kept
      intro after further
      exact ⟨steady.interfere _ _ further kept, by simp⟩
  | some value =>
      rcases (setting.chain now interference.1).written id idMem generation value entry with
        ⟨writer, record, rfl, wrote⟩
      rw [entry] at kept
      intro after further
      refine ⟨steady.interfere _ _ further kept, ?_⟩
      intro found same
      obtain rfl : record = found := by simpa using same
      exact ⟨writer, wrote.mono ((List.suffix_cons _ _).trans further.suffix)⟩

theorem safe_tipFrom {before : LedgerWorld Caller} {remaining generation : ℕ}
    {record : ChargeRecord}
    (setting : LedgerSetting environment invariant rules)
    (steady : Steady invariant caller running) (idMem : id ∈ rules.ids)
    (holds : invariant before) (run : running before)
    (known : ∃ writer, Wrote before.history writer id generation record) :
    environment.Safe invariant caller running
      (fun outcome world => running world ∧ ∀ latest, outcome = .ok latest →
        ∃ writer, Wrote world.history writer id latest.1 latest.2)
      (tipFrom id remaining generation record).run before := by
  unfold tipFrom
  apply Environment.Safe.fallible_bind holds (safe_read setting steady idMem run)
  · intro next world holdsNow suffix reached
    rcases known with ⟨writer, wrote⟩
    cases next with
    | none =>
        intro after further
        refine ⟨steady.interfere _ _ further reached.1, ?_⟩
        intro latest same
        obtain rfl : (generation, record) = latest := by simpa using same
        exact ⟨writer, wrote.mono (suffix.trans further.suffix)⟩
    | some next =>
        match remaining with
        | 0 =>
            intro after further
            exact ⟨steady.interfere _ _ further reached.1, by simp⟩
        | remaining + 1 =>
            exact safe_tipFrom setting steady idMem holdsNow reached.1 (reached.2 next rfl)
  · intro error world holdsNow suffix reached after further
    exact ⟨steady.interfere _ _ further reached.1, by simp⟩

theorem safe_tip (setting : LedgerSetting environment invariant rules)
    (steady : Steady invariant caller running) (idMem : id ∈ rules.ids)
    (holds : invariant before) (run : running before) :
    environment.Safe invariant caller running
      (fun outcome world => running world ∧ ∀ latest, outcome = .ok (some latest) →
        ∃ writer, Wrote world.history writer id latest.1 latest.2)
      (tip id).run before := by
  apply Environment.Safe.fallible_bind holds (safe_read setting steady idMem run)
  · intro root world holdsNow suffix reached
    cases root with
    | none =>
        intro after further
        exact ⟨steady.interfere _ _ further reached.1, by simp⟩
    | some record =>
        apply Environment.Safe.fallible_bind holdsNow
          (safe_tipFrom setting steady idMem holdsNow reached.1 (reached.2 record rfl))
        · intro latest later holdsLater suffixLater found after further
          refine ⟨steady.interfere _ _ further found.1, ?_⟩
          intro result same
          obtain rfl : latest = result := by simpa using same
          rcases found.2 latest rfl with ⟨writer, wrote⟩
          exact ⟨writer, wrote.mono further.suffix⟩
        · intro error later holdsLater suffixLater found after further
          exact ⟨steady.interfere _ _ further found.1, by simp⟩
  · intro error world holdsNow suffix reached after further
    exact ⟨steady.interfere _ _ further reached.1, by simp⟩

theorem safe_tipOrFail (setting : LedgerSetting environment invariant rules)
    (steady : Steady invariant caller running) (idMem : id ∈ rules.ids)
    (holds : invariant before) (run : running before) :
    environment.Safe invariant caller running
      (fun outcome world => running world ∧ ∀ latest, outcome = .ok latest →
        ∃ writer, Wrote world.history writer id latest.1 latest.2)
      (tipOrFail id).run before := by
  apply Environment.Safe.fallible_bind holds (safe_tip setting steady idMem holds run)
  · intro found world holdsNow suffix reached
    cases found with
    | none =>
        intro after further
        exact ⟨steady.interfere _ _ further reached.1, by simp⟩
    | some latest =>
        intro after further
        refine ⟨steady.interfere _ _ further reached.1, ?_⟩
        intro result same
        obtain rfl : latest = result := by simpa using same
        rcases reached.2 latest rfl with ⟨writer, wrote⟩
        exact ⟨writer, wrote.mono further.suffix⟩
  · intro error world holdsNow suffix reached after further
    exact ⟨steady.interfere _ _ further reached.1, by simp⟩

/-- The appended record follows a record that was ready for it, and nothing is
written unless the outcome says so. -/
theorem safe_advance {generation : ℕ} {ready : ChargeRecord → Bool}
    {update : ChargeRecord → ChargeRecord}
    (setting : LedgerSetting environment invariant rules)
    (steady : Steady invariant caller running) (idMem : id ∈ rules.ids)
    (holds : invariant before) (run : running before)
    (appends : ∀ world writer record, invariant world →
      before.history <:+ world.history → running world →
      Wrote world.history writer id generation record → ready record = true →
      world.state.entries (chargeRecordKey id (generation + 1)) = none →
      environment.allowed world ⟨caller, .putIfAbsent (chargeRecordKey id (generation + 1))
        (.record (update record)), true⟩ →
        invariant (world.record ⟨caller, .putIfAbsent (chargeRecordKey id (generation + 1))
            (.record (update record)), true⟩
          (world.state.setEntry (chargeRecordKey id (generation + 1))
            (some (.record (update record)))))) :
    environment.Safe invariant caller running
      (fun outcome world =>
        (outcome = .ok true ∧ ∃ writer record, Wrote world.history writer id generation record ∧
          ready record = true ∧ Wrote world.history caller id (generation + 1) (update record)) ∨
        (outcome ≠ .ok true ∧ running world))
      (advance id generation ready update).run before := by
  apply Environment.Safe.fallible_bind holds (safe_tipOrFail setting steady idMem holds run)
  · rintro ⟨latest, record⟩ world holdsNow suffix reached
    simp only
    split
    · intro after further
      exact .inr ⟨by simp, steady.interfere _ _ further reached.1⟩
    · rename_i current
      rcases reached.2 _ rfl with ⟨writer, wrote⟩
      obtain ⟨rfl, isReady⟩ : latest = generation ∧ ready record = true := by
        simpa using current
      refine (safe_append id (latest + 1) (update record) setting steady reached.1 ?_).weaken ?_
      · intro now interference runNow absent permitted
        exact appends now writer record interference.1 (suffix.trans interference.suffix) runNow
          (wrote.mono interference.suffix) isReady absent permitted
      · rintro outcome later holdsLater suffixLater (⟨won, wroteNext⟩ | ⟨lost, runLater⟩)
        · exact .inl ⟨won, writer, record, wrote.mono suffixLater, isReady, wroteNext⟩
        · exact .inr ⟨by simp [lost], runLater⟩
  · intro error world holdsNow suffix reached after further
    exact .inr ⟨by simp, steady.interfere _ _ further reached.1⟩

/-- What a `reserve` that did not win a generation reports. -/
def Classified (history : List (LedgerEvent Caller)) (id digest : String) :
    Except StoreError ChargeReservation → Prop
  | .ok (.reserved _) => False
  | .ok (.pendingConfirmation generation signature) => ∃ writer record,
      Wrote history writer id generation record ∧ record.state = .pending ∧
        record.normalizedRequestDigest = digest ∧ record.finalSignature.getD "" = signature
  | .ok (.alreadyConfirmed signature) => ∃ writer generation record,
      Wrote history writer id generation record ∧ record.state = .confirmed ∧
        record.normalizedRequestDigest = digest ∧ record.finalSignature.getD "" = signature
  | _ => True

theorem Classified.mono {history later : List (LedgerEvent Caller)} {digest : String}
    {outcome : Except StoreError ChargeReservation} (suffix : history <:+ later)
    (classified : Classified history id digest outcome) : Classified later id digest outcome := by
  unfold Classified at classified ⊢
  split at classified
  · exact classified
  · rcases classified with ⟨writer, record, wrote, rest⟩
    exact ⟨writer, record, wrote.mono suffix, rest⟩
  · rcases classified with ⟨writer, generation, record, wrote, rest⟩
    exact ⟨writer, generation, record, wrote.mono suffix, rest⟩
  · trivial

/-- What a `reserve` achieved: it owns the generation it wrote, over an
expired reservation of the same request, or it wrote nothing. -/
def Reserves (running : LedgerWorld Caller → Prop) (caller : Caller) (id digest : String)
    (fresh : ChargeRecord) (outcome : Except StoreError ChargeReservation)
    (world : LedgerWorld Caller) : Prop :=
  (outcome = .ok (.reserved 0) ∧ Wrote world.history caller id 0 fresh) ∨
    (∃ generation writer previous, outcome = .ok (.reserved (generation + 1)) ∧
      Wrote world.history writer id generation previous ∧ previous.state = .reserved ∧
        previous.normalizedRequestDigest = digest ∧
          Wrote world.history caller id (generation + 1) fresh) ∨
    (running world ∧ Classified world.history id digest outcome)

theorem safe_classify {before : LedgerWorld Caller} {digest : String} {fresh : ChargeRecord}
    {now : Int} {attempts : ℕ}
    (setting : LedgerSetting environment invariant rules)
    (steady : Steady invariant caller running) (idMem : id ∈ rules.ids)
    (holds : invariant before) (run : running before)
    (appends : ∀ world writer generation record, invariant world →
      before.history <:+ world.history → running world →
      Wrote world.history writer id generation record → record.state = .reserved →
      record.normalizedRequestDigest = digest →
      world.state.entries (chargeRecordKey id (generation + 1)) = none →
      environment.allowed world ⟨caller, .putIfAbsent (chargeRecordKey id (generation + 1))
        (.record fresh), true⟩ →
        invariant (world.record ⟨caller, .putIfAbsent (chargeRecordKey id (generation + 1))
            (.record fresh), true⟩
          (world.state.setEntry (chargeRecordKey id (generation + 1)) (some (.record fresh))))) :
    environment.Safe invariant caller running (Reserves running caller id digest fresh)
      (classify id digest fresh now attempts).run before := by
  match attempts with
  | 0 =>
      intro after further
      exact .inr (.inr ⟨steady.interfere _ _ further run, trivial⟩)
  | attempts + 1 =>
      apply Environment.Safe.fallible_bind holds (safe_tip setting steady idMem holds run)
      · intro found world holdsNow suffix reached
        cases found with
        | none =>
            intro after further
            exact .inr (.inr ⟨steady.interfere _ _ further reached.1, trivial⟩)
        | some latest =>
            rcases latest with ⟨generation, existing⟩
            rcases reached.2 _ rfl with ⟨writer, wrote⟩
            have classifiedAs : ∀ {outcome}, Classified world.history id digest outcome →
                environment.Safe invariant caller running
                  (Reserves running caller id digest fresh) (.done outcome) world := by
              intro outcome classified after further
              exact .inr (.inr ⟨steady.interfere _ _ further reached.1,
                classified.mono further.suffix⟩)
            by_cases sameDigest : existing.normalizedRequestDigest = digest
            · simp only [sameDigest, ne_eq, not_true_eq_false, if_false]
              cases state : existing.state with
              | confirmed =>
                  exact classifiedAs ⟨writer, generation, existing, wrote, state, sameDigest, rfl⟩
              | failed => exact classifiedAs trivial
              | pending =>
                  exact classifiedAs ⟨writer, existing, wrote, state, sameDigest, rfl⟩
              | reserved =>
                  by_cases live : existing.expiresAt > now
                  · simp only [live, if_true]
                    exact classifiedAs trivial
                  · simp only [live, if_false]
                    apply Environment.Safe.fallible_bind holdsNow
                      (safe_append id (generation + 1) fresh setting steady reached.1 ?_)
                    · intro won later holdsLater suffixLater appended
                      rcases appended with ⟨same, wroteNext⟩ | ⟨same, runLater⟩
                      · obtain rfl : won = true := by simpa using same
                        intro after further
                        exact .inr (.inl ⟨generation, writer, existing, rfl,
                          wrote.mono (suffixLater.trans further.suffix), state, sameDigest,
                          wroteNext.mono further.suffix⟩)
                      · obtain rfl : won = false := by simpa using same
                        simp only [Bool.false_eq_true, if_false]
                        apply safe_classify setting steady idMem holdsLater runLater
                        intro last lastWriter lastGeneration lastRecord holdsLast suffixLast
                        exact appends last lastWriter lastGeneration lastRecord holdsLast
                          ((suffix.trans suffixLater).trans suffixLast)
                    · intro error later holdsLater suffixLater appended
                      rcases appended with ⟨same, _⟩ | ⟨same, _⟩ <;> simp at same
                    · intro later interference runLater absent permitted
                      exact appends later writer generation existing interference.1
                        (suffix.trans interference.suffix) runLater
                        (wrote.mono interference.suffix) state sameDigest absent permitted
            · simp only [sameDigest, ne_eq, not_false_eq_true, if_true]
              exact classifiedAs trivial
      · intro error world holdsNow suffix reached after further
        exact .inr (.inr ⟨steady.interfere _ _ further reached.1, trivial⟩)

/-- The specification of `reserve` leaves open what a caller that has just
written the root finds when it reads on: `recheck` says what holds then. -/
theorem safe_reserve {digest : String} {lease : UInt64} {now : Int}
    (setting : LedgerSetting environment invariant rules)
    (steady : Steady invariant caller running) (idMem : id ∈ rules.ids)
    (holds : invariant before) (run : running before)
    (opens : ∀ world, invariant world → before.history <:+ world.history → running world →
      world.state.entries (chargeRecordKey id 0) = none →
      environment.allowed world ⟨caller, .putIfAbsent (chargeRecordKey id 0)
        (.record (freshRecord id digest lease now)), true⟩ →
        invariant (world.record ⟨caller, .putIfAbsent (chargeRecordKey id 0)
            (.record (freshRecord id digest lease now)), true⟩
          (world.state.setEntry (chargeRecordKey id 0)
            (some (.record (freshRecord id digest lease now))))))
    (recheck : ∀ world, invariant world → before.history <:+ world.history →
      Wrote world.history caller id 0 (freshRecord id digest lease now) →
        environment.Safe invariant caller running
          (Reserves running caller id digest (freshRecord id digest lease now))
          (recheckRoot id).run world)
    (appends : ∀ world writer generation record, invariant world →
      before.history <:+ world.history → running world →
      Wrote world.history writer id generation record → record.state = .reserved →
      record.normalizedRequestDigest = digest →
      world.state.entries (chargeRecordKey id (generation + 1)) = none →
      environment.allowed world ⟨caller, .putIfAbsent (chargeRecordKey id (generation + 1))
        (.record (freshRecord id digest lease now)), true⟩ →
        invariant (world.record ⟨caller, .putIfAbsent (chargeRecordKey id (generation + 1))
            (.record (freshRecord id digest lease now)), true⟩
          (world.state.setEntry (chargeRecordKey id (generation + 1))
            (some (.record (freshRecord id digest lease now)))))) :
    environment.Safe invariant caller running
      (Reserves running caller id digest (freshRecord id digest lease now))
      (reserve id digest lease now).run before := by
  have failed : ∀ {error world}, running world →
      environment.Safe invariant caller running
        (Reserves running caller id digest (freshRecord id digest lease now))
        (.done (.error error)) world := by
    intro error world runNow after further
    exact .inr (.inr ⟨steady.interfere _ _ further runNow, trivial⟩)
  have afterLook : ∀ world, invariant world → before.history <:+ world.history →
      running world → environment.Safe invariant caller running
        (Reserves running caller id digest (freshRecord id digest lease now))
        (do
          if ← append id 0 (freshRecord id digest lease now) then
            recheckRoot id
          else
            classify id digest (freshRecord id digest lease now) now
              maxChargeRecordGenerations : StoreM ChargeReservation).run world := by
    intro world holdsNow suffix runNow
    apply Environment.Safe.fallible_bind holdsNow
      (safe_append id 0 (freshRecord id digest lease now) setting steady runNow ?_)
    · intro won later holdsLater suffixLater appended
      rcases appended with ⟨same, wrote⟩ | ⟨same, runLater⟩
      · obtain rfl : won = true := by simpa using same
        exact recheck later holdsLater (suffix.trans suffixLater) wrote
      · obtain rfl : won = false := by simpa using same
        simp only [Bool.false_eq_true, if_false]
        apply safe_classify setting steady idMem holdsLater runLater
        intro last writer generation record holdsLast suffixLast
        exact appends last writer generation record holdsLast
          ((suffix.trans suffixLater).trans suffixLast)
    · intro error later holdsLater suffixLater appended
      rcases appended with ⟨same, _⟩ | ⟨same, _⟩ <;> simp at same
    · intro later interference runLater
      exact opens later interference.1 (suffix.trans interference.suffix) runLater
  apply Environment.Safe.fallible_bind holds (safe_read setting steady idMem run)
  · intro first world holdsNow suffix reached
    cases first with
    | none => exact afterLook world holdsNow suffix reached.1
    | some first =>
        apply Environment.Safe.fallible_bind holdsNow
          (safe_read setting steady idMem reached.1)
        · intro root later holdsLater suffixLater found
          cases root with
          | none => exact failed found.1
          | some root => exact afterLook later holdsLater (suffix.trans suffixLater) found.1
        · intro error later holdsLater suffixLater found
          exact failed found.1
  · intro error world holdsNow suffix reached
    exact failed reached.1

theorem safe_recordConfirmedFrom {before : LedgerWorld Caller} {signature : String} {now : Int}
    {attempts : ℕ} (setting : LedgerSetting environment invariant rules)
    (steady : Steady invariant caller running) (idMem : id ∈ rules.ids)
    (holds : invariant before) (run : running before)
    (appends : ∀ world writer generation record, invariant world →
      before.history <:+ world.history → running world →
      Wrote world.history writer id generation record →
      record.state = .reserved ∨ record.state = .pending →
      world.state.entries (chargeRecordKey id (generation + 1)) = none →
      environment.allowed world ⟨caller, .putIfAbsent (chargeRecordKey id (generation + 1))
        (.record (terminal record .confirmed (some signature) none now)), true⟩ →
        invariant (world.record ⟨caller, .putIfAbsent (chargeRecordKey id (generation + 1))
            (.record (terminal record .confirmed (some signature) none now)), true⟩
          (world.state.setEntry (chargeRecordKey id (generation + 1))
            (some (.record (terminal record .confirmed (some signature) none now)))))) :
    environment.Safe invariant caller running (fun _ _ => True)
      (recordConfirmedFrom id signature now attempts).run before := by
  match attempts with
  | 0 => exact fun after further => trivial
  | attempts + 1 =>
      apply Environment.Safe.fallible_bind holds (safe_tipOrFail setting steady idMem holds run)
      · rintro ⟨generation, record⟩ world holdsNow suffix reached
        rcases reached.2 _ rfl with ⟨writer, wrote⟩
        have retries : record.state = .reserved ∨ record.state = .pending →
            environment.Safe invariant caller running (fun _ _ => True)
              (do
                if ← append id (generation + 1)
                    (terminal record .confirmed (some signature) none now) then
                  return true
                else
                  recordConfirmedFrom id signature now attempts : StoreM Bool).run world := by
          intro unresolved
          apply Environment.Safe.fallible_bind holdsNow
            (safe_append id (generation + 1) (terminal record .confirmed (some signature) none now)
              setting steady reached.1 ?_)
          · intro won later holdsLater suffixLater appended
            rcases appended with ⟨same, wroteNext⟩ | ⟨same, runLater⟩
            · obtain rfl : won = true := by simpa using same
              exact fun after further => trivial
            · obtain rfl : won = false := by simpa using same
              simp only [Bool.false_eq_true, if_false]
              apply safe_recordConfirmedFrom setting steady idMem holdsLater runLater
              intro last lastWriter lastGeneration lastRecord holdsLast suffixLast
              exact appends last lastWriter lastGeneration lastRecord holdsLast
                ((suffix.trans suffixLater).trans suffixLast)
          · intro error later holdsLater suffixLater appended
            rcases appended with ⟨same, _⟩ | ⟨same, _⟩ <;> simp at same
          · intro later interference runLater
            exact appends later writer generation record interference.1
              (suffix.trans interference.suffix) runLater (wrote.mono interference.suffix)
              unresolved
        cases state : record.state with
        | confirmed =>
            simp only [state]
            exact fun after further => trivial
        | failed =>
            simp only [state]
            exact fun after further => trivial
        | reserved =>
            simp only [state]
            exact retries (.inl state)
        | pending =>
            simp only [state]
            exact retries (.inr state)
      · exact fun error world holdsNow suffix reached after further => trivial

section

variable {quiet : Call → Prop} {challengeId : String}

theorem uses_read (reads : ∀ key, quiet (.get key)) (generation : ℕ) :
    (read challengeId generation).run.Uses quiet := by
  have usesGet : (get (chargeRecordKey challengeId generation)).run.Uses quiet :=
    ⟨reads _, fun _ => trivial⟩
  apply Fallible.uses_bind usesGet
  intro entry
  rcases entry with _ | value
  · exact trivial
  · cases value <;> exact trivial

theorem uses_tipFrom (reads : ∀ key, quiet (.get key)) {remaining generation : ℕ}
    {record : ChargeRecord} :
    (tipFrom challengeId remaining generation record).run.Uses quiet := by
  unfold tipFrom
  apply Fallible.uses_bind (uses_read reads _)
  intro next
  cases next with
  | none => exact trivial
  | some next =>
      match remaining with
      | 0 => exact trivial
      | remaining + 1 => exact uses_tipFrom reads

theorem uses_tip (reads : ∀ key, quiet (.get key)) : (tip challengeId).run.Uses quiet := by
  apply Fallible.uses_bind (uses_read reads _)
  intro root
  cases root with
  | none => exact trivial
  | some root => exact Fallible.uses_bind (uses_tipFrom reads) fun _ => trivial

theorem uses_append {generation : ℕ} {record : ChargeRecord}
    (writes : quiet (.putIfAbsent (chargeRecordKey challengeId generation) (.record record))) :
    (append challengeId generation record).run.Uses quiet :=
  ⟨writes, fun _ => trivial⟩

theorem uses_advance {generation : ℕ} {ready : ChargeRecord → Bool}
    {update : ChargeRecord → ChargeRecord} (reads : ∀ key, quiet (.get key))
    (writes : ∀ record, quiet (.putIfAbsent (chargeRecordKey challengeId (generation + 1))
      (.record (update record)))) :
    (advance challengeId generation ready update).run.Uses quiet := by
  have usesTip : (tipOrFail challengeId).run.Uses quiet := by
    apply Fallible.uses_bind (uses_tip reads)
    intro found
    cases found <;> exact trivial
  apply Fallible.uses_bind usesTip
  rintro ⟨latest, record⟩
  simp only
  split
  · exact trivial
  · exact uses_append (writes record)

theorem uses_classify {digest : String} {fresh : ChargeRecord} {now : Int} {attempts : ℕ}
    (reads : ∀ key, quiet (.get key))
    (writes : ∀ key, quiet (.putIfAbsent key (.record fresh))) :
    (classify challengeId digest fresh now attempts).run.Uses quiet := by
  match attempts with
  | 0 => exact trivial
  | attempts + 1 =>
      apply Fallible.uses_bind (uses_tip reads)
      intro found
      rcases found with _ | ⟨generation, existing⟩
      · exact trivial
      · simp only
        split
        · exact trivial
        · cases existing.state with
          | reserved =>
              simp only
              split
              · exact trivial
              · apply Fallible.uses_bind (uses_append (writes _))
                intro won
                cases won with
                | true => exact trivial
                | false => exact uses_classify reads writes
          | _ => exact trivial

theorem uses_reserve {digest : String} {lease : UInt64} {now : Int}
    (reads : ∀ key, quiet (.get key)) (deletes : ∀ key, quiet (.delete key))
    (writes : ∀ key, quiet (.putIfAbsent key
      (.record (freshRecord challengeId digest lease now)))) :
    (reserve challengeId digest lease now).run.Uses quiet := by
  have usesRecheck : (recheckRoot challengeId).run.Uses quiet := by
    apply Fallible.uses_bind (uses_read reads _)
    intro next
    cases next with
    | none => exact trivial
    | some next => exact ⟨deletes _, fun _ => trivial⟩
  have usesRest : (do
      if ← append challengeId 0 (freshRecord challengeId digest lease now) then
        recheckRoot challengeId
      else
        classify challengeId digest (freshRecord challengeId digest lease now) now
          maxChargeRecordGenerations : StoreM ChargeReservation).run.Uses quiet := by
    apply Fallible.uses_bind (uses_append (writes _))
    intro won
    cases won with
    | true => exact usesRecheck
    | false => exact uses_classify reads writes
  apply Fallible.uses_bind (uses_read reads _)
  intro first
  cases first with
  | none => exact usesRest
  | some first =>
      apply Fallible.uses_bind (uses_read reads _)
      intro root
      cases root with
      | none => exact trivial
      | some root => exact usesRest

end

end ChargeReplayStore

end PayKit.Store
