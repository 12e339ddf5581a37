import PayKit.Settlement.WorkerPrograms

/-!
# Runs of the settlement worker

The actor keeps the units that are pending or queued, and every other unit is at the desk of one
task. From this, and from the duties of the tasks, follows what a run does to a unit: it is answered
once, with a reason; its instructions are in one packed transaction at most and after that alone
only; and the worker comes to rest with every unit answered.
-/

namespace PayKit.Settlement

open Concurrency Control Tx

variable {worker : SettlementWorker}

theorem sends_about (worker : SettlementWorker) (unit : Submitted) (past : WorkerPast) :
    sends unit ((WorkerCall.ownership worker).about unit past) = sends unit past := by
  refine Ownership.filterMap_about (fun exchange hSent => ?_) past
  rcases exchange with ⟨call, reply⟩
  cases call with
  | send carries tx =>
      by_contra hElsewhere
      exact hSent (if_neg hElsewhere)
  | _ => exact absurd rfl hSent

theorem answers_about (worker : SettlementWorker) (unit : Submitted) (past : WorkerPast) :
    answers unit ((WorkerCall.ownership worker).about unit past) = answers unit past := by
  refine Ownership.filterMap_about (fun exchange hAnswer => ?_) past
  rcases exchange with ⟨call, reply⟩
  cases call with
  | reply other outcome =>
      by_contra hElsewhere
      refine hAnswer (if_neg fun hSame => hElsewhere ?_)
      rw [hSame]
      exact List.mem_cons_self
  | _ => exact absurd rfl hAnswer

namespace WorkerState

variable {state after : WorkerState}

/-- The units that the actor holds. -/
def free (state : WorkerState) : List Submitted :=
  state.pending ++ state.queue

/-- Every task does its duty, and the duties account for all units, permits and calls. -/
structure Manned (worker : SettlementWorker) (state : WorkerState) : Prop where
  numbered : state.submitted.map (·.reply) = List.range state.submitted.length
  units : ∃ desks, Staffed worker.crew (WorkerCall.ownership worker).rules Answered desks
      state.crowd ∧
    Owned (WorkerCall.ownership worker) desks state.free state.submitted state.crowd.history
  permits : ∃ holders, Staffed worker.crew WorkerCall.permits (· = false) holders state.crowd ∧
    PermitsOut worker.cfg.permits state.available holders
  calls : ∃ budgets total, Staffed worker.crew (budgetRules WorkerCall WorkerReply worker.price)
      (fun _ => True) budgets state.crowd ∧
    WithinBudget total budgets state.crowd.history ∧
    total + state.free.length * worker.callsPerUnit
      ≤ state.submitted.length * worker.callsPerUnit

/-- The buffer is never full, and the timer is set for what is in it. -/
structure Timed (worker : SettlementWorker) (state : WorkerState) : Prop where
  short : state.pending.length < worker.cfg.maxPerTx
  armed : state.pending ≠ [] → ∃ deadline, state.deadline = some deadline
  due : ∀ deadline, state.deadline = some deadline → deadline ≤ state.clock + worker.cfg.linger
  idle : state.stopped = true → state.handlesOpen = false ∧ state.free = []

theorem Manned.nodup (hManned : Manned worker state) : state.submitted.Nodup := by
  refine List.Nodup.of_map (·.reply) ?_
  rw [hManned.numbered]
  exact List.nodup_range

theorem start_manned : Manned worker (start worker.cfg) where
  numbered := by simp [start]
  units := ⟨[], .nil, .empty⟩
  permits := ⟨[], .nil, by simp [PermitsOut, start]⟩
  calls := ⟨[], 0, .nil, by simp [WithinBudget, start], by simp [start, free]⟩

theorem Manned.of_same (hManned : Manned worker state)
    (hSubmitted : after.submitted = state.submitted) (hFree : after.free = state.free)
    (hAvailable : after.available = state.available) (hCrowd : after.crowd = state.crowd) :
    Manned worker after := by
  rcases hManned with ⟨hNumbered, hUnits, hPermits, hCalls⟩
  refine ⟨?_, ?_, ?_, ?_⟩
  · rwa [hSubmitted]
  · rwa [hSubmitted, hFree, hCrowd]
  · rwa [hAvailable, hCrowd]
  · rwa [hSubmitted, hFree, hCrowd]

theorem Manned.spawnFlush {batch rest : List Submitted} (hManned : Manned worker state)
    (hPending : state.pending = batch ++ rest) :
    Manned worker ({ state with pending := rest }.spawnFlush worker batch) := by
  have hFree : state.free = batch ++ (rest ++ state.queue) := by
    rw [free, hPending, List.append_assoc]
  have hBatch : ∀ unit ∈ batch, unit ∈ state.free := by
    intro unit hUnit
    rw [hFree]
    exact List.mem_append_left _ hUnit
  rcases hManned.units with ⟨desks, hDesks, hOwned⟩
  rcases hManned.permits with ⟨holders, hHolders, hOut⟩
  rcases hManned.calls with ⟨budgets, total, hBudgets, hWithin, hTotal⟩
  have hDistinct : batch.Nodup := by
    have hAll := (hOwned.placed.nodup_iff.mpr hManned.nodup).of_append_right
    rw [hFree] at hAll
    exact hAll.of_append_left
  refine ⟨hManned.numbered, ⟨desks ++ [⟨batch, []⟩], ?_, ?_⟩, ⟨holders ++ [false], ?_, hOut.start⟩,
    ⟨budgets ++ [worker.price (.flush batch)], _, ?_, hWithin.start _, ?_⟩⟩
  · exact hDesks.start SettlementWorker.trained_ownership
      ⟨rfl, hDistinct, fun unit _ => ⟨rfl, rfl⟩⟩
  · exact hOwned.assign (by rw [hFree]; exact .refl _)
  · exact hHolders.start SettlementWorker.trained_permits rfl
  · exact hBudgets.start SettlementWorker.trained_calls rfl
  · rw [hFree] at hTotal
    simp only [WorkerState.spawnFlush, free, SettlementWorker.price, List.length_append,
      Nat.add_mul] at hTotal ⊢
    omega

structure SameFrame (state after : WorkerState) : Prop where
  clock : after.clock = state.clock
  submitted : after.submitted = state.submitted
  handlesOpen : after.handlesOpen = state.handlesOpen
  queue : after.queue = state.queue
  deadline : after.deadline = state.deadline
  stopped : after.stopped = state.stopped
  history : after.crowd.history = state.crowd.history

theorem sealFull_sameFrame (worker : SettlementWorker) (rounds : ℕ) (state : WorkerState) :
    SameFrame state (state.sealFull worker rounds) := by
  induction rounds generalizing state with
  | zero => exact ⟨rfl, rfl, rfl, rfl, rfl, rfl, rfl⟩
  | succ rounds hInduction =>
      rw [sealFull]
      split
      · rcases hInduction ({ state with
            pending := state.pending.drop worker.cfg.maxPerTx }.spawnFlush worker
              (state.pending.take worker.cfg.maxPerTx)) with
          ⟨hClock, hSubmitted, hHandles, hQueue, hDeadline, hStopped, hHistory⟩
        exact ⟨hClock, hSubmitted, hHandles, hQueue, hDeadline, hStopped, hHistory⟩
      · exact ⟨rfl, rfl, rfl, rfl, rfl, rfl, rfl⟩

theorem Manned.sealFull (rounds : ℕ) (hManned : Manned worker state) :
    Manned worker (state.sealFull worker rounds) := by
  induction rounds generalizing state with
  | zero => exact hManned
  | succ rounds hInduction =>
      rw [WorkerState.sealFull]
      split
      · exact hInduction (hManned.spawnFlush (List.take_append_drop _ _).symm)
      · exact hManned

theorem length_pending_sealFull (rounds : ℕ) (state : WorkerState)
    (hRounds : state.pending.length ≤ rounds) :
    (state.sealFull worker rounds).pending.length < worker.cfg.maxPerTx := by
  have hPositive : 0 < worker.cfg.maxPerTx := by
    rw [SettlementConfig.maxPerTx]
    omega
  induction rounds generalizing state with
  | zero =>
      rw [WorkerState.sealFull]
      omega
  | succ rounds hInduction =>
      rw [WorkerState.sealFull]
      split
      · refine hInduction _ ?_
        simp only [WorkerState.spawnFlush, List.length_drop]
        omega
      · next hShort => omega

theorem Manned.flushPending (hManned : Manned worker state) :
    Manned worker (state.flushPending worker) := by
  rw [WorkerState.flushPending]
  split
  · exact hManned
  · exact hManned.spawnFlush (List.append_nil _).symm

theorem pending_flushPending : (state.flushPending worker).pending = [] := by
  rw [flushPending]
  split
  · next hEmpty => exact List.isEmpty_iff.mp hEmpty
  · rfl

theorem flushPending_sameFrame (worker : SettlementWorker) (state : WorkerState) :
    SameFrame state (state.flushPending worker) := by
  rw [flushPending]
  split <;> exact ⟨rfl, rfl, rfl, rfl, rfl, rfl, rfl⟩

/-! ### Steps -/

/-- The buffer after a unit is received and full transactions are sealed. -/
def sealed (worker : SettlementWorker) (state : WorkerState) (unit : Submitted)
    (queue : List Submitted) : WorkerState :=
  (state.push worker unit queue).sealFull worker (state.push worker unit queue).pending.length

theorem receive_cases (hReceive : state.receive worker = some after) : state.stopped = false ∧
    ((∃ unit queue, state.queue = unit :: queue ∧ after = { sealed worker state unit queue with
        deadline := if (sealed worker state unit queue).pending.isEmpty then none
          else (sealed worker state unit queue).deadline }) ∨
    (state.queue = [] ∧ state.handlesOpen = false ∧
      after = { state.flushPending worker with stopped := true })) := by
  rw [receive] at hReceive
  split at hReceive
  · cases hReceive
  · next hStopped =>
      refine ⟨by simpa using hStopped, ?_⟩
      split at hReceive
      · next unit queue hQueue =>
          exact .inl ⟨unit, queue, hQueue, (Option.some.inj hReceive).symm⟩
      · next hQueue =>
          split at hReceive
          · cases hReceive
          · next hHandles =>
              exact .inr ⟨hQueue, by simpa using hHandles, (Option.some.inj hReceive).symm⟩

theorem timer_cases (hTimer : state.timer worker = some after) : state.stopped = false ∧
    (∃ deadline, state.deadline = some deadline ∧ deadline ≤ state.clock) ∧
    after = { state.flushPending worker with deadline := none } := by
  rw [timer] at hTimer
  cases hDeadline : state.deadline with
  | none =>
      rw [hDeadline] at hTimer
      cases hTimer
  | some deadline =>
      simp only [hDeadline] at hTimer
      split at hTimer
      · cases hTimer
      · next hDue =>
          simp only [not_or, Bool.not_eq_true, not_lt] at hDue
          exact ⟨hDue.1, ⟨deadline, rfl, hDue.2⟩, (Option.some.inj hTimer).symm⟩

theorem Manned.perform {exchange : Exchange WorkerCall WorkerReply}
    {crowd : Crowd WorkerCall WorkerReply} {available : ℕ} (hManned : Manned worker state)
    (hStep : state.crowd.Step worker.crew exchange crowd)
    (hPermit : exchange.call.permitUse.take state.available = some available) :
    Manned worker { state with crowd, available } := by
  rcases hManned.units with ⟨desks, hDesks, hOwned⟩
  rcases hManned.permits with ⟨holders, hHolders, hOut⟩
  rcases hManned.calls with ⟨budgets, total, hBudgets, hWithin, hTotal⟩
  have hHistory := hStep.history
  refine ⟨hManned.numbered, ?_, ?_, ?_⟩
  · rcases hDesks.step SettlementWorker.trained_ownership hStep with
      ⟨before, desk, rest, left, given, rfl, hPasses, hLater⟩
    refine ⟨_, hLater, ?_⟩
    simp only [hHistory]
    exact hOwned.step hManned.nodup hPasses
  · rcases hHolders.step SettlementWorker.trained_permits hStep with
      ⟨before, holds, rest, held, given, rfl, hPasses, hLater⟩
    exact ⟨_, hLater, hOut.step hPasses hPermit⟩
  · rcases hBudgets.step SettlementWorker.trained_calls hStep with
      ⟨before, budget, rest, left, given, rfl, hPasses, hLater⟩
    refine ⟨_, total, hLater, ?_, hTotal⟩
    simp only [hHistory]
    exact hWithin.step hPasses

theorem Manned.submit {channelId : String} {instructions : List Instruction}
    {awaitConfirmation : Bool} (hManned : Manned worker state)
    (hSubmit : state.submit channelId instructions awaitConfirmation = some after) :
    Manned worker after ∧ after.queue ≠ [] ∧ state.handlesOpen = true := by
  rw [WorkerState.submit] at hSubmit
  split at hSubmit
  · next hOpen =>
      rw [Option.some.injEq] at hSubmit
      subst hSubmit
      rcases hManned.units with ⟨desks, hDesks, hOwned⟩
      rcases hManned.calls with ⟨budgets, total, hBudgets, hWithin, hTotal⟩
      have hNew : (⟨channelId, instructions, (), state.submitted.length, awaitConfirmation⟩ :
          Submitted) ∉ state.submitted := by
        intro hOld
        have hNumber := List.mem_map_of_mem (f := fun unit : Submitted => unit.reply) hOld
        rw [hManned.numbered] at hNumber
        exact absurd (List.mem_range.mp hNumber) (lt_irrefl _)
      refine ⟨⟨?_, ⟨desks, hDesks, ?_⟩, hManned.permits,
        ⟨budgets, total, hBudgets, hWithin, ?_⟩⟩, by simp, hOpen.1⟩
      · simp only [List.map_append, List.map_cons, List.map_nil, hManned.numbered,
          List.length_append, List.length_singleton, List.range_succ]
      · simp only [free, ← List.append_assoc]
        exact hOwned.arrive hNew
      · simp only [free, List.length_append, List.length_singleton, Nat.add_mul, one_mul]
          at hTotal ⊢
        omega
  · cases hSubmit

/-- What holds of every state of a run. -/
structure Sound (worker : SettlementWorker) (state : WorkerState) : Prop where
  manned : Manned worker state
  timed : Timed worker state

theorem Manned.sealed {unit : Submitted} {queue : List Submitted} (hManned : Manned worker state)
    (hQueue : state.queue = unit :: queue) : Manned worker (sealed worker state unit queue) := by
  refine Manned.sealFull _ (hManned.of_same rfl ?_ rfl rfl)
  simp only [free, push, hQueue, List.append_assoc, List.singleton_append]

theorem Timed.push {unit : Submitted} {queue : List Submitted} (hTimed : Timed worker state)
    (deadline : ℕ) (hDeadline : (state.push worker unit queue).deadline = some deadline) :
    deadline ≤ state.clock + worker.cfg.linger := by
  simp only [WorkerState.push, Option.some.injEq] at hDeadline
  cases hBefore : state.deadline with
  | none =>
      rw [hBefore, Option.getD_none] at hDeadline
      omega
  | some before =>
      rw [hBefore, Option.getD_some] at hDeadline
      have hDue := hTimed.due before hBefore
      omega

theorem Works.sound (hWorks : Works worker state after) (hSound : Sound worker state) :
    Sound worker after := by
  rcases hSound with ⟨hManned, hTimed⟩
  cases hWorks with
  | perform hStep hPermit =>
      exact ⟨hManned.perform hStep hPermit, hTimed.short, hTimed.armed, hTimed.due, hTimed.idle⟩
  | timer hTimer =>
      rcases timer_cases hTimer with ⟨hRunning, -, rfl⟩
      have hFrame := flushPending_sameFrame worker state
      refine ⟨hManned.flushPending.of_same rfl rfl rfl rfl, ?_, ?_, nofun, ?_⟩
      · exact Nat.lt_of_le_of_lt (by rw [pending_flushPending]; exact Nat.zero_le _) hTimed.short
      · exact fun hPending => absurd pending_flushPending hPending
      · intro hStopped
        have hStill := hFrame.stopped.symm.trans hStopped
        rw [hRunning] at hStill
        cases hStill
  | receive hReceive =>
      rcases receive_cases hReceive with
        ⟨hRunning, ⟨unit, queue, hQueue, rfl⟩ | ⟨hQueue, hClosed, rfl⟩⟩
      · have hFrame := sealFull_sameFrame worker
          (state.push worker unit queue).pending.length (state.push worker unit queue)
        refine ⟨(hManned.sealed hQueue).of_same rfl rfl rfl rfl, ?_, ?_, ?_, ?_⟩
        · exact length_pending_sealFull _ _ (Nat.le_refl _)
        · intro hPending
          refine ⟨state.deadline.getD (state.clock + worker.cfg.linger), ?_⟩
          refine Eq.trans (if_neg fun hEmpty => hPending (List.isEmpty_iff.mp hEmpty)) ?_
          exact hFrame.deadline
        · intro deadline hDeadline
          simp only at hDeadline
          split at hDeadline
          · cases hDeadline
          · have hClock : (sealed worker state unit queue).clock = state.clock := hFrame.clock
            exact le_of_le_of_eq (hTimed.push deadline (hFrame.deadline.symm.trans hDeadline))
              (congrArg (· + worker.cfg.linger) hClock.symm)
        · intro hStopped
          have hStill := hFrame.stopped.symm.trans hStopped
          rw [show (state.push worker unit queue).stopped = false from hRunning] at hStill
          cases hStill
      · have hFrame := flushPending_sameFrame worker state
        refine ⟨hManned.flushPending.of_same rfl rfl rfl rfl, ?_, ?_, ?_, ?_⟩
        · exact Nat.lt_of_le_of_lt (by rw [pending_flushPending]; exact Nat.zero_le _) hTimed.short
        · exact fun hPending => absurd pending_flushPending hPending
        · intro deadline hDeadline
          exact le_of_le_of_eq (hTimed.due deadline (hFrame.deadline.symm.trans hDeadline))
            (congrArg (· + worker.cfg.linger) hFrame.clock.symm)
        · intro _
          refine ⟨hFrame.handlesOpen.trans hClosed, ?_⟩
          simp only [free, pending_flushPending, List.nil_append]
          exact hFrame.queue.trans hQueue

theorem Moves.sound (hMoves : Moves worker state after) (hSound : Sound worker state) :
    Sound worker after := by
  cases hMoves with
  | works hWorks => exact hWorks.sound hSound
  | submit hSubmit =>
      rcases hSound.manned.submit hSubmit with ⟨hManned, -, hOpen⟩
      rw [WorkerState.submit] at hSubmit
      split at hSubmit
      · rw [Option.some.injEq] at hSubmit
        subst hSubmit
        refine ⟨hManned, hSound.timed.short, hSound.timed.armed, hSound.timed.due, ?_⟩
        intro hStopped
        rw [(hSound.timed.idle hStopped).1] at hOpen
        cases hOpen
      · cases hSubmit
  | dropHandles =>
      exact ⟨hSound.manned.of_same rfl rfl rfl rfl, hSound.timed.short, hSound.timed.armed,
        hSound.timed.due, fun hStopped => ⟨rfl, (hSound.timed.idle hStopped).2⟩⟩
  | tick elapsed =>
      refine ⟨hSound.manned.of_same rfl rfl rfl rfl, hSound.timed.short, hSound.timed.armed, ?_,
        hSound.timed.idle⟩
      intro deadline hDeadline
      have hDue := hSound.timed.due deadline hDeadline
      simp only [WorkerState.tick]
      omega

theorem sound_of_reachable (hRun : Reachable worker state) : Sound worker state := by
  induction hRun with
  | refl =>
      refine ⟨start_manned, ?_, fun hPending => absurd rfl hPending, nofun, nofun⟩
      simp only [start, List.length_nil, SettlementConfig.maxPerTx]
      omega
  | tail _ hMoves hSound => exact hMoves.sound hSound

/-! ### What a run does to a unit -/

theorem exists_reply_of_answers {unit : Submitted} {outcome : SettlementResult} {past : WorkerPast}
    (hAnswer : outcome ∈ answers unit past) :
    ∃ older, ⟨.reply unit outcome, ()⟩ :: older <:+ past := by
  rcases List.mem_filterMap.mp hAnswer with ⟨⟨call, reply⟩, hExchange, hRead⟩
  cases call with
  | reply other told =>
      simp only [answerOf, Option.ite_none_right_eq_some, Option.some.injEq] at hRead
      rcases hRead with ⟨rfl, rfl⟩
      rcases List.append_of_mem hExchange with ⟨newer, older, hSplit⟩
      exact ⟨older, newer, hSplit.symm⟩
  | _ => cases hRead

theorem warranted_of_suffix (hManned : Manned worker state)
    {exchange : Exchange WorkerCall WorkerReply} {older : WorkerPast}
    (hMoment : exchange :: older <:+ state.crowd.history) :
    ∃ past : WorkerPast, past.Sublist older ∧ exchange.call.Warranted worker past ∧
      ∀ unit ∈ exchange.call.concerns,
        sends unit past = sends unit older ∧ answers unit past = answers unit older := by
  rcases hManned.units with ⟨desks, -, hOwned⟩
  rcases hOwned.warranted exchange older hMoment with ⟨past, hKnown, hAbout, hWarrants⟩
  refine ⟨past, hKnown, hWarrants, fun unit hUnit => ?_⟩
  have hSame := hAbout unit hUnit
  constructor
  · rw [← sends_about worker, hSame, sends_about]
  · rw [← answers_about worker, hSame, answers_about]

theorem Manned.concerned (hManned : Manned worker state)
    {exchange : Exchange WorkerCall WorkerReply} {older : WorkerPast}
    (hMoment : exchange :: older <:+ state.crowd.history) :
    ∀ unit ∈ exchange.call.concerns, unit ∈ state.submitted := by
  rcases hManned.units with ⟨desks, -, hOwned⟩
  exact hOwned.concerned exchange (hMoment.mem List.mem_cons_self)

theorem length_answers_le (hManned : Manned worker state) (unit : Submitted) (moment : WorkerPast)
    (hMoment : moment <:+ state.crowd.history) : (answers unit moment).length ≤ 1 := by
  induction moment with
  | nil => exact Nat.zero_le _
  | cons exchange older hInduction =>
      have hOlder := hInduction ((List.suffix_cons _ _).trans hMoment)
      cases hAnswer : answerOf unit exchange with
      | none =>
          rw [answers, List.filterMap_cons_none hAnswer]
          exact hOlder
      | some outcome =>
          rcases exchange with ⟨call, reply⟩
          cases call with
          | reply other told =>
              have hSame : other = unit := by
                by_contra hOther
                rw [answerOf, if_neg hOther] at hAnswer
                cases hAnswer
              rcases warranted_of_suffix hManned hMoment with ⟨past, -, hWarranted, hViews⟩
              have hNone : answers unit older = [] := by
                rw [← hSame, ← (hViews other List.mem_cons_self).2]
                exact hWarranted.1
              rw [answers, List.filterMap_cons_some hAnswer, List.length_cons]
              exact Nat.le_of_eq (congrArg (·.length + 1) hNone)
          | _ => cases hAnswer

/-- How a unit was sent until then: never, with others or alone as one of a group, or once more and
alone after its packed transaction was reported to have failed. -/
inductive SentAs (worker : SettlementWorker) (moment : WorkerPast) (unit : Submitted) :
    List Sent → Prop
  | never : SentAs worker moment unit []
  | once {first : Sent} (hGroup : Group worker first.carries) : SentAs worker moment unit [first]
  | again {second first : Sent} {signature error : String} (hAlone : second.carries = [unit])
      (hGroup : Group worker first.carries) (hPacked : 2 ≤ first.carries.length)
      (hSent : first.outcome = .ok signature)
      (hReported : Reported moment signature (.failed error)) :
      SentAs worker moment unit [second, first]

theorem SentAs.cons {moment : WorkerPast} {unit : Submitted} {sent : List Sent}
    (exchange : Exchange WorkerCall WorkerReply) (hSent : SentAs worker moment unit sent) :
    SentAs worker (exchange :: moment) unit sent := by
  cases hSent with
  | never => exact .never
  | once hGroup => exact .once hGroup
  | again hAlone hGroup hPacked hSent hReported =>
      exact .again hAlone hGroup hPacked hSent (hReported.since (List.subset_cons_self _ _))

theorem sentAs_of_manned (hManned : Manned worker state) (unit : Submitted) (moment : WorkerPast)
    (hMoment : moment <:+ state.crowd.history) : SentAs worker moment unit (sends unit moment) := by
  induction moment with
  | nil => exact .never
  | cons exchange older hInduction =>
      have hOlder := hInduction ((List.suffix_cons _ _).trans hMoment)
      cases hSend : sentOf unit exchange with
      | none =>
          rw [sends, List.filterMap_cons_none hSend]
          exact hOlder.cons exchange
      | some sent =>
          rcases exchange with ⟨call, reply⟩
          cases call with
          | send carries tx =>
              have hCarried : unit ∈ carries := by
                by_contra hElsewhere
                rw [sentOf, if_neg hElsewhere] at hSend
                cases hSend
              rcases warranted_of_suffix hManned hMoment with ⟨past, hKnown, ⟨-, hMaySend⟩, hViews⟩
              rw [sends_send tx reply hCarried, ← (hViews unit hCarried).1]
              rw [← (hViews unit hCarried).1] at hOlder
              cases hMaySend with
              | together hGroup hFresh =>
                  rw [(hFresh unit hCarried).1]
                  exact .once hGroup
              | alone hFailed =>
                  rcases List.mem_singleton.mp hCarried with rfl
                  rcases hFailed with ⟨group, packed, signature, error, hFirst, hMany, hReported⟩
                  rw [hFirst] at hOlder ⊢
                  cases hOlder with
                  | once hGroup =>
                      exact .again rfl hGroup hMany rfl
                        (List.mem_cons_of_mem _ (hKnown.subset hReported))
          | _ => cases hSend

/-! ### The worker comes to rest -/

/-- What the actor still has to do, with the calls for the units that it holds. -/
def actorCost (worker : SettlementWorker) (state : WorkerState) : ℕ :=
  state.pending.length * (worker.callsPerUnit + 1) + state.queue.length * (worker.callsPerUnit + 3)
    + (!state.stopped).toNat + state.deadline.isSome.toNat

/-- The worker can make at most so many steps. -/
def Costs (worker : SettlementWorker) (state : WorkerState) (total : ℕ) : Prop :=
  ∃ budgets, Staffed worker.crew (budgetRules WorkerCall WorkerReply worker.price) (fun _ => True)
    budgets state.crowd ∧ budgets.sum + actorCost worker state ≤ total

section

variable {total : ℕ}

theorem Costs.spawnFlush {batch rest : List Submitted} (hCosts : Costs worker state total)
    (hPending : state.pending = batch ++ rest) :
    Costs worker ({ state with pending := rest }.spawnFlush worker batch) total := by
  rcases hCosts with ⟨budgets, hBudgets, hTotal⟩
  refine ⟨budgets ++ [worker.price (.flush batch)],
    hBudgets.start SettlementWorker.trained_calls rfl, ?_⟩
  simp only [actorCost, hPending, WorkerState.spawnFlush, List.sum_append, List.sum_singleton,
    SettlementWorker.price, List.length_append, Nat.add_mul, Nat.mul_add] at hTotal ⊢
  omega

theorem Costs.sealFull (rounds : ℕ) (hCosts : Costs worker state total) :
    Costs worker (state.sealFull worker rounds) total := by
  induction rounds generalizing state with
  | zero => exact hCosts
  | succ rounds hInduction =>
      rw [WorkerState.sealFull]
      split
      · exact hInduction (hCosts.spawnFlush (List.take_append_drop _ _).symm)
      · exact hCosts

theorem Costs.flushPending (hCosts : Costs worker state total) :
    Costs worker (state.flushPending worker) total := by
  rw [WorkerState.flushPending]
  split
  · exact hCosts
  · exact hCosts.spawnFlush (List.append_nil _).symm

theorem Works.costs (hWorks : Works worker state after) (hCosts : Costs worker state total) :
    ∃ left, left < total ∧ Costs worker after left := by
  cases hWorks with
  | perform hStep hPermit =>
      rcases hCosts with ⟨budgets, hBudgets, hWithin⟩
      rcases hBudgets.step SettlementWorker.trained_calls hStep with
        ⟨before, budget, rest, left, given, rfl, hPasses, hLater⟩
      have hSpent : left + given.sum + 1 ≤ budget := hPasses
      refine ⟨total - 1, ?_, _, hLater, ?_⟩
      · simp only [List.sum_append, List.sum_cons] at hWithin
        omega
      · simp only [actorCost, List.sum_append, List.sum_cons] at hWithin ⊢
        omega
  | timer hTimer =>
      rcases timer_cases hTimer with ⟨-, ⟨deadline, hDeadline, -⟩, rfl⟩
      have hFrame := flushPending_sameFrame worker state
      have hArmed : (state.flushPending worker).deadline.isSome = true := by
        rw [hFrame.deadline, hDeadline]
        rfl
      rcases hCosts.flushPending with ⟨budgets, hBudgets, hWithin⟩
      refine ⟨total - 1, ?_, budgets, hBudgets, ?_⟩
      · simp only [actorCost, hArmed, Bool.toNat_true] at hWithin
        omega
      · simp only [actorCost, hArmed, Bool.toNat_true, Option.isSome_none, Bool.toNat_false]
          at hWithin ⊢
        omega
  | receive hReceive =>
      rcases receive_cases hReceive with
        ⟨hRunning, ⟨unit, queue, hQueue, rfl⟩ | ⟨hQueue, hClosed, rfl⟩⟩
      · have hPushed : ∃ left, left < total ∧ Costs worker (state.push worker unit queue) left := by
          rcases hCosts with ⟨budgets, hBudgets, hWithin⟩
          have hFlag := Bool.toNat_le state.deadline.isSome
          simp only [actorCost, hQueue, List.length_cons, Nat.add_mul, one_mul] at hWithin
          refine ⟨total - 1, by omega, budgets, hBudgets, ?_⟩
          simp only [actorCost, push, List.length_append, List.length_singleton, Nat.add_mul,
            one_mul, Option.isSome_some, Bool.toNat_true]
          omega
        rcases hPushed with ⟨left, hLess, hLeft⟩
        rcases hLeft.sealFull (state.push worker unit queue).pending.length with
          ⟨budgets, hBudgets, hWithin⟩
        refine ⟨left, hLess, budgets, hBudgets, Nat.le_trans ?_ hWithin⟩
        have hArmed : (sealed worker state unit queue).deadline.isSome = true := by
          rw [sealed, (sealFull_sameFrame _ _ _).deadline]
          rfl
        have hFlag := Bool.toNat_le (if (sealed worker state unit queue).pending.isEmpty then none
          else (sealed worker state unit queue).deadline).isSome
        simp only [sealed] at hArmed hFlag
        simp only [actorCost, sealed, hArmed, Bool.toNat_true]
        omega
      · have hFrame := flushPending_sameFrame worker state
        have hRuns : (state.flushPending worker).stopped = false := hFrame.stopped.trans hRunning
        rcases hCosts.flushPending with ⟨budgets, hBudgets, hWithin⟩
        refine ⟨total - 1, ?_, budgets, hBudgets, ?_⟩
        · simp only [actorCost, hRuns, Bool.not_false, Bool.toNat_true] at hWithin
          omega
        · simp only [actorCost, hRuns, Bool.not_false, Bool.toNat_true, Bool.not_true,
            Bool.toNat_false] at hWithin ⊢
          omega

end

/-- The worker makes so many steps by itself, while time passes. -/
inductive Goes (worker : SettlementWorker) : ℕ → WorkerState → WorkerState → Prop
  | rest (state : WorkerState) : Goes worker 0 state state
  | works {steps : ℕ} {state next after : WorkerState} (hWorks : Works worker state next)
      (hRest : Goes worker steps next after) : Goes worker (steps + 1) state after
  | tick {steps : ℕ} {state after : WorkerState} (elapsed : ℕ)
      (hRest : Goes worker steps (state.tick elapsed) after) : Goes worker steps state after

theorem Goes.steps_le {steps total : ℕ} (hGoes : Goes worker steps state after)
    (hCosts : Costs worker state total) : steps ≤ total := by
  induction hGoes generalizing total with
  | rest state => exact Nat.zero_le _
  | works hWorks _ hInduction =>
      rcases hWorks.costs hCosts with ⟨left, hLess, hLeft⟩
      exact Nat.succ_le_of_lt (Nat.lt_of_le_of_lt (hInduction hLeft) hLess)
  | tick elapsed _ hInduction => exact hInduction hCosts

theorem Manned.costs (hManned : Manned worker state) :
    Costs worker state (state.submitted.length * (worker.callsPerUnit + 3) + 2) := by
  rcases hManned.calls with ⟨budgets, total, hBudgets, hWithin, hTotal⟩
  rcases hManned.units with ⟨desks, -, hOwned⟩
  refine ⟨budgets, hBudgets, ?_⟩
  have hHeld : state.free.length ≤ state.submitted.length := by
    have hLength := hOwned.placed.length_eq
    rw [List.length_append] at hLength
    omega
  have hRunning := Bool.toNat_le (!state.stopped)
  have hArmed := Bool.toNat_le state.deadline.isSome
  simp only [WithinBudget, actorCost, free, List.length_append, Nat.add_mul, Nat.mul_add]
    at hWithin hTotal hHeld ⊢
  omega

/-- As long as something is left to do, the worker can make a step, after the linger window at the
latest. -/
theorem Sound.progress (hSound : Sound worker state) (hLeft : ¬state.Settled) :
    ∃ elapsed ≤ worker.cfg.linger, ∃ after, Works worker (state.tick elapsed) after := by
  have hRunning : state.free ≠ [] → state.stopped = false := by
    intro hFree
    cases hStopped : state.stopped with
    | false => rfl
    | true => exact absurd (hSound.timed.idle hStopped).2 hFree
  cases hQueue : state.queue with
  | cons unit queue =>
      have hStill : state.stopped = false := hRunning (by simp [free, hQueue])
      have hReceive : ∃ after, (state.tick 0).receive worker = some after := by
        simp only [receive, tick, hStill, hQueue, Bool.false_eq_true, if_false]
        exact ⟨_, rfl⟩
      rcases hReceive with ⟨after, hReceive⟩
      exact ⟨0, Nat.zero_le _, after, .receive hReceive⟩
  | nil =>
      by_cases hPending : state.pending = []
      · have hWaits : ¬state.crowd.Finished := fun hFinished => hLeft ⟨hQueue, hPending, hFinished⟩
        rcases hSound.manned.permits with ⟨holders, hHolders, hOut⟩
        have hReplies : ∀ call : WorkerCall, Inhabited (WorkerReply call) := by
          intro call
          cases call with
          | latestBlockhash => exact ⟨(.error "" : Except String (List UInt8))⟩
          | sign tx => exact ⟨(.error "" : Except String Signature)⟩
          | send carries tx => exact ⟨(.error "" : Except String String)⟩
          | confirm signature => exact ⟨(.error "" : Except String ConfirmOutcome)⟩
          | _ => exact ⟨()⟩
        have hSome : 0 < worker.cfg.permits := by
          rw [SettlementConfig.permits]
          omega
        rcases exists_going hHolders hOut hSome hWaits with ⟨call, next, hTask, left, hTake⟩
        rcases Crowd.exists_step worker.crew hTask default with ⟨crowd, hStep⟩
        exact ⟨0, Nat.zero_le _, _, .perform hStep hTake⟩
      · have hStill : state.stopped = false := hRunning (by simp [free, hPending])
        rcases hSound.timed.armed hPending with ⟨deadline, hDeadline⟩
        have hDue := hSound.timed.due deadline hDeadline
        have hTimer : ∃ after,
            (state.tick (deadline - state.clock)).timer worker = some after := by
          simp only [timer, tick, hDeadline, hStill]
          exact ⟨_, if_neg (by simp only [Bool.false_eq_true, false_or]; omega)⟩
        rcases hTimer with ⟨after, hTimer⟩
        exact ⟨deadline - state.clock, by omega, after, .timer hTimer⟩

/-! ### The results -/

/-- In every run, a unit is answered at most once, and never one that was not submitted. The worker
comes to rest: as long as a unit waits or a task runs it can make a step, after the linger window
at the latest, and the steps it makes without a new submission are bounded by the number of units.
Once it rests, every unit has been answered exactly once and every permit is back. -/
theorem units_answered_once (hRun : Reachable worker state) :
    (∀ unit, (answers unit state.crowd.history).length ≤ 1) ∧
    (∀ unit, answers unit state.crowd.history ≠ [] → unit ∈ state.submitted) ∧
    (¬state.Settled →
      ∃ elapsed ≤ worker.cfg.linger, ∃ after, Works worker (state.tick elapsed) after) ∧
    (∀ steps after, Goes worker steps state after →
      steps ≤ state.submitted.length * (worker.callsPerUnit + 3) + 2) ∧
    (state.Settled → state.available = worker.cfg.permits ∧
      ∀ unit ∈ state.submitted, ∃ outcome, answers unit state.crowd.history = [outcome]) := by
  have hSound := sound_of_reachable hRun
  have hOnce := fun unit => length_answers_le hSound.manned unit _ List.suffix_rfl
  refine ⟨hOnce, ?_, hSound.progress, fun steps after hGoes => hGoes.steps_le hSound.manned.costs,
    ?_⟩
  · intro unit hAnswered
    rcases List.exists_mem_of_ne_nil _ hAnswered with ⟨outcome, hOutcome⟩
    rcases exists_reply_of_answers hOutcome with ⟨older, hMoment⟩
    exact hSound.manned.concerned hMoment unit List.mem_cons_self
  · rintro ⟨hQueue, hPending, hFinished⟩
    rcases hSound.manned.units with ⟨desks, hDesks, hOwned⟩
    rcases hSound.manned.permits with ⟨holders, hHolders, hOut⟩
    refine ⟨all_available hHolders hOut hFinished, fun unit hUnit => ?_⟩
    rcases hOwned.desk_of_mem hUnit (by simp [free, hQueue, hPending]) with ⟨desk, hDesk, hMine⟩
    have hAnswered := hDesks.finished hFinished hDesk unit hMine
    rw [← answers_about worker, hOwned.told desk hDesk unit hMine, answers_about] at hAnswered
    have hLength := hOnce unit
    match hAnswers : answers unit state.crowd.history with
    | [] => exact absurd hAnswers hAnswered
    | [outcome] => exact ⟨outcome, rfl⟩
    | _ :: _ :: _ =>
        rw [hAnswers] at hLength
        simp at hLength

/-- In every run and at every moment of it, a unit was sent in one group at most, which holds no
more units than the cap and, if several, fits in one transaction; and once more only, alone, after
that transaction was reported to have failed on-chain. What is sent is the transaction of the
instructions of exactly its units. -/
theorem units_sent_once (hRun : Reachable worker state) {moment : WorkerPast}
    (hMoment : moment <:+ state.crowd.history) :
    (∀ unit, SentAs worker moment unit (sends unit moment)) ∧
    ∀ carries tx outcome older, moment = ⟨.send carries tx, outcome⟩ :: older →
      (∀ unit ∈ carries, unit ∈ state.submitted) ∧ BuiltFrom worker older carries tx := by
  have hManned := (sound_of_reachable hRun).manned
  refine ⟨fun unit => sentAs_of_manned hManned unit moment hMoment, ?_⟩
  rintro carries tx outcome older rfl
  refine ⟨hManned.concerned hMoment, ?_⟩
  rcases warranted_of_suffix hManned hMoment with ⟨past, hKnown, ⟨hBuilt, -⟩, -⟩
  rcases hBuilt with ⟨blockhash, unsigned, hBlockhash, hUnsigned, hMessage⟩
  exact ⟨blockhash, unsigned, hKnown.subset hBlockhash, hUnsigned, hMessage⟩

/-- In every run, the answer to a unit is explained by what happened before it: a signature is that
of a transaction which carried the unit, and was reported confirmed if the unit asked for that; an
error says why it was not sent, that its transaction was not confirmed in time, or that a
transaction which carried it alone failed on-chain. -/
theorem answers_explained (hRun : Reachable worker state) {unit : Submitted}
    {outcome : SettlementResult} {reply : WorkerReply (.reply unit outcome)} {older : WorkerPast}
    (hMoment : ⟨.reply unit outcome, reply⟩ :: older <:+ state.crowd.history) :
    unit ∈ state.submitted ∧ Explained worker older unit outcome := by
  have hManned := (sound_of_reachable hRun).manned
  refine ⟨hManned.concerned hMoment unit List.mem_cons_self, ?_⟩
  rcases warranted_of_suffix hManned hMoment with ⟨past, hKnown, ⟨-, hExplained⟩, hViews⟩
  exact hExplained.since hKnown.subset (hViews unit List.mem_cons_self).1.symm

/-! ### A run

Two units that are packed together, one of which waits for its confirmation, and a third one that
the timer flushes. The packed transaction fails on-chain. -/

/-- A worker with room for two units in a transaction and with one permit. -/
def pairingWorker : SettlementWorker where
  cfg := { SettlementConfig.new (.numbered 1) (.numbered 1) with
    maxVoucherSettlementsPerTx := 2
    maxInFlightTx := 1
    confirmAttempts := 2 }
  compile := fun _ payer _ blockhash => .ok ⟨⟨1, 0, 0⟩, [payer], blockhash, []⟩
  serializedSize := fun _ => .ok 200

/-- A broadcaster that reports a transaction of several units as failed. -/
def broadcast : (call : WorkerCall) → WorkerReply call
  | .acquire => ()
  | .release => ()
  | .latestBlockhash => (.ok (List.replicate 32 0) : Except String (List UInt8))
  | .sign _ => (.ok Signature.default : Except String Signature)
  | .send carries _ => (.ok (if carries.length = 1 then "alone" else "packed") :
      Except String String)
  | .confirm signature => (.ok (if signature = "packed" then .failed "custom program error"
      else .confirmed) : Except String ConfirmOutcome)
  | .sleep _ => ()
  | .reply _ _ => ()
  | .spawn _ => ()

/-- The task at an index makes its call, if that can be answered. -/
def performAt (worker : SettlementWorker) (state : WorkerState) (index : ℕ) : Option WorkerState :=
  match state.crowd.tasks.drop index with
  | .perform call next :: after =>
      (call.permitUse.take state.available).map fun available =>
        { state with
          available
          crowd := ⟨state.crowd.tasks.take index ++ next (broadcast call) :: after
              ++ (worker.crew.starts call).map worker.crew.body,
            ⟨call, broadcast call⟩ :: state.crowd.history⟩ }
  | _ => none

theorem works_of_performAt {index : ℕ} (hPerform : performAt worker state index = some after) :
    Works worker state after := by
  rw [performAt] at hPerform
  split at hPerform
  · next call next rest hTask =>
      rw [Option.map_eq_some_iff] at hPerform
      rcases hPerform with ⟨available, hTake, rfl⟩
      have hStep : Crowd.Step worker.crew _ _ _ := .perform (state.crowd.tasks.take index) rest call
        next (broadcast call) state.crowd.history
      rw [← hTask, List.take_append_drop] at hStep
      exact .perform hStep hTake
  · cases hPerform

/-- The first task that can makes its call. -/
def performFirst (worker : SettlementWorker) (state : WorkerState) : Option WorkerState :=
  (List.range state.crowd.tasks.length).findSome? (performAt worker state)

/-- Tasks make their calls as long as one can, up to a bound. -/
def performAll (worker : SettlementWorker) : ℕ → WorkerState → WorkerState
  | 0, state => state
  | calls + 1, state =>
      match performFirst worker state with
      | some after => performAll worker calls after
      | none => state

theorem reachable_performAll (calls : ℕ) (hRun : Reachable worker state) :
    Reachable worker (performAll worker calls state) := by
  induction calls generalizing state with
  | zero => exact hRun
  | succ calls hInduction =>
      rw [performAll]
      split
      · next after hFirst =>
          rcases List.exists_of_findSome?_eq_some hFirst with ⟨index, -, hPerform⟩
          exact hInduction (hRun.tail (.works (works_of_performAt hPerform)))
      · exact hRun

/-- Three units are submitted and received, and the timer fires. -/
def flushed : Option WorkerState := do
  let state ← (start pairingWorker.cfg).submit "first" [] true
  let state ← state.submit "second" [] false
  let state ← state.submit "third" [] true
  let state ← state.receive pairingWorker
  let state ← state.receive pairingWorker
  let state ← state.receive pairingWorker
  (state.tick 350).timer pairingWorker

def settledRun : WorkerState :=
  performAll pairingWorker 60 (flushed.getD (start pairingWorker.cfg))

theorem reachable_flushed {flush : WorkerState} (hFlushed : flushed = some flush) :
    Reachable pairingWorker flush := by
  simp only [flushed, Option.bind_eq_bind, Option.bind_eq_some_iff] at hFlushed
  rcases hFlushed with ⟨first, hFirst, second, hSecond, third, hThird, one, hOne, two, hTwo, three,
    hThree, hTimer⟩
  have hSubmitted : Reachable pairingWorker third :=
    ((Relation.ReflTransGen.single (.submit hFirst)).tail (.submit hSecond)).tail (.submit hThird)
  have hReceived : Reachable pairingWorker three :=
    ((hSubmitted.tail (.works (.receive hOne))).tail (.works (.receive hTwo))).tail
      (.works (.receive hThree))
  exact (hReceived.tail (.tick three 350)).tail (.works (.timer hTimer))

theorem settledRun_reachable : Reachable pairingWorker settledRun := by
  refine reachable_performAll _ ?_
  cases hFlushed : flushed with
  | none => exact .refl
  | some flush => exact reachable_flushed hFlushed

def isDone : Program WorkerCall WorkerReply Unit → Bool
  | .done _ => true
  | .perform _ _ => false

theorem finished_of_isDone {crowd : Crowd WorkerCall WorkerReply}
    (hDone : crowd.tasks.all isDone = true) : crowd.Finished := by
  intro task hTask
  have hThis := List.all_eq_true.mp hDone task hTask
  cases task with
  | done result => rfl
  | perform call next => cases hThis

theorem settled_settledRun : settledRun.Settled :=
  ⟨by decide +kernel, by decide +kernel, finished_of_isDone (by decide +kernel)⟩

def packedUnit : Submitted :=
  ⟨"first", [], (), 0, true⟩

theorem units_answered_once_of_settledRun : settledRun.submitted.length = 3 ∧
    settledRun.available = 1 ∧ ∀ unit ∈ settledRun.submitted,
      ∃ outcome, answers unit settledRun.crowd.history = [outcome] :=
  ⟨by decide +kernel, (units_answered_once settledRun_reachable).2.2.2.2 settled_settledRun⟩

theorem units_sent_once_of_settledRun :
    (sends packedUnit settledRun.crowd.history).length = 2 ∧
      SentAs pairingWorker settledRun.crowd.history packedUnit
        (sends packedUnit settledRun.crowd.history) :=
  ⟨by decide +kernel, (units_sent_once settledRun_reachable List.suffix_rfl).1 packedUnit⟩

theorem answers_explained_of_settledRun : ∃ older,
    ⟨.reply packedUnit (.ok "alone"), ()⟩ :: older <:+ settledRun.crowd.history ∧
      Explained pairingWorker older packedUnit (.ok "alone") := by
  have hAnswer : .ok "alone" ∈ answers packedUnit settledRun.crowd.history := by decide +kernel
  rcases exists_reply_of_answers hAnswer with ⟨older, hMoment⟩
  exact ⟨older, hMoment, (answers_explained settledRun_reachable hMoment).2⟩

end WorkerState

end PayKit.Settlement
