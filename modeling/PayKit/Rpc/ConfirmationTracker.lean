import PayKit.Concurrency.Actor
import PayKit.Tx.Message
import Mathlib.Data.List.AList

/-!
# The confirmation tracker

`run_confirmation_tracker` of `core/tx_pipeline.rs`: one task follows all signatures whose
confirmation somebody waits for. Requests for one signature are merged and share the latest of their
deadlines. The task asks for the statuses of all pending signatures, in chunks of which some are
under way at a time, and answers the waiters of those that are decided.

Whoever sends requests, the clock and the node are the environment: requests may arrive and the
senders may go at any step, time passes between any two steps, the chunks complete in any order,
and a reply may fail, be short, be too long or miss a status. A pause of the source is a step that is
taken at any later time. A map is read in any order of its keys.

A waiter is the number of its request. The state also keeps the requests that were sent and the
statuses that were reported, which no step reads.
-/

namespace PayKit.Rpc

open Concurrency Solana Tx

/-- The errors that the tasks of the pipeline answer with. -/
inductive TxPipelineError where
  | transactionFailed (signature : Signature) (reason : String)
  | confirmationTimeout (signature : Signature)
  | accountReadFailed
  | accountDecodeFailed (address : Pubkey)
  | accountOwnerMismatch (address : Pubkey)
deriving DecidableEq

structure ConfirmedTransaction where
  signature : Signature
  slot : ℕ
deriving DecidableEq

/-- A status that a node reports. Whether it satisfies the confirmed commitment is for its library
to say. -/
structure TransactionStatus where
  slot : ℕ
  err : Option String
  confirmed : Bool
deriving DecidableEq

structure ConfirmationRequest where
  signature : Signature
  deadline : ℕ
  response : ℕ
deriving DecidableEq

structure PendingConfirmation where
  deadline : ℕ
  responses : List ℕ
deriving DecidableEq

/-- An answer to a waiter, with the time at which it was sent. -/
structure ConfirmationAnswer where
  response : ℕ
  result : Except TxPipelineError ConfirmedTransaction
  time : ℕ

def confirmBatchLimit : ℕ := 256

inductive TrackerLocation where
  | start
  | coalescing
  | draining
  /-- The chunks that are not asked for yet, and those that are under way. -/
  | polling (waiting inFlight : List (List Signature))
  | expiring
  | delaying
  | stopped
deriving DecidableEq

abbrev PendingMap :=
  AList fun _ : Signature => PendingConfirmation

structure TrackerState where
  clock : ℕ := 0
  sent : List ConfirmationRequest := []
  queue : List ConfirmationRequest := []
  sendersOpen : Bool := true
  pending : PendingMap := ∅
  receiverOpen : Bool := true
  location : TrackerLocation := .start
  reports : List (Signature × TransactionStatus) := []
  answers : List ConfirmationAnswer := []

def addConfirmation (pending : PendingMap) (request : ConfirmationRequest) : PendingMap :=
  let entry := (pending.lookup request.signature).getD ⟨request.deadline, []⟩
  pending.insert request.signature
    ⟨max entry.deadline request.deadline, entry.responses ++ [request.response]⟩

def waiters (pending : PendingMap) : List ℕ :=
  pending.entries.flatMap fun entry => entry.2.responses

namespace TrackerState

variable (state : TrackerState)

def held : List ℕ :=
  waiters state.pending

def completeConfirmation (signature : Signature)
    (result : Except TxPipelineError ConfirmedTransaction) : TrackerState :=
  match state.pending.lookup signature with
  | none => state
  | some item =>
      { state with
        pending := state.pending.erase signature
        answers := state.answers ++ item.responses.map (⟨·, result, state.clock⟩) }

/-- The task takes the next request out of the queue. -/
def receive (request : ConfirmationRequest) (queue : List ConfirmationRequest) : TrackerState :=
  { state with queue, pending := addConfirmation state.pending request }

/-- What a status of a signature decides. -/
def recordStatus : Signature × Option TransactionStatus → TrackerState
  | (_, none) => state
  | (signature, some status) =>
      let state := { state with reports := (signature, status) :: state.reports }
      match status.err with
      | some error =>
          state.completeConfirmation signature (.error (.transactionFailed signature error))
      | none =>
          if status.confirmed then
            state.completeConfirmation signature (.ok ⟨signature, status.slot⟩)
          else state

/-- A reply lists the statuses in the order of the signatures that were asked for. -/
def recordStatuses (chunk : List Signature) (statuses : List (Option TransactionStatus)) :
    TrackerState :=
  (chunk.zip statuses).foldl recordStatus state

/-- The deadline of the signature is over. -/
def Expired (signature : Signature) : Prop :=
  ∃ item ∈ state.pending.lookup signature, item.deadline ≤ state.clock

instance (signature : Signature) : Decidable (state.Expired signature) :=
  inferInstanceAs (Decidable (∃ item ∈ state.pending.lookup signature, item.deadline ≤ state.clock))

/-- The waiters of the signatures that are over are told so. -/
def expire (order : List Signature) : TrackerState :=
  (order.filter fun signature => state.Expired signature).foldl
    (fun state signature => state.completeConfirmation signature
      (.error (.confirmationTimeout signature))) state

end TrackerState

/-! ### Moves -/

inductive TrackerMove where
  /-- Somebody sends a request. -/
  | send (signature : Signature) (deadline : ℕ)
  | dropSenders
  | tick (elapsed : ℕ)
  /-- The task goes on by itself: it receives, wakes up or finds nothing left to do. -/
  | advance
  /-- The task asks for the statuses of the signatures in the map. -/
  | snapshot (order : List Signature)
  /-- The call about a chunk returns. -/
  | reply (index : ℕ) (statuses : Option (List (Option TransactionStatus)))
  /-- The task reads the clock and goes through the map. -/
  | expire (order : List Signature)
  /-- The task receives while it waits for the next round. -/
  | receive

/-- How many chunks are under way at a time. -/
def statusConcurrency (maxSendConcurrency : ℕ) : ℕ :=
  max 1 (min maxSendConcurrency 32)

namespace TrackerState

variable (state : TrackerState)

/-- What the task does next by itself, if it does not have to wait. -/
def advance : Option TrackerState :=
  match state.location with
  | .start =>
      if state.pending.entries ≠ [] then some { state with location := .coalescing }
      else if ¬state.receiverOpen then some { state with location := .stopped }
      else
        match state.queue with
        | request :: queue => some { state.receive request queue with location := .coalescing }
        | [] => if state.sendersOpen then none else some { state with location := .stopped }
  | .coalescing => some { state with location := .draining }
  | .draining =>
      match state.queue with
      | request :: queue => some (state.receive request queue)
      | [] => none
  | .polling _ [] => some { state with location := .expiring }
  | .delaying => some { state with location := .start }
  | _ => none

/-- The keys of the map are cut into chunks, and the first ones are asked for. -/
def snapshot (concurrency : ℕ) (order : List Signature) : Option TrackerState :=
  if state.location = .draining ∧ state.queue = [] ∧ order.Perm state.pending.keys then
    let chunks := order.toChunks confirmBatchLimit
    some { state with location := .polling (chunks.drop concurrency) (chunks.take concurrency) }
  else none

/-- A call returns, or the task that made it failed. The next chunk is asked for in its place. -/
def reply (index : ℕ) (statuses : Option (List (Option TransactionStatus))) :
    Option TrackerState :=
  match state.location with
  | .polling waiting inFlight =>
      match inFlight[index]? with
      | some chunk =>
          let polled := { state with
            location := .polling (waiting.drop 1) (inFlight.eraseIdx index ++ waiting.take 1) }
          some ((statuses.map (polled.recordStatuses chunk)).getD polled)
      | none => none
  | _ => none

def expirePending (order : List Signature) : Option TrackerState :=
  if state.location = .expiring ∧ order.Perm state.pending.keys then
    let expired := state.expire order
    some { expired with location := if expired.pending.entries = [] then .start else .delaying }
  else none

def receiveDelayed : Option TrackerState :=
  if state.location = .delaying ∧ state.receiverOpen then
    match state.queue with
    | request :: queue => some (state.receive request queue)
    | [] => if state.sendersOpen then none else some { state with receiverOpen := false }
  else none

def sendRequest (signature : Signature) (deadline : ℕ) : Option TrackerState :=
  if state.sendersOpen then
    let request := ⟨signature, deadline, state.sent.length⟩
    some { state with sent := state.sent ++ [request], queue := state.queue ++ [request] }
  else none

end TrackerState

/-- One step of the task or of its environment. -/
def trackerStep (maxSendConcurrency : ℕ) (move : TrackerMove) (state : TrackerState) :
    Option TrackerState :=
  match move with
  | .send signature deadline => state.sendRequest signature deadline
  | .dropSenders => some { state with sendersOpen := false }
  | .tick elapsed => some { state with clock := state.clock + elapsed }
  | .advance => state.advance
  | .snapshot order => state.snapshot (statusConcurrency maxSendConcurrency) order
  | .reply index statuses => state.reply index statuses
  | .expire order => state.expirePending order
  | .receive => state.receiveDelayed

/-! ### The map -/

section

variable {pending : PendingMap} {signature : Signature} {item : PendingConfirmation}

theorem entries_of_lookup (hItem : pending.lookup signature = some item) :
    pending.entries.Perm (⟨signature, item⟩ :: (pending.erase signature).entries) := by
  have hKey : signature ∈ pending.entries.keys :=
    AList.lookup_isSome.mp (Option.isSome_of_eq_some hItem)
  rcases List.exists_of_kerase hKey with ⟨found, before, after, -, hEntries, hErased⟩
  have hMem : (⟨signature, found⟩ : Sigma fun _ => PendingConfirmation) ∈ pending.entries := by
    rw [hEntries]
    simp
  have hSame : found = item := by
    have hFound := AList.mem_lookup_iff.mpr hMem
    rw [hItem] at hFound
    exact (Option.some.inj hFound).symm
  change pending.entries.Perm (_ :: List.kerase signature pending.entries)
  rw [hErased, ← hSame]
  conv_lhs => rw [hEntries]
  exact List.perm_middle

theorem waiters_of_lookup (hItem : pending.lookup signature = some item) :
    (waiters pending).Perm (item.responses ++ waiters (pending.erase signature)) :=
  (entries_of_lookup hItem).flatMap_right _

theorem waiters_insert :
    waiters (pending.insert signature item) =
      item.responses ++ waiters (pending.erase signature) := by
  rw [waiters, AList.entries_insert, List.flatMap_cons]
  rfl

theorem waiters_addConfirmation (request : ConfirmationRequest) :
    (waiters (addConfirmation pending request)).Perm (request.response :: waiters pending) := by
  unfold addConfirmation
  rw [waiters_insert]
  cases hItem : pending.lookup request.signature with
  | none =>
      have hAbsent : pending.erase request.signature = pending :=
        AList.ext (List.kerase_of_notMem_keys (AList.lookup_eq_none.mp hItem))
      rw [hAbsent]
      exact .refl _
  | some item =>
      have hHeld := (waiters_of_lookup hItem).cons request.response
      simp only [Option.getD_some, List.append_assoc, List.singleton_append]
      exact List.perm_middle.trans hHeld.symm

theorem lookup_addConfirmation_self (request : ConfirmationRequest) :
    (addConfirmation pending request).lookup request.signature =
      some ⟨max ((pending.lookup request.signature).getD ⟨request.deadline, []⟩).deadline
          request.deadline,
        ((pending.lookup request.signature).getD ⟨request.deadline, []⟩).responses ++
          [request.response]⟩ :=
  AList.lookup_insert _

theorem lookup_addConfirmation_of_ne {request : ConfirmationRequest}
    (hOther : signature ≠ request.signature) :
    (addConfirmation pending request).lookup signature = pending.lookup signature :=
  AList.lookup_insert_ne hOther

theorem lookup_of_erase {other : Signature} (hItem : (pending.erase other).lookup signature = some item) :
    pending.lookup signature = some item := by
  by_cases hSame : signature = other
  · rw [hSame, AList.lookup_erase] at hItem
    cases hItem
  · rwa [AList.lookup_erase_ne hSame] at hItem

end

/-! ### Answers -/

/-- What an answer to a request says is true, by what was reported until then and by the clock. -/
def Truthful (reports : List (Signature × TransactionStatus)) (request : ConfirmationRequest)
    (answer : ConfirmationAnswer) : Prop :=
  match answer.result with
  | .ok confirmed => confirmed.signature = request.signature ∧
      ∃ status, (request.signature, status) ∈ reports ∧ status.err = none ∧
        status.confirmed = true ∧ status.slot = confirmed.slot
  | .error (.transactionFailed signature reason) => signature = request.signature ∧
      ∃ status, (request.signature, status) ∈ reports ∧ status.err = some reason
  | .error (.confirmationTimeout signature) => signature = request.signature ∧
      request.deadline ≤ answer.time
  | .error _ => False

theorem Truthful.mono {reports more : List (Signature × TransactionStatus)}
    {request : ConfirmationRequest} {answer : ConfirmationAnswer}
    (hTruthful : Truthful reports request answer) (hMore : reports ⊆ more) :
    Truthful more request answer := by
  unfold Truthful at *
  split <;> rename_i hResult <;> simp only [hResult] at hTruthful
  · rcases hTruthful with ⟨hSignature, status, hReported, hStatus⟩
    exact ⟨hSignature, status, hMore hReported, hStatus⟩
  · rcases hTruthful with ⟨hSignature, status, hReported, hStatus⟩
    exact ⟨hSignature, status, hMore hReported, hStatus⟩
  · exact hTruthful

namespace TrackerState

structure Sound (state : TrackerState) : Prop where
  accounted : Accounted state.sent.length (state.queue.map (·.response)) state.held
    (state.answers.map (·.response))
  queued : ∀ request ∈ state.queue, state.sent[request.response]? = some request
  waiting : ∀ signature item, state.pending.lookup signature = some item →
    ∀ response ∈ item.responses, ∃ request, state.sent[response]? = some request ∧
      request.signature = signature ∧ request.deadline ≤ item.deadline
  truthful : ∀ answer ∈ state.answers, ∃ request, state.sent[answer.response]? = some request ∧
    Truthful state.reports request answer ∧ answer.time ≤ state.clock
  closed : state.receiverOpen = false → state.sendersOpen = false ∧ state.queue = []
  stopped : state.location = .stopped →
    state.pending.entries = [] ∧ state.queue = [] ∧ state.sendersOpen = false

variable {state next : TrackerState}

theorem sound_start : Sound {} where
  accounted := .start
  queued := nofun
  waiting := nofun
  truthful := nofun
  closed := nofun
  stopped := nofun

theorem Sound.relocate {location : TrackerLocation} (hSound : state.Sound)
    (hStopped : location = .stopped →
      state.pending.entries = [] ∧ state.queue = [] ∧ state.sendersOpen = false) :
    Sound { state with location } where
  accounted := hSound.accounted
  queued := hSound.queued
  waiting := hSound.waiting
  truthful := hSound.truthful
  closed := hSound.closed
  stopped := hStopped

theorem Sound.receive {request : ConfirmationRequest} {queue : List ConfirmationRequest}
    (hSound : state.Sound) (hQueue : state.queue = request :: queue) :
    (state.receive request queue).Sound := by
  have hSent := hSound.queued request (hQueue ▸ List.mem_cons_self)
  constructor
  · have hAccounted := hSound.accounted
    rw [hQueue, List.map_cons] at hAccounted
    exact hAccounted.receive (waiters_addConfirmation request)
  · intro other hOther
    exact hSound.queued other (hQueue ▸ List.mem_cons_of_mem _ hOther)
  · intro signature item hItem response hResponse
    by_cases hSame : signature = request.signature
    · rw [hSame] at hItem ⊢
      have hMerged := hItem.symm.trans (lookup_addConfirmation_self request)
      obtain rfl := Option.some.inj hMerged
      rcases List.mem_append.mp hResponse with hOld | hNew
      · cases hEntry : state.pending.lookup request.signature with
        | none => simp [hEntry] at hOld
        | some entry =>
            simp only [hEntry, Option.getD_some] at hOld ⊢
            rcases hSound.waiting _ entry hEntry response hOld with ⟨other, hOther, hName, hLater⟩
            exact ⟨other, hOther, hName, hLater.trans (Nat.le_max_left _ _)⟩
      · obtain rfl := List.mem_singleton.mp hNew
        exact ⟨request, hSent, rfl, Nat.le_max_right _ _⟩
    · have hOld := (lookup_addConfirmation_of_ne hSame).symm.trans hItem
      exact hSound.waiting signature item hOld response hResponse
  · exact hSound.truthful
  · intro hClosed
    have hEmpty := (hSound.closed hClosed).2
    rw [hQueue] at hEmpty
    cases hEmpty
  · intro hStopped
    have hEmpty := (hSound.stopped hStopped).2.1
    rw [hQueue] at hEmpty
    cases hEmpty

theorem Sound.complete {signature : Signature} {result : Except TxPipelineError ConfirmedTransaction}
    (hSound : state.Sound)
    (hResult : ∀ item, state.pending.lookup signature = some item → ∀ request : ConfirmationRequest,
      request.signature = signature → request.deadline ≤ item.deadline →
      Truthful state.reports request ⟨request.response, result, state.clock⟩) :
    (state.completeConfirmation signature result).Sound := by
  unfold completeConfirmation
  split
  · exact hSound
  · rename_i item hItem
    constructor
    · simp only [List.map_append, List.map_map, Function.comp_def, List.map_id']
      exact hSound.accounted.answer (waiters_of_lookup hItem)
    · exact hSound.queued
    · intro other entry hEntry
      exact hSound.waiting other entry (lookup_of_erase hEntry)
    · intro answer hAnswer
      rcases List.mem_append.mp hAnswer with hOld | hNew
      · exact hSound.truthful answer hOld
      · rcases List.mem_map.mp hNew with ⟨response, hResponse, rfl⟩
        rcases hSound.waiting signature item hItem response hResponse with
          ⟨request, hRequest, hName, hDeadline⟩
        exact ⟨request, hRequest, hResult item hItem request hName hDeadline, Nat.le_refl _⟩
    · exact hSound.closed
    · intro hStopped
      rcases hSound.stopped hStopped with ⟨hEmpty, hQueue, hSenders⟩
      refine ⟨?_, hQueue, hSenders⟩
      change List.kerase signature state.pending.entries = []
      rw [hEmpty, List.kerase_nil]

theorem Sound.report {entry : Signature × TransactionStatus} (hSound : state.Sound) :
    Sound { state with reports := entry :: state.reports } where
  accounted := hSound.accounted
  queued := hSound.queued
  waiting := hSound.waiting
  truthful := by
    intro answer hAnswer
    rcases hSound.truthful answer hAnswer with ⟨request, hRequest, hTruthful, hTime⟩
    exact ⟨request, hRequest, hTruthful.mono (List.subset_cons_self _ _), hTime⟩
  closed := hSound.closed
  stopped := hSound.stopped

theorem Sound.recordStatus (entry : Signature × Option TransactionStatus)
    (hSound : state.Sound) : (state.recordStatus entry).Sound := by
  rcases entry with ⟨signature, _ | status⟩
  · exact hSound
  · unfold TrackerState.recordStatus
    dsimp only
    split
    · rename_i error hError
      refine hSound.report.complete ?_
      intro _ _ request hName _
      exact ⟨hName.symm, status, by rw [hName]; exact List.mem_cons_self, hError⟩
    · rename_i hClean
      split
      · rename_i hConfirmed
        refine hSound.report.complete ?_
        intro _ _ request hName _
        exact ⟨hName.symm, status, by rw [hName]; exact List.mem_cons_self, hClean, hConfirmed, rfl⟩
      · exact hSound.report

theorem Sound.recordStatuses (chunk : List Signature) (statuses : List (Option TransactionStatus))
    (hSound : state.Sound) : (state.recordStatuses chunk statuses).Sound := by
  unfold TrackerState.recordStatuses
  induction chunk.zip statuses generalizing state with
  | nil => exact hSound
  | cons entry entries hInduction => exact hInduction (hSound.recordStatus entry)

theorem completeConfirmation_lookup {signature other : Signature} {item : PendingConfirmation}
    {result : Except TxPipelineError ConfirmedTransaction}
    (hItem : (state.completeConfirmation other result).pending.lookup signature = some item) :
    state.pending.lookup signature = some item := by
  unfold completeConfirmation at hItem
  split at hItem
  · exact hItem
  · exact lookup_of_erase hItem

theorem completeConfirmation_clock {signature : Signature}
    {result : Except TxPipelineError ConfirmedTransaction} :
    (state.completeConfirmation signature result).clock = state.clock := by
  unfold completeConfirmation
  split <;> rfl

theorem Sound.expire (order : List Signature) (hSound : state.Sound) : (state.expire order).Sound := by
  have hOver : ∀ signature ∈ order.filter fun signature => state.Expired signature,
      ∀ item, state.pending.lookup signature = some item → item.deadline ≤ state.clock := by
    intro signature hSignature item hItem
    rcases of_decide_eq_true (List.mem_filter.mp hSignature).2 with ⟨found, hFound, hDeadline⟩
    obtain rfl := Option.some.inj (hItem.symm.trans hFound)
    exact hDeadline
  unfold TrackerState.expire
  generalize order.filter (fun signature => state.Expired signature) = expired at *
  induction expired generalizing state with
  | nil => exact hSound
  | cons signature expired hInduction =>
      rw [List.forall_mem_cons] at hOver
      refine hInduction (hSound.complete ?_) ?_
      · intro item hItem request hName hDeadline
        exact ⟨hName.symm, hDeadline.trans (hOver.1 item hItem)⟩
      · intro other hOther item hItem
        rw [completeConfirmation_clock]
        exact hOver.2 other hOther item (completeConfirmation_lookup hItem)

/-! ### Waiters stay until they are answered -/

def answered (state : TrackerState) : List ℕ :=
  state.answers.map (·.response)

/-- No answer is taken back, and a waiter leaves the map with an answer only. -/
structure Keeps (before after : TrackerState) : Prop where
  answers : before.answers <+: after.answers
  held : ∀ response ∈ before.held, response ∈ after.held ∨ response ∈ after.answered

theorem Keeps.of_same (hAnswers : next.answers = state.answers) (hPending : next.pending = state.pending) :
    Keeps state next where
  answers := by rw [hAnswers]
  held := by
    intro response hHeld
    unfold TrackerState.held at *
    rw [hPending]
    exact .inl hHeld

theorem Keeps.trans {last : TrackerState} (hFirst : Keeps state next) (hSecond : Keeps next last) :
    Keeps state last where
  answers := hFirst.answers.trans hSecond.answers
  held := by
    intro response hHeld
    rcases hFirst.held response hHeld with hStill | hAnswered
    · exact hSecond.held response hStill
    · exact .inr ((hSecond.answers.map _).subset hAnswered)

theorem keeps_receive (request : ConfirmationRequest) (queue : List ConfirmationRequest) :
    Keeps state (state.receive request queue) where
  answers := List.prefix_refl _
  held := fun _ hHeld =>
    .inl ((waiters_addConfirmation request).mem_iff.mpr (List.mem_cons_of_mem _ hHeld))

theorem keeps_complete (signature : Signature)
    (result : Except TxPipelineError ConfirmedTransaction) :
    Keeps state (state.completeConfirmation signature result) := by
  unfold completeConfirmation
  split
  · exact .of_same rfl rfl
  · rename_i item hItem
    refine ⟨List.prefix_append _ _, ?_⟩
    intro response hHeld
    rcases List.mem_append.mp ((waiters_of_lookup hItem).mem_iff.mp hHeld) with hAnswered | hStill
    · right
      simp only [answered, List.map_append, List.map_map, Function.comp_def, List.map_id',
        List.mem_append]
      exact .inr hAnswered
    · exact .inl hStill

theorem keeps_recordStatus (entry : Signature × Option TransactionStatus) :
    Keeps state (state.recordStatus entry) := by
  rcases entry with ⟨signature, _ | status⟩
  · exact .of_same rfl rfl
  · have hReport : Keeps state { state with reports := (signature, status) :: state.reports } :=
      .of_same rfl rfl
    unfold recordStatus
    dsimp only
    split
    · exact hReport.trans (keeps_complete _ _)
    · split
      · exact hReport.trans (keeps_complete _ _)
      · exact hReport

theorem keeps_foldl {Item : Type} {change : TrackerState → Item → TrackerState}
    (hChange : ∀ state item, Keeps state (change state item)) (items : List Item) :
    Keeps state (items.foldl change state) := by
  induction items generalizing state with
  | nil => exact .of_same rfl rfl
  | cons item items hInduction => exact (hChange state item).trans hInduction

/-! ### Steps -/

theorem step_advance (hStep : state.advance = some next) (hSound : state.Sound) :
    next.Sound ∧ Keeps state next := by
  unfold advance at hStep
  split at hStep
  · split at hStep
    · cases hStep
      exact ⟨hSound.relocate nofun, .of_same rfl rfl⟩
    · rename_i hEmpty
      rw [not_not] at hEmpty
      split at hStep
      · rename_i hClosed
        cases hStep
        have hClosed := hSound.closed (Bool.not_eq_true _ ▸ hClosed)
        exact ⟨hSound.relocate fun _ => ⟨hEmpty, hClosed.2, hClosed.1⟩, .of_same rfl rfl⟩
      · split at hStep
        · rename_i request queue hQueue
          cases hStep
          exact ⟨(hSound.receive hQueue).relocate nofun,
            (keeps_receive request queue).trans (.of_same rfl rfl)⟩
        · rename_i hQueue
          split at hStep
          · cases hStep
          · rename_i hSenders
            cases hStep
            exact ⟨hSound.relocate fun _ => ⟨hEmpty, hQueue, Bool.not_eq_true _ ▸ hSenders⟩,
              .of_same rfl rfl⟩
  · cases hStep
    exact ⟨hSound.relocate nofun, .of_same rfl rfl⟩
  · split at hStep
    · rename_i request queue hQueue
      cases hStep
      exact ⟨hSound.receive hQueue, keeps_receive request queue⟩
    · cases hStep
  · cases hStep
    exact ⟨hSound.relocate nofun, .of_same rfl rfl⟩
  · cases hStep
    exact ⟨hSound.relocate nofun, .of_same rfl rfl⟩
  · cases hStep

theorem step_snapshot {concurrency : ℕ} {order : List Signature}
    (hStep : state.snapshot concurrency order = some next) (hSound : state.Sound) :
    next.Sound ∧ Keeps state next := by
  unfold snapshot at hStep
  split at hStep
  · cases hStep
    exact ⟨hSound.relocate nofun, .of_same rfl rfl⟩
  · cases hStep

theorem step_reply {index : ℕ} {statuses : Option (List (Option TransactionStatus))}
    (hStep : state.reply index statuses = some next) (hSound : state.Sound) :
    next.Sound ∧ Keeps state next := by
  unfold reply at hStep
  split at hStep
  · rename_i waiting inFlight hLocation
    split at hStep
    · rename_i chunk hChunk
      have hPolled : Sound { state with
          location := .polling (waiting.drop 1) (inFlight.eraseIdx index ++ waiting.take 1) } :=
        hSound.relocate nofun
      have hSame : Keeps state { state with
          location := .polling (waiting.drop 1) (inFlight.eraseIdx index ++ waiting.take 1) } :=
        .of_same rfl rfl
      cases statuses with
      | none =>
          cases hStep
          exact ⟨hPolled, hSame⟩
      | some statuses =>
          cases hStep
          exact ⟨hPolled.recordStatuses chunk statuses,
            hSame.trans (keeps_foldl (fun _ => keeps_recordStatus) _)⟩
    · cases hStep
  · cases hStep

theorem step_expire {order : List Signature} (hStep : state.expirePending order = some next)
    (hSound : state.Sound) : next.Sound ∧ Keeps state next := by
  unfold expirePending at hStep
  split at hStep
  · cases hStep
    have hKeeps : Keeps state (state.expire order) :=
      keeps_foldl (fun _ signature => keeps_complete signature _) _
    refine ⟨(hSound.expire order).relocate ?_, hKeeps.trans (.of_same rfl rfl)⟩
    split <;> exact nofun
  · cases hStep

theorem step_receive (hStep : state.receiveDelayed = some next) (hSound : state.Sound) :
    next.Sound ∧ Keeps state next := by
  unfold receiveDelayed at hStep
  split at hStep
  · rename_i hDelaying
    split at hStep
    · rename_i request queue hQueue
      cases hStep
      exact ⟨hSound.receive hQueue, keeps_receive request queue⟩
    · rename_i hQueue
      split at hStep
      · cases hStep
      · rename_i hSenders
        cases hStep
        refine ⟨⟨hSound.accounted, hSound.queued, hSound.waiting, hSound.truthful, ?_,
          hSound.stopped⟩, .of_same rfl rfl⟩
        exact fun _ => ⟨Bool.not_eq_true _ ▸ hSenders, hQueue⟩
  · cases hStep

theorem step_send {signature : Signature} {deadline : ℕ}
    (hStep : state.sendRequest signature deadline = some next) (hSound : state.Sound) :
    next.Sound ∧ Keeps state next := by
  unfold sendRequest at hStep
  split at hStep
  · rename_i hSenders
    cases hStep
    refine ⟨?_, .of_same rfl rfl⟩
    constructor
    · simp only [List.length_append, List.length_singleton, List.map_append, List.map_singleton]
      exact hSound.accounted.send
    · intro request hRequest
      rcases List.mem_append.mp hRequest with hQueued | hNew
      · exact getElem?_of_sent (hSound.queued request hQueued) _
      · obtain rfl := List.mem_singleton.mp hNew
        simp
    · intro signature item hItem response hResponse
      rcases hSound.waiting signature item hItem response hResponse with ⟨request, hRequest, hName⟩
      exact ⟨request, getElem?_of_sent hRequest _, hName⟩
    · intro answer hAnswer
      rcases hSound.truthful answer hAnswer with ⟨request, hRequest, hTruthful⟩
      exact ⟨request, getElem?_of_sent hRequest _, hTruthful⟩
    · intro hClosed
      have hDropped := (hSound.closed hClosed).1
      rw [hSenders] at hDropped
      cases hDropped
    · intro hStopped
      have hDropped := (hSound.stopped hStopped).2.2
      rw [hSenders] at hDropped
      cases hDropped
  · cases hStep

theorem Sound.step {maxSendConcurrency : ℕ} {move : TrackerMove}
    (hStep : trackerStep maxSendConcurrency move state = some next) (hSound : state.Sound) :
    next.Sound ∧ Keeps state next := by
  cases move with
  | send signature deadline => exact step_send hStep hSound
  | dropSenders =>
      cases hStep
      refine ⟨⟨hSound.accounted, hSound.queued, hSound.waiting, hSound.truthful, ?_, ?_⟩,
        .of_same rfl rfl⟩
      · exact fun hClosed => ⟨rfl, (hSound.closed hClosed).2⟩
      · intro hStopped
        rcases hSound.stopped hStopped with ⟨hEmpty, hQueue, -⟩
        exact ⟨hEmpty, hQueue, rfl⟩
  | tick elapsed =>
      cases hStep
      refine ⟨⟨hSound.accounted, hSound.queued, hSound.waiting, ?_, hSound.closed,
        hSound.stopped⟩, .of_same rfl rfl⟩
      intro answer hAnswer
      rcases hSound.truthful answer hAnswer with ⟨request, hRequest, hTruthful, hTime⟩
      exact ⟨request, hRequest, hTruthful, Nat.le_add_right_of_le hTime⟩
  | advance => exact step_advance hStep hSound
  | snapshot order => exact step_snapshot hStep hSound
  | reply index statuses => exact step_reply hStep hSound
  | expire order => exact step_expire hStep hSound
  | receive => exact step_receive hStep hSound

end TrackerState

end PayKit.Rpc
