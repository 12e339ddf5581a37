import PayKit.Rpc.ConfirmationTracker

/-!
# The account reader

`run_account_reader` of `core/tx_pipeline.rs`: one task takes up to a hundred queued requests at a
time, asks for their accounts in one call, again a few times if the call fails, and answers each
request with the account at its place in the reply. A reply of another length, or none, is a failure
for all of them.

As with the tracker, the senders and the node are the environment, and a pause is a step that is
taken at any later time. How an account is decoded is for the library of the node.
-/

namespace PayKit.Rpc

open Concurrency Solana Tx

/-- An account as it is after it was decoded. -/
structure Account where
  owner : Pubkey
  data : List UInt8

structure AccountReadRequest where
  address : Pubkey
  minContextSlot : Option ℕ
  expectedOwner : Option Pubkey
  response : ℕ
deriving DecidableEq

structure AccountAnswer where
  response : ℕ
  result : Except TxPipelineError (Option (List UInt8))

/-- A call of the node for several accounts. -/
structure AccountsCall where
  addresses : List Pubkey
  minContextSlot : Option ℕ

def accountBatchLimit : ℕ := 100

inductive ReaderLocation where
  | idle
  | coalescing (batch : List AccountReadRequest)
  | draining (batch : List AccountReadRequest)
  /-- A call for the batch is under way, after so many that failed. -/
  | reading (batch : List AccountReadRequest) (attempt : ℕ)
  | stopped
deriving DecidableEq

def ReaderLocation.batch : ReaderLocation → List AccountReadRequest
  | coalescing batch => batch
  | draining batch => batch
  | reading batch _ => batch
  | _ => []

structure ReaderState (UiAccount : Type) where
  sent : List AccountReadRequest := []
  queue : List AccountReadRequest := []
  sendersOpen : Bool := true
  location : ReaderLocation := .idle
  calls : List AccountsCall := []
  reports : List (Pubkey × Option UiAccount) := []
  answers : List AccountAnswer := []

inductive ReaderMove (UiAccount : Type) where
  | send (address : Pubkey) (minContextSlot : Option ℕ) (expectedOwner : Option Pubkey)
  | dropSenders
  /-- The task goes on by itself. -/
  | advance
  /-- The call returns. -/
  | reply (accounts : Option (List (Option UiAccount)))

/-- The accounts of a batch, from a bank that is new enough for all its requests. -/
def accountsCall (batch : List AccountReadRequest) : AccountsCall :=
  ⟨batch.map (·.address), (batch.filterMap (·.minContextSlot)).max?⟩

section

variable {UiAccount : Type} (toAccount : UiAccount → Option Account)

/-- What a request is answered with. -/
def accountResult (request : AccountReadRequest) :
    Option UiAccount → Except TxPipelineError (Option (List UInt8))
  | none => .ok none
  | some account =>
      match toAccount account with
      | none => .error (.accountDecodeFailed request.address)
      | some account =>
          if ∃ owner ∈ request.expectedOwner, owner ≠ account.owner then
            .error (.accountOwnerMismatch request.address)
          else .ok (some account.data)

/-- Every request is answered with the account at its place, or all with a failure. -/
def batchAnswers (batch : List AccountReadRequest) (accounts : Option (List (Option UiAccount))) :
    List AccountAnswer :=
  match accounts with
  | some accounts =>
      if accounts.length = batch.length then
        (batch.zip accounts).map fun entry =>
          ⟨entry.1.response, accountResult toAccount entry.1 entry.2⟩
      else batch.map fun request => ⟨request.response, .error .accountReadFailed⟩
  | none => batch.map fun request => ⟨request.response, .error .accountReadFailed⟩

namespace ReaderState

variable (state : ReaderState UiAccount)

def sendRequest (address : Pubkey) (minContextSlot : Option ℕ) (expectedOwner : Option Pubkey) :
    Option (ReaderState UiAccount) :=
  if state.sendersOpen then
    let request := ⟨address, minContextSlot, expectedOwner, state.sent.length⟩
    some { state with sent := state.sent ++ [request], queue := state.queue ++ [request] }
  else none

def startReading (batch : List AccountReadRequest) : ReaderState UiAccount :=
  { state with location := .reading batch 0, calls := accountsCall batch :: state.calls }

def advance : Option (ReaderState UiAccount) :=
  match state.location with
  | .idle =>
      match state.queue with
      | request :: queue => some { state with queue, location := .coalescing [request] }
      | [] => if state.sendersOpen then none else some { state with location := .stopped }
  | .coalescing batch => some { state with location := .draining batch }
  | .draining batch =>
      if batch.length < accountBatchLimit then
        match state.queue with
        | request :: queue => some { state with queue, location := .draining (batch ++ [request]) }
        | [] => some (state.startReading batch)
      else some (state.startReading batch)
  | _ => none

def reply (retries : ℕ) (accounts : Option (List (Option UiAccount))) :
    Option (ReaderState UiAccount) :=
  match state.location with
  | .reading batch attempt =>
      if accounts.isNone ∧ attempt < retries then
        some { state with
          location := .reading batch (attempt + 1), calls := accountsCall batch :: state.calls }
      else
        some { state with
          location := .idle
          reports := (batch.map (·.address)).zip (accounts.getD []) ++ state.reports
          answers := state.answers ++ batchAnswers toAccount batch accounts }
  | _ => none

end ReaderState

/-- One step of the task or of its environment. -/
def readerStep (retries : ℕ) (move : ReaderMove UiAccount) (state : ReaderState UiAccount) :
    Option (ReaderState UiAccount) :=
  match move with
  | .send address minContextSlot expectedOwner =>
      state.sendRequest address minContextSlot expectedOwner
  | .dropSenders => some { state with sendersOpen := false }
  | .advance => state.advance
  | .reply accounts => state.reply toAccount retries accounts

/-! ### Answers -/

section

variable {toAccount} {batch : List AccountReadRequest}
  {accounts : Option (List (Option UiAccount))}

theorem batchAnswers_responses :
    (batchAnswers toAccount batch accounts).map (·.response) = batch.map (·.response) := by
  have hFailed : (batch.map fun request =>
      (⟨request.response, .error .accountReadFailed⟩ : AccountAnswer)).map (·.response) =
        batch.map (·.response) := by
    rw [List.map_map]
    rfl
  unfold batchAnswers
  split
  · rename_i accounts
    split
    · rename_i hLength
      have hBatch : (batch.zip accounts).map Prod.fst = batch := List.map_fst_zip (by omega)
      conv_rhs => rw [← hBatch]
      simp only [List.map_map]
      rfl
    · exact hFailed
  · exact hFailed

theorem batchAnswers_truthful {answer : AccountAnswer}
    (hAnswer : answer ∈ batchAnswers toAccount batch accounts) :
    ∃ request ∈ batch, answer.response = request.response ∧
      (answer.result = .error .accountReadFailed ∨
        ∃ account, (request.address, account) ∈ (batch.map (·.address)).zip (accounts.getD []) ∧
          answer.result = accountResult toAccount request account) := by
  have hFailed : answer ∈ batch.map (fun request =>
      (⟨request.response, .error .accountReadFailed⟩ : AccountAnswer)) →
      ∃ request ∈ batch, answer.response = request.response ∧
        answer.result = .error .accountReadFailed := by
    intro hMem
    rcases List.mem_map.mp hMem with ⟨request, hRequest, rfl⟩
    exact ⟨request, hRequest, rfl, rfl⟩
  unfold batchAnswers at hAnswer
  split at hAnswer
  · rename_i accounts
    split at hAnswer
    · rcases List.mem_map.mp hAnswer with ⟨⟨request, account⟩, hEntry, rfl⟩
      refine ⟨request, (List.of_mem_zip hEntry).1, rfl, .inr ⟨account, ?_, rfl⟩⟩
      rw [Option.getD_some, List.zip_map_left]
      exact List.mem_map.mpr ⟨(request, account), hEntry, rfl⟩
    · rcases hFailed hAnswer with ⟨request, hRequest, hResponse, hResult⟩
      exact ⟨request, hRequest, hResponse, .inl hResult⟩
  · rcases hFailed hAnswer with ⟨request, hRequest, hResponse, hResult⟩
    exact ⟨request, hRequest, hResponse, .inl hResult⟩

end

namespace ReaderState

def answered (state : ReaderState UiAccount) : List ℕ :=
  state.answers.map (·.response)

structure Sound (state : ReaderState UiAccount) : Prop where
  accounted : Accounted state.sent.length (state.queue.map (·.response))
    (state.location.batch.map (·.response)) state.answered
  queued : ∀ request ∈ state.queue, state.sent[request.response]? = some request
  batched : ∀ request ∈ state.location.batch, state.sent[request.response]? = some request
  small : state.location.batch.length ≤ accountBatchLimit
  calls : ∀ call ∈ state.calls, call.addresses.length ≤ accountBatchLimit
  truthful : ∀ answer ∈ state.answers, ∃ request, state.sent[answer.response]? = some request ∧
    (answer.result = .error .accountReadFailed ∨
      ∃ account, (request.address, account) ∈ state.reports ∧
        answer.result = accountResult toAccount request account)
  stopped : state.location = .stopped → state.queue = [] ∧ state.sendersOpen = false

variable {toAccount} {state next : ReaderState UiAccount}

theorem sound_start : Sound toAccount ({} : ReaderState UiAccount) where
  accounted := .start
  queued := nofun
  batched := nofun
  small := Nat.zero_le _
  calls := nofun
  truthful := nofun
  stopped := nofun

theorem Sound.receive {request : AccountReadRequest} {queue : List AccountReadRequest}
    {location : ReaderLocation} (hSound : state.Sound toAccount)
    (hQueue : state.queue = request :: queue)
    (hBatch : location.batch = state.location.batch ++ [request])
    (hSmall : location.batch.length ≤ accountBatchLimit) :
    Sound toAccount { state with queue, location } where
  accounted := by
    have hAccounted := hSound.accounted
    rw [hQueue, List.map_cons] at hAccounted
    refine hAccounted.receive ?_
    simp only [hBatch, List.map_append, List.map_singleton]
    exact List.perm_append_comm
  queued := fun other hOther => hSound.queued other (hQueue ▸ List.mem_cons_of_mem _ hOther)
  batched := by
    intro other hOther
    rw [hBatch] at hOther
    rcases List.mem_append.mp hOther with hOld | hNew
    · exact hSound.batched other hOld
    · obtain rfl := List.mem_singleton.mp hNew
      exact hSound.queued _ (hQueue ▸ List.mem_cons_self)
  small := hSmall
  calls := hSound.calls
  truthful := hSound.truthful
  stopped := by
    intro hStopped
    change location = .stopped at hStopped
    rw [hStopped] at hBatch
    simp [ReaderLocation.batch] at hBatch

theorem Sound.relocate {location : ReaderLocation} {calls : List AccountsCall}
    (hSound : state.Sound toAccount) (hBatch : location.batch = state.location.batch)
    (hCalls : ∀ call ∈ calls, call.addresses.length ≤ accountBatchLimit)
    (hStopped : location = .stopped → state.queue = [] ∧ state.sendersOpen = false) :
    Sound toAccount { state with location, calls } where
  accounted := by
    rw [hBatch]
    exact hSound.accounted
  queued := hSound.queued
  batched := by
    rw [hBatch]
    exact hSound.batched
  small := by
    rw [hBatch]
    exact hSound.small
  calls := hCalls
  truthful := hSound.truthful
  stopped := hStopped

theorem Sound.call (hSound : state.Sound toAccount) {batch : List AccountReadRequest}
    (hBatch : state.location.batch = batch) :
    ∀ call ∈ accountsCall batch :: state.calls, call.addresses.length ≤ accountBatchLimit := by
  intro call hCall
  rcases List.mem_cons.mp hCall with rfl | hOld
  · rw [accountsCall, List.length_map, ← hBatch]
    exact hSound.small
  · exact hSound.calls call hOld

theorem Sound.advance (hSound : state.Sound toAccount) (hStep : state.advance = some next) :
    next.Sound toAccount := by
  unfold ReaderState.advance at hStep
  split at hStep
  · rename_i hLocation
    split at hStep
    · rename_i request queue hQueue
      cases hStep
      exact hSound.receive hQueue (by rw [hLocation]; rfl)
        (by simp [ReaderLocation.batch, accountBatchLimit])
    · rename_i hQueue
      split at hStep
      · cases hStep
      · rename_i hSenders
        cases hStep
        exact hSound.relocate (by rw [hLocation]; rfl) hSound.calls
          fun _ => ⟨hQueue, Bool.not_eq_true _ ▸ hSenders⟩
  · rename_i batch hLocation
    cases hStep
    exact hSound.relocate (by rw [hLocation]; rfl) hSound.calls nofun
  · rename_i batch hLocation
    have hBatch : state.location.batch = batch := by
      rw [hLocation]
      rfl
    have hReading : (state.startReading batch).Sound toAccount :=
      hSound.relocate hBatch.symm (hSound.call hBatch) nofun
    split at hStep
    · rename_i hRoom
      split at hStep
      · rename_i request queue hQueue
        cases hStep
        refine hSound.receive hQueue (by rw [hBatch]; rfl) ?_
        simp only [ReaderLocation.batch, List.length_append, List.length_singleton]
        omega
      · cases hStep
        exact hReading
    · cases hStep
      exact hReading
  · cases hStep

theorem Sound.reply {retries : ℕ} {accounts : Option (List (Option UiAccount))}
    (hSound : state.Sound toAccount) (hStep : state.reply toAccount retries accounts = some next) :
    next.Sound toAccount := by
  unfold ReaderState.reply at hStep
  split at hStep
  · rename_i batch attempt hLocation
    have hBatch : state.location.batch = batch := by
      rw [hLocation]
      rfl
    split at hStep
    · cases hStep
      exact hSound.relocate hBatch.symm (hSound.call hBatch) nofun
    · cases hStep
      constructor
      · simp only [answered, List.map_append, batchAnswers_responses]
        have hAccounted := hSound.accounted
        rw [hBatch] at hAccounted
        exact hAccounted.answer (by simp [ReaderLocation.batch])
      · exact hSound.queued
      · exact nofun
      · exact Nat.zero_le _
      · exact hSound.calls
      · intro answer hAnswer
        rcases List.mem_append.mp hAnswer with hOld | hNew
        · rcases hSound.truthful answer hOld with ⟨request, hRequest, hResult⟩
          refine ⟨request, hRequest, ?_⟩
          rcases hResult with hFailed | ⟨account, hReported, hResult⟩
          · exact .inl hFailed
          · exact .inr ⟨account, List.mem_append_right _ hReported, hResult⟩
        · rcases batchAnswers_truthful hNew with ⟨request, hRequest, hResponse, hResult⟩
          refine ⟨request, ?_, ?_⟩
          · rw [hResponse]
            exact hSound.batched request (hBatch ▸ hRequest)
          · rcases hResult with hFailed | ⟨account, hReported, hResult⟩
            · exact .inl hFailed
            · exact .inr ⟨account, List.mem_append_left _ hReported, hResult⟩
      · exact nofun
  · cases hStep

theorem Sound.send {address : Pubkey} {minContextSlot : Option ℕ} {expectedOwner : Option Pubkey}
    (hSound : state.Sound toAccount)
    (hStep : state.sendRequest address minContextSlot expectedOwner = some next) :
    next.Sound toAccount := by
  unfold sendRequest at hStep
  split at hStep
  · rename_i hSenders
    cases hStep
    constructor
    · simp only [List.length_append, List.length_singleton, List.map_append, List.map_singleton]
      exact hSound.accounted.send
    · intro request hRequest
      rcases List.mem_append.mp hRequest with hQueued | hNew
      · exact getElem?_of_sent (hSound.queued request hQueued) _
      · obtain rfl := List.mem_singleton.mp hNew
        simp
    · exact fun request hRequest => getElem?_of_sent (hSound.batched request hRequest) _
    · exact hSound.small
    · exact hSound.calls
    · intro answer hAnswer
      rcases hSound.truthful answer hAnswer with ⟨request, hRequest, hResult⟩
      exact ⟨request, getElem?_of_sent hRequest _, hResult⟩
    · intro hStopped
      have hDropped := (hSound.stopped hStopped).2
      rw [hSenders] at hDropped
      cases hDropped
  · cases hStep

theorem Sound.step {retries : ℕ} {move : ReaderMove UiAccount} (hSound : state.Sound toAccount)
    (hStep : readerStep toAccount retries move state = some next) : next.Sound toAccount := by
  cases move with
  | send address minContextSlot expectedOwner => exact hSound.send hStep
  | dropSenders =>
      cases hStep
      exact ⟨hSound.accounted, hSound.queued, hSound.batched, hSound.small, hSound.calls,
        hSound.truthful, fun hStopped => ⟨(hSound.stopped hStopped).1, rfl⟩⟩
  | advance => exact hSound.advance hStep
  | reply accounts => exact hSound.reply hStep

/-! ### Progress -/

/-- How many moves the task makes at most if no more requests are sent. -/
def remaining (retries : ℕ) (state : ReaderState UiAccount) : ℕ :=
  state.queue.length * (retries + 5) +
    match state.location with
    | .idle => 1
    | .coalescing _ => retries + 4
    | .draining _ => retries + 3
    | .reading _ attempt => retries - attempt + 2
    | .stopped => 0

theorem remaining_advance {retries : ℕ} (hStep : state.advance = some next) :
    next.remaining retries < state.remaining retries := by
  unfold ReaderState.advance at hStep
  split at hStep
  · rename_i hLocation
    split at hStep
    · rename_i request queue hQueue
      cases hStep
      simp only [remaining, hLocation, hQueue, List.length_cons, Nat.add_mul]
      omega
    · split at hStep
      · cases hStep
      · cases hStep
        simp only [remaining, hLocation]
        omega
  · rename_i hLocation
    cases hStep
    simp only [remaining, hLocation]
    omega
  · rename_i hLocation
    split at hStep
    · split at hStep
      · rename_i request queue hQueue
        cases hStep
        simp only [remaining, hLocation, hQueue, List.length_cons, Nat.add_mul]
        omega
      · cases hStep
        simp only [remaining, startReading, hLocation]
        omega
    · cases hStep
      simp only [remaining, startReading, hLocation]
      omega
  · cases hStep

theorem remaining_reply {retries : ℕ} {accounts : Option (List (Option UiAccount))}
    (hStep : state.reply toAccount retries accounts = some next) :
    next.remaining retries < state.remaining retries := by
  unfold ReaderState.reply at hStep
  split at hStep
  · rename_i hLocation
    split at hStep
    · rename_i hRetry
      cases hStep
      simp only [remaining, hLocation]
      omega
    · cases hStep
      simp only [remaining, hLocation]
      omega
  · cases hStep

/-- The task makes no move by itself, and does not wait for the node either. -/
def AtRest (state : ReaderState UiAccount) : Prop :=
  state.advance = none ∧ ∀ batch attempt, state.location ≠ .reading batch attempt

theorem Sound.all_answered (hSound : state.Sound toAccount) (hRest : state.AtRest) {request : ℕ}
    (hSent : request < state.sent.length) : request ∈ state.answered := by
  have hNothing : state.queue = [] ∧ state.location.batch = [] := by
    rcases hRest with ⟨hStep, hReading⟩
    unfold ReaderState.advance at hStep
    cases hLocation : state.location with
    | idle =>
        rw [hLocation] at hStep
        cases hQueue : state.queue with
        | nil => exact ⟨rfl, rfl⟩
        | cons request queue => simp [hQueue] at hStep
    | coalescing batch => simp [hLocation] at hStep
    | draining batch =>
        simp only [hLocation] at hStep
        split at hStep
        · split at hStep <;> cases hStep
        · cases hStep
    | reading batch attempt => exact absurd hLocation (hReading batch attempt)
    | stopped => exact ⟨(hSound.stopped hLocation).1, rfl⟩
  have hAccounted := hSound.accounted
  rw [hNothing.1, hNothing.2] at hAccounted
  exact hAccounted.mem_answered hSent

end ReaderState

end

/-! ### Every waiter is answered once and truthfully -/

/-- In every run of the tracker no request is answered twice, none leaves the map without an
answer, the tracker stops only when all are answered, and what an answer says is true of the
request that it goes to. In every run of the reader no request is answered twice, the reader gets to
rest by itself if the node answers, and has then answered all requests, each with a failure or with
what was returned for its own address. -/
theorem waiters_answered :
    (∀ (maxSendConcurrency : ℕ) (state : TrackerState),
      Leads (trackerStep maxSendConcurrency) {} state →
      Accounted state.sent.length (state.queue.map (·.response)) state.held state.answered ∧
      state.answered.Nodup ∧
      (∀ later, Leads (trackerStep maxSendConcurrency) state later → state.Keeps later) ∧
      (state.location = .stopped → state.pending.entries = [] ∧ state.queue = [] ∧
        ∀ request < state.sent.length, request ∈ state.answered) ∧
      ∀ answer ∈ state.answers, ∃ request, state.sent[answer.response]? = some request ∧
        Truthful state.reports request answer) ∧
    ∀ (UiAccount : Type) (toAccount : UiAccount → Option Account) (retries : ℕ)
      (state : ReaderState UiAccount), Leads (readerStep toAccount retries) {} state →
      Accounted state.sent.length (state.queue.map (·.response))
        (state.location.batch.map (·.response)) state.answered ∧
      state.answered.Nodup ∧
      (state.AtRest → ∀ request < state.sent.length, request ∈ state.answered) ∧
      (∀ next, (state.advance = some next ∨
          ∃ accounts, state.reply toAccount retries accounts = some next) →
        next.remaining retries < state.remaining retries) ∧
      ∀ answer ∈ state.answers, ∃ request, state.sent[answer.response]? = some request ∧
        (answer.result = .error .accountReadFailed ∨
          ∃ account, (request.address, account) ∈ state.reports ∧
            answer.result = accountResult toAccount request account) := by
  constructor
  · intro maxSendConcurrency state hRun
    have hSound : state.Sound := hRun.preserves TrackerState.Sound
      (fun _ _ _ hBefore hStep => (hBefore.step hStep).1) TrackerState.sound_start
    refine ⟨hSound.accounted, hSound.accounted.answered_nodup, ?_, ?_, ?_⟩
    · intro later hLater
      have hBoth : later.Sound ∧ state.Keeps later := by
        refine hLater.preserves (fun reached => reached.Sound ∧ state.Keeps reached) ?_
          ⟨hSound, .of_same rfl rfl⟩
        intro _ before after hBefore hStep
        have hNext := hBefore.1.step hStep
        exact ⟨hNext.1, hBefore.2.trans hNext.2⟩
      exact hBoth.2
    · intro hStopped
      rcases hSound.stopped hStopped with ⟨hEmpty, hQueue, -⟩
      refine ⟨hEmpty, hQueue, ?_⟩
      have hAccounted := hSound.accounted
      have hHeld : state.held = [] := by
        unfold TrackerState.held waiters
        rw [hEmpty]
        rfl
      rw [hQueue, hHeld] at hAccounted
      exact fun _ hSent => hAccounted.mem_answered hSent
    · intro answer hAnswer
      rcases hSound.truthful answer hAnswer with ⟨request, hRequest, hTruthful, -⟩
      exact ⟨request, hRequest, hTruthful⟩
  · intro UiAccount toAccount retries state hRun
    have hSound : state.Sound toAccount := hRun.preserves (ReaderState.Sound toAccount)
      (fun _ _ _ hBefore hStep => hBefore.step hStep) ReaderState.sound_start
    refine ⟨hSound.accounted, hSound.accounted.answered_nodup, ?_, ?_, hSound.truthful⟩
    · exact fun hRest _ hSent => hSound.all_answered hRest hSent
    · rintro next (hStep | ⟨accounts, hStep⟩)
      · exact ReaderState.remaining_advance hStep
      · exact ReaderState.remaining_reply hStep

def sampleSignature : Signature :=
  ⟨List.replicate 64 1, by decide⟩

/-- Two waiters of one signature are answered by one status. -/
example :
    ([.send sampleSignature 10, .send sampleSignature 5, .advance, .advance, .advance,
      .snapshot [sampleSignature], .reply 0 (some [some ⟨7, none, true⟩])].foldlM
        (fun state move => trackerStep 1 move state) {}).map TrackerState.answered =
      some [0, 1] := by
  decide

end PayKit.Rpc
