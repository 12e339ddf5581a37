import PayKit.Settlement.Packing
import PayKit.X402.Error

/-!
# Submitting a batch of groups

`X402BatchSettlement::submit_groups` of `x402/server/batch_settlement.rs`: the groups are packed,
the packed transactions are spawned up to a bound at a time, and each one that ends makes room
for the next. A transaction that failed on-chain applied nothing; if it carried more than one
group, each of them is put back into the queue alone. Every other failure is reported, once all
transactions have ended.

Which transaction ends next, and how, is up to the network and the scheduler. It is given as a
function of what has happened so far, so that a statement about all such functions is one about
all orders of completion.
-/

namespace PayKit.Settlement

open Solana Tx
open PayKit.X402 (Error)

def submitGroupsConcurrency : ℕ := 48

/-- A group with its place in the list that was given. The source carries the instructions only;
the place tells groups with the same instructions apart. -/
structure PlacedGroup where
  place : ℕ
  instructions : List Instruction
deriving DecidableEq

/-- What joining a submission yields. -/
inductive Outcome where
  | landed (signature : String)
  /-- `FailedSubmission` with `on_chain`: it landed and failed, so none of its instructions
  applied. -/
  | failedOnChain (error : Error)
  /-- Any other `FailedSubmission`. A transaction that was not confirmed may have been applied. -/
  | failed (error : Error) (applied : Bool)
  /-- The task ended without a result, with its transaction applied or not. -/
  | panicked (error : String) (applied : Bool)

/-- A transaction was handed to a task, or its task ended. -/
inductive SubmitEvent where
  | sent (groups : List PlacedGroup)
  | joined (groups : List PlacedGroup) (outcome : Outcome)

/-- The variables of the loop, and what has happened. -/
structure SubmitState where
  total : ℕ
  pending : List (List PlacedGroup)
  inFlight : List (List PlacedGroup)
  signatures : List String
  failures : List String
  history : List SubmitEvent

namespace SubmitState

def spawnNextSubmission (state : SubmitState) : SubmitState :=
  match state.pending with
  | [] => state
  | groups :: pending =>
      { state with
        pending := pending
        inFlight := state.inFlight ++ [groups]
        history := state.history ++ [.sent groups] }

theorem length_pending_spawnNextSubmission {state : SubmitState} (hPending : state.pending ≠ []) :
    state.spawnNextSubmission.pending.length < state.pending.length := by
  unfold spawnNextSubmission
  cases hQueue : state.pending with
  | nil => exact absurd hQueue hPending
  | cons groups pending => simp

/-- The inner loop: spawn while there is room. -/
def refill (state : SubmitState) : SubmitState :=
  if state.inFlight.length < submitGroupsConcurrency ∧ state.pending ≠ [] then
    refill state.spawnNextSubmission
  else state
termination_by state.pending.length
decreasing_by exact length_pending_spawnNextSubmission (by simp_all)

/-- The task that ends next is taken out; there is none when nothing is in flight. -/
def joinNext (state : SubmitState) (chosen : ℕ) (outcome : Outcome) :
    Option (List PlacedGroup × SubmitState) :=
  match state.inFlight[chosen % state.inFlight.length]? with
  | none => none
  | some groups =>
      some (groups,
        { state with
          inFlight := state.inFlight.eraseIdx (chosen % state.inFlight.length)
          history := state.history ++ [.joined groups outcome] })

/-- The bookkeeping for a joined submission. -/
def settle (state : SubmitState) (groups : List PlacedGroup) : Outcome → SubmitState
  | .landed signature => { state with signatures := state.signatures ++ [signature] }
  | .failedOnChain error =>
      if 1 < groups.length then
        { state with
          total := state.total + (groups.length - 1)
          pending := state.pending ++ groups.map fun group => [group] }
      else { state with failures := state.failures ++ [error.display] }
  | .failed error _ => { state with failures := state.failures ++ [error.display] }
  | .panicked error _ =>
      { state with failures := state.failures ++ ["submit join error: " ++ error] }

/-! ### The loop ends

A transaction of several groups that fails is replaced by one for each group, and these are never
replaced. -/

/-- What a transaction still costs: its own end, and that of those that replace it. -/
def cost (groups : List PlacedGroup) : ℕ :=
  if 1 < groups.length then groups.length + 1 else 1

def costs (transactions : List (List PlacedGroup)) : ℕ :=
  (transactions.map cost).sum

def remaining (state : SubmitState) : ℕ :=
  costs state.pending + costs state.inFlight

@[simp]
theorem costs_append (first second : List (List PlacedGroup)) :
    costs (first ++ second) = costs first + costs second := by
  simp [costs]

@[simp]
theorem costs_cons (groups : List PlacedGroup) (rest : List (List PlacedGroup)) :
    costs (groups :: rest) = cost groups + costs rest := by
  simp [costs]

theorem costs_alone (groups : List PlacedGroup) :
    costs (groups.map fun group => [group]) = groups.length := by
  induction groups with
  | nil => rfl
  | cons group groups hInduction =>
      rw [List.map_cons, costs_cons, hInduction]
      have hAlone : cost [group] = 1 := rfl
      rw [hAlone, List.length_cons]
      omega

theorem eraseIdx_perm {transactions : List (List PlacedGroup)} {index : ℕ}
    {groups : List PlacedGroup} (hAt : transactions[index]? = some groups) :
    (groups :: transactions.eraseIdx index).Perm transactions := by
  rcases List.getElem?_eq_some_iff.mp hAt with ⟨hIndex, rfl⟩
  exact List.getElem_cons_eraseIdx_perm hIndex

theorem costs_eraseIdx {transactions : List (List PlacedGroup)} {index : ℕ}
    {groups : List PlacedGroup} (hAt : transactions[index]? = some groups) :
    cost groups + costs (transactions.eraseIdx index) = costs transactions := by
  have hCosts := ((eraseIdx_perm hAt).map cost).sum_eq
  simpa [costs] using hCosts

theorem remaining_spawnNextSubmission (state : SubmitState) :
    state.spawnNextSubmission.remaining = state.remaining := by
  unfold spawnNextSubmission remaining
  cases hQueue : state.pending with
  | nil => simp [hQueue]
  | cons groups pending =>
      simp only [costs_append, costs_cons]
      simp only [costs, List.map_nil, List.sum_nil]
      omega

theorem remaining_refill (state : SubmitState) : state.refill.remaining = state.remaining := by
  fun_induction refill state with
  | case1 state hRoom hInduction => rw [hInduction, remaining_spawnNextSubmission]
  | case2 state hFull => rfl

theorem remaining_settle (state : SubmitState) (groups : List PlacedGroup) (outcome : Outcome) :
    (state.settle groups outcome).remaining < state.remaining + cost groups := by
  unfold settle remaining cost
  cases outcome with
  | failedOnChain error =>
      by_cases hMany : 1 < groups.length
      · simp only [if_pos hMany, costs_append, costs_alone]
        omega
      · simp only [if_neg hMany]
        omega
  | landed signature =>
      simp only
      split <;> omega
  | failed error applied =>
      simp only
      split <;> omega
  | panicked error applied =>
      simp only
      split <;> omega

theorem remaining_joinNext {state joined : SubmitState} {chosen : ℕ} {outcome : Outcome}
    {groups : List PlacedGroup} (hJoined : state.joinNext chosen outcome = some (groups, joined)) :
    joined.remaining + cost groups = state.remaining := by
  unfold joinNext at hJoined
  split at hJoined
  · cases hJoined
  · next found hAt =>
      simp only [Option.some.injEq, Prod.mk.injEq] at hJoined
      rcases hJoined with ⟨rfl, rfl⟩
      have hCosts := costs_eraseIdx hAt
      simp only [remaining]
      omega

/-- `while let Some(joined) = in_flight.join_next().await`. -/
def drain (next : List SubmitEvent → ℕ × Outcome) (state : SubmitState) : SubmitState :=
  match _hJoined : state.joinNext (next state.history).1 (next state.history).2 with
  | none => state
  | some (groups, joined) =>
      drain next (joined.settle groups (next state.history).2).refill
termination_by state.remaining
decreasing_by
  rw [remaining_refill]
  have hSettled := remaining_settle joined groups (next state.history).2
  have hTaken := remaining_joinNext (by assumption)
  omega

/-- What is returned once nothing is in flight. -/
def report (state : SubmitState) : Except Error (List String) :=
  if state.failures.isEmpty then .ok state.signatures
  else
    .error (.rpc (state.failures.length.repr ++ " of " ++ state.total.repr ++
      " settlement submissions failed after all outcomes were drained; confirmed signatures: [" ++
      ", ".intercalate state.signatures ++ "]; failures: [" ++
      "; ".intercalate state.failures ++ "]"))

end SubmitState

/-- The groups of a batch from the place of its first one on. -/
def placed (start : ℕ) (groups : List ChannelInstructionGroup) : List PlacedGroup :=
  (groups.zipIdx start).map fun entry => ⟨entry.2, entry.1.instructions⟩

/-- The packed batches, as the transactions to submit. -/
def placedBatches : ℕ → List (List ChannelInstructionGroup) → List (List PlacedGroup)
  | _, [] => []
  | start, batch :: batches =>
      placed start batch :: placedBatches (start + batch.length) batches

/-- The state before the loop: nothing spawned yet. -/
def SubmitState.start (pending : List (List PlacedGroup)) : SubmitState where
  total := pending.length
  pending := pending
  inFlight := []
  signatures := []
  failures := []
  history := []

/-- `submit_groups`, with what happened while it ran. -/
def submitGroups (fitsTx : FitsTx) (txVersion : TxVersion) (feePayer : Pubkey)
    (next : List SubmitEvent → ℕ × Outcome) (groups : List ChannelInstructionGroup)
    (maxPerTx : ℕ) : Except Error (List String) × List SubmitEvent :=
  if groups.isEmpty then (.ok [], [])
  else
    let pending := placedBatches 0 (pack fitsTx txVersion groups feePayer none maxPerTx)
    let spawned := SubmitState.spawnNextSubmission^[submitGroupsConcurrency] (.start pending)
    let final := spawned.drain next
    (final.report, final.history)

end PayKit.Settlement
