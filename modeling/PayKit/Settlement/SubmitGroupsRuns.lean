import PayKit.Settlement.SubmitGroups

/-!
# What a batch submission settles

Every group is at any time in one place: in a queued transaction, in one in flight, in one that
landed, or in one that was given up. Only the split of a transaction that failed on-chain takes
a group back into the queue, and it leaves the queue alone, so that it cannot be split again.
From this bookkeeping follow how often a group is sent and what the returned signatures mean.
-/

namespace PayKit.Settlement

open Solana Tx
open PayKit.X402 (Error)

/-! ### Reading a history -/

namespace Outcome

def lands (_ : List PlacedGroup) : Outcome → Bool
  | .landed _ => true
  | _ => false

/-- Its groups are submitted again. -/
def splits (groups : List PlacedGroup) : Outcome → Bool
  | .failedOnChain _ => 1 < groups.length
  | _ => false

/-- Its groups are given up, and the failure is reported. -/
def fails (groups : List PlacedGroup) (outcome : Outcome) : Bool :=
  !outcome.lands groups && !outcome.splits groups

/-- The instructions took effect, reported or not. -/
def applies (_ : List PlacedGroup) : Outcome → Bool
  | .landed _ => true
  | .failedOnChain _ => false
  | .failed _ applied => applied
  | .panicked _ applied => applied

end Outcome

def SubmitEvent.joinedAs (keep : List PlacedGroup → Outcome → Bool) :
    SubmitEvent → Option (List PlacedGroup)
  | .sent _ => none
  | .joined groups outcome => if keep groups outcome then some groups else none

def SubmitEvent.sentGroups : SubmitEvent → Option (List PlacedGroup)
  | .sent groups => some groups
  | .joined _ _ => none

def SubmitEvent.landing : SubmitEvent → Option (List PlacedGroup × String)
  | .joined groups (.landed signature) => some (groups, signature)
  | _ => none

/-- The transactions that ended in a given way. -/
def joinedAs (keep : List PlacedGroup → Outcome → Bool) (history : List SubmitEvent) :
    List (List PlacedGroup) :=
  history.filterMap (SubmitEvent.joinedAs keep)

def sentIn (history : List SubmitEvent) : List (List PlacedGroup) :=
  history.filterMap SubmitEvent.sentGroups

/-- The transactions that landed, with their signatures. -/
def landings (history : List SubmitEvent) : List (List PlacedGroup × String) :=
  history.filterMap SubmitEvent.landing

/-- How often a group is carried by some transactions. -/
def carried (transactions : List (List PlacedGroup)) (group : PlacedGroup) : ℕ :=
  transactions.flatten.count group

/-- A group that is sent again was in a transaction that failed on-chain before. -/
def Resends (history : List SubmitEvent) : Prop :=
  ∀ before again after, history = before ++ .sent again :: after →
    ∀ group ∈ again, ∀ earlier, .sent earlier ∈ before → group ∈ earlier →
      ∃ error, .joined earlier (.failedOnChain error) ∈ before

section Reading

variable {keep : List PlacedGroup → Outcome → Bool} {history : List SubmitEvent}
  {groups : List PlacedGroup} {outcome : Outcome} {group : PlacedGroup}

@[simp]
theorem carried_nil : carried [] group = 0 :=
  rfl

@[simp]
theorem carried_cons {rest : List (List PlacedGroup)} :
    carried (groups :: rest) group = groups.count group + carried rest group := by
  simp [carried]

@[simp]
theorem carried_append {first second : List (List PlacedGroup)} :
    carried (first ++ second) group = carried first group + carried second group := by
  simp [carried]

theorem carried_alone : carried (groups.map fun group => [group]) group = groups.count group := by
  induction groups with
  | nil => rfl
  | cons first groups hInduction =>
      rw [List.map_cons, carried_cons, hInduction, List.count_cons, List.count_cons,
        List.count_nil]
      omega

theorem carried_eraseIdx {transactions : List (List PlacedGroup)} {index : ℕ}
    (hAt : transactions[index]? = some groups) (group : PlacedGroup) :
    groups.count group + carried (transactions.eraseIdx index) group
      = carried transactions group := by
  have hCount := (SubmitState.eraseIdx_perm hAt).flatten.count_eq group
  simpa [carried] using hCount

theorem carried_pos {transactions : List (List PlacedGroup)} (hGroups : groups ∈ transactions)
    (hGroup : group ∈ groups) : 0 < carried transactions group :=
  List.count_pos_iff.mpr (List.mem_flatten.mpr ⟨groups, hGroups, hGroup⟩)

theorem mem_joinedAs (hJoined : .joined groups outcome ∈ history)
    (hKept : keep groups outcome = true) : groups ∈ joinedAs keep history :=
  List.mem_filterMap.mpr ⟨_, hJoined, by simp [SubmitEvent.joinedAs, hKept]⟩

@[simp]
theorem joinedAs_sent : joinedAs keep (history ++ [.sent groups]) = joinedAs keep history := by
  simp [joinedAs, SubmitEvent.joinedAs]

@[simp]
theorem joinedAs_joined : joinedAs keep (history ++ [.joined groups outcome])
    = joinedAs keep history ++ if keep groups outcome then [groups] else [] := by
  cases hKept : keep groups outcome <;> simp [joinedAs, SubmitEvent.joinedAs, hKept]

@[simp]
theorem sentIn_sent : sentIn (history ++ [.sent groups]) = sentIn history ++ [groups] := by
  simp [sentIn, SubmitEvent.sentGroups]

@[simp]
theorem sentIn_joined : sentIn (history ++ [.joined groups outcome]) = sentIn history := by
  simp [sentIn, SubmitEvent.sentGroups]

@[simp]
theorem landings_sent : landings (history ++ [.sent groups]) = landings history := by
  simp [landings, SubmitEvent.landing]

theorem landings_joined (hLands : outcome.lands groups = false) (history : List SubmitEvent) :
    landings (history ++ [.joined groups outcome]) = landings history := by
  cases outcome with
  | landed signature => cases hLands
  | failedOnChain error => simp [landings, SubmitEvent.landing]
  | failed error applied => simp [landings, SubmitEvent.landing]
  | panicked error applied => simp [landings, SubmitEvent.landing]

theorem landings_transactions (history : List SubmitEvent) :
    (landings history).map Prod.fst = joinedAs Outcome.lands history := by
  unfold landings joinedAs
  rw [List.map_filterMap]
  refine List.filterMap_congr fun event _ => ?_
  rcases event with groups | ⟨groups, outcome⟩
  · rfl
  · cases outcome <;> rfl

/-- What took effect was in a transaction that landed or in one that was given up. -/
theorem carried_applies_le (history : List SubmitEvent) (group : PlacedGroup) :
    carried (joinedAs Outcome.applies history) group
      ≤ carried (joinedAs Outcome.lands history) group
        + carried (joinedAs Outcome.fails history) group := by
  induction history using List.reverseRecOn with
  | nil => simp [joinedAs]
  | append_singleton history event hInduction =>
      rcases event with groups | ⟨groups, outcome⟩
      · simpa only [joinedAs_sent] using hInduction
      · simp only [joinedAs_joined, carried_append]
        cases outcome with
        | landed signature =>
            simp only [Outcome.applies, Outcome.lands, Outcome.fails]
            simp
            omega
        | failedOnChain error => simp [Outcome.applies, Outcome.lands]; omega
        | failed error applied =>
            cases applied <;>
              simp [Outcome.applies, Outcome.lands, Outcome.fails, Outcome.splits] <;> omega
        | panicked error applied =>
            cases applied <;>
              simp [Outcome.applies, Outcome.lands, Outcome.fails, Outcome.splits] <;> omega

theorem Resends.joined (hResends : Resends history) :
    Resends (history ++ [.joined groups outcome]) := by
  intro before again after hSplit
  rcases List.eq_nil_or_concat after with rfl | ⟨after, last, rfl⟩
  · have hLast := (List.append_inj' hSplit rfl).2
    cases hLast
  · rw [List.concat_eq_append] at hSplit
    have hSplit : history ++ [.joined groups outcome] = (before ++ .sent again :: after) ++ [last] := by
      simpa using hSplit
    exact hResends before again after (List.append_inj' hSplit rfl).1

theorem Resends.sent (hResends : Resends history)
    (hGroups : ∀ group ∈ groups, ∀ earlier, .sent earlier ∈ history → group ∈ earlier →
      ∃ error, .joined earlier (.failedOnChain error) ∈ history) :
    Resends (history ++ [.sent groups]) := by
  intro before again after hSplit
  rcases List.eq_nil_or_concat after with rfl | ⟨after, last, rfl⟩
  · rcases List.append_inj' hSplit rfl with ⟨rfl, hAgain⟩
    simp only [List.cons.injEq, SubmitEvent.sent.injEq, and_true] at hAgain
    subst hAgain
    exact hGroups
  · rw [List.concat_eq_append] at hSplit
    have hSplit : history ++ [.sent groups] = (before ++ .sent again :: after) ++ [last] := by
      simpa using hSplit
    exact hResends before again after (List.append_inj' hSplit rfl).1

end Reading

/-! ### The bookkeeping -/

/-- What holds of a submission of `given` at every turn of the loop. -/
structure SubmitState.Accounts (given : List PlacedGroup) (state : SubmitState) : Prop where
  /-- A group is in one place. -/
  once : ∀ group, carried state.pending group + carried state.inFlight group
    + carried (joinedAs Outcome.lands state.history) group
    + carried (joinedAs Outcome.fails state.history) group = given.count group
  /-- What was sent is in flight, or ended. -/
  sent : ∀ group, carried (sentIn state.history) group = carried state.inFlight group
    + carried (joinedAs Outcome.lands state.history) group
    + carried (joinedAs Outcome.fails state.history) group
    + carried (joinedAs Outcome.splits state.history) group
  tracked : ∀ groups, .sent groups ∈ state.history →
    groups ∈ state.inFlight ∨ ∃ outcome, .joined groups outcome ∈ state.history
  /-- A transaction that can be split has no group that was in a split one. -/
  fresh : ∀ groups, groups ∈ state.pending ∨ groups ∈ state.inFlight → 1 < groups.length →
    ∀ group ∈ groups, carried (joinedAs Outcome.splits state.history) group = 0
  splitOnce : ∀ group, carried (joinedAs Outcome.splits state.history) group ≤ 1
  resends : Resends state.history
  signatures : state.signatures = (landings state.history).map Prod.snd
  failures : state.failures.length = (joinedAs Outcome.fails state.history).length
  /-- The total of the error message counts what ended or will. -/
  total : state.total = state.pending.length + state.inFlight.length
    + (landings state.history).length + (joinedAs Outcome.fails state.history).length

namespace SubmitState

variable {given : List PlacedGroup} {state : SubmitState}

theorem Accounts.start (pending : List (List PlacedGroup)) :
    (start pending).Accounts pending.flatten where
  once := by simp [SubmitState.start, joinedAs, carried]
  sent := by simp [SubmitState.start, joinedAs, sentIn]
  tracked := by simp [SubmitState.start]
  fresh := by simp [SubmitState.start, joinedAs]
  splitOnce := by simp [SubmitState.start, joinedAs]
  resends := by simp [Resends, SubmitState.start]
  signatures := rfl
  failures := rfl
  total := by simp [SubmitState.start, joinedAs, landings]

/-- A queued group that was sent before was in a transaction that failed on-chain. -/
theorem Accounts.sentBefore (hAccounts : state.Accounts given) (hNodup : given.Nodup)
    {groups earlier : List PlacedGroup} {group : PlacedGroup} (hQueued : groups ∈ state.pending)
    (hGroup : group ∈ groups) (hSent : .sent earlier ∈ state.history) (hEarlier : group ∈ earlier) :
    ∃ error, .joined earlier (.failedOnChain error) ∈ state.history := by
  have hOnce := hAccounts.once group
  have hGiven := List.nodup_iff_count_le_one.mp hNodup group
  have hPending := carried_pos hQueued hGroup
  rcases hAccounts.tracked earlier hSent with hFlying | ⟨outcome, hJoined⟩
  · have hInFlight := carried_pos hFlying hEarlier
    omega
  · by_cases hSplits : outcome.splits earlier = true
    · cases outcome with
      | failedOnChain error => exact ⟨error, hJoined⟩
      | landed signature => cases hSplits
      | failed error applied => cases hSplits
      | panicked error applied => cases hSplits
    · by_cases hLands : outcome.lands earlier = true
      · have hLanded := carried_pos (mem_joinedAs hJoined hLands) hEarlier
        omega
      · have hFails : outcome.fails earlier = true := by simp [Outcome.fails, hLands, hSplits]
        have hFailed := carried_pos (mem_joinedAs hJoined hFails) hEarlier
        omega

theorem Accounts.spawnNextSubmission (hAccounts : state.Accounts given) (hNodup : given.Nodup) :
    state.spawnNextSubmission.Accounts given := by
  unfold SubmitState.spawnNextSubmission
  cases hQueue : state.pending with
  | nil => exact hAccounts
  | cons groups pending =>
      have hQueued : groups ∈ state.pending := by simp [hQueue]
      refine
        { once := ?_, sent := ?_, tracked := ?_, fresh := ?_, splitOnce := ?_, resends := ?_,
          signatures := ?_, failures := ?_, total := ?_ }
      · intro group
        have hOnce := hAccounts.once group
        simp only [hQueue, carried_cons] at hOnce
        simp only [joinedAs_sent, carried_append, carried_cons, carried_nil]
        omega
      · intro group
        have hSent := hAccounts.sent group
        simp only [joinedAs_sent, sentIn_sent, carried_append, carried_cons, carried_nil]
        omega
      · intro sent hSent
        rcases List.mem_append.mp hSent with hSent | hSent
        · rcases hAccounts.tracked sent hSent with hFlying | ⟨outcome, hJoined⟩
          · exact .inl (List.mem_append_left _ hFlying)
          · exact .inr ⟨outcome, List.mem_append_left _ hJoined⟩
        · simp only [List.mem_singleton, SubmitEvent.sent.injEq] at hSent
          subst hSent
          exact .inl (by simp)
      · intro big hBig
        simp only [joinedAs_sent]
        refine hAccounts.fresh big ?_
        rcases hBig with hPending | hFlying
        · exact .inl (by simp [hQueue, hPending])
        · rcases List.mem_append.mp hFlying with hFlying | hSpawned
          · exact .inr hFlying
          · rw [List.mem_singleton.mp hSpawned]
            exact .inl hQueued
      · simpa only [joinedAs_sent] using hAccounts.splitOnce
      · refine hAccounts.resends.sent fun group hGroup earlier hSent hEarlier => ?_
        exact hAccounts.sentBefore hNodup hQueued hGroup hSent hEarlier
      · simpa only [landings_sent] using hAccounts.signatures
      · simpa only [joinedAs_sent] using hAccounts.failures
      · have hTotal := hAccounts.total
        simp only [hQueue, List.length_cons] at hTotal
        simp only [joinedAs_sent, landings_sent, List.length_append, List.length_singleton]
        omega

theorem Accounts.refill (hAccounts : state.Accounts given) (hNodup : given.Nodup) :
    state.refill.Accounts given := by
  fun_induction SubmitState.refill state with
  | case1 state hRoom hInduction => exact hInduction (hAccounts.spawnNextSubmission hNodup)
  | case2 state hFull => exact hAccounts

/-! ### A joined submission -/

theorem joinNext_eq_none {chosen : ℕ} {outcome : Outcome}
    (hNone : state.joinNext chosen outcome = none) : state.inFlight = [] := by
  unfold joinNext at hNone
  split at hNone
  · next hAt =>
      by_contra hFlying
      have hLength := List.length_pos_of_ne_nil hFlying
      have hIndex := List.getElem?_eq_none_iff.mp hAt
      exact absurd (Nat.mod_lt chosen hLength) (by omega)
  · cases hNone

theorem joinNext_eq_some {chosen : ℕ} {outcome : Outcome} {groups : List PlacedGroup}
    {joined : SubmitState} (hJoined : state.joinNext chosen outcome = some (groups, joined)) :
    ∃ index, state.inFlight[index]? = some groups ∧
      joined = { state with
        inFlight := state.inFlight.eraseIdx index
        history := state.history ++ [.joined groups outcome] } := by
  unfold joinNext at hJoined
  split at hJoined
  · cases hJoined
  · next found hAt =>
      simp only [Option.some.injEq, Prod.mk.injEq] at hJoined
      rcases hJoined with ⟨rfl, rfl⟩
      exact ⟨_, hAt, rfl⟩

/-- The three ways a submission ends: its signature is recorded, its groups are queued again one
by one, or its failure is recorded. -/
theorem settle_cases (state : SubmitState) (groups : List PlacedGroup) (outcome : Outcome) :
    (∃ signature, outcome = .landed signature ∧
      state.settle groups outcome
        = { state with signatures := state.signatures ++ [signature] }) ∨
    (outcome.splits groups = true ∧ 1 < groups.length ∧
      state.settle groups outcome
        = { state with
            total := state.total + (groups.length - 1)
            pending := state.pending ++ groups.map fun group => [group] }) ∨
    (outcome.fails groups = true ∧ ∃ failure,
      state.settle groups outcome
        = { state with failures := state.failures ++ [failure] }) := by
  cases outcome with
  | landed signature => exact .inl ⟨signature, rfl, rfl⟩
  | failedOnChain error =>
      by_cases hMany : 1 < groups.length
      · exact .inr (.inl ⟨by simp [Outcome.splits, hMany], hMany, by simp [settle, hMany]⟩)
      · refine .inr (.inr ⟨?_, error.display, by simp [settle, hMany]⟩)
        simp [Outcome.fails, Outcome.lands, Outcome.splits, hMany]
  | failed error applied => exact .inr (.inr ⟨rfl, error.display, rfl⟩)
  | panicked error applied => exact .inr (.inr ⟨rfl, "submit join error: " ++ error, rfl⟩)

section Joined

variable {index : ℕ} {groups : List PlacedGroup} {outcome : Outcome}

theorem Accounts.tracked_joined (hAccounts : state.Accounts given)
    (hAt : state.inFlight[index]? = some groups) (sent : List PlacedGroup)
    (hSent : .sent sent ∈ state.history ++ [.joined groups outcome]) :
    sent ∈ state.inFlight.eraseIdx index ∨
      ∃ outcome', .joined sent outcome' ∈ state.history ++ [.joined groups outcome] := by
  have hSent : .sent sent ∈ state.history := by simpa using hSent
  rcases hAccounts.tracked sent hSent with hFlying | ⟨other, hJoined⟩
  · rcases List.mem_cons.mp ((eraseIdx_perm hAt).mem_iff.mpr hFlying) with rfl | hFlying
    · exact .inr ⟨outcome, by simp⟩
    · exact .inl hFlying
  · exact .inr ⟨other, List.mem_append_left _ hJoined⟩

theorem mem_inFlight_of_eraseIdx {other : List PlacedGroup}
    (hOther : other ∈ state.inFlight.eraseIdx index) : other ∈ state.inFlight :=
  List.mem_of_mem_eraseIdx hOther

theorem length_eraseIdx_inFlight (hAt : state.inFlight[index]? = some groups) :
    (state.inFlight.eraseIdx index).length + 1 = state.inFlight.length := by
  simpa using (eraseIdx_perm hAt).length_eq

theorem Accounts.landed (hAccounts : state.Accounts given) {signature : String}
    (hAt : state.inFlight[index]? = some groups) :
    Accounts given
      { state with
        inFlight := state.inFlight.eraseIdx index
        history := state.history ++ [.joined groups (.landed signature)]
        signatures := state.signatures ++ [signature] } where
  once := by
    intro group
    have hOnce := hAccounts.once group
    have hErased := carried_eraseIdx hAt group
    simp only [joinedAs_joined, Outcome.lands, Outcome.fails, carried_append]
    simp
    omega
  sent := by
    intro group
    have hSent := hAccounts.sent group
    have hErased := carried_eraseIdx hAt group
    simp only [sentIn_joined, joinedAs_joined, Outcome.lands, Outcome.fails, Outcome.splits,
      carried_append]
    simp
    omega
  tracked := hAccounts.tracked_joined hAt
  fresh := by
    intro big hBig
    simpa [Outcome.splits] using hAccounts.fresh big (hBig.imp_right mem_inFlight_of_eraseIdx)
  splitOnce := by simpa [Outcome.splits] using hAccounts.splitOnce
  resends := hAccounts.resends.joined
  signatures := by simp [hAccounts.signatures, landings, SubmitEvent.landing]
  failures := by simpa [Outcome.fails, Outcome.lands] using hAccounts.failures
  total := by
    have hTotal := hAccounts.total
    have hErased := length_eraseIdx_inFlight hAt
    simp [landings, SubmitEvent.landing, Outcome.fails, Outcome.lands] at hTotal ⊢
    omega

theorem Accounts.split (hAccounts : state.Accounts given) (hNodup : given.Nodup)
    (hAt : state.inFlight[index]? = some groups) (hSplits : outcome.splits groups = true)
    (hMany : 1 < groups.length) :
    Accounts given
      { state with
        inFlight := state.inFlight.eraseIdx index
        history := state.history ++ [.joined groups outcome]
        total := state.total + (groups.length - 1)
        pending := state.pending ++ groups.map fun group => [group] } := by
  have hLands : outcome.lands groups = false := by
    cases outcome <;> first | rfl | cases hSplits
  have hFails : outcome.fails groups = false := by simp [Outcome.fails, hSplits]
  have hLandings := landings_joined hLands state.history
  have hFlying : groups ∈ state.inFlight := List.mem_of_getElem? hAt
  have hGroups : ∀ group, groups.count group ≤ 1 := by
    intro group
    have hOnce := hAccounts.once group
    have hErased := carried_eraseIdx hAt group
    have hGiven := List.nodup_iff_count_le_one.mp hNodup group
    omega
  refine
    { once := ?_, sent := ?_, tracked := hAccounts.tracked_joined hAt, fresh := ?_,
      splitOnce := ?_, resends := hAccounts.resends.joined, signatures := ?_, failures := ?_,
      total := ?_ }
  · intro group
    have hOnce := hAccounts.once group
    have hErased := carried_eraseIdx hAt group
    simp only [joinedAs_joined, hLands, hFails, carried_append, carried_alone]
    simp
    omega
  · intro group
    have hSent := hAccounts.sent group
    have hErased := carried_eraseIdx hAt group
    simp only [sentIn_joined, joinedAs_joined, hLands, hFails, hSplits, carried_append]
    simp
    omega
  · intro big hBig hLength group hGroup
    simp only [joinedAs_joined, hSplits, if_true, carried_append, carried_cons, carried_nil]
    have hOnce := hAccounts.once group
    have hErased := carried_eraseIdx hAt group
    have hGiven := List.nodup_iff_count_le_one.mp hNodup group
    rcases hBig with hQueued | hFlies
    · rcases List.mem_append.mp hQueued with hQueued | hAlone
      · have hPending := carried_pos hQueued hGroup
        have hFresh := hAccounts.fresh big (.inl hQueued) hLength group hGroup
        omega
      · rcases List.mem_map.mp hAlone with ⟨alone, -, rfl⟩
        simp at hLength
    · have hFlies : big ∈ state.inFlight.eraseIdx index := hFlies
      have hOther := carried_pos hFlies hGroup
      have hFresh := hAccounts.fresh big (.inr (mem_inFlight_of_eraseIdx hFlies)) hLength group
        hGroup
      omega
  · intro group
    simp only [joinedAs_joined, hSplits, if_true, carried_append, carried_cons, carried_nil]
    have hSplit := hAccounts.splitOnce group
    have hCount := hGroups group
    by_cases hGroup : group ∈ groups
    · have hFresh := hAccounts.fresh groups (.inr hFlying) hMany group hGroup
      omega
    · have hAbsent : groups.count group = 0 := List.count_eq_zero.mpr hGroup
      omega
  · simpa only [hLandings] using hAccounts.signatures
  · simpa [hFails] using hAccounts.failures
  · have hTotal := hAccounts.total
    have hErased := length_eraseIdx_inFlight hAt
    simp only [hLandings, joinedAs_joined, hFails, List.length_append, List.length_map]
    simp
    omega

theorem Accounts.failed (hAccounts : state.Accounts given) {failure : String}
    (hAt : state.inFlight[index]? = some groups) (hFails : outcome.fails groups = true) :
    Accounts given
      { state with
        inFlight := state.inFlight.eraseIdx index
        history := state.history ++ [.joined groups outcome]
        failures := state.failures ++ [failure] } := by
  have hEnds : outcome.lands groups = false ∧ outcome.splits groups = false := by
    simpa [Outcome.fails] using hFails
  have hLandings := landings_joined hEnds.1 state.history
  refine
    { once := ?_, sent := ?_, tracked := hAccounts.tracked_joined hAt, fresh := ?_,
      splitOnce := ?_, resends := hAccounts.resends.joined, signatures := ?_, failures := ?_,
      total := ?_ }
  · intro group
    have hOnce := hAccounts.once group
    have hErased := carried_eraseIdx hAt group
    simp only [joinedAs_joined, hEnds.1, hFails, carried_append]
    simp
    omega
  · intro group
    have hSent := hAccounts.sent group
    have hErased := carried_eraseIdx hAt group
    simp only [sentIn_joined, joinedAs_joined, hEnds.1, hEnds.2, hFails, carried_append]
    simp
    omega
  · intro big hBig
    simpa [hEnds.2] using hAccounts.fresh big (hBig.imp_right mem_inFlight_of_eraseIdx)
  · simpa [hEnds.2] using hAccounts.splitOnce
  · simpa only [hLandings] using hAccounts.signatures
  · simpa [hFails] using hAccounts.failures
  · have hTotal := hAccounts.total
    have hErased := length_eraseIdx_inFlight hAt
    simp only [hLandings, joinedAs_joined, hFails, List.length_append]
    simp
    omega

theorem Accounts.settle (hAccounts : state.Accounts given) (hNodup : given.Nodup) {chosen : ℕ}
    {joined : SubmitState} (hJoined : state.joinNext chosen outcome = some (groups, joined)) :
    (joined.settle groups outcome).Accounts given := by
  rcases joinNext_eq_some hJoined with ⟨index, hAt, hState⟩
  rcases settle_cases joined groups outcome with
    ⟨signature, rfl, hSettled⟩ | ⟨hSplits, hMany, hSettled⟩ | ⟨hFails, failure, hSettled⟩
  · rw [hSettled, hState]
    exact hAccounts.landed hAt
  · rw [hSettled, hState]
    exact hAccounts.split hNodup hAt hSplits hMany
  · rw [hSettled, hState]
    exact hAccounts.failed hAt hFails

end Joined

/-! ### The whole run -/

theorem Accounts.spawned (hAccounts : state.Accounts given) (hNodup : given.Nodup)
    (count : ℕ) : (SubmitState.spawnNextSubmission^[count] state).Accounts given := by
  induction count with
  | zero => exact hAccounts
  | succ count hInduction =>
      rw [Function.iterate_succ_apply']
      exact hInduction.spawnNextSubmission hNodup

theorem Accounts.drain (hAccounts : state.Accounts given) (hNodup : given.Nodup)
    (next : List SubmitEvent → ℕ × Outcome) : (state.drain next).Accounts given := by
  fun_induction SubmitState.drain next state with
  | case1 state hJoined => exact hAccounts
  | case2 state groups joined hJoined hInduction =>
      exact hInduction ((hAccounts.settle hNodup hJoined).refill hNodup)

/-- While anything is queued, something is in flight. -/
def Busy (state : SubmitState) : Prop :=
  state.inFlight = [] → state.pending = []

theorem busy_refill (state : SubmitState) : state.refill.Busy := by
  fun_induction SubmitState.refill state with
  | case1 state hRoom hInduction => exact hInduction
  | case2 state hFull =>
      intro hIdle
      by_contra hPending
      exact hFull ⟨by simp [hIdle, submitGroupsConcurrency], hPending⟩

theorem busy_spawnNextSubmission (state : SubmitState) : state.spawnNextSubmission.Busy := by
  unfold SubmitState.spawnNextSubmission Busy
  cases hQueue : state.pending with
  | nil => exact fun _ => hQueue
  | cons groups pending => simp

theorem busy_spawned (state : SubmitState) :
    (SubmitState.spawnNextSubmission^[submitGroupsConcurrency] state).Busy := by
  rw [submitGroupsConcurrency, Function.iterate_succ_apply']
  exact busy_spawnNextSubmission _

theorem drain_ends (hBusy : state.Busy) (next : List SubmitEvent → ℕ × Outcome) :
    (state.drain next).inFlight = [] ∧ (state.drain next).pending = [] := by
  fun_induction SubmitState.drain next state with
  | case1 state hJoined =>
      have hIdle := joinNext_eq_none hJoined
      exact ⟨hIdle, hBusy hIdle⟩
  | case2 state groups joined hJoined hInduction => exact hInduction (busy_refill _)

end SubmitState

/-! ### What is given and what is returned -/

theorem placed_nodup (start : ℕ) (groups : List ChannelInstructionGroup) :
    (placed start groups).Nodup := by
  refine List.Nodup.of_map PlacedGroup.place ?_
  have hPlaces : (placed start groups).map PlacedGroup.place
      = List.range' start groups.length := by
    simp only [placed, List.map_map]
    exact List.zipIdx_map_snd start groups
  rw [hPlaces]
  exact List.nodup_range'

theorem placedBatches_flatten (start : ℕ) (batches : List (List ChannelInstructionGroup)) :
    (placedBatches start batches).flatten = placed start batches.flatten := by
  induction batches generalizing start with
  | nil => rfl
  | cons batch batches hInduction =>
      rw [placedBatches, List.flatten_cons, List.flatten_cons, hInduction]
      simp [placed, List.zipIdx_append]

/-- What a submission of `given` does, by its result and by what happened. -/
structure SettlesOnce (given : List PlacedGroup) (result : Except Error (List String))
    (history : List SubmitEvent) : Prop where
  /-- Nothing is in flight at the end. -/
  ended : ∀ groups, .sent groups ∈ history → ∃ outcome, .joined groups outcome ∈ history
  /-- A group is sent again only after the transaction that carried it failed on-chain. -/
  resends : Resends history
  sentTwice : ∀ group, carried (sentIn history) group ≤ 2
  appliedOnce : ∀ group, carried (joinedAs Outcome.applies history) group ≤ 1
  /-- The returned signatures are those of the transactions that landed, and every group is in
  exactly one of these. -/
  landed : ∀ signatures, result = .ok signatures →
    signatures = (landings history).map Prod.snd ∧
      ((landings history).map Prod.fst).flatten.Perm given
  unlanded : ∀ group ∈ given, (∀ landing ∈ landings history, group ∉ landing.1) →
    ∃ error, result = .error error

namespace SubmitState.Accounts

variable {given : List PlacedGroup} {state : SubmitState}

theorem sentTwice (hAccounts : state.Accounts given) (hNodup : given.Nodup)
    (group : PlacedGroup) : carried (sentIn state.history) group ≤ 2 := by
  have hOnce := hAccounts.once group
  have hSent := hAccounts.sent group
  have hSplit := hAccounts.splitOnce group
  have hGiven := List.nodup_iff_count_le_one.mp hNodup group
  omega

theorem appliedOnce (hAccounts : state.Accounts given) (hNodup : given.Nodup)
    (group : PlacedGroup) : carried (joinedAs Outcome.applies state.history) group ≤ 1 := by
  have hOnce := hAccounts.once group
  have hApplied := carried_applies_le state.history group
  have hGiven := List.nodup_iff_count_le_one.mp hNodup group
  omega

theorem landed_perm (hAccounts : state.Accounts given) (hIdle : state.inFlight = [])
    (hPending : state.pending = []) (hFailures : state.failures = []) :
    ((landings state.history).map Prod.fst).flatten.Perm given := by
  have hFailed : joinedAs Outcome.fails state.history = [] := by
    have hLength := hAccounts.failures
    rw [hFailures] at hLength
    exact List.length_eq_zero_iff.mp hLength.symm
  rw [landings_transactions, List.perm_iff_count]
  intro group
  have hOnce := hAccounts.once group
  rw [hIdle, hPending, hFailed] at hOnce
  simpa [carried] using hOnce

theorem settlesOnce (hAccounts : state.Accounts given) (hNodup : given.Nodup)
    (hIdle : state.inFlight = []) (hPending : state.pending = []) :
    SettlesOnce given state.report state.history where
  ended := by
    intro groups hSent
    simpa [hIdle] using hAccounts.tracked groups hSent
  resends := hAccounts.resends
  sentTwice := hAccounts.sentTwice hNodup
  appliedOnce := hAccounts.appliedOnce hNodup
  landed := by
    intro signatures hReport
    unfold report at hReport
    split at hReport
    · next hFailures =>
        cases hReport
        refine ⟨hAccounts.signatures, hAccounts.landed_perm hIdle hPending ?_⟩
        simpa using hFailures
    · cases hReport
  unlanded := by
    intro group hGroup hUnlanded
    unfold report
    split
    · next hFailures =>
        have hPerm := hAccounts.landed_perm hIdle hPending (by simpa using hFailures)
        have hLanded := hPerm.mem_iff.mpr hGroup
        rcases List.mem_flatten.mp hLanded with ⟨groups, hGroups, hMember⟩
        rcases List.mem_map.mp hGroups with ⟨landing, hLanding, rfl⟩
        exact absurd hMember (hUnlanded landing hLanding)
    · exact ⟨_, rfl⟩

end SubmitState.Accounts

/-- For every packing and every order and outcome of its transactions, `submit_groups` ends (its
loop is a total function here, by `SubmitState.remaining`), with each group settled at most once
and an honest result. -/
theorem submitGroups_settlesOnce (fitsTx : FitsTx) (txVersion : TxVersion) (feePayer : Pubkey)
    (next : List SubmitEvent → ℕ × Outcome) (groups : List ChannelInstructionGroup)
    (maxPerTx : ℕ) :
    SettlesOnce (placed 0 groups)
      (submitGroups fitsTx txVersion feePayer next groups maxPerTx).1
      (submitGroups fitsTx txVersion feePayer next groups maxPerTx).2 := by
  unfold submitGroups
  by_cases hEmpty : groups = []
  · subst hEmpty
    have hStart := SubmitState.Accounts.start []
    exact hStart.settlesOnce .nil rfl rfl
  · simp only [List.isEmpty_iff, hEmpty, if_false]
    have hGreedy : Batching.IsGreedy (overflowsBy _ fitsTx txVersion feePayer none maxPerTx) groups
        (pack fitsTx txVersion groups feePayer none maxPerTx) := pack_isGreedy groups
    have hGiven : (placedBatches 0 (pack fitsTx txVersion groups feePayer none maxPerTx)).flatten
        = placed 0 groups := by
      rw [placedBatches_flatten, hGreedy.flatten]
    have hNodup : (placed 0 groups).Nodup := placed_nodup 0 groups
    have hStart : (SubmitState.start (placedBatches 0
        (pack fitsTx txVersion groups feePayer none maxPerTx))).Accounts (placed 0 groups) :=
      hGiven ▸ SubmitState.Accounts.start _
    have hSpawned := hStart.spawned hNodup submitGroupsConcurrency
    rcases SubmitState.drain_ends (SubmitState.busy_spawned _) next with ⟨hIdle, hPending⟩
    exact (hSpawned.drain hNodup next).settlesOnce hNodup hIdle hPending

end PayKit.Settlement
