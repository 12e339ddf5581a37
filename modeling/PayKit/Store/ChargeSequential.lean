import Mathlib.Tactic.Cases
import PayKit.Store.ChargeConcurrent

/-!
# The charge replay ledger, one operation after another

Run alone, an operation of the ledger is a function of the list of generations
that the record consists of. `LedgerOperation.apply` is that function, and
`exec_body` shows that the store calls of the operation compute it. What later
callers learn of a recorded outcome is then a matter of lists: a confirmed last
generation stays the last one, and a pending one stays until something is
recorded.

The list is readable while its last generation is below the bound that `tip`
enforces. The writers do not enforce it, so the very last generation that they
can write is one that no reader accepts.
-/

namespace PayKit.Store

open Concurrency ChargeReplayStore

/-- The backend holds `chain` as the record of `challengeId`. -/
def Stores (backend : Backend) (challengeId : String) (chain : List ChargeRecord) : Prop :=
  ∀ generation, backend.entries (chargeRecordKey challengeId generation) =
    chain[generation]?.map .record

/-- The last generation, unless readers refuse the record for its length. -/
def latest (challengeId : String) (chain : List ChargeRecord) :
    Except StoreError (Option (ℕ × ChargeRecord)) :=
  match chain.getLast? with
  | none => .ok none
  | some record =>
      if chain.length ≤ maxChargeRecordGenerations then .ok (some (chain.length - 1, record))
      else .error (tooLong challengeId)

/-- `advance` on the list of generations. -/
def advanceList (challengeId : String) (generation : ℕ) (ready : ChargeRecord → Bool)
    (update : ChargeRecord → ChargeRecord) (chain : List ChargeRecord) :
    Except StoreError Bool × List ChargeRecord :=
  match latest challengeId chain with
  | .error error => (.error error, chain)
  | .ok none => (.error (noReservation challengeId), chain)
  | .ok (some (last, record)) =>
      if last ≠ generation ∨ !ready record then (.ok false, chain)
      else (.ok true, chain ++ [update record])

/-- `record_confirmed` on the list of generations. -/
def recordConfirmedList (challengeId signature : String) (now : Int)
    (chain : List ChargeRecord) : Except StoreError Bool × List ChargeRecord :=
  match latest challengeId chain with
  | .error error => (.error error, chain)
  | .ok none => (.error (noReservation challengeId), chain)
  | .ok (some (_, record)) =>
      match record.state with
      | .confirmed => (.ok true, chain)
      | .failed => (.ok false, chain)
      | .reserved | .pending =>
          (.ok true, chain ++ [terminal record .confirmed (some signature) none now])

/-- `reserve` on the list of generations. -/
def reserveList (challengeId digest : String) (lease : UInt64) (now : Int)
    (chain : List ChargeRecord) : Except StoreError ChargeReservation × List ChargeRecord :=
  match latest challengeId chain with
  | .error error => (.error error, chain)
  | .ok none => (.ok (.reserved 0), [freshRecord challengeId digest lease now])
  | .ok (some (generation, existing)) =>
      if existing.normalizedRequestDigest ≠ digest then (.ok .conflict, chain)
      else
        match existing.state with
        | .confirmed => (.ok (.alreadyConfirmed (existing.finalSignature.getD "")), chain)
        | .failed => (.ok (.alreadyFailed (existing.failureReason.getD "")), chain)
        | .pending =>
            (.ok (.pendingConfirmation generation (existing.finalSignature.getD "")), chain)
        | .reserved =>
            if existing.expiresAt > now then (.ok .inProgress, chain)
            else
              (.ok (.reserved (generation + 1)),
                chain ++ [freshRecord challengeId digest lease now])

section

variable {backend : Backend} {challengeId : String} {chain : List ChargeRecord}
  (answer : NodeAnswer)

theorem exec_get_bind {Result : Type} (key : String) (rest : Option Value → StoreM Result) :
    (get key >>= rest).run.exec (handle answer) backend =
      (rest (backend.entries key)).run.exec (handle answer) backend :=
  rfl

theorem Stores.exec_read (stores : Stores backend challengeId chain) (generation : ℕ) :
    (ChargeReplayStore.read challengeId generation).run.exec (handle answer) backend =
      (.ok chain[generation]?, backend) := by
  unfold ChargeReplayStore.read
  rw [exec_get_bind, stores generation]
  cases chain[generation]? <;> rfl

theorem Stores.exec_tipFrom (stores : Stores backend challengeId chain)
    {remaining generation : ℕ} {record : ChargeRecord}
    (bound : generation + remaining + 1 = maxChargeRecordGenerations)
    (here : chain[generation]? = some record) :
    (tipFrom challengeId remaining generation record).run.exec (handle answer) backend =
      (if chain.length ≤ maxChargeRecordGenerations then
          .ok (chain.length - 1, chain[chain.length - 1]?.getD record)
        else .error (tooLong challengeId), backend) := by
  have inside : generation < chain.length := (List.getElem?_eq_some_iff.mp here).1
  unfold tipFrom
  rw [Fallible.exec_run_bind, stores.exec_read]
  cases next : chain[generation + 1]? with
  | none =>
      have last : chain.length = generation + 1 := by
        have := List.getElem?_eq_none_iff.mp next
        omega
      have readable : generation + 1 ≤ maxChargeRecordGenerations := by omega
      have record_eq : chain[generation] = record := (List.getElem?_eq_some_iff.mp here).2
      simp [last, readable, record_eq]
  | some following =>
      have more : generation + 1 < chain.length := (List.getElem?_eq_some_iff.mp next).1
      cases remaining with
      | zero =>
          have tooMany : ¬chain.length ≤ maxChargeRecordGenerations := by omega
          simp [tooMany]
      | succ remaining =>
          have present : chain.length - 1 < chain.length := by omega
          simp only [present, getElem?_pos, Option.getD_some]
          rw [stores.exec_tipFrom (by omega) next]
          simp [present]

theorem Stores.exec_tip (stores : Stores backend challengeId chain) :
    (tip challengeId).run.exec (handle answer) backend =
      (latest challengeId chain, backend) := by
  unfold tip latest
  rw [Fallible.exec_run_bind, stores.exec_read]
  cases chain with
  | nil => rfl
  | cons root rest =>
      simp only [List.length_cons, Nat.zero_lt_succ, getElem?_pos, List.getElem_cons_zero,
        Fallible.exec_run_bind]
      rw [stores.exec_tipFrom answer (by decide) rfl]
      have last : (root :: rest)[(root :: rest).length - 1]?.getD root =
          (root :: rest).getLast (by simp) := by
        simp [List.getLast_eq_getElem]
      rw [last, List.getLast?_eq_some_getLast (by simp)]
      simp only
      split <;> split <;> simp_all

theorem Stores.exec_append (stores : Stores backend challengeId chain) (record : ChargeRecord) :
    (append challengeId chain.length record).run.exec (handle answer) backend =
      (.ok true, backend.setEntry (chargeRecordKey challengeId chain.length)
        (some (.record record))) := by
  have absent : backend.entries (chargeRecordKey challengeId chain.length) = none := by
    rw [stores]
    simp
  simp [append, putIfAbsent, handle, absent]

theorem Stores.setEntry (stores : Stores backend challengeId chain) (record : ChargeRecord) :
    Stores (backend.setEntry (chargeRecordKey challengeId chain.length) (some (.record record)))
      challengeId (chain ++ [record]) := by
  intro generation
  by_cases same : generation = chain.length
  · subst same
    simp
  · have different : chargeRecordKey challengeId generation ≠
        chargeRecordKey challengeId chain.length :=
      fun sameKey => same (chargeRecordKey_injective challengeId sameKey)
    rw [Backend.setEntry_entries_of_ne _ _ different, stores generation]
    rcases Nat.lt_or_gt_of_ne same with below | above
    · rw [List.getElem?_append_left below]
    · rw [List.getElem?_eq_none (by omega), List.getElem?_eq_none (by simp; omega)]

theorem latest_eq_some {generation : ℕ} {record : ChargeRecord}
    (found : latest challengeId chain = .ok (some (generation, record))) :
    chain.length = generation + 1 ∧ chain.getLast? = some record ∧
      chain.length ≤ maxChargeRecordGenerations := by
  unfold latest at found
  cases last : chain.getLast? with
  | none => simp [last] at found
  | some final =>
      have nonempty : chain ≠ [] := by
        rintro rfl
        simp at last
      have positive := List.length_pos_iff.mpr nonempty
      simp only [last] at found
      split at found
      · rename_i readable
        simp only [Except.ok.injEq, Option.some.injEq, Prod.mk.injEq] at found
        rcases found with ⟨rfl, rfl⟩
        exact ⟨by omega, rfl, readable⟩
      · contradiction

theorem Stores.exec_tipOrFail (stores : Stores backend challengeId chain) :
    (tipOrFail challengeId).run.exec (handle answer) backend =
      (match latest challengeId chain with
        | .error error => .error error
        | .ok none => .error (noReservation challengeId)
        | .ok (some last) => .ok last, backend) := by
  unfold tipOrFail
  rw [Fallible.exec_run_bind, stores.exec_tip]
  rcases latest challengeId chain with error | (_ | last) <;> rfl

theorem Stores.exec_advance (stores : Stores backend challengeId chain) (generation : ℕ)
    (ready : ChargeRecord → Bool) (update : ChargeRecord → ChargeRecord) :
    ∃ after, Stores after challengeId (advanceList challengeId generation ready update chain).2 ∧
      (advance challengeId generation ready update).run.exec (handle answer) backend =
        ((advanceList challengeId generation ready update chain).1, after) := by
  unfold advance advanceList
  rw [Fallible.exec_run_bind, stores.exec_tipOrFail]
  cases found : latest challengeId chain with
  | error error => exact ⟨backend, stores, rfl⟩
  | ok last =>
      cases last with
      | none => exact ⟨backend, stores, rfl⟩
      | some last =>
          rcases last with ⟨last, record⟩
          have length := (latest_eq_some found).1
          simp only
          split
          · exact ⟨backend, stores, rfl⟩
          · rename_i current
            have sameGeneration : last = generation := by
              simp only [ne_eq, not_or, not_not] at current
              exact current.1
            subst sameGeneration
            rw [← length, stores.exec_append]
            exact ⟨_, stores.setEntry (update record), rfl⟩

theorem Stores.exec_recordConfirmed (stores : Stores backend challengeId chain)
    (signature : String) (now : Int) :
    ∃ after, Stores after challengeId (recordConfirmedList challengeId signature now chain).2 ∧
      (recordConfirmed challengeId signature now).run.exec (handle answer) backend =
        ((recordConfirmedList challengeId signature now chain).1, after) := by
  unfold recordConfirmed recordConfirmedList maxChargeRecordGenerations recordConfirmedFrom
  rw [Fallible.exec_run_bind, stores.exec_tipOrFail]
  cases found : latest challengeId chain with
  | error error => exact ⟨backend, stores, rfl⟩
  | ok last =>
      cases last with
      | none => exact ⟨backend, stores, rfl⟩
      | some last =>
          rcases last with ⟨last, record⟩
          have length := (latest_eq_some found).1
          have appends : ∀ next : StoreM Bool, ∃ after,
              Stores after challengeId
                (chain ++ [terminal record .confirmed (some signature) none now]) ∧
              (do
                if ← append challengeId (last + 1)
                    (terminal record .confirmed (some signature) none now) then
                  return true
                else
                  next : StoreM Bool).run.exec (handle answer) backend = (.ok true, after) := by
            intro next
            rw [← length, Fallible.exec_run_bind, stores.exec_append]
            exact ⟨_, stores.setEntry _, rfl⟩
          cases state : record.state with
          | confirmed =>
              simp only [state]
              exact ⟨backend, stores, rfl⟩
          | failed =>
              simp only [state]
              exact ⟨backend, stores, rfl⟩
          | reserved =>
              simp only [state]
              exact appends _
          | pending =>
              simp only [state]
              exact appends _

theorem Stores.exec_classify (stores : Stores backend challengeId chain) (digest : String)
    (lease : UInt64) (now : Int) {attempts : ℕ} (nonempty : chain ≠ []) :
    ∃ after, Stores after challengeId (reserveList challengeId digest lease now chain).2 ∧
      (classify challengeId digest (freshRecord challengeId digest lease now) now
        (attempts + 1)).run.exec (handle answer) backend =
          ((reserveList challengeId digest lease now chain).1, after) := by
  unfold classify reserveList
  rw [Fallible.exec_run_bind, stores.exec_tip]
  cases found : latest challengeId chain with
  | error error => exact ⟨backend, stores, rfl⟩
  | ok last =>
      cases last with
      | none =>
          unfold latest at found
          rw [List.getLast?_eq_some_getLast nonempty] at found
          simp only at found
          split at found <;> simp at found
      | some last =>
          rcases last with ⟨last, existing⟩
          have length := (latest_eq_some found).1
          by_cases sameDigest : existing.normalizedRequestDigest = digest
          · cases state : existing.state with
            | reserved =>
                by_cases live : existing.expiresAt > now
                · simp only [sameDigest, state, live, ne_eq, not_true_eq_false, if_false, if_true]
                  exact ⟨backend, stores, rfl⟩
                · simp only [sameDigest, state, live, ne_eq, not_true_eq_false, if_false]
                  rw [← length, Fallible.exec_run_bind, stores.exec_append]
                  exact ⟨_, stores.setEntry _, rfl⟩
            | _ =>
                simp only [sameDigest, state, ne_eq, not_true_eq_false, if_false]
                exact ⟨backend, stores, rfl⟩
          · simp only [sameDigest, ne_eq, not_false_eq_true, if_true]
            exact ⟨backend, stores, rfl⟩

theorem Stores.exec_reserve (stores : Stores backend challengeId chain) (digest : String)
    (lease : UInt64) (now : Int) :
    ∃ after, Stores after challengeId (reserveList challengeId digest lease now chain).2 ∧
      (reserve challengeId digest lease now).run.exec (handle answer) backend =
        ((reserveList challengeId digest lease now chain).1, after) := by
  cases chain with
  | nil =>
      have written := stores.setEntry (freshRecord challengeId digest lease now)
      unfold reserve recheckRoot
      rw [Fallible.exec_run_bind, stores.exec_read]
      simp only [List.getElem?_nil, Option.isSome_none, Bool.false_eq_true, if_false]
      have appends := stores.exec_append answer (freshRecord challengeId digest lease now)
      rw [List.length_nil] at written appends
      rw [Fallible.exec_run_bind, appends]
      simp only [if_true]
      rw [Fallible.exec_run_bind, written.exec_read]
      exact ⟨_, written, rfl⟩
  | cons root rest =>
      rcases stores.exec_classify answer digest lease now (by simp) with ⟨after, kept, classified⟩
      refine ⟨after, kept, ?_⟩
      have refuses : (append challengeId 0
          (freshRecord challengeId digest lease now)).run.exec (handle answer) backend =
            (.ok false, backend) := by
        have present : backend.entries (chargeRecordKey challengeId 0) = some (.record root) :=
          stores 0
        simp [append, putIfAbsent, handle, present]
      unfold reserve
      rw [Fallible.exec_run_bind, stores.exec_read]
      cases second : (root :: rest)[1]? with
      | none =>
          simp only [Option.isSome_none, Bool.false_eq_true, if_false]
          rw [Fallible.exec_run_bind, refuses]
          exact classified
      | some next =>
          simp only [Option.isSome_some, if_true]
          rw [Fallible.exec_run_bind, stores.exec_read]
          simp only [List.length_cons, Nat.zero_lt_succ, getElem?_pos, List.getElem_cons_zero,
            Option.isNone_some, Bool.false_eq_true, if_false]
          rw [Fallible.exec_run_bind, refuses]
          exact classified

end

namespace LedgerOperation

/-- An operation as a function of the list of generations. -/
def apply (challengeId : String) (chain : List ChargeRecord) :
    LedgerOperation → Except StoreError LedgerOutcome × List ChargeRecord
  | .reserve digest lease now =>
      (reserveList challengeId digest lease now chain).map (.map .reservation) id
  | .markPending generation signature now =>
      (advanceList challengeId generation (fun record => record.state = .reserved)
        (fun record => terminal record .pending (some signature) none now) chain).map
          (.map .recorded) id
  | .markConfirmed generation signature now =>
      (advanceList challengeId generation
        (fun record => record.state = .reserved || isPendingFor signature record)
        (fun record => terminal record .confirmed (some signature) none now) chain).map
          (.map .recorded) id
  | .confirmPending generation signature now =>
      (advanceList challengeId generation (isPendingFor signature)
        (fun record => terminal record .confirmed (some signature) none now) chain).map
          (.map .recorded) id
  | .recordConfirmed signature now =>
      (recordConfirmedList challengeId signature now chain).map (.map .recorded) id
  | .releasePending generation signature now =>
      (advanceList challengeId generation (isPendingFor signature)
        (fun record => { record with
          state := .reserved
          finalSignature := none
          updatedAt := now
          expiresAt := now }) chain).map (.map .recorded) id
  | .markFailed generation reason now =>
      (advanceList challengeId generation
        (fun record => record.state = .reserved || record.state = .pending)
        (fun record => terminal record .failed none (some reason) now) chain).map
          (.map .recorded) id

end LedgerOperation

variable {backend : Backend} {challengeId : String} {chain : List ChargeRecord}

theorem exec_wrapped (answer : NodeAnswer) {Result : Type} {program : StoreM Result}
    {wrap : Result → LedgerOutcome} {outcome : Except StoreError Result × List ChargeRecord}
    (runs : ∃ after, Stores after challengeId outcome.2 ∧
      program.run.exec (handle answer) backend = (outcome.1, after)) :
    ∃ after, Stores after challengeId (outcome.map (Except.map wrap) id).2 ∧
      (do return wrap (← program) : StoreM LedgerOutcome).run.exec (handle answer) backend =
        ((outcome.map (Except.map wrap) id).1, after) := by
  rcases runs with ⟨after, stores, runs⟩
  refine ⟨after, stores, ?_⟩
  rw [Fallible.exec_run_bind, runs]
  rcases outcome with ⟨outcome, next⟩
  cases outcome <;> rfl

theorem Stores.exec_body (stores : Stores backend challengeId chain) (answer : NodeAnswer)
    (operation : LedgerOperation) :
    ∃ after, Stores after challengeId (operation.apply challengeId chain).2 ∧
      (operation.body challengeId).run.exec (handle answer) backend =
        ((operation.apply challengeId chain).1, after) := by
  cases operation with
  | reserve digest lease now => exact exec_wrapped answer (stores.exec_reserve answer _ _ _)
  | recordConfirmed signature now =>
      exact exec_wrapped answer (stores.exec_recordConfirmed answer _ _)
  | markPending generation signature now =>
      exact exec_wrapped answer (stores.exec_advance answer _ _ _)
  | markConfirmed generation signature now =>
      exact exec_wrapped answer (stores.exec_advance answer _ _ _)
  | confirmPending generation signature now =>
      exact exec_wrapped answer (stores.exec_advance answer _ _ _)
  | releasePending generation signature now =>
      exact exec_wrapped answer (stores.exec_advance answer _ _ _)
  | markFailed generation reason now =>
      exact exec_wrapped answer (stores.exec_advance answer _ _ _)

theorem advanceList_eq_true {generation : ℕ} {ready : ChargeRecord → Bool}
    {update : ChargeRecord → ChargeRecord}
    (recorded : (advanceList challengeId generation ready update chain).1 = .ok true) :
    ∃ record, latest challengeId chain = .ok (some (generation, record)) ∧ ready record = true ∧
      (advanceList challengeId generation ready update chain).2 = chain ++ [update record] := by
  unfold advanceList at recorded ⊢
  cases found : latest challengeId chain with
  | error error => simp [found] at recorded
  | ok last =>
      rcases last with _ | ⟨last, record⟩
      · simp [found] at recorded
      · simp only [found] at recorded ⊢
        split at recorded
        · simp at recorded
        · rename_i current
          have isCurrent : last = generation ∧ ready record = true := by simpa using current
          rcases isCurrent with ⟨rfl, isReady⟩
          exact ⟨record, rfl, isReady, by simp [isReady]⟩

theorem advanceList_eq_of_ne_true {generation : ℕ} {ready : ChargeRecord → Bool}
    {update : ChargeRecord → ChargeRecord}
    (nothing : (advanceList challengeId generation ready update chain).1 ≠ .ok true) :
    (advanceList challengeId generation ready update chain).2 = chain := by
  unfold advanceList at nothing ⊢
  split
  · rfl
  · rfl
  · rename_i found
    simp only [found] at nothing
    split at nothing
    · rename_i stale
      rw [if_pos stale]
    · exact absurd rfl nothing

/-- Every generation of the list is for one request. -/
def OneDigest (chain : List ChargeRecord) : Prop :=
  ∀ left ∈ chain, ∀ right ∈ chain,
    left.normalizedRequestDigest = right.normalizedRequestDigest

theorem OneDigest.append {last record : ChargeRecord} (one : OneDigest chain)
    (found : chain.getLast? = some last)
    (same : record.normalizedRequestDigest = last.normalizedRequestDigest) :
    OneDigest (chain ++ [record]) := by
  have lastMem := List.mem_of_getLast? found
  intro left leftMem right rightMem
  simp only [List.mem_append, List.mem_singleton] at leftMem rightMem
  rcases leftMem with leftMem | rfl <;> rcases rightMem with rightMem | rfl
  · exact one left leftMem right rightMem
  · rw [same, one left leftMem last lastMem]
  · rw [same, one right rightMem last lastMem]
  · rfl

theorem OneDigest.advanceList {generation : ℕ} {ready : ChargeRecord → Bool}
    {update : ChargeRecord → ChargeRecord} (one : OneDigest chain)
    (same : ∀ record, (update record).normalizedRequestDigest = record.normalizedRequestDigest) :
    OneDigest (advanceList challengeId generation ready update chain).2 := by
  by_cases recorded : (Store.advanceList challengeId generation ready update chain).1 = .ok true
  · rcases advanceList_eq_true recorded with ⟨record, found, _, appended⟩
    rw [appended]
    exact one.append (latest_eq_some found).2.1 (same record)
  · rw [advanceList_eq_of_ne_true recorded]
    exact one

theorem OneDigest.apply (one : OneDigest chain) (operation : LedgerOperation) :
    OneDigest (operation.apply challengeId chain).2 := by
  cases operation with
  | reserve digest lease now =>
      simp only [LedgerOperation.apply, Prod.map_snd, id_eq, reserveList]
      split
      · exact one
      · simp [OneDigest]
      · rename_i generation existing found
        split
        · exact one
        · rename_i sameDigest
          split
          all_goals try exact one
          split
          · exact one
          · have isSame : existing.normalizedRequestDigest = digest := by simpa using sameDigest
            exact one.append (latest_eq_some found).2.1 isSame.symm
  | recordConfirmed signature now =>
      simp only [LedgerOperation.apply, Prod.map_snd, id_eq, recordConfirmedList]
      split
      · exact one
      · exact one
      · rename_i found
        split
        · exact one
        · exact one
        · exact one.append (latest_eq_some found).2.1 rfl
        · exact one.append (latest_eq_some found).2.1 rfl
  | markPending generation signature now => exact one.advanceList fun _ => rfl
  | markConfirmed generation signature now => exact one.advanceList fun _ => rfl
  | confirmPending generation signature now => exact one.advanceList fun _ => rfl
  | releasePending generation signature now => exact one.advanceList fun _ => rfl
  | markFailed generation reason now => exact one.advanceList fun _ => rfl

theorem apply_eq_of_confirmed {generation : ℕ} {record : ChargeRecord}
    (found : latest challengeId chain = .ok (some (generation, record)))
    (confirmed : record.state = .confirmed) (operation : LedgerOperation) :
    (operation.apply challengeId chain).2 = chain := by
  have stuck : ∀ {expected ready update}, ready record = false →
      (advanceList challengeId expected ready update chain).2 = chain := by
    intro expected ready update notReady
    simp [advanceList, found, notReady]
  cases operation with
  | reserve digest lease now =>
      simp only [LedgerOperation.apply, Prod.map_snd, id_eq, reserveList, found, confirmed]
      split <;> rfl
  | recordConfirmed signature now =>
      simp [LedgerOperation.apply, recordConfirmedList, found, confirmed]
  | markPending expected signature now => exact stuck (by simp [confirmed])
  | markConfirmed expected signature now => exact stuck (by simp [confirmed, isPendingFor])
  | confirmPending expected signature now => exact stuck (by simp [confirmed, isPendingFor])
  | releasePending expected signature now => exact stuck (by simp [confirmed, isPendingFor])
  | markFailed expected reason now => exact stuck (by simp [confirmed])

/-- While the last generation is pending, an operation that changes the record
reports that it did. -/
theorem apply_eq_of_pending {generation : ℕ} {record : ChargeRecord}
    (found : latest challengeId chain = .ok (some (generation, record)))
    (pending : record.state = .pending) (operation : LedgerOperation)
    (nothing : (operation.apply challengeId chain).1 ≠ .ok (.recorded true)) :
    (operation.apply challengeId chain).2 = chain := by
  have unchanged : ∀ {expected ready update},
      ((advanceList challengeId expected ready update chain).1.map LedgerOutcome.recorded) ≠
        .ok (.recorded true) → (advanceList challengeId expected ready update chain).2 = chain := by
    intro expected ready update notRecorded
    apply advanceList_eq_of_ne_true
    intro recorded
    exact notRecorded (by rw [recorded]; rfl)
  cases operation with
  | reserve digest lease now =>
      simp only [LedgerOperation.apply, Prod.map_snd, id_eq, reserveList, found, pending]
      split <;> rfl
  | recordConfirmed signature now =>
      simp [LedgerOperation.apply, recordConfirmedList, found, pending, Except.map] at nothing
  | markPending expected signature now => exact unchanged nothing
  | markConfirmed expected signature now => exact unchanged nothing
  | confirmPending expected signature now => exact unchanged nothing
  | releasePending expected signature now => exact unchanged nothing
  | markFailed expected reason now => exact unchanged nothing

/-- The operation records a confirmation of `signature`. -/
def LedgerOperation.Confirms (signature : String) : LedgerOperation → Prop
  | .markConfirmed _ confirmed _ | .confirmPending _ confirmed _ | .recordConfirmed confirmed _ =>
      confirmed = signature
  | _ => False

/-- A confirmation that returned `true` was appended, unless it is a
`record_confirmed` of a record that was confirmed before. -/
theorem apply_eq_append_of_confirms {operation : LedgerOperation} {signature : String}
    (confirms : operation.Confirms signature)
    (fresh : ∀ confirmed now, operation = .recordConfirmed confirmed now →
      ∀ record ∈ chain, record.state ≠ .confirmed)
    (recorded : (operation.apply challengeId chain).1 = .ok (.recorded true)) :
    ∃ record, (operation.apply challengeId chain).2 = chain ++ [record] ∧
      record.state = .confirmed ∧ record.finalSignature = some signature := by
  have appended : ∀ {expected ready update},
      ((advanceList challengeId expected ready update chain).1.map LedgerOutcome.recorded) =
        .ok (.recorded true) → ∃ record, (advanceList challengeId expected ready update chain).2 =
          chain ++ [update record] := by
    intro expected ready update isRecorded
    have isTrue : (advanceList challengeId expected ready update chain).1 = .ok true := by
      cases outcome : (advanceList challengeId expected ready update chain).1 <;>
        simp_all [Except.map]
    rcases advanceList_eq_true isTrue with ⟨record, _, _, result⟩
    exact ⟨record, result⟩
  cases operation with
  | markConfirmed expected confirmed now =>
      rcases appended recorded with ⟨record, result⟩
      exact ⟨_, result, rfl, congrArg some confirms⟩
  | confirmPending expected confirmed now =>
      rcases appended recorded with ⟨record, result⟩
      exact ⟨_, result, rfl, congrArg some confirms⟩
  | recordConfirmed confirmed now =>
      simp only [LedgerOperation.apply, Prod.map_fst, Prod.map_snd, id_eq,
        recordConfirmedList] at recorded ⊢
      cases found : latest challengeId chain with
      | error error => simp [found, Except.map] at recorded
      | ok last =>
          rcases last with _ | ⟨generation, record⟩
          · simp [found, Except.map] at recorded
          · have recordMem := List.mem_of_getLast? (latest_eq_some found).2.1
            simp only [found] at recorded ⊢
            cases state : record.state with
            | confirmed => exact absurd state (fresh confirmed now rfl record recordMem)
            | failed => simp [state, Except.map] at recorded
            | reserved => exact ⟨_, rfl, rfl, congrArg some confirms⟩
            | pending => exact ⟨_, rfl, rfl, congrArg some confirms⟩
  | _ => exact confirms.elim

theorem apply_eq_append_of_markPending {generation : ℕ} {signature : String} {now : Int}
    (recorded : ((LedgerOperation.markPending generation signature now).apply challengeId
      chain).1 = .ok (.recorded true)) :
    chain.length = generation + 1 ∧ ∃ record,
      ((LedgerOperation.markPending generation signature now).apply challengeId chain).2 =
        chain ++ [record] ∧ record.state = .pending ∧ record.finalSignature = some signature := by
  have isTrue : (advanceList challengeId generation (fun record => record.state = .reserved)
      (fun record => terminal record .pending (some signature) none now) chain).1 = .ok true := by
    simp only [LedgerOperation.apply, Prod.map_fst] at recorded
    cases outcome : (advanceList challengeId generation (fun record => record.state = .reserved)
      (fun record => terminal record .pending (some signature) none now) chain).1 <;>
        simp_all [Except.map]
  rcases advanceList_eq_true isTrue with ⟨record, found, _, result⟩
  exact ⟨(latest_eq_some found).1, _, result, rfl, rfl⟩

theorem latest_append {record : ChargeRecord} (fits : chain.length < maxChargeRecordGenerations) :
    latest challengeId (chain ++ [record]) = .ok (some (chain.length, record)) := by
  have readable : chain.length + 1 ≤ maxChargeRecordGenerations := fits
  simp [latest, readable]

/-- What an operation run alone returns. -/
def outcomeOf (answer : NodeAnswer) (challengeId : String) (operation : LedgerOperation)
    (backend : Backend) : Except StoreError LedgerOutcome :=
  ((operation.body challengeId).run.exec (handle answer) backend).1

/-- What an operation run alone leaves in the store. -/
def storeAfter (answer : NodeAnswer) (challengeId : String) (backend : Backend)
    (operation : LedgerOperation) : Backend :=
  ((operation.body challengeId).run.exec (handle answer) backend).2

/-- Run operations one after another. -/
def runAll (answer : NodeAnswer) (challengeId : String) (backend : Backend)
    (operations : List LedgerOperation) : Backend :=
  operations.foldl (storeAfter answer challengeId) backend

/-- None of the operations, run one after another, reports that it recorded
something. -/
def NothingRecorded (answer : NodeAnswer) (challengeId : String) :
    Backend → List LedgerOperation → Prop
  | _, [] => True
  | backend, operation :: rest =>
      outcomeOf answer challengeId operation backend ≠ .ok (.recorded true) ∧
        NothingRecorded answer challengeId (storeAfter answer challengeId backend operation) rest

/-- `digest` is the request that the record is for. -/
def RecordedFor (backend : Backend) (challengeId digest : String) : Prop :=
  ∃ record, backend.entries (chargeRecordKey challengeId 0) = some (.record record) ∧
    record.normalizedRequestDigest = digest

/-- No generation of the record is confirmed. -/
def Unconfirmed (backend : Backend) (challengeId : String) : Prop :=
  ∀ generation record,
    backend.entries (chargeRecordKey challengeId generation) = some (.record record) →
      record.state ≠ .confirmed

section

variable (answer : NodeAnswer)

theorem Stores.outcomeOf_eq (stores : Stores backend challengeId chain)
    (operation : LedgerOperation) :
    outcomeOf answer challengeId operation backend = (operation.apply challengeId chain).1 := by
  rcases stores.exec_body answer operation with ⟨after, _, runs⟩
  simp [outcomeOf, runs]

theorem Stores.storeAfter (stores : Stores backend challengeId chain)
    (operation : LedgerOperation) :
    Stores (storeAfter answer challengeId backend operation) challengeId
      (operation.apply challengeId chain).2 := by
  rcases stores.exec_body answer operation with ⟨after, storesAfter, runs⟩
  simpa [Store.storeAfter, runs] using storesAfter

/-- A history from an empty record leaves a list of generations for one request. -/
theorem exists_stores_runAll (stores : Stores backend challengeId chain) (one : OneDigest chain)
    (operations : List LedgerOperation) :
    ∃ later, Stores (runAll answer challengeId backend operations) challengeId later ∧
      OneDigest later := by
  induction operations generalizing backend chain with
  | nil => exact ⟨chain, stores, one⟩
  | cons operation rest ih => exact ih (stores.storeAfter answer operation) (one.apply operation)

theorem Stores.of_empty
    (empty : ∀ generation, backend.entries (chargeRecordKey challengeId generation) = none) :
    Stores backend challengeId [] := by
  intro generation
  simp [empty generation]

theorem Stores.runAll_of_confirmed (stores : Stores backend challengeId chain) {generation : ℕ}
    {record : ChargeRecord} (found : latest challengeId chain = .ok (some (generation, record)))
    (confirmed : record.state = .confirmed) (operations : List LedgerOperation) :
    Stores (runAll answer challengeId backend operations) challengeId chain := by
  induction operations generalizing backend with
  | nil => exact stores
  | cons operation rest ih =>
      have kept := stores.storeAfter answer operation
      rw [apply_eq_of_confirmed found confirmed] at kept
      exact ih kept

theorem Stores.runAll_of_pending (stores : Stores backend challengeId chain) {generation : ℕ}
    {record : ChargeRecord} (found : latest challengeId chain = .ok (some (generation, record)))
    (pending : record.state = .pending) (operations : List LedgerOperation)
    (nothing : NothingRecorded answer challengeId backend operations) :
    Stores (runAll answer challengeId backend operations) challengeId chain := by
  induction operations generalizing backend with
  | nil => exact stores
  | cons operation rest ih =>
      rcases nothing with ⟨notNow, notLater⟩
      rw [stores.outcomeOf_eq] at notNow
      have kept := stores.storeAfter answer operation
      rw [apply_eq_of_pending found pending operation notNow] at kept
      exact ih kept notLater

theorem RecordedFor.last {digest : String} {record : ChargeRecord}
    (recordedFor : RecordedFor backend challengeId digest)
    (stores : Stores backend challengeId chain) (one : OneDigest chain)
    (lastMem : record ∈ chain) : record.normalizedRequestDigest = digest := by
  rcases recordedFor with ⟨root, entry, rfl⟩
  have rootAt : chain[0]? = some root := by
    have stored := stores 0
    rw [entry] at stored
    cases first : chain[0]? <;> simp_all
  exact one record lastMem root (List.mem_of_getElem? rootAt)

/-- An operation that returned `true` for a confirmation of `signature`, run on
a readable record, settles what every later `reserve` of the same request
reports. Only `record_confirmed` also returns `true` for a record that was
confirmed before, and then it leaves the earlier signature. -/
theorem reserve_of_confirmed (stores : Stores backend challengeId chain) (one : OneDigest chain)
    (fits : chain.length < maxChargeRecordGenerations) {operation : LedgerOperation}
    {signature : String} (confirms : operation.Confirms signature)
    (fresh : ∀ confirmed now, operation = .recordConfirmed confirmed now →
      ∀ record ∈ chain, record.state ≠ .confirmed)
    (recorded : outcomeOf answer challengeId operation backend = .ok (.recorded true))
    (after : List LedgerOperation) {digest : String} (lease : UInt64) (now : Int)
    (recordedFor : RecordedFor (runAll answer challengeId
      (storeAfter answer challengeId backend operation) after) challengeId digest) :
    outcomeOf answer challengeId (.reserve digest lease now)
        (runAll answer challengeId (storeAfter answer challengeId backend operation) after) =
      .ok (.reservation (.alreadyConfirmed signature)) := by
  rw [stores.outcomeOf_eq] at recorded
  rcases apply_eq_append_of_confirms confirms fresh recorded with
    ⟨record, appended, confirmed, isSignature⟩
  have found : latest challengeId (chain ++ [record]) = .ok (some (chain.length, record)) :=
    latest_append fits
  have storesNow := stores.storeAfter answer operation
  have oneNow : OneDigest (operation.apply challengeId chain).2 := one.apply operation
  rw [appended] at storesNow oneNow
  have storesLater := storesNow.runAll_of_confirmed answer found confirmed after
  have sameDigest : record.normalizedRequestDigest = digest :=
    recordedFor.last storesLater oneNow (by simp)
  rw [storesLater.outcomeOf_eq]
  simp [LedgerOperation.apply, reserveList, found, sameDigest, confirmed, isSignature, Except.map]

/-- A broadcast recorded on a readable record is what a later `reserve` of the
same request reports and what `mark_confirmed` confirms, while nothing else is
recorded. -/
theorem reserve_of_pending (stores : Stores backend challengeId chain) (one : OneDigest chain)
    (fits : chain.length < maxChargeRecordGenerations) {generation : ℕ} {signature : String}
    {broadcastAt : Int}
    (recorded : outcomeOf answer challengeId (.markPending generation signature broadcastAt)
      backend = .ok (.recorded true))
    (after : List LedgerOperation)
    (nothing : NothingRecorded answer challengeId
      (storeAfter answer challengeId backend (.markPending generation signature broadcastAt)) after)
    {digest : String} (lease : UInt64) (now : Int)
    (recordedFor : RecordedFor (runAll answer challengeId (storeAfter answer challengeId backend
      (.markPending generation signature broadcastAt)) after) challengeId digest) :
    outcomeOf answer challengeId (.reserve digest lease now)
        (runAll answer challengeId (storeAfter answer challengeId backend
          (.markPending generation signature broadcastAt)) after) =
      .ok (.reservation (.pendingConfirmation (generation + 1) signature)) ∧
    outcomeOf answer challengeId (.markConfirmed (generation + 1) signature now)
        (runAll answer challengeId (storeAfter answer challengeId backend
          (.markPending generation signature broadcastAt)) after) =
      .ok (.recorded true) := by
  rw [stores.outcomeOf_eq] at recorded
  rcases apply_eq_append_of_markPending recorded with
    ⟨length, record, appended, pending, isSignature⟩
  have found : latest challengeId (chain ++ [record]) = .ok (some (chain.length, record)) :=
    latest_append fits
  rw [length] at found
  have storesNow := stores.storeAfter answer (.markPending generation signature broadcastAt)
  have oneNow : OneDigest ((LedgerOperation.markPending generation signature broadcastAt).apply
      challengeId chain).2 := one.apply _
  rw [appended] at storesNow oneNow
  have storesLater := storesNow.runAll_of_pending answer found pending after nothing
  have sameDigest : record.normalizedRequestDigest = digest :=
    recordedFor.last storesLater oneNow (by simp)
  rw [storesLater.outcomeOf_eq, storesLater.outcomeOf_eq]
  constructor
  · simp [LedgerOperation.apply, reserveList, found, sameDigest, pending, isSignature, Except.map]
  · simp [LedgerOperation.apply, advanceList, found, pending, isSignature, isPendingFor,
      Except.map]

/-- No recorded outcome is lost: after any history from an empty record that
left the last readable generation unwritten, a confirmation that returned `true`
(for `record_confirmed`, of an unconfirmed record) is reported to every later
`reserve` of the request, and a pending broadcast is reported and can be confirmed
while nothing is recorded. -/
theorem recorded_outcome_kept {start : Backend} {challengeId : String}
    (empty : ∀ generation, start.entries (chargeRecordKey challengeId generation) = none)
    (before after : List LedgerOperation)
    (readable : (runAll answer challengeId start before).entries
      (chargeRecordKey challengeId (maxChargeRecordGenerations - 1)) = none) :
    (∀ operation signature, operation.Confirms signature →
      (∀ confirmed now, operation = .recordConfirmed confirmed now →
        Unconfirmed (runAll answer challengeId start before) challengeId) →
      outcomeOf answer challengeId operation (runAll answer challengeId start before) =
        .ok (.recorded true) →
      ∀ digest lease now,
        RecordedFor (runAll answer challengeId start (before ++ operation :: after)) challengeId
          digest →
        outcomeOf answer challengeId (.reserve digest lease now)
          (runAll answer challengeId start (before ++ operation :: after)) =
            .ok (.reservation (.alreadyConfirmed signature))) ∧
    (∀ generation signature broadcastAt,
      outcomeOf answer challengeId (.markPending generation signature broadcastAt)
        (runAll answer challengeId start before) = .ok (.recorded true) →
      NothingRecorded answer challengeId
        (runAll answer challengeId start
          (before ++ [.markPending generation signature broadcastAt])) after →
      ∀ digest lease now,
        RecordedFor (runAll answer challengeId start
          (before ++ .markPending generation signature broadcastAt :: after)) challengeId digest →
        outcomeOf answer challengeId (.reserve digest lease now)
            (runAll answer challengeId start
              (before ++ .markPending generation signature broadcastAt :: after)) =
          .ok (.reservation (.pendingConfirmation (generation + 1) signature)) ∧
        outcomeOf answer challengeId (.markConfirmed (generation + 1) signature now)
            (runAll answer challengeId start
              (before ++ .markPending generation signature broadcastAt :: after)) =
          .ok (.recorded true)) := by
  rcases exists_stores_runAll answer (Stores.of_empty empty) (by simp [OneDigest]) before with
    ⟨chain, stores, one⟩
  have fits : chain.length < maxChargeRecordGenerations := by
    rw [stores] at readable
    have short := List.getElem?_eq_none_iff.mp (Option.map_eq_none_iff.mp readable)
    have positive : 0 < maxChargeRecordGenerations := by decide
    omega
  constructor
  · intro operation signature confirms unconfirmed recorded digest lease now recordedFor
    have fresh : ∀ confirmed now, operation = .recordConfirmed confirmed now →
        ∀ record ∈ chain, record.state ≠ .confirmed := by
      intro confirmed now isRecordConfirmed record recordMem
      rcases List.getElem?_of_mem recordMem with ⟨generation, here⟩
      apply unconfirmed confirmed now isRecordConfirmed generation
      rw [stores, here]
      rfl
    simp only [runAll, List.foldl_append, List.foldl_cons] at recordedFor ⊢
    exact reserve_of_confirmed answer stores one fits confirms fresh recorded after lease now
      recordedFor
  · intro generation signature broadcastAt recorded nothing digest lease now recordedFor
    simp only [runAll, List.foldl_append, List.foldl_cons, List.foldl_nil] at recordedFor nothing ⊢
    exact reserve_of_pending answer stores one fits recorded after nothing lease now recordedFor

end

theorem Stores.runAll_eq (answer : NodeAnswer) (stores : Stores backend challengeId chain)
    (operations : List LedgerOperation) :
    Stores (runAll answer challengeId backend operations) challengeId
      (operations.foldl (fun chain operation => (operation.apply challengeId chain).2) chain) := by
  induction operations generalizing backend chain with
  | nil => exact stores
  | cons operation rest ih => exact ih (stores.storeAfter answer operation)

/-- The store before any record is written. -/
def emptyBackend : Backend where
  entries _ := none
  chain _ := none

theorem stores_runAll_emptyBackend (answer : NodeAnswer) (challengeId : String)
    (operations : List LedgerOperation) :
    Stores (runAll answer challengeId emptyBackend operations) challengeId
      (operations.foldl (fun chain operation => (operation.apply challengeId chain).2) []) :=
  (Stores.of_empty fun _ => rfl).runAll_eq answer operations

/-- A charge that is reserved, to be broadcast next. -/
def reservedOnce : List LedgerOperation :=
  [.reserve "digest" chargeReservationLease 1000]

theorem recorded_outcome_kept_of_broadcast :
    outcomeOf silentNode "challenge" (.reserve "digest" chargeReservationLease 1002)
        (runAll silentNode "challenge" emptyBackend
          (reservedOnce ++ [.markPending 0 "signature" 1001])) =
      .ok (.reservation (.pendingConfirmation 1 "signature")) := by
  have empty : ∀ generation, emptyBackend.entries (chargeRecordKey "challenge" generation) = none :=
    fun _ => rfl
  have kept := recorded_outcome_kept silentNode empty reservedOnce [] (by decide)
  refine (kept.2 0 "signature" 1001 (by decide +kernel) trivial "digest" chargeReservationLease
    1002 ?_).1
  refine ⟨freshRecord "challenge" "digest" chargeReservationLease 1000, ?_, rfl⟩
  decide +kernel

/-- A charge that is confirmed once and then found again under another signature. -/
def confirmedTwice : List LedgerOperation :=
  [.reserve "digest" chargeReservationLease 1000, .recordConfirmed "first" 1001]

/-- A charge whose lease was taken over until its last readable generation. -/
def takenOver : List LedgerOperation :=
  List.replicate maxChargeRecordGenerations (.reserve "digest" 0 1000)

/-- `record_confirmed` returns `true` for a second signature and the first is
kept; a confirmation written past the last readable generation is not read back. -/
theorem recorded_outcome_not_reported :
    (outcomeOf silentNode "challenge" (.recordConfirmed "second" 1002)
          (runAll silentNode "challenge" emptyBackend confirmedTwice) = .ok (.recorded true) ∧
      outcomeOf silentNode "challenge" (.reserve "digest" chargeReservationLease 1003)
          (runAll silentNode "challenge" emptyBackend
            (confirmedTwice ++ [.recordConfirmed "second" 1002])) =
        .ok (.reservation (.alreadyConfirmed "first"))) ∧
    (outcomeOf silentNode "challenge" (.markConfirmed 63 "signature" 1002)
          (runAll silentNode "challenge" emptyBackend takenOver) = .ok (.recorded true) ∧
      outcomeOf silentNode "challenge" (.reserve "digest" chargeReservationLease 1003)
          (runAll silentNode "challenge" emptyBackend
            (takenOver ++ [.markConfirmed 63 "signature" 1002])) =
        .error (tooLong "challenge")) := by
  refine ⟨⟨?_, ?_⟩, ?_, ?_⟩
  all_goals
    rw [(stores_runAll_emptyBackend silentNode "challenge" _).outcomeOf_eq]
    decide +kernel

end PayKit.Store
