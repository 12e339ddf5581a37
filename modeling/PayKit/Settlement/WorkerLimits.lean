import PayKit.Settlement.Worker
import Mathlib.Tactic.Ring

/-!
# Permits and calls of the settlement worker

Each task of the worker sends with a permit and gives it back, also where sending fails, and never
asks for a permit while it holds one. How many calls a task makes is bounded by the number of its
units: a unit costs at most `callsPerUnit`, its part of the packed transaction, of a transaction of
its own and of the polls of both.
-/

namespace PayKit.Settlement

open Concurrency Control Tx

variable {worker : SettlementWorker} {holds : Bool}

/-! ### Permits -/

def WorkerCall.permits : Rules WorkerJob Bool WorkerCall WorkerReply :=
  permitRules WorkerJob WorkerCall.permitUse

/-- A call that leaves a permit where it is, and starts no job. -/
def WorkerCall.Steady (worker : SettlementWorker) (holds : Bool) (call : WorkerCall) : Prop :=
  call.permitUse.Changes holds holds ∧ worker.crew.starts call = []

namespace SettlementWorker

theorem uses_ofExcept {Result : Type} (allowed : WorkerCall → Prop)
    (outcome : Except String Result) :
    (Fallible.ofExcept outcome : Fallible String WorkerCall WorkerReply Result).run.Uses allowed :=
  trivial

theorem uses_await {Result : Type} {allowed : WorkerCall → Prop} {call : WorkerCall}
    (outcome : WorkerReply call → Except String Result) (hAllowed : allowed call) :
    (Fallible.await call outcome : Fallible String WorkerCall WorkerReply Result).run.Uses
      allowed :=
  ⟨hAllowed, fun _ => trivial⟩

theorem signVersionedTransactionSlot_uses (tx : VersionedTransaction) :
    (worker.signVersionedTransactionSlot tx).run.Uses (WorkerCall.Steady worker true) := by
  refine Fallible.uses_bind (uses_ofExcept _ _) fun index => ?_
  refine Fallible.uses_bind (uses_ofExcept _ _) fun _ => ?_
  refine Fallible.uses_bind (uses_ofExcept _ _) fun _ => ?_
  exact Fallible.uses_bind (uses_await _ ⟨rfl, rfl⟩) fun signature => trivial

theorem signAndSend_uses (carries : List Submitted) :
    (worker.signAndSend carries).run.Uses (WorkerCall.Steady worker true) := by
  refine Fallible.uses_bind (uses_await _ ⟨rfl, rfl⟩) fun blockhash => ?_
  refine Fallible.uses_bind (uses_ofExcept _ _) fun tx => ?_
  refine Fallible.uses_bind ?_ fun signed => uses_await _ ⟨⟨rfl, rfl⟩, rfl⟩
  exact (signVersionedTransactionSlot_uses tx).bind fun _ => trivial

theorem confirmSettlement_uses (signature : String) (attempts : ℕ) :
    (confirmSettlement signature attempts).Uses (WorkerCall.Steady worker holds) := by
  induction attempts with
  | zero => trivial
  | succ attempts hInduction =>
      refine ⟨⟨rfl, rfl⟩, fun verdict => ?_⟩
      match verdict with
      | .ok .confirmed => trivial
      | .ok (.failed error) => trivial
      | .ok .pending => exact ⟨⟨rfl, rfl⟩, fun _ => hInduction⟩
      | .error error => exact ⟨⟨rfl, rfl⟩, fun _ => hInduction⟩

theorem replyEach_uses (outcome : SettlementResult) (units : List Submitted) :
    (replyEach outcome units).Uses (WorkerCall.Steady worker holds) := by
  induction units with
  | nil => trivial
  | cons unit units hInduction => exact ⟨⟨rfl, rfl⟩, fun _ => hInduction⟩

/-- A program that ends with a permit as it began. -/
abbrev KeepsPermit (worker : SettlementWorker) {Result : Type} (holds : Bool)
    (program : Program WorkerCall WorkerReply Result) : Prop :=
  Follows worker.crew WorkerCall.permits (fun _ held => held = holds) holds program

theorem settleAlone_permit (unit : Submitted) :
    worker.KeepsPermit false (worker.settleAlone unit) := by
  refine Follows.request rfl fun _ => ⟨true, ⟨⟨rfl, rfl⟩, by simp⟩, ?_⟩
  refine (Follows.of_uses (signAndSend_uses [unit])).bind fun sent held hHeld => ?_
  subst hHeld
  refine Follows.request rfl fun _ => ⟨false, ⟨⟨rfl, rfl⟩, by simp⟩, ?_⟩
  cases sent with
  | error error => exact rfl
  | ok signature =>
      exact (Follows.of_uses (confirmSettlement_uses signature _)).bind fun _ _ hHeld => hHeld

theorem settleGroup_permit (group : List Submitted) :
    worker.KeepsPermit true (worker.settleGroup group) := by
  refine (Follows.of_uses (signAndSend_uses group)).bind fun sent held hHeld => ?_
  subst hHeld
  refine (Follows.of_uses (replyEach_uses _ _)).bind fun _ held hHeld => ?_
  subst hHeld
  cases sent with
  | error error => exact rfl
  | ok signature =>
      intro _
      exact ⟨true, [false], ⟨rfl, by simp⟩, .cons rfl .nil, rfl⟩

theorem settleConfirming_permit (confirming : List Submitted) :
    worker.KeepsPermit false (worker.settleConfirming confirming) := by
  induction confirming with
  | nil => rfl
  | cons unit confirming hInduction =>
      refine (settleAlone_permit unit).bind fun outcome held hHeld => ?_
      subst hHeld
      exact Follows.request rfl fun _ => ⟨false, ⟨rfl, by simp⟩, hInduction⟩

theorem settleReplied_permit (replied : List Submitted) :
    worker.KeepsPermit false (worker.settleReplied replied) := by
  induction replied with
  | nil => rfl
  | cons unit replied hInduction =>
      refine (settleAlone_permit unit).bind fun outcome held hHeld => ?_
      subst hHeld
      exact hInduction

theorem confirmSent_permit (signature : String) (packed : Bool)
    (confirming replied : List Submitted) :
    worker.KeepsPermit false (worker.confirmSent signature packed confirming replied) := by
  refine (Follows.of_uses (confirmSettlement_uses signature _)).bind fun verdict held hHeld => ?_
  subst hHeld
  match verdict with
  | .ok signature => exact Follows.of_uses (replyEach_uses _ _)
  | .error (.unconfirmed message) => exact Follows.of_uses (replyEach_uses _ _)
  | .error (.onChain message) =>
      cases packed with
      | false => exact Follows.of_uses (replyEach_uses _ _)
      | true =>
          refine (settleConfirming_permit confirming).bind fun _ held hHeld => ?_
          subst hHeld
          exact settleReplied_permit replied

theorem settleGroups_permit (groups : List (List Submitted)) :
    worker.KeepsPermit false (worker.settleGroups groups) := by
  induction groups with
  | nil => rfl
  | cons group groups hInduction =>
      refine Follows.request rfl fun _ => ⟨true, ⟨⟨rfl, rfl⟩, by simp⟩, ?_⟩
      refine (settleGroup_permit group).bind fun _ held hHeld => ?_
      subst hHeld
      exact Follows.request rfl fun _ => ⟨false, ⟨⟨rfl, rfl⟩, by simp⟩, hInduction⟩

theorem trained_permits : Trained worker.crew WorkerCall.permits (· = false) := by
  intro holds job hHired
  have hFree : holds = false := hHired
  subst hFree
  cases job with
  | flush units => exact settleGroups_permit _
  | confirm signature packed confirming replied => exact confirmSent_permit _ _ _ _

/-! ### Calls -/

variable (worker) in
/-- The polls of a confirmation, each with the pause after it. -/
def pollCalls : ℕ := 2 * worker.cfg.confirmAttempts

variable (worker) in
/-- What a unit costs when it is settled alone and answered. -/
def aloneCalls : ℕ := 6 + worker.pollCalls

variable (worker) in
def callsPerUnit : ℕ := 13 + 2 * worker.pollCalls

variable (worker) in
def price : WorkerJob → ℕ
  | .flush units => units.length * worker.callsPerUnit
  | .confirm _ _ confirming replied =>
      worker.pollCalls + (confirming.length + replied.length) * worker.aloneCalls

variable (worker) in
/-- The program makes at most so many calls, those of the jobs included that it starts. -/
abbrev Calls {Result : Type} (calls : ℕ) (program : Program WorkerCall WorkerReply Result) : Prop :=
  Spends worker.crew worker.price calls program

theorem ofExcept_calls {Result : Type} (outcome : Except String Result) :
    worker.Calls 0
      (Fallible.ofExcept outcome : Fallible String WorkerCall WorkerReply Result).run :=
  Spends.done _

theorem await_calls {Result : Type} {call : WorkerCall}
    (outcome : WorkerReply call → Except String Result) (hStarts : worker.crew.starts call = []) :
    worker.Calls 1
      (Fallible.await call outcome : Fallible String WorkerCall WorkerReply Result).run :=
  (Spends.request hStarts fun _ => ofExcept_calls _ : worker.Calls (1 + 0) _)

theorem signVersionedTransactionSlot_calls (tx : VersionedTransaction) :
    worker.Calls 1 (worker.signVersionedTransactionSlot tx).run := by
  refine Spends.mono (?_ : worker.Calls (0 + (0 + (0 + (1 + 0)))) _) (by omega)
  refine Spends.fallible_bind (ofExcept_calls _) fun index => ?_
  refine Spends.fallible_bind (ofExcept_calls _) fun _ => ?_
  refine Spends.fallible_bind (ofExcept_calls _) fun _ => ?_
  exact Spends.fallible_bind (await_calls _ rfl) fun signature => Spends.done _

theorem signAndSend_calls (carries : List Submitted) :
    worker.Calls 3 (worker.signAndSend carries).run := by
  refine Spends.mono (?_ : worker.Calls (1 + (0 + (1 + 1))) _) (by omega)
  refine Spends.fallible_bind (await_calls _ rfl) fun blockhash => ?_
  refine Spends.fallible_bind (ofExcept_calls _) fun tx => ?_
  refine Spends.fallible_bind ?_ fun signed => await_calls _ rfl
  exact ((signVersionedTransactionSlot_calls tx).bind fun _ => Spends.done _ :
    worker.Calls (1 + 0) _)

theorem confirmSettlement_calls (signature : String) (attempts : ℕ) :
    worker.Calls (2 * attempts) (confirmSettlement signature attempts) := by
  induction attempts with
  | zero => exact Spends.done _
  | succ attempts hInduction =>
      have hPause : worker.Calls (1 + 2 * attempts)
          (Program.request (WorkerCall.sleep 400) >>= fun _ =>
            confirmSettlement signature attempts) := Spends.request rfl fun _ => hInduction
      refine Spends.mono (?_ : worker.Calls (1 + (1 + 2 * attempts)) _) (by omega)
      refine Spends.request rfl fun verdict => ?_
      match verdict with
      | .ok .confirmed => exact (Spends.done _).mono (Nat.zero_le _)
      | .ok (.failed error) => exact (Spends.done _).mono (Nat.zero_le _)
      | .ok .pending => exact hPause
      | .error error => exact hPause

theorem replyEach_calls (outcome : SettlementResult) (units : List Submitted) :
    worker.Calls units.length (replyEach outcome units) := by
  induction units with
  | nil => exact Spends.done _
  | cons unit units hInduction =>
      rw [List.length_cons, Nat.add_comm]
      exact Spends.request rfl fun _ => hInduction

theorem settleAlone_calls (unit : Submitted) :
    worker.Calls (5 + worker.pollCalls) (worker.settleAlone unit) := by
  refine Spends.mono (?_ : worker.Calls (1 + (3 + (1 + worker.pollCalls))) _) (by omega)
  refine Spends.request rfl fun _ => (signAndSend_calls [unit]).bind fun sent => ?_
  refine Spends.request rfl fun _ => ?_
  cases sent with
  | error error => exact (Spends.done _).mono (Nat.zero_le _)
  | ok signature =>
      exact ((confirmSettlement_calls signature _).bind fun _ => Spends.done _ :
        worker.Calls (worker.pollCalls + 0) _)

theorem settleConfirming_calls (confirming : List Submitted) :
    worker.Calls (confirming.length * worker.aloneCalls) (worker.settleConfirming confirming) := by
  induction confirming with
  | nil => exact (Spends.done _).mono (Nat.zero_le _)
  | cons unit confirming hInduction =>
      refine Spends.mono (?_ : worker.Calls (5 + worker.pollCalls
        + (1 + confirming.length * worker.aloneCalls)) _) ?_
      · exact (settleAlone_calls unit).bind fun outcome => Spends.request rfl fun _ => hInduction
      · rw [List.length_cons, Nat.succ_mul]
        unfold aloneCalls
        omega

theorem settleReplied_calls (replied : List Submitted) :
    worker.Calls (replied.length * worker.aloneCalls) (worker.settleReplied replied) := by
  induction replied with
  | nil => exact (Spends.done _).mono (Nat.zero_le _)
  | cons unit replied hInduction =>
      refine Spends.mono
        (?_ : worker.Calls (5 + worker.pollCalls + replied.length * worker.aloneCalls) _) ?_
      · exact (settleAlone_calls unit).bind fun outcome => hInduction
      · rw [List.length_cons, Nat.succ_mul]
        unfold aloneCalls
        omega

variable (worker) in
theorem length_le_aloneCalls (units : List Submitted) :
    units.length ≤ units.length * worker.aloneCalls :=
  Nat.le_mul_of_pos_right _ (by unfold aloneCalls; omega)

theorem confirmSent_calls (signature : String) (packed : Bool)
    (confirming replied : List Submitted) :
    worker.Calls (worker.price (.confirm signature packed confirming replied))
      (worker.confirmSent signature packed confirming replied) := by
  have hReplies : ∀ outcome, worker.Calls
      ((confirming.length + replied.length) * worker.aloneCalls)
      (replyEach outcome confirming) := by
    intro outcome
    refine (replyEach_calls outcome confirming).mono ?_
    have hLength := length_le_aloneCalls worker confirming
    rw [Nat.add_mul]
    omega
  refine (confirmSettlement_calls signature _).bind fun verdict => ?_
  match verdict with
  | .ok signature => exact hReplies _
  | .error (.unconfirmed message) => exact hReplies _
  | .error (.onChain message) =>
      cases packed with
      | false => exact hReplies _
      | true =>
          rw [Nat.add_mul]
          exact (settleConfirming_calls confirming).bind fun _ => settleReplied_calls replied

/-- The units that are answered at once and those whose confirmation is awaited. -/
theorem length_partition (group : List Submitted) (awaits : Submitted → Bool) :
    (group.partition awaits).1.length + (group.partition awaits).2.length = group.length := by
  rw [List.partition_eq_filter_filter]
  exact (List.length_eq_length_filter_add awaits).symm

theorem settleGroup_calls (group : List Submitted) :
    worker.Calls (4 + group.length + worker.pollCalls + group.length * worker.aloneCalls)
      (worker.settleGroup group) := by
  refine Spends.mono (?_ : worker.Calls (3 + (group.length
    + (1 + worker.pollCalls + group.length * worker.aloneCalls))) _) (by omega)
  refine (signAndSend_calls group).bind fun sent => ?_
  have hSplit := length_partition group fun unit => unit.awaitConfirmation && sent.isOk
  refine Spends.bind ((replyEach_calls sent _).mono (by omega)) fun _ => ?_
  cases sent with
  | error error => exact (Spends.done _).mono (Nat.zero_le _)
  | ok signature =>
      refine Spends.mono (Spends.perform fun _ => Spends.done _) ?_
      simp only [crew, List.map_cons, List.map_nil, List.sum_cons, List.sum_nil, price]
      have hHanded : ∀ confirming immediate : List Submitted, ∀ packed : Bool,
          confirming.length + immediate.length = group.length →
          (confirming.length + (if packed then immediate else []).length) * worker.aloneCalls
            ≤ group.length * worker.aloneCalls := by
        intro confirming immediate packed hLength
        refine Nat.mul_le_mul_right _ (hLength ▸ Nat.add_le_add_left ?_ _)
        split
        · exact Nat.le_refl _
        · exact Nat.zero_le _
      have hMore := hHanded _ _ (decide (1 < group.length) &&
        Except.isOk (.ok signature : SettlementResult)) hSplit
      omega

theorem settleGroups_calls {groups : List (List Submitted)}
    (hNonempty : ∀ group ∈ groups, group ≠ []) :
    worker.Calls (groups.flatten.length * worker.callsPerUnit) (worker.settleGroups groups) := by
  induction groups with
  | nil => exact (Spends.done _).mono (Nat.zero_le _)
  | cons group groups hInduction =>
      have hRest := hInduction fun other hOther => hNonempty other (List.mem_cons_of_mem _ hOther)
      have hPositive : 0 < group.length :=
        List.length_pos_iff.mpr (hNonempty group List.mem_cons_self)
      refine Spends.mono (?_ : worker.Calls (1 + (4 + group.length + worker.pollCalls
        + group.length * worker.aloneCalls
          + (1 + groups.flatten.length * worker.callsPerUnit))) _) ?_
      · exact Spends.request rfl fun _ => (settleGroup_calls group).bind fun _ =>
          Spends.request rfl fun _ => hRest
      · rw [List.flatten_cons, List.length_append, Nat.add_mul]
        have hPolls := Nat.le_mul_of_pos_left worker.pollCalls hPositive
        have hUnit : group.length * worker.callsPerUnit
            = group.length * 7 + group.length * worker.pollCalls
              + group.length * worker.aloneCalls := by
          unfold callsPerUnit aloneCalls
          ring
        omega

variable (worker) in
theorem groups_flatten (units : List Submitted) : (worker.groups units).flatten = units := by
  rw [groups, regroup_eq_greedy]
  exact (Batching.greedy_isGreedy _ units).flatten

variable (worker) in
theorem groups_nonempty (units : List Submitted) : ∀ group ∈ worker.groups units, group ≠ [] := by
  rw [groups, regroup_eq_greedy]
  exact (Batching.greedy_isGreedy _ units).nonempty

theorem trained_calls :
    Trained worker.crew (budgetRules WorkerCall WorkerReply worker.price) fun _ => True := by
  intro budget job hHired
  have hBudget : budget = worker.price job := hHired
  subst hBudget
  cases job with
  | flush units =>
      have hCalls : worker.Calls ((worker.groups units).flatten.length * worker.callsPerUnit)
          (worker.settleGroups (worker.groups units)) :=
        settleGroups_calls (worker.groups_nonempty units)
      rw [groups_flatten] at hCalls
      exact (hCalls 0 _ le_rfl).weaken fun _ _ _ => trivial
  | confirm signature packed confirming replied =>
      exact (confirmSent_calls signature packed confirming replied 0 _ le_rfl).weaken
        fun _ _ _ => trivial

end SettlementWorker

end PayKit.Settlement
