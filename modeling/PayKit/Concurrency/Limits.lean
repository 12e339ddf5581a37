import PayKit.Concurrency.Jobs
import Mathlib.Algebra.BigOperators.Group.List.Basic
import Mathlib.Algebra.GroupWithZero.Nat
import Mathlib.Data.List.Count

/-!
# Permits and budgets of tasks

Two duties that bound what a crowd of tasks does. A task that holds a permit of a semaphore gives it
back before it ends and never asks for a second one; then the permits that are out are held by as
many tasks, and as long as there is any permit at all some task can go on. A task with a budget pays
for each of its calls and for the jobs that it starts; then a crowd makes no more calls than it was
given budget for.
-/

namespace PayKit.Concurrency

universe u

variable {Job : Type} {Call : Type u} {Reply : Call → Type} {crew : Crew Job Call Reply}
  {crowd later : Crowd Call Reply} {exchange : Exchange Call Reply}

/-! ### Permits -/

/-- What a call has to do with the permits of a semaphore. -/
inductive PermitUse where
  | acquires
  | releases
  /-- It is made with a permit only. -/
  | requires
  | ignores
deriving DecidableEq

namespace PermitUse

/-- The permits that are left, when the call can be answered. -/
def take : PermitUse → ℕ → Option ℕ
  | acquires, 0 => none
  | acquires, available + 1 => some available
  | releases, available => some (available + 1)
  | requires, available => some available
  | ignores, available => some available

/-- Whether the task holds a permit before and after the call. -/
def Changes : PermitUse → Bool → Bool → Prop
  | acquires, before, after => before = false ∧ after = true
  | releases, before, after => before = true ∧ after = false
  | requires, before, after => before = true ∧ after = true
  | ignores, before, after => after = before

end PermitUse

/-- Tasks that hold a permit or none. New jobs start without one. -/
def permitRules (Job : Type) (permitUse : Call → PermitUse) : Rules Job Bool Call Reply where
  passes holds exchange left given :=
    (permitUse exchange.call).Changes holds left ∧ ∀ other ∈ given, other = false
  hires holds _ := holds = false

/-- A program whose calls all leave a permit where it is. -/
theorem Follows.of_uses {Result : Type} {permitUse : Call → PermitUse} {holds : Bool}
    {program : Program Call Reply Result}
    (hUses : program.Uses fun call =>
      (permitUse call).Changes holds holds ∧ crew.starts call = []) :
    Follows crew (permitRules Job permitUse) (fun _ held => held = holds) holds program := by
  induction program with
  | done result => rfl
  | perform call next hInduction =>
      rcases hUses with ⟨⟨hChanges, hStarts⟩, hNext⟩
      intro reply
      refine ⟨holds, [], ⟨hChanges, by simp⟩, ?_, hInduction reply (hNext reply)⟩
      rw [hStarts]
      exact .nil

/-- The permits that tasks hold are those that are not available. -/
def PermitsOut (total available : ℕ) (holders : List Bool) : Prop :=
  available + holders.count true = total

section

variable {permitUse : Call → PermitUse} {total available left : ℕ} {holders : List Bool}

theorem count_true_of_all_false {given : List Bool} (hFree : ∀ other ∈ given, other = false) :
    given.count true = 0 := by
  refine List.count_eq_zero.mpr fun hTrue => ?_
  exact absurd (hFree true hTrue) (by decide)

theorem PermitsOut.start (hOut : PermitsOut total available holders) :
    PermitsOut total available (holders ++ [false]) := by
  unfold PermitsOut at *
  simpa using hOut

theorem PermitsOut.step {before after given : List Bool} {holds held : Bool}
    (hOut : PermitsOut total available (before ++ holds :: after))
    (hPasses : (permitRules Job permitUse : Rules Job Bool Call Reply).passes holds exchange held
      given)
    (hTake : (permitUse exchange.call).take available = some left) :
    PermitsOut total left (before ++ held :: after ++ given) := by
  rcases hPasses with ⟨hChanges, hFree⟩
  have hGiven := count_true_of_all_false hFree
  unfold PermitsOut at *
  simp only [List.count_append, List.count_cons] at hOut ⊢
  cases hUse : permitUse exchange.call with
  | acquires =>
      rw [hUse] at hChanges hTake
      rcases hChanges with ⟨rfl, rfl⟩
      cases available with
      | zero => cases hTake
      | succ available =>
          cases hTake
          simp at hOut ⊢
          omega
  | releases =>
      rw [hUse] at hChanges hTake
      rcases hChanges with ⟨rfl, rfl⟩
      cases hTake
      simp at hOut ⊢
      omega
  | requires =>
      rw [hUse] at hChanges hTake
      rcases hChanges with ⟨rfl, rfl⟩
      cases hTake
      simp at hOut ⊢
      omega
  | ignores =>
      rw [hUse] at hChanges hTake
      cases hChanges
      cases hTake
      omega

/-- When nothing is available, somebody who holds a permit waits, and not for another one. -/
theorem exists_going [∀ call : Call, Inhabited (Reply call)]
    (hStaffed : Staffed crew (permitRules Job permitUse) (· = false) holders crowd)
    (hOut : PermitsOut total available holders) (hSome : 0 < total)
    (hWaits : ¬crowd.Finished) :
    ∃ call next, .perform call next ∈ crowd.tasks ∧
      ∃ left, (permitUse call).take available = some left := by
  cases available with
  | succ available =>
      rcases crowd.finished_or_waits with hFinished | ⟨call, next, hTask⟩
      · exact absurd hFinished hWaits
      · refine ⟨call, next, hTask, ?_⟩
        cases permitUse call <;> exact ⟨_, rfl⟩
  | zero =>
      have hHolder : true ∈ holders := List.count_pos_iff.mp (by unfold PermitsOut at hOut; omega)
      rcases hStaffed.task_of_duty hHolder with ⟨task, hTask, hFollows⟩
      cases task with
      | done result => cases hFollows
      | perform call next =>
          refine ⟨call, next, hTask, ?_⟩
          rcases hFollows default with ⟨held, given, ⟨hChanges, -⟩, -⟩
          cases hUse : permitUse call with
          | acquires =>
              simp only [hUse] at hChanges
              cases hChanges.1
          | releases => exact ⟨_, rfl⟩
          | requires => exact ⟨_, rfl⟩
          | ignores => exact ⟨_, rfl⟩

theorem all_available
    (hStaffed : Staffed crew (permitRules Job permitUse) (· = false) holders crowd)
    (hOut : PermitsOut total available holders) (hFinished : crowd.Finished) :
    available = total := by
  have hFree := count_true_of_all_false fun holds hHolds => hStaffed.finished hFinished hHolds
  unfold PermitsOut at hOut
  omega

end

/-! ### Budgets -/

/-- Each call costs one, and a job that is started its price. -/
def budgetRules (Call : Type u) (Reply : Call → Type) (price : Job → ℕ) :
    Rules Job ℕ Call Reply where
  passes budget _ left given := left + given.sum + 1 ≤ budget
  hires budget job := budget = price job

/-- The program costs at most so much, whatever the replies are. -/
def Spends {Result : Type} (crew : Crew Job Call Reply) (price : Job → ℕ) (cost : ℕ)
    (program : Program Call Reply Result) : Prop :=
  ∀ rest budget, cost + rest ≤ budget →
    Follows crew (budgetRules Call Reply price) (fun _ left => rest ≤ left) budget program

namespace Spends

variable {First Result Error : Type} {price : Job → ℕ} {cost more : ℕ}

theorem done (result : Result) : Spends crew price 0 (.done result) := by
  intro rest budget hBudget
  have hRest : rest ≤ budget := by omega
  exact hRest

theorem mono {program : Program Call Reply Result} (hSpends : Spends crew price cost program)
    (hMore : cost ≤ more) : Spends crew price more program :=
  fun rest budget hBudget => hSpends rest budget (by omega)

theorem bind {program : Program Call Reply First} {next : First → Program Call Reply Result}
    (hFirst : Spends crew price cost program)
    (hNext : ∀ result, Spends crew price more (next result)) :
    Spends crew price (cost + more) (program >>= next) := by
  intro rest budget hBudget
  exact (hFirst (more + rest) budget (by omega)).bind fun result left hLeft =>
    hNext result rest left hLeft

theorem perform {call : Call} {next : Reply call → Program Call Reply Result}
    (hNext : ∀ reply, Spends crew price cost (next reply)) :
    Spends crew price (((crew.starts call).map price).sum + 1 + cost) (.perform call next) := by
  intro rest budget hBudget reply
  refine ⟨cost + rest, (crew.starts call).map price, ?_, ?_, hNext reply rest _ (Nat.le_refl _)⟩
  · simp only [budgetRules]
    omega
  · exact List.forall₂_map_left_iff.mpr (List.forall₂_same.mpr fun _ _ => rfl)

/-- A call that starts no job, and the program after it. -/
theorem request {call : Call} {next : Reply call → Program Call Reply Result}
    (hStarts : crew.starts call = []) (hNext : ∀ reply, Spends crew price cost (next reply)) :
    Spends crew price (1 + cost) (Program.request call >>= next) := by
  have hNone : ((crew.starts call).map price).sum = 0 := by simp [hStarts]
  refine (perform hNext).mono ?_
  omega

theorem fallible_bind {program : Fallible Error Call Reply First}
    {next : First → Fallible Error Call Reply Result}
    (hFirst : Spends crew price cost program.run)
    (hNext : ∀ result, Spends crew price more (next result).run) :
    Spends crew price (cost + more) (program >>= next).run := by
  rw [ExceptT.run_bind]
  refine hFirst.bind fun outcome => ?_
  cases outcome with
  | ok result => exact hNext result
  | error error => exact (done _).mono (Nat.zero_le _)

end Spends

/-- The calls that were made are paid for, and the budgets of the tasks are there. -/
def WithinBudget (total : ℕ) (budgets : List ℕ) (history : List (Exchange Call Reply)) : Prop :=
  history.length + budgets.sum ≤ total

section

variable {price : Job → ℕ} {total budget : ℕ} {budgets : List ℕ}
  {history : List (Exchange Call Reply)}

theorem WithinBudget.start (hWithin : WithinBudget total budgets history) (price : ℕ) :
    WithinBudget (total + price) (budgets ++ [price]) history := by
  unfold WithinBudget at *
  simp only [List.sum_append, List.sum_singleton]
  omega

theorem WithinBudget.step {before after given : List ℕ} {left : ℕ}
    (hWithin : WithinBudget total (before ++ budget :: after) history)
    (hPasses : (budgetRules Call Reply price).passes budget exchange left given) :
    WithinBudget total (before ++ left :: after ++ given) (exchange :: history) := by
  unfold WithinBudget at *
  simp only [budgetRules, List.sum_append, List.sum_cons, List.length_cons] at *
  omega

end

end PayKit.Concurrency
