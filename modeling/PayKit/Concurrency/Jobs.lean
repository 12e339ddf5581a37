import PayKit.Concurrency.Ensures
import Mathlib.Data.List.Forall2
import Mathlib.Logic.Relation

/-!
# Jobs that start jobs

Tasks run side by side, and a call of a task may start further jobs. Each task is given a duty: what
it owns, what it holds, what it may still spend. An exchange changes the duty of its task, and the
jobs that it starts get duties of their own. `Follows` says of a program that it has a right to
each of its calls as long as its duty is, whatever the replies are.

The duties of a crowd of tasks are a list beside the list of tasks. A step of the crowd replaces one
duty in it and adds those of the new jobs, so that an invariant of a run is about duties only and
no longer about programs.
-/

namespace PayKit.Concurrency

universe u v

variable {Job First Result : Type} {Duty : Type v} {Call : Type u} {Reply : Call → Type}

/-- A call and its reply. -/
structure Exchange (Call : Type u) (Reply : Call → Type) : Type u where
  call : Call
  reply : Reply call

/-- The jobs that tasks do, and the calls that start them. -/
structure Crew (Job : Type) (Call : Type u) (Reply : Call → Type) where
  body : Job → Program Call Reply Unit
  starts : Call → List Job

/-- What an exchange makes of a duty and which duties the jobs get that it starts, and the duties
with which a job may start. -/
structure Rules (Job : Type) (Duty : Type v) (Call : Type u) (Reply : Call → Type) where
  passes : Duty → Exchange Call Reply → Duty → List Duty → Prop
  hires : Duty → Job → Prop

variable (crew : Crew Job Call Reply) (rules : Rules Job Duty Call Reply)

/-- With such a duty the program has a right to all its calls, and it ends with a result and a duty
as they should be. -/
def Follows (finish : Result → Duty → Prop) : Duty → Program Call Reply Result → Prop
  | duty, .done result => finish result duty
  | duty, .perform call next =>
      ∀ reply, ∃ left given, rules.passes duty ⟨call, reply⟩ left given ∧
        List.Forall₂ rules.hires given (crew.starts call) ∧
        Follows finish left (next reply)

variable {crew rules} {duty : Duty}

namespace Follows

theorem bind {middle : First → Duty → Prop} {finish : Result → Duty → Prop}
    {program : Program Call Reply First} {rest : First → Program Call Reply Result}
    (hFirst : Follows crew rules middle duty program)
    (hRest : ∀ result left, middle result left → Follows crew rules finish left (rest result)) :
    Follows crew rules finish duty (program >>= rest) := by
  induction program generalizing duty with
  | done result => exact hRest result duty hFirst
  | perform call next hInduction =>
      intro reply
      rcases hFirst reply with ⟨left, given, hPasses, hHired, hNext⟩
      exact ⟨left, given, hPasses, hHired, hInduction reply hNext⟩

theorem weaken {middle finish : Result → Duty → Prop} {program : Program Call Reply Result}
    (hFollows : Follows crew rules middle duty program)
    (hWeaker : ∀ result left, middle result left → finish result left) :
    Follows crew rules finish duty program := by
  induction program generalizing duty with
  | done result => exact hWeaker result duty hFollows
  | perform call next hInduction =>
      intro reply
      rcases hFollows reply with ⟨left, given, hPasses, hHired, hNext⟩
      exact ⟨left, given, hPasses, hHired, hInduction reply hNext⟩

/-- A call that starts no job, and the program after it. -/
theorem request {finish : Result → Duty → Prop} {call : Call}
    {rest : Reply call → Program Call Reply Result} (hStarts : crew.starts call = [])
    (hRest : ∀ reply, ∃ left, rules.passes duty ⟨call, reply⟩ left [] ∧
      Follows crew rules finish left (rest reply)) :
    Follows crew rules finish duty (Program.request call >>= rest) := by
  intro reply
  rcases hRest reply with ⟨left, hPasses, hNext⟩
  refine ⟨left, [], hPasses, ?_, hNext⟩
  rw [hStarts]
  exact .nil

/-- A program that may fail, by what it does with its error or its value. -/
theorem fallible_bind {Error : Type} {middle : Except Error First → Duty → Prop}
    {finish : Except Error Result → Duty → Prop} {program : Fallible Error Call Reply First}
    {rest : First → Fallible Error Call Reply Result}
    (hFirst : Follows crew rules middle duty program.run)
    (hOk : ∀ result left, middle (.ok result) left →
      Follows crew rules finish left (rest result).run)
    (hError : ∀ error left, middle (.error error) left → finish (.error error) left) :
    Follows crew rules finish duty (program >>= rest).run := by
  rw [ExceptT.run_bind]
  refine hFirst.bind fun outcome left hMiddle => ?_
  cases outcome with
  | ok result => exact hOk result left hMiddle
  | error error => exact hError error left hMiddle

/-- A step of a program that awaits nothing. -/
theorem ofExcept_bind {Error : Type} {finish : Except Error Result → Duty → Prop}
    {outcome : Except Error First} {rest : First → Fallible Error Call Reply Result}
    (hOk : ∀ value, outcome = .ok value → Follows crew rules finish duty (rest value).run)
    (hError : ∀ error, outcome = .error error → finish (.error error) duty) :
    Follows crew rules finish duty (Fallible.ofExcept outcome >>= rest).run := by
  cases outcome with
  | ok value => exact hOk value rfl
  | error error => exact hError error rfl

/-- An awaited call that may fail and starts no job, and the program after it. -/
theorem await_bind {Error : Type} {finish : Except Error Result → Duty → Prop} {call : Call}
    {outcome : Reply call → Except Error First} {rest : First → Fallible Error Call Reply Result}
    (hStarts : crew.starts call = [])
    (hReply : ∀ reply, ∃ left, rules.passes duty ⟨call, reply⟩ left [] ∧
      (∀ value, outcome reply = .ok value →
        Follows crew rules finish left (rest value).run) ∧
      ∀ error, outcome reply = .error error → finish (.error error) left) :
    Follows crew rules finish duty (Fallible.await call outcome >>= rest).run := by
  intro reply
  rcases hReply reply with ⟨left, hPasses, hOk, hError⟩
  refine ⟨left, [], hPasses, ?_, ofExcept_bind hOk hError⟩
  rw [hStarts]
  exact .nil

end Follows

/-! ### Crowds of tasks -/

/-- Some tasks, and the exchanges of all of them with the newest first. -/
structure Crowd (Call : Type u) (Reply : Call → Type) where
  tasks : List (Program Call Reply Unit)
  history : List (Exchange Call Reply)

namespace Crowd

variable (crew) in
def start (crowd : Crowd Call Reply) (job : Job) : Crowd Call Reply :=
  { crowd with tasks := crowd.tasks ++ [crew.body job] }

variable (crew) in
/-- One task makes its next call. -/
inductive Step : Crowd Call Reply → Exchange Call Reply → Crowd Call Reply → Prop
  | perform (before after : List (Program Call Reply Unit)) (call : Call)
      (next : Reply call → Program Call Reply Unit) (reply : Reply call)
      (history : List (Exchange Call Reply)) :
      Step ⟨before ++ .perform call next :: after, history⟩ ⟨call, reply⟩
        ⟨before ++ next reply :: after ++ (crew.starts call).map crew.body,
          ⟨call, reply⟩ :: history⟩

theorem Step.history {crowd later : Crowd Call Reply} {exchange : Exchange Call Reply}
    (hStep : Step crew crowd exchange later) : later.history = exchange :: crowd.history := by
  cases hStep
  rfl

/-- Every task has ended. -/
def Finished (crowd : Crowd Call Reply) : Prop :=
  ∀ task ∈ crowd.tasks, task = .done ()

/-- Some task waits for a reply, unless all have ended. -/
theorem finished_or_waits (crowd : Crowd Call Reply) :
    crowd.Finished ∨ ∃ call next, .perform call next ∈ crowd.tasks := by
  by_cases hFinished : crowd.Finished
  · exact .inl hFinished
  simp only [Finished, not_forall] at hFinished
  rcases hFinished with ⟨task, hTask, hWaits⟩
  cases task with
  | done result => exact absurd rfl hWaits
  | perform call next => exact .inr ⟨call, next, hTask⟩

variable (crew) in
theorem exists_step {crowd : Crowd Call Reply} {call : Call}
    {next : Reply call → Program Call Reply Unit} (hWaits : .perform call next ∈ crowd.tasks)
    (reply : Reply call) : ∃ after, Step crew crowd ⟨call, reply⟩ after := by
  rcases crowd with ⟨tasks, history⟩
  rcases List.append_of_mem hWaits with ⟨before, after, rfl⟩
  exact ⟨_, .perform before after call next reply history⟩

end Crowd

/-- Each task follows the rules with the duty beside it. -/
def Staffed (crew : Crew Job Call Reply) (rules : Rules Job Duty Call Reply)
    (finish : Duty → Prop) (duties : List Duty) (crowd : Crowd Call Reply) : Prop :=
  List.Forall₂ (Follows crew rules fun _ => finish) duties crowd.tasks

/-- Every job follows the rules with the duties with which it may start. -/
def Trained (crew : Crew Job Call Reply) (rules : Rules Job Duty Call Reply)
    (finish : Duty → Prop) : Prop :=
  ∀ duty job, rules.hires duty job → Follows crew rules (fun _ => finish) duty (crew.body job)

theorem forall₂_append_cons {First Second : Type*} {Related : First → Second → Prop}
    {lefts : List First} {before after : List Second} {right : Second}
    (hRelated : List.Forall₂ Related lefts (before ++ right :: after)) :
    ∃ earlier left later, lefts = earlier ++ left :: later ∧
      List.Forall₂ Related earlier before ∧ Related left right ∧
      List.Forall₂ Related later after := by
  induction before generalizing lefts with
  | nil =>
      rcases List.forall₂_cons_right_iff.mp hRelated with ⟨left, later, hLeft, hLater, rfl⟩
      exact ⟨[], left, later, rfl, .nil, hLeft, hLater⟩
  | cons first before hInduction =>
      rcases List.forall₂_cons_right_iff.mp hRelated with ⟨head, rest, hHead, hRest, rfl⟩
      rcases hInduction hRest with ⟨earlier, left, later, rfl, hEarlier, hLeft, hLater⟩
      exact ⟨head :: earlier, left, later, rfl, .cons hHead hEarlier, hLeft, hLater⟩

namespace Staffed

variable {finish : Duty → Prop} {duties : List Duty} {crowd later : Crowd Call Reply}

theorem start {job : Job} (hTrained : Trained crew rules finish)
    (hStaffed : Staffed crew rules finish duties crowd) (hHired : rules.hires duty job) :
    Staffed crew rules finish (duties ++ [duty]) (crowd.start crew job) :=
  List.rel_append hStaffed (.cons (hTrained duty job hHired) .nil)

/-- A step changes the duty of its task and adds those of the jobs that it starts. -/
theorem step {exchange : Exchange Call Reply} (hTrained : Trained crew rules finish)
    (hStaffed : Staffed crew rules finish duties crowd)
    (hStep : Crowd.Step crew crowd exchange later) :
    ∃ before duty after left given, duties = before ++ duty :: after ∧
      rules.passes duty exchange left given ∧
      Staffed crew rules finish (before ++ left :: after ++ given) later := by
  cases hStep with
  | perform earlier rest call next reply history =>
      rcases forall₂_append_cons hStaffed with ⟨before, duty, after, rfl, hBefore, hTask, hAfter⟩
      rcases hTask reply with ⟨left, given, hPasses, hHired, hNext⟩
      refine ⟨before, duty, after, left, given, rfl, hPasses, ?_⟩
      refine List.rel_append (List.rel_append hBefore (.cons hNext hAfter)) ?_
      rw [List.forall₂_map_right_iff]
      exact hHired.imp fun _ _ hJob => hTrained _ _ hJob

theorem finished (hStaffed : Staffed crew rules finish duties crowd) (hFinished : crowd.Finished)
    (hDuty : duty ∈ duties) : finish duty := by
  rcases List.append_of_mem hDuty with ⟨before, after, rfl⟩
  rcases forall₂_append_cons hStaffed.flip with ⟨earlier, task, rest, hTasks, -, hTask, -⟩
  have hDone : task = .done () := hFinished task (by rw [hTasks]; simp)
  rw [hDone] at hTask
  exact hTask

/-- A task beside a duty. -/
theorem task_of_duty (hStaffed : Staffed crew rules finish duties crowd) (hDuty : duty ∈ duties) :
    ∃ task ∈ crowd.tasks, Follows crew rules (fun _ => finish) duty task := by
  rcases List.append_of_mem hDuty with ⟨before, after, rfl⟩
  rcases forall₂_append_cons hStaffed.flip with ⟨earlier, task, rest, hTasks, -, hTask, -⟩
  exact ⟨task, by rw [hTasks]; simp, hTask⟩

end Staffed

end PayKit.Concurrency
