import Mathlib.Data.List.Basic

/-!
# Programs of atomic calls

A sequential program is a tree of atomic calls to its environment: a key-value
store, a remote node, a clock. A call is answered by a reply of a type that
depends on the call, and the program continues from that reply. Asynchronous
code has exactly this shape: between two awaited calls it computes locally,
and everything another caller can do happens while it waits.

`Program.exec` runs a program alone, to the end, against a handler of its
calls. The interleaved runs of many programs are in `Interleaving`.
-/

namespace PayKit.Concurrency

universe u

/-- A program that performs `Call`s and ends with a `Result`. -/
inductive Program (Call : Type u) (Reply : Call → Type) (Result : Type) where
  | done (result : Result)
  | perform (call : Call) (next : Reply call → Program Call Reply Result)

namespace Program

variable {Call : Type u} {Reply : Call → Type} {State First Second : Type}

/-- Run a program, then the program chosen by its result. -/
def andThen (program : Program Call Reply First) (rest : First → Program Call Reply Second) :
    Program Call Reply Second :=
  match program with
  | .done result => rest result
  | .perform call next => .perform call fun reply => (next reply).andThen rest

instance : Monad (Program Call Reply) where
  pure := done
  bind := andThen

/-- The program that performs one call and returns its reply. -/
def request (call : Call) : Program Call Reply (Reply call) :=
  .perform call .done

@[simp]
theorem pure_eq_done (result : First) :
    (pure result : Program Call Reply First) = .done result :=
  rfl

@[simp]
theorem done_bind (result : First) (rest : First → Program Call Reply Second) :
    (Program.done result >>= rest) = rest result :=
  rfl

@[simp]
theorem perform_bind (call : Call) (next : Reply call → Program Call Reply First)
    (rest : First → Program Call Reply Second) :
    (Program.perform call next >>= rest) = .perform call fun reply => next reply >>= rest :=
  rfl

@[simp]
theorem request_bind (call : Call) (rest : Reply call → Program Call Reply Second) :
    (request call >>= rest) = .perform call rest :=
  rfl

theorem id_map_eq (program : Program Call Reply First) : id <$> program = program := by
  induction program with
  | done result => rfl
  | perform call next ih => exact congrArg (Program.perform call) (funext ih)

theorem bind_assoc_eq {Third : Type} (program : Program Call Reply First)
    (middle : First → Program Call Reply Second) (last : Second → Program Call Reply Third) :
    program >>= middle >>= last = program >>= fun result => middle result >>= last := by
  induction program with
  | done result => rfl
  | perform call next ih => exact congrArg (Program.perform call) (funext ih)

instance : LawfulMonad (Program Call Reply) :=
  LawfulMonad.mk' (Program Call Reply) id_map_eq (fun _ _ => rfl) bind_assoc_eq

/-- Every call the program can make is one of `allowed`. -/
def Uses (allowed : Call → Prop) : Program Call Reply First → Prop
  | .done _ => True
  | .perform call next => allowed call ∧ ∀ reply, (next reply).Uses allowed

theorem Uses.mono {allowed weaker : Call → Prop} {program : Program Call Reply First}
    (uses : program.Uses allowed) (implies : ∀ call, allowed call → weaker call) :
    program.Uses weaker := by
  induction program with
  | done result => trivial
  | perform call next ih => exact ⟨implies call uses.1, fun reply => ih reply (uses.2 reply)⟩

theorem Uses.bind {allowed : Call → Prop} {program : Program Call Reply First}
    {rest : First → Program Call Reply Second} (uses : program.Uses allowed)
    (usesRest : ∀ result, (rest result).Uses allowed) : (program >>= rest).Uses allowed := by
  induction program with
  | done result => exact usesRest result
  | perform call next ih => exact ⟨uses.1, fun reply => ih reply (uses.2 reply)⟩

/-- The program with its calls made as calls of a larger environment. -/
def within {Larger : Type u} {Answer : Larger → Type} (into : Call → Larger)
    (back : ∀ call, Answer (into call) → Reply call) :
    Program Call Reply First → Program Larger Answer First
  | .done result => .done result
  | .perform call next =>
      .perform (into call) fun reply => (next (back call reply)).within into back

theorem within_bind {Larger : Type u} {Answer : Larger → Type} {into : Call → Larger}
    {back : ∀ call, Answer (into call) → Reply call} (program : Program Call Reply First)
    (rest : First → Program Call Reply Second) :
    (program >>= rest).within into back =
      program.within into back >>= fun result => (rest result).within into back := by
  induction program with
  | done result => rfl
  | perform call next ih => exact congrArg (Program.perform (into call)) (funext fun _ => ih _)

theorem Uses.within {Larger : Type u} {Answer : Larger → Type} {into : Call → Larger}
    {back : ∀ call, Answer (into call) → Reply call} {allowed : Larger → Prop}
    {program : Program Call Reply First} (uses : program.Uses fun call => allowed (into call)) :
    (program.within into back).Uses allowed := by
  induction program with
  | done result => trivial
  | perform call next ih => exact ⟨uses.1, fun reply => ih _ (uses.2 _)⟩

/-- Run a program alone against a handler of its calls. -/
def exec (handle : (call : Call) → State → Reply call × State) :
    Program Call Reply First → State → First × State
  | .done result, state => (result, state)
  | .perform call next, state =>
      (next (handle call state).1).exec handle (handle call state).2

@[simp]
theorem exec_done (handle : (call : Call) → State → Reply call × State) (result : First)
    (state : State) : (Program.done result).exec handle state = (result, state) :=
  rfl

@[simp]
theorem exec_perform (handle : (call : Call) → State → Reply call × State) (call : Call)
    (next : Reply call → Program Call Reply First) (state : State) :
    (Program.perform call next).exec handle state =
      (next (handle call state).1).exec handle (handle call state).2 :=
  rfl

@[simp]
theorem exec_bind (handle : (call : Call) → State → Reply call × State)
    (program : Program Call Reply First) (rest : First → Program Call Reply Second)
    (state : State) :
    (program >>= rest).exec handle state =
      (rest (program.exec handle state).1).exec handle (program.exec handle state).2 := by
  induction program generalizing state with
  | done result => rfl
  | perform call next ih => exact ih _ _

end Program

/-- A program that may fail with an `Error`, the shape of an asynchronous
function returning a result. -/
abbrev Fallible (Error : Type) (Call : Type u) (Reply : Call → Type) :=
  ExceptT Error (Program Call Reply)

namespace Fallible

variable {Error : Type} {Call : Type u} {Reply : Call → Type} {State First Second : Type}

/-- One call of a fallible program. -/
def request (call : Call) : Fallible Error Call Reply (Reply call) :=
  ExceptT.lift (Program.request call)

/-- Sequential run of a bind, by the outcome of its first part. -/
theorem exec_run_bind (handle : (call : Call) → State → Reply call × State)
    (program : Fallible Error Call Reply First)
    (rest : First → Fallible Error Call Reply Second) (state : State) :
    (program >>= rest).run.exec handle state =
      match program.run.exec handle state with
      | (.ok result, after) => (rest result).run.exec handle after
      | (.error error, after) => (.error error, after) := by
  rw [ExceptT.run_bind, Program.exec_bind]
  rcases program.run.exec handle state with ⟨outcome, after⟩
  cases outcome <;> rfl

theorem uses_bind {allowed : Call → Prop} {program : Fallible Error Call Reply First}
    {rest : First → Fallible Error Call Reply Second} (uses : program.run.Uses allowed)
    (usesRest : ∀ result, (rest result).run.Uses allowed) :
    (program >>= rest).run.Uses allowed := by
  rw [ExceptT.run_bind]
  apply uses.bind
  intro outcome
  cases outcome with
  | ok result => exact usesRest result
  | error error => exact trivial

@[simp]
theorem run_request (call : Call) :
    (request call : Fallible Error Call Reply (Reply call)).run =
      .perform call fun reply => .done (.ok reply) :=
  rfl

theorem run_request_bind (call : Call) (rest : Reply call → Fallible Error Call Reply First) :
    (request call >>= rest).run = .perform call fun reply => (rest reply).run :=
  rfl

end Fallible

end PayKit.Concurrency
