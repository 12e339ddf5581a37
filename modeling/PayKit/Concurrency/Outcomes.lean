import PayKit.Concurrency.Interleaving

/-!
# How a program ends

What holds of every result of a program, whatever its calls are answered, is said by `Yields`. It
needs no run and no state.

An asynchronous computation can also be dropped at any call that it waits for; what it did until
then stays. A program with a limit on its calls is such a computation, and whatever holds whenever
the program waits holds when it is dropped.
-/

namespace PayKit.Concurrency
universe u

variable {Caller State Result First : Type} {Call : Type u} {Reply : Call → Type}

/-- Every result of the program. -/
def Program.Yields (Holds : Result → Prop) : Program Call Reply Result → Prop
  | .done result => Holds result
  | .perform _ next => ∀ reply, (next reply).Yields Holds

theorem Program.Yields.bind {Middle : First → Prop} {Holds : Result → Prop}
    {program : Program Call Reply First} {rest : First → Program Call Reply Result}
    (hFirst : program.Yields Middle) (hRest : ∀ result, Middle result → (rest result).Yields Holds) :
    (program >>= rest).Yields Holds := by
  induction program with
  | done result => exact hRest result hFirst
  | perform call next hInduction => exact fun reply => hInduction reply (hFirst reply)

/-- Every result of a program that may fail. -/
def Fallible.Yields {Error : Type} (Holds : Result → Prop)
    (program : Fallible Error Call Reply Result) : Prop :=
  program.run.Yields fun outcome => ∀ result, outcome = .ok result → Holds result

theorem Fallible.Yields.bind {Error : Type} {Middle : First → Prop} {Holds : Result → Prop}
    {program : Fallible Error Call Reply First} {rest : First → Fallible Error Call Reply Result}
    (hFirst : Fallible.Yields Middle program)
    (hRest : ∀ result, Middle result → Fallible.Yields Holds (rest result)) :
    Fallible.Yields Holds (program >>= rest) := by
  rw [Fallible.Yields, ExceptT.run_bind]
  refine Program.Yields.bind hFirst ?_
  intro outcome hOutcome
  cases outcome with
  | ok result => exact hRest result (hOutcome result rfl)
  | error error => exact nofun

theorem Fallible.yields_true {Error : Type} (program : Fallible Error Call Reply Result) :
    Fallible.Yields (fun _ => True) program := by
  unfold Fallible.Yields
  induction program.run with
  | done result => exact fun _ _ => trivial
  | perform call next hInduction => exact hInduction

/-- What holds of every result holds of it when the program ends safely. -/
theorem Environment.Safe.yields {environment : Environment Caller State Call Reply}
    {invariant : World Caller State Call Reply → Prop} {caller : Caller}
    {running : World Caller State Call Reply → Prop}
    {post : Result → World Caller State Call Reply → Prop} {Holds : Result → Prop}
    {program : Program Call Reply Result} {before : World Caller State Call Reply}
    (hSafe : environment.Safe invariant caller running post program before)
    (hYields : program.Yields Holds) :
    environment.Safe invariant caller running (fun result world => post result world ∧ Holds result)
      program before := by
  induction program generalizing before with
  | done result => exact fun now hInterferes => ⟨hSafe now hInterferes, hYields⟩
  | perform call next hInduction =>
      intro now hInterferes
      refine ⟨(hSafe now hInterferes).1, ?_⟩
      intro reply state hEffect hAllowed
      rcases (hSafe now hInterferes).2 reply state hEffect hAllowed with ⟨hKept, hRest⟩
      exact ⟨hKept, hInduction reply hRest (hYields reply)⟩

/-- The program with at most so many calls. It is dropped at the next one. -/
def Program.stopAfter (limit : ℕ) : Program Call Reply Result → Program Call Reply (Option Result)
  | .done result => .done (some result)
  | .perform call next =>
      match limit with
      | 0 => .done none
      | limit + 1 => .perform call fun reply => (next reply).stopAfter limit

theorem Environment.Safe.stopAfter {environment : Environment Caller State Call Reply}
    {invariant : World Caller State Call Reply → Prop} {caller : Caller}
    {running : World Caller State Call Reply → Prop}
    {post : Result → World Caller State Call Reply → Prop} {limit : ℕ}
    {program : Program Call Reply Result} {before : World Caller State Call Reply}
    (hSafe : environment.Safe invariant caller running post program before) :
    environment.Safe invariant caller running
      (fun outcome world => outcome.elim (running world) fun result => post result world)
      (program.stopAfter limit) before := by
  induction program generalizing limit before with
  | done result =>
      rw [Program.stopAfter]
      exact hSafe
  | perform call next hInduction =>
      cases limit with
      | zero => exact fun now hInterferes => (hSafe now hInterferes).1
      | succ limit =>
          intro now hInterferes
          refine ⟨(hSafe now hInterferes).1, ?_⟩
          intro reply state hEffect hAllowed
          rcases (hSafe now hInterferes).2 reply state hEffect hAllowed with ⟨hKept, hRest⟩
          exact ⟨hKept, hInduction reply hRest⟩

end PayKit.Concurrency
