import PayKit.Concurrency.Interleaving

/-!
# What a program that may fail ensures

A program whose result is an error or a value is mostly a sequence of checks and awaited
calls. `Ensures` is `Environment.Safe` for such a program, with an assertion about the value
alone: whatever error it ends with, it has kept the invariant. The rules below follow the
sequence, so that a proof about a program names one fact for each of its calls and never
unfolds the monad.
-/

namespace PayKit.Concurrency

universe u

variable {Caller State : Type} {Call : Type u} {Reply : Call → Type} {Error First Result : Type}

namespace Fallible

/-- A step that awaits nothing. -/
def ofExcept (outcome : Except Error Result) : Fallible Error Call Reply Result :=
  ExceptT.mk (.done outcome)

/-- A call, and what its reply means. -/
def await (call : Call) (outcome : Reply call → Except Error Result) :
    Fallible Error Call Reply Result := do
  let reply ← request call
  ofExcept (outcome reply)

end Fallible

/-- An assertion about the value of a program that did not fail. -/
def OnSuccess (holds : Result → World Caller State Call Reply → Prop) :
    Except Error Result → World Caller State Call Reply → Prop
  | .ok result, world => holds result world
  | .error _, _ => True

namespace Environment

/-- Run by the caller from such a world, the program keeps the invariant, and the assertion
holds of its value from then on. -/
def Ensures (environment : Environment Caller State Call Reply)
    (invariant : World Caller State Call Reply → Prop) (caller : Caller)
    (program : Fallible Error Call Reply Result)
    (holds : Result → World Caller State Call Reply → Prop)
    (before : World Caller State Call Reply) : Prop :=
  environment.Safe invariant caller (fun _ => True) (OnSuccess holds) program.run before

variable {environment : Environment Caller State Call Reply}
  {invariant : World Caller State Call Reply → Prop} {caller : Caller}
  {before : World Caller State Call Reply}

theorem Ensures.weaken {program : Fallible Error Call Reply Result}
    {holds weaker : Result → World Caller State Call Reply → Prop}
    (hEnsures : environment.Ensures invariant caller program holds before)
    (hImplies : ∀ value world, invariant world → before.history <:+ world.history →
      holds value world → weaker value world) :
    environment.Ensures invariant caller program weaker before := by
  apply Safe.weaken hEnsures
  intro outcome world hInvariant hSuffix hHolds
  cases outcome with
  | ok value => exact hImplies value world hInvariant hSuffix hHolds
  | error error => trivial

theorem Ensures.trivially {program : Fallible Error Call Reply Result}
    {holds : Result → World Caller State Call Reply → Prop}
    (hEnsures : environment.Ensures invariant caller program holds before) :
    environment.Ensures invariant caller program (fun _ _ => True) before :=
  hEnsures.weaken fun _ _ _ _ _ => trivial

theorem ensures_bind {program : Fallible Error Call Reply First}
    {rest : First → Fallible Error Call Reply Result}
    {middle : First → World Caller State Call Reply → Prop}
    {holds : Result → World Caller State Call Reply → Prop} (hInvariant : invariant before)
    (hFirst : environment.Ensures invariant caller program middle before)
    (hRest : ∀ value world, invariant world → before.history <:+ world.history →
      middle value world → environment.Ensures invariant caller (rest value) holds world) :
    environment.Ensures invariant caller (program >>= rest) holds before := by
  apply Safe.fallible_bind hInvariant hFirst
  · intro value world hKept hSuffix hMiddle
    exact hRest value world hKept hSuffix hMiddle
  · intro error world _ _ _ _ _
    trivial

theorem ensures_ofExcept {outcome : Except Error Result}
    {holds : Result → World Caller State Call Reply → Prop}
    (hHolds : ∀ value, outcome = .ok value → ∀ world,
      Interferes invariant caller before world → holds value world) :
    environment.Ensures invariant caller (Fallible.ofExcept outcome) holds before := by
  intro world hInterferes
  cases outcome with
  | ok value => exact hHolds value rfl world hInterferes
  | error error => trivial

theorem ensures_ofExcept_bind {outcome : Except Error First}
    {rest : First → Fallible Error Call Reply Result}
    {holds : Result → World Caller State Call Reply → Prop}
    (hRest : ∀ value, outcome = .ok value →
      environment.Ensures invariant caller (rest value) holds before) :
    environment.Ensures invariant caller (Fallible.ofExcept outcome >>= rest) holds before := by
  cases outcome with
  | ok value => exact hRest value rfl
  | error error => exact fun _ _ => trivial

theorem ensures_pure {value : Result} {holds : Result → World Caller State Call Reply → Prop}
    (hHolds : ∀ world, Interferes invariant caller before world → holds value world) :
    environment.Ensures invariant caller (pure value : Fallible Error Call Reply Result) holds
      before :=
  fun world hInterferes => hHolds world hInterferes

/-- A call, with what its reply establishes at once. -/
theorem ensures_request {call : Call} {middle : Reply call → World Caller State Call Reply → Prop}
    {rest : Reply call → Fallible Error Call Reply Result}
    {holds : Result → World Caller State Call Reply → Prop}
    (hCall : ∀ now, Interferes invariant caller before now → ∀ reply state,
      environment.effect call now.state reply state →
        environment.allowed now ⟨caller, call, reply⟩ →
          invariant (now.record ⟨caller, call, reply⟩ state) ∧
            middle reply (now.record ⟨caller, call, reply⟩ state))
    (hRest : ∀ reply world, invariant world → before.history <:+ world.history →
      middle reply world → environment.Ensures invariant caller (rest reply) holds world) :
    environment.Ensures invariant caller (Fallible.request call >>= rest) holds before := by
  intro now hInterferes
  refine ⟨trivial, ?_⟩
  intro reply state hEffect hAllowed
  rcases hCall now hInterferes reply state hEffect hAllowed with ⟨hKept, hMiddle⟩
  refine ⟨hKept, hRest reply _ hKept ?_ hMiddle⟩
  exact hInterferes.suffix.trans (List.suffix_cons _ _)

/-- A call whose reply is judged at once. -/
theorem ensures_await {call : Call} {outcome : Reply call → Except Error Result}
    (middle : Reply call → World Caller State Call Reply → Prop)
    {holds : Result → World Caller State Call Reply → Prop}
    (hCall : ∀ now, Interferes invariant caller before now → ∀ reply state,
      environment.effect call now.state reply state →
        environment.allowed now ⟨caller, call, reply⟩ →
          invariant (now.record ⟨caller, call, reply⟩ state) ∧
            middle reply (now.record ⟨caller, call, reply⟩ state))
    (hHolds : ∀ reply value world later, middle reply world → outcome reply = .ok value →
      Interferes invariant caller world later → holds value later) :
    environment.Ensures invariant caller (Fallible.await call outcome) holds before := by
  apply ensures_request hCall
  intro reply world _ _ hMiddle
  apply ensures_ofExcept
  intro value hValue later hInterferes
  exact hHolds reply value world later hMiddle hValue hInterferes

theorem safe_map {program : Program Call Reply First} {value : First → Result}
    {running : World Caller State Call Reply → Prop}
    {post : Result → World Caller State Call Reply → Prop}
    (hSafe : environment.Safe invariant caller running (fun first => post (value first)) program
      before) : environment.Safe invariant caller running post (value <$> program) before := by
  induction program generalizing before with
  | done result => exact hSafe
  | perform call next hInduction =>
      intro now hInterferes
      refine ⟨(hSafe now hInterferes).1, ?_⟩
      intro reply state hEffect hAllowed
      rcases (hSafe now hInterferes).2 reply state hEffect hAllowed with ⟨hKept, hRest⟩
      exact ⟨hKept, hInduction reply hRest⟩

theorem ensures_map {program : Fallible Error Call Reply First} {value : First → Result}
    {holds : Result → World Caller State Call Reply → Prop}
    (hEnsures : environment.Ensures invariant caller program (fun first => holds (value first))
      before) : environment.Ensures invariant caller (value <$> program) holds before := by
  rw [Ensures, ExceptT.run_map]
  refine safe_map (Safe.weaken hEnsures ?_)
  intro outcome world _ _ hHolds
  cases outcome with
  | ok first => exact hHolds
  | error error => trivial

/-- A program whose failure is an answer too. -/
theorem ensures_lift {program : Fallible Error Call Reply Result}
    {holds : Result → World Caller State Call Reply → Prop}
    (hEnsures : environment.Ensures invariant caller program holds before) :
    environment.Ensures invariant caller
      (ExceptT.lift program.run : Fallible Error Call Reply (Except Error Result))
      (OnSuccess holds) before :=
  safe_map hEnsures

end Environment

/-- A schedule is permitted when the handler only answers what is allowed. -/
theorem Config.permitted_of_handler {Choice : Type} [DecidableEq Caller]
    {handle : Choice → (call : Call) → State → Reply call × State}
    {allowed : World Caller State Call Reply → Event Caller Call Reply → Prop}
    (hAllows : ∀ world caller choice call,
      allowed world ⟨caller, call, (handle choice call world.state).1⟩)
    (config : Config Caller State Call Reply Result) (schedule : List (Caller × Choice)) :
    config.Permitted handle allowed schedule := by
  induction schedule generalizing config with
  | nil => trivial
  | cons turn schedule hInduction =>
      refine ⟨?_, hInduction _⟩
      split
      · trivial
      · exact hAllows _ _ _ _

end PayKit.Concurrency
