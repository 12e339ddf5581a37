import PayKit.Concurrency.Program

/-!
# Programs alone

The ends that a program can have when nothing else runs beside it. Its environment answers each
call by a relation, so that a program may have many ends. `Program.exec` is one of them for every
handler that the relation allows.
-/

namespace PayKit.Concurrency

universe u

variable {Call : Type u} {Reply : Call → Type} {State First Second Error : Type}
  {effect : (call : Call) → State → Reply call → State → Prop} {before after : State}

namespace Program

/-- A program can end with a result. -/
def Ends (effect : (call : Call) → State → Reply call → State → Prop) :
    Program Call Reply First → State → First → State → Prop
  | .done value, before, result, after => result = value ∧ after = before
  | .perform call next, before, result, after =>
      ∃ reply middle, effect call before reply middle ∧
        (next reply).Ends effect middle result after

theorem ends_bind {program : Program Call Reply First}
    {rest : First → Program Call Reply Second} {result : Second} :
    (program >>= rest).Ends effect before result after ↔
      ∃ value middle, program.Ends effect before value middle ∧
        (rest value).Ends effect middle result after := by
  induction program generalizing before with
  | done value =>
      constructor
      · intro hRest
        exact ⟨value, before, ⟨rfl, rfl⟩, hRest⟩
      · rintro ⟨_, _, ⟨rfl, rfl⟩, hRest⟩
        exact hRest
  | perform call next hInduction =>
      constructor
      · rintro ⟨reply, middle, hEffect, hEnds⟩
        rcases (hInduction reply).mp hEnds with ⟨value, later, hFirst, hRest⟩
        exact ⟨value, later, ⟨reply, middle, hEffect, hFirst⟩, hRest⟩
      · rintro ⟨value, later, ⟨reply, middle, hEffect, hFirst⟩, hRest⟩
        exact ⟨reply, middle, hEffect, (hInduction reply).mpr ⟨value, later, hFirst, hRest⟩⟩

/-- What every call of a program keeps is kept by the program. -/
theorem Ends.keeps {kept : State → Prop} {allowed : Call → Prop}
    {program : Program Call Reply First} {result : First}
    (hEnds : program.Ends effect before result after) (hUses : program.Uses allowed)
    (hStep : ∀ call before reply after, allowed call → effect call before reply after →
      kept before → kept after) (hKept : kept before) : kept after := by
  induction program generalizing before with
  | done value =>
      rw [hEnds.2]
      exact hKept
  | perform call next hInduction =>
      rcases hEnds with ⟨reply, middle, hEffect, hRest⟩
      exact hInduction reply hRest (hUses.2 reply) (hStep _ _ _ _ hUses.1 hEffect hKept)

/-- A run against a handler is one of the ends. -/
theorem ends_exec {handle : (call : Call) → State → Reply call × State}
    (hHandle : ∀ call state, effect call state (handle call state).1 (handle call state).2)
    (program : Program Call Reply First) (state : State) :
    program.Ends effect state (program.exec handle state).1 (program.exec handle state).2 := by
  induction program generalizing state with
  | done value => exact ⟨rfl, rfl⟩
  | perform call next hInduction => exact ⟨_, _, hHandle call state, hInduction _ _⟩

end Program

namespace Fallible

variable {program : Fallible Error Call Reply First}
  {rest : First → Fallible Error Call Reply Second}

/-- A program succeeds when each of its parts does. -/
theorem ends_bind {result : Second} :
    (program >>= rest).run.Ends effect before (.ok result) after ↔
      ∃ value middle, program.run.Ends effect before (.ok value) middle ∧
        (rest value).run.Ends effect middle (.ok result) after := by
  rw [ExceptT.run_bind, Program.ends_bind]
  constructor
  · rintro ⟨outcome, middle, hFirst, hRest⟩
    cases outcome with
    | ok value => exact ⟨value, middle, hFirst, hRest⟩
    | error error => exact absurd hRest.1 nofun
  · rintro ⟨value, middle, hFirst, hRest⟩
    exact ⟨.ok value, middle, hFirst, hRest⟩

theorem ends_request {call : Call} {reply : Reply call} :
    (request call : Fallible Error Call Reply (Reply call)).run.Ends effect before (.ok reply)
      after ↔ effect call before reply after := by
  constructor
  · rintro ⟨_, _, hEffect, ⟨⟩, rfl⟩
    exact hEffect
  · intro hEffect
    exact ⟨reply, after, hEffect, rfl, rfl⟩

theorem ends_pure {value result : First} :
    (pure value : Fallible Error Call Reply First).run.Ends effect before (.ok result) after ↔
      result = value ∧ after = before := by
  constructor
  · rintro ⟨hResult, hAfter⟩
    exact ⟨Except.ok.inj hResult, hAfter⟩
  · rintro ⟨rfl, rfl⟩
    exact ⟨rfl, rfl⟩

theorem not_ends_throw {error : Error} {result : First} :
    ¬(throw error : Fallible Error Call Reply First).run.Ends effect before (.ok result) after :=
  fun hEnds => nomatch hEnds.1

end Fallible

end PayKit.Concurrency
