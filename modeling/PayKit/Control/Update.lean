import Mathlib.Logic.Basic

/-!
# Methods that change their object or fail

A method with exclusive access to an object returns a result or a failure, and leaves
the object in some state either way. Nothing undoes what it wrote before it failed, so
whether a failure leaves the object as it was is a property to prove: it holds when no
check runs after a write.
-/

namespace PayKit.Control

variable {State Failure First Second : Type}

/-- A method on an object: what it returns, and the object it leaves. -/
def Update (State Failure Result : Type) : Type :=
  State → Except Failure Result × State

namespace Update

protected def pure (value : First) : Update State Failure First :=
  fun state => (.ok value, state)

protected def bind (first : Update State Failure First) (rest : First → Update State Failure Second) :
    Update State Failure Second :=
  fun state =>
    match first state with
    | (.ok value, next) => rest value next
    | (.error failure, next) => (.error failure, next)

instance : Monad (Update State Failure) where
  pure := Update.pure
  bind := Update.bind

/-- Read from the object. -/
def read (view : State → First) : Update State Failure First :=
  fun state => (.ok (view state), state)

/-- A check that does not depend on the object. -/
def check (result : Except Failure First) : Update State Failure First :=
  fun state => (result, state)

/-- Write to the object. -/
def write (change : State → State) : Update State Failure Unit :=
  fun state => (.ok (), change state)

variable {first : Update State Failure First} {rest : First → Update State Failure Second}
  {state final : State} {result : Second}

protected theorem bind_eq_ok :
    (first >>= rest) state = (.ok result, final) ↔
      ∃ value next, first state = (.ok value, next) ∧ rest value next = (.ok result, final) := by
  change Update.bind first rest state = _ ↔ _
  simp only [Update.bind]
  cases hFirst : first state with
  | mk outcome next => cases outcome <;> simp [and_assoc]

@[simp]
theorem pure_eq_ok {value : First} {result : First} :
    (Pure.pure value : Update State Failure First) state = (.ok result, final) ↔
      value = result ∧ state = final := by
  change (Except.ok value, state) = _ ↔ _
  simp

@[simp]
theorem write_eq_ok {change : State → State} {value : Unit} :
    (write change : Update State Failure Unit) state = (.ok value, final) ↔
      change state = final := by
  simp [write]

@[simp]
theorem check_eq_ok {checked : Except Failure First} {value : First} :
    (check checked : Update State Failure First) state = (.ok value, final) ↔
      checked = .ok value ∧ state = final := by
  simp [check]

@[simp]
theorem read_bind {view : State → First} :
    (read view >>= rest) state = rest (view state) state :=
  rfl

@[simp]
theorem write_bind {change : State → State} {rest : Unit → Update State Failure Second} :
    (write change >>= rest) state = rest () (change state) :=
  rfl

theorem check_bind_eq_ok {checked : Except Failure First} :
    (check checked >>= rest) state = (.ok result, final) ↔
      ∃ value, checked = .ok value ∧ rest value state = (.ok result, final) := by
  rw [Update.bind_eq_ok]
  simp [check, and_assoc]

/-- What holds of every outcome of a sequence: of that of its first part, when this fails, and
else of that of the rest. -/
theorem bind_intro {Holds : Except Failure Second × State → Prop}
    (hFailed : ∀ failure next, first state = (.error failure, next) →
      Holds (.error failure, next))
    (hRest : ∀ value next, first state = (.ok value, next) → Holds (rest value next)) :
    Holds ((first >>= rest) state) := by
  change Holds (Update.bind first rest state)
  simp only [Update.bind]
  rcases hFirst : first state with ⟨outcome, next⟩
  cases outcome with
  | ok value => exact hRest value next hFirst
  | error failure => exact hFailed failure next hFirst

theorem check_bind_intro {checked : Except Failure First}
    {Holds : Except Failure Second × State → Prop}
    (hFailed : ∀ failure, Holds (.error failure, state))
    (hRest : ∀ value, checked = .ok value → Holds (rest value state)) :
    Holds ((check checked >>= rest) state) := by
  cases checked with
  | ok value => exact hRest value rfl
  | error failure => exact hFailed failure

/-- The method leaves the object as it was. -/
def ReadOnly (method : Update State Failure First) : Prop :=
  ∀ state, (method state).2 = state

/-- The method never fails. -/
def Total (method : Update State Failure First) : Prop :=
  ∀ state, ∃ value, (method state).1 = .ok value

/-- A failure of the method leaves the object as it was. -/
def Atomic (method : Update State Failure First) : Prop :=
  ∀ state failure, (method state).1 = .error failure → (method state).2 = state

theorem read_readOnly {view : State → First} : ReadOnly (read view : Update State Failure First) := by
  intro state
  rfl

theorem check_readOnly {checked : Except Failure First} :
    ReadOnly (check checked : Update State Failure First) := by
  intro state
  rfl

theorem write_total {change : State → State} : Total (write change : Update State Failure Unit) := by
  intro state
  exact ⟨(), rfl⟩

theorem pure_total {value : First} :
    Total (Pure.pure value : Update State Failure First) := by
  intro state
  exact ⟨value, rfl⟩

theorem ReadOnly.atomic (hReadOnly : ReadOnly first) : Atomic first := by
  intro state failure hFailed
  exact hReadOnly state

theorem Total.atomic (hTotal : Total first) : Atomic first := by
  intro state failure hFailed
  rcases hTotal state with ⟨value, hValue⟩
  rw [hValue] at hFailed
  cases hFailed

theorem Total.bind (hFirst : Total first) (hRest : ∀ value, Total (rest value)) :
    Total (first >>= rest) := by
  intro state
  rcases hFirst state with ⟨value, hValue⟩
  rcases hRest value (first state).2 with ⟨later, hLater⟩
  refine ⟨later, ?_⟩
  change (Update.bind first rest state).1 = _
  rw [← hLater]
  simp only [Update.bind]
  rcases hCase : first state with ⟨outcome, next⟩
  rw [hCase] at hValue
  subst hValue
  rfl

/-- Checks may run before an atomic method. -/
theorem ReadOnly.bind_atomic (hFirst : ReadOnly first) (hRest : ∀ value, Atomic (rest value)) :
    Atomic (first >>= rest) := by
  intro state failure hFailed
  have hSame := hFirst state
  change (Update.bind first rest state).1 = _ at hFailed
  change (Update.bind first rest state).2 = _
  simp only [Update.bind] at hFailed ⊢
  rcases hCase : first state with ⟨outcome, next⟩
  rw [hCase] at hFailed hSame
  subst hSame
  cases outcome with
  | ok value => exact hRest value _ failure hFailed
  | error other => rfl

theorem check_bind_atomic {checked : Except Failure First}
    (hRest : ∀ value, Atomic (rest value)) : Atomic (check checked >>= rest) :=
  check_readOnly.bind_atomic hRest

theorem read_bind_atomic {view : State → First} (hRest : ∀ value, Atomic (rest value)) :
    Atomic (read view >>= rest) :=
  read_readOnly.bind_atomic hRest

theorem Atomic.bind_total (hFirst : Atomic first) (hRest : ∀ value, Total (rest value)) :
    Atomic (first >>= rest) := by
  intro state failure hFailed
  change (Update.bind first rest state).1 = _ at hFailed
  change (Update.bind first rest state).2 = _
  simp only [Update.bind] at hFailed ⊢
  rcases hCase : first state with ⟨outcome, next⟩
  rw [hCase] at hFailed
  cases outcome with
  | ok value =>
      rcases hRest value next with ⟨later, hLater⟩
      rw [hLater] at hFailed
      cases hFailed
  | error other =>
      have hSame := hFirst state other (by rw [hCase])
      rwa [hCase] at hSame

/-! ### Outcomes -/

/-- What a method returns with the object that it leaves, where it does not fail. -/
def outcome (method : Update State Failure First) (state : State) :
    Except Failure (First × State) :=
  match method state with
  | (.ok value, next) => .ok (value, next)
  | (.error failure, _) => .error failure

theorem outcome_eq_ok {value : First} :
    outcome first state = .ok (value, final) ↔ first state = (.ok value, final) := by
  unfold outcome
  rcases first state with ⟨⟨_⟩ | ⟨_⟩, _⟩ <;> simp

/-- Every state that the method leaves satisfies the condition, also when it fails. -/
def Preserves (Holds : State → Prop) (method : Update State Failure First) : Prop :=
  ∀ state, Holds state → Holds (method state).2

variable {Holds : State → Prop}

theorem Preserves.bind (hFirst : Preserves Holds first)
    (hRest : ∀ value, Preserves Holds (rest value)) : Preserves Holds (first >>= rest) := by
  intro state hState
  have hNext := hFirst state hState
  change Holds (Update.bind first rest state).2
  simp only [Update.bind]
  rcases hCase : first state with ⟨outcome, next⟩
  rw [hCase] at hNext
  cases outcome with
  | ok value => exact hRest value next hNext
  | error failure => exact hNext

theorem ReadOnly.preserves (hReadOnly : ReadOnly first) : Preserves Holds first := by
  intro state hState
  rw [hReadOnly state]
  exact hState

theorem pure_preserves {value : First} :
    Preserves Holds (Pure.pure value : Update State Failure First) :=
  fun _ hState => hState

theorem check_bind_preserves {checked : Except Failure First} (hState : Holds state)
    (hRest : ∀ value, checked = .ok value → Holds (rest value state).2) :
    Holds ((check checked >>= rest) state).2 := by
  cases checked with
  | ok value => exact hRest value rfl
  | error failure => exact hState

theorem write_preserves {change : State → State} (hChange : ∀ state, Holds state →
    Holds (change state)) : Preserves Holds (write change : Update State Failure Unit) :=
  hChange

end Update

end PayKit.Control
