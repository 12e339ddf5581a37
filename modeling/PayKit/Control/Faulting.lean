import Mathlib.Algebra.Group.Nat.Defs
import PayKit.Control.Refusal

/-!
# Computations that may fault

A computation that indexes, subtracts or multiplies machine values can fault where the same
computation on numbers cannot. `Faulting` keeps such an end apart from a refusal. A computation
has no faults when it is one that only refuses, read through `faultless`: the lemmas below push
this reading through a sequence, so that showing that a whole computation has no faults comes
down to its operations.
-/

namespace PayKit.Control

/-- How a computation that may fault fails. -/
inductive Halt (Failure : Type) where
  | refused (failure : Failure)
  | fault
deriving DecidableEq

abbrev Faulting (Failure Result : Type) : Type :=
  Except (Halt Failure) Result

namespace Faulting

variable {Failure First Second : Type}

/-- A computation without operations that may fault. -/
def faultless (check : Except Failure First) : Faulting Failure First :=
  check.mapError .refused

def fault : Faulting Failure First :=
  .error .fault

/-- A computation that refuses with something made of its refusal. -/
def mapRefusal {Reason : Type} (run : Faulting Reason First) (wrap : Reason → Failure) :
    Faulting Failure First :=
  run.mapError fun
    | .refused reason => .refused (wrap reason)
    | .fault => .fault

/-- An operation that faults when it has no value. -/
def orFault (value : Option First) : Faulting Failure First :=
  match value with
  | some value => .ok value
  | none => fault

/-- `left - right` of unsigned values. -/
def minus (left right : ℕ) : Faulting Failure ℕ :=
  orFault (if right ≤ left then some (left - right) else none)

/-- `left * right` in so many bits. -/
def times (bits left right : ℕ) : Faulting Failure ℕ :=
  orFault (if left * right < 2 ^ bits then some (left * right) else none)

/-- `number.div_ceil(divisor)`. -/
def divCeil (number divisor : ℕ) : Faulting Failure ℕ :=
  orFault (if divisor = 0 then none else some ((number + (divisor - 1)) / divisor))

/-- `items[position]`. -/
def index (items : List First) (position : ℕ) : Faulting Failure First :=
  orFault items[position]?

/-- `bytes[start..stop]`. -/
def range (items : List First) (start stop : ℕ) : Faulting Failure (List First) :=
  orFault (if start ≤ stop ∧ stop ≤ items.length then some ((items.take stop).drop start)
    else none)

@[simp]
theorem faultless_ok {value : First} :
    (faultless (.ok value) : Faulting Failure First) = .ok value :=
  rfl

@[simp]
theorem faultless_error {failure : Failure} :
    (faultless (.error failure) : Faulting Failure First) = .error (.refused failure) :=
  rfl

/-- A sequence without faults is one of parts without faults. -/
theorem faultless_bind {first : Except Failure First} {rest : First → Except Failure Second} :
    faultless (first >>= rest) = faultless first >>= fun value => faultless (rest value) := by
  cases first <;> rfl

theorem refuseIf_congr {left right : Prop} [Decidable left] [Decidable right] {failure : Failure}
    (hSame : left ↔ right) : refuseIf left failure = refuseIf right failure := by
  by_cases hLeft : left
  · simp [refuseIf, hLeft, hSame.mp hLeft]
  · have hRight : ¬right := fun hRight => hLeft (hSame.mpr hRight)
    simp [refuseIf, hLeft, hRight]

theorem bind_eq_faultless {run : Faulting Failure First} {check : Except Failure First}
    {next : First → Faulting Failure Second} {rest : First → Except Failure Second}
    (hRun : run = faultless check)
    (hNext : ∀ value, check = .ok value → next value = faultless (rest value)) :
    (run >>= next) = faultless (check >>= rest) := by
  subst hRun
  cases check with
  | error failure => rfl
  | ok value => exact hNext value rfl

@[simp]
theorem mapRefusal_faultless {Reason : Type} {check : Except Reason First}
    {wrap : Reason → Failure} :
    mapRefusal (faultless check) wrap = faultless (check.mapError wrap) := by
  cases check <;> rfl

theorem faultless_ne_fault {check : Except Failure First} : faultless check ≠ fault := by
  cases check <;> simp [faultless, fault, mapError_ok, mapError_error]

@[simp]
theorem ok_bind {value : First} {rest : First → Faulting Failure Second} :
    ((.ok value : Faulting Failure First) >>= rest) = rest value :=
  rfl

theorem minus_of_le {left right : ℕ} (hOrder : right ≤ left) :
    (minus left right : Faulting Failure ℕ) = .ok (left - right) := by
  simp [minus, orFault, hOrder]

theorem times_of_lt {bits left right : ℕ} (hFits : left * right < 2 ^ bits) :
    (times bits left right : Faulting Failure ℕ) = .ok (left * right) := by
  simp [times, orFault, hFits]

theorem divCeil_of_ne_zero {number divisor : ℕ} (hDivisor : divisor ≠ 0) :
    (divCeil number divisor : Faulting Failure ℕ)
      = .ok ((number + (divisor - 1)) / divisor) := by
  simp [divCeil, orFault, hDivisor]

theorem index_of_getElem? {items : List First} {position : ℕ} {item : First}
    (hItem : items[position]? = some item) :
    (index items position : Faulting Failure First) = .ok item := by
  simp [index, orFault, hItem]

theorem range_of_le {items : List First} {start stop : ℕ} (hOrder : start ≤ stop)
    (hStop : stop ≤ items.length) :
    (range items start stop : Faulting Failure (List First))
      = .ok ((items.take stop).drop start) := by
  simp [range, orFault, hOrder, hStop]

/-! ### Reading between what comes before and after -/

theorem range_append (before field after : List First) {start stop : ℕ}
    (hStart : start = before.length) (hStop : stop = before.length + field.length) :
    (range (before ++ field ++ after) start stop : Faulting Failure (List First))
      = .ok field := by
  subst hStart hStop
  rw [range_of_le (Nat.le_add_right _ _) (by simp only [List.length_append]; omega)]
  rw [← List.length_append, List.take_left', List.drop_left]
  rfl

theorem index_append (before after : List First) (item : First) {position : ℕ}
    (hPosition : position = before.length) :
    (index (before ++ item :: after) position : Faulting Failure First) = .ok item := by
  subst hPosition
  exact index_of_getElem? (by simp)

theorem range_flatten (before : List (List First)) (part : List First) (after : List (List First))
    {start stop : ℕ} (hStart : before.flatten.length = start)
    (hStop : start + part.length = stop) :
    (range (before ++ part :: after).flatten start stop : Faulting Failure (List First))
      = .ok part := by
  subst hStart hStop
  rw [List.flatten_append, List.flatten_cons, ← List.append_assoc]
  exact range_append before.flatten part after.flatten rfl rfl

theorem index_flatten (before : List (List First)) (item : First) (after : List (List First))
    {position : ℕ} (hPosition : before.flatten.length = position) :
    (index (before ++ [item] :: after).flatten position : Faulting Failure First)
      = .ok item := by
  rw [List.flatten_append, List.flatten_cons]
  exact index_append before.flatten after.flatten item hPosition.symm

/-! ### Running without faults

`Yields Holds run`: the run does not fault, and if it ends with a value, this value satisfies
`Holds`. A refusal is allowed. -/

def Yields (Holds : First → Prop) (run : Faulting Failure First) : Prop :=
  run ≠ fault ∧ ∀ value, run = .ok value → Holds value

variable {Holds : First → Prop} {Next : Second → Prop} {first : Faulting Failure First}
  {rest : First → Faulting Failure Second}

theorem Yields.bind (hFirst : Yields Holds first)
    (hRest : ∀ value, Holds value → Yields Next (rest value)) : Yields Next (first >>= rest) := by
  rcases hFirst with ⟨hFaultless, hHolds⟩
  cases hRun : first with
  | ok value => exact hRest value (hHolds value hRun)
  | error halt =>
      refine ⟨fun hFault => hFaultless ?_, nofun⟩
      rw [hRun]
      cases hFault
      rfl

theorem Yields.imp (hFirst : Yields Holds first) {Weaker : First → Prop}
    (hWeaker : ∀ value, Holds value → Weaker value) : Yields Weaker first :=
  ⟨hFirst.1, fun value hRun => hWeaker value (hFirst.2 value hRun)⟩

theorem yields_ok {value : First} (hHolds : Holds value) :
    Yields Holds (.ok value : Faulting Failure First) := by
  refine ⟨nofun, fun other hRun => ?_⟩
  cases hRun
  exact hHolds

theorem yields_faultless {check : Except Failure First}
    (hHolds : ∀ value, check = .ok value → Holds value) : Yields Holds (faultless check) := by
  cases check with
  | ok value => exact yields_ok (hHolds value rfl)
  | error failure => exact ⟨nofun, nofun⟩

theorem yields_refuseIf {condition : Prop} [Decidable condition] {failure : Failure} :
    Yields (fun _ => ¬condition) (faultless (refuseIf condition failure)) :=
  yields_faultless fun _ hPassed => refuseIf_eq_ok.mp hPassed

theorem yields_orFault {value : Option First} {found : First} (hFound : value = some found)
    (hHolds : Holds found) : Yields Holds (orFault value : Faulting Failure First) := by
  subst hFound
  exact yields_ok hHolds

theorem yields_index {items : List First} {position : ℕ} (hPosition : position < items.length) :
    Yields (fun item => items[position]? = some item)
      (index items position : Faulting Failure First) :=
  yields_orFault (List.getElem?_eq_getElem hPosition) (List.getElem?_eq_getElem hPosition)

theorem yields_range {items : List First} {start stop : ℕ} (hOrder : start ≤ stop)
    (hStop : stop ≤ items.length) :
    Yields (fun part => part = (items.take stop).drop start)
      (range items start stop : Faulting Failure (List First)) := by
  rw [range_of_le hOrder hStop]
  exact yields_ok rfl

end Faulting

end PayKit.Control
