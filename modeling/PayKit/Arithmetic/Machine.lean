import Mathlib.Data.Int.Order.Basic
import Mathlib.Tactic

/-!
# Checked and saturating machine arithmetic

Values of a 64-bit machine type are kept as natural numbers and integers; the
operations below are the ones that tell the difference. `checkedAdd` refuses a
sum that does not fit, `saturatingAdd` stops at the largest value, and `asI64`
reinterprets an unsigned value as a signed one, as an `as` cast does.
-/

namespace PayKit.Machine

/-- The largest value of an unsigned 64-bit integer. -/
def u64Max : ℕ := 2 ^ 64 - 1

/-- The largest value of a signed 64-bit integer. -/
def i64Max : ℤ := 2 ^ 63 - 1

/-- The smallest value of a signed 64-bit integer. -/
def i64Min : ℤ := -2 ^ 63

/-- Unsigned addition that fails when the sum does not fit. -/
def checkedAdd (left right : ℕ) : Option ℕ :=
  if left + right ≤ u64Max then some (left + right) else none

/-- Unsigned addition that stops at the largest value. -/
def saturatingAdd (left right : ℕ) : ℕ :=
  min (left + right) u64Max

/-- Signed addition that stops at the largest and at the smallest value. -/
def saturatingAddI64 (left right : ℤ) : ℤ :=
  max i64Min (min (left + right) i64Max)

/-- The signed value with the same 64 bits. -/
def asI64 (value : ℕ) : ℤ :=
  Int.bmod value (2 ^ 64)

theorem checkedAdd_eq_some {left right sum : ℕ} :
    checkedAdd left right = some sum ↔ left + right = sum ∧ sum ≤ u64Max := by
  simp only [checkedAdd]
  split
  · rename_i hFits
    constructor
    · intro hSum
      cases hSum
      exact ⟨rfl, hFits⟩
    · rintro ⟨rfl, -⟩
      rfl
  · rename_i hOverflow
    constructor
    · intro hSum
      cases hSum
    · rintro ⟨rfl, hFits⟩
      exact absurd hFits hOverflow

theorem add_eq_of_checkedAdd {left right sum : ℕ} (hSum : checkedAdd left right = some sum) :
    left + right = sum :=
  (checkedAdd_eq_some.mp hSum).1

theorem saturatingAdd_of_lt_max {left right : ℕ} (hBelow : saturatingAdd left right < u64Max) :
    saturatingAdd left right = left + right := by
  simp only [saturatingAdd] at hBelow ⊢
  omega

end PayKit.Machine
