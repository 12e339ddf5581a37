import Mathlib.Data.Int.Basic
import Mathlib.Algebra.Order.Ring.Int
import Mathlib.Tactic.Ring

/-!
# Periods of one length

Periods that follow one another from an anchor on. The times before the anchor belong to the
first period.
-/

namespace PayKit.Periods

variable {anchor length time other : ℤ} {count : ℕ}

/-- The period that a time is in, where the first one has the number zero. -/
def periodAt (anchor length time : ℤ) : ℕ :=
  ((time - anchor) / length).toNat

def endOf (anchor length : ℤ) (period : ℕ) : ℤ :=
  anchor + (period + 1) * length

theorem lt_endOf (hLength : 0 < length) :
    time < endOf anchor length (periodAt anchor length time) := by
  have hBelow := Int.lt_ediv_add_one_mul_self (time - anchor) hLength
  have hIndex : (time - anchor) / length ≤ periodAt anchor length time := Int.self_le_toNat _
  have hScaled := mul_le_mul_of_nonneg_right (add_le_add_left hIndex 1) hLength.le
  unfold endOf
  omega

theorem endOf_le (hLength : 0 < length) (hLater : count < periodAt anchor length time) :
    endOf anchor length count ≤ time := by
  unfold periodAt at hLater
  have hIndex : ((count : ℤ) + 1) ≤ (time - anchor) / length := by omega
  have hScaled := (Int.le_ediv_iff_mul_le hLength).mp hIndex
  unfold endOf
  omega

theorem periodAt_mono (hLength : 0 < length) (hTimes : time ≤ other) :
    periodAt anchor length time ≤ periodAt anchor length other := by
  apply Int.toNat_le_toNat
  exact Int.ediv_le_ediv hLength (by omega)

theorem endOf_lt_endOf (hLength : 0 < length) {earlier later : ℕ} :
    endOf anchor length earlier < endOf anchor length later ↔ earlier < later := by
  unfold endOf
  constructor
  · intro hEnds
    by_contra hOrder
    have hScaled := mul_le_mul_of_nonneg_right
      (show (later : ℤ) + 1 ≤ earlier + 1 by omega) hLength.le
    omega
  · intro hOrder
    have hScaled := mul_lt_mul_of_pos_right
      (show (earlier : ℤ) + 1 < later + 1 by omega) hLength
    omega

end PayKit.Periods
