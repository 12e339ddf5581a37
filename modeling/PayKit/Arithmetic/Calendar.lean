import Mathlib.Data.Int.Basic
import Mathlib.Order.Monotone.Basic
import Mathlib.Tactic.Common

/-!
# Dates of the civil calendar

The date of a day in the proleptic Gregorian calendar, and the day of a date. Days are counted
from the first of January 1970. The calendar repeats itself every four hundred years. The years
of such a cycle start in March, so that the day which only some years have is the last one of its
year, and the lengths of the months before it follow one linear formula.
-/

namespace PayKit.Calendar

theorem tdiv_of_shifted (value : ℤ) {divisor : ℤ} (hDivisor : 0 < divisor) :
    (if 0 ≤ value then value else value - (divisor - 1)).tdiv divisor = value / divisor := by
  split
  · rename_i hValue
    exact Int.tdiv_eq_ediv_of_nonneg hValue
  · rename_i hValue
    have hNegative : value - (divisor - 1) = -(divisor - 1 - value) := by omega
    rw [hNegative, Int.neg_tdiv, Int.tdiv_eq_ediv_of_nonneg (by omega)]
    have hSplit := Int.mul_ediv_add_emod value divisor
    have hRest := Int.emod_nonneg value hDivisor.ne'
    have hBound := Int.emod_lt_of_pos value hDivisor
    have hQuotient := (Int.ediv_emod_unique (a := divisor - 1 - value) (q := -(value / divisor))
      (r := divisor - 1 - value % divisor) hDivisor).mpr ⟨by rw [Int.mul_neg]; omega, by omega,
        by omega⟩
    rw [hQuotient.1, Int.neg_neg]

/-! ### The years of a cycle -/

/-- The years that are over on a day of a cycle. -/
def yearOfEra (dayOfEra : ℕ) : ℕ :=
  (dayOfEra - dayOfEra / 1460 + dayOfEra / 36524 - dayOfEra / 146096) / 365

/-- The days of a cycle before a year of it. -/
def daysBeforeYear (year : ℕ) : ℕ :=
  365 * year + year / 4 - year / 100

theorem yearOfEra_lt {dayOfEra : ℕ} (hDay : dayOfEra < 146097) : yearOfEra dayOfEra < 400 := by
  unfold yearOfEra
  omega

theorem yearOfEra_monotone : Monotone yearOfEra := by
  apply monotone_nat_of_le_succ
  intro day
  apply Nat.div_le_div_right
  omega

theorem yearOfEra_ends : ∀ year < 400, yearOfEra (daysBeforeYear year) = year ∧
    yearOfEra (daysBeforeYear (year + 1) - 1) = year := by
  decide +kernel

theorem daysBeforeYear_le {dayOfEra : ℕ} (hDay : dayOfEra < 146097) :
    daysBeforeYear (yearOfEra dayOfEra) ≤ dayOfEra := by
  have hYear := yearOfEra_lt hDay
  by_contra hBefore
  cases hFirst : yearOfEra dayOfEra with
  | zero =>
      rw [hFirst] at hBefore
      exact hBefore (Nat.zero_le _)
  | succ year =>
      rw [hFirst] at hBefore hYear
      have hLast := yearOfEra_monotone
        (show dayOfEra ≤ daysBeforeYear (year + 1) - 1 by omega)
      rw [(yearOfEra_ends year (by omega)).2, hFirst] at hLast
      omega

theorem dayOfYear_lt {dayOfEra : ℕ} (hDay : dayOfEra < 146097) :
    dayOfEra - daysBeforeYear (yearOfEra dayOfEra) < 366 := by
  have hYear := yearOfEra_lt hDay
  by_cases hLast : yearOfEra dayOfEra = 399
  · rw [hLast, daysBeforeYear]
    omega
  · have hNext : dayOfEra < daysBeforeYear (yearOfEra dayOfEra + 1) := by
      by_contra hAfter
      have hMonotone := yearOfEra_monotone (Nat.le_of_not_lt hAfter)
      rw [(yearOfEra_ends (yearOfEra dayOfEra + 1) (by omega)).1] at hMonotone
      omega
    unfold daysBeforeYear at hNext ⊢
    omega

/-! ### The months of a year -/

/-- The months that are over on a day of a year. -/
def monthOfYear (dayOfYear : ℕ) : ℕ :=
  (5 * dayOfYear + 2) / 153

/-- The days of a year before a month of it. -/
def daysBeforeMonth (month : ℕ) : ℕ :=
  (153 * month + 2) / 5

theorem daysBeforeMonth_le (dayOfYear : ℕ) :
    daysBeforeMonth (monthOfYear dayOfYear) ≤ dayOfYear := by
  unfold daysBeforeMonth monthOfYear
  omega

theorem dayOfMonth_lt (dayOfYear : ℕ) :
    dayOfYear - daysBeforeMonth (monthOfYear dayOfYear) < 31 := by
  unfold daysBeforeMonth monthOfYear
  omega

theorem monthOfYear_lt {dayOfYear : ℕ} (hDay : dayOfYear < 366) : monthOfYear dayOfYear < 12 := by
  unfold monthOfYear
  omega

/-! ### Dates -/

structure Civil where
  year : ℤ
  month : ℕ
  day : ℕ
deriving DecidableEq

def Civil.ofDays (days : ℤ) : Civil :=
  let z := days + 719468
  let era := (if 0 ≤ z then z else z - 146096).tdiv 146097
  let doe := (z - era * 146097).toNat
  let yoe := yearOfEra doe
  let y := (yoe : ℤ) + era * 400
  let doy := doe - daysBeforeYear yoe
  let mp := monthOfYear doy
  let mo := if mp < 10 then mp + 3 else mp - 9
  ⟨if mo ≤ 2 then y + 1 else y, mo, doy - daysBeforeMonth mp + 1⟩

theorem eraOf_eq (z : ℤ) : (if 0 ≤ z then z else z - 146096).tdiv 146097 = z / 146097 :=
  tdiv_of_shifted z (show (0 : ℤ) < 146097 by decide)

theorem dayOfEra_lt (z : ℤ) : (z - z / 146097 * 146097).toNat < 146097 := by
  omega

theorem Civil.ofDays_fields (days : ℤ) : (ofDays days).month ≤ 12 ∧ (ofDays days).day ≤ 31 := by
  unfold ofDays
  extract_lets z era doe yoe y doy mp mo
  have hDoe : doe < 146097 := by
    simp only [doe, era, eraOf_eq]
    exact dayOfEra_lt z
  have hMonth : mp < 12 := monthOfYear_lt (dayOfYear_lt hDoe)
  have hDay : doy - daysBeforeMonth mp < 31 := dayOfMonth_lt doy
  refine ⟨?_, hDay⟩
  show mo ≤ 12
  simp only [mo]
  split <;> omega

def daysOf (year month day : ℤ) : ℤ :=
  let y := year - if month ≤ 2 then 1 else 0
  let mp := if 2 < month then month - 3 else month + 9
  let era := (if 0 ≤ y then y else y - 399).tdiv 400
  let yoe := y - era * 400
  let doy := (153 * mp + 2).tdiv 5 + day - 1
  let doe := yoe * 365 + yoe.tdiv 4 - yoe.tdiv 100 + doy
  era * 146097 + doe - 719468

theorem daysOf_eq {era : ℤ} {year month day : ℕ} (hYear : year < 400) (hMonth : month < 12) :
    let mo := if month < 10 then month + 3 else month - 9
    daysOf (if mo ≤ 2 then (year : ℤ) + era * 400 + 1 else year + era * 400) mo day =
      era * 146097 + daysBeforeYear year + daysBeforeMonth month + day - 1 - 719468 := by
  intro mo
  have hStart : (if mo ≤ 2 then (year : ℤ) + era * 400 + 1 else year + era * 400) -
      (if (mo : ℤ) ≤ 2 then 1 else 0) = year + era * 400 := by
    by_cases hEarly : mo ≤ 2
    · rw [if_pos hEarly, if_pos (by omega)]
      omega
    · rw [if_neg hEarly, if_neg (by omega)]
      omega
  have hPosition : (if 2 < (mo : ℤ) then (mo : ℤ) - 3 else mo + 9) = month := by
    simp only [mo]
    split <;> split <;> omega
  have hCycle : (if 0 ≤ (year : ℤ) + era * 400 then (year : ℤ) + era * 400
      else year + era * 400 - 399).tdiv 400 = era := by
    rw [show (if 0 ≤ (year : ℤ) + era * 400 then (year : ℤ) + era * 400
      else year + era * 400 - 399).tdiv 400 = ((year : ℤ) + era * 400) / 400 from
        tdiv_of_shifted _ (show (0 : ℤ) < 400 by decide)]
    omega
  simp only [daysOf, hStart, hPosition, hCycle]
  rw [Int.tdiv_eq_ediv_of_nonneg (by omega), Int.tdiv_eq_ediv_of_nonneg (by omega),
    Int.tdiv_eq_ediv_of_nonneg (by omega)]
  unfold daysBeforeYear daysBeforeMonth
  omega

theorem daysOf_ofDays (days : ℤ) :
    daysOf (Civil.ofDays days).year (Civil.ofDays days).month (Civil.ofDays days).day = days := by
  unfold Civil.ofDays
  extract_lets z era doe yoe y doy mp mo
  have hEra : era = z / 146097 := eraOf_eq z
  have hDoe : doe < 146097 := by
    simp only [doe, hEra]
    exact dayOfEra_lt z
  have hYear : yoe < 400 := yearOfEra_lt hDoe
  have hMonth : mp < 12 := monthOfYear_lt (dayOfYear_lt hDoe)
  have hBeforeYear : daysBeforeYear yoe ≤ doe := daysBeforeYear_le hDoe
  have hBeforeMonth : daysBeforeMonth mp ≤ doy := daysBeforeMonth_le doy
  have hDays : (doe : ℤ) = days + 719468 - era * 146097 := by
    simp only [doe, hEra, z]
    omega
  have hInYear : doy + daysBeforeYear yoe = doe := Nat.sub_add_cancel hBeforeYear
  have hInMonth : (doy - daysBeforeMonth mp) + daysBeforeMonth mp = doy :=
    Nat.sub_add_cancel hBeforeMonth
  calc daysOf (if mo ≤ 2 then y + 1 else y) mo ((doy - daysBeforeMonth mp + 1 : ℕ) : ℤ)
      = era * 146097 + daysBeforeYear yoe + daysBeforeMonth mp +
          ((doy - daysBeforeMonth mp + 1 : ℕ) : ℤ) - 1 - 719468 := daysOf_eq hYear hMonth
    _ = era * 146097 + doe - 719468 := by omega
    _ = days := by omega

end PayKit.Calendar
