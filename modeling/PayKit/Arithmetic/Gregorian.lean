import Mathlib.Tactic.IntervalCases
import PayKit.Arithmetic.Calendar

/-!
# The rules of the Gregorian calendar

The calendar by its rules: which years have a leap day, how long a month is, and which date comes
after a date. The date of a day is the one that is reached from the first of January 1970 by going
from date to date, forwards or backwards. `Civil.ofDays` and `daysOf` compute it and its inverse.
-/

namespace PayKit.Calendar

/-! ### The rules -/

def IsLeap (year : ℤ) : Prop :=
  year % 4 = 0 ∧ (year % 100 ≠ 0 ∨ year % 400 = 0)

instance (year : ℤ) : Decidable (IsLeap year) :=
  inferInstanceAs (Decidable (_ ∧ _))

def daysInMonth (year : ℤ) (month : ℕ) : ℕ :=
  if month = 2 then if IsLeap year then 29 else 28
  else if month = 4 ∨ month = 6 ∨ month = 9 ∨ month = 11 then 30
  else 31

namespace Civil

variable (date : Civil)

def Valid : Prop :=
  1 ≤ date.month ∧ date.month ≤ 12 ∧ 1 ≤ date.day ∧ date.day ≤ daysInMonth date.year date.month

instance : Decidable date.Valid :=
  inferInstanceAs (Decidable (_ ∧ _))

def next : Civil :=
  if date.day < daysInMonth date.year date.month then ⟨date.year, date.month, date.day + 1⟩
  else if date.month < 12 then ⟨date.year, date.month + 1, 1⟩
  else ⟨date.year + 1, 1, 1⟩

end Civil

/-- The day, counted from the first of January 1970, has the date. -/
inductive IsDate : ℤ → Civil → Prop where
  | epoch : IsDate 0 ⟨1970, 1, 1⟩
  | next {day : ℤ} {date : Civil} (hDate : IsDate day date) : IsDate (day + 1) date.next
  | previous {day : ℤ} {date : Civil} (hValid : date.Valid) (hDate : IsDate (day + 1) date.next) :
      IsDate day date

/-! ### The day of a date -/

theorem daysOf_closed (year month day : ℤ) :
    let y := year - if month ≤ 2 then 1 else 0
    let mp := if 2 < month then month - 3 else month + 9
    daysOf year month day =
      365 * y + y / 4 - y / 100 + y / 400 + (153 * mp + 2).tdiv 5 + day - 1 - 719468 := by
  intro y mp
  have hEra : (if 0 ≤ y then y else y - 399).tdiv 400 = y / 400 :=
    tdiv_of_shifted y (show (0 : ℤ) < 400 by decide)
  have hRest : 0 ≤ y - y / 400 * 400 := by omega
  have hDays : daysOf year month day =
      y / 400 * 146097 + ((y - y / 400 * 400) * 365 + (y - y / 400 * 400).tdiv 4 -
        (y - y / 400 * 400).tdiv 100 + ((153 * mp + 2).tdiv 5 + day - 1)) - 719468 := by
    rw [← hEra]
    rfl
  rw [hDays, Int.tdiv_eq_ediv_of_nonneg hRest, Int.tdiv_eq_ediv_of_nonneg hRest]
  generalize (153 * mp + 2).tdiv 5 = before
  omega

theorem daysOf_next {date : Civil} (hValid : date.Valid) :
    daysOf date.next.year date.next.month date.next.day =
      daysOf date.year date.month date.day + 1 := by
  rcases date with ⟨year, month, day⟩
  rcases hValid with ⟨hFirst, hLast, hDay, hInMonth⟩
  simp only at hFirst hLast hDay hInMonth
  simp only [Civil.next]
  split
  · simp only [daysOf_closed]
    omega
  · rename_i hMonthOver
    have hEnd : day = daysInMonth year month := by omega
    subst hEnd
    by_cases hMarch : 2 < month
    · by_cases hDecember : month < 12
      · rw [if_pos hDecember]
        simp only [daysOf_closed, daysInMonth]
        interval_cases month <;> simp <;> omega
      · obtain rfl : month = 12 := by omega
        simp only [daysOf_closed, daysInMonth]
        simp
        omega
    · rw [if_pos (by omega)]
      simp only [daysOf_closed, daysInMonth]
      by_cases hJanuary : month = 1
      · subst hJanuary
        simp
        omega
      · obtain rfl : month = 2 := by omega
        by_cases hLeap : IsLeap year
        · rw [if_pos hLeap]
          unfold IsLeap at hLeap
          simp
          omega
        · rw [if_neg hLeap]
          unfold IsLeap at hLeap
          simp
          omega

/-! ### The date of a day -/

theorem lt_daysBeforeYear {dayOfEra : ℕ} (hYear : yearOfEra dayOfEra < 399) :
    dayOfEra < daysBeforeYear (yearOfEra dayOfEra + 1) := by
  by_contra hAfter
  have hMonotone := yearOfEra_monotone (Nat.le_of_not_lt hAfter)
  rw [(yearOfEra_ends (yearOfEra dayOfEra + 1) (by omega)).1] at hMonotone
  omega

/-- The date of a day of a year that starts in March. -/
def Civil.ofDayOfYear (start : ℤ) (dayOfYear : ℕ) : Civil :=
  let mp := monthOfYear dayOfYear
  let mo := if mp < 10 then mp + 3 else mp - 9
  ⟨if mo ≤ 2 then start + 1 else start, mo, dayOfYear - daysBeforeMonth mp + 1⟩

/-- A year that starts in March has the leap day of the year that it ends in. -/
def InYear (start : ℤ) (dayOfYear : ℕ) : Prop :=
  dayOfYear < 366 ∧ (dayOfYear = 365 → IsLeap (start + 1))

theorem daysBeforeMonth_bounds {mp dayOfYear : ℕ} (hMonth : mp = monthOfYear dayOfYear) :
    daysBeforeMonth mp ≤ dayOfYear ∧ dayOfYear < daysBeforeMonth (mp + 1) := by
  unfold daysBeforeMonth monthOfYear at *
  omega

theorem daysInMonth_of_ne {year : ℤ} {month : ℕ} (hMonth : month ≠ 2) :
    daysInMonth year month =
      if month = 4 ∨ month = 6 ∨ month = 9 ∨ month = 11 then 30 else 31 :=
  if_neg hMonth

theorem Civil.ofDayOfYear_valid {start : ℤ} {dayOfYear : ℕ} (hDay : InYear start dayOfYear) :
    (ofDayOfYear start dayOfYear).Valid := by
  have hMonth : monthOfYear dayOfYear < 12 := monthOfYear_lt hDay.1
  rcases daysBeforeMonth_bounds (show monthOfYear dayOfYear = monthOfYear dayOfYear from rfl)
    with ⟨hFrom, hTo⟩
  by_cases hFebruary : monthOfYear dayOfYear = 11
  · have hLong := hDay.1
    simp [ofDayOfYear, Valid, daysInMonth, hFebruary, daysBeforeMonth] at hFrom ⊢
    split
    · omega
    · rename_i hYear
      have hShort : dayOfYear ≠ 365 := fun hLast => hYear (hDay.2 hLast)
      omega
  · simp only [ofDayOfYear, Valid]
    rw [daysInMonth_of_ne (by split <;> omega)]
    generalize monthOfYear dayOfYear = mp at hMonth hFrom hTo hFebruary ⊢
    interval_cases mp <;> simp [daysBeforeMonth] at hFebruary hFrom hTo ⊢ <;> omega

/-- The days before a year that starts in March. -/
def yearStart (start : ℤ) : ℤ :=
  365 * start + start / 4 - start / 100 + start / 400 - 719468

theorem yearStart_le {first second : ℤ} (hOrder : first ≤ second) :
    yearStart first ≤ yearStart second := by
  unfold yearStart
  omega

theorem InYear.lt_yearStart {start : ℤ} {dayOfYear : ℕ} (hDay : InYear start dayOfYear) :
    yearStart start + dayOfYear < yearStart (start + 1) := by
  unfold InYear IsLeap at hDay
  unfold yearStart
  omega

theorem daysOf_ofDayOfYear (start : ℤ) {dayOfYear : ℕ} (hDay : dayOfYear < 366) :
    daysOf (Civil.ofDayOfYear start dayOfYear).year (Civil.ofDayOfYear start dayOfYear).month
        (Civil.ofDayOfYear start dayOfYear).day =
      yearStart start + dayOfYear := by
  have hMonth : monthOfYear dayOfYear < 12 := monthOfYear_lt hDay
  rcases daysBeforeMonth_bounds (show monthOfYear dayOfYear = monthOfYear dayOfYear from rfl)
    with ⟨hFrom, -⟩
  simp only [Civil.ofDayOfYear, daysOf_closed, yearStart]
  generalize monthOfYear dayOfYear = mp at hMonth hFrom ⊢
  interval_cases mp <;> simp only [daysBeforeMonth, Nat.reduceMul, Nat.reduceAdd, Nat.reduceDiv,
    Nat.reduceSub, Nat.reduceLT, Nat.reduceLeDiff, Int.reduceLE, Int.reduceLT, Int.reduceSub,
    Int.reduceMul, Int.reduceAdd, Int.reduceTDiv, ↓reduceIte, Nat.cast_ofNat,
    Nat.cast_one, Nat.cast_add, sub_self, lt_self_iff_false, le_refl, add_sub_cancel_right,
    zero_le, Nat.not_ofNat_lt_one, Nat.one_le_ofNat] at hFrom ⊢ <;> omega

theorem leap_of_long {dayOfEra year : ℕ} (hNext : dayOfEra < daysBeforeYear (year + 1))
    (hLong : dayOfEra - daysBeforeYear year = 365) :
    (year + 1) % 4 = 0 ∧ (year + 1) % 100 ≠ 0 := by
  unfold daysBeforeYear at hNext hLong
  omega

theorem Civil.ofDays_valid (days : ℤ) : (ofDays days).Valid := by
  unfold ofDays
  extract_lets z era doe yoe y doy mp mo
  have hDoe : doe < 146097 := by
    simp only [doe, era, eraOf_eq]
    exact dayOfEra_lt z
  have hYear : yoe < 400 := yearOfEra_lt hDoe
  refine ofDayOfYear_valid ⟨dayOfYear_lt hDoe, ?_⟩
  intro hLast
  by_cases hFinal : yoe = 399
  · simp only [IsLeap, y, hFinal]
    omega
  · have hNext : doe < daysBeforeYear (yoe + 1) :=
      lt_daysBeforeYear (show yoe < 399 by omega)
    have hLong : doe - daysBeforeYear yoe = 365 := hLast
    have hLeap := leap_of_long hNext hLong
    simp only [IsLeap, y]
    omega

theorem Civil.Valid.exists_dayOfYear {date : Civil} (hValid : date.Valid) :
    ∃ start dayOfYear, InYear start dayOfYear ∧ date = ofDayOfYear start dayOfYear := by
  rcases date with ⟨year, month, day⟩
  rcases hValid with ⟨hFirst, hLast, hDay, hInMonth⟩
  simp only [daysInMonth] at hFirst hLast hDay hInMonth
  let mp := if 2 < month then month - 3 else month + 9
  have hTo : daysBeforeMonth mp + (day - 1) < daysBeforeMonth (mp + 1) ∧
      daysBeforeMonth mp + (day - 1) < 366 := by
    simp only [mp]
    by_cases hLeap : IsLeap year
    · rw [if_pos hLeap] at hInMonth
      interval_cases month <;> simp [daysBeforeMonth] at hInMonth ⊢ <;> omega
    · rw [if_neg hLeap] at hInMonth
      interval_cases month <;> simp [daysBeforeMonth] at hInMonth ⊢ <;> omega
  refine ⟨year - if month ≤ 2 then 1 else 0, daysBeforeMonth mp + (day - 1), ⟨hTo.2, ?_⟩, ?_⟩
  · intro hEnd
    simp only [mp] at hEnd
    by_cases hLeap : IsLeap year
    · rw [if_pos hLeap] at hInMonth
      obtain rfl : month = 2 := by
        interval_cases month <;> simp [daysBeforeMonth] at hInMonth hEnd ⊢ <;> omega
      simpa using hLeap
    · rw [if_neg hLeap] at hInMonth
      interval_cases month <;> simp [daysBeforeMonth] at hInMonth hEnd ⊢ <;> omega
  · have hMonth : monthOfYear (daysBeforeMonth mp + (day - 1)) = mp := by
      have hFrom : daysBeforeMonth mp ≤ daysBeforeMonth mp + (day - 1) := Nat.le_add_right _ _
      have hBound : mp < 12 := by
        simp only [mp]
        split <;> omega
      generalize daysBeforeMonth mp + (day - 1) = dayOfYear at hFrom hTo ⊢
      unfold daysBeforeMonth at hFrom hTo
      unfold monthOfYear
      omega
    simp only [ofDayOfYear, hMonth, mk.injEq, mp]
    interval_cases month <;> simp <;> omega

theorem Civil.Valid.eq_of_daysOf {left right : Civil} (hLeft : left.Valid) (hRight : right.Valid)
    (hSame : daysOf left.year left.month left.day = daysOf right.year right.month right.day) :
    left = right := by
  rcases hLeft.exists_dayOfYear with ⟨first, day, hFirst, rfl⟩
  rcases hRight.exists_dayOfYear with ⟨second, other, hSecond, rfl⟩
  rw [daysOf_ofDayOfYear first hFirst.1, daysOf_ofDayOfYear second hSecond.1] at hSame
  have hFirstEnd := hFirst.lt_yearStart
  have hSecondEnd := hSecond.lt_yearStart
  obtain rfl : first = second := by
    rcases Int.lt_trichotomy first second with hLess | hEqual | hLess
    · have hStart := yearStart_le (show first + 1 ≤ second from hLess)
      omega
    · exact hEqual
    · have hStart := yearStart_le (show second + 1 ≤ first from hLess)
      omega
  obtain rfl : day = other := by omega
  rfl

theorem Civil.Valid.ofDays_daysOf {date : Civil} (hValid : date.Valid) :
    Civil.ofDays (daysOf date.year date.month date.day) = date :=
  (ofDays_valid _).eq_of_daysOf hValid (Calendar.daysOf_ofDays _)

/-! ### What is computed follows the rules -/

theorem Civil.Valid.next_valid {date : Civil} (hValid : date.Valid) :
    date.next.Valid := by
  rcases date with ⟨year, month, day⟩
  rcases hValid with ⟨hFirst, hLast, hDay, hInMonth⟩
  simp only at hFirst hLast hDay hInMonth
  unfold Civil.next Civil.Valid
  split
  · exact ⟨hFirst, hLast, Nat.succ_pos day, by assumption⟩
  · split
    · refine ⟨Nat.succ_pos month, by assumption, le_rfl, ?_⟩
      simp only [daysInMonth]
      split <;> split <;> omega
    · exact ⟨le_rfl, Nat.succ_le_succ (Nat.zero_le 11), le_rfl, by simp [daysInMonth]⟩

theorem Civil.ofDays_succ (day : ℤ) : Civil.ofDays (day + 1) = (Civil.ofDays day).next := by
  have hValid := ofDays_valid day
  rw [← hValid.next_valid.ofDays_daysOf, daysOf_next hValid, Calendar.daysOf_ofDays]

theorem isDate_iff {day : ℤ} {date : Civil} : IsDate day date ↔ date = Civil.ofDays day := by
  constructor
  · intro hDate
    induction hDate with
    | epoch => decide
    | next _ hInduction => rw [Civil.ofDays_succ, hInduction]
    | @previous day date hValid _ hInduction =>
        have hDay : daysOf date.year date.month date.day = day := by
          have hNext := daysOf_next hValid
          rw [hInduction, daysOf_ofDays] at hNext
          omega
        rw [← hDay, hValid.ofDays_daysOf]
  · rintro rfl
    induction day with
    | zero => exact .epoch
    | succ day hInduction =>
        rw [Civil.ofDays_succ]
        exact .next hInduction
    | pred day hInduction =>
        refine .previous (Civil.ofDays_valid _) ?_
        rw [← Civil.ofDays_succ, Int.sub_add_cancel]
        exact hInduction

theorem IsDate.valid {day : ℤ} {date : Civil} (hDate : IsDate day date) : date.Valid := by
  rw [isDate_iff.mp hDate]
  exact Civil.ofDays_valid day

theorem IsDate.daysOf_eq {day : ℤ} {date : Civil} (hDate : IsDate day date) :
    daysOf date.year date.month date.day = day := by
  rw [isDate_iff.mp hDate]
  exact daysOf_ofDays day

theorem Civil.Valid.isDate {date : Civil} (hValid : date.Valid) :
    IsDate (daysOf date.year date.month date.day) date :=
  isDate_iff.mpr hValid.ofDays_daysOf.symm

end PayKit.Calendar
