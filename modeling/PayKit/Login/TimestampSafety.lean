import PayKit.Arithmetic.Gregorian
import PayKit.Control.Faulting
import PayKit.Login.Timestamp

/-!
# How sign-in timestamps are computed

`parse_rfc3339_z` of `x402/siwx.rs` with its arithmetic in the widths of its machine integers: the
numbers of the text are bounded, then the days are counted in 32 bits and the seconds in 64. The
year of a text is not bounded by anything but its type, and a day of the month is only compared
with 31.

An operation whose result does not fit is a fault here. `parseRfc3339Z` has the values that such
operations wrap around to.
-/

namespace PayKit.Login

open Calendar Control Control.Faulting Machine X402

/-! ### The numbers of a timestamp -/

structure TimestampFields where
  year : ℤ
  month : ℕ
  day : ℕ
  hour : ℕ
  minute : ℕ
  second : ℕ
deriving DecidableEq

namespace TimestampFields

variable (fields : TimestampFields)

def date : Civil :=
  ⟨fields.year, fields.month, fields.day⟩

def secondOfDay : ℕ :=
  fields.hour * 3600 + fields.minute * 60 + fields.second

/-- The bounds that are checked before anything is computed. -/
def Bounded : Prop :=
  ¬(¬(1 ≤ fields.month ∧ fields.month ≤ 12) ∨ ¬(1 ≤ fields.day ∧ fields.day ≤ 31) ∨
    23 < fields.hour ∨ 59 < fields.minute ∨ 60 < fields.second)

instance : Decidable fields.Bounded :=
  inferInstanceAs (Decidable (¬_))

/-- The fields denote the instant, in nanoseconds from the first of January 1970. -/
def Denotes (instant : ℤ) : Prop :=
  ∃ day, IsDate day fields.date ∧ instant = (day * 86400 + fields.secondOfDay) * 1000000000

end TimestampFields

/-- What `parse_rfc3339_z` computes with. -/
def timestampFields (value : String) : Except Error TimestampFields := do
  let text := value.toList
  refuseIf (text.getLast? ≠ some 'Z') invalidTimestamp
  let (date, time) ← okOr (splitOnce text.dropLast 'T') invalidTimestamp
  let [year, month, day] := date.splitOn '-' | throw invalidTimestamp
  let year ← okOr (i32Of (String.ofList year)) invalidTimestamp
  let month ← okOr (u32Of (String.ofList month)) invalidTimestamp
  let day ← okOr (u32Of (String.ofList day)) invalidTimestamp
  let time := ((splitOnce time '.').map Prod.fst).getD time
  let [hour, minute, second] := time.splitOn ':' | throw invalidTimestamp
  let hour ← okOr (u32Of (String.ofList hour)) invalidTimestamp
  let minute ← okOr (u32Of (String.ofList minute)) invalidTimestamp
  let second ← okOr (u32Of (String.ofList second)) invalidTimestamp
  let fields : TimestampFields := ⟨year, month, day, hour, minute, second⟩
  refuseIf (¬fields.Bounded) invalidTimestamp
  return fields

/-! ### The widths -/

def i32Max : ℤ := 2 ^ 31 - 1

def inI32 (value : ℤ) : Faulting Error ℤ :=
  orFault (if -2 ^ 31 ≤ value ∧ value ≤ i32Max then some value else none)

def inU32 (value : ℕ) : Faulting Error ℕ :=
  orFault (if value < 2 ^ 32 then some value else none)

def inI64 (value : ℤ) : Faulting Error ℤ :=
  orFault (if i64Min ≤ value ∧ value ≤ i64Max then some value else none)

/-- `checked_mul` and `checked_add`. -/
def checkedI64 (value : ℤ) : Faulting Error ℤ :=
  faultless (okOr (if i64Min ≤ value ∧ value ≤ i64Max then some value else none) invalidTimestamp)

/-- The year whose quotient by 400 rounds down. -/
def roundedYear (year : ℤ) : Faulting Error ℤ :=
  if 0 ≤ year then .ok year else inI32 (year - 399)

/-- `days_from_civil`, one operation after the other. -/
def daysFromCivilIn32 (year : ℤ) (month day : ℕ) : Faulting Error ℤ := do
  let year ← inI32 (year - if month ≤ 2 then 1 else 0)
  let rounded ← roundedYear year
  let era := rounded.tdiv 400
  let eraYear ← inI32 (era * 400)
  let yearOfEra ← inI32 (year - eraYear)
  let position ← inI32 (month + if 2 < month then -3 else 9)
  let scaled ← inI32 (153 * position)
  let shifted ← inI32 (scaled + 2)
  let fromMonth ← inI32 (shifted.tdiv 5 + day)
  let dayOfYear ← inI32 (fromMonth - 1)
  let plainDays ← inI32 (yearOfEra * 365)
  let leapDays ← inI32 (plainDays + yearOfEra.tdiv 4)
  let yearDays ← inI32 (leapDays - yearOfEra.tdiv 100)
  let dayOfEra ← inI32 (yearDays + dayOfYear)
  let eraDays ← inI32 (era * 146097)
  let days ← inI32 (eraDays + dayOfEra)
  inI32 (days - 719468)

/-- `parse_rfc3339_z`, after the numbers are read. A time of the system has its seconds in 64
bits. -/
def instantOf (fields : TimestampFields) : Faulting Error ℤ := do
  let days ← daysFromCivilIn32 fields.year fields.month fields.day
  let hours ← inU32 (fields.hour * 3600)
  let minutes ← inU32 (fields.minute * 60)
  let minutes ← inU32 (hours + minutes)
  let secondOfDay ← inU32 (minutes + fields.second)
  let daySeconds ← checkedI64 (days * 86400)
  let seconds ← checkedI64 (daySeconds + secondOfDay)
  let seconds ← inI64 seconds
  return seconds * 1000000000

/-- `parse_rfc3339_z`, with its faults. -/
def parseRfc3339ZIn (value : String) : Faulting Error ℤ := do
  let fields ← faultless (timestampFields value)
  instantOf fields

/-- The timestamp is refused, or the instant that it denotes is computed without a fault. -/
def ParsesSafely (value : String) : Prop :=
  parseRfc3339ZIn value ≠ fault ∧
    ∀ instant, parseRfc3339ZIn value = .ok instant →
      ∃ fields, timestampFields value = .ok fields ∧ fields.Denotes instant

/-! ### Reading -/

theorem map_bind {Failure First Second Third : Type} {first : Except Failure First}
    {rest : First → Except Failure Second} {change : Second → Third} :
    (first >>= rest).map change = first >>= fun value => (rest value).map change := by
  cases first <;> rfl

theorem parseRfc3339Z_eq (value : String) :
    parseRfc3339Z value = (timestampFields value).map fun fields =>
      (daysFromCivil fields.year fields.month fields.day * 86400 + fields.secondOfDay) *
        1000000000 := by
  unfold parseRfc3339Z timestampFields
  simp only [map_bind]
  apply bind_congr
  intro _
  apply bind_congr
  rintro ⟨date, time⟩
  generalize date.splitOn '-' = dateParts
  match dateParts with
  | [] => rfl
  | [_] => rfl
  | [_, _] => rfl
  | _ :: _ :: _ :: _ :: _ => rfl
  | [year, month, day] =>
      simp only [map_bind]
      apply bind_congr
      intro year
      apply bind_congr
      intro month
      apply bind_congr
      intro day
      generalize (((splitOnce time '.').map Prod.fst).getD time).splitOn ':' = timeParts
      match timeParts with
      | [] => rfl
      | [_] => rfl
      | [_, _] => rfl
      | _ :: _ :: _ :: _ :: _ => rfl
      | [hour, minute, second] =>
          simp only [map_bind]
          apply bind_congr
          intro hour
          apply bind_congr
          intro minute
          apply bind_congr
          intro second
          have hSame : refuseIf (¬(1 ≤ month ∧ month ≤ 12) ∨ ¬(1 ≤ day ∧ day ≤ 31) ∨
              23 < hour ∨ 59 < minute ∨ 60 < second) invalidTimestamp =
              refuseIf (¬(⟨year, month, day, hour, minute, second⟩ :
                TimestampFields).Bounded) invalidTimestamp :=
            refuseIf_congr (by rw [TimestampFields.Bounded, not_not])
          rw [hSame]
          rfl

theorem not_mem_of_mem_splitOn {mark : Char} {text piece : List Char}
    (hPiece : piece ∈ text.splitOn mark) : mark ∉ piece := by
  induction text generalizing piece with
  | nil =>
      rw [List.splitOn_nil, List.mem_singleton] at hPiece
      rw [hPiece]
      exact List.not_mem_nil
  | cons char text hInduction =>
      rw [List.splitOn_cons_eq_if_modifyHead] at hPiece
      split at hPiece
      · rcases List.mem_cons.mp hPiece with rfl | hRest
        · exact List.not_mem_nil
        · exact hInduction hRest
      · rename_i hOther
        cases hSplit : text.splitOn mark with
        | nil => exact absurd hSplit (List.splitOn_ne_nil _ _)
        | cons first rest =>
            rw [hSplit, List.modifyHead_cons] at hPiece
            rcases List.mem_cons.mp hPiece with rfl | hRest
            · have hFirst : mark ∉ first := hInduction (by rw [hSplit]; exact List.mem_cons_self)
              intro hMark
              rcases List.mem_cons.mp hMark with rfl | hInside
              · exact hOther BEq.rfl
              · exact hFirst hInside
            · exact hInduction (by rw [hSplit]; exact List.mem_cons_of_mem _ hRest)

theorem i32Of_nonneg {chars : List Char} {value : ℤ} (hPlain : '-' ∉ chars)
    (hRead : i32Of (String.ofList chars) = some value) : 0 ≤ value ∧ value ≤ i32Max := by
  have hPositive : ∀ digits : List Char,
      (let number := 1 * (Nat.ofDigitChars 10 digits 0 : ℤ)
        if digits ≠ [] ∧ digits.all Char.isDigit ∧ -2 ^ 31 ≤ number ∧ number ≤ 2 ^ 31 - 1 then
          some number else none) = some value → 0 ≤ value ∧ value ≤ i32Max := by
    intro digits hNumber
    simp only [Option.ite_none_right_eq_some, Option.some.injEq] at hNumber
    rcases hNumber with ⟨⟨-, -, -, hGreatest⟩, rfl⟩
    exact ⟨by omega, hGreatest⟩
  unfold i32Of parseSigned at hRead
  rw [String.toList_ofList] at hRead
  split at hRead
  · simp at hPlain
  · exact hPositive _ hRead
  · exact hPositive _ hRead

theorem timestampFields_eq_ok {value : String} {fields : TimestampFields}
    (hRead : timestampFields value = .ok fields) :
    fields.Bounded ∧ 0 ≤ fields.year ∧ fields.year ≤ i32Max := by
  unfold timestampFields at hRead
  rcases bind_eq_ok.mp hRead with ⟨_, -, hRead⟩
  rcases bind_eq_ok.mp hRead with ⟨⟨date, time⟩, -, hRead⟩
  dsimp only at hRead
  split at hRead
  · rename_i year month day hParts
    rcases bind_eq_ok.mp hRead with ⟨number, hYear, hRead⟩
    rcases bind_eq_ok.mp hRead with ⟨_, -, hRead⟩
    rcases bind_eq_ok.mp hRead with ⟨_, -, hRead⟩
    split at hRead
    · rcases bind_eq_ok.mp hRead with ⟨_, -, hRead⟩
      rcases bind_eq_ok.mp hRead with ⟨_, -, hRead⟩
      rcases bind_eq_ok.mp hRead with ⟨_, -, hRead⟩
      rcases bind_eq_ok.mp hRead with ⟨_, hBounded, hRead⟩
      obtain rfl := Except.ok.inj hRead
      have hPlain : '-' ∉ year := by
        have hPiece : year ∈ date.splitOn '-' := by
          rw [hParts]
          exact List.mem_cons_self
        exact not_mem_of_mem_splitOn hPiece
      exact ⟨not_not.mp (refuseIf_eq_ok.mp hBounded), i32Of_nonneg hPlain (okOr_eq_ok.mp hYear)⟩
    · cases hRead
  · cases hRead

/-! ### The count of the days -/

theorem inI32_of_fits {value : ℤ} (hLeast : -2 ^ 31 ≤ value) (hGreatest : value ≤ i32Max) :
    inI32 value = .ok value := by
  rw [inI32, if_pos ⟨hLeast, hGreatest⟩]
  rfl

theorem inI32_of_over {value : ℤ} (hOver : i32Max < value) : inI32 value = fault := by
  rw [inI32, if_neg fun hFits => Int.not_le.mpr hOver hFits.2]
  rfl

/-- The last day that is counted without an overflow. -/
def lastDay : ℤ := 2146764179

theorem daysOf_era {year : ℤ} {month day : ℕ} (hMonth : 1 ≤ month ∧ month ≤ 12) {y mp yoe : ℤ}
    (hStart : y = year - if month ≤ 2 then 1 else 0)
    (hPosition : mp = month + if 2 < month then -3 else 9) (hYear : yoe = y - y / 400 * 400) :
    daysOf year month day =
      y / 400 * 146097 + (yoe * 365 + yoe / 4 - yoe / 100 + ((153 * mp + 2) / 5 + day - 1)) -
        719468 := by
  have hClosed := daysOf_closed year month day
  have hMonthly : (153 * (if 2 < (month : ℤ) then (month : ℤ) - 3 else month + 9) + 2).tdiv 5 =
      (153 * mp + 2) / 5 := by
    rw [Int.tdiv_eq_ediv_of_nonneg (by split <;> omega)]
    split at hPosition <;> split <;> omega
  have hYearly : year - (if (month : ℤ) ≤ 2 then 1 else 0) = y := by
    split at hStart <;> split <;> omega
  simp only [hMonthly, hYearly] at hClosed
  rw [hClosed]
  omega

/-- The days are counted exactly, until the count of those since March of the year 0 needs more
than 31 bits. -/
theorem daysFromCivilIn32_eq {year : ℤ} {month day : ℕ} (hYear : 0 ≤ year)
    (hLargest : year ≤ i32Max) (hMonth : 1 ≤ month ∧ month ≤ 12) (hDay : 1 ≤ day ∧ day ≤ 31) :
    daysFromCivilIn32 year month day =
      if daysOf year month day ≤ lastDay then .ok (daysOf year month day) else fault := by
  obtain ⟨y, hStart⟩ : ∃ y, y = year - if month ≤ 2 then 1 else 0 := ⟨_, rfl⟩
  obtain ⟨mp, hPosition⟩ : ∃ mp : ℤ, mp = month + if 2 < month then -3 else 9 := ⟨_, rfl⟩
  obtain ⟨yoe, hYearOfEra⟩ : ∃ yoe, yoe = y - y / 400 * 400 := ⟨_, rfl⟩
  have hLow : -1 ≤ y := by split at hStart <;> omega
  have hHigh : y ≤ i32Max := by split at hStart <;> omega
  have hFirst : 0 ≤ mp := by split at hPosition <;> omega
  have hLast : mp ≤ 11 := by split at hPosition <;> omega
  have hRounded : roundedYear y = .ok (if 0 ≤ y then y else y - 399) := by
    unfold roundedYear
    split
    · rfl
    · exact inI32_of_fits (by omega) (by omega)
  have hEra : (if 0 ≤ y then y else y - 399).tdiv 400 = y / 400 :=
    tdiv_of_shifted y (show (0 : ℤ) < 400 by decide)
  rw [daysOf_era hMonth hStart hPosition hYearOfEra]
  clear hYear hLargest
  have hMax : i32Max = 2147483647 := rfl
  rw [hMax] at hHigh
  unfold daysFromCivilIn32 lastDay
  simp only [← hStart, ← hPosition]
  rw [inI32_of_fits (by omega) (by omega), ok_bind, hRounded, ok_bind, hEra,
    inI32_of_fits (by omega) (by omega), ok_bind, ← hYearOfEra,
    inI32_of_fits (by omega) (by omega), ok_bind, inI32_of_fits (by omega) (by omega), ok_bind,
    inI32_of_fits (by omega) (by omega), ok_bind, inI32_of_fits (by omega) (by omega), ok_bind,
    Int.tdiv_eq_ediv_of_nonneg (by omega), inI32_of_fits (by omega) (by omega), ok_bind,
    inI32_of_fits (by omega) (by omega), ok_bind, inI32_of_fits (by omega) (by omega), ok_bind,
    Int.tdiv_eq_ediv_of_nonneg (by omega), inI32_of_fits (by omega) (by omega), ok_bind,
    Int.tdiv_eq_ediv_of_nonneg (by omega), inI32_of_fits (by omega) (by omega), ok_bind,
    inI32_of_fits (by omega) (by omega), ok_bind]
  by_cases hCycles : y / 400 ≤ 14699
  · rw [inI32_of_fits (by omega) (by omega), ok_bind]
    split
    · rw [inI32_of_fits (by omega) (by omega), ok_bind, inI32_of_fits (by omega) (by omega)]
    · rw [inI32_of_over (by omega)]
      rfl
  · rw [inI32_of_over (by omega), if_neg (by omega)]
    rfl

theorem wrapI32_of_fits {value : ℤ} (hLeast : -2 ^ 31 ≤ value) (hGreatest : value ≤ i32Max) :
    wrapI32 value = value := by
  unfold i32Max at hGreatest
  exact Int.bmod_eq_of_le (by omega) (by omega)

theorem daysFromCivil_eq {year : ℤ} {month day : ℕ} (hYear : 0 ≤ year) (hLargest : year ≤ i32Max)
    (hMonth : 1 ≤ month ∧ month ≤ 12) (hDay : 1 ≤ day ∧ day ≤ 31)
    (hCount : daysOf year month day ≤ lastDay) :
    daysFromCivil year month day = daysOf year month day := by
  obtain ⟨y, hStart⟩ : ∃ y, y = year - if month ≤ 2 then 1 else 0 := ⟨_, rfl⟩
  obtain ⟨mp, hPosition⟩ : ∃ mp : ℤ, mp = month + if 2 < month then -3 else 9 := ⟨_, rfl⟩
  obtain ⟨yoe, hYearOfEra⟩ : ∃ yoe, yoe = y - y / 400 * 400 := ⟨_, rfl⟩
  have hLow : -1 ≤ y := by split at hStart <;> omega
  have hHigh : y ≤ i32Max := by split at hStart <;> omega
  have hFirst : 0 ≤ mp := by split at hPosition <;> omega
  have hLast : mp ≤ 11 := by split at hPosition <;> omega
  have hRounded : (if 0 ≤ y then y else wrapI32 (y - 399)).tdiv 400 = y / 400 := by
    have hShift : wrapI32 (y - 399) = y - 399 := wrapI32_of_fits (by omega) (by omega)
    rw [hShift]
    exact tdiv_of_shifted y (show (0 : ℤ) < 400 by decide)
  have hMax : i32Max = 2147483647 := rfl
  rw [hMax] at hHigh
  rw [daysOf_era hMonth hStart hPosition hYearOfEra] at hCount ⊢
  unfold lastDay at hCount
  unfold daysFromCivil
  simp only [← hStart, ← hPosition]
  have hStays : wrapI32 y = y := wrapI32_of_fits (by omega) (by omega)
  have hInEra : wrapI32 (y - y / 400 * 400) = y - y / 400 * 400 :=
    wrapI32_of_fits (by omega) (by omega)
  rw [hStays, hRounded, hInEra, ← hYearOfEra,
    Int.tdiv_eq_ediv_of_nonneg (by omega), Int.tdiv_eq_ediv_of_nonneg (by omega),
    Int.tdiv_eq_ediv_of_nonneg (by omega)]
  exact wrapI32_of_fits (by omega) (by omega)

/-! ### The instant -/

theorem inU32_of_fits {value : ℕ} (hFits : value < 2 ^ 32) : inU32 value = .ok value := by
  rw [inU32, if_pos hFits]
  rfl

theorem inI64_of_fits {value : ℤ} (hLeast : i64Min ≤ value) (hGreatest : value ≤ i64Max) :
    inI64 value = .ok value := by
  rw [inI64, if_pos ⟨hLeast, hGreatest⟩]
  rfl

theorem checkedI64_of_fits {value : ℤ} (hLeast : i64Min ≤ value) (hGreatest : value ≤ i64Max) :
    checkedI64 value = .ok value := by
  rw [checkedI64, if_pos ⟨hLeast, hGreatest⟩]
  rfl

theorem daysOf_least {year : ℤ} {month : ℕ} (day : ℕ) (hYear : 0 ≤ year)
    (hMonth : 1 ≤ month ∧ month ≤ 12) : -719834 ≤ daysOf year month day := by
  obtain ⟨y, hStart⟩ : ∃ y, y = year - if month ≤ 2 then 1 else 0 := ⟨_, rfl⟩
  obtain ⟨mp, hPosition⟩ : ∃ mp : ℤ, mp = month + if 2 < month then -3 else 9 := ⟨_, rfl⟩
  have hLow : -1 ≤ y := by split at hStart <;> omega
  have hFirst : 0 ≤ mp := by split at hPosition <;> omega
  rw [daysOf_era hMonth hStart hPosition rfl]
  omega

theorem instantOf_eq {fields : TimestampFields} (hBounded : fields.Bounded)
    (hYear : 0 ≤ fields.year) (hLargest : fields.year ≤ i32Max) :
    instantOf fields =
      if daysOf fields.year fields.month fields.day ≤ lastDay then
        .ok ((daysOf fields.year fields.month fields.day * 86400 + fields.secondOfDay) * 1000000000)
      else fault := by
  simp only [TimestampFields.Bounded, not_or, not_not, Nat.not_lt] at hBounded
  rcases hBounded with ⟨hMonth, hDay, hHour, hMinute, hSecond⟩
  unfold instantOf
  rw [daysFromCivilIn32_eq hYear hLargest hMonth hDay]
  split
  · rename_i hCount
    have hLeast := daysOf_least fields.day hYear hMonth
    unfold lastDay at hCount
    rw [ok_bind, inU32_of_fits (by omega), ok_bind, inU32_of_fits (by omega), ok_bind,
      inU32_of_fits (by omega), ok_bind, inU32_of_fits (by omega), ok_bind,
      checkedI64_of_fits (by unfold i64Min; omega) (by unfold i64Max; omega), ok_bind,
      checkedI64_of_fits (by unfold i64Min; omega) (by unfold i64Max; omega), ok_bind,
      inI64_of_fits (by unfold i64Min; omega) (by unfold i64Max; omega), ok_bind]
    rfl
  · rfl

theorem parseRfc3339Z_of_in {value : String} {instant : ℤ}
    (hParsed : parseRfc3339ZIn value = .ok instant) : parseRfc3339Z value = .ok instant := by
  unfold parseRfc3339ZIn at hParsed
  rw [parseRfc3339Z_eq]
  cases hFields : timestampFields value with
  | error failure =>
      rw [hFields] at hParsed
      cases hParsed
  | ok fields =>
      rcases timestampFields_eq_ok hFields with ⟨hBounded, hYear, hLargest⟩
      rw [hFields, faultless_ok, ok_bind, instantOf_eq hBounded hYear hLargest] at hParsed
      split at hParsed
      · rename_i hCount
        simp only [TimestampFields.Bounded, not_or, not_not] at hBounded
        obtain rfl := Except.ok.inj hParsed
        rw [Except.map, daysFromCivil_eq hYear hLargest hBounded.1 hBounded.2.1 hCount]
      · cases hParsed

/-! ### Which timestamps are parsed safely -/

/-- The numbers of the timestamp are a date of the calendar that is not too far in the future. -/
def Countable (fields : TimestampFields) : Prop :=
  ∃ day ≤ lastDay, IsDate day fields.date

/-- A timestamp is parsed safely exactly when its date exists and its day can be counted in 32
bits, if it has the shape of a timestamp at all. -/
theorem parsesSafely_iff (value : String) :
    ParsesSafely value ↔ ∀ fields, timestampFields value = .ok fields → Countable fields := by
  unfold ParsesSafely parseRfc3339ZIn
  cases hFields : timestampFields value with
  | error failure =>
      refine ⟨fun _ => nofun, fun _ => ⟨nofun, nofun⟩⟩
  | ok fields =>
      rcases timestampFields_eq_ok hFields with ⟨hBounded, hYear, hLargest⟩
      rw [faultless_ok, ok_bind, instantOf_eq hBounded hYear hLargest]
      constructor
      · rintro ⟨hFaultless, hDenotes⟩ fields ⟨⟩
        split at hFaultless
        · rename_i hCount
          rw [if_pos hCount] at hDenotes
          rcases hDenotes _ rfl with ⟨_, ⟨⟩, day, hDate, -⟩
          refine ⟨day, ?_, hDate⟩
          rwa [← hDate.daysOf_eq]
        · exact absurd rfl hFaultless
      · intro hCountable
        rcases hCountable fields rfl with ⟨day, hCount, hDate⟩
        have hDay : daysOf fields.year fields.month fields.day = day := hDate.daysOf_eq
        rw [hDay, if_pos hCount]
        refine ⟨nofun, ?_⟩
        rintro _ ⟨⟩
        exact ⟨fields, rfl, day, hDate, rfl⟩

example : IsDate lastDay ⟨5879610, 9, 9⟩ :=
  isDate_iff.mpr (by decide)

/-- The day after the last one overflows the count, and the thirtieth of February is computed with
although no year has it. -/
theorem timestamps_parsed_unsafely :
    ¬ParsesSafely "5879610-09-10T00:00:00Z" ∧ ¬ParsesSafely "2026-02-30T00:00:00Z" := by
  constructor
  · intro hSafe
    exact hSafe.1 (by decide)
  · intro hSafe
    have hRead : timestampFields "2026-02-30T00:00:00Z" = .ok ⟨2026, 2, 30, 0, 0, 0⟩ := by decide
    have hParsed : parseRfc3339ZIn "2026-02-30T00:00:00Z" = .ok 1772409600000000000 := by decide
    rcases hSafe.2 _ hParsed with ⟨fields, hFields, day, hDate, -⟩
    rw [hRead] at hFields
    obtain rfl := Except.ok.inj hFields
    exact absurd hDate.valid (by decide)

end PayKit.Login
