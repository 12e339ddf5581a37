import PayKit.Login.TimestampRoundTrip
import PayKit.Login.TimestampSafety

/-!
# The calendar conversions agree

Every timestamp that the servers write is the date and the time of its instant, and both parsers
read it as that instant. Conversely both parsers read the text of every date and time as the
instant that it is.

The text has twenty characters. `format_rfc3339_seconds` is there twice, once for the
`authenticate` intent and once for subscriptions.
-/

namespace PayKit.Subscription

/-- `format_rfc3339_seconds` of `mpp/server/subscription.rs`. -/
def formatRfc3339Seconds (secs : ℤ) : String :=
  Login.formatRfc3339Seconds secs

end PayKit.Subscription

namespace PayKit.Login

open Calendar Challenge Control Control.Faulting Machine X402

/-! ### Dates with times -/

structure DateTime where
  date : Civil
  hour : ℕ
  minute : ℕ
  second : ℕ

namespace DateTime

variable (dateTime : DateTime)

def InDay : Prop :=
  dateTime.hour < 24 ∧ dateTime.minute < 60 ∧ dateTime.second < 60

/-- The year has at most four digits. -/
def InYears : Prop :=
  0 ≤ dateTime.date.year ∧ dateTime.date.year ≤ 9999

/-- The date exists and the time is one of a day. -/
structure Valid : Prop where
  date : dateTime.date.Valid
  time : dateTime.InDay
  years : dateTime.InYears

/-- The date and the time of an instant, in seconds from the first of January 1970. -/
def At (secs : ℤ) : Prop :=
  IsDate (secs / 86400) dateTime.date ∧ dateTime.InDay ∧
    secs % 86400 = (dateTime.hour * 3600 + dateTime.minute * 60 + dateTime.second : ℕ)

/-- `YYYY-MM-DDTHH:MM:SSZ`. -/
def text : String :=
  padded 4 dateTime.date.year.toNat ++ "-" ++ padded 2 dateTime.date.month ++ "-" ++
    padded 2 dateTime.date.day ++ "T" ++ padded 2 dateTime.hour ++ ":" ++
    padded 2 dateTime.minute ++ ":" ++ padded 2 dateTime.second ++ "Z"

def dateChars : List Char :=
  (padded 4 dateTime.date.year.toNat).toList ++ '-' :: (padded 2 dateTime.date.month).toList ++
    '-' :: (padded 2 dateTime.date.day).toList

def timeChars : List Char :=
  (padded 2 dateTime.hour).toList ++ ':' :: (padded 2 dateTime.minute).toList ++
    ':' :: (padded 2 dateTime.second).toList

variable {dateTime} {secs : ℤ}

theorem At.valid (hAt : dateTime.At secs) (hYears : dateTime.InYears) : dateTime.Valid :=
  ⟨hAt.1.valid, hAt.2.1, hYears⟩

theorem Valid.exists_at (hValid : dateTime.Valid) : ∃ secs, dateTime.At secs := by
  have hDate := hValid.date.isDate
  have hTime := hValid.time
  rcases hTime with ⟨hHour, hMinute, hSecond⟩
  refine ⟨daysOf dateTime.date.year dateTime.date.month dateTime.date.day * 86400 +
    (dateTime.hour * 3600 + dateTime.minute * 60 + dateTime.second : ℕ), ?_, hValid.time, ?_⟩
  · convert hDate using 1
    omega
  · omega

theorem exists_at (secs : ℤ) : ∃ dateTime : DateTime, dateTime.At secs := by
  refine ⟨⟨Civil.ofDays (secs / 86400), (secs % 86400).toNat / 3600,
    (secs % 86400).toNat % 3600 / 60, (secs % 86400).toNat % 60⟩, isDate_iff.mpr rfl, ?_, ?_⟩
  · simp only [InDay]
    omega
  · simp only
    omega

theorem Valid.month_le (hValid : dateTime.Valid) : dateTime.date.month ≤ 12 :=
  hValid.date.2.1

theorem Valid.day_le (hValid : dateTime.Valid) : dateTime.date.day ≤ 31 := by
  have hDay := hValid.date.2.2.2
  unfold daysInMonth at hDay
  split at hDay
  · split at hDay <;> omega
  · split at hDay <;> omega

end DateTime

/-! ### Writing -/

section

variable {dateTime : DateTime} {secs : ℤ}

theorem formatRfc3339Seconds_text (hAt : dateTime.At secs) (hYears : dateTime.InYears) :
    formatRfc3339Seconds secs = dateTime.text := by
  rcases hAt with ⟨hDate, ⟨hHour, hMinute, hSecond⟩, hTime⟩
  have hYear : paddedYear dateTime.date.year = padded 4 dateTime.date.year.toNat := by
    rw [paddedYear, if_neg (Int.not_lt.mpr hYears.1)]
  have hHourOf : (secs % 86400).toNat / 3600 = dateTime.hour := by omega
  have hMinuteOf : (secs % 86400).toNat % 3600 / 60 = dateTime.minute := by omega
  have hSecondOf : (secs % 86400).toNat % 60 = dateTime.second := by omega
  rw [formatRfc3339Seconds_eq, ← isDate_iff.mp hDate, hYear, hHourOf, hMinuteOf, hSecondOf]
  rfl

theorem length_padded {width value : ℕ} (hValue : value < 10 ^ width) (hWidth : 0 < width) :
    (padded width value).length = width := by
  have hLength := Nat.repr_length value width hWidth hValue
  have hDigits : value.repr.length = (Nat.toDigits 10 value).length := by
    rw [← String.length_toList, Nat.toList_repr]
  rw [← String.length_toList, toList_padded, List.length_append, List.length_replicate]
  omega

theorem length_text (hValid : dateTime.Valid) : dateTime.text.length = 20 := by
  have hMonth := hValid.month_le
  have hDay := hValid.day_le
  rcases hValid.time with ⟨hHour, hMinute, hSecond⟩
  rcases hValid.years with ⟨-, hLast⟩
  simp only [DateTime.text, String.length_append]
  rw [length_padded (show dateTime.date.year.toNat < 10 ^ 4 by omega) (by decide), length_padded (by omega) (by decide),
    length_padded (by omega) (by decide), length_padded (by omega) (by decide),
    length_padded (by omega) (by decide), length_padded (by omega) (by decide)]
  rfl

/-! ### Reading -/

theorem parseRfc3339Seconds_text (hValid : dateTime.Valid) (hAt : dateTime.At secs) :
    parseRfc3339Seconds dateTime.text = .ok secs := by
  have hMonth := hValid.month_le
  have hDay := hValid.day_le
  rcases hAt with ⟨hDate, ⟨hHour, hMinute, hSecond⟩, hTime⟩
  rcases hValid.years with ⟨hFirst, hLast⟩
  rw [DateTime.text, parse_parts (by omega) (by omega) (by omega) (by omega) (by omega) (by omega),
    Int.toNat_of_nonneg hFirst, hDate.daysOf_eq]
  apply congrArg Except.ok
  omega

theorem splitOnce_of_not_mem {mark : Char} {before after : List Char} (hBefore : mark ∉ before) :
    splitOnce (before ++ mark :: after) mark = some (before, after) := by
  have hIndex : (before ++ mark :: after).idxOf? mark = some before.length := by
    refine List.idxOf?_eq_some_iff.mpr ⟨by simp, by simp, ?_⟩
    intro place hPlace hMark
    rw [List.getElem_append_left hPlace] at hMark
    exact hBefore (hMark ▸ List.getElem_mem hPlace)
  rw [splitOnce, hIndex]
  simp

theorem splitOnce_eq_none {mark : Char} {text : List Char} (hText : mark ∉ text) :
    splitOnce text mark = none := by
  rw [splitOnce, List.idxOf?_eq_none_iff.mpr hText]

theorem splitOn_three {mark : Char} {first second third : List Char} (hFirst : mark ∉ first)
    (hSecond : mark ∉ second) (hThird : mark ∉ third) :
    (first ++ mark :: second ++ mark :: third).splitOn mark = [first, second, third] := by
  rw [List.append_assoc, List.cons_append, List.splitOn_append_cons_self_of_not_mem hFirst,
    List.splitOn_append_cons_self_of_not_mem hSecond, List.splitOn_eq_singleton hThird]

theorem not_mem_padded {width value : ℕ} {char : Char} (hChar : char.isDigit = false) :
    char ∉ (padded width value).toList := by
  intro hMem
  rw [isDigit_padded hMem] at hChar
  cases hChar

theorem timestampFields_of_pieces {value : String} {fields : TimestampFields}
    {date time year month day hour minute second : List Char}
    (hText : value.toList = (date ++ 'T' :: time) ++ ['Z'])
    (hDateTime : splitOnce (date ++ 'T' :: time) 'T' = some (date, time))
    (hDate : date.splitOn '-' = [year, month, day]) (hWhole : splitOnce time '.' = none)
    (hTime : time.splitOn ':' = [hour, minute, second])
    (hYear : i32Of (String.ofList year) = some fields.year)
    (hMonth : u32Of (String.ofList month) = some fields.month)
    (hDay : u32Of (String.ofList day) = some fields.day)
    (hHour : u32Of (String.ofList hour) = some fields.hour)
    (hMinute : u32Of (String.ofList minute) = some fields.minute)
    (hSecond : u32Of (String.ofList second) = some fields.second) (hBounded : fields.Bounded) :
    timestampFields value = .ok fields := by
  unfold timestampFields
  simp only [hText, List.getLast?_concat, List.dropLast_concat, hDateTime]
  rw [refuseIf_bind_eq_ok]
  refine ⟨not_not.mpr rfl, ?_⟩
  simp only [bind_eq_ok, okOr_eq_ok]
  refine ⟨_, rfl, ?_⟩
  simp only [hDate, hWhole, Option.map_none, Option.getD_none, hTime, bind_eq_ok, okOr_eq_ok]
  exact ⟨_, hYear, _, hMonth, _, hDay, _, hHour, _, hMinute, _, hSecond, (),
    refuseIf_eq_ok.mpr (not_not.mpr hBounded), rfl⟩

theorem timestampFields_text (hValid : dateTime.Valid) :
    timestampFields dateTime.text = .ok ⟨dateTime.date.year, dateTime.date.month,
      dateTime.date.day, dateTime.hour, dateTime.minute, dateTime.second⟩ := by
  have hMonth := hValid.month_le
  have hDay := hValid.day_le
  rcases hValid.time with ⟨hHour, hMinute, hSecond⟩
  rcases hValid.years with ⟨hFirst, hLast⟩
  have hText :
      dateTime.text.toList = (dateTime.dateChars ++ 'T' :: dateTime.timeChars) ++ ['Z'] := by
    simp [DateTime.text, DateTime.dateChars, DateTime.timeChars]
  have hDateTime : splitOnce (dateTime.dateChars ++ 'T' :: dateTime.timeChars) 'T' =
      some (dateTime.dateChars, dateTime.timeChars) := by
    apply splitOnce_of_not_mem
    simp [DateTime.dateChars, not_mem_padded]
  have hDate : dateTime.dateChars.splitOn '-' = [(padded 4 dateTime.date.year.toNat).toList,
      (padded 2 dateTime.date.month).toList, (padded 2 dateTime.date.day).toList] :=
    splitOn_three (not_mem_padded rfl) (not_mem_padded rfl) (not_mem_padded rfl)
  have hWhole : splitOnce dateTime.timeChars '.' = none := by
    apply splitOnce_eq_none
    simp [DateTime.timeChars, not_mem_padded]
  have hTime : dateTime.timeChars.splitOn ':' = [(padded 2 dateTime.hour).toList,
      (padded 2 dateTime.minute).toList, (padded 2 dateTime.second).toList] :=
    splitOn_three (not_mem_padded rfl) (not_mem_padded rfl) (not_mem_padded rfl)
  have hBounded : (⟨dateTime.date.year, dateTime.date.month, dateTime.date.day, dateTime.hour,
      dateTime.minute, dateTime.second⟩ : TimestampFields).Bounded := by
    have hMonthFirst := hValid.date.1
    have hDayFirst := hValid.date.2.2.1
    simp only [TimestampFields.Bounded]
    omega
  have hYear : i32Of (String.ofList (padded 4 dateTime.date.year.toNat).toList) =
      some dateTime.date.year := by
    rw [String.ofList_toList, i32Of, parseSigned_padded (by decide) (by omega), Int.toNat_of_nonneg hFirst]
  have hPart : ∀ part ≤ 59, u32Of (String.ofList (padded 2 part).toList) = some part := by
    intro part hPart
    rw [String.ofList_toList, u32Of_padded (by omega)]
  exact timestampFields_of_pieces hText hDateTime hDate hWhole hTime hYear (hPart _ (by omega))
    (hPart _ (by omega)) (hPart _ (by omega)) (hPart _ (by omega)) (hPart _ (by omega)) hBounded

theorem daysOf_le_lastDay (hValid : dateTime.Valid) (hAt : dateTime.At secs) :
    secs / 86400 ≤ lastDay := by
  have hMonth : 1 ≤ dateTime.date.month ∧ dateTime.date.month ≤ 12 :=
    ⟨hValid.date.1, hValid.month_le⟩
  have hDay := hValid.day_le
  have hLast := hValid.years.2
  obtain ⟨y, hStart⟩ : ∃ y, y = dateTime.date.year - if dateTime.date.month ≤ 2 then 1 else 0 :=
    ⟨_, rfl⟩
  obtain ⟨mp, hPosition⟩ :
      ∃ mp : ℤ, mp = dateTime.date.month + if 2 < dateTime.date.month then -3 else 9 := ⟨_, rfl⟩
  have hHigh : y ≤ 9999 := by split at hStart <;> omega
  have hTop : mp ≤ 11 := by split at hPosition <;> omega
  rw [← hAt.1.daysOf_eq, daysOf_era hMonth hStart hPosition rfl, lastDay]
  omega

theorem parseRfc3339ZIn_text (hValid : dateTime.Valid) (hAt : dateTime.At secs) :
    parseRfc3339ZIn dateTime.text = .ok (secs * 1000000000) := by
  have hRead := timestampFields_text hValid
  rcases timestampFields_eq_ok hRead with ⟨hBounded, hFirst, hLast⟩
  have hDays : daysOf dateTime.date.year dateTime.date.month dateTime.date.day = secs / 86400 :=
    hAt.1.daysOf_eq
  have hTime := hAt.2.2
  rw [parseRfc3339ZIn, hRead, faultless_ok, ok_bind, instantOf_eq hBounded hFirst hLast]
  simp only [hDays, if_pos (daysOf_le_lastDay hValid hAt), TimestampFields.secondOfDay]
  apply congrArg Except.ok
  omega

end

/-! ### The conversions agree -/

/-- Every time whose year has at most four digits is written as its date and time, in twenty
characters, and both parsers read that text as the time. Conversely the text of every date and
time is read by both parsers as the instant that it is. -/
theorem calendars_agree :
    (∀ secs, ∃ dateTime : DateTime, dateTime.At secs ∧ (dateTime.InYears →
      formatRfc3339Seconds secs = dateTime.text ∧
        Subscription.formatRfc3339Seconds secs = dateTime.text ∧ dateTime.text.length = 20 ∧
          parseRfc3339Seconds (formatRfc3339Seconds secs) = .ok secs ∧
            parseRfc3339ZIn (formatRfc3339Seconds secs) = .ok (secs * 1000000000))) ∧
      ∀ dateTime : DateTime, dateTime.Valid →
        ∃ secs, dateTime.At secs ∧ parseRfc3339Seconds dateTime.text = .ok secs ∧
          parseRfc3339ZIn dateTime.text = .ok (secs * 1000000000) := by
  constructor
  · intro secs
    rcases DateTime.exists_at secs with ⟨dateTime, hAt⟩
    refine ⟨dateTime, hAt, ?_⟩
    intro hYears
    have hValid := hAt.valid hYears
    have hText := formatRfc3339Seconds_text hAt hYears
    refine ⟨hText, hText, length_text hValid, ?_, ?_⟩
    · rw [hText, parseRfc3339Seconds_text hValid hAt]
    · rw [hText, parseRfc3339ZIn_text hValid hAt]
  · intro dateTime hValid
    rcases hValid.exists_at with ⟨secs, hAt⟩
    exact ⟨secs, hAt, parseRfc3339Seconds_text hValid hAt, parseRfc3339ZIn_text hValid hAt⟩

/-- The last second of a leap day. -/
theorem leap_day_agrees :
    ∃ secs, DateTime.At ⟨⟨2000, 2, 29⟩, 23, 59, 59⟩ secs ∧
      parseRfc3339Seconds "2000-02-29T23:59:59Z" = .ok secs ∧
        parseRfc3339ZIn "2000-02-29T23:59:59Z" = .ok (secs * 1000000000) :=
  calendars_agree.2 ⟨⟨2000, 2, 29⟩, 23, 59, 59⟩
    ⟨by decide, by unfold DateTime.InDay; decide, by unfold DateTime.InYears; decide⟩

end PayKit.Login
