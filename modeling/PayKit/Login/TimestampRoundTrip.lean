import PayKit.Arithmetic.Calendar
import PayKit.Login.Timestamp
import Mathlib.Data.Nat.Digits.Defs

/-!
# Timestamps are read as they were written

`parse_rfc3339_seconds` returns the time that `format_rfc3339_seconds` wrote, for every time whose
year has at most four digits. Each number of the text has leading zeros up to its width, so it
stands at the place where the parser looks for it.
-/

namespace PayKit.Login

open Calendar Challenge Control Machine

/-! ### Bytes of texts -/

theorem utf8_append (left right : String) : utf8 (left ++ right) = utf8 left ++ utf8 right := by
  simp only [utf8, String.toUTF8_eq_toByteArray, String.toByteArray_append, ByteArray.data_append,
    Array.toList_append]

theorem fromUTF8_utf8 (text : String) : String.fromUTF8? ⟨(utf8 text).toArray⟩ = some text := by
  have hBytes : (⟨(utf8 text).toArray⟩ : ByteArray) = text.toByteArray := by
    simp [utf8]
  rw [hBytes, String.fromUTF8?, dif_pos text.isValidUTF8]
  rfl

theorem length_utf8_digits {chars : List Char} (hDigits : ∀ char ∈ chars, char.isDigit = true) :
    (utf8 (String.ofList chars)).length = chars.length := by
  have hBytes : (utf8 (String.ofList chars)).length = (String.ofList chars).utf8ByteSize := by
    rw [utf8, String.toUTF8_eq_toByteArray, Array.length_toList, ← String.size_toByteArray,
      ByteArray.size]
  rw [hBytes]
  clear hBytes
  induction chars with
  | nil => rfl
  | cons char chars hInduction =>
      have hDigit := Char.isDigit_iff_toNat.mp (hDigits char List.mem_cons_self)
      have hSize : char.utf8Size = 1 := by
        rw [Char.utf8Size_eq_one_iff, UInt32.le_iff_toNat_le]
        exact hDigit.2.trans (by decide)
      have hRest := hInduction fun other hOther => hDigits other (List.mem_cons_of_mem _ hOther)
      simp [String.ofList_cons, hSize, hRest]
      omega

/-! ### Numbers with leading zeros -/

section

variable {width value : ℕ}

theorem toList_padded :
    (padded width value).toList =
      List.replicate (width - value.repr.length) '0' ++ Nat.toDigits 10 value := by
  have hZeros : ∀ count, ("".pushn '0' count).toList = List.replicate count '0' := by
    intro count
    induction count with
    | zero => rfl
    | succ count hInduction =>
        rw [String.pushn_eq_repeat_push] at hInduction ⊢
        rw [Nat.repeat, String.toList_push, hInduction, List.replicate_succ']
  rw [padded, String.toList_append, hZeros, Nat.toList_repr]

theorem isDigit_padded {char : Char} (hChar : char ∈ (padded width value).toList) :
    char.isDigit = true := by
  rw [toList_padded, List.mem_append] at hChar
  rcases hChar with hZero | hDigit
  · rw [List.eq_of_mem_replicate hZero]
    rfl
  · exact Nat.isDigit_of_mem_toDigits (by decide) (by decide) hDigit

theorem length_utf8_padded (hValue : value < 10 ^ width) (hWidth : 0 < width) :
    (utf8 (padded width value)).length = width := by
  have hLength := Nat.repr_length value width hWidth hValue
  have hDigits : value.repr.length = (Nat.toDigits 10 value).length := by
    rw [← String.length_toList, Nat.toList_repr]
  rw [← String.ofList_toList (s := padded width value),
    length_utf8_digits fun char hChar => isDigit_padded hChar, toList_padded, List.length_append,
    List.length_replicate]
  omega

theorem ofDigitChars_padded (width value : ℕ) :
    Nat.ofDigitChars 10 (padded width value).toList 0 = value := by
  rw [toList_padded, Nat.ofDigitChars_append, Nat.ofDigitChars_replicate_zero, Nat.mul_zero,
    Nat.ofDigitChars_ten_toDigits]

theorem toList_padded_ne_nil (width value : ℕ) : (padded width value).toList ≠ [] := by
  rw [toList_padded]
  exact List.append_ne_nil_of_right_ne_nil _ Nat.toDigits_ne_nil

theorem all_isDigit_padded (width value : ℕ) :
    (padded width value).toList.all Char.isDigit = true :=
  List.all_eq_true.mpr fun _ hChar => isDigit_padded hChar

theorem parseSigned_padded {least greatest : ℤ} (hLeast : least ≤ 0)
    (hFits : (value : ℤ) ≤ greatest) :
    parseSigned least greatest (padded width value) = some (value : ℤ) := by
  have hValue := ofDigitChars_padded width value
  have hFilled := toList_padded_ne_nil width value
  have hDigits := all_isDigit_padded width value
  unfold parseSigned
  generalize (padded width value).toList = digits at *
  split
  · simp at hDigits
  · simp at hDigits
  · have hLower : least ≤ value := hLeast.trans (Int.natCast_nonneg value)
    simp only [hValue, one_mul]
    rw [if_pos ⟨hFilled, hDigits, hLower, hFits⟩]

theorem parseI64_padded (hFits : (value : ℤ) ≤ i64Max) :
    parseI64 (padded width value) = some (value : ℤ) :=
  parseSigned_padded (show i64Min ≤ 0 by decide) hFits

theorem u32Of_padded (hFits : value < 2 ^ 32) : u32Of (padded width value) = some value := by
  have hValue := ofDigitChars_padded width value
  have hFilled := toList_padded_ne_nil width value
  have hDigits := all_isDigit_padded width value
  have hUnsigned : unsignedDigits (padded width value) = (padded width value).toList := by
    unfold unsignedDigits
    generalize (padded width value).toList = digits at *
    split
    · simp at hDigits
    · rfl
  have hRange : value ≤ u64Max := by
    unfold u64Max
    omega
  unfold u32Of parseU64
  simp only [hUnsigned, hValue]
  rw [if_pos ⟨hFilled, hDigits, hRange⟩, Option.filter_some, if_pos (decide_eq_true hFits)]

/-! ### Numbers at their places -/

theorem numberAt_eq {bytes : List UInt8} {start stop : ℕ} {name : String}
    (hPlace : (bytes.take stop).drop start = utf8 (padded width value))
    (hFits : (value : ℤ) ≤ i64Max) : numberAt bytes start stop name = .ok (value : ℤ) := by
  rw [numberAt, hPlace, fromUTF8_utf8]
  simp only [parseI64_padded hFits]

end

theorem places_of_parts {y mo d h mi s : List UInt8} (hYear : y.length = 4)
    (hMonth : mo.length = 2) (hDay : d.length = 2) (hHour : h.length = 2)
    (hMinute : mi.length = 2) (hSecond : s.length = 2) :
    let bytes := y ++ utf8 "-" ++ mo ++ utf8 "-" ++ d ++ utf8 "T" ++ h ++ utf8 ":" ++ mi ++
      utf8 ":" ++ s ++ utf8 "Z"
    (bytes.length = 20 ∧ bytes[19]? = some 'Z'.toUInt8 ∧ bytes[10]? = some 'T'.toUInt8) ∧
      (bytes.take 4).drop 0 = y ∧ (bytes.take 7).drop 5 = mo ∧ (bytes.take 10).drop 8 = d ∧
        (bytes.take 13).drop 11 = h ∧ (bytes.take 16).drop 14 = mi ∧
          (bytes.take 19).drop 17 = s := by
  obtain ⟨y0, y1, y2, y3, rfl⟩ : ∃ y0 y1 y2 y3, y = [y0, y1, y2, y3] := by
    match y, hYear with
    | [y0, y1, y2, y3], _ => exact ⟨y0, y1, y2, y3, rfl⟩
  obtain ⟨mo0, mo1, rfl⟩ := List.length_eq_two.mp hMonth
  obtain ⟨d0, d1, rfl⟩ := List.length_eq_two.mp hDay
  obtain ⟨h0, h1, rfl⟩ := List.length_eq_two.mp hHour
  obtain ⟨mi0, mi1, rfl⟩ := List.length_eq_two.mp hMinute
  obtain ⟨s0, s1, rfl⟩ := List.length_eq_two.mp hSecond
  exact ⟨⟨rfl, rfl, rfl⟩, rfl, rfl, rfl, rfl, rfl, rfl⟩

theorem parse_parts {y mo d h mi s : ℕ} (hYear : y ≤ 9999) (hMonth : mo ≤ 99) (hDay : d ≤ 99)
    (hHour : h ≤ 99) (hMinute : mi ≤ 99) (hSecond : s ≤ 99) :
    parseRfc3339Seconds (padded 4 y ++ "-" ++ padded 2 mo ++ "-" ++ padded 2 d ++ "T" ++
        padded 2 h ++ ":" ++ padded 2 mi ++ ":" ++ padded 2 s ++ "Z") =
      .ok (daysOf y mo d * 86400 + h * 3600 + mi * 60 + s) := by
  have hPair : ∀ value : ℕ, value ≤ 99 → (utf8 (padded 2 value)).length = 2 := by
    intro value hValue
    exact length_utf8_padded (by omega) (by decide)
  have hFour : (utf8 (padded 4 y)).length = 4 := length_utf8_padded (by omega) (by decide)
  have hPlaces := places_of_parts hFour
    (hPair mo hMonth) (hPair d hDay) (hPair h hHour) (hPair mi hMinute) (hPair s hSecond)
  simp only [← utf8_append] at hPlaces
  rcases hPlaces with ⟨hShape, hYearAt, hMonthAt, hDayAt, hHourAt, hMinuteAt, hSecondAt⟩
  have hFits : ∀ value : ℕ, value ≤ 9999 → (value : ℤ) ≤ i64Max := by
    intro value hValue
    exact (Int.ofNat_le.mpr hValue).trans (by decide)
  have hSmall : ∀ value : ℕ, value ≤ 99 → (value : ℤ) ≤ i64Max := fun value hValue =>
    hFits value (hValue.trans (by decide))
  unfold parseRfc3339Seconds
  apply refuseIf_bind_eq_ok.mpr
  constructor
  · rw [hShape.1, hShape.2.1, hShape.2.2]
    simp
  · simp only [bind_eq_ok]
    exact ⟨_, numberAt_eq hYearAt (hFits y hYear), _, numberAt_eq hMonthAt (hSmall mo hMonth), _,
      numberAt_eq hDayAt (hSmall d hDay), _, numberAt_eq hHourAt (hSmall h hHour), _,
      numberAt_eq hMinuteAt (hSmall mi hMinute), _, numberAt_eq hSecondAt (hSmall s hSecond), rfl⟩

/-! ### The round trip -/

/-- The year of a time has at most four digits. -/
def FourDigitYear (secs : ℤ) : Prop :=
  0 ≤ (Civil.ofDays (secs / 86400)).year ∧ (Civil.ofDays (secs / 86400)).year ≤ 9999

theorem formatRfc3339Seconds_eq (secs : ℤ) :
    formatRfc3339Seconds secs =
      paddedYear (Civil.ofDays (secs / 86400)).year ++ "-" ++
        padded 2 (Civil.ofDays (secs / 86400)).month ++ "-" ++
        padded 2 (Civil.ofDays (secs / 86400)).day ++ "T" ++
        padded 2 ((secs % 86400).toNat / 3600) ++ ":" ++
        padded 2 ((secs % 86400).toNat % 3600 / 60) ++ ":" ++
        padded 2 ((secs % 86400).toNat % 60) ++ "Z" :=
  rfl

theorem parse_formatRfc3339Seconds {secs : ℤ} (hYear : FourDigitYear secs) :
    parseRfc3339Seconds (formatRfc3339Seconds secs) = .ok secs := by
  have hFields := Civil.ofDays_fields (secs / 86400)
  have hDays := daysOf_ofDays (secs / 86400)
  have hYearText : paddedYear (Civil.ofDays (secs / 86400)).year =
      padded 4 (Civil.ofDays (secs / 86400)).year.toNat := by
    rw [paddedYear, if_neg (Int.not_lt.mpr hYear.1)]
  have hUpper : (Civil.ofDays (secs / 86400)).year.toNat ≤ 9999 := by
    have hYear := hYear.2
    omega
  rw [formatRfc3339Seconds_eq, hYearText, parse_parts hUpper (by omega) (by omega) (by omega)
    (by omega) (by omega), Int.toNat_of_nonneg hYear.1, hDays]
  apply congrArg Except.ok
  omega

end PayKit.Login
