import PayKit.Arithmetic.UnitsGrammar

/-!
# Formatting is inverse to parsing

What `formatUnits` prints is parsed to the base units it was printed from, and it is the shortest
way to write their value: a numeral without leading zeros, with a point only if the value is not
whole, and no trailing zero after it. So it shortens any amount that was parsed, as long as the
parser counted the fraction of the amount correctly.
-/

namespace PayKit.Units

open Control Encoding Machine

/-- The value that an amount writes, with or without a plus sign. -/
def HasValue (amount : String) (value : ℚ) : Prop :=
  (∃ places, Denotes amount places value) ∨
    ∃ digits, IsNumeral digits ∧ amount.toList = '+' :: digits ∧ value = decimalValue digits

/-- The human amount is the one shortest way to write the value of the amount. -/
def IsShortestOf (amount human : String) : Prop :=
  ∃ value, HasValue amount value ∧ HasValue human value ∧ ∀ other, HasValue other value →
    human.length ≤ other.length ∧ (other.length = human.length → other = human)

/-- More than the 32 bits of fraction digits, of a value that is not zero. -/
def HasLongFraction (amount : String) : Prop :=
  ∃ integer fraction, IsPoint amount integer fraction ∧ 2 ^ 32 ≤ fraction.length ∧
    decimalValue (integer ++ fraction) ≠ 0

/-- What `formatUnits` prints for base units. -/
inductive Prints (units decimals : ℕ) (human : String) : Prop where
  | whole {number : ℕ} (hText : human.toList = Nat.toDigits 10 number)
      (hUnits : units = number * 10 ^ decimals)
  | point {number : ℕ} {fraction : List Char}
      (hText : human.toList = Nat.toDigits 10 number ++ '.' :: fraction)
      (hFraction : IsNumeral fraction) (hPlaces : fraction.length ≤ decimals)
      (hUnits : units =
        decimalValue (Nat.toDigits 10 number ++ fraction) * 10 ^ (decimals - fraction.length))
      (hTrimmed : ¬10 ∣ decimalValue (Nat.toDigits 10 number ++ fraction))

section

variable {units decimals : ℕ} {amount human : String} {value : ℚ}

theorem parseU128_repr (hFits : units ≤ u128Max) : parseU128 units.repr = some units := by
  rw [parseU128_eq_some]
  exact ⟨Nat.toDigits 10 units, isNumeral_toDigits units, .inl Nat.toList_repr,
    decimalValue_toDigits units, hFits⟩

theorem prints_point {field : List Char} (hDigits : AllDigits field)
    (hLength : field.length = decimals) (hValue : decimalValue field = units % 10 ^ decimals)
    (hFraction : units % 10 ^ decimals ≠ 0) :
    Prints units decimals
      ((units / 10 ^ decimals).repr ++ "." ++ String.ofList (trimTrailingZeros field)) := by
  rcases exists_trailingZeros field with ⟨count, hSplit⟩
  have hTotal : (trimTrailingZeros field).length + count = decimals := by
    rw [← hLength]
    conv_rhs => rw [hSplit]
    simp
  have hTrimmed : AllDigits (trimTrailingZeros field) := by
    rw [hSplit, allDigits_append] at hDigits
    exact hDigits.1
  have hTrimmedValue : decimalValue (trimTrailingZeros field) * 10 ^ count =
      units % 10 ^ decimals := by
    rw [hSplit, decimalValue_append, decimalValue_replicate_zero, List.length_replicate,
      Nat.add_zero] at hValue
    exact hValue
  have hNonempty : trimTrailingZeros field ≠ [] := by
    intro hNil
    rw [hNil, decimalValue_nil, Nat.zero_mul] at hTrimmedValue
    exact hFraction hTrimmedValue.symm
  have hText : ((units / 10 ^ decimals).repr ++ "." ++
      String.ofList (trimTrailingZeros field)).toList =
        Nat.toDigits 10 (units / 10 ^ decimals) ++ '.' :: trimTrailingZeros field := by
    simp
  refine .point hText ⟨hNonempty, hTrimmed⟩ (by omega) ?_
    (not_ten_dvd_trimTrailingZeros
      (allDigits_append.mpr ⟨(isNumeral_toDigits _).digits, hDigits⟩) hNonempty)
  have hRest : decimals - (trimTrailingZeros field).length = count := by omega
  have hPower : 10 ^ decimals = 10 ^ (trimTrailingZeros field).length * 10 ^ count := by
    rw [← pow_add, hTotal]
  have hDivided := Nat.div_add_mod units (10 ^ decimals)
  rw [hRest, decimalValue_append, decimalValue_toDigits, Nat.add_mul, hTrimmedValue,
    Nat.mul_assoc, ← hPower, Nat.mul_comm]
  exact hDivided.symm

theorem prints_fraction (hFraction : units % 10 ^ decimals ≠ 0) :
    Prints units decimals ((units / 10 ^ decimals).repr ++ "." ++
      String.ofList (trimTrailingZeros (zeroPadded decimals (units % 10 ^ decimals)))) := by
  have hPositive : 0 < decimals := by
    by_contra hZero
    have hNone : decimals = 0 := by omega
    simp [hNone, Nat.mod_one] at hFraction
  have hBelow : units % 10 ^ decimals < 10 ^ decimals := Nat.mod_lt _ (by positivity)
  exact prints_point (allDigits_zeroPadded _ _) (length_zeroPadded hPositive hBelow)
    (decimalValue_zeroPadded _ _) hFraction

theorem formatUnits_prints (hDecimals : decimals ≤ maxDecimals) (hFits : units ≤ u128Max) :
    ∃ human, formatUnits units.repr decimals = .ok human ∧ Prints units decimals human := by
  have hRepr := isNumeral_toDigits units
  have hNotEmpty : units.repr ≠ "" := Nat.repr_ne_empty
  have hDigits : units.repr.toList.all Char.isDigit = true := by
    rw [Nat.toList_repr]
    exact all_isDigit.mpr hRepr.digits
  have hNotAbove : ¬maxDecimals < decimals := by omega
  have hFormat : formatUnits units.repr decimals =
      if units % 10 ^ decimals = 0 then .ok (units / 10 ^ decimals).repr
      else .ok ((units / 10 ^ decimals).repr ++ "." ++
        String.ofList (trimTrailingZeros (zeroPadded decimals (units % 10 ^ decimals)))) := by
    simp only [formatUnits, refuseIf, hNotAbove, hNotEmpty, hDigits, parseU128_repr hFits, okOr,
      not_true_eq_false, or_self, if_false, bind, Except.bind]
    rfl
  rw [hFormat]
  split
  next hWhole =>
    refine ⟨_, rfl, .whole Nat.toList_repr ?_⟩
    exact (Nat.div_mul_cancel (Nat.dvd_of_mod_eq_zero hWhole)).symm
  next hFraction => exact ⟨_, rfl, prints_fraction hFraction⟩

theorem parseUnits_of_prints (hDecimals : decimals ≤ maxDecimals) (hFits : units ≤ u128Max)
    (hPrints : Prints units decimals human) : parseUnits human decimals = .ok units.repr := by
  rw [parseUnits_eq_ok hDecimals]
  cases hPrints with
  | @whole number hText hUnits =>
      refine .inl ⟨_, ⟨isNumeral_toDigits number, .inl hText⟩, ?_, ?_⟩
      · rwa [decimalValue_toDigits, ← hUnits]
      · rw [decimalValue_toDigits, ← hUnits]
  | @point number fraction hText hFraction hPlaces hUnits hTrimmed =>
      refine .inr ⟨_, _, ⟨isNumeral_toDigits number, hFraction, hText⟩, ?_, ?_⟩
      · rwa [mod_length hDecimals hPlaces]
      · rw [pointUnits, mod_length hDecimals hPlaces, ← hUnits]

/-! ### The shortest way to write a value -/

theorem string_length (text : String) : text.length = text.toList.length :=
  (String.length_toList).symm

theorem eq_of_toList {left right : String} (hSame : left.toList = right.toList) : left = right :=
  String.toList_inj.mp hSame

theorem hasValue_cases (hValue : HasValue amount value) :
    (∃ digits, IsWhole amount digits ∧ value = decimalValue digits) ∨
      ∃ integer fraction, IsPoint amount integer fraction ∧
        value = decimalValue (integer ++ fraction) / 10 ^ fraction.length := by
  rcases hValue with ⟨places, hDenotes⟩ | ⟨digits, hNumeral, hText, rfl⟩
  · cases hDenotes with
    | whole hNumeral hText => exact .inl ⟨_, ⟨hNumeral, .inl hText⟩, rfl⟩
    | point hPoint => exact .inr ⟨_, _, hPoint, rfl⟩
  · exact .inl ⟨digits, ⟨hNumeral, .inr hText⟩, rfl⟩

theorem IsWhole.hasValue {digits : List Char} (hWhole : IsWhole amount digits) :
    HasValue amount (decimalValue digits) := by
  rcases hWhole.text with hText | hText
  · exact .inl ⟨0, .whole hWhole.numeral hText⟩
  · exact .inr ⟨digits, hWhole.numeral, hText, rfl⟩

theorem IsWhole.unique {digits digits' : List Char} (hWhole : IsWhole amount digits)
    (hWhole' : IsWhole amount digits') : digits = digits' := by
  rcases hWhole.text with hText | hText
  · rcases hWhole'.text with hText' | hText'
    · rw [← hText, ← hText']
    · exact absurd (hText ▸ hWhole.numeral) (not_numeral_of_signed hText')
  · rcases hWhole'.text with hText' | hText'
    · exact absurd (hText' ▸ hWhole'.numeral) (not_numeral_of_signed hText)
    · simpa [hText] using hText'

theorem hasValue_unique {value' : ℚ} (hValue : HasValue amount value)
    (hValue' : HasValue amount value') : value = value' := by
  rcases hasValue_cases hValue with ⟨digits, hWhole, rfl⟩ | ⟨integer, fraction, hPoint, rfl⟩
  · rcases hasValue_cases hValue' with ⟨digits', hWhole', rfl⟩ | ⟨integer, fraction, hPoint, -⟩
    · rw [hWhole.unique hWhole']
    · exact absurd hPoint hWhole.not_isPoint
  · rcases hasValue_cases hValue' with ⟨digits, hWhole, -⟩ | ⟨integer', fraction', hPoint', rfl⟩
    · exact absurd hPoint hWhole.not_isPoint
    · rcases isPoint_unique hPoint hPoint' with ⟨rfl, rfl⟩
      rfl

theorem div_pow_eq_iff {left right places places' : ℕ} :
    (left : ℚ) / 10 ^ places = (right : ℚ) / 10 ^ places' ↔
      left * 10 ^ places' = right * 10 ^ places := by
  rw [div_eq_div_iff (by positivity) (by positivity)]
  constructor
  · intro hSame
    exact_mod_cast hSame
  · intro hSame
    exact_mod_cast hSame

theorem prints_hasValue (hPrints : Prints units decimals human) :
    HasValue human (units / 10 ^ decimals) := by
  cases hPrints with
  | @whole number hText hUnits =>
      have hWhole : IsWhole human (Nat.toDigits 10 number) := ⟨isNumeral_toDigits number, .inl hText⟩
      have hValue := hWhole.hasValue
      have hSame : (units : ℚ) / 10 ^ decimals = number := by
        rw [hUnits, Nat.cast_mul, Nat.cast_pow, Nat.cast_ofNat,
          mul_div_cancel_right₀ _ (by positivity)]
      rwa [hSame, ← decimalValue_toDigits number]
  | @point number fraction hText hFraction hPlaces hUnits hTrimmed =>
      have hPoint : IsPoint human (Nat.toDigits 10 number) fraction :=
        ⟨isNumeral_toDigits number, hFraction, hText⟩
      have hSame : (units : ℚ) / 10 ^ decimals =
          decimalValue (Nat.toDigits 10 number ++ fraction) / 10 ^ fraction.length := by
        rw [div_pow_eq_iff, hUnits, Nat.mul_assoc, ← pow_add, Nat.sub_add_cancel hPlaces]
      rw [hSame]
      exact .inl ⟨_, .point hPoint⟩

theorem whole_of_point {integer fraction : List Char} {number rest : ℕ}
    (hFraction : AllDigits fraction) (hRest : rest < 10 ^ fraction.length)
    (hSame : decimalValue (integer ++ fraction) = number * 10 ^ fraction.length + rest) :
    decimalValue integer = number := by
  rw [decimalValue_append] at hSame
  have hBelow := decimalValue_lt hFraction
  have hPower : 0 < 10 ^ fraction.length := by positivity
  have hLeft : (decimalValue integer * 10 ^ fraction.length + decimalValue fraction) /
      10 ^ fraction.length = decimalValue integer := by
    rw [Nat.mul_comm, Nat.mul_add_div hPower, Nat.div_eq_of_lt hBelow, Nat.add_zero]
  have hRight : (number * 10 ^ fraction.length + rest) / 10 ^ fraction.length = number := by
    rw [Nat.mul_comm, Nat.mul_add_div hPower, Nat.div_eq_of_lt hRest, Nat.add_zero]
  rw [← hLeft, hSame, hRight]

theorem whole_shortest {number : ℕ} {other : String}
    (hText : human.toList = Nat.toDigits 10 number) (hOther : HasValue other number) :
    human.length ≤ other.length ∧ (other.length = human.length → other = human) := by
  rw [string_length, string_length, hText]
  rcases hasValue_cases hOther with ⟨digits, hWhole, hValue⟩ | ⟨integer, fraction, hPoint, hValue⟩
  · have hNumber : number = decimalValue digits := by exact_mod_cast hValue
    have hShortest := shortest_toDigits hWhole.numeral
    rw [← hNumber] at hShortest
    rcases hWhole.text with hDigits | hSigned
    · rw [hDigits]
      refine ⟨hShortest.1, ?_⟩
      intro hLength
      exact eq_of_toList (by rw [hDigits, hText, hShortest.2 hLength])
    · rw [hSigned, List.length_cons]
      exact ⟨by omega, by omega⟩
  · have hScaled : decimalValue (integer ++ fraction) = number * 10 ^ fraction.length := by
      have hCross := hValue
      rw [eq_div_iff (by positivity)] at hCross
      exact_mod_cast hCross.symm
    have hInteger : decimalValue integer = number :=
      whole_of_point hPoint.places.digits (Nat.pow_pos (by decide)) hScaled
    have hShortest := (shortest_toDigits hPoint.whole).1
    rw [hInteger] at hShortest
    rw [hPoint.text, List.length_append, List.length_cons]
    exact ⟨by omega, by omega⟩

theorem point_shortest {number : ℕ} {fraction : List Char} {other : String}
    (hText : human.toList = Nat.toDigits 10 number ++ '.' :: fraction)
    (hFraction : IsNumeral fraction)
    (hTrimmed : ¬10 ∣ decimalValue (Nat.toDigits 10 number ++ fraction))
    (hOther : HasValue other
      (decimalValue (Nat.toDigits 10 number ++ fraction) / 10 ^ fraction.length)) :
    human.length ≤ other.length ∧ (other.length = human.length → other = human) := by
  have hPositive : 0 < fraction.length := List.length_pos_of_ne_nil hFraction.nonempty
  rw [string_length, string_length, hText]
  rcases hasValue_cases hOther with ⟨digits, hWhole, hValue⟩ | ⟨integer, places, hPoint, hValue⟩
  · exfalso
    apply hTrimmed
    rw [div_eq_iff (by positivity)] at hValue
    have hScaled : decimalValue (Nat.toDigits 10 number ++ fraction) =
        decimalValue digits * 10 ^ fraction.length := by exact_mod_cast hValue
    rw [hScaled]
    exact Dvd.dvd.mul_left (dvd_pow_self 10 (by omega)) _
  · rw [div_pow_eq_iff] at hValue
    have hMore : fraction.length ≤ places.length := by
      by_contra hFewer
      apply hTrimmed
      have hPower : 10 ^ fraction.length =
          10 ^ (fraction.length - places.length) * 10 ^ places.length := by
        rw [← pow_add]
        congr 1
        omega
      rw [hPower, ← Nat.mul_assoc] at hValue
      have hScaled := Nat.eq_of_mul_eq_mul_right (by positivity) hValue
      rw [hScaled]
      exact Dvd.dvd.mul_left (dvd_pow_self 10 (by omega)) _
    have hPower : 10 ^ places.length =
        10 ^ (places.length - fraction.length) * 10 ^ fraction.length := by
      rw [← pow_add]
      congr 1
      omega
    have hScaled : decimalValue (integer ++ places) =
        decimalValue (Nat.toDigits 10 number ++ fraction) *
          10 ^ (places.length - fraction.length) := by
      rw [hPower, ← Nat.mul_assoc] at hValue
      exact (Nat.eq_of_mul_eq_mul_right (by positivity) hValue).symm
    have hInteger : decimalValue integer = number := by
      have hSplit : decimalValue (integer ++ places) = number * 10 ^ places.length +
          decimalValue fraction * 10 ^ (places.length - fraction.length) := by
        rw [hScaled, decimalValue_append, decimalValue_toDigits, Nat.add_mul, Nat.mul_assoc,
          Nat.mul_comm (10 ^ fraction.length), ← hPower]
      apply whole_of_point hPoint.places.digits _ hSplit
      rw [hPower, Nat.mul_comm (10 ^ _)]
      exact Nat.mul_lt_mul_of_pos_right (decimalValue_lt hFraction.digits) (by positivity)
    have hShortest := (shortest_toDigits hPoint.whole).1
    rw [hInteger] at hShortest
    rw [hPoint.text]
    simp only [List.length_append, List.length_cons]
    refine ⟨by omega, ?_⟩
    intro hLength
    have hSameValue : decimalValue (integer ++ places) =
        decimalValue (Nat.toDigits 10 number ++ fraction) := by
      have hNone : places.length - fraction.length = 0 := by omega
      rw [hScaled, hNone, pow_zero, Nat.mul_one]
    have hSame : integer ++ places = Nat.toDigits 10 number ++ fraction := by
      apply eq_of_decimalValue
      · exact allDigits_append.mpr ⟨hPoint.whole.digits, hPoint.places.digits⟩
      · exact allDigits_append.mpr ⟨(isNumeral_toDigits number).digits, hFraction.digits⟩
      · simp only [List.length_append]
        omega
      · exact hSameValue
    rcases List.append_inj hSame (by omega) with ⟨hWhole, hPlaces⟩
    exact eq_of_toList (by rw [hPoint.text, hText, hWhole, hPlaces])

theorem prints_shortest (hPrints : Prints units decimals human) {other : String}
    (hOther : HasValue other (units / 10 ^ decimals)) :
    human.length ≤ other.length ∧ (other.length = human.length → other = human) := by
  have hValue := prints_hasValue hPrints
  cases hPrints with
  | @whole number hText hUnits =>
      have hWhole : IsWhole human (Nat.toDigits 10 number) := ⟨isNumeral_toDigits number, .inl hText⟩
      have hSame := hasValue_unique hValue hWhole.hasValue
      rw [decimalValue_toDigits] at hSame
      rw [hSame] at hOther
      exact whole_shortest hText hOther
  | @point number fraction hText hFraction hPlaces hUnits hTrimmed =>
      have hPoint : IsPoint human (Nat.toDigits 10 number) fraction :=
        ⟨isNumeral_toDigits number, hFraction, hText⟩
      rw [hasValue_unique hValue (.inl ⟨_, .point hPoint⟩)] at hOther
      exact point_shortest hText hFraction hTrimmed hOther

/-- A printed amount is the shortest way to write another when the values are the same. -/
theorem isShortestOf_iff (hPrints : Prints units decimals human) (hValue : HasValue amount value) :
    IsShortestOf amount human ↔ value = units / 10 ^ decimals := by
  have hHuman := prints_hasValue hPrints
  constructor
  · rintro ⟨shared, hAmount, hShared, -⟩
    rw [hasValue_unique hValue hAmount, hasValue_unique hHuman hShared]
  · rintro rfl
    exact ⟨_, hValue, hHuman, fun other hOther => prints_shortest hPrints hOther⟩

/-- The value of an amount that was parsed, unless its fraction is too long to be counted. -/
theorem parsed_value (hDecimals : decimals ≤ maxDecimals)
    (hParsed : parseUnits amount decimals = .ok units.repr) :
    ∃ value, HasValue amount value ∧
      (value = units / 10 ^ decimals ↔ ¬HasLongFraction amount) := by
  rcases (parseUnits_eq_ok hDecimals).mp hParsed with
    ⟨digits, hWhole, -, hUnits⟩ | ⟨integer, fraction, hPoint, hCounted, hUnits⟩
  · refine ⟨decimalValue digits, hWhole.hasValue, ?_⟩
    have hNotLong : ¬HasLongFraction amount := by
      rintro ⟨integer, fraction, hPoint, -⟩
      exact hWhole.not_isPoint hPoint
    have hSame : (decimalValue digits : ℚ) = units / 10 ^ decimals := by
      rw [repr_injective hUnits, Nat.cast_mul, Nat.cast_pow, Nat.cast_ofNat,
        mul_div_cancel_right₀ _ (by positivity)]
    simp [hSame, hNotLong]
  · refine ⟨_, .inl ⟨_, .point hPoint⟩, ?_⟩
    have hLong : HasLongFraction amount ↔
        2 ^ 32 ≤ fraction.length ∧ decimalValue (integer ++ fraction) ≠ 0 := by
      constructor
      · rintro ⟨integer', fraction', hPoint', hLength, hNonzero⟩
        rcases isPoint_unique hPoint hPoint' with ⟨rfl, rfl⟩
        exact ⟨hLength, hNonzero⟩
      · rintro ⟨hLength, hNonzero⟩
        exact ⟨integer, fraction, hPoint, hLength, hNonzero⟩
    have hCount : (units : ℚ) / 10 ^ decimals =
        decimalValue (integer ++ fraction) / 10 ^ (fraction.length % 2 ^ 32) := by
      rw [div_pow_eq_iff, repr_injective hUnits, pointUnits, Nat.mul_assoc, ← pow_add,
        Nat.sub_add_cancel hCounted]
    rw [hCount, div_pow_eq_iff, hLong, not_and_or, not_not]
    constructor
    · intro hSame
      by_cases hZero : decimalValue (integer ++ fraction) = 0
      · exact .inr hZero
      · have hPowers := Nat.eq_of_mul_eq_mul_left (Nat.pos_of_ne_zero hZero) hSame
        have hExponents := Nat.pow_right_injective (by decide : 2 ≤ 10) hPowers
        have hBelow : fraction.length % 2 ^ 32 < 2 ^ 32 := Nat.mod_lt _ (by decide)
        exact .inl (by omega)
    · rintro (hShort | hZero)
      · rw [Nat.mod_eq_of_lt (by omega)]
      · simp [hZero]

end

/-- Formatting is inverse to parsing, and it shortens every amount whose fraction is counted
correctly. -/
theorem formatUnits_inverse {units decimals : ℕ} (hDecimals : decimals ≤ maxDecimals)
    (hFits : units ≤ u128Max) :
    (∃ human, formatUnits units.repr decimals = .ok human ∧
      parseUnits human decimals = .ok units.repr) ∧
    ∀ amount, parseUnits amount decimals = .ok units.repr →
      ((∃ human, formatUnits units.repr decimals = .ok human ∧ IsShortestOf amount human) ↔
        ¬HasLongFraction amount) := by
  rcases formatUnits_prints hDecimals hFits with ⟨human, hFormat, hPrints⟩
  refine ⟨⟨human, hFormat, parseUnits_of_prints hDecimals hFits hPrints⟩, ?_⟩
  intro amount hParsed
  rcases parsed_value hDecimals hParsed with ⟨value, hValue, hSame⟩
  rw [← hSame, ← isShortestOf_iff hPrints hValue]
  constructor
  · rintro ⟨human', hFormat', hShortest⟩
    rw [hFormat] at hFormat'
    cases hFormat'
    exact hShortest
  · intro hShortest
    exact ⟨human, hFormat, hShortest⟩

theorem formatUnits_inverse_of_half :
    (∃ human, formatUnits (500000).repr 6 = .ok human ∧
      parseUnits human 6 = .ok (500000).repr) ∧
    ∀ amount, parseUnits amount 6 = .ok (500000).repr →
      ((∃ human, formatUnits (500000).repr 6 = .ok human ∧ IsShortestOf amount human) ↔
        ¬HasLongFraction amount) :=
  formatUnits_inverse (show 6 ≤ 18 by omega) (by simp only [u128Max]; omega)

/-- A one behind a number of zeros and a point. -/
def oneBehind (zeros : ℕ) : String :=
  String.ofList (['0'] ++ '.' :: (List.replicate zeros '0' ++ ['1']))

theorem isPoint_oneBehind (zeros : ℕ) :
    IsPoint (oneBehind zeros) ['0'] (List.replicate zeros '0' ++ ['1']) := by
  have hFraction : IsNumeral (List.replicate zeros '0' ++ ['1']) := by
    refine ⟨by simp, ?_⟩
    rw [allDigits_append]
    exact ⟨allDigits_replicate_zero _, by simp⟩
  refine ⟨⟨by simp, by simp⟩, hFraction, ?_⟩
  rw [oneBehind, String.toList_ofList]

theorem length_oneBehind (zeros : ℕ) : (List.replicate zeros '0' ++ ['1']).length = zeros + 1 := by
  rw [List.length_append, List.length_replicate, List.length_singleton]

theorem decimalValue_oneBehind (zeros : ℕ) :
    decimalValue (['0'] ++ (List.replicate zeros '0' ++ ['1'])) = 1 := by
  rw [decimalValue_append, decimalValue_append, decimalValue_replicate_zero,
    decimalValue_singleton, decimalValue_singleton]
  simp

/-- A fraction that is as long as the count wraps around at is counted as empty. -/
theorem parseUnits_oneBehind {zeros : ℕ} (hZeros : zeros + 1 = 2 ^ 32) :
    parseUnits (oneBehind zeros) 0 = .ok "1" := by
  rw [parseUnits_eq_ok (Nat.zero_le _)]
  refine .inr ⟨_, _, isPoint_oneBehind zeros, ?_, ?_⟩
  · rw [length_oneBehind, hZeros, Nat.mod_self]
  · rw [pointUnits, decimalValue_oneBehind, length_oneBehind, hZeros, Nat.mod_self]
    rfl

theorem hasLongFraction_oneBehind {zeros : ℕ} (hZeros : zeros + 1 = 2 ^ 32) :
    HasLongFraction (oneBehind zeros) := by
  refine ⟨_, _, isPoint_oneBehind zeros, ?_, ?_⟩
  · rw [length_oneBehind, hZeros]
  · rw [decimalValue_oneBehind]
    exact one_ne_zero

theorem not_shortened_oneBehind {zeros : ℕ} (hZeros : zeros + 1 = 2 ^ 32) :
    ¬∃ human, formatUnits "1" 0 = .ok human ∧ IsShortestOf (oneBehind zeros) human := by
  rintro ⟨human, hFormat, hShortest⟩
  have hOne : (1 : ℕ).repr = "1" := rfl
  rcases formatUnits_prints (Nat.zero_le _) (by decide : 1 ≤ u128Max) with
    ⟨human', hFormat', hPrints⟩
  rw [hOne, hFormat] at hFormat'
  cases hFormat'
  have hParsed := parseUnits_oneBehind hZeros
  rw [← hOne] at hParsed
  rcases parsed_value (Nat.zero_le _) hParsed with ⟨value, hHas, hSame⟩
  have hEqual := (isShortestOf_iff hPrints hHas).mp hShortest
  exact hSame.mp hEqual (hasLongFraction_oneBehind hZeros)

/-- One base unit, written with a one behind as many zeros as the count of fraction digits
wraps around at. -/
def longOne : String :=
  oneBehind (2 ^ 32 - 1)

theorem longOne_not_shortened :
    parseUnits longOne 0 = .ok "1" ∧
      ¬∃ human, formatUnits "1" 0 = .ok human ∧ IsShortestOf longOne human :=
  ⟨parseUnits_oneBehind (by decide), not_shortened_oneBehind (by decide)⟩

end PayKit.Units
