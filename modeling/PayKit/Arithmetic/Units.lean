import PayKit.Arithmetic.Decimal
import PayKit.Control.Refusal
import PayKit.Encoding.Numeral

/-!
# Human amounts and base units

`core/units.rs`. `parseUnits` turns a human amount into base units of a token and `formatUnits`
turns base units back. A whole amount is read as a 128-bit integer and multiplied; an amount with
a point is put together from its digits as text, and the number of its fraction digits is taken
as a 32-bit integer.
-/

namespace PayKit.Units

open Control Encoding Machine

/-- The largest value of an unsigned 128-bit integer. -/
def u128Max : ℕ := 2 ^ 128 - 1

/-- `str::parse::<u128>`. -/
def parseU128 (text : String) : Option ℕ :=
  let digits := unsignedDigits text
  let value := decimalValue digits
  if digits ≠ [] ∧ digits.all Char.isDigit ∧ value ≤ u128Max then some value else none

/-- The result of a checked operation of `u128`. -/
def checkedU128 (value : ℕ) : Option ℕ :=
  if value ≤ u128Max then some value else none

def maxDecimals : ℕ := 18

/-- `split_once('.')`. -/
def splitPoint (chars : List Char) : Option (List Char × List Char) :=
  if '.' ∈ chars then
    some (chars.takeWhile (· ≠ '.'), (chars.dropWhile (· ≠ '.')).tail)
  else none

def parsePoint (amount : String) (integer fraction : List Char) (decimals : ℕ) :
    Except String String := do
  refuseIf (integer = [] ∨ fraction = [])
    s!"Invalid amount `{amount}`: integer and fractional parts must both be non-empty"
  refuseIf (¬(integer.all Char.isDigit ∧ fraction.all Char.isDigit))
    (s!"Invalid amount `{amount}`: only ASCII digits and a single optional decimal point are " ++
      "allowed")
  -- `fraction.len() as u32`
  let fracLen := fraction.length % 2 ^ 32
  refuseIf (decimals < fracLen) s!"Too many decimal places: {fracLen} > {decimals}"
  let combined := integer ++ fraction ++ List.replicate (decimals - fracLen) '0'
  let trimmed := trimLeadingZeros combined
  return if trimmed = [] then "0" else String.ofList trimmed

def parseWhole (amount : String) (decimals : ℕ) : Except String String := do
  let value ← okOr (parseU128 amount) ("Invalid amount: " ++ amount)
  let factor ← okOr (checkedU128 (10 ^ decimals)) s!"10^{decimals} overflows u128 in parse_units"
  let product ← okOr (checkedU128 (value * factor))
    s!"{value} * 10^{decimals} overflows u128 in parse_units"
  return product.repr

def parseUnits (amount : String) (decimals : ℕ) : Except String String := do
  refuseIf (maxDecimals < decimals) s!"Decimals {decimals} exceeds maximum {maxDecimals}"
  refuseIf (amount = "") "Empty amount"
  refuseIf (1 < amount.toList.count '.') s!"Invalid amount `{amount}`: more than one decimal point"
  match splitPoint amount.toList with
  | some (integer, fraction) => parsePoint amount integer fraction decimals
  | none => parseWhole amount decimals

def formatUnits (baseUnits : String) (decimals : ℕ) : Except String String := do
  refuseIf (maxDecimals < decimals) s!"Decimals {decimals} exceeds maximum {maxDecimals}"
  refuseIf (baseUnits = "" ∨ ¬baseUnits.toList.all Char.isDigit)
    ("Invalid base units: " ++ baseUnits)
  let units ← okOr (parseU128 baseUnits) ("Invalid base units: " ++ baseUnits)
  let scale := 10 ^ decimals
  if units % scale = 0 then return (units / scale).repr
  else
    let frac := zeroPadded decimals (units % scale)
    return (units / scale).repr ++ "." ++ String.ofList (trimTrailingZeros frac)

/-! ### Numerals and points -/

section

variable {digits integer fraction chars : List Char} {decimals : ℕ} {amount result : String}

theorem all_isDigit : digits.all Char.isDigit = true ↔ AllDigits digits := by
  simp [AllDigits]

theorem not_mem_of_allDigits {char : Char} (hDigits : AllDigits digits)
    (hChar : char.isDigit = false) : char ∉ digits := by
  intro hMember
  have hDigit := hDigits char hMember
  rw [hChar] at hDigit
  cases hDigit

theorem splitPoint_eq_some (hInteger : '.' ∉ integer) :
    splitPoint (integer ++ '.' :: fraction) = some (integer, fraction) := by
  have hAll : ∀ char ∈ integer, decide (char ≠ '.') = true := by
    intro char hChar
    rw [decide_eq_true_eq]
    rintro rfl
    exact hInteger hChar
  rw [splitPoint, if_pos (by simp), List.takeWhile_append_of_pos hAll,
    List.dropWhile_append_of_pos hAll]
  simp

theorem eq_of_splitPoint {parts : List Char × List Char} (hSplit : splitPoint chars = some parts) :
    chars = parts.1 ++ '.' :: parts.2 := by
  simp only [splitPoint] at hSplit
  split at hSplit
  next hPoint =>
    cases hSplit
    have hAppend := List.takeWhile_append_dropWhile (p := (· ≠ '.')) (l := chars)
    cases hDrop : chars.dropWhile (· ≠ '.') with
    | nil =>
        have hNone := List.dropWhile_eq_nil_iff.mp hDrop '.' hPoint
        simp at hNone
    | cons first rest =>
        have hFirst : first = '.' := by
          have hNot := List.head?_dropWhile_not (fun char : Char => decide (char ≠ '.')) chars
          rw [hDrop] at hNot
          simpa using hNot
        rw [hDrop, hFirst] at hAppend
        exact hAppend.symm
  next => cases hSplit

theorem parseU128_eq_some {value : ℕ} :
    parseU128 amount = some value ↔ ∃ digits, IsNumeral digits ∧
      (amount.toList = digits ∨ amount.toList = '+' :: digits) ∧
      decimalValue digits = value ∧ value ≤ u128Max := by
  simp only [parseU128]
  constructor
  · intro hParsed
    split at hParsed
    next hDigits =>
      cases hParsed
      refine ⟨unsignedDigits amount, ⟨hDigits.1, all_isDigit.mp hDigits.2.1⟩, ?_, rfl,
        hDigits.2.2⟩
      simp only [unsignedDigits]
      split
      next digits hPlus => exact .inr hPlus
      next => exact .inl rfl
    next => cases hParsed
  · rintro ⟨digits, hNumeral, hAmount, rfl, hFits⟩
    have hUnsigned : unsignedDigits amount = digits := by
      simp only [unsignedDigits]
      rcases hAmount with hWhole | hSigned
      · rw [hWhole]
        split
        next rest =>
          have hPlus := hNumeral.digits '+' List.mem_cons_self
          cases hPlus
        next => rfl
      · rw [hSigned]
        rfl
    rw [hUnsigned, if_pos ⟨hNumeral.nonempty, all_isDigit.mpr hNumeral.digits, hFits⟩]

/-! ### What the two parsers accept -/

/-- The base units of an amount with a point, whose fraction is counted in 32 bits. -/
def pointUnits (integer fraction : List Char) (decimals : ℕ) : ℕ :=
  decimalValue (integer ++ fraction) * 10 ^ (decimals - fraction.length % 2 ^ 32)

/-- A whole amount, which may have a plus sign. -/
structure IsWhole (amount : String) (digits : List Char) : Prop where
  numeral : IsNumeral digits
  text : amount.toList = digits ∨ amount.toList = '+' :: digits

structure IsPoint (amount : String) (integer fraction : List Char) : Prop where
  whole : IsNumeral integer
  places : IsNumeral fraction
  text : amount.toList = integer ++ '.' :: fraction

theorem IsWhole.noPoint (hWhole : IsWhole amount digits) : '.' ∉ amount.toList := by
  have hDigits : '.' ∉ digits := not_mem_of_allDigits hWhole.numeral.digits rfl
  rcases hWhole.text with hText | hText
  · rwa [hText]
  · simp [hText, hDigits]

theorem IsPoint.splits (hPoint : IsPoint amount integer fraction) :
    splitPoint amount.toList = some (integer, fraction) := by
  rw [hPoint.text]
  exact splitPoint_eq_some (not_mem_of_allDigits hPoint.whole.digits rfl)

theorem repr_trimmed (hDigits : AllDigits digits) :
    (if trimLeadingZeros digits = [] then "0" else String.ofList (trimLeadingZeros digits)) =
      (decimalValue digits).repr := by
  rw [trimLeadingZeros_eq hDigits]
  by_cases hZero : decimalValue digits = 0
  · simp [hZero]
    rfl
  · simp [hZero, Nat.toDigits_ne_nil, Nat.repr_eq_ofList_toDigits]

theorem parsePoint_eq_ok :
    parsePoint amount integer fraction decimals = .ok result ↔
      IsNumeral integer ∧ IsNumeral fraction ∧ fraction.length % 2 ^ 32 ≤ decimals ∧
        result = (pointUnits integer fraction decimals).repr := by
  simp only [parsePoint, bind_eq_ok, refuseIf_eq_ok, exists_const, pure, Except.pure,
    Except.ok.injEq, not_or, not_not, all_isDigit]
  have hValue : AllDigits integer → AllDigits fraction →
      (if trimLeadingZeros (integer ++ fraction ++
          List.replicate (decimals - fraction.length % 2 ^ 32) '0') = [] then "0"
        else String.ofList (trimLeadingZeros (integer ++ fraction ++
          List.replicate (decimals - fraction.length % 2 ^ 32) '0'))) =
        (pointUnits integer fraction decimals).repr := by
    intro hInteger hFraction
    have hDigits : AllDigits (integer ++ fraction ++
        List.replicate (decimals - fraction.length % 2 ^ 32) '0') :=
      allDigits_append.mpr ⟨allDigits_append.mpr ⟨hInteger, hFraction⟩,
        allDigits_replicate_zero _⟩
    rw [repr_trimmed hDigits, decimalValue_append, decimalValue_replicate_zero,
      List.length_replicate, Nat.add_zero, pointUnits]
  constructor
  · rintro ⟨⟨hInteger, hFraction⟩, ⟨hIntegerDigits, hFractionDigits⟩, hPlaces, rfl⟩
    exact ⟨⟨hInteger, hIntegerDigits⟩, ⟨hFraction, hFractionDigits⟩, Nat.le_of_not_lt hPlaces,
      hValue hIntegerDigits hFractionDigits⟩
  · rintro ⟨hInteger, hFraction, hPlaces, rfl⟩
    exact ⟨⟨hInteger.nonempty, hFraction.nonempty⟩, ⟨hInteger.digits, hFraction.digits⟩,
      Nat.not_lt_of_le hPlaces, hValue hInteger.digits hFraction.digits⟩

theorem checkedU128_eq_some {value value' : ℕ} :
    checkedU128 value = some value' ↔ value ≤ u128Max ∧ value = value' := by
  simp [checkedU128]

theorem parseWhole_eq_ok (hDecimals : decimals ≤ maxDecimals) :
    parseWhole amount decimals = .ok result ↔
      ∃ digits, IsWhole amount digits ∧ decimalValue digits * 10 ^ decimals ≤ u128Max ∧
        result = (decimalValue digits * 10 ^ decimals).repr := by
  have hFactor : 10 ^ decimals ≤ u128Max := by
    have hPower : 10 ^ decimals ≤ 10 ^ maxDecimals := Nat.pow_le_pow_right (by decide) hDecimals
    exact hPower.trans (by decide)
  simp only [parseWhole, bind_eq_ok, okOr_eq_ok, parseU128_eq_some, checkedU128_eq_some, pure,
    Except.pure, Except.ok.injEq]
  constructor
  · rintro ⟨value, ⟨digits, hNumeral, hText, rfl, -⟩, factor, ⟨-, rfl⟩, product, ⟨hFits, rfl⟩,
      rfl⟩
    exact ⟨digits, ⟨hNumeral, hText⟩, hFits, rfl⟩
  · rintro ⟨digits, hWhole, hFits, rfl⟩
    have hValue : decimalValue digits ≤ u128Max := by
      have hPositive : 0 < 10 ^ decimals := by positivity
      exact (Nat.le_mul_of_pos_right _ hPositive).trans hFits
    exact ⟨_, ⟨digits, hWhole.numeral, hWhole.text, rfl, hValue⟩, _, ⟨hFactor, rfl⟩, _,
      ⟨hFits, rfl⟩, rfl⟩

theorem parseUnits_eq_ok (hDecimals : decimals ≤ maxDecimals) :
    parseUnits amount decimals = .ok result ↔
      (∃ digits, IsWhole amount digits ∧ decimalValue digits * 10 ^ decimals ≤ u128Max ∧
        result = (decimalValue digits * 10 ^ decimals).repr) ∨
      ∃ integer fraction, IsPoint amount integer fraction ∧
        fraction.length % 2 ^ 32 ≤ decimals ∧
        result = (pointUnits integer fraction decimals).repr := by
  simp only [parseUnits, bind_eq_ok, refuseIf_eq_ok, exists_const]
  constructor
  · rintro ⟨-, -, -, hParsed⟩
    split at hParsed
    next integer fraction hSplit =>
      rcases parsePoint_eq_ok.mp hParsed with ⟨hInteger, hFraction, hPlaces, hResult⟩
      exact .inr ⟨integer, fraction, ⟨hInteger, hFraction, eq_of_splitPoint hSplit⟩, hPlaces,
        hResult⟩
    next => exact .inl ((parseWhole_eq_ok hDecimals).mp hParsed)
  · rintro (hWhole | ⟨integer, fraction, hPoint, hPlaces, hResult⟩)
    · rcases hWhole with ⟨digits, hDigits, hRest⟩
      have hNoPoint := hDigits.noPoint
      have hNonempty : amount ≠ "" := by
        rintro rfl
        rcases hDigits.text with hText | hText
        · exact hDigits.numeral.nonempty hText.symm
        · cases hText
      have hCount : amount.toList.count '.' = 0 := List.count_eq_zero.mpr hNoPoint
      have hSplit : splitPoint amount.toList = none := by rw [splitPoint, if_neg hNoPoint]
      refine ⟨by omega, hNonempty, by omega, ?_⟩
      rw [hSplit]
      exact (parseWhole_eq_ok hDecimals).mpr ⟨digits, hDigits, hRest⟩
    · have hNonempty : amount ≠ "" := by
        rintro rfl
        have hText := hPoint.text
        simp at hText
      have hCount : amount.toList.count '.' = 1 := by
        have hInteger : integer.count '.' = 0 :=
          List.count_eq_zero.mpr (not_mem_of_allDigits hPoint.whole.digits rfl)
        have hFraction : fraction.count '.' = 0 :=
          List.count_eq_zero.mpr (not_mem_of_allDigits hPoint.places.digits rfl)
        rw [hPoint.text, List.count_append, List.count_cons_self, hInteger, hFraction]
      refine ⟨by omega, hNonempty, by omega, ?_⟩
      rw [hPoint.splits]
      exact parsePoint_eq_ok.mpr ⟨hPoint.whole, hPoint.places, hPlaces, hResult⟩

end

end PayKit.Units
