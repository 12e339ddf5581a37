import PayKit.Arithmetic.Units

/-!
# Which amounts are parsed, and to what

An amount of the grammar is a numeral, or two numerals joined by a point. The parser accepts
those whose base units fit 128 bits, and returns the base units exactly, except that a whole
amount may have a plus sign and that nothing bounds an amount with a point: neither its value
nor, beyond the 32 bits that count it, its fraction.
-/

namespace PayKit.Units

open Control Encoding Machine

/-- The amount is in the grammar, with so many fraction digits, and has the value. -/
inductive Denotes (amount : String) : ℕ → ℚ → Prop where
  | whole {digits : List Char} (hNumeral : IsNumeral digits) (hText : amount.toList = digits) :
      Denotes amount 0 (decimalValue digits)
  | point {integer fraction : List Char} (hPoint : IsPoint amount integer fraction) :
      Denotes amount fraction.length (decimalValue (integer ++ fraction) / 10 ^ fraction.length)

/-- The parser accepts the amount exactly when it is in the grammar and fits, and returns its
base units. -/
def ParsesExactly (amount : String) (decimals : ℕ) : Prop :=
  ∀ result, parseUnits amount decimals = .ok result ↔
    ∃ (places units : ℕ) (value : ℚ), Denotes amount places value ∧ places ≤ decimals ∧
      (units : ℚ) = value * 10 ^ decimals ∧ units ≤ u128Max ∧ result = units.repr

/-- A whole amount with a plus sign. -/
def IsSigned (amount : String) (decimals : ℕ) : Prop :=
  ∃ digits, IsNumeral digits ∧ amount.toList = '+' :: digits ∧
    decimalValue digits * 10 ^ decimals ≤ u128Max

/-- An amount with a point that does not fit. -/
def IsOversized (amount : String) (decimals : ℕ) : Prop :=
  ∃ integer fraction, IsPoint amount integer fraction ∧ fraction.length % 2 ^ 32 ≤ decimals ∧
    (decimals < fraction.length ∨
      u128Max < decimalValue (integer ++ fraction) * 10 ^ (decimals - fraction.length))

section

variable {digits integer fraction : List Char} {decimals : ℕ} {amount : String}

theorem isPoint_unique {integer' fraction' : List Char} (hPoint : IsPoint amount integer fraction)
    (hPoint' : IsPoint amount integer' fraction') : integer = integer' ∧ fraction = fraction' := by
  have hSame := hPoint.splits.symm.trans hPoint'.splits
  simpa using hSame

theorem IsWhole.not_isPoint (hWhole : IsWhole amount digits) :
    ¬IsPoint amount integer fraction := by
  intro hPoint
  apply hWhole.noPoint
  rw [hPoint.text]
  simp

theorem not_numeral_of_signed (hText : amount.toList = '+' :: digits) :
    ¬IsNumeral amount.toList := by
  intro hNumeral
  rw [hText] at hNumeral
  have hPlus := hNumeral.digits '+' List.mem_cons_self
  cases hPlus

theorem units_eq_iff {units numerator places : ℕ} (hPlaces : places ≤ decimals) :
    (units : ℚ) = (numerator : ℚ) / 10 ^ places * 10 ^ decimals ↔
      units = numerator * 10 ^ (decimals - places) := by
  have hPower : (10 : ℚ) ^ decimals = 10 ^ (decimals - places) * 10 ^ places := by
    rw [← pow_add, Nat.sub_add_cancel hPlaces]
  have hNonzero : (10 : ℚ) ^ places ≠ 0 := by positivity
  rw [hPower, ← mul_assoc, mul_right_comm, div_mul_cancel₀ _ hNonzero]
  constructor
  · intro hUnits
    exact_mod_cast hUnits
  · rintro rfl
    push_cast
    rfl

theorem mod_length (hDecimals : decimals ≤ maxDecimals) (hPlaces : fraction.length ≤ decimals) :
    fraction.length % 2 ^ 32 = fraction.length := by
  simp only [maxDecimals] at hDecimals
  omega

theorem not_signed_of_parsesExactly (hDecimals : decimals ≤ maxDecimals)
    (hExact : ParsesExactly amount decimals) : ¬IsSigned amount decimals := by
  rintro ⟨digits, hNumeral, hText, hFits⟩
  have hParsed : parseUnits amount decimals = .ok (decimalValue digits * 10 ^ decimals).repr :=
    (parseUnits_eq_ok hDecimals).mpr (.inl ⟨digits, ⟨hNumeral, .inr hText⟩, hFits, rfl⟩)
  rcases (hExact _).mp hParsed with ⟨places, units, value, hDenotes, -⟩
  cases hDenotes with
  | whole hNumeral' hText' =>
      rw [← hText'] at hNumeral'
      exact not_numeral_of_signed hText hNumeral'
  | point hPoint => exact IsWhole.not_isPoint ⟨hNumeral, .inr hText⟩ hPoint

theorem not_oversized_of_parsesExactly (hDecimals : decimals ≤ maxDecimals)
    (hExact : ParsesExactly amount decimals) : ¬IsOversized amount decimals := by
  rintro ⟨integer, fraction, hPoint, hCounted, hOver⟩
  have hParsed : parseUnits amount decimals = .ok (pointUnits integer fraction decimals).repr :=
    (parseUnits_eq_ok hDecimals).mpr (.inr ⟨integer, fraction, hPoint, hCounted, rfl⟩)
  rcases (hExact _).mp hParsed with ⟨places, units, value, hDenotes, hPlaces, hUnits, hFits, -⟩
  cases hDenotes with
  | whole hNumeral hText => exact IsWhole.not_isPoint ⟨hNumeral, .inl hText⟩ hPoint
  | point hPoint' =>
      rcases isPoint_unique hPoint hPoint' with ⟨rfl, rfl⟩
      rw [units_eq_iff hPlaces] at hUnits
      omega

theorem parsesExactly_of_not (hDecimals : decimals ≤ maxDecimals)
    (hSigned : ¬IsSigned amount decimals) (hOversized : ¬IsOversized amount decimals) :
    ParsesExactly amount decimals := by
  intro result
  rw [parseUnits_eq_ok hDecimals]
  constructor
  · rintro (⟨digits, hWhole, hFits, rfl⟩ | ⟨integer, fraction, hPoint, hCounted, rfl⟩)
    · rcases hWhole.text with hText | hText
      · exact ⟨0, _, _, .whole hWhole.numeral hText, Nat.zero_le _, by push_cast; rfl, hFits, rfl⟩
      · exact absurd ⟨digits, hWhole.numeral, hText, hFits⟩ hSigned
    · have hPlaces : fraction.length ≤ decimals := by
        by_contra hMany
        exact hOversized ⟨integer, fraction, hPoint, hCounted, .inl (Nat.lt_of_not_le hMany)⟩
      have hFits : pointUnits integer fraction decimals ≤ u128Max := by
        rw [pointUnits, mod_length hDecimals hPlaces]
        by_contra hLarge
        exact hOversized ⟨integer, fraction, hPoint, hCounted, .inr (Nat.lt_of_not_le hLarge)⟩
      refine ⟨_, _, _, .point hPoint, hPlaces, ?_, hFits, rfl⟩
      rw [units_eq_iff hPlaces, pointUnits, mod_length hDecimals hPlaces]
  · rintro ⟨places, units, value, hDenotes, hPlaces, hUnits, hFits, rfl⟩
    cases hDenotes with
    | @whole digits hNumeral hText =>
        have hSame : units = decimalValue digits * 10 ^ decimals := by exact_mod_cast hUnits
        subst hSame
        exact .inl ⟨_, ⟨hNumeral, .inl hText⟩, hFits, rfl⟩
    | @point integer fraction hPoint =>
        rw [units_eq_iff hPlaces] at hUnits
        subst hUnits
        refine .inr ⟨integer, fraction, hPoint, ?_, ?_⟩
        · rwa [mod_length hDecimals hPlaces]
        · rw [pointUnits, mod_length hDecimals hPlaces]

theorem pointZero_agrees_iff (hNumeral : IsNumeral digits) (hPositive : 1 ≤ decimals)
    (hDecimals : decimals ≤ maxDecimals) :
    (∀ result, parseUnits (String.ofList digits) decimals = .ok result ↔
      parseUnits (String.ofList (digits ++ ['.', '0'])) decimals = .ok result) ↔
      decimalValue digits * 10 ^ decimals ≤ u128Max := by
  have hZero : IsNumeral ['0'] := ⟨by simp, by simp⟩
  have hPoint : IsPoint (String.ofList (digits ++ ['.', '0'])) digits ['0'] :=
    ⟨hNumeral, hZero, by simp⟩
  have hUnits : pointUnits digits ['0'] decimals = decimalValue digits * 10 ^ decimals := by
    have hSplit : 10 ^ decimals = 10 * 10 ^ (decimals - 1) := by
      rw [← Nat.pow_succ', Nat.succ_eq_add_one, Nat.sub_add_cancel hPositive]
    simp [pointUnits, decimalValue_append, decimalValue_singleton, hSplit, Nat.mul_assoc]
  have hPointed : parseUnits (String.ofList (digits ++ ['.', '0'])) decimals =
      .ok (decimalValue digits * 10 ^ decimals).repr := by
    rw [parseUnits_eq_ok hDecimals, ← hUnits]
    exact .inr ⟨digits, ['0'], hPoint, by simpa using hPositive, rfl⟩
  constructor
  · intro hAgree
    rcases (parseUnits_eq_ok hDecimals).mp ((hAgree _).mpr hPointed) with
      ⟨digits', hWhole, hFits, -⟩ | ⟨integer, fraction, hOther, -⟩
    · have hSame : digits' = digits := by
        rcases hWhole.text with hText | hText
        · simpa using hText.symm
        · exact absurd (by simpa using hNumeral) (not_numeral_of_signed hText)
      rwa [hSame] at hFits
    · exact absurd hOther (IsWhole.not_isPoint ⟨hNumeral, .inl (by simp)⟩)
  · intro hFits result
    have hWhole : parseUnits (String.ofList digits) decimals =
        .ok (decimalValue digits * 10 ^ decimals).repr :=
      (parseUnits_eq_ok hDecimals).mpr (.inl ⟨digits, ⟨hNumeral, .inl (by simp)⟩, hFits, rfl⟩)
    rw [hWhole, hPointed]

end

/-- The parser is exact, but for amounts with a plus sign and for amounts with a point that do
not fit. -/
theorem parseUnits_exact_iff {decimals : ℕ} (hDecimals : decimals ≤ maxDecimals) :
    (∀ amount, ParsesExactly amount decimals ↔
      ¬IsSigned amount decimals ∧ ¬IsOversized amount decimals) ∧
    ∀ digits, IsNumeral digits → 1 ≤ decimals →
      ((∀ result, parseUnits (String.ofList digits) decimals = .ok result ↔
        parseUnits (String.ofList (digits ++ ['.', '0'])) decimals = .ok result) ↔
        decimalValue digits * 10 ^ decimals ≤ u128Max) := by
  refine ⟨?_, ?_⟩
  · intro amount
    constructor
    · intro hExact
      exact ⟨not_signed_of_parsesExactly hDecimals hExact,
        not_oversized_of_parsesExactly hDecimals hExact⟩
    · rintro ⟨hSigned, hOversized⟩
      exact parsesExactly_of_not hDecimals hSigned hOversized
  · intro digits hNumeral hPositive
    exact pointZero_agrees_iff hNumeral hPositive hDecimals

theorem parseUnits_exact_iff_of_six :
    (∀ amount, ParsesExactly amount 6 ↔ ¬IsSigned amount 6 ∧ ¬IsOversized amount 6) ∧
    ∀ digits, IsNumeral digits → 1 ≤ 6 →
      ((∀ result, parseUnits (String.ofList digits) 6 = .ok result ↔
        parseUnits (String.ofList (digits ++ ['.', '0'])) 6 = .ok result) ↔
        decimalValue digits * 10 ^ 6 ≤ u128Max) :=
  parseUnits_exact_iff (show 6 ≤ 18 by omega)

/-- A plus sign is accepted. -/
theorem plusSign_accepted :
    parseUnits "+1" 6 = .ok "1000000" ∧ ¬ParsesExactly "+1" 6 := by
  have hAccepted : parseUnits "+1" 6 = .ok "1000000" := by decide
  refine ⟨hAccepted, ?_⟩
  intro hExact
  rcases (hExact _).mp hAccepted with ⟨places, units, value, hDenotes, -⟩
  cases hDenotes with
  | whole hNumeral hText =>
      subst hText
      have hPlus := hNumeral.digits '+' (by decide)
      cases hPlus
  | point hPoint =>
      have hMember : '.' ∈ "+1".toList := by
        rw [hPoint.text]
        simp
      revert hMember
      decide

end PayKit.Units
