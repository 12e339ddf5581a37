import Mathlib.Data.List.DropRight
import Mathlib.Tactic

/-!
# Decimal numerals

A numeral is a non-empty string of decimal digits. Its length and its value determine it, so a
numeral without a leading zero is the shortest one of its value and is what the number prints
as. Leading zeros do not change the value, and trailing zeros multiply it by a power of ten.
-/

namespace PayKit.Encoding

/-- The number that a string of digits writes. -/
def decimalValue (digits : List Char) : ℕ :=
  Nat.ofDigitChars 10 digits 0

def AllDigits (chars : List Char) : Prop :=
  ∀ char ∈ chars, char.isDigit = true

structure IsNumeral (chars : List Char) : Prop where
  nonempty : chars ≠ []
  digits : AllDigits chars

/-! ### Values -/

@[simp]
theorem decimalValue_nil : decimalValue [] = 0 :=
  rfl

theorem decimalValue_append (left right : List Char) :
    decimalValue (left ++ right) = decimalValue left * 10 ^ right.length + decimalValue right := by
  simp only [decimalValue, Nat.ofDigitChars_append]
  rw [Nat.ofDigitChars_eq_ofDigitChars_zero, Nat.mul_comm]

@[simp]
theorem decimalValue_replicate_zero (count : ℕ) : decimalValue (List.replicate count '0') = 0 := by
  simp [decimalValue]

theorem decimalValue_singleton (char : Char) : decimalValue [char] = char.toNat - 48 := by
  simp [decimalValue, Nat.ofDigitChars_cons]

@[simp]
theorem decimalValue_toDigits (number : ℕ) : decimalValue (Nat.toDigits 10 number) = number :=
  Nat.ofDigitChars_ten_toDigits

theorem repr_injective {left right : ℕ} (hSame : left.repr = right.repr) : left = right := by
  have hDigits := congrArg (fun text => decimalValue (String.toList text)) hSame
  simpa using hDigits

theorem toNat_of_isDigit {char : Char} (hDigit : char.isDigit = true) :
    48 ≤ char.toNat ∧ char.toNat ≤ 57 := by
  simpa [Char.isDigit, Char.le_def, UInt32.le_iff_toNat_le] using hDigit

theorem digit_eq {left right : Char} (hLeft : left.isDigit = true) (hRight : right.isDigit = true)
    (hSame : left.toNat - 48 = right.toNat - 48) : left = right := by
  have hLeftRange := toNat_of_isDigit hLeft
  have hRightRange := toNat_of_isDigit hRight
  apply Char.ext
  apply UInt32.toNat_inj.mp
  change left.toNat = right.toNat
  omega

/-! ### Strings of digits -/

section

variable {left right digits : List Char} {char : Char}

@[simp]
theorem allDigits_nil : AllDigits [] := by
  simp [AllDigits]

@[simp]
theorem allDigits_append : AllDigits (left ++ right) ↔ AllDigits left ∧ AllDigits right :=
  List.forall_mem_append

@[simp]
theorem allDigits_singleton : AllDigits [char] ↔ char.isDigit = true := by
  simp [AllDigits]

theorem allDigits_replicate_zero (count : ℕ) : AllDigits (List.replicate count '0') := by
  intro char hChar
  rw [List.eq_of_mem_replicate hChar]
  rfl

theorem isNumeral_toDigits (number : ℕ) : IsNumeral (Nat.toDigits 10 number) :=
  ⟨Nat.toDigits_ne_nil, fun _ hChar =>
    Nat.isDigit_of_mem_toDigits (by decide) (by decide) hChar⟩

theorem decimalValue_lt (hDigits : AllDigits digits) : decimalValue digits < 10 ^ digits.length := by
  induction digits using List.reverseRecOn with
  | nil => simp
  | append_singleton rest last hInduction =>
      rw [allDigits_append, allDigits_singleton] at hDigits
      have hRest := hInduction hDigits.1
      have hLast := toNat_of_isDigit hDigits.2
      rw [decimalValue_append, decimalValue_singleton, List.length_append, List.length_singleton,
        pow_one, pow_succ]
      omega

theorem eq_of_decimalValue (hLeft : AllDigits left) (hRight : AllDigits right)
    (hLength : left.length = right.length) (hValue : decimalValue left = decimalValue right) :
    left = right := by
  induction left using List.reverseRecOn generalizing right with
  | nil => exact (List.eq_nil_of_length_eq_zero (by simpa using hLength.symm)).symm
  | append_singleton rest last hInduction =>
      cases right using List.reverseRecOn with
      | nil => simp at hLength
      | append_singleton rest' last' =>
          rw [allDigits_append, allDigits_singleton] at hLeft hRight
          rw [List.length_append, List.length_append] at hLength
          simp only [decimalValue_append, decimalValue_singleton, List.length_singleton,
            pow_one] at hValue
          have hLast := toNat_of_isDigit hLeft.2
          have hLast' := toNat_of_isDigit hRight.2
          have hRest := hInduction hLeft.1 hRight.1 (by simpa using hLength) (by omega)
          rw [hRest, digit_eq hLeft.2 hRight.2 (by omega)]

theorem decimalValue_pos (hDigits : AllDigits (char :: digits)) (hHead : char ≠ '0') :
    0 < decimalValue (char :: digits) := by
  have hChar : char.isDigit = true := hDigits char List.mem_cons_self
  have hRange := toNat_of_isDigit hChar
  have hPositive : 0 < decimalValue [char] := by
    rw [decimalValue_singleton]
    by_contra hZero
    exact hHead (digit_eq hChar rfl (by
      change char.toNat - 48 = 0
      omega))
  have hAppend := decimalValue_append [char] digits
  rw [List.singleton_append] at hAppend
  rw [hAppend]
  have hPower : 0 < 10 ^ digits.length := by positivity
  have hProduct := Nat.mul_pos hPositive hPower
  omega

theorem toDigits_digit (hDigit : char.isDigit = true) :
    Nat.toDigits 10 (char.toNat - 48) = [char] := by
  have hRange := toNat_of_isDigit hDigit
  have hSingle : Nat.toDigits 10 (char.toNat - 48) = [(char.toNat - 48).digitChar] :=
    Nat.toDigits_of_lt_base (by omega)
  have hNumeral := isNumeral_toDigits (char.toNat - 48)
  rw [hSingle] at hNumeral ⊢
  apply congrArg (· :: [])
  apply digit_eq (hNumeral.digits _ List.mem_cons_self) hDigit
  rw [Nat.toNat_digitChar_of_lt_ten (by omega)]
  omega

theorem toDigits_decimalValue (hDigits : AllDigits (char :: digits)) (hHead : char ≠ '0') :
    Nat.toDigits 10 (decimalValue (char :: digits)) = char :: digits := by
  induction digits using List.reverseRecOn with
  | nil =>
      rw [decimalValue_singleton]
      exact toDigits_digit (hDigits char List.mem_cons_self)
  | append_singleton rest last hInduction =>
      rw [← List.cons_append, allDigits_append, allDigits_singleton] at hDigits
      have hLast := toNat_of_isDigit hDigits.2
      have hValue : decimalValue (char :: (rest ++ [last])) =
          10 * decimalValue (char :: rest) + (last.toNat - 48) := by
        rw [← List.cons_append, decimalValue_append, decimalValue_singleton, List.length_singleton,
          pow_one, Nat.mul_comm]
      rw [hValue, ← Nat.toDigits_append_toDigits (by decide)
        (decimalValue_pos hDigits.1 hHead) (by omega), hInduction hDigits.1,
        toDigits_digit hDigits.2, List.cons_append]

/-- The numeral that a number prints as is the shortest one of its value, and the only one of
that length. -/
theorem shortest_toDigits (hNumeral : IsNumeral digits) :
    (Nat.toDigits 10 (decimalValue digits)).length ≤ digits.length ∧
      (digits.length = (Nat.toDigits 10 (decimalValue digits)).length →
        digits = Nat.toDigits 10 (decimalValue digits)) := by
  have hPositive : 0 < digits.length := List.length_pos_of_ne_nil hNumeral.nonempty
  refine ⟨?_, ?_⟩
  · exact (Nat.length_toDigits_le_iff (by decide) hPositive).mpr (decimalValue_lt hNumeral.digits)
  · intro hLength
    apply eq_of_decimalValue hNumeral.digits (isNumeral_toDigits _).digits hLength
    rw [decimalValue_toDigits]

/-! ### Leading zeros -/

/-- `trim_start_matches('0')`. -/
def trimLeadingZeros (chars : List Char) : List Char :=
  chars.dropWhile (· = '0')

/-- What is left of a string of digits without its leading zeros is what its value prints as, or
nothing if the value is zero. -/
theorem trimLeadingZeros_eq (hDigits : AllDigits digits) :
    trimLeadingZeros digits =
      if decimalValue digits = 0 then [] else Nat.toDigits 10 (decimalValue digits) := by
  induction digits with
  | nil => rfl
  | cons first rest hInduction =>
      have hRest : AllDigits rest := fun char hChar => hDigits char (List.mem_cons_of_mem _ hChar)
      by_cases hZero : first = '0'
      · subst hZero
        have hValue : decimalValue ('0' :: rest) = decimalValue rest := by
          have hAppend := decimalValue_append ['0'] rest
          simpa [decimalValue_singleton] using hAppend
        rw [hValue, ← hInduction hRest]
        simp [trimLeadingZeros]
      · have hPositive := decimalValue_pos hDigits hZero
        rw [if_neg (by omega), toDigits_decimalValue hDigits hZero]
        simp [trimLeadingZeros, hZero]

/-! ### Trailing zeros -/

/-- `trim_end_matches('0')`. -/
def trimTrailingZeros (chars : List Char) : List Char :=
  chars.rdropWhile (· = '0')

theorem exists_trailingZeros (chars : List Char) :
    ∃ count, chars = trimTrailingZeros chars ++ List.replicate count '0' := by
  induction chars using List.reverseRecOn with
  | nil => exact ⟨0, rfl⟩
  | append_singleton rest last hInduction =>
      by_cases hZero : last = '0'
      · subst hZero
        rcases hInduction with ⟨count, hRest⟩
        refine ⟨count + 1, ?_⟩
        rw [List.replicate_succ', ← List.append_assoc, trimTrailingZeros,
          List.rdropWhile_concat_pos _ _ _ (by simp), ← trimTrailingZeros, ← hRest]
      · refine ⟨0, ?_⟩
        rw [trimTrailingZeros, List.rdropWhile_concat_neg _ _ _ (by simp [hZero])]
        simp

/-- Without trailing zeros a string of digits writes no multiple of ten. -/
theorem not_ten_dvd_trimTrailingZeros (hDigits : AllDigits (left ++ digits))
    (hNonempty : trimTrailingZeros digits ≠ []) :
    ¬10 ∣ decimalValue (left ++ trimTrailingZeros digits) := by
  rcases exists_trailingZeros digits with ⟨count, hSplit⟩
  rcases List.eq_nil_or_concat (trimTrailingZeros digits) with hNil | ⟨rest, last, hConcat⟩
  · exact absurd hNil hNonempty
  · have hLastZero : last ≠ '0' := by
      have hLast := List.rdropWhile_last_not (fun char : Char => decide (char = '0')) digits
        hNonempty
      have hLastIs : (trimTrailingZeros digits).getLast hNonempty = last := by simp [hConcat]
      rw [← hLastIs]
      simpa [trimTrailingZeros] using hLast
    have hLastDigit : last.isDigit = true := by
      apply hDigits
      rw [hSplit, hConcat]
      simp
    have hRange := toNat_of_isDigit hLastDigit
    have hNotZero : last.toNat - 48 ≠ 0 := by
      intro hZero
      exact hLastZero (digit_eq hLastDigit rfl hZero)
    rw [hConcat, List.concat_eq_append, ← List.append_assoc, decimalValue_append,
      decimalValue_singleton, List.length_singleton, pow_one]
    omega

/-! ### Padding -/

/-- A number in a field of some width, as `{number:0width$}` prints it. -/
def zeroPadded (width number : ℕ) : List Char :=
  List.replicate (width - (Nat.toDigits 10 number).length) '0' ++ Nat.toDigits 10 number

theorem allDigits_zeroPadded (width number : ℕ) : AllDigits (zeroPadded width number) :=
  allDigits_append.mpr ⟨allDigits_replicate_zero _, (isNumeral_toDigits number).digits⟩

@[simp]
theorem decimalValue_zeroPadded (width number : ℕ) :
    decimalValue (zeroPadded width number) = number := by
  simp [zeroPadded, decimalValue_append]

theorem length_zeroPadded {width number : ℕ} (hWidth : 0 < width) (hFits : number < 10 ^ width) :
    (zeroPadded width number).length = width := by
  have hLength := (Nat.length_toDigits_le_iff (by decide) hWidth).mpr hFits
  simp only [zeroPadded, List.length_append, List.length_replicate]
  omega

end

end PayKit.Encoding
