import Mathlib.Data.List.TakeWhile
import Mathlib.Data.Nat.Digits.Lemmas
import Mathlib.Tactic

/-!
# Changing the radix of a digit string

A digit string is a list of digits, most significant first, whose leading zeros
count: they are part of the string although they do not change the number it
writes. Base-58 text is such a string, and so is the byte string it encodes, and
the text of one is the other with its radix changed and its leading zeros kept.

Changing the radix loses nothing: `transcode` from one radix to another and back
is the identity, so each of the two strings determines the other.
-/

namespace PayKit.Encoding

/-- The leading zeros of a digit string. -/
def leadingZeros (digits : List ℕ) : ℕ :=
  (digits.takeWhile (· = 0)).length

/-- The number a digit string writes. -/
def numeral (radix : ℕ) (digits : List ℕ) : ℕ :=
  Nat.ofDigits radix digits.reverse

/-- The digit string of the same number in another radix, with the leading zeros
of the first. -/
def transcode (source target : ℕ) (digits : List ℕ) : List ℕ :=
  List.replicate (leadingZeros digits) 0 ++ (Nat.digits target (numeral source digits)).reverse

variable {source target : ℕ}

theorem leadingZeros_replicate_append {count : ℕ} {rest : List ℕ} (hHead : rest.head? ≠ some 0) :
    leadingZeros (List.replicate count 0 ++ rest) = count := by
  have hRest : rest.takeWhile (· = 0) = [] := by
    cases rest with
    | nil => rfl
    | cons digit rest =>
        have hDigit : digit ≠ 0 := by
          intro hZero
          exact hHead (by simp [hZero])
        simp [hDigit]
  simp [leadingZeros, hRest]

theorem numeral_replicate_append {radix count : ℕ} {rest : List ℕ} :
    numeral radix (List.replicate count 0 ++ rest) = numeral radix rest := by
  simp [numeral, Nat.ofDigits_append_replicate_zero]

theorem exists_significant (digits : List ℕ) :
    ∃ significant, digits = List.replicate (leadingZeros digits) 0 ++ significant ∧
      significant.head? ≠ some 0 := by
  refine ⟨digits.dropWhile (· = 0), ?_, ?_⟩
  · have hZeros : digits.takeWhile (· = 0) = List.replicate (leadingZeros digits) 0 := by
      apply List.eq_replicate_of_mem
      intro digit hMem
      simpa using List.mem_takeWhile_imp hMem
    rw [← hZeros, List.takeWhile_append_dropWhile]
  · intro hHead
    have hNot := List.head?_dropWhile_not (fun digit : ℕ => decide (digit = 0)) digits
    simp [hHead] at hNot

/-- A number's digits in a radix are the significant digits of any string that
writes it. -/
theorem digits_numeral {radix : ℕ} (hRadix : 1 < radix) {significant : List ℕ}
    (hDigits : ∀ digit ∈ significant, digit < radix) (hHead : significant.head? ≠ some 0) :
    (Nat.digits radix (numeral radix significant)).reverse = significant := by
  have hLast : ∀ hNonempty : significant.reverse ≠ [],
      significant.reverse.getLast hNonempty ≠ 0 := by
    intro hNonempty hZero
    rw [List.getLast_reverse] at hZero
    exact hHead (by rw [List.head?_eq_some_head (by simpa using hNonempty), hZero])
  have hLess : ∀ digit ∈ significant.reverse, digit < radix := by
    intro digit hMem
    exact hDigits digit (by simpa using hMem)
  rw [numeral, Nat.digits_ofDigits radix hRadix significant.reverse hLess hLast,
    List.reverse_reverse]

theorem head?_reverse_digits {radix number : ℕ} :
    (Nat.digits radix number).reverse.head? ≠ some 0 := by
  intro hHead
  by_cases hNumber : number = 0
  · simp [hNumber] at hHead
  · have hNonempty : Nat.digits radix number ≠ [] := Nat.digits_ne_nil_iff_ne_zero.mpr hNumber
    rw [List.head?_reverse, List.getLast?_eq_getLast_of_ne_nil hNonempty] at hHead
    exact Nat.getLast_digit_ne_zero radix hNumber (by simpa using hHead)

theorem transcode_transcode (hSource : 1 < source) {digits : List ℕ}
    (hDigits : ∀ digit ∈ digits, digit < source) :
    transcode target source (transcode source target digits) = digits := by
  obtain ⟨significant, hSplit, hHead⟩ := exists_significant digits
  have hSignificant : ∀ digit ∈ significant, digit < source := by
    intro digit hMem
    apply hDigits
    rw [hSplit]
    exact List.mem_append_right _ hMem
  have hZeros : leadingZeros (transcode source target digits) = leadingZeros digits :=
    leadingZeros_replicate_append head?_reverse_digits
  have hNumeral : numeral target (transcode source target digits) = numeral source digits := by
    rw [transcode, numeral_replicate_append, numeral, List.reverse_reverse, Nat.ofDigits_digits]
  have hSame : numeral source digits = numeral source significant := by
    rw [hSplit, numeral_replicate_append]
  rw [transcode, hZeros, hNumeral, hSame, digits_numeral hSource hSignificant hHead, ← hSplit]

theorem transcode_lt (hTarget : 1 < target) {digits : List ℕ} :
    ∀ digit ∈ transcode source target digits, digit < target := by
  intro digit hMem
  simp only [transcode, List.mem_append, List.mem_replicate, List.mem_reverse] at hMem
  rcases hMem with ⟨-, rfl⟩ | hMem
  · omega
  · exact Nat.digits_lt_base hTarget hMem

theorem length_transcode_le (hSource : 1 < source) (hTarget : 1 < target) {digits : List ℕ}
    {room : ℕ} (hDigits : ∀ digit ∈ digits, digit < source)
    (hRoom : ∀ zeros ≤ digits.length,
      zeros ≤ room ∧ source ^ (digits.length - zeros) ≤ target ^ (room - zeros)) :
    (transcode source target digits).length ≤ room := by
  obtain ⟨significant, hSplit, -⟩ := exists_significant digits
  have hSignificant : ∀ digit ∈ significant.reverse, digit < source := by
    intro digit hMem
    apply hDigits
    rw [hSplit]
    exact List.mem_append_right _ (by simpa using hMem)
  have hLength : digits.length = leadingZeros digits + significant.length := by
    conv_lhs => rw [hSplit]
    simp
  have hBound : numeral source digits < source ^ significant.length := by
    rw [hSplit, numeral_replicate_append, numeral]
    simpa using Nat.ofDigits_lt_base_pow_length hSource hSignificant
  obtain ⟨hZeros, hPower⟩ := hRoom (leadingZeros digits) (by omega)
  have hFits : numeral source digits < target ^ (room - leadingZeros digits) := by
    apply lt_of_lt_of_le hBound
    have hExponent : digits.length - leadingZeros digits = significant.length := by omega
    rwa [hExponent] at hPower
  have hDigitsLength := (Nat.digits_length_le_iff hTarget _).mpr hFits
  simp only [transcode, List.length_append, List.length_replicate, List.length_reverse]
  omega

end PayKit.Encoding
