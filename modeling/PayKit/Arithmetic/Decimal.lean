import PayKit.Arithmetic.Machine

/-!
# Decimal text of machine integers

`parseU64` reads a 64-bit integer as `str::parse::<u64>` does: one or more decimal
digits, after an optional plus sign, whose value fits.
-/

namespace PayKit.Machine

/-- The digits of a number's text, after an optional sign. -/
def unsignedDigits (text : String) : List Char :=
  match text.toList with
  | '+' :: digits => digits
  | digits => digits

/-- `str::parse::<u64>`. -/
def parseU64 (text : String) : Option ℕ :=
  let digits := unsignedDigits text
  let value := Nat.ofDigitChars 10 digits 0
  if digits ≠ [] ∧ digits.all Char.isDigit ∧ value ≤ u64Max then some value else none

theorem parseU64_le {text : String} {value : ℕ} (hParsed : parseU64 text = some value) :
    value ≤ u64Max := by
  simp only [parseU64] at hParsed
  split at hParsed
  · rename_i hDigits
    cases hParsed
    exact hDigits.2.2
  · cases hParsed

theorem parseU64_repr {value : ℕ} (hFits : value ≤ u64Max) : parseU64 value.repr = some value := by
  have hDigit : ∀ char ∈ Nat.toDigits 10 value, char.isDigit = true := by
    intro char hChar
    exact Nat.isDigit_of_mem_toDigits (by decide) (by decide) hChar
  have hUnsigned : unsignedDigits value.repr = Nat.toDigits 10 value := by
    simp only [unsignedDigits, Nat.toList_repr]
    split
    · rename_i digits hPlus
      have hSign := hDigit '+' (by simp [hPlus])
      simp at hSign
    · rfl
  simp only [parseU64, hUnsigned, Nat.ofDigitChars_ten_toDigits]
  rw [if_pos]
  exact ⟨Nat.toDigits_ne_nil, List.all_eq_true.mpr hDigit, hFits⟩

end PayKit.Machine
