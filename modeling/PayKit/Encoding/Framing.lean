import PayKit.Encoding.Bytes
import PayKit.Encoding.SelfDelimiting

/-!
# Framed fields

The bytes of a record determine its fields when each field says where it ends: a number has a
fixed width, a byte string stands behind its length, and a list behind the number of its entries.
A number with a sign is stored modulo the numbers of its width.
-/

namespace PayKit.Encoding
universe u

/-- A byte string behind its length. -/
def lengthPrefixed (width : ℕ) (field : List UInt8) : List UInt8 :=
  encodeLE width field.length ++ field

/-- A list behind the number of its entries. -/
def counted {Value : Type u} (width : ℕ) (encode : Value → List UInt8) (values : List Value) :
    List UInt8 :=
  encodeLE width values.length ++ values.flatMap encode

namespace SelfDelimiting

variable {Value : Type u} {Valid : Value → Prop} {encode : Value → List UInt8} {width : ℕ}

theorem injective (hCode : SelfDelimiting Valid encode) {left right : Value} (hLeft : Valid left)
    (hRight : Valid right) (hSame : encode left = encode right) : left = right :=
  hCode.eq_of_prefix hLeft hRight (hSame ▸ List.prefix_refl _)

theorem number (width : ℕ) :
    SelfDelimiting (fun number => number < 256 ^ width) (encodeLE width) := by
  refine .of_width (fun number _ => length_encodeLE width number) ?_
  intro left right hLeft hRight hSame
  rw [← decodeLE_encodeLE hLeft, hSame, decodeLE_encodeLE hRight]

theorem wrapped (width : ℕ) (least : ℤ) :
    SelfDelimiting (fun value : ℤ => least ≤ value ∧ value < least + 256 ^ width)
      (fun value => encodeLE width (value % 256 ^ width).toNat) := by
  have hPositive : (0 : ℤ) < 256 ^ width := pow_pos (by decide) width
  have hFits : ∀ value : ℤ, (value % 256 ^ width).toNat < 256 ^ width := by
    intro value
    have hRange := Int.emod_lt_of_pos value hPositive
    rw [Int.toNat_lt (Int.emod_nonneg value hPositive.ne')]
    exact_mod_cast hRange
  refine .of_width (fun value _ => length_encodeLE width _) ?_
  intro left right hLeft hRight hSame
  have hNumbers := (number width).injective (hFits left) (hFits right) hSame
  have hResidues : left % 256 ^ width = right % 256 ^ width := by
    rw [← Int.toNat_of_nonneg (Int.emod_nonneg left hPositive.ne'), hNumbers,
      Int.toNat_of_nonneg (Int.emod_nonneg right hPositive.ne')]
  have hDivides : (256 : ℤ) ^ width ∣ left - right := Int.ModEq.dvd (Eq.symm hResidues)
  have hNear : |left - right| < 256 ^ width := abs_lt.mpr ⟨by omega, by omega⟩
  have hZero := Int.eq_zero_of_abs_lt_dvd hDivides hNear
  omega

theorem lengthPrefixed (width : ℕ) :
    SelfDelimiting (fun field : List UInt8 => field.length < 256 ^ width)
      (Encoding.lengthPrefixed width) := by
  intro left right after rest hLeft hRight hSame
  simp only [Encoding.lengthPrefixed, List.append_assoc] at hSame
  rcases number width _ _ _ _ hLeft hRight hSame with ⟨hLength, hFields⟩
  exact List.append_inj hFields hLength

theorem counted (hCode : SelfDelimiting Valid encode) (width : ℕ) :
    SelfDelimiting
      (fun values : List Value => values.length < 256 ^ width ∧ ∀ value ∈ values, Valid value)
      (Encoding.counted width encode) := by
  intro left right after rest hLeft hRight hSame
  simp only [Encoding.counted, List.append_assoc] at hSame
  rcases number width _ _ _ _ hLeft.1 hRight.1 hSame with ⟨hLength, hValues⟩
  exact hCode.flatMap hLeft.2 hRight.2 hLength hValues

end SelfDelimiting

end PayKit.Encoding
