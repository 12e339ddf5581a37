import Mathlib.Data.Nat.Digits.Defs
import Mathlib.Tactic

/-!
# Little-endian bytes

Numbers in fixed-width little-endian fields, and the fields of a byte string. A field
of a given width determines its bytes as much as its bytes determine the number, so a
record whose fields have been read is known byte for byte.
-/

namespace PayKit.Encoding

/-- The bytes from position `start` up to position `stop`. -/
def slice (bytes : List UInt8) (start stop : ℕ) : List UInt8 :=
  (bytes.take stop).drop start

/-- The number that little-endian bytes write. -/
def decodeLE (bytes : List UInt8) : ℕ :=
  Nat.ofDigits 256 (bytes.map UInt8.toNat)

/-- A number as little-endian bytes of a fixed width. -/
def encodeLE : ℕ → ℕ → List UInt8
  | 0, _ => []
  | width + 1, number => UInt8.ofNat number :: encodeLE width (number / 256)

theorem length_slice {bytes : List UInt8} {start stop : ℕ} (hStop : stop ≤ bytes.length) :
    (slice bytes start stop).length = stop - start := by
  simp [slice, hStop]

theorem take_append_slice {bytes : List UInt8} {start stop : ℕ} (hOrder : start ≤ stop) :
    bytes.take start ++ slice bytes start stop = bytes.take stop := by
  have hTake : bytes.take start = (bytes.take stop).take start := by
    rw [List.take_take, Nat.min_eq_left hOrder]
  rw [hTake, slice, List.take_append_drop]

theorem decodeLE_lt (bytes : List UInt8) : decodeLE bytes < 256 ^ bytes.length := by
  have hDigits : ∀ digit ∈ bytes.map UInt8.toNat, digit < 256 := by
    intro digit hMem
    rcases List.mem_map.mp hMem with ⟨byte, -, rfl⟩
    exact byte.toNat_lt
  simpa [decodeLE] using Nat.ofDigits_lt_base_pow_length (by decide) hDigits

theorem encodeLE_decodeLE (bytes : List UInt8) :
    encodeLE bytes.length (decodeLE bytes) = bytes := by
  induction bytes with
  | nil => rfl
  | cons byte rest hInduction =>
      have hNumber : decodeLE (byte :: rest) = byte.toNat + 256 * decodeLE rest := by
        simp [decodeLE, Nat.ofDigits_cons]
      have hByte := byte.toNat_lt
      have hLow : UInt8.ofNat (decodeLE (byte :: rest)) = byte := by
        apply UInt8.toNat_inj.mp
        rw [hNumber, UInt8.toNat_ofNat']
        omega
      have hHigh : decodeLE (byte :: rest) / 256 = decodeLE rest := by
        rw [hNumber]
        omega
      rw [List.length_cons, encodeLE, hLow, hHigh, hInduction]

@[simp]
theorem length_encodeLE (width number : ℕ) : (encodeLE width number).length = width := by
  induction width generalizing number with
  | zero => rfl
  | succ width hInduction => simp [encodeLE, hInduction]

theorem decodeLE_encodeLE {width number : ℕ} (hFits : number < 256 ^ width) :
    decodeLE (encodeLE width number) = number := by
  induction width generalizing number with
  | zero =>
      rw [pow_zero] at hFits
      simp [encodeLE, decodeLE]
      omega
  | succ width hInduction =>
      have hHigh : decodeLE (encodeLE width (number / 256)) = number / 256 := by
        apply hInduction
        rw [pow_succ] at hFits
        omega
      have hNumber : decodeLE (encodeLE (width + 1) number) =
          number % 256 + 256 * decodeLE (encodeLE width (number / 256)) := by
        simp [encodeLE, decodeLE, Nat.ofDigits_cons]
      rw [hNumber, hHigh]
      omega

theorem slice_eq_encodeLE {bytes : List UInt8} {start stop : ℕ} (hStop : stop ≤ bytes.length) :
    slice bytes start stop = encodeLE (stop - start) (decodeLE (slice bytes start stop)) := by
  have hEncoded := encodeLE_decodeLE (slice bytes start stop)
  rw [length_slice hStop] at hEncoded
  exact hEncoded.symm

theorem slice_field (before field after : List UInt8) :
    slice (before ++ field ++ after) before.length (before.length + field.length) = field := by
  have hTake : (before ++ field ++ after).take (before.length + field.length) =
      before ++ field := by
    rw [← List.length_append, List.take_left']
    rfl
  rw [slice, hTake, List.drop_left]

theorem take_one_of_head? {data : List UInt8} {byte : UInt8} (hHead : data.head? = some byte) :
    data.take 1 = [byte] := by
  rcases List.head?_eq_some_iff.mp hHead with ⟨rest, rfl⟩
  rfl

end PayKit.Encoding
