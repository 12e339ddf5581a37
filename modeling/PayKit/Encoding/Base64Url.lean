import Mathlib.Tactic

/-!
# Base64url

`base64url_encode` of `mpp/protocol/core/types.rs`: three bytes are four characters of the
URL-safe alphabet, and a rest of one or two bytes is written without padding. Different bytes
have different texts.
-/

namespace PayKit.Encoding

/-- What holds of every character of a text is decided on that text, not on all characters. -/
instance (priority := high) decidableForallMemChars {property : Char → Prop}
    [DecidablePred property] (chars : List Char) : Decidable (∀ char ∈ chars, property char) :=
  List.decidableBAll property chars

def base64urlAlphabet : List Char :=
  "ABCDEFGHIJKLMNOPQRSTUVWXYZabcdefghijklmnopqrstuvwxyz0123456789-_".toList

/-- The character of a sextet. -/
def base64urlChar (sextet : ℕ) : Char :=
  base64urlAlphabet.getD sextet 'A'

/-- The characters of `base64url_encode`. -/
def base64urlChars : List UInt8 → List Char
  | [] => []
  | [first] =>
      [base64urlChar (first.toNat / 4), base64urlChar (first.toNat % 4 * 16)]
  | [first, second] =>
      [base64urlChar (first.toNat / 4),
        base64urlChar (first.toNat % 4 * 16 + second.toNat / 16),
        base64urlChar (second.toNat % 16 * 4)]
  | first :: second :: third :: rest =>
      base64urlChar (first.toNat / 4) ::
        base64urlChar (first.toNat % 4 * 16 + second.toNat / 16) ::
          base64urlChar (second.toNat % 16 * 4 + third.toNat / 64) ::
            base64urlChar (third.toNat % 64) :: base64urlChars rest

def base64urlEncode (bytes : List UInt8) : String :=
  String.ofList (base64urlChars bytes)

theorem base64urlChar_mem (sextet : ℕ) : base64urlChar sextet ∈ base64urlAlphabet := by
  unfold base64urlChar
  rw [List.getD_eq_getElem?_getD]
  cases hChar : base64urlAlphabet[sextet]? with
  | none => decide
  | some char => exact List.mem_of_getElem? hChar

theorem base64urlChar_injective {left right : ℕ} (hLeft : left < 64) (hRight : right < 64)
    (hSame : base64urlChar left = base64urlChar right) : left = right := by
  have hInjective : ∀ left right : Fin 64,
      base64urlChar left = base64urlChar right → left = right := by
    decide +kernel
  exact congrArg Fin.val (hInjective ⟨left, hLeft⟩ ⟨right, hRight⟩ hSame)

theorem mem_alphabet_of_mem_base64urlChars {bytes : List UInt8} {char : Char}
    (hChar : char ∈ base64urlChars bytes) : char ∈ base64urlAlphabet := by
  fun_induction base64urlChars bytes with
  | case1 => cases hChar
  | case2 first =>
      simp only [List.mem_cons, List.not_mem_nil, or_false] at hChar
      rcases hChar with rfl | rfl <;> exact base64urlChar_mem _
  | case3 first second =>
      simp only [List.mem_cons, List.not_mem_nil, or_false] at hChar
      rcases hChar with rfl | rfl | rfl <;> exact base64urlChar_mem _
  | case4 first second third rest hInduction =>
      simp only [List.mem_cons] at hChar
      rcases hChar with rfl | rfl | rfl | rfl | hRest
      · exact base64urlChar_mem _
      · exact base64urlChar_mem _
      · exact base64urlChar_mem _
      · exact base64urlChar_mem _
      · exact hInduction hRest

theorem base64urlEncode_alphabet {bytes : List UInt8} {char : Char}
    (hChar : char ∈ (base64urlEncode bytes).toList) : char ∈ base64urlAlphabet := by
  rw [base64urlEncode, String.toList_ofList] at hChar
  exact mem_alphabet_of_mem_base64urlChars hChar

theorem bytes_of_sextets (first second third other next last : UInt8)
    (hFirst : base64urlChar (first.toNat / 4) = base64urlChar (other.toNat / 4))
    (hSecond : base64urlChar (first.toNat % 4 * 16 + second.toNat / 16) =
      base64urlChar (other.toNat % 4 * 16 + next.toNat / 16))
    (hThird : base64urlChar (second.toNat % 16 * 4 + third.toNat / 64) =
      base64urlChar (next.toNat % 16 * 4 + last.toNat / 64))
    (hFourth : base64urlChar (third.toNat % 64) = base64urlChar (last.toNat % 64)) :
    first = other ∧ second = next ∧ third = last := by
  have hBytes := first.toNat_lt
  have hOther := other.toNat_lt
  have hBound := second.toNat_lt
  have hNext := next.toNat_lt
  have hLimit := third.toNat_lt
  have hLast := last.toNat_lt
  have hOne := base64urlChar_injective (by omega) (by omega) hFirst
  have hTwo := base64urlChar_injective (by omega) (by omega) hSecond
  have hThree := base64urlChar_injective (by omega) (by omega) hThird
  have hFour := base64urlChar_injective (by omega) (by omega) hFourth
  refine ⟨UInt8.toNat_inj.mp ?_, UInt8.toNat_inj.mp ?_, UInt8.toNat_inj.mp ?_⟩ <;> omega

theorem base64urlChars_injective : Function.Injective base64urlChars := by
  intro left
  fun_induction base64urlChars left with
  | case1 =>
      intro right hSame
      fun_cases base64urlChars right <;> simp_all [base64urlChars]
  | case2 first =>
      intro right hSame
      fun_cases base64urlChars right with
      | case2 other =>
          simp only [base64urlChars, List.cons.injEq, and_true] at hSame
          have hSextets := bytes_of_sextets first 0 0 other 0 0
            hSame.1 (by simpa using hSame.2) rfl rfl
          rw [hSextets.1]
      | _ => simp [base64urlChars] at hSame
  | case3 first second =>
      intro right hSame
      fun_cases base64urlChars right with
      | case3 other next =>
          simp only [base64urlChars, List.cons.injEq, and_true] at hSame
          have hSextets := bytes_of_sextets first second 0 other next 0 hSame.1 hSame.2.1
            (by simpa using hSame.2.2) rfl
          rw [hSextets.1, hSextets.2.1]
      | _ => simp [base64urlChars] at hSame
  | case4 first second third rest hInduction =>
      intro right hSame
      fun_cases base64urlChars right with
      | case4 other next last tail =>
          simp only [base64urlChars, List.cons.injEq] at hSame
          rcases hSame with ⟨hFirst, hSecond, hThird, hFourth, hRest⟩
          rcases bytes_of_sextets _ _ _ _ _ _ hFirst hSecond hThird hFourth with ⟨rfl, rfl, rfl⟩
          rw [hInduction hRest]
      | _ => simp [base64urlChars] at hSame

theorem base64urlEncode_injective : Function.Injective base64urlEncode := by
  intro left right hSame
  exact base64urlChars_injective (String.ofList_injective hSame)

end PayKit.Encoding
