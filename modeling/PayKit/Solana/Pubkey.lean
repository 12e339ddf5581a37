import PayKit.Encoding.Radix

/-!
# Public keys

A public key is 32 bytes, written as base-58 text. The text of a key is canonical:
a text that parses is the text of the key it parses to, so comparing keys and
comparing their texts is the same thing.

The programs a payment transaction may call are named by their texts, as
`programs` of `mpp/protocol/solana.rs` names them.
-/

namespace PayKit.Solana

open Encoding

structure Pubkey where
  bytes : List UInt8
  length_bytes : bytes.length = 32
deriving DecidableEq

inductive ParsePubkeyError where
  | wrongSize
  | invalid
deriving DecidableEq, Repr

def ParsePubkeyError.display : ParsePubkeyError → String
  | .wrongSize => "String is the wrong size"
  | .invalid => "Invalid Base58 string"

/-- The base-58 digits, in the order of their values. -/
def base58Alphabet : List Char :=
  "123456789ABCDEFGHJKLMNPQRSTUVWXYZabcdefghijkmnopqrstuvwxyz".toList

def base58Char (digit : ℕ) : Char :=
  base58Alphabet.getD digit '1'

def base58Digit (char : Char) : Option ℕ :=
  base58Alphabet.idxOf? char

/-- The longest base-58 text of 32 bytes. -/
def maxBase58Length : ℕ := 44

namespace Pubkey

/-- A key that its last byte tells from the others. -/
def numbered (number : UInt8) : Pubkey :=
  ⟨List.replicate 31 0 ++ [number], rfl⟩

/-- The Ed25519 key of the seed of 32 twos. -/
def ofTwos : Pubkey where
  bytes := [129, 57, 119, 14, 168, 125, 23, 95, 86, 163, 84, 102, 195, 76, 126, 204, 203, 141, 138,
    145, 180, 238, 55, 162, 93, 246, 15, 91, 143, 201, 179, 148]
  length_bytes := rfl

/-- The digits of a key, in base 256. -/
def digits (key : Pubkey) : List ℕ :=
  key.bytes.map UInt8.toNat

/-- `Pubkey::to_string`: the key as base-58 text. -/
def display (key : Pubkey) : String :=
  String.ofList ((transcode 256 58 key.digits).map base58Char)

def fromStr (text : String) : Except ParsePubkeyError Pubkey :=
  if maxBase58Length < text.utf8ByteSize then
    .error .wrongSize
  else
    match text.toList.mapM base58Digit with
    | none => .error .invalid
    | some digits =>
        let bytes := (transcode 58 256 digits).map UInt8.ofNat
        if hLength : bytes.length = 32 then .ok ⟨bytes, hLength⟩ else .error .wrongSize

end Pubkey

theorem base58Digit_base58Char {digit : ℕ} (hDigit : digit < 58) :
    base58Digit (base58Char digit) = some digit := by
  have hAll : ∀ digit < 58, base58Digit (base58Char digit) = some digit := by decide
  exact hAll digit hDigit

theorem base58Char_base58Digit {char : Char} {digit : ℕ} (hChar : base58Digit char = some digit) :
    base58Char digit = char ∧ digit < 58 := by
  simp only [base58Digit, List.idxOf?_eq_some_iff] at hChar
  obtain ⟨hLess, hEq, -⟩ := hChar
  have hSize : base58Alphabet.length = 58 := by decide
  refine ⟨?_, by omega⟩
  simp only [base58Char, List.getD_eq_getElem?_getD, List.getElem?_eq_getElem hLess,
    Option.getD_some]
  simpa using hEq

theorem mapM_base58Digit_map_base58Char {digits : List ℕ} (hDigits : ∀ digit ∈ digits, digit < 58) :
    (digits.map base58Char).mapM base58Digit = some digits := by
  induction digits with
  | nil => rfl
  | cons digit digits hInduction =>
      have hDigit := base58Digit_base58Char (hDigits digit List.mem_cons_self)
      have hRest := hInduction fun digit hMem => hDigits digit (List.mem_cons_of_mem _ hMem)
      simp [hDigit, hRest]

theorem map_base58Char_of_mapM {chars : List Char} {digits : List ℕ}
    (hDigits : chars.mapM base58Digit = some digits) :
    digits.map base58Char = chars ∧ ∀ digit ∈ digits, digit < 58 := by
  induction chars generalizing digits with
  | nil =>
      have hNil : digits = [] := by simpa using hDigits
      subst hNil
      simp
  | cons char chars hInduction =>
      simp only [List.mapM_cons, Option.bind_eq_bind, Option.bind_eq_some_iff, Option.pure_def,
        Option.some.injEq] at hDigits
      obtain ⟨digit, hDigit, rest, hRest, rfl⟩ := hDigits
      obtain ⟨hChar, hLess⟩ := base58Char_base58Digit hDigit
      obtain ⟨hChars, hAll⟩ := hInduction hRest
      simp [hChar, hChars, hLess]
      simpa using hAll

theorem utf8ByteSize_map_base58Char (digits : List ℕ) (hDigits : ∀ digit ∈ digits, digit < 58) :
    (String.ofList (digits.map base58Char)).utf8ByteSize = digits.length := by
  have hAll : ∀ digit < 58, (base58Char digit).utf8Size = 1 := by decide
  induction digits with
  | nil => rfl
  | cons digit digits hInduction =>
      have hRest := hInduction fun digit hMem => hDigits digit (List.mem_cons_of_mem _ hMem)
      have hDigit := hAll digit (hDigits digit List.mem_cons_self)
      simp [String.ofList_cons, hDigit, hRest]
      omega

namespace Pubkey

theorem digits_lt (key : Pubkey) : ∀ digit ∈ key.digits, digit < 256 := by
  intro digit hMem
  simp only [digits, List.mem_map] at hMem
  obtain ⟨byte, -, rfl⟩ := hMem
  exact byte.toNat_lt

theorem length_transcode_digits (key : Pubkey) :
    (transcode 256 58 key.digits).length ≤ maxBase58Length := by
  have hLength : key.digits.length = 32 := by simp [digits, key.length_bytes]
  apply length_transcode_le (by decide) (by decide) key.digits_lt
  rw [hLength]
  intro zeros hZeros
  have hAll : ∀ zeros < 33, zeros ≤ 44 ∧ 256 ^ (32 - zeros) ≤ 58 ^ (44 - zeros) := by
    decide
  exact hAll zeros (by omega)

theorem fromStr_display (key : Pubkey) : fromStr key.display = .ok key := by
  have hLess : ∀ digit ∈ transcode 256 58 key.digits, digit < 58 := transcode_lt (by decide)
  have hSize : ¬maxBase58Length < key.display.utf8ByteSize := by
    rw [display, utf8ByteSize_map_base58Char _ hLess]
    exact not_lt.mpr key.length_transcode_digits
  have hDigits : key.display.toList.mapM base58Digit = some (transcode 256 58 key.digits) := by
    rw [display, String.toList_ofList]
    exact mapM_base58Digit_map_base58Char hLess
  have hBytes : (transcode 58 256 (transcode 256 58 key.digits)).map UInt8.ofNat = key.bytes := by
    have hSame : UInt8.ofNat ∘ UInt8.toNat = id := by
      funext byte
      simp
    rw [transcode_transcode (by decide) key.digits_lt, digits, List.map_map, hSame, List.map_id]
  simp only [fromStr, hSize, if_false, hDigits, hBytes, key.length_bytes, dite_true]

theorem display_of_fromStr {text : String} {key : Pubkey} (hParsed : fromStr text = .ok key) :
    key.display = text := by
  simp only [fromStr] at hParsed
  split at hParsed
  · cases hParsed
  · split at hParsed
    · cases hParsed
    · rename_i digits hDigits
      obtain ⟨hChars, hLess⟩ := map_base58Char_of_mapM hDigits
      split at hParsed
      · rename_i hLength
        cases hParsed
        have hRound : ((transcode 58 256 digits).map UInt8.ofNat).map UInt8.toNat =
            transcode 58 256 digits := by
          have hByte : ∀ digit ∈ transcode 58 256 digits, (UInt8.toNat ∘ UInt8.ofNat) digit =
              digit := by
            intro digit hMem
            have hLess : digit < 256 := transcode_lt (by decide) digit hMem
            simp [Nat.mod_eq_of_lt hLess]
          rw [List.map_map, List.map_congr_left hByte, List.map_id']
        rw [display, Pubkey.digits, hRound, transcode_transcode (by decide) hLess, hChars,
          String.ofList_toList]
      · cases hParsed

theorem display_injective {left right : Pubkey} (hSame : left.display = right.display) :
    left = right := by
  have hLeft := fromStr_display left
  rw [hSame, fromStr_display] at hLeft
  exact (Except.ok.inj hLeft).symm

/-- The system program's key, 32 zero bytes. -/
instance : Inhabited Pubkey := ⟨⟨List.replicate 32 0, by simp⟩⟩

/-- The key a constant names: `Pubkey::from_str(text).unwrap()`. -/
def ofConst (text : String) : Pubkey :=
  match fromStr text with
  | .ok key => key
  | .error _ => default

theorem display_ofConst {text : String} (hParses : (fromStr text).isOk) :
    (ofConst text).display = text := by
  cases hParsed : fromStr text with
  | error error => simp [hParsed, Except.isOk, Except.toBool] at hParses
  | ok key =>
      simp only [ofConst, hParsed]
      exact display_of_fromStr hParsed

theorem ofConst_ne {left right : String} (hLeft : (fromStr left).isOk)
    (hRight : (fromStr right).isOk) (hNe : left ≠ right) : ofConst left ≠ ofConst right := by
  intro hSame
  apply hNe
  rw [← display_ofConst hLeft, hSame, display_ofConst hRight]

end Pubkey

namespace programs

def tokenProgram : String := "TokenkegQfeZyiNwAJbNbGKPFXCWuBvf9Ss623VQ5DA"
def token2022Program : String := "TokenzQdBNbLqP5VEhdkAS6EPFLC1PHnBqCXEpPxuEb"
def associatedTokenProgram : String := "ATokenGPvbdGVxr1b2hvZbsiqW5xWH25efTNsLJA8knL"
def computeBudgetProgram : String := "ComputeBudget111111111111111111111111111111"
def memoProgram : String := "MemoSq4gqABAXKb96qnH8TysNcWxMyWCqXgDLGmfcHr"
def systemProgram : String := "11111111111111111111111111111111"

end programs

def tokenProgram : Pubkey := .ofConst programs.tokenProgram
def token2022Program : Pubkey := .ofConst programs.token2022Program
def ataProgram : Pubkey := .ofConst programs.associatedTokenProgram
def computeBudgetProgram : Pubkey := .ofConst programs.computeBudgetProgram
def memoProgram : Pubkey := .ofConst programs.memoProgram
def systemProgram : Pubkey := .ofConst programs.systemProgram

theorem programs_nodup :
    [tokenProgram, token2022Program, ataProgram, computeBudgetProgram, memoProgram,
      systemProgram].Nodup := by
  have hParses : ∀ text ∈ [programs.tokenProgram, programs.token2022Program,
      programs.associatedTokenProgram, programs.computeBudgetProgram, programs.memoProgram,
      programs.systemProgram], (Pubkey.fromStr text).isOk := by
    decide
  have hTexts : [programs.tokenProgram, programs.token2022Program,
      programs.associatedTokenProgram, programs.computeBudgetProgram, programs.memoProgram,
      programs.systemProgram].Nodup := by
    decide
  refine List.Nodup.map_on (f := Pubkey.ofConst) ?_ hTexts
  intro left hLeft right hRight hSame
  by_contra hNe
  exact Pubkey.ofConst_ne (hParses left hLeft) (hParses right hRight) hNe hSame

end PayKit.Solana
