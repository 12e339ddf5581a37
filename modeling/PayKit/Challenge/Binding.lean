import PayKit.Charge.VerificationError
import PayKit.Encoding.Base64Url
import PayKit.Encoding.Join

/-!
# Challenge identifiers

`PaymentChallenge` and `compute_challenge_id` of `mpp/protocol/core/challenge.rs`. The
identifier of a challenge authenticates seven fields that are joined by a separator. The
message authentication code is a parameter. A server only issues fields without the separator,
and this is why moving separators between the fields of a credential changes the message.
-/

namespace PayKit.Challenge

open Charge Encoding

/-- `PaymentChallenge`. The request and the opaque value are base64url texts. -/
structure PaymentChallenge where
  id : String
  realm : String
  method : String
  intent : String
  request : String
  expires : Option String
  description : Option String
  digest : Option String
  opaqueValue : Option String
deriving DecidableEq

/-- `ChallengeEcho`, which has the fields of the challenge. -/
abbrev ChallengeEcho := PaymentChallenge

/-- HMAC-SHA256 of a text under a key. -/
abbrev Hmac := String → String → List UInt8

/-- What `compute_challenge_id` authenticates. -/
def hmacInput (realm method intent request : String)
    (expires digest opaqueValue : Option String) : String :=
  "|".intercalate [realm, method, intent, request, expires.getD "", digest.getD "",
    opaqueValue.getD ""]

def computeChallengeId (hmac : Hmac) (challengeBindingSecret realm method intent request : String)
    (expires digest opaqueValue : Option String) : String :=
  base64urlEncode (hmac challengeBindingSecret
    (hmacInput realm method intent request expires digest opaqueValue))

def withChallengeBindingSecretFull (hmac : Hmac)
    (challengeBindingSecret realm method intent request : String)
    (expires digest description opaqueValue : Option String) : PaymentChallenge where
  id := computeChallengeId hmac challengeBindingSecret realm method intent request expires digest
    opaqueValue
  realm
  method
  intent
  request
  expires
  description
  digest
  opaqueValue

def utf8 (text : String) : List UInt8 :=
  text.toUTF8.data.toList

def constantTimeEq (left right : String) : Bool :=
  if (utf8 left).length ≠ (utf8 right).length then false
  else ((utf8 left).zip (utf8 right)).foldl
    (fun result pair => result ||| (pair.1 ^^^ pair.2)) (0 : UInt8) = 0

def PaymentChallenge.verify (hmac : Hmac) (challengeBindingSecret : String)
    (challenge : PaymentChallenge) : Bool :=
  constantTimeEq challenge.id (computeChallengeId hmac challengeBindingSecret challenge.realm
    challenge.method challenge.intent challenge.request challenge.expires challenge.digest
    challenge.opaqueValue)

/-! ### The comparison of identifiers -/

theorem or_xor_eq_zero {result left right : UInt8} :
    result ||| (left ^^^ right) = 0 ↔ result = 0 ∧ left = right := by
  rw [UInt8.or_eq_zero_iff, UInt8.xor_eq_zero_iff]

theorem foldl_or_xor_eq_zero {pairs : List (UInt8 × UInt8)} {result : UInt8} :
    pairs.foldl (fun result pair => result ||| (pair.1 ^^^ pair.2)) result = 0 ↔
      result = 0 ∧ ∀ pair ∈ pairs, pair.1 = pair.2 := by
  induction pairs generalizing result with
  | nil => simp
  | cons pair pairs hInduction =>
      rw [List.foldl_cons, hInduction, or_xor_eq_zero, List.forall_mem_cons, and_assoc]

theorem eq_of_zip {left right : List UInt8} (hLength : left.length = right.length)
    (hPairs : ∀ pair ∈ left.zip right, pair.1 = pair.2) : left = right := by
  induction left generalizing right with
  | nil => exact (List.length_eq_zero_iff.mp hLength.symm).symm
  | cons byte left hInduction =>
      cases right with
      | nil => cases hLength
      | cons other right =>
          rw [List.zip_cons_cons, List.forall_mem_cons] at hPairs
          rw [List.length_cons, List.length_cons, Nat.add_right_cancel_iff] at hLength
          rw [hInduction hLength hPairs.2]
          exact congrArg (· :: right) hPairs.1

theorem eq_of_mem_zip_self {bytes : List UInt8} {pair : UInt8 × UInt8}
    (hPair : pair ∈ bytes.zip bytes) : pair.1 = pair.2 := by
  induction bytes with
  | nil => cases hPair
  | cons byte bytes hInduction =>
      rw [List.zip_cons_cons, List.mem_cons] at hPair
      rcases hPair with rfl | hRest
      · rfl
      · exact hInduction hRest

theorem utf8_injective : Function.Injective utf8 := by
  intro left right hSame
  apply String.toByteArray_inj.mp
  exact ByteArray.ext (Array.toList_inj.mp hSame)

@[simp]
theorem constantTimeEq_eq_true {left right : String} :
    constantTimeEq left right = true ↔ left = right := by
  constructor
  · intro hEqual
    unfold constantTimeEq at hEqual
    split at hEqual
    · cases hEqual
    · rename_i hLength
      rw [decide_eq_true_eq, foldl_or_xor_eq_zero] at hEqual
      exact utf8_injective (eq_of_zip (not_not.mp hLength) hEqual.2)
  · rintro rfl
    unfold constantTimeEq
    rw [if_neg (by simp), decide_eq_true_eq, foldl_or_xor_eq_zero]
    exact ⟨rfl, fun pair => eq_of_mem_zip_self⟩

/-! ### What was issued -/

/-- The intents that the servers of this repository issue challenges for. -/
def issuedIntents : List String :=
  ["charge", "subscription", "authenticate"]

/-- A challenge that a server issued, with the JSON bytes of its request. Every server calls
`with_challenge_binding_secret_full` with its method, its intent and the encoding of a request,
and with an expiry, a digest and an opaque value that do not contain the separator. -/
structure Issued (hmac : Hmac) (challengeBindingSecret realm : String)
    (challenge : PaymentChallenge) : Prop where
  issues : ∃ (intent : String) (json : List UInt8)
    (expires digest description opaqueValue : Option String),
    intent ∈ issuedIntents ∧
      challenge = withChallengeBindingSecretFull hmac challengeBindingSecret realm methodName intent
        (base64urlEncode json) expires digest description opaqueValue
  clean : ∀ field ∈ [challenge.expires, challenge.digest, challenge.opaqueValue],
    ∀ value, field = some value → '|' ∉ value.toList

variable {hmac : Hmac} {challengeBindingSecret realm : String}
  {challenge echo : PaymentChallenge}

theorem separator_not_mem_base64urlEncode {bytes : List UInt8} :
    '|' ∉ (base64urlEncode bytes).toList := by
  intro hMem
  have hAlphabet : '|' ∉ base64urlAlphabet := by decide
  exact hAlphabet (base64urlEncode_alphabet hMem)

theorem separator_not_mem_getD {field : Option String}
    (hClean : ∀ value, field = some value → '|' ∉ value.toList) :
    '|' ∉ (field.getD "").toList := by
  cases field with
  | none => exact List.not_mem_nil
  | some value => exact hClean value rfl

/-- The fields of a challenge behind its realm. -/
def boundFields (challenge : PaymentChallenge) : List String :=
  [challenge.method, challenge.intent, challenge.request, challenge.expires.getD "",
    challenge.digest.getD "", challenge.opaqueValue.getD ""]

theorem Issued.clean_boundFields (hIssued : Issued hmac challengeBindingSecret realm challenge) :
    ∀ field ∈ (boundFields challenge).map String.toList, '|' ∉ field := by
  rcases hIssued with ⟨⟨intent, json, expires, digest, description, opaqueValue, hIntent, rfl⟩,
    hClean⟩
  simp only [withChallengeBindingSecretFull, List.forall_mem_cons, List.not_mem_nil,
    IsEmpty.forall_iff, implies_true, and_true] at hClean
  rcases hClean with ⟨hExpires, hDigest, hOpaque⟩
  have hMethod : '|' ∉ methodName.toList := by decide
  have hIntents : ∀ intent ∈ issuedIntents, '|' ∉ intent.toList := by decide
  simp only [boundFields, withChallengeBindingSecretFull, List.map_cons, List.map_nil,
    List.forall_mem_cons]
  exact ⟨hMethod, hIntents intent hIntent, separator_not_mem_base64urlEncode,
    separator_not_mem_getD hExpires, separator_not_mem_getD hDigest,
    separator_not_mem_getD hOpaque, fun _ hNil => absurd hNil List.not_mem_nil⟩

theorem toList_hmacInput (realm : String) (challenge : PaymentChallenge) :
    (hmacInput realm challenge.method challenge.intent challenge.request challenge.expires
      challenge.digest challenge.opaqueValue).toList =
        ['|'].intercalate (realm.toList :: (boundFields challenge).map String.toList) := by
  simp only [hmacInput, String.toList_intercalate, boundFields, List.map_cons, List.map_nil]
  rfl

/-- The fields of a challenge and an echo agree, an absent field being an empty one. -/
structure SameFields (challenge echo : PaymentChallenge) : Prop where
  method : challenge.method = echo.method
  intent : challenge.intent = echo.intent
  request : challenge.request = echo.request
  expires : challenge.expires.getD "" = echo.expires.getD ""
  digest : challenge.digest.getD "" = echo.digest.getD ""
  opaqueValue : challenge.opaqueValue.getD "" = echo.opaqueValue.getD ""

theorem sameFields_of_boundFields (hSame : boundFields challenge = boundFields echo) :
    SameFields challenge echo := by
  simp only [boundFields, List.cons.injEq, and_true] at hSame
  rcases hSame with ⟨hMethod, hIntent, hRequest, hExpires, hDigest, hOpaque⟩
  exact ⟨hMethod, hIntent, hRequest, hExpires, hDigest, hOpaque⟩

/-- Behind one realm, clean fields and any others are joined into one text only when they are
the same. -/
theorem boundFields_of_hmacInput (realm : String)
    (hClean : ∀ field ∈ (boundFields challenge).map String.toList, '|' ∉ field)
    (hSame : hmacInput realm challenge.method challenge.intent challenge.request challenge.expires
      challenge.digest challenge.opaqueValue = hmacInput realm echo.method echo.intent echo.request
        echo.expires echo.digest echo.opaqueValue) :
    boundFields challenge = boundFields echo := by
  have hChars := congrArg String.toList hSame
  rw [toList_hmacInput, toList_hmacInput] at hChars
  have hBehind : ['|'].intercalate ((boundFields challenge).map String.toList) =
      ['|'].intercalate ((boundFields echo).map String.toList) := by
    simpa [boundFields, List.intercalate] using hChars
  have hFields := fields_of_intercalate (by rfl) hClean hBehind
  exact (List.map_injective_iff.mpr fun _ _ => String.toList_inj.mp) hFields

/-- An echo whose identifier is that of an issued challenge has the fields of that challenge. -/
theorem Issued.sameFields (hInjective : Function.Injective (hmac challengeBindingSecret))
    (hIssued : Issued hmac challengeBindingSecret realm challenge)
    (hId : computeChallengeId hmac challengeBindingSecret realm echo.method echo.intent echo.request
      echo.expires echo.digest echo.opaqueValue = challenge.id) :
    SameFields challenge echo := by
  apply sameFields_of_boundFields
  apply boundFields_of_hmacInput realm hIssued.clean_boundFields
  rcases hIssued.issues with ⟨intent, json, expires, digest, description, opaqueValue, -, rfl⟩
  exact (hInjective (base64urlEncode_injective hId)).symm

end PayKit.Challenge
