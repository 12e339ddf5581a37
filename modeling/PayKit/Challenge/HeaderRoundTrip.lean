import Mathlib
import PayKit.Challenge.HeaderParams

/-!
# The text of a payment challenge

The text that is written for a challenge is one of the grammar, with every value quoted, and the
challenge is read back from its parameters. Parameters of other schemes that follow do not matter
as long as no key occurs twice and none is a key of payment challenges.
-/

namespace PayKit.Challenge

open Charge Control Encoding

/-! ### The challenge in the grammar -/

def keyToken (name : String)
    (hName : name.toList ≠ [] ∧ ∀ char ∈ name.toList, IsTokenChar char) : Token :=
  ⟨name.toList, hName.1, hName.2⟩

def quoteChar (char : Char) : QuotedChar :=
  if hPlain : char ≠ '"' ∧ char ≠ '\\' then .plain char hPlain else .escaped char

def quotedParam (key : Token) (value : String) : AuthParam where
  key
  value := .quoted (value.toList.map quoteChar)

def paymentToken : Token :=
  keyToken paymentScheme (by decide)

def idToken : Token :=
  keyToken "id" (by decide)

theorem realm_isToken : "realm".toList ≠ [] ∧ ∀ char ∈ "realm".toList, IsTokenChar char := by
  decide

/-- The parameters of a challenge after its identifier. -/
def furtherParams (challenge : PaymentChallenge) : List (Token × Option String) :=
  [(keyToken "realm" realm_isToken, some challenge.realm),
    (keyToken "method" (by decide), some challenge.method),
    (keyToken "intent" (by decide), some challenge.intent),
    (keyToken "request" (by decide), some challenge.request),
    (keyToken "description" (by decide), challenge.description),
    (keyToken "digest" (by decide), challenge.digest),
    (keyToken "expires" (by decide), challenge.expires),
    (keyToken "opaque" (by decide), challenge.opaqueValue)]

def commaSpace : Gap :=
  ⟨[], [' '], isBlank_space⟩

/-- The challenge that is written for a payment challenge. -/
def paymentAuth (challenge : PaymentChallenge) : AuthChallenge where
  scheme := paymentToken
  blank := ' '
  blanks := []
  blanksOnly := isBlank_space
  first := quotedParam idToken challenge.id
  rest := (furtherParams challenge).filterMap fun param =>
    param.2.map fun value => (commaSpace, quotedParam param.1 value)

/-- No value has a carriage return or a line feed. -/
def SingleLined (challenge : PaymentChallenge) : Prop :=
  ∀ param ∈ challengeParams challenge, ∀ value, param.2 = some value →
    '\r' ∉ value.toList ∧ '\n' ∉ value.toList

instance (challenge : PaymentChallenge) : Decidable (SingleLined challenge) :=
  decidable_of_iff (∀ param ∈ challengeParams challenge, ∀ value ∈ param.2.toList,
      '\r' ∉ value.toList ∧ '\n' ∉ value.toList) (by simp [SingleLined])

theorem quoteChar_value (char : Char) : (quoteChar char).value = char := by
  unfold quoteChar
  split <;> rfl

theorem quotedParam_value (key : Token) (value : String) :
    String.ofList (quotedParam key value).value.value = value := by
  have hChars : (value.toList.map quoteChar).map QuotedChar.value = value.toList := by
    rw [List.map_map]
    exact (List.map_congr_left fun char _ => quoteChar_value char).trans (List.map_id _)
  simp only [quotedParam, ParamValue.value, hChars, String.ofList_toList]

theorem quoteChar_text (char : Char) :
    (quoteChar char).text =
      if char = '\\' then ['\\', '\\'] else if char = '"' then ['\\', '"'] else [char] := by
  unfold quoteChar
  by_cases hBackslash : char = '\\'
  · subst hBackslash
    rfl
  · by_cases hQuote : char = '"'
    · subst hQuote
      rfl
    · simp [hBackslash, hQuote, QuotedChar.text]

theorem escapeQuotedValue_eq {value : String}
    (hValue : '\r' ∉ value.toList ∧ '\n' ∉ value.toList) :
    escapeQuotedValue value = .ok ((value.toList.map quoteChar).flatMap QuotedChar.text) := by
  have hLines : ¬(value.toList.contains '\r' = true ∨ value.toList.contains '\n' = true) := by
    simpa [List.contains_iff_mem] using hValue
  simp only [escapeQuotedValue, refuseIf, if_neg hLines, List.flatMap_map, quoteChar_text]
  rfl

theorem formatParam_eq {key : Token} {value : Option String}
    (hValue : ∀ text, value = some text → '\r' ∉ text.toList ∧ '\n' ∉ text.toList) :
    formatParam (String.ofList key.text, value) =
      .ok (value.map fun text => (quotedParam key text).text) := by
  cases value with
  | none => rfl
  | some text =>
      simp only [formatParam, escapeQuotedValue_eq (hValue text rfl), Except.map, AuthParam.text,
        quotedParam, ParamValue.text, String.toList_ofList, Option.map_some]

theorem challengeParams_eq (challenge : PaymentChallenge) :
    challengeParams challenge =
      ((idToken, some challenge.id) :: furtherParams challenge).map fun param =>
        (String.ofList param.1.text, param.2) := by
  simp [challengeParams, furtherParams, idToken, keyToken]

theorem intercalate_commaSpace (first : List Char) (rest : List (List Char)) :
    [',', ' '].intercalate (first :: rest) = first ++ rest.flatMap ([',', ' '] ++ ·) := by
  induction rest generalizing first with
  | nil => simp [List.intercalate]
  | cons next rest hInduction =>
      have hJoin : [',', ' '].intercalate (first :: next :: rest) =
          first ++ ([',', ' '] ++ [',', ' '].intercalate (next :: rest)) := by
        simp [List.intercalate]
      rw [hJoin, hInduction]
      simp

theorem mapM_formatParam {params : List (Token × Option String)}
    (hParams : ∀ param ∈ params, ∀ value, param.2 = some value →
      '\r' ∉ value.toList ∧ '\n' ∉ value.toList) :
    (params.map fun param => (String.ofList param.1.text, param.2)).mapM formatParam =
      .ok (params.map fun param => param.2.map fun text => (quotedParam param.1 text).text) := by
  induction params with
  | nil => rfl
  | cons param params hInduction =>
      rw [List.forall_mem_cons] at hParams
      rw [List.map_cons, List.mapM_cons, formatParam_eq hParams.1, hInduction hParams.2]
      rfl

theorem formatWwwAuthenticate_eq {challenge : PaymentChallenge} (hLines : SingleLined challenge) :
    formatWwwAuthenticate challenge = .ok (paymentAuth challenge).text := by
  have hParams : ∀ param ∈ (idToken, some challenge.id) :: furtherParams challenge,
      ∀ value, param.2 = some value → '\r' ∉ value.toList ∧ '\n' ∉ value.toList := by
    intro param hParam
    apply hLines (String.ofList param.1.text, param.2)
    rw [challengeParams_eq]
    exact List.mem_map_of_mem hParam
  have hParts : (((idToken, some challenge.id) :: furtherParams challenge).map fun param =>
      param.2.map fun text => (quotedParam param.1 text).text).filterMap id =
        (quotedParam idToken challenge.id).text ::
          (paymentAuth challenge).rest.map fun param => param.2.text := by
    rw [List.filterMap_map, List.filterMap_cons]
    simp only [paymentAuth, List.map_filterMap, Option.map_map]
    rfl
  have hGap : commaSpace.text = [',', ' '] := rfl
  rw [formatWwwAuthenticate, challengeParams_eq, mapM_formatParam hParams]
  change Except.ok (paymentScheme.toList ++ ' ' :: [',', ' '].intercalate (List.filterMap id _)) = _
  rw [hParts, intercalate_commaSpace, List.flatMap_map]
  have hGaps : ∀ param ∈ (paymentAuth challenge).rest, param.1 = commaSpace := by
    intro param hParam
    simp only [paymentAuth, List.mem_filterMap, Option.map_eq_some_iff] at hParam
    rcases hParam with ⟨found, -, value, -, rfl⟩
    rfl
  have hFurther : (paymentAuth challenge).rest.flatMap (fun param => [',', ' '] ++ param.2.text) =
      AuthChallenge.furtherText (paymentAuth challenge).rest := by
    apply List.flatMap_congr
    intro param hParam
    rw [hGaps param hParam, hGap]
  rw [hFurther]
  rfl

/-! ### Reading it back -/

/-- What a challenge must be to be read back as it was. -/
structure Transmissible (codec : RequestCodec) (challenge : PaymentChallenge) : Prop where
  id : challenge.id ≠ ""
  lines : SingleLined challenge
  method : challenge.method ≠ "" ∧ challenge.method.toList.all Char.isLower = true
  intent : challenge.intent.toLower = challenge.intent
  length : challenge.request.utf8ByteSize ≤ maxTokenLen
  request : ∃ bytes, codec.base64urlDecode challenge.request = .ok bytes ∧
    codec.readJson bytes = .ok ()

/-- The keys that payment challenges use. -/
def paymentKeys : List String :=
  ["id", "realm", "method", "intent", "request", "description", "digest", "expires", "opaque"]

def readPair (param : AuthParam) : String × String :=
  (String.ofList param.key.text, String.ofList param.value.value)

/-- No key of these challenges occurs twice, and none is one of payment challenges. -/
def UnrelatedKeys (challenges : List (Gap × AuthChallenge)) : Prop :=
  ((challenges.flatMap (·.2.params)).map fun param => (readPair param).1).Nodup ∧
    ∀ param ∈ challenges.flatMap (·.2.params), (readPair param).1 ∉ paymentKeys

theorem lookup_eq_none {params : List (String × String)} {key : String}
    (hKey : key ∉ params.map Prod.fst) : params.lookup key = none := by
  rw [List.lookup_eq_none_iff]
  intro param hParam
  rw [bne_iff_ne]
  intro hSame
  exact hKey (hSame ▸ List.mem_map_of_mem hParam)

theorem foldlM_readParam {params : List AuthParam} {read : List (String × String)}
    (hKeys : (read.map Prod.fst ++ params.map fun param => (readPair param).1).Nodup) :
    params.foldlM readParam read = .ok (read ++ params.map readPair) := by
  induction params generalizing read with
  | nil => simp [pure, Except.pure]
  | cons param params hInduction =>
      have hFresh : (readPair param).1 ∉ read.map Prod.fst := by
        intro hSeen
        rw [List.nodup_append] at hKeys
        exact hKeys.2.2 _ hSeen _ (by simp) rfl
      have hRead : readParam read param = .ok (read ++ [readPair param]) := by
        have hLookup := lookup_eq_none hFresh
        simp only [readPair] at hLookup
        simp [readParam, hLookup, readPair]
      have hLater : ((read ++ [readPair param]).map Prod.fst ++
          params.map fun param => (readPair param).1).Nodup := by
        simpa using hKeys
      rw [List.foldlM_cons, hRead]
      simpa [bind, Except.bind] using hInduction hLater

theorem lookup_filterMap {fields : List (String × Option String)} {name : String}
    {value : Option String} (hKeys : (fields.map Prod.fst).Nodup) (hField : (name, value) ∈ fields) :
    (fields.filterMap fun field => field.2.map (field.1, ·)).lookup name = value := by
  induction fields with
  | nil => cases hField
  | cons field fields hInduction =>
      rw [List.map_cons, List.nodup_cons] at hKeys
      rcases List.mem_cons.mp hField with hSame | hLater
      · subst hSame
        cases value with
        | some value => simp
        | none =>
            simp only [List.filterMap_cons, Option.map_none]
            apply lookup_eq_none
            intro hSeen
            simp only [List.mem_map, List.mem_filterMap, Option.map_eq_some_iff] at hSeen
            rcases hSeen with ⟨-, ⟨other, hOther, _, -, rfl⟩, rfl⟩
            exact hKeys.1 (List.mem_map.mpr ⟨other, hOther, rfl⟩)
      · have hOther : name ≠ field.1 := by
          intro hSame
          exact hKeys.1 (hSame ▸ List.mem_map.mpr ⟨_, hLater, rfl⟩)
        cases hValue : field.2 with
        | none => simpa [List.filterMap_cons, hValue] using hInduction hKeys.2 hLater
        | some other =>
            have hBeq : (name == field.1) = false := beq_eq_false_iff_ne.mpr hOther
            simpa [List.filterMap_cons, hValue, List.lookup_cons, hBeq] using
              hInduction hKeys.2 hLater

/-- The parameters as they are read. -/
def paymentPairs (challenge : PaymentChallenge) : List (String × String) :=
  (challengeParams challenge).filterMap fun param => param.2.map (param.1, ·)

theorem paymentPairs_eq (challenge : PaymentChallenge) :
    (paymentAuth challenge).params.map readPair = paymentPairs challenge := by
  have hPair : ∀ (key : Token) (value : String),
      readPair (quotedParam key value) = (String.ofList key.text, value) := by
    intro key value
    simp only [readPair, quotedParam_value]
    rfl
  rw [paymentPairs, challengeParams_eq]
  simp only [AuthChallenge.params, paymentAuth, List.map_cons, List.filterMap_cons,
    Option.map_some, List.map_filterMap, Option.map_map, List.filterMap_map, hPair,
    Function.comp_def]

theorem paymentPairs_keys (challenge : PaymentChallenge) :
    ((paymentPairs challenge).map Prod.fst).Sublist paymentKeys := by
  have hKeys : (paymentPairs challenge).map Prod.fst =
      (challengeParams challenge).filterMap fun param => param.2.map fun _ => param.1 := by
    simp [paymentPairs, List.map_filterMap, Option.map_map, Function.comp_def]
  rw [hKeys]
  have hFields : ∀ fields : List (String × Option String),
      (fields.filterMap fun field => field.2.map fun _ => field.1).Sublist
        (fields.map Prod.fst) := by
    intro fields
    induction fields with
    | nil => exact List.Sublist.refl _
    | cons field fields hInduction =>
        cases hValue : field.2 with
        | none => simpa [List.filterMap_cons, hValue] using hInduction.cons _
        | some value => simpa [List.filterMap_cons, hValue] using hInduction
  exact hFields (challengeParams challenge)

section

variable {codec : RequestCodec} {challenge : PaymentChallenge}

theorem lookup_paymentPairs {extra : List (String × String)} {name : String}
    {value : Option String} (hExtra : ∀ pair ∈ extra, pair.1 ∉ paymentKeys)
    (hField : (name, value) ∈ challengeParams challenge) :
    (paymentPairs challenge ++ extra).lookup name = value := by
  have hNames : (challengeParams challenge).map Prod.fst = paymentKeys := rfl
  have hKeys : ((challengeParams challenge).map Prod.fst).Nodup := by
    rw [hNames]
    decide
  have hName : name ∈ paymentKeys := by
    rw [← hNames]
    exact List.mem_map.mpr ⟨(name, value), hField, rfl⟩
  have hNone : extra.lookup name = none := by
    apply lookup_eq_none
    intro hSeen
    rcases List.mem_map.mp hSeen with ⟨pair, hPair, rfl⟩
    exact hExtra pair hPair hName
  rw [List.lookup_append, hNone, Option.or_none]
  exact lookup_filterMap hKeys hField

theorem toLower_of_isLower {text : String} (hLower : text.toList.all Char.isLower = true) :
    text.toLower = text := by
  have hChars : text.toLower.toList = text.toList := by
    rw [toList_toLower]
    refine (List.map_congr_left fun char hChar => ?_).trans (List.map_id _)
    have hChar := List.all_eq_true.mp hLower char hChar
    exact Char.toLower_eq_of_not_isUpper (Char.not_isUpper_of_isLower hChar)
  exact String.toList_inj.mp hChars

theorem parse_intent_lower {text : List Char}
    (hParsed : parseWwwAuthenticate codec text = .ok challenge) :
    challenge.intent.toLower = challenge.intent := by
  simp only [parseWwwAuthenticate, challengeOfParams, bind_eq_ok] at hParsed
  rcases hParsed with ⟨_, -, _, -, _, -, _, -, _, -, _, -, _, -, intent, -, _, -, _, -, _, -, _, -,
    hSame⟩
  cases hSame
  apply String.toList_inj.mp
  simp only [toList_toLower, List.map_map]
  apply List.map_congr_left
  intro char _
  exact Char.toLower_eq_of_not_isUpper (by simp)

theorem challengeOfParams_eq (hSent : Transmissible codec challenge)
    {extra : List (String × String)} (hExtra : ∀ pair ∈ extra, pair.1 ∉ paymentKeys) :
    challengeOfParams codec (paymentPairs challenge ++ extra) = .ok challenge := by
  have hLookup : ∀ name value, (name, value) ∈ challengeParams challenge →
      (paymentPairs challenge ++ extra).lookup name = value :=
    fun name value hField => lookup_paymentPairs hExtra hField
  have hRequired : ∀ name value, (name, some value) ∈ challengeParams challenge →
      requireParam (paymentPairs challenge ++ extra) name = .ok value := by
    intro name value hField
    simp [requireParam, hLookup name _ hField]
  rcases hSent.request with ⟨bytes, hBytes, hJson⟩
  simp only [challengeOfParams, bind_eq_ok, refuseIf_eq_ok, mapError_eq_ok]
  refine ⟨_, hRequired "id" challenge.id (by simp [challengeParams]), (), hSent.id, _,
    hRequired "realm" challenge.realm (by simp [challengeParams]), _,
    hRequired "method" challenge.method (by simp [challengeParams]), (), ?_, _,
    hRequired "intent" challenge.intent (by simp [challengeParams]), _,
    hRequired "request" challenge.request (by simp [challengeParams]), (),
    Nat.not_lt.mpr hSent.length, bytes, hBytes, (), hJson, ?_⟩
  · simp [hSent.method.1, hSent.method.2]
  · rw [hLookup "expires" challenge.expires (by simp [challengeParams]),
      hLookup "description" challenge.description (by simp [challengeParams]),
      hLookup "digest" challenge.digest (by simp [challengeParams]),
      hLookup "opaque" challenge.opaqueValue (by simp [challengeParams]), hSent.intent,
      toLower_of_isLower hSent.method.2]
    rfl

theorem paramsText_payment {params : List Char} (hFirst : trimStart params = params) :
    paramsText (paymentScheme.toList ++ ' ' :: params) = .ok params := by
  have hStart : trimStart (paymentScheme.toList ++ ' ' :: params) =
      paymentScheme.toList ++ ' ' :: params := rfl
  have hTake : (paymentScheme.toList ++ ' ' :: params).take paymentScheme.length =
      paymentScheme.toList := List.take_left' rfl
  have hDrop : (paymentScheme.toList ++ ' ' :: params).drop paymentScheme.length =
      ' ' :: params := List.drop_left' rfl
  have hStrip : stripPaymentScheme (paymentScheme.toList ++ ' ' :: params) =
      some (' ' :: params) := by
    simp only [stripPaymentScheme, hStart, hTake, hDrop, String.ofList_toList]
    simp [eqIgnoreAsciiCase]
  simp only [paramsText, hStrip]
  change Except.ok (trimStart params) = _
  rw [hFirst]

theorem parseWwwAuthenticate_eq (challenge : PaymentChallenge)
    (challenges : List (Gap × AuthChallenge)) :
    parseWwwAuthenticate codec
      ((paymentAuth challenge).text ++ AuthChallenge.textAfter challenges) =
        ((paymentAuth challenge).params ++ challenges.flatMap (·.2.params)).foldlM readParam [] >>=
          challengeOfParams codec := by
  have hParams : paramsText ((paymentAuth challenge).text ++ AuthChallenge.textAfter challenges) =
      .ok ((paymentAuth challenge).paramsText ++ AuthChallenge.textAfter challenges) := by
    have hText : (paymentAuth challenge).text ++ AuthChallenge.textAfter challenges =
        paymentScheme.toList ++
          ' ' :: ((paymentAuth challenge).paramsText ++ AuthChallenge.textAfter challenges) := by
      simp [AuthChallenge.text, paymentAuth, paymentToken, keyToken]
    rw [hText]
    exact paramsText_payment rfl
  rw [parseWwwAuthenticate, hParams]
  change (parseAuthParams _ >>= _) = _
  rw [parseAuthParams, readParams_paramsText _ (separated_textAfter challenges),
    List.foldlM_append]
  simp only [readParams_textAfter]

theorem parseWwwAuthenticate_text (hSent : Transmissible codec challenge)
    {challenges : List (Gap × AuthChallenge)} (hUnrelated : UnrelatedKeys challenges) :
    parseWwwAuthenticate codec
      ((paymentAuth challenge).text ++ AuthChallenge.textAfter challenges) = .ok challenge := by
  have hNames : (paymentAuth challenge).params.map (fun param => (readPair param).1) =
      (paymentPairs challenge).map Prod.fst := by
    rw [← paymentPairs_eq, List.map_map]
    rfl
  have hOwn := (paymentPairs_keys challenge).nodup (by decide)
  have hKeys : (([] : List (String × String)).map Prod.fst ++
      ((paymentAuth challenge).params ++ challenges.flatMap (·.2.params)).map fun param =>
        (readPair param).1).Nodup := by
    rw [List.map_nil, List.nil_append, List.map_append, hNames, List.nodup_append]
    refine ⟨hOwn, hUnrelated.1, ?_⟩
    rintro key hKey other hFurther rfl
    rcases List.mem_map.mp hFurther with ⟨param, hParam, rfl⟩
    exact hUnrelated.2 param hParam ((paymentPairs_keys challenge).subset hKey)
  rw [parseWwwAuthenticate_eq, foldlM_readParam hKeys, List.nil_append, List.map_append,
    paymentPairs_eq]
  refine challengeOfParams_eq hSent ?_
  intro pair hPair
  rcases List.mem_map.mp hPair with ⟨param, hParam, rfl⟩
  exact hUnrelated.2 param hParam

end

end PayKit.Challenge
