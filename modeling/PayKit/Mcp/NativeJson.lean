import PayKit.Mcp.OperationDigest

/-!
# Challenges and credentials as native JSON

A challenge is decoded to JSON for the wire and encoded again from what is received, which gives
the same texts because canonical JSON is read back to a value that is written the same. A
credential is read back from a request as it was set, unless the opaque value of its challenge is
the JSON `null`: a field of type `Option` takes a `null` for an absent field. The digest of an
operation stays as it was whatever happens to the credential and the progress token.
-/

namespace PayKit.Mcp

open PayKit.Challenge Control Encoding
open Json (Value Map)

/-- The base64 decoder inverts the encoder on canonical JSON, and canonical JSON is read back to a
value with the same canonical JSON. -/
structure Codec.ReadsBack (codec : Codec) : Prop where
  base64 : ∀ value text, codec.canonicalize value = .ok text →
    codec.decodeUnpadded (base64urlEncode text) = .ok text
  canonical : ∀ value text, codec.canonicalize value = .ok text →
    ∃ decoded, codec.parse text = .ok decoded ∧ codec.canonicalize decoded = .ok text

/-- The text was encoded from a value. -/
def Encoded (codec : Codec) (raw : String) : Prop :=
  ∃ value, fromValue codec value = .ok raw

/-- A challenge with an identifier, whose request and opaque value were encoded from JSON. -/
structure ServerIssued (codec : Codec) (challenge : PaymentChallenge) : Prop where
  id : challenge.id ≠ ""
  request : Encoded codec challenge.request
  opaqueValue : ∀ raw ∈ challenge.opaqueValue, Encoded codec raw

/-- The opaque value of the challenge is an encoded `null`. -/
def NullOpaque (codec : Codec) (challenge : PaymentChallenge) : Prop :=
  ∃ raw ∈ challenge.opaqueValue, decodeValue codec raw = .ok .null

/-- The parameters can hold metadata, and the root does not hold a credential. -/
structure Request.CanCarry (request : Request) : Prop where
  params : ∃ params, membersOf request.params = some params ∧
    ∃ metadata, membersOf (params.get? "_meta") = some metadata
  root : request.metadata.bind (·.get? credentialMetaKey) = none

/-- The request without a value of the metadata of its parameters. -/
def Request.removeMetadata (request : Request) (key : String) : Request :=
  match request.params.bind Value.asMap with
  | none => request
  | some params =>
      match (params.get? "_meta").bind Value.asMap with
      | none => request
      | some metadata =>
          { request with params := some (.ofMap (params.insert "_meta"
              (.ofMap (metadata.remove key)))) }

variable {codec : Codec} {challenge : PaymentChallenge} {request sent : Request} {raw key : String}
  {value : Value} {params metadata : Map}

/-! ### The conversions -/

theorem base64urlDecode_base64urlEncode {bytes : List UInt8}
    (hDecoded : codec.decodeUnpadded (base64urlEncode bytes) = .ok bytes) :
    base64urlDecode codec (base64urlEncode bytes) = .ok bytes := by
  have hClean : ∀ char ∈ base64urlAlphabet, char ≠ '=' ∧ urlSafe char = char := by decide
  have hChars : ∀ char ∈ (base64urlEncode bytes).toList, char ≠ '=' ∧ urlSafe char = char :=
    fun char hChar => hClean char (base64urlEncode_alphabet hChar)
  have hKept : (base64urlEncode bytes).toList.filter (· ≠ '=') = (base64urlEncode bytes).toList :=
    List.filter_eq_self.mpr fun char hChar => decide_eq_true (hChars char hChar).1
  have hSame : (base64urlEncode bytes).toList.map urlSafe = (base64urlEncode bytes).toList :=
    (List.map_congr_left fun char hChar => (hChars char hChar).2).trans (List.map_id _)
  simp only [base64urlDecode, hKept, hSame, String.ofList_toList, hDecoded]
  rfl

theorem Encoded.reads_back (hReadsBack : codec.ReadsBack) (hEncoded : Encoded codec raw) :
    ∃ decoded, decodeValue codec raw = .ok decoded ∧ fromValue codec decoded = .ok raw := by
  rcases hEncoded with ⟨value, hValue⟩
  simp only [fromValue, bind_eq_ok, mapError_eq_ok, pure, Except.pure, Except.ok.injEq] at hValue
  rcases hValue with ⟨text, hText, rfl⟩
  rcases hReadsBack.canonical value text hText with ⟨decoded, hParsed, hCanonical⟩
  refine ⟨decoded, ?_, ?_⟩
  · unfold decodeValue
    rw [base64urlDecode_base64urlEncode (hReadsBack.base64 value text hText), bind_eq_ok]
    exact ⟨text, rfl, mapError_eq_ok.mpr hParsed⟩
  · unfold fromValue
    rw [bind_eq_ok]
    exact ⟨text, mapError_eq_ok.mpr hCanonical, rfl⟩

theorem ServerIssued.converts (hReadsBack : codec.ReadsBack)
    (hIssued : ServerIssued codec challenge) :
    ∃ native, Challenge.ofPaymentChallenge codec challenge = .ok native ∧
      native.toPaymentChallenge codec = .ok challenge ∧
      (native.opaqueValue = some .null ↔ NullOpaque codec challenge) := by
  rcases challenge with ⟨id, realm, method, intent, request, expires, description, digest,
    opaqueValue⟩
  rcases hIssued with ⟨hId, hRequest, hOpaque⟩
  rcases hRequest.reads_back hReadsBack with ⟨decoded, hDecoded, hEncoded⟩
  cases opaqueValue with
  | none =>
      refine ⟨⟨id, realm, method, intent, decoded, expires, description, digest, none⟩, ?_, ?_, ?_⟩
      · simp only [Challenge.ofPaymentChallenge, refuseIf_bind_eq_ok, hDecoded]
        exact ⟨hId, rfl⟩
      · simp only [Challenge.toPaymentChallenge, refuseIf_bind_eq_ok, hEncoded]
        exact ⟨hId, rfl⟩
      · constructor
        · intro hNull
          cases hNull
        · rintro ⟨raw, hRaw, -⟩
          cases hRaw
  | some raw =>
      rcases (hOpaque raw rfl).reads_back hReadsBack with ⟨inner, hInner, hInnerEncoded⟩
      refine ⟨⟨id, realm, method, intent, decoded, expires, description, digest, some inner⟩,
        ?_, ?_, ?_⟩
      · simp only [Challenge.ofPaymentChallenge, refuseIf_bind_eq_ok, hDecoded, transpose, hInner]
        exact ⟨hId, rfl⟩
      · simp only [Challenge.toPaymentChallenge, refuseIf_bind_eq_ok, hEncoded, transpose,
          hInnerEncoded]
        exact ⟨hId, rfl⟩
      · constructor
        · intro hNull
          cases hNull
          exact ⟨raw, rfl, hInner⟩
        · rintro ⟨other, hOther, hNull⟩
          cases hOther
          exact congrArg some (Except.ok.inj (hInner.symm.trans hNull))

/-! ### What is written and read -/

theorem get?_foldl_insertField {fields : List (String × Option Value)} {map : Map}
    (hNodup : (fields.map Prod.fst).Nodup) :
    (fields.foldl insertField map).get? key =
      ((fields.lookup key).join).or (map.get? key) := by
  induction fields generalizing map with
  | nil => rfl
  | cons field fields hInduction =>
      rcases field with ⟨name, field⟩
      rcases List.nodup_cons.mp hNodup with ⟨hName, hRest⟩
      rw [List.foldl_cons, hInduction hRest, lookup_cons_eq]
      by_cases hKey : key = name
      · have hAbsent : fields.lookup key = none := by
          rw [List.lookup_eq_none_iff]
          intro entry hEntry
          have hNe : name ≠ entry.1 := by
            rintro rfl
            exact hName (List.mem_map.mpr ⟨entry, hEntry, rfl⟩)
          simpa [hKey] using hNe
        rw [hAbsent, if_pos hKey, hKey]
        cases field <;> simp [insertField]
      · rw [if_neg hKey]
        cases field <;> simp [insertField, hKey]

theorem get?_ofFields {fields : List (String × Option Value)}
    (hNodup : (fields.map Prod.fst).Nodup) :
    (ofFields fields).get? key = (fields.lookup key).join := by
  rw [ofFields, get?_foldl_insertField hNodup, Map.get?_empty, Option.or_none]

theorem structFields_ofMap {names : List String} {map : Map} :
    structFields names (.ofMap map) = .ok map.get? :=
  rfl

/-- What is read in an `Option` field that was written. -/
def dropNull : Option Value → Option Value
  | some ⟨.null, _⟩ => none
  | field => field

theorem dropNull_eq_self {field : Option Value} : dropNull field = field ↔ field ≠ some .null := by
  rcases field with _ | ⟨json, hOrdered⟩
  · exact ⟨fun _ => nofun, fun _ => rfl⟩
  · cases json with
    | null =>
        constructor
        · intro hDropped
          cases hDropped
        · intro hNull
          exact absurd rfl hNull
    | _ =>
        refine ⟨fun _ hNull => ?_, fun _ => rfl⟩
        cases congrArg (Option.map Subtype.val) hNull

theorem optional_eq {fields : String → Option Value} : optional fields key = dropNull (fields key) :=
  rfl

theorem transpose_asText_map (field : Option String) :
    transpose asText (dropNull (field.map Value.ofText)) = .ok field := by
  cases field <;> rfl

theorem nodup_fields (native : Challenge) : (native.fields.map Prod.fst).Nodup := by
  have hNames : native.fields.map Prod.fst = ["id", "realm", "method", "intent", "request",
      "expires", "description", "digest", "opaque"] := rfl
  rw [hNames]
  decide

theorem readValue_toValue_challenge (native : Challenge) :
    Challenge.readValue native.toValue =
      .ok { native with opaqueValue := dropNull native.opaqueValue } := by
  have hGet : ∀ name value, native.fields.lookup name = some value →
      (ofFields native.fields).get? name = value := by
    intro name value hField
    rw [get?_ofFields (nodup_fields native), hField]
    rfl
  have hId := hGet "id" _ rfl
  have hRealm := hGet "realm" _ rfl
  have hMethod := hGet "method" _ rfl
  have hIntent := hGet "intent" _ rfl
  have hRequest := hGet "request" _ rfl
  have hExpires := hGet "expires" _ rfl
  have hDescription := hGet "description" _ rfl
  have hDigest := hGet "digest" _ rfl
  have hOpaque := hGet "opaque" _ rfl
  simp only [Challenge.readValue, Challenge.toValue, structFields_ofMap, required, optional_eq, hId,
    hRealm, hMethod, hIntent, hRequest, hExpires, hDescription, hDigest, hOpaque, okOr,
    transpose_asText_map, asText, Value.ofText, Json.asStr, bind, Except.bind]
  rfl

theorem readValue_toValue (native : Credential) :
    Credential.readValue native.toValue = .ok { native with
      challenge := { native.challenge with
        opaqueValue := dropNull native.challenge.opaqueValue } } := by
  have hNodup : (native.fields.map Prod.fst).Nodup := by
    have hNames : native.fields.map Prod.fst = ["challenge", "source", "payload"] := rfl
    rw [hNames]
    decide
  have hGet : ∀ name value, native.fields.lookup name = some value →
      (ofFields native.fields).get? name = value := by
    intro name value hField
    rw [get?_ofFields hNodup, hField]
    rfl
  have hChallenge := hGet "challenge" _ rfl
  have hSource := hGet "source" _ rfl
  have hPayload := hGet "payload" _ rfl
  simp only [Credential.readValue, Credential.toValue, structFields_ofMap, required, optional_eq,
    hChallenge, hSource, hPayload, okOr, readValue_toValue_challenge, transpose_asText_map, bind,
    Except.bind]
  rfl

/-! ### Requests with a credential -/

theorem Request.insertMetadata_eq (hParams : membersOf request.params = some params)
    (hMetadata : membersOf (params.get? "_meta") = some metadata) :
    request.insertMetadata key value = .ok { request with
      params := some (.ofMap (params.insert "_meta" (.ofMap (metadata.insert key value)))) } := by
  have hMap : ∀ {field : Option Value} {map : Map}, membersOf field = some map →
      (field.getD (.ofMap .empty)).asMap = some map := by
    intro field map hField
    cases field with
    | none => exact hField
    | some value => exact hField
  simp only [Request.insertMetadata, hMap hParams, hMap hMetadata, okOr, bind, Except.bind]
  rfl

theorem Request.of_insertMetadata (hSent : request.insertMetadata key value = .ok sent) :
    ∃ params metadata, membersOf request.params = some params ∧
      membersOf (params.get? "_meta") = some metadata ∧
      sent = { request with
        params := some (.ofMap (params.insert "_meta" (.ofMap (metadata.insert key value)))) } := by
  have hMembers : ∀ {field : Option Value} {map : Map},
      (field.getD (.ofMap .empty)).asMap = some map → membersOf field = some map := by
    intro field map hField
    cases field with
    | none => exact hField
    | some value => exact hField
  simp only [Request.insertMetadata, bind_eq_ok, okOr_eq_ok, pure, Except.pure,
    Except.ok.injEq] at hSent
  rcases hSent with ⟨params, hParams, metadata, hMetadata, hSent⟩
  exact ⟨params, metadata, hMembers hParams, hMembers hMetadata, hSent.symm⟩

theorem nestedCredential_inserted :
    Request.nestedCredential { request with params := some (.ofMap (params.insert "_meta"
      (.ofMap (metadata.insert credentialMetaKey value)))) } = some value := by
  simp [Request.nestedCredential, bind, Option.bind]

theorem credential_of_insertMetadata (hRoot : request.metadata.bind (·.get? credentialMetaKey) = none)
    (hSent : request.insertMetadata credentialMetaKey value = .ok sent) :
    sent.credential codec = Request.readCredential codec value := by
  rcases Request.of_insertMetadata hSent with ⟨params, metadata, -, -, rfl⟩
  unfold Request.credential
  rw [nestedCredential_inserted, hRoot]

theorem opaqueValue_of_toPaymentChallenge {native : Challenge}
    (hConverted : native.toPaymentChallenge codec = .ok challenge)
    (hNone : native.opaqueValue = none) : challenge.opaqueValue = none := by
  simp only [Challenge.toPaymentChallenge, bind_eq_ok, hNone, transpose, pure, Except.pure,
    Except.ok.injEq] at hConverted
  rcases hConverted with ⟨_, -, request, -, opaqueValue, hOpaque, rfl⟩
  exact hOpaque.symm

/-- The credential of a challenge is read back from what it was written as, unless the opaque
value of the challenge is `null`. -/
theorem readCredential_iff {native : Challenge}
    (hBack : native.toPaymentChallenge codec = .ok challenge)
    (hNull : native.opaqueValue = some .null ↔ NullOpaque codec challenge)
    (source : Option String) (payload : Value) :
    Request.readCredential codec (Credential.mk native source payload).toValue =
        .ok (some ⟨challenge, source, payload⟩) ↔ ¬NullOpaque codec challenge := by
  unfold Request.readCredential
  rw [readValue_toValue]
  constructor
  · intro hRead hOpaque
    simp only [Credential.toPaymentCredential, bind_eq_ok, mapError_eq_ok, pure, Except.pure,
      Except.ok.injEq, Option.some.injEq] at hRead
    rcases hRead with ⟨_, rfl, credential, ⟨converted, hConverted, rfl⟩, hSame⟩
    cases hSame
    have hNone := opaqueValue_of_toPaymentChallenge hConverted (by
      simp only [hNull.mpr hOpaque]
      rfl)
    rcases hOpaque with ⟨raw, hRaw, -⟩
    rw [hNone] at hRaw
    cases hRaw
  · intro hOpaque
    have hKept := dropNull_eq_self.mpr fun hNative => hOpaque (hNull.mp hNative)
    simp only [hKept, Credential.toPaymentCredential, hBack, mapError_ok, bind, Except.bind]
    rfl

/-- A credential is set in a request that can carry one, and is read back as it was unless its
challenge has the opaque value `null`. -/
theorem credential_read_back (hReadsBack : codec.ReadsBack) (hIssued : ServerIssued codec challenge)
    (hCarry : request.CanCarry) (source : Option String) (payload : Value) :
    ∃ sent, request.setCredential codec ⟨challenge, source, payload⟩ = .ok sent ∧
      (sent.credential codec = .ok (some ⟨challenge, source, payload⟩) ↔
        ¬NullOpaque codec challenge) := by
  rcases hIssued.converts hReadsBack with ⟨native, hNative, hBack, hNull⟩
  rcases hCarry with ⟨⟨params, hParams, metadata, hMetadata⟩, hRoot⟩
  have hInserted : request.insertMetadata credentialMetaKey
      (Credential.mk native source payload).toValue = .ok { request with
        params := some (.ofMap (params.insert "_meta" (.ofMap (metadata.insert credentialMetaKey
          (Credential.mk native source payload).toValue)))) } :=
    Request.insertMetadata_eq hParams hMetadata
  have hSet : request.setCredential codec ⟨challenge, source, payload⟩ =
      request.insertMetadata credentialMetaKey (Credential.mk native source payload).toValue := by
    simp only [Request.setCredential, Credential.ofPaymentCredential, hNative]
    rfl
  refine ⟨_, hSet.trans hInserted, ?_⟩
  rw [credential_of_insertMetadata hRoot hInserted]
  exact readCredential_iff hBack hNull source payload

/-! ### The digest -/

theorem applicationMetadata_insert (hKey : key ∈ retryKeys) :
    applicationMetadata (metadata.insert key value) = applicationMetadata metadata := by
  apply Map.ext
  intro name
  simp only [retryKeys, List.mem_cons, List.not_mem_nil, or_false] at hKey
  simp only [applicationMetadata, Map.get?_remove, Map.get?_insert]
  rcases hKey with rfl | rfl
  · by_cases hName : name = credentialMetaKey <;> simp [hName]
  · by_cases hName : name = "progressToken" <;> simp [hName]

theorem applicationMetadata_remove (hKey : key ∈ retryKeys) :
    applicationMetadata (metadata.remove key) = applicationMetadata metadata := by
  apply Map.ext
  intro name
  simp only [retryKeys, List.mem_cons, List.not_mem_nil, or_false] at hKey
  simp only [applicationMetadata, Map.get?_remove]
  rcases hKey with rfl | rfl
  · by_cases hName : name = credentialMetaKey <;> simp [hName]
  · by_cases hName : name = "progressToken" <;> simp [hName]

theorem removeRetryMetadata_insert {changed : Map}
    (hMetadata : membersOf (params.get? "_meta") = some metadata)
    (hSame : applicationMetadata changed = applicationMetadata metadata) :
    removeRetryMetadata (params.insert "_meta" (.ofMap changed)) = removeRetryMetadata params := by
  apply Map.ext
  intro name
  rw [get?_removeRetryMetadata, get?_removeRetryMetadata, Map.get?_insert, if_pos rfl,
    members_without applicationMetadata_empty hMetadata, without_ofMap, hSame, Map.get?_insert]
  by_cases hName : name = "_meta" <;> simp [hName]

theorem operationDigest_congr (hMethod : sent.method = request.method)
    (hParams : without removeRetryMetadata sent.params =
      without removeRetryMetadata request.params) :
    sent.operationDigest codec = request.operationDigest codec := by
  simp only [Request.operationDigest, Request.operation, operationParams_eq, hMethod, hParams]

theorem operationDigest_insertMetadata (hKey : key ∈ retryKeys)
    (hSent : request.insertMetadata key value = .ok sent) :
    sent.operationDigest codec = request.operationDigest codec := by
  rcases Request.of_insertMetadata hSent with ⟨params, metadata, hParams, hMetadata, rfl⟩
  apply operationDigest_congr
  · rfl
  · rw [members_without removeRetryMetadata_empty hParams, without_ofMap,
      removeRetryMetadata_insert hMetadata (applicationMetadata_insert hKey)]

theorem membersOf_of_bind {field : Option Value} {map : Map}
    (hMap : field.bind Value.asMap = some map) : membersOf field = some map := by
  cases field with
  | none => cases hMap
  | some value => exact hMap

theorem operationDigest_removeMetadata (hKey : key ∈ retryKeys) :
    (request.removeMetadata key).operationDigest codec = request.operationDigest codec := by
  unfold Request.removeMetadata
  split
  · rfl
  · rename_i params hParams
    split
    · rfl
    · rename_i metadata hMetadata
      apply operationDigest_congr
      · rfl
      · rw [members_without removeRetryMetadata_empty (membersOf_of_bind hParams), without_ofMap,
          removeRetryMetadata_insert (membersOf_of_bind hMetadata)
            (applicationMetadata_remove hKey)]

theorem insertMetadata_of_setCredential {credential : PaymentCredential}
    (hSent : request.setCredential codec credential = .ok sent) :
    ∃ value, request.insertMetadata credentialMetaKey value = .ok sent := by
  rcases bind_eq_ok.mp hSent with ⟨native, -, hSent⟩
  exact ⟨native.toValue, hSent⟩

/-- A server's challenge is converted to native JSON and back. Its credential is set in any request
that can carry one and read back as it was, exactly when the opaque value of the challenge is not
`null`. The digest is that of the request before a credential or a progress token was set or
removed, whatever the identifier of the request. -/
theorem credential_survives_iff (hReadsBack : codec.ReadsBack)
    (hIssued : ServerIssued codec challenge) :
    (∃ native, Challenge.ofPaymentChallenge codec challenge = .ok native ∧
      native.toPaymentChallenge codec = .ok challenge) ∧
    (∀ request : Request, request.CanCarry → ∀ source payload,
      ∃ sent, request.setCredential codec ⟨challenge, source, payload⟩ = .ok sent ∧
        (sent.credential codec = .ok (some ⟨challenge, source, payload⟩) ↔
          ¬NullOpaque codec challenge)) ∧
    (∀ (request sent : Request) (credential : PaymentCredential),
      request.setCredential codec credential = .ok sent →
        sent.operationDigest codec = request.operationDigest codec) ∧
    (∀ (request : Request) (id : Option Value) (metadata : Option Map),
      { request with id, metadata }.operationDigest codec = request.operationDigest codec) ∧
    (∀ (request sent : Request) (token : Value),
      request.insertMetadata "progressToken" token = .ok sent →
        sent.operationDigest codec = request.operationDigest codec) ∧
    ∀ request : Request,
      (request.removeMetadata "progressToken").operationDigest codec =
        request.operationDigest codec := by
  have hCredentialKey : credentialMetaKey ∈ retryKeys := by decide
  have hTokenKey : "progressToken" ∈ retryKeys := by decide
  refine ⟨?_, ?_, ?_, ?_, ?_, ?_⟩
  · rcases hIssued.converts hReadsBack with ⟨native, hNative, hBack, -⟩
    exact ⟨native, hNative, hBack⟩
  · intro request hCarry source payload
    exact credential_read_back hReadsBack hIssued hCarry source payload
  · intro request sent credential hSent
    rcases insertMetadata_of_setCredential hSent with ⟨value, hInserted⟩
    exact operationDigest_insertMetadata hCredentialKey hInserted
  · intro request id metadata
    rfl
  · intro request sent token hSent
    exact operationDigest_insertMetadata hTokenKey hSent
  · intro request
    exact operationDigest_removeMetadata hTokenKey

/-! ### A challenge with the opaque value `null` -/

def nullText : List UInt8 :=
  utf8 "null"

/-- Primitives that know `null` and an empty object. -/
def smallCodec : Codec where
  canonicalize value :=
    if Json.same value.1 .null then .ok nullText
    else if Json.same value.1 (.object []) then .ok [123, 125]
    else .error "unsupported"
  parse bytes :=
    if bytes = nullText then .ok .null
    else if bytes = [123, 125] then .ok (.ofMap .empty)
    else .error "unsupported"
  sha256 text := text
  decodeUnpadded text :=
    if text = base64urlEncode nullText then .ok nullText
    else if text = base64urlEncode [123, 125] then .ok [123, 125]
    else .error "unsupported"

/-- A challenge for an empty request. -/
def emptyChallenge (opaqueValue : Option String) : PaymentChallenge where
  id := "challenge"
  realm := "shop"
  method := "solana"
  intent := "charge"
  request := base64urlEncode [123, 125]
  expires := none
  description := none
  digest := none
  opaqueValue

def plainPing : Request where
  id := none
  method := "ping"
  params := none
  metadata := none

theorem smallCodec_readsBack : smallCodec.ReadsBack where
  base64 := by
    intro value text hText
    simp only [smallCodec] at hText
    split at hText
    · cases hText
      decide
    · split at hText
      · cases hText
        decide
      · cases hText
  canonical := by
    intro value text hText
    simp only [smallCodec] at hText
    split at hText
    · cases hText
      exact ⟨.null, rfl, rfl⟩
    · split at hText
      · cases hText
        exact ⟨.ofMap .empty, rfl, rfl⟩
      · cases hText

theorem serverIssued_emptyChallenge {opaqueValue : Option String}
    (hOpaque : ∀ raw ∈ opaqueValue, Encoded smallCodec raw) :
    ServerIssued smallCodec (emptyChallenge opaqueValue) where
  id := by simp [emptyChallenge]
  request := ⟨.ofMap .empty, rfl⟩
  opaqueValue := hOpaque

theorem canCarry_plainPing : plainPing.CanCarry where
  params := ⟨.empty, rfl, .empty, rfl⟩
  root := rfl

/-- A server's challenge whose credential is read back as another one. -/
theorem nullOpaque_not_read_back :
    smallCodec.ReadsBack ∧
      ServerIssued smallCodec (emptyChallenge (some (base64urlEncode nullText))) ∧
      plainPing.CanCarry ∧
      ∃ sent, plainPing.setCredential smallCodec
          ⟨emptyChallenge (some (base64urlEncode nullText)), none, .null⟩ = .ok sent ∧
        (sent.credential smallCodec).toOption.join.map (·.challenge) =
          some (emptyChallenge none) := by
  refine ⟨smallCodec_readsBack, serverIssued_emptyChallenge ?_, canCarry_plainPing, _, rfl, ?_⟩
  · intro raw hRaw
    cases hRaw
    exact ⟨.null, rfl⟩
  · decide

theorem credential_survives_emptyChallenge :
    ∃ sent, plainPing.setCredential smallCodec
        ⟨emptyChallenge (some (base64urlEncode [123, 125])), none, .null⟩ = .ok sent ∧
      sent.credential smallCodec =
        .ok (some ⟨emptyChallenge (some (base64urlEncode [123, 125])), none, .null⟩) ∧
      sent.operationDigest smallCodec = plainPing.operationDigest smallCodec := by
  have hIssued : ServerIssued smallCodec (emptyChallenge (some (base64urlEncode [123, 125]))) := by
    apply serverIssued_emptyChallenge
    intro raw hRaw
    cases hRaw
    exact ⟨.ofMap .empty, rfl⟩
  rcases credential_survives_iff smallCodec_readsBack hIssued with ⟨-, hRead, hDigest, -⟩
  rcases hRead plainPing canCarry_plainPing none .null with ⟨sent, hSent, hIff⟩
  refine ⟨sent, hSent, hIff.mpr ?_, hDigest _ _ _ hSent⟩
  rintro ⟨raw, hRaw, hNull⟩
  cases hRaw
  have hEmpty : (decodeValue smallCodec (base64urlEncode [123, 125])).toOption.map
      (fun value => Json.same value.1 .null) = some false := by
    decide
  rw [hNull] at hEmpty
  cases hEmpty

end PayKit.Mcp
