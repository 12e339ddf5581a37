import PayKit.Challenge.Binding
import PayKit.Control.Refusal
import PayKit.Encoding.JsonValue

/-!
# Payment metadata of MCP requests

`Request`, `Challenge` and `Credential` of `mpp/mcp.rs`, with the JSON that `serde` reads and
writes for them. A request carries its payment credential in the metadata of its parameters, or
at its root. The digest that binds a challenge to an operation leaves the credential out.

Canonical JSON, the JSON parser, SHA-256 and the base64 decoder are parameters.
-/

namespace PayKit.Mcp

open Challenge Control Encoding
open Json (Value Map)

def credentialMetaKey : String :=
  "org.paymentauth/credential"

/-- What the module uses of other packages. -/
structure Codec where
  /-- `serde_json_canonicalizer::to_vec`. -/
  canonicalize : Value → Except String (List UInt8)
  /-- `serde_json::from_slice`. -/
  parse : List UInt8 → Except String Value
  sha256 : List UInt8 → List UInt8
  /-- `URL_SAFE_NO_PAD.decode`. -/
  decodeUnpadded : String → Except String (List UInt8)

/-! ### Base64url JSON -/

/-- The character of the URL-safe alphabet. -/
def urlSafe (char : Char) : Char :=
  if char = '+' then '-' else if char = '/' then '_' else char

def base64urlDecode (codec : Codec) (input : String) : Except String (List UInt8) :=
  let normalized := String.ofList ((input.toList.filter (· ≠ '=')).map urlSafe)
  (codec.decodeUnpadded normalized).mapError ("Invalid base64url: " ++ ·)

/-- `Base64UrlJson::from_value`, and `from_typed` of what the type is written as. -/
def fromValue (codec : Codec) (value : Value) : Except String String := do
  let json ← (codec.canonicalize value).mapError ("Canonical JSON failed: " ++ ·)
  return base64urlEncode json

def decodeValue (codec : Codec) (raw : String) : Except String Value := do
  let bytes ← base64urlDecode codec raw
  (codec.parse bytes).mapError ("Invalid JSON in base64url: " ++ ·)

def transpose {First Second : Type} (convert : First → Except String Second) :
    Option First → Except String (Option Second)
  | some value => some <$> convert value
  | none => .ok none

/-! ### Native JSON challenges and credentials -/

structure Challenge where
  id : String
  realm : String
  method : String
  intent : String
  request : Value
  expires : Option String
  description : Option String
  digest : Option String
  opaqueValue : Option Value

/-- `Challenge::try_from`. -/
def Challenge.ofPaymentChallenge (codec : Codec) (challenge : PaymentChallenge) :
    Except String Challenge := do
  refuseIf (challenge.id = "") "MCP payment challenge id must not be empty"
  let request ← decodeValue codec challenge.request
  let opaqueValue ← transpose (decodeValue codec) challenge.opaqueValue
  return {
    id := challenge.id
    realm := challenge.realm
    method := challenge.method
    intent := challenge.intent
    request
    expires := challenge.expires
    description := challenge.description
    digest := challenge.digest
    opaqueValue }

/-- `PaymentChallenge::try_from`. -/
def Challenge.toPaymentChallenge (codec : Codec) (challenge : Challenge) :
    Except String PaymentChallenge := do
  refuseIf (challenge.id = "") "MCP payment challenge id must not be empty"
  let request ← fromValue codec challenge.request
  let opaqueValue ← transpose (fromValue codec) challenge.opaqueValue
  return {
    id := challenge.id
    realm := challenge.realm
    method := challenge.method
    intent := challenge.intent
    request
    expires := challenge.expires
    description := challenge.description
    digest := challenge.digest
    opaqueValue }

structure Credential where
  challenge : Challenge
  source : Option String
  payload : Value

structure PaymentCredential where
  challenge : ChallengeEcho
  source : Option String
  payload : Value

/-- `Credential::try_from`. -/
def Credential.ofPaymentCredential (codec : Codec) (credential : PaymentCredential) :
    Except String Credential := do
  let challenge ← Challenge.ofPaymentChallenge codec credential.challenge
  return { challenge, source := credential.source, payload := credential.payload }

/-- `PaymentCredential::try_from`. -/
def Credential.toPaymentCredential (codec : Codec) (credential : Credential) :
    Except String PaymentCredential := do
  let challenge ← credential.challenge.toPaymentChallenge codec
  return { challenge, source := credential.source, payload := credential.payload }

/-! ### What is written and read of a structure -/

/-- A field that is written unless it has no value. -/
def insertField (map : Map) (field : String × Option Value) : Map :=
  match field.2 with
  | some value => map.insert field.1 value
  | none => map

/-- The members that a structure is written as. -/
def ofFields (fields : List (String × Option Value)) : Map :=
  fields.foldl insertField Map.empty

/-- The fields that a structure is read from, by their names or in their order. -/
def structFields (names : List String) (value : Value) : Except String (String → Option Value) :=
  match value.asMap, value.asItems with
  | some map, _ => .ok map.get?
  | none, some items =>
      if names.length < items.length then .error "invalid length"
      else .ok fun name => items[names.idxOf name]?
  | none, none => .error "invalid type"

def required (fields : String → Option Value) (name : String) : Except String Value :=
  okOr (fields name) ("missing field `" ++ name ++ "`")

/-- An `Option` field: there is no value in a `null`. -/
def optional (fields : String → Option Value) (name : String) : Option Value :=
  match fields name with
  | some ⟨.null, _⟩ => none
  | field => field

def asText (value : Value) : Except String String :=
  okOr value.1.asStr "invalid type, expected a string"

def Challenge.fields (challenge : Challenge) : List (String × Option Value) :=
  [("id", some (.ofText challenge.id)), ("realm", some (.ofText challenge.realm)),
    ("method", some (.ofText challenge.method)), ("intent", some (.ofText challenge.intent)),
    ("request", some challenge.request), ("expires", challenge.expires.map .ofText),
    ("description", challenge.description.map .ofText), ("digest", challenge.digest.map .ofText),
    ("opaque", challenge.opaqueValue)]

def Challenge.toValue (challenge : Challenge) : Value :=
  .ofMap (ofFields challenge.fields)

/-- `serde_json::from_value`. -/
def Challenge.readValue (value : Value) : Except String Challenge := do
  let fields ← structFields ["id", "realm", "method", "intent", "request", "expires",
    "description", "digest", "opaque"] value
  let id ← required fields "id" >>= asText
  let realm ← required fields "realm" >>= asText
  let method ← required fields "method" >>= asText
  let intent ← required fields "intent" >>= asText
  let request ← required fields "request"
  let expires ← transpose asText (optional fields "expires")
  let description ← transpose asText (optional fields "description")
  let digest ← transpose asText (optional fields "digest")
  return {
    id
    realm
    method
    intent
    request
    expires
    description
    digest
    opaqueValue := optional fields "opaque" }

def Credential.fields (credential : Credential) : List (String × Option Value) :=
  [("challenge", some credential.challenge.toValue), ("source", credential.source.map .ofText),
    ("payload", some credential.payload)]

def Credential.toValue (credential : Credential) : Value :=
  .ofMap (ofFields credential.fields)

/-- `serde_json::from_value`. -/
def Credential.readValue (value : Value) : Except String Credential := do
  let fields ← structFields ["challenge", "source", "payload"] value
  let challenge ← required fields "challenge" >>= Challenge.readValue
  let source ← transpose asText (optional fields "source")
  let payload ← required fields "payload"
  return { challenge, source, payload }

/-! ### Requests -/

structure Request where
  id : Option Value
  method : String
  params : Option Value
  metadata : Option Map

namespace Request

/-- The credential in a value of the metadata. -/
def readCredential (codec : Codec) (value : Value) : Except String (Option PaymentCredential) := do
  let credential ← (Credential.readValue value).mapError ("invalid MCP payment credential: " ++ ·)
  return some (← credential.toPaymentCredential codec)

/-- The value under the key of the credential in the metadata of the parameters. -/
def nestedCredential (request : Request) : Option Value := do
  let params ← request.params
  let params ← params.asMap
  let metadata ← params.get? "_meta"
  let metadata ← metadata.asMap
  metadata.get? credentialMetaKey

def credential (codec : Codec) (request : Request) : Except String (Option PaymentCredential) :=
  match request.nestedCredential, request.metadata.bind (·.get? credentialMetaKey) with
  | none, none => .ok none
  | some value, none => readCredential codec value
  | none, some value => readCredential codec value
  | some nested, some root =>
      if Json.same nested.1 root.1 then readCredential codec nested
      else .error "conflicting payment credentials in root and params metadata"

/-- The request with a value under a key of the metadata of its parameters. -/
def insertMetadata (request : Request) (key : String) (value : Value) : Except String Request := do
  let params ← okOr (request.params.getD (.ofMap .empty)).asMap
    "MCP request params must be an object to carry payment metadata"
  let metadata ← okOr ((params.get? "_meta").getD (.ofMap .empty)).asMap
    "MCP request params._meta must be an object"
  return { request with
    params := some (.ofMap (params.insert "_meta" (.ofMap (metadata.insert key value)))) }

def setCredential (codec : Codec) (request : Request) (credential : PaymentCredential) :
    Except String Request := do
  let credential ← Credential.ofPaymentCredential codec credential
  request.insertMetadata credentialMetaKey credential.toValue

end Request

def removeRetryMetadata (params : Map) : Map :=
  match (params.get? "_meta").bind Value.asMap with
  | none => params
  | some metadata =>
      let metadata := (metadata.remove credentialMetaKey).remove "progressToken"
      if metadata.isEmpty then params.remove "_meta"
      else params.insert "_meta" (.ofMap metadata)

namespace Request

/-- The parameters that the digest is taken of. -/
def operationParams (request : Request) : Option Value :=
  match request.params.bind Value.asMap with
  | none => request.params
  | some params =>
      let params := removeRetryMetadata params
      if params.isEmpty then none else some (.ofMap params)

/-- The JSON that the digest is taken of. -/
def operation (request : Request) : Value :=
  .ofMap ((Map.empty.insert "method" (.ofText request.method)).insert "params"
    (request.operationParams.getD .null))

def operationDigest (codec : Codec) (request : Request) : Except String String := do
  let canonical ← (codec.canonicalize request.operation).mapError
    ("failed to canonicalize MCP operation: " ++ ·)
  return "sha-256:" ++ base64urlEncode (codec.sha256 canonical)

end Request

end PayKit.Mcp
