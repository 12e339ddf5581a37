import PayKit.Login.Timestamp
import PayKit.Subscription.Activation

/-!
# The `authenticate` intent

`format_canonical_message` of `mpp/protocol/intents/authenticate.rs`, and what
`AuthenticateServer` of `mpp/server/authenticate.rs` issues and verifies. A client signs the
canonical message of a payload, and the server compares the payload with the challenge that it
issued. It never looks at the statement and the request identifier of a payload, and it only
looks for one resource among those of the payload.

The derivation of addresses, the decoding of a request and the curve are parameters.
-/

namespace PayKit.Login

open Challenge Control Machine Solana Subscription

/-! ### Payloads -/

def signatureTypeEd25519 : String := "ed25519"
def signatureSchemeSiwmpp : String := "siwmpp"
def siwmppVersion : String := "1"
def resourceSchemeSolanaSubscription : String := "solana-subscription"

/-- `AuthenticateRequest`, without its method details. -/
structure AuthenticateRequest where
  domain : String
  uri : String
  version : String
  nonce : String
  issuedAt : String
  expirationTime : String
  notBefore : Option String
  statement : Option String
  requestId : Option String
  resources : List String
deriving DecidableEq

structure AuthenticatePayload where
  domain : String
  uri : String
  address : String
  version : String
  network : String
  nonce : String
  issuedAt : String
  expirationTime : String
  notBefore : Option String
  statement : Option String
  requestId : Option String
  resources : List String
  signatureType : String
  signatureScheme : Option String
  signature : String
deriving DecidableEq

/-! ### The signed message -/

/-- An optional text that is not empty. -/
def filled (text : Option String) : Option String :=
  text.filter (· ≠ "")

def optionalLine (label : String) : Option String → String
  | some value => "\n" ++ (label ++ value)
  | none => ""

/-- The statement between line breaks. -/
def statementBlock : Option String → String
  | some statement => "\n" ++ statement ++ "\n"
  | none => ""

def resourceLines (resources : List String) : String :=
  if resources = [] then ""
  else "\n" ++ "Resources:" ++ String.join (resources.map fun r => "\n" ++ ("- " ++ r))

def formatCanonicalMessage (p : AuthenticatePayload) : String :=
  p.domain ++ " wants you to authenticate with MPP:\n" ++ p.address ++ "\n" ++
    statementBlock (filled p.statement) ++ "\n" ++
    ("URI: " ++ p.uri ++ "\n") ++ ("Version: " ++ p.version ++ "\n") ++
    ("Network: " ++ p.network ++ "\n") ++ ("Nonce: " ++ p.nonce ++ "\n") ++
    ("Issued At: " ++ p.issuedAt) ++
    optionalLine "Expiration Time: " (filled (some p.expirationTime)) ++
    optionalLine "Not Before: " (filled p.notBefore) ++
    optionalLine "Request ID: " (filled p.requestId) ++ resourceLines p.resources

/-! ### The server -/

inductive VerifyError where
  | challengeIdMismatch
  | pinnedFieldMismatch (name : String)
  | nonceMismatch
  | outsideValidityWindow
  | malformedPayload (reason : String)
  | signatureInvalid
  | resourceMismatch
  | internal (reason : String)
deriving DecidableEq

def VerifyError.display : VerifyError → String
  | challengeIdMismatch => "challenge id HMAC mismatch"
  | pinnedFieldMismatch name => "credential `" ++ name ++ "` does not match server config"
  | nonceMismatch => "nonce does not match server-issued HMAC"
  | outsideValidityWindow => "credential outside validity window"
  | malformedPayload reason => "malformed credential payload: " ++ reason
  | signatureInvalid => "ed25519 signature did not verify"
  | resourceMismatch => "resource binding does not match"
  | internal reason => "internal error: " ++ reason

inductive SignatureError where
  | invalid
  | malformed (reason : String)
deriving DecidableEq

/-- `AuthenticateConfig`, without its store. -/
structure AuthenticateConfig where
  domain : String
  uri : String
  planId : String
  planCreatedAt : ℤ
  periodHours : ℕ
  network : String
  programId : Option String
  challengeBindingSecret : String
  realm : String
  subscriptionExpires : Option String
  statement : Option String
deriving DecidableEq

structure AuthenticateServer where
  config : AuthenticateConfig
  programId : String
  challengeBindingSecret : String
  realm : String
  subscriptionExpiresSecs : Option ℤ
deriving DecidableEq

/-- What the server uses of its libraries. -/
structure LoginPrimitives where
  hmac : Hmac
  findProgramAddress : List (List UInt8) → Pubkey → Pubkey
  /-- An RFC 3339 timestamp in seconds, as the `time` crate reads it. -/
  parseRfc3339 : String → Except String ℤ
  /-- `Base64UrlJson::decode` of a request. -/
  decodeRequest : String → Except String AuthenticateRequest
  /-- The check of a base-58 signature of a message by a base-58 address. -/
  verifySignature : (address signature message : String) → Except SignatureError Unit

def subscriptionsProgramId : String :=
  "De1egAFMkMWZSN5rYXRj9CAdheBamobVNubTsi9avR44"

/-- `AuthenticateServer::new`, with the text of its `InvalidConfig`. -/
def AuthenticateServer.new (primitives : LoginPrimitives) (config : AuthenticateConfig) :
    Except String AuthenticateServer := do
  refuseIf (config.domain = "") "domain is required"
  refuseIf (config.uri = "") "uri is required"
  refuseIf (config.planId = "") "plan_id is required"
  refuseIf (config.challengeBindingSecret = "") "challenge_binding_secret is required"
  refuseIf (config.realm = "") "realm is required"
  refuseIf (config.network = "") "network is required"
  refuseIf (config.periodHours = 0 ∨ 8760 < config.periodHours) "period_hours must be in [1, 8760]"
  let _ ← (Pubkey.fromStr config.planId).mapError fun e => "invalid plan_id: " ++ e.display
  let programId := config.programId.getD subscriptionsProgramId
  let _ ← (Pubkey.fromStr programId).mapError fun e => "invalid program_id: " ++ e.display
  let subscriptionExpiresSecs ← config.subscriptionExpires.mapM fun value =>
    (primitives.parseRfc3339 value).mapError fun e =>
      "subscription_expires must be RFC3339: " ++ e
  return {
    config
    programId
    challengeBindingSecret := config.challengeBindingSecret
    realm := config.realm
    subscriptionExpiresSecs }

def clockSkewToleranceSecs : ℤ := 60

def currentPeriodEndSecs (planCreatedAt : ℤ) (periodHours : ℕ) (now : ℤ) : ℤ :=
  let delta := asI64 periodHours * 3600
  if delta ≤ 0 ∨ now < planCreatedAt then planCreatedAt + delta
  else planCreatedAt + ((now - planCreatedAt).tdiv delta + 1) * delta

namespace AuthenticateServer

variable (primitives : LoginPrimitives) (server : AuthenticateServer)

def computeNonce (expirationTime : String) : String :=
  Encoding.base64urlEncode ((primitives.hmac server.challengeBindingSecret
    ("|".intercalate ["authenticate", server.realm, server.config.planId, expirationTime])).take 8)

/-- The request that `challenge_at` issues. -/
def issuedRequest (now : ℤ) : Except String AuthenticateRequest := do
  let periodEnd := currentPeriodEndSecs server.config.planCreatedAt server.config.periodHours now
  let expirationSecs ← match server.subscriptionExpiresSecs with
    | some endpointEnd => do
        refuseIf (endpointEnd ≤ now) "subscription authorization has expired"
        pure (min periodEnd endpointEnd)
    | none => pure periodEnd
  let expirationTime := formatRfc3339Seconds expirationSecs
  return {
    domain := server.config.domain
    uri := server.config.uri
    version := siwmppVersion
    nonce := server.computeNonce primitives expirationTime
    issuedAt := formatRfc3339Seconds now
    expirationTime
    notBefore := none
    statement := server.config.statement
    requestId := none
    resources := [] }

/-- The pinned fields of the request that a challenge was issued with. -/
def checkRequest (request : AuthenticateRequest) : Except VerifyError Unit := do
  refuseIf (request.domain ≠ server.config.domain)
    (.pinnedFieldMismatch "domain" : VerifyError)
  refuseIf (request.uri ≠ server.config.uri) (.pinnedFieldMismatch "uri" : VerifyError)

/-- The fields that a payload echoes. -/
def checkEcho (request : AuthenticateRequest) (payload : AuthenticatePayload) :
    Except VerifyError Unit := do
  refuseIf (payload.domain ≠ request.domain) (.pinnedFieldMismatch "domain" : VerifyError)
  refuseIf (payload.uri ≠ request.uri) (.pinnedFieldMismatch "uri" : VerifyError)
  refuseIf (payload.version ≠ request.version) (.pinnedFieldMismatch "version" : VerifyError)
  refuseIf (payload.nonce ≠ request.nonce) (.pinnedFieldMismatch "nonce" : VerifyError)
  refuseIf (payload.issuedAt ≠ request.issuedAt) (.pinnedFieldMismatch "issuedAt" : VerifyError)
  refuseIf (payload.expirationTime ≠ request.expirationTime)
    (.pinnedFieldMismatch "expirationTime" : VerifyError)
  refuseIf (payload.network ≠ server.config.network)
    (.pinnedFieldMismatch "network" : VerifyError)

/-- The validity window of a payload. -/
def checkWindow (payload : AuthenticatePayload) (nowSecs : ℤ) : Except VerifyError Unit := do
  let expirationSecs ← (parseRfc3339Seconds payload.expirationTime).mapError fun e =>
    VerifyError.malformedPayload ("expirationTime: " ++ e)
  refuseIf (expirationSecs + clockSkewToleranceSecs ≤ nowSecs)
    (.outsideValidityWindow : VerifyError)
  match payload.notBefore with
  | some nb => do
      let nbSecs ← (parseRfc3339Seconds nb).mapError fun e =>
        VerifyError.malformedPayload ("notBefore: " ++ e)
      refuseIf (nowSecs + clockSkewToleranceSecs < nbSecs) (.outsideValidityWindow : VerifyError)
  | none => pure ()
  let currentPeriodEnd :=
    currentPeriodEndSecs server.config.planCreatedAt server.config.periodHours nowSecs
  refuseIf (currentPeriodEnd + clockSkewToleranceSecs < expirationSecs)
    (.outsideValidityWindow : VerifyError)
  match server.subscriptionExpiresSecs with
  | some endpointEnd =>
      refuseIf (endpointEnd ≤ nowSecs ∨ endpointEnd < expirationSecs)
        (.outsideValidityWindow : VerifyError)
  | none => pure ()

/-- The resource that a payload has to name. -/
def expectedResource (plan address program : Pubkey) : String :=
  resourceSchemeSolanaSubscription ++ ":" ++
    (findSubscriptionPda primitives.findProgramAddress plan address program).display

/-- The resource binding of a payload. -/
def checkResources (payload : AuthenticatePayload) : Except VerifyError Pubkey := do
  let address ← (Pubkey.fromStr payload.address).mapError fun e =>
    VerifyError.malformedPayload ("address: " ++ e.display)
  let plan ← (Pubkey.fromStr server.config.planId).mapError fun e =>
    VerifyError.internal ("config.plan_id: " ++ e.display)
  let program ← (Pubkey.fromStr server.programId).mapError fun e =>
    VerifyError.internal ("config.program_id: " ++ e.display)
  refuseIf (expectedResource primitives plan address program ∉ payload.resources)
    (.resourceMismatch : VerifyError)
  return address

/-- The checks of `verify_at` on the fields of a payload. -/
def checkFields (request : AuthenticateRequest) (payload : AuthenticatePayload) (nowSecs : ℤ) :
    Except VerifyError Pubkey := do
  server.checkRequest request
  server.checkEcho request payload
  server.checkWindow payload nowSecs
  refuseIf (payload.nonce ≠ server.computeNonce primitives payload.expirationTime)
    (.nonceMismatch : VerifyError)
  server.checkResources primitives payload

end AuthenticateServer

def verifySignature (primitives : LoginPrimitives) (p : AuthenticatePayload) :
    Except SignatureError Unit := do
  refuseIf (p.signatureType ≠ signatureTypeEd25519)
    (.malformed ("expected signature type `" ++ signatureTypeEd25519 ++ "`, got `" ++
      p.signatureType ++ "`") : SignatureError)
  refuseIf (p.signatureScheme.getD signatureSchemeSiwmpp ≠ signatureSchemeSiwmpp)
    (.malformed ("unsupported signature scheme `" ++ p.signatureScheme.getD "" ++ "`") :
      SignatureError)
  primitives.verifySignature p.address p.signature (formatCanonicalMessage p)

/-- A credential, with the outcome of decoding its payload. -/
structure AuthenticateCredential where
  challenge : ChallengeEcho
  payload : Except String AuthenticatePayload

def methodName : String := "solana"
def intentName : String := "authenticate"

def AuthenticateServer.verifyAt (primitives : LoginPrimitives) (server : AuthenticateServer)
    (credential : AuthenticateCredential) (nowSecs : ℤ) : Except VerifyError Pubkey := do
  let challenge := credential.challenge
  refuseIf (challenge.id ≠ computeChallengeId primitives.hmac server.challengeBindingSecret
      server.realm challenge.method challenge.intent challenge.request challenge.expires
      challenge.digest challenge.opaqueValue)
    (.challengeIdMismatch : VerifyError)
  refuseIf (challenge.method ≠ methodName) (.pinnedFieldMismatch "method" : VerifyError)
  refuseIf (challenge.intent ≠ intentName) (.pinnedFieldMismatch "intent" : VerifyError)
  refuseIf (challenge.realm ≠ server.realm) (.pinnedFieldMismatch "realm" : VerifyError)
  let request ← (primitives.decodeRequest challenge.request).mapError fun e =>
    VerifyError.malformedPayload ("request: " ++ e)
  server.checkRequest request
  let payload ← credential.payload.mapError fun e =>
    VerifyError.malformedPayload ("payload: " ++ e)
  server.checkEcho request payload
  server.checkWindow payload nowSecs
  refuseIf (payload.nonce ≠ server.computeNonce primitives payload.expirationTime)
    (.nonceMismatch : VerifyError)
  let address ← server.checkResources primitives payload
  (verifySignature primitives payload).mapError fun
    | .invalid => VerifyError.signatureInvalid
    | .malformed reason => VerifyError.malformedPayload reason
  return address

end PayKit.Login
