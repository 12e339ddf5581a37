import PayKit.Login.Timestamp

/-!
# Sign-in messages of x402

`format_siws_message`, `is_compatible_solana_payload` and `validate_siwx_message` of
`x402/siwx.rs`. The domain of a payload is the host of the resource that the server expects,
and the timestamps are parsed. The other fields are taken as they are.

Parsing a URL is a parameter. It drops line breaks within a URL, as the standard says, so a URI
that parses may still have some.
-/

namespace PayKit.Login

open Control X402

def solanaChainPrefix : String := "solana:"
def siwxSignatureTypeEd25519 : String := "ed25519"
def siwxSignatureSchemeSiws : String := "siws"

/-- `SiwxPayload`, which has the fields of `CompleteSiwxInfo` and the signature. -/
structure SiwxPayload where
  domain : String
  address : String
  uri : String
  statement : Option String
  version : String
  chainId : String
  nonce : String
  issuedAt : String
  expirationTime : Option String
  notBefore : Option String
  requestId : Option String
  resources : Option (List String)
  signatureType : String
  signatureScheme : Option String
  signature : String
deriving DecidableEq

def stripPrefix (text start : String) : Option String :=
  if start.toList <+: text.toList then
    some (String.ofList (text.toList.drop start.toList.length))
  else none

def extractSolanaChainReference (chainId : String) : Except Error String :=
  okOr (stripPrefix chainId solanaChainPrefix) (.other "siwx_unsupported_chain")

/-- A line for a field that may be missing. -/
def fieldLine (label : String) (value : Option String) : List String :=
  (value.map (label ++ ·)).toList

def siwsResourceLines (resources : Option (List String)) : List String :=
  match resources with
  | some resources =>
      if resources = [] then [] else "Resources:" :: resources.map ("- " ++ ·)
  | none => []

/-- The statement and the blank line after it. -/
def siwsStatementLines : Option String → List String
  | some statement => [statement, ""]
  | none => []

/-- The lines of a sign-in message after its first one. -/
def siwsLines (info : SiwxPayload) (chainReference : String) : List String :=
  [info.address, ""] ++ siwsStatementLines info.statement ++
    ["URI: " ++ info.uri, "Version: " ++ info.version, "Chain ID: " ++ chainReference,
      "Nonce: " ++ info.nonce, "Issued At: " ++ info.issuedAt] ++
    fieldLine "Expiration Time: " info.expirationTime ++
    fieldLine "Not Before: " info.notBefore ++ fieldLine "Request ID: " info.requestId ++
    siwsResourceLines info.resources

def formatSiwsMessage (info : SiwxPayload) : Except Error String := do
  let chainReference ← extractSolanaChainReference info.chainId
  return "\n".intercalate
    ((info.domain ++ " wants you to sign in with your Solana account:") ::
      siwsLines info chainReference)

def isCompatibleSolanaPayload (payload : SiwxPayload) : Bool :=
  solanaChainPrefix.toList <+: payload.chainId.toList ∧
    payload.signatureType = siwxSignatureTypeEd25519 ∧
      payload.signatureScheme.getD siwxSignatureSchemeSiws = siwxSignatureSchemeSiws

/-- What is used of a URL: its host, and its origin as text. -/
structure Url where
  host : Option String
  origin : String

/-- `SiwxMessageValidationOptions`, in nanoseconds. -/
structure SiwxMessageValidationOptions where
  now : ℤ
  maxAge : ℕ
  expectedNonce : Option String

def validateSiwxMessage (parseUrl : String → Except String Url) (payload : SiwxPayload)
    (expectedResourceUri : String) (options : SiwxMessageValidationOptions) :
    Except Error Unit := do
  let expectedUrl ← (parseUrl expectedResourceUri).mapError fun error =>
    Error.other ("Invalid expected resource URI: " ++ error)
  let payloadUrl ← (parseUrl payload.uri).mapError fun error =>
    Error.other ("Invalid SIWX URI: " ++ error)
  refuseIf (payload.domain ≠ expectedUrl.host.getD "") (.other "siwx_domain_mismatch" : Error)
  refuseIf (payloadUrl.origin ≠ expectedUrl.origin) (.other "siwx_uri_origin_mismatch" : Error)
  match options.expectedNonce with
  | some expectedNonce =>
      refuseIf (payload.nonce ≠ expectedNonce) (.other "siwx_nonce_mismatch" : Error)
  | none => pure ()
  let issuedAt ← parseRfc3339Z payload.issuedAt
  refuseIf (options.now < issuedAt) (.other "siwx_issued_at_in_future" : Error)
  refuseIf (options.maxAge < options.now - issuedAt) (.other "siwx_issued_at_too_old" : Error)
  match payload.expirationTime with
  | some expirationTime => do
      let expiration ← parseRfc3339Z expirationTime
      refuseIf (expiration ≤ options.now) (.other "siwx_expired" : Error)
  | none => pure ()
  match payload.notBefore with
  | some notBefore => do
      let start ← parseRfc3339Z notBefore
      refuseIf (options.now < start) (.other "siwx_not_before" : Error)
  | none => pure ()

/-- The payload passes the checks of some server, with some options. -/
def SiwxPayload.Passes (parseUrl : String → Except String Url) (payload : SiwxPayload) : Prop :=
  isCompatibleSolanaPayload payload = true ∧
    ∃ expectedResourceUri options,
      validateSiwxMessage parseUrl payload expectedResourceUri options = .ok ()

end PayKit.Login
