import PayKit.Login.Authenticate

/-!
# Honest logins

What a server issues with `challenge_at` of `mpp/server/authenticate.rs`, and the credential that
`build_credential` of `mpp/client/authenticate.rs` makes of it. The client signs for the network
that the challenge names, and adds the resource of its subscription to those of the challenge.

The JSON of a request and the signature of a message are parameters.
-/

namespace PayKit.Login

open Challenge Control Machine Solana Subscription

structure AuthenticateMethodDetails where
  network : Option String
  signatureType : Option String
  signatureScheme : Option String
deriving DecidableEq

def AuthenticateMethodDetails.forNetwork (network : String) : AuthenticateMethodDetails where
  network := some network
  signatureType := some signatureTypeEd25519
  signatureScheme := some signatureSchemeSiwmpp

/-- `AuthenticateRequest`, with its method details. -/
structure DetailedRequest extends AuthenticateRequest where
  methodDetails : Option AuthenticateMethodDetails
deriving DecidableEq

/-- `Base64UrlJson` of a request. -/
structure RequestJson where
  fromTyped : DetailedRequest → Except String String
  decode : String → Except String DetailedRequest

structure LoginSigner where
  pubkey : Pubkey
  signMessage : List UInt8 → Except String (List UInt8)

/-- `bs58::encode`. -/
def base58Encode (bytes : List UInt8) : String :=
  String.ofList ((Encoding.transcode 256 58 (bytes.map UInt8.toNat)).map base58Char)

/-- `challenge_at`. The expiry of a challenge is five minutes from the clock of the process. -/
def AuthenticateServer.challengeAt (primitives : LoginPrimitives) (json : RequestJson)
    (server : AuthenticateServer) (defaultExpires : String) (nowSecs : ℤ) :
    Except String PaymentChallenge := do
  let request ← server.issuedRequest primitives nowSecs
  let encoded ← (json.fromTyped { request with
    methodDetails := some (.forNetwork server.config.network) }).mapError
      ("encode authenticate request: " ++ ·)
  return withChallengeBindingSecretFull primitives.hmac server.challengeBindingSecret server.realm
    methodName intentName encoded (some defaultExpires) none server.config.statement none

/-- The payload that a client signs. -/
def unsignedPayload (signer : LoginSigner) (request : AuthenticateRequest)
    (network subscriptionPda : String) : AuthenticatePayload :=
  let binding := resourceSchemeSolanaSubscription ++ ":" ++ subscriptionPda
  { domain := request.domain
    uri := request.uri
    address := signer.pubkey.display
    version := request.version
    network
    nonce := request.nonce
    issuedAt := request.issuedAt
    expirationTime := request.expirationTime
    notBefore := request.notBefore
    statement := request.statement
    requestId := request.requestId
    resources :=
      if binding ∈ request.resources then request.resources else request.resources ++ [binding]
    signatureType := signatureTypeEd25519
    signatureScheme := some signatureSchemeSiwmpp
    signature := "" }

def buildCredential (json : RequestJson) (signer : LoginSigner) (challenge : PaymentChallenge)
    (subscriptionPda : String) : Except String AuthenticateCredential := do
  refuseIf (challenge.intent ≠ "authenticate")
    ("build_credential expects intent=`authenticate`, got `" ++ challenge.intent ++ "`")
  let request ← (json.decode challenge.request).mapError ("decode authenticate request: " ++ ·)
  let network ← okOr (request.methodDetails.bind (·.network))
    "authenticate challenge missing `methodDetails.network` — server is misconfigured"
  let payload := unsignedPayload signer request.toAuthenticateRequest network subscriptionPda
  let signature ← (signer.signMessage (utf8 (formatCanonicalMessage payload))).mapError
    ("Subscriber signing failed: " ++ ·)
  return ⟨challenge, .ok { payload with signature := base58Encode signature }⟩

end PayKit.Login
