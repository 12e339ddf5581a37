import PayKit.Charge.ChallengeAuthentication
import PayKit.Mcp.OperationDigest

/-!
# The charge gate of MCP operations

`Mpp::gate_mcp_charge` of `mpp/mcp.rs`. A challenge is issued with the digest of the operation,
and a credential pays for a request when its challenge has the digest of that request. The
request is then the operation that the challenge was issued for, up to the metadata at the root
of both.
-/

namespace PayKit.Mcp

open PayKit.Challenge Charge Control Encoding
open Json (Value Map rounded)

structure Failure where
  reason : Option String
  detail : Option String

/-- `ErrorResponse`, with the fields of its error object and of its data. -/
structure ErrorResponse where
  id : Value
  code : ℤ
  message : String
  httpStatus : ℕ
  challenges : List Challenge
  failure : Option Failure

def ErrorResponse.paymentRequired (id : Value) (challenges : List Challenge) : ErrorResponse where
  id
  code := -32042
  message := "Payment Required"
  httpStatus := 402
  challenges
  failure := none

def ErrorResponse.verificationFailed (id : Value) (challenges : List Challenge)
    (failure : Failure) : ErrorResponse where
  id
  code := -32043
  message := "Payment Verification Failed"
  httpStatus := 402
  challenges
  failure := some failure

inductive ChargeGateResult where
  | paid (receipt : Receipt)
  | payment (response : ErrorResponse)

/-- A charge server with what the gate calls of it. -/
structure McpServer extends ChargeServer where
  codec : Codec
  /-- `Mpp::charge`. -/
  charge : String → Except String PaymentChallenge
  /-- The checks of a credential that read the clock, the store or its payload. -/
  others : PaymentCredential → OtherChecks
  /-- What is settled once the checks of `verify_bound` have passed. -/
  settle : PaymentCredential → ChargeSettlement → Except VerificationError Receipt

namespace McpServer

variable (server : McpServer)

def bindOperation (challenge : PaymentChallenge) (request : Request) :
    Except String PaymentChallenge := do
  let digest ← request.operationDigest server.codec
  return withChallengeBindingSecretFull server.hmac server.challengeBindingSecret challenge.realm
    challenge.method challenge.intent challenge.request challenge.expires (some digest)
    challenge.description challenge.opaqueValue

def verifyCredentialWithExpected (credential : PaymentCredential) (expected : WireChargeRequest) :
    Except VerificationError Receipt := do
  let settlement ← verifyBoundChecks server.toChargeServer (server.others credential)
    credential.challenge expected none
  server.settle credential settlement

/-- What the gate answers for a credential, once its challenge has the digest of the request. -/
def gateVerified (id : Value) (wireChallenge : Challenge) (credential : PaymentCredential)
    (expected : WireChargeRequest) : ChargeGateResult :=
  match server.verifyCredentialWithExpected credential expected with
  | .ok receipt => .paid receipt
  | .error error => .payment (.verificationFailed id [wireChallenge]
      ⟨error.code, some error.message⟩)

def gateMcpCharge (request : Request) (amount : String) : Except String ChargeGateResult := do
  let id ← okOr request.id "payment-gated MCP operations must include a JSON-RPC id"
  let base ← server.charge amount
  let challenge ← server.bindOperation base request
  let wireChallenge ← Challenge.ofPaymentChallenge server.codec challenge
  let credential ← (request.credential server.codec).mapError
    ("malformed MCP payment credential: " ++ ·)
  match credential with
  | none => return .payment (.paymentRequired id [wireChallenge])
  | some credential =>
      let operationDigest ← request.operationDigest server.codec
      if constantTimeEq (credential.challenge.digest.getD "") operationDigest then
        let expected ← server.decodeRequest challenge.request
        return server.gateVerified id wireChallenge credential expected
      else
        return .payment (.verificationFailed id [wireChallenge] ⟨some "operation-mismatch",
          some "payment credential was issued for a different MCP operation"⟩)

/-- The challenge was issued for the operation of a request. -/
def IssuedFor (challenge : PaymentChallenge) (origin : Request) : Prop :=
  ∃ base, server.bindOperation base origin = .ok challenge

end McpServer

variable {server : McpServer} {request origin : Request} {challenge : PaymentChallenge}
  {credential : PaymentCredential} {amount : String} {receipt : Receipt}
  {double : Json → String} {issued : Set PaymentChallenge}

theorem paid_of_gateVerified {id : Value} {wireChallenge : Challenge}
    {expected : WireChargeRequest}
    (hPaid : server.gateVerified id wireChallenge credential expected = .paid receipt) :
    ∃ settlement, verifyBoundChecks server.toChargeServer (server.others credential)
      credential.challenge expected none = .ok settlement := by
  unfold McpServer.gateVerified at hPaid
  split at hPaid
  · rename_i hVerified
    rcases bind_eq_ok.mp hVerified with ⟨settlement, hChecked, -⟩
    exact ⟨settlement, hChecked⟩
  · cases hPaid

theorem credential_of_paid (hPaid : server.gateMcpCharge request amount = .ok (.paid receipt)) :
    ∃ credential, request.credential server.codec = .ok (some credential) ∧
      request.operationDigest server.codec = .ok (credential.challenge.digest.getD "") ∧
      computeChallengeId server.hmac server.challengeBindingSecret server.realm
        credential.challenge.method credential.challenge.intent credential.challenge.request
        credential.challenge.expires credential.challenge.digest
        credential.challenge.opaqueValue = credential.challenge.id := by
  simp only [McpServer.gateMcpCharge, bind_eq_ok, mapError_eq_ok] at hPaid
  rcases hPaid with ⟨id, -, base, -, challenge, -, wireChallenge, -, found, hFound, hPaid⟩
  cases found with
  | none => cases hPaid
  | some credential =>
      simp only [bind_eq_ok] at hPaid
      rcases hPaid with ⟨operationDigest, hDigest, hPaid⟩
      split at hPaid
      · rename_i hSame
        rcases bind_eq_ok.mp hPaid with ⟨expected, -, hPaid⟩
        rcases paid_of_gateVerified (Except.ok.inj hPaid) with ⟨settlement, hChecked⟩
        refine ⟨credential, hFound, ?_, ?_⟩
        · rw [hDigest, constantTimeEq_eq_true.mp hSame]
        · exact (id_of_authenticate (terms_of_verifyBoundChecks hChecked).1).1
      · cases hPaid

theorem digest_of_issuedFor (hIssued : server.IssuedFor challenge origin) :
    ∃ digest, origin.operationDigest server.codec = .ok digest ∧
      challenge.digest = some digest := by
  rcases hIssued with ⟨base, hBound⟩
  rcases bind_eq_ok.mp hBound with ⟨digest, hDigest, hChallenge⟩
  cases hChallenge
  exact ⟨digest, hDigest, rfl⟩

theorem operationDigest_ne_empty {codec : Codec} :
    request.operationDigest codec ≠ .ok "" := by
  intro hDigest
  simp only [Request.operationDigest, bind_eq_ok, pure, Except.pure, Except.ok.injEq] at hDigest
  rcases hDigest with ⟨canonical, -, hText⟩
  have hChars := congrArg String.toList hText
  simp at hChars

/-- With ideal primitives, requests with one digest, and a paid request and the one that its
challenge was issued for, are the same operation exactly when the metadata at their roots is the
same and neither alone has a literal `null` for its parameters. -/
theorem mcpOperation_bound_iff (hIdeal : server.codec.Ideal double)
    (hIssued : ∀ challenge ∈ issued,
      Issued server.hmac server.challengeBindingSecret server.realm challenge)
    (hOrigin : ∀ challenge ∈ issued, challenge.digest = none ∨
      ∃ origin, server.IssuedFor challenge origin)
    (hInjective : Function.Injective (server.hmac server.challengeBindingSecret)) :
    (∀ left right : Request, ∀ digest, left.operationDigest server.codec = .ok digest →
      right.operationDigest server.codec = .ok digest →
        (SameOperation double left right ↔
          SameRoot double left right ∧ (left.NullParams ↔ right.NullParams))) ∧
    ∀ (request : Request) (amount : String) (receipt : Receipt),
      (∀ credential, request.credential server.codec = .ok (some credential) →
        computeChallengeId server.hmac server.challengeBindingSecret server.realm
          credential.challenge.method credential.challenge.intent credential.challenge.request
          credential.challenge.expires credential.challenge.digest
          credential.challenge.opaqueValue = credential.challenge.id →
        ∃ challenge ∈ issued, challenge.id = credential.challenge.id) →
      server.gateMcpCharge request amount = .ok (.paid receipt) →
        ∃ credential, request.credential server.codec = .ok (some credential) ∧
          ∃ challenge ∈ issued, challenge.id = credential.challenge.id ∧
            (∃ origin, server.IssuedFor challenge origin) ∧
            ∀ origin, server.IssuedFor challenge origin →
              (SameOperation double origin request ↔
                SameRoot double origin request ∧ (origin.NullParams ↔ request.NullParams)) := by
  refine ⟨fun left right digest hLeft hRight => sameOperation_iff hIdeal hLeft hRight, ?_⟩
  intro request amount receipt hUnforgeable hPaid
  rcases credential_of_paid hPaid with ⟨credential, hCredential, hDigest, hId⟩
  rcases hUnforgeable credential hCredential hId with ⟨challenge, hMem, hSameId⟩
  have hFields := (hIssued challenge hMem).sameFields hInjective (hId.trans hSameId.symm)
  have hBound : ∀ origin, server.IssuedFor challenge origin →
      origin.operationDigest server.codec = .ok (credential.challenge.digest.getD "") := by
    intro origin hFor
    rcases digest_of_issuedFor hFor with ⟨digest, hOriginDigest, hChallengeDigest⟩
    have hSame := hFields.digest
    rw [hChallengeDigest, Option.getD_some] at hSame
    rw [hOriginDigest, hSame]
  refine ⟨credential, hCredential, challenge, hMem, hSameId, ?_, ?_⟩
  · rcases hOrigin challenge hMem with hNone | hFor
    · have hSame := hFields.digest
      rw [hNone, Option.getD_none] at hSame
      rw [← hSame] at hDigest
      exact absurd hDigest operationDigest_ne_empty
    · exact hFor
  · intro origin hFor
    exact sameOperation_iff hIdeal (hBound origin hFor) hDigest

/-! ### Two tenants -/

/-- A request with an application's metadata at its root. -/
def pingFor (tenant : String) : Request where
  id := some (.ofText "1")
  method := "ping"
  params := none
  metadata := some (Map.empty.insert "tenant" (.ofText tenant))

def pingText : List UInt8 :=
  utf8 "\x7b\"method\":\"ping\",\"params\":null\x7d"

/-- Primitives that know the JSON of one operation and of an empty request. -/
def pingCodec : Codec where
  canonicalize value :=
    if Json.same value.1 (pingFor "").operation.1 then .ok pingText
    else if Json.same value.1 (.object []) then .ok [123, 125]
    else .error "unsupported"
  parse bytes := if bytes = [123, 125] then .ok (.ofMap .empty) else .error "unsupported"
  sha256 text := text
  decodeUnpadded text := if text = "e30" then .ok [123, 125] else .error "unsupported"

def pingBase : PaymentChallenge :=
  withChallengeBindingSecretFull openServer.hmac "" "shop" methodName "charge"
    (base64urlEncode [123, 125]) (some "2030-01-01T00:00:00Z") none none none

/-- The challenge that is issued for a ping. -/
def pingChallenge : PaymentChallenge :=
  withChallengeBindingSecretFull openServer.hmac "" "shop" methodName "charge"
    (base64urlEncode [123, 125]) (some "2030-01-01T00:00:00Z")
    (some ("sha-256:" ++ base64urlEncode pingText)) none none

def pingServer : McpServer where
  toChargeServer := openServer
  codec := pingCodec
  charge _ := .ok pingBase
  others _ := passedChecks
  settle credential _ := .ok (.success "signature" credential.challenge.id)

/-- The credential for the challenge of a ping. -/
def pingCredential : Credential where
  challenge := {
    id := pingChallenge.id
    realm := pingChallenge.realm
    method := pingChallenge.method
    intent := pingChallenge.intent
    request := .ofMap .empty
    expires := pingChallenge.expires
    description := none
    digest := pingChallenge.digest
    opaqueValue := none }
  source := none
  payload := .ofMap .empty

def paidPing (tenant : String) : Request :=
  { pingFor tenant with
    params := some (.ofMap (Map.empty.insert "_meta"
      (.ofMap (Map.empty.insert credentialMetaKey pingCredential.toValue)))) }

def ChargeGateResult.receipt? : ChargeGateResult → Option Receipt
  | paid receipt => some receipt
  | payment _ => none

theorem pingCodec_ideal (double : Json → String) : pingCodec.Ideal double where
  canonical := by
    intro left right text hLeft hRight
    have hTexts : pingText ≠ [123, 125] := by decide
    simp only [pingCodec] at hLeft hRight
    split at hLeft
    · rename_i hLeftSame
      cases hLeft
      split at hRight
      · rename_i hRightSame
        rw [Json.eq_of_same hLeftSame, Json.eq_of_same hRightSame]
      · split at hRight
        · exact absurd (Except.ok.inj hRight).symm hTexts
        · cases hRight
    · split at hLeft
      · rename_i hLeftSame
        cases hLeft
        split at hRight
        · exact absurd (Except.ok.inj hRight) hTexts
        · split at hRight
          · rename_i hRightSame
            rw [Json.eq_of_same hLeftSame, Json.eq_of_same hRightSame]
          · cases hRight
      · cases hLeft
  collisionFree := fun _ _ hSame => hSame

theorem eq_ok_of_toOption {Failure Result : Type} {check : Except Failure Result} {value : Result}
    (hValue : check.toOption = some value) : check = .ok value := by
  cases check with
  | error failure => cases hValue
  | ok found =>
      cases hValue
      rfl

theorem digest_pingFor_alice : ((pingFor "alice").operationDigest pingCodec).toOption =
    some ("sha-256:" ++ base64urlEncode pingText) := by
  decide

theorem digest_paidPing_bob : ((paidPing "bob").operationDigest pingCodec).toOption =
    some ("sha-256:" ++ base64urlEncode pingText) := by
  decide

theorem paid_paidPing_bob :
    ((pingServer.gateMcpCharge (paidPing "bob") "5").toOption.bind (·.receipt?)) =
      some (.success "signature" pingChallenge.id) := by
  decide +kernel

theorem gate_paidPing_bob : pingServer.gateMcpCharge (paidPing "bob") "5" =
    .ok (.paid (.success "signature" pingChallenge.id)) := by
  rcases Option.bind_eq_some_iff.mp paid_paidPing_bob with ⟨result, hResult, hReceipt⟩
  cases result with
  | payment response => cases hReceipt
  | paid receipt =>
      cases hReceipt
      exact eq_ok_of_toOption hResult

theorem credential_paidPing_bob : ((paidPing "bob").credential pingCodec).toOption.map
    (·.map (·.challenge)) = some (some pingChallenge) := by
  decide +kernel

theorem issuedFor_alice : pingServer.IssuedFor pingChallenge (pingFor "alice") := by
  refine ⟨pingBase, ?_⟩
  unfold McpServer.bindOperation
  rw [show pingServer.codec = pingCodec from rfl, eq_ok_of_toOption digest_pingFor_alice]
  rfl

theorem not_sameRoot_alice_bob (double : Json → String) :
    ¬SameRoot double (pingFor "alice") (paidPing "bob") := by
  intro hSame
  have hTenant := hSame "tenant"
  simp [retryKeys, credentialMetaKey, SameValue, Value.ofText, rounded] at hTenant

/-- A challenge that was issued for one tenant's request pays for another's. -/
theorem rootMetadata_not_bound :
    ∃ receipt, pingServer.gateMcpCharge (paidPing "bob") "5" = .ok (.paid receipt) ∧
      receipt.challengeId = pingChallenge.id ∧
      pingServer.IssuedFor pingChallenge (pingFor "alice") ∧
      (∃ digest, (pingFor "alice").operationDigest pingServer.codec = .ok digest ∧
        (paidPing "bob").operationDigest pingServer.codec = .ok digest) ∧
      ∀ double, pingServer.codec.Ideal double ∧
        ¬SameOperation double (pingFor "alice") (paidPing "bob") :=
  ⟨_, gate_paidPing_bob, rfl, issuedFor_alice,
    ⟨_, eq_ok_of_toOption digest_pingFor_alice, eq_ok_of_toOption digest_paidPing_bob⟩,
    fun double => ⟨pingCodec_ideal double, fun hSame => not_sameRoot_alice_bob double hSame.root⟩⟩

theorem issued_pingChallenge :
    Issued pingServer.hmac pingServer.challengeBindingSecret pingServer.realm pingChallenge where
  issues := ⟨"charge", [123, 125], _, _, _, _, by decide, rfl⟩
  clean := by
    intro field hField value hValue
    simp only [pingChallenge, withChallengeBindingSecretFull, List.mem_cons, List.not_mem_nil,
      or_false] at hField
    rcases hField with rfl | rfl | rfl <;> cases hValue <;> decide

/-- The text of a number, for numbers that are doubles. -/
def plainDouble : Json → String
  | .unsigned value => toString value
  | .negative value => toString value
  | .float text => text
  | _ => ""

theorem mcpOperation_bound_iff_of_bob :
    ∃ credential, (paidPing "bob").credential pingCodec = .ok (some credential) ∧
      credential.challenge.id = pingChallenge.id ∧
      (SameOperation plainDouble (pingFor "alice") (paidPing "bob") ↔
        SameRoot plainDouble (pingFor "alice") (paidPing "bob") ∧
          ((pingFor "alice").NullParams ↔ (paidPing "bob").NullParams)) := by
  have hInjective : Function.Injective (pingServer.hmac pingServer.challengeBindingSecret) := by
    intro left right hSame
    have hTexts := utf8_injective hSame
    simpa [pingServer, openServer] using hTexts
  have hIssued : ∀ challenge ∈ ({pingChallenge} : Set PaymentChallenge), Issued pingServer.hmac
      pingServer.challengeBindingSecret pingServer.realm challenge := by
    rintro _ rfl
    exact issued_pingChallenge
  have hOrigin : ∀ challenge ∈ ({pingChallenge} : Set PaymentChallenge),
      challenge.digest = none ∨ ∃ origin, pingServer.IssuedFor challenge origin := by
    rintro _ rfl
    exact .inr ⟨_, issuedFor_alice⟩
  have hEcho : ∀ credential, (paidPing "bob").credential pingCodec = .ok (some credential) →
      credential.challenge = pingChallenge := by
    intro credential hCredential
    have hFound := credential_paidPing_bob
    rw [hCredential] at hFound
    simpa [Except.toOption] using hFound
  rcases (mcpOperation_bound_iff (pingCodec_ideal plainDouble) hIssued hOrigin hInjective).2
    (paidPing "bob") "5" _ (fun credential hCredential _ =>
      ⟨pingChallenge, rfl, (congrArg PaymentChallenge.id (hEcho credential hCredential)).symm⟩)
    gate_paidPing_bob with ⟨credential, hCredential, challenge, hMem, -, -, hBound⟩
  rw [Set.mem_singleton_iff.mp hMem] at hBound
  exact ⟨credential, hCredential, congrArg PaymentChallenge.id (hEcho credential hCredential),
    hBound _ issuedFor_alice⟩

end PayKit.Mcp
