import PayKit.Challenge.Binding
import PayKit.Charge.Request
import PayKit.Charge.VerifyBound
import PayKit.Encoding.Json

/-!
# What a charge credential is settled for

The checks that `Mpp::verify_bound` of `mpp/server/charge.rs` makes before it settles a
credential: the identifier of the echoed challenge, its route, the request that the challenge
was issued with, and the fields that the server is configured with. The request that is settled
is the caller's, and these checks tie it to the challenge that the server issued.

Decoding JSON is a parameter. The checks of the expiry and of the payload stand between the
others and read nothing of the request, so their outcomes are inputs.
-/

namespace PayKit.Charge

open Challenge Control Encoding Solana Store

/-! ### The wire form of a request -/

structure HookAccount where
  address : String
  writable : Bool
deriving DecidableEq

structure HookDescriptor where
  programId : String
  entrypoint : List UInt8
  accounts : List HookAccount
  staticData : List UInt8
deriving DecidableEq

structure ChannelHooks where
  preFund : Option HookDescriptor
  postFund : Option HookDescriptor
  preDistribute : Option HookDescriptor
  postDistribute : Option HookDescriptor
deriving DecidableEq

/-- The policy part of a `ChannelChargeProfile`. -/
structure ChannelChargeProfile where
  channelProgram : String
  channelVersion : UInt8
  channelHooks : ChannelHooks
deriving DecidableEq

structure LabelledSplit extends Split where
  label : Option String

/-- The method details that a route and a credential are compared by. -/
structure WireMethodDetails where
  channelCharge : Option ChannelChargeProfile
  network : Option String
  decimals : Option UInt8
  tokenProgram : Option String
  feePayer : Option Bool
  feePayerKey : Option String
  splits : Option (List LabelledSplit)
  confidential : Option Bool
  auditorElgamalPubkey : Option String
  recipientElgamalPubkey : Option String

def WireMethodDetails.default : WireMethodDetails :=
  ⟨none, none, none, none, none, none, none, none, none, none⟩

structure WireChargeRequest extends ChargeRequest where
  description : Option String
  methodDetails : Option Json

/-! ### The server -/

/-- What a charge server is configured with, and how it reads JSON. -/
structure ChargeServer where
  hmac : Hmac
  challengeBindingSecret : String
  realm : String
  currency : String
  recipient : String
  network : String
  /-- `Base64UrlJson::decode` of a request. -/
  decodeRequest : String → Except String WireChargeRequest
  /-- `Base64UrlJson::decode_value`. -/
  decodeValue : String → Except String Json
  /-- `serde_json::from_value` of method details. -/
  parseDetails : Json → Except String WireMethodDetails

def currencyIsNativeSol (currency : String) : Bool :=
  eqIgnoreAsciiCase currency "SOL"

def wireCurrency (currency network : String) : Except String String :=
  if currencyIsNativeSol currency then .ok "sol"
  else do
    let mint := (← tryResolveStablecoinMint currency (some network)).getD currency
    match Pubkey.fromStr mint with
    | .ok _ => return mint
    | .error error =>
        throw ("Invalid configuration: Currency " ++ currency ++
          " is neither a known symbol nor a valid mint address: " ++ error.display)

namespace ChargeServer

variable (server : ChargeServer)

/-- `with_wire_currency`: the request itself, when its currency does not resolve. -/
def withWireCurrency (request : WireChargeRequest) : WireChargeRequest :=
  match wireCurrency request.currency server.network with
  | .ok currency => { request with currency }
  | .error _ => request

def challengeRoute (challenge : ChallengeEcho) : Option String := do
  let value ← challenge.opaqueValue
  match server.decodeValue value with
  | .ok json => (← json.get? "route").asStr
  | .error _ => none

/-- The first tier of `verify_bound`: the identifier and the route of the echo. -/
def authenticate (challenge : ChallengeEcho) (route : Option String) :
    Except VerificationError Unit := do
  let expectedId := computeChallengeId server.hmac server.challengeBindingSecret server.realm
    challenge.method challenge.intent challenge.request challenge.expires challenge.digest
    challenge.opaqueValue
  refuseIf (constantTimeEq challenge.id expectedId = false)
    (.credentialMismatch "Challenge ID mismatch — not issued by this server" : VerificationError)
  refuseIf (server.challengeRoute challenge ≠ route)
    (.credentialMismatch "Credential was issued for a different route" : VerificationError)

def parseMethodDetailsForCompare (details : Option Json) (label : String) :
    Except VerificationError WireMethodDetails :=
  match details with
  | some value => (server.parseDetails value).mapError fun error =>
      .credentialMismatch ("Invalid " ++ label ++ " methodDetails: " ++ error)
  | none => .ok .default

/-- The method details that `verify_bound` settles by. -/
def settledDetails (details : Option Json) : Except VerificationError WireMethodDetails :=
  match details with
  | some value => (server.parseDetails value).mapError fun error =>
      .invalidPayload ("Invalid method details: " ++ error)
  | none => .ok .default

end ChargeServer

/-- The comparison of one split with another in `splits_eq`. -/
def sameSplit (left right : LabelledSplit) : Bool :=
  left.recipient = right.recipient ∧ left.amount = right.amount ∧
    left.ataCreationRequired = right.ataCreationRequired ∧ left.label = right.label ∧
      left.memo = right.memo

def splitsEq (left right : Option (List LabelledSplit)) : Bool :=
  let left := left.getD []
  let right := right.getD []
  if left.length ≠ right.length then false
  else (left.zip right).all fun pair => sameSplit pair.1 pair.2

def mismatch (message : String) : VerificationError :=
  .credentialMismatch message

def compareExpectedToRequest (server : ChargeServer) (request expected : WireChargeRequest) :
    Except VerificationError Unit := do
  refuseIf (request.amount ≠ expected.amount)
    (mismatch ("Amount mismatch: credential has " ++ request.amount ++ " but endpoint expects " ++
      expected.amount))
  refuseIf (request.currency ≠ expected.currency)
    (mismatch ("Currency mismatch: credential has " ++ request.currency ++
      " but endpoint expects " ++ expected.currency))
  refuseIf (request.recipient ≠ expected.recipient) (mismatch "Recipient mismatch")
  refuseIf (request.externalId ≠ expected.externalId) (mismatch "externalId mismatch")
  refuseIf (request.description ≠ expected.description) (mismatch "description mismatch")
  let requestDetails ← server.parseMethodDetailsForCompare request.methodDetails "credential"
  let expectedDetails ← server.parseMethodDetailsForCompare expected.methodDetails "expected"
  refuseIf (requestDetails.channelCharge ≠ expectedDetails.channelCharge)
    (mismatch "channel charge profile mismatch")
  refuseIf (requestDetails.network ≠ expectedDetails.network)
    (mismatch "methodDetails.network mismatch")
  refuseIf (requestDetails.decimals ≠ expectedDetails.decimals)
    (mismatch "methodDetails.decimals mismatch")
  refuseIf (requestDetails.tokenProgram ≠ expectedDetails.tokenProgram)
    (mismatch "methodDetails.tokenProgram mismatch")
  refuseIf (requestDetails.feePayer ≠ expectedDetails.feePayer)
    (mismatch "methodDetails.feePayer mismatch")
  refuseIf (requestDetails.feePayerKey ≠ expectedDetails.feePayerKey)
    (mismatch "methodDetails.feePayerKey mismatch")
  refuseIf (requestDetails.confidential.getD false ≠ expectedDetails.confidential.getD false)
    (mismatch "methodDetails.confidential mismatch")
  refuseIf (requestDetails.auditorElgamalPubkey ≠ expectedDetails.auditorElgamalPubkey ∨
      requestDetails.recipientElgamalPubkey ≠ expectedDetails.recipientElgamalPubkey)
    (mismatch "methodDetails confidential keys mismatch")
  refuseIf (splitsEq requestDetails.splits expectedDetails.splits = false)
    (mismatch "methodDetails.splits mismatch")

/-- The network that the method details of a request name. -/
def requestedNetwork (request : WireChargeRequest) : Except VerificationError String :=
  match request.methodDetails.bind (·.get? "network") with
  | none => .ok defaultNetwork
  | some network => okOr network.asStr (.invalidPayload "methodDetails.network must be a string")

def verifyPinnedFields (server : ChargeServer) (challenge : ChallengeEcho)
    (request : WireChargeRequest) : Except VerificationError Unit := do
  refuseIf (challenge.method ≠ methodName)
    (mismatch ("Credential method '" ++ challenge.method ++
      "' does not match this server (expected '" ++ methodName ++ "')"))
  refuseIf (eqIgnoreAsciiCase challenge.intent "charge" = false)
    (mismatch ("Credential intent '" ++ challenge.intent ++ "' is not a charge"))
  refuseIf (challenge.realm ≠ server.realm)
    (mismatch ("Credential realm '" ++ challenge.realm ++
      "' does not match this server (expected '" ++ server.realm ++ "')"))
  refuseIf (request.currency ≠ server.currency)
    (mismatch ("Credential currency '" ++ request.currency ++
      "' does not match this server (expected '" ++ server.currency ++ "')"))
  refuseIf (request.recipient ≠ some server.recipient)
    (mismatch "Credential recipient does not match this server")
  let network ← requestedNetwork request
  refuseIf (network ≠ server.network)
    (mismatch ("Credential network '" ++ network ++
      "' does not match this server (expected '" ++ server.network ++ "')"))

/-- What is settled: the arguments of `settle_payload` that the checks produce. -/
structure ChargeSettlement where
  request : WireChargeRequest
  details : WireMethodDetails
  challenge : ChallengeEcho

/-- The outcomes of the checks of `verify_bound` that read the clock, the store or the
payload of the credential. -/
structure OtherChecks where
  expiry : Except VerificationError Unit
  /-- Whether the payload is a bundle, when it parses. -/
  bundle : Except VerificationError Bool

/-- The checks of `verify_bound` before it settles, and what it settles. -/
def verifyBoundChecks (server : ChargeServer) (others : OtherChecks) (challenge : ChallengeEcho)
    (expected : WireChargeRequest) (route : Option String) :
    Except VerificationError ChargeSettlement := do
  let request := server.withWireCurrency expected
  server.authenticate challenge route
  others.expiry
  let issued ← (server.decodeRequest challenge.request).mapError fun error =>
    (.invalidPayload ("Failed to decode credential request: " ++ error) : VerificationError)
  compareExpectedToRequest server issued request
  verifyPinnedFields server challenge request
  let bundle ← others.bundle
  let details ← server.settledDetails request.methodDetails
  refuseIf (details.confidential = some true ∧ bundle = false)
    (mismatch ("Confidential challenges must be settled with a Bundle credential, not a " ++
      "cleartext transfer or push signature"))
  return { request, details, challenge }

/-! ### What passes the checks -/

section

variable {server : ChargeServer} {challenge echo : PaymentChallenge} {route : Option String}

theorem sameSplit_eq_true {left right : LabelledSplit} :
    sameSplit left right = true ↔ left = right := by
  rcases left with ⟨⟨recipient, amount, creation, memo⟩, label⟩
  rcases right with ⟨⟨recipient', amount', creation', memo'⟩, label'⟩
  simp only [sameSplit, decide_eq_true_eq, LabelledSplit.mk.injEq, Split.mk.injEq]
  constructor
  · rintro ⟨hRecipient, hAmount, hCreation, hLabel, hMemo⟩
    exact ⟨⟨hRecipient, hAmount, hCreation, hMemo⟩, hLabel⟩
  · rintro ⟨⟨hRecipient, hAmount, hCreation, hMemo⟩, hLabel⟩
    exact ⟨hRecipient, hAmount, hCreation, hLabel, hMemo⟩

theorem eq_of_all_sameSplit {left right : List LabelledSplit}
    (hLength : left.length = right.length)
    (hSame : (left.zip right).all (fun pair => sameSplit pair.1 pair.2) = true) :
    left = right := by
  induction left generalizing right with
  | nil => exact (List.length_eq_zero_iff.mp hLength.symm).symm
  | cons split left hInduction =>
      cases right with
      | nil => cases hLength
      | cons other right =>
          rw [List.zip_cons_cons, List.all_cons, Bool.and_eq_true, sameSplit_eq_true] at hSame
          rw [List.length_cons, List.length_cons, Nat.add_right_cancel_iff] at hLength
          rw [hInduction hLength hSame.2]
          exact congrArg (· :: right) hSame.1

theorem splits_of_splitsEq {left right : Option (List LabelledSplit)}
    (hSame : splitsEq left right = true) : left.getD [] = right.getD [] := by
  simp only [splitsEq] at hSame
  split at hSame
  · cases hSame
  · rename_i hLength
    exact eq_of_all_sameSplit (not_not.mp hLength) hSame

/-- The terms of a settlement are those of a request. -/
structure SettlesTerms (server : ChargeServer) (request : WireChargeRequest)
    (settlement : ChargeSettlement) : Prop where
  amount : settlement.request.amount = request.amount
  currency : settlement.request.currency = request.currency
  recipient : settlement.request.recipient = request.recipient
  externalId : settlement.request.externalId = request.externalId
  details : ∃ details, server.parseMethodDetailsForCompare request.methodDetails "credential" =
      .ok details ∧ settlement.details.network = details.network ∧
    settlement.details.decimals = details.decimals ∧
    settlement.details.tokenProgram = details.tokenProgram ∧
    settlement.details.feePayer = details.feePayer ∧
    settlement.details.feePayerKey = details.feePayerKey ∧
    settlement.details.channelCharge = details.channelCharge ∧
    settlement.details.confidential.getD false = details.confidential.getD false ∧
    settlement.details.splits.getD [] = details.splits.getD []

theorem id_of_authenticate (hChecked : server.authenticate echo route = .ok ()) :
    computeChallengeId server.hmac server.challengeBindingSecret server.realm echo.method
        echo.intent echo.request echo.expires echo.digest echo.opaqueValue = echo.id ∧
      server.challengeRoute echo = route := by
  simp only [ChargeServer.authenticate, refuseIf_bind_eq_ok, refuseIf_eq_ok,
    Bool.not_eq_false, constantTimeEq_eq_true, not_not] at hChecked
  exact ⟨hChecked.1.symm, hChecked.2⟩

theorem challengeRoute_of_sameFields (hEmpty : ∃ error, server.decodeValue "" = .error error)
    (hSame : challenge.opaqueValue.getD "" = echo.opaqueValue.getD "") :
    server.challengeRoute challenge = server.challengeRoute echo := by
  rcases hEmpty with ⟨error, hError⟩
  have hRead : ∀ challenge : PaymentChallenge, server.challengeRoute challenge =
      server.challengeRoute { challenge with
        opaqueValue := some (challenge.opaqueValue.getD "") } := by
    intro challenge
    unfold ChargeServer.challengeRoute
    cases hOpaque : challenge.opaqueValue with
    | some value => rfl
    | none => simp [hError]
  rw [hRead challenge, hRead echo]
  unfold ChargeServer.challengeRoute
  rw [hSame]

theorem settledDetails_of_compare {details : Option Json} {label : String}
    {compared settled : WireMethodDetails}
    (hCompared : server.parseMethodDetailsForCompare details label = .ok compared)
    (hSettled : server.settledDetails details = .ok settled) : compared = settled := by
  cases details with
  | none => exact (Except.ok.inj hCompared).symm.trans (Except.ok.inj hSettled)
  | some value =>
      simp only [ChargeServer.parseMethodDetailsForCompare, mapError_eq_ok] at hCompared
      simp only [ChargeServer.settledDetails, mapError_eq_ok] at hSettled
      exact Except.ok.inj (hCompared.symm.trans hSettled)

theorem terms_of_verifyBoundChecks {others : OtherChecks} {expected : WireChargeRequest}
    {settlement : ChargeSettlement}
    (hChecked : verifyBoundChecks server others echo expected route = .ok settlement) :
    server.authenticate echo route = .ok () ∧ settlement.challenge = echo ∧
      ∃ issued, server.decodeRequest echo.request = .ok issued ∧
        SettlesTerms server issued settlement := by
  simp only [verifyBoundChecks, compareExpectedToRequest, bind_eq_ok, refuseIf_eq_ok,
    exists_const, mapError_eq_ok, not_not, Bool.not_eq_false] at hChecked
  rcases hChecked with ⟨_, hAuthenticated, _, -, issued, hIssued, hCompared, _, -, bundle, -,
    details, hDetails, -, hSettlement⟩
  cases hSettlement
  rcases hCompared with ⟨hAmount, hCurrency, hRecipient, hExternalId, -, requestDetails,
    hRequest, expectedDetails, hExpected, hChannel, hNetwork, hDecimals, hTokenProgram, hFeePayer,
    hFeePayerKey, hConfidential, -, hSplits⟩
  obtain rfl : expectedDetails = details := settledDetails_of_compare hExpected hDetails
  refine ⟨hAuthenticated, rfl, issued, hIssued, hAmount.symm, hCurrency.symm, hRecipient.symm,
    hExternalId.symm, requestDetails, hRequest, hNetwork.symm, hDecimals.symm, hTokenProgram.symm,
    hFeePayer.symm, hFeePayerKey.symm, hChannel.symm, hConfidential.symm, ?_⟩
  exact (splits_of_splitsEq hSplits).symm

theorem verifyBound_of_refused {presentation : Presentation}
    {parseSignature : String → Except String Unit} {error : VerificationError}
    (hRefused : presentation.admitted = .error error) :
    presentation.verifyBound parseSignature =
      (presentation.expiredPendingCharge >>= fun _ => throw error) := by
  unfold Presentation.verifyBound
  rw [hRefused]
  rfl

/-- With an ideal authentication code, an echo whose identifier verifies is an issued challenge,
and what is settled for it are the terms and the route of that challenge. -/
theorem settled_as_issued {issued : Set PaymentChallenge}
    (hIssued : ∀ challenge ∈ issued,
      Issued server.hmac server.challengeBindingSecret server.realm challenge)
    (hInjective : Function.Injective (server.hmac server.challengeBindingSecret))
    (hUnforgeable : computeChallengeId server.hmac server.challengeBindingSecret server.realm
        echo.method echo.intent echo.request echo.expires echo.digest echo.opaqueValue = echo.id →
      ∃ challenge ∈ issued, challenge.id = echo.id)
    (hEmpty : ∃ error, server.decodeValue "" = .error error) :
    (computeChallengeId server.hmac server.challengeBindingSecret server.realm echo.method
        echo.intent echo.request echo.expires echo.digest echo.opaqueValue = echo.id →
      ∃ challenge ∈ issued, challenge.id = echo.id ∧ SameFields challenge echo) ∧
    (∀ others expected route settlement,
      verifyBoundChecks server others echo expected route = .ok settlement →
        ∃ challenge ∈ issued, challenge.id = echo.id ∧ SameFields challenge echo ∧
          server.challengeRoute challenge = route ∧
          ∃ request, server.decodeRequest challenge.request = .ok request ∧
            SettlesTerms server request settlement) ∧
    ∀ others expected route (presentation : Presentation) parseSignature,
      presentation.admitted =
        (verifyBoundChecks server others echo expected route).map (fun _ => ()) →
      (∃ settlement, verifyBoundChecks server others echo expected route = .ok settlement) ∨
      ∃ error, presentation.verifyBound parseSignature =
        (presentation.expiredPendingCharge >>= fun _ => throw error) := by
  have hFields : computeChallengeId server.hmac server.challengeBindingSecret server.realm
      echo.method echo.intent echo.request echo.expires echo.digest echo.opaqueValue = echo.id →
        ∃ challenge ∈ issued, challenge.id = echo.id ∧ SameFields challenge echo := by
    intro hId
    rcases hUnforgeable hId with ⟨challenge, hMem, hSame⟩
    exact ⟨challenge, hMem, hSame,
      (hIssued challenge hMem).sameFields hInjective (hId.trans hSame.symm)⟩
  refine ⟨hFields, ?_, ?_⟩
  · intro others expected route settlement hChecked
    rcases terms_of_verifyBoundChecks hChecked with ⟨hAuthenticated, -, request, hRequest, hTerms⟩
    rcases id_of_authenticate hAuthenticated with ⟨hId, hRoute⟩
    rcases hFields hId with ⟨challenge, hMem, hSame, hEqual⟩
    refine ⟨challenge, hMem, hSame, hEqual, ?_, request, ?_, hTerms⟩
    · exact (challengeRoute_of_sameFields hEmpty hEqual.opaqueValue).trans hRoute
    · rwa [hEqual.request]
  · intro others expected route presentation parseSignature hAdmitted
    cases hChecked : verifyBoundChecks server others echo expected route with
    | ok settlement => exact .inl ⟨settlement, rfl⟩
    | error error =>
        rw [hChecked] at hAdmitted
        exact .inr ⟨error, verifyBound_of_refused hAdmitted⟩

end

/-! ### An issued challenge -/

/-- A server whose authentication code is the text itself. -/
def openServer : ChargeServer where
  hmac key text := utf8 (key ++ text)
  challengeBindingSecret := ""
  realm := "shop"
  currency := "sol"
  recipient := "merchant"
  network := "mainnet"
  decodeRequest _ := .ok {
    amount := "5"
    currency := "sol"
    recipient := some "merchant"
    externalId := none
    description := none
    methodDetails := none }
  decodeValue text := if text = "" then .error "EOF while parsing a value"
    else .ok (.object [("route", .text "/report")])
  parseDetails _ := .error "invalid type"

def issuedChallenge : PaymentChallenge :=
  withChallengeBindingSecretFull openServer.hmac "" "shop" methodName "charge"
    (base64urlEncode [123, 125]) (some "2030-01-01T00:00:00Z") none none (some "e30")

def plainRequest : WireChargeRequest where
  amount := "5"
  currency := "SOL"
  recipient := some "merchant"
  externalId := none
  description := none
  methodDetails := none

def passedChecks : OtherChecks :=
  ⟨.ok (), .ok false⟩

theorem issued_issuedChallenge :
    Issued openServer.hmac openServer.challengeBindingSecret openServer.realm issuedChallenge where
  issues := ⟨"charge", [123, 125], some "2030-01-01T00:00:00Z", none, none, some "e30", by decide,
    rfl⟩
  clean := by
    intro field hField value hValue
    simp only [issuedChallenge, withChallengeBindingSecretFull, List.mem_cons, List.not_mem_nil,
      or_false] at hField
    rcases hField with rfl | rfl | rfl <;> cases hValue <;> decide

theorem settled_as_issued_of_issuedChallenge :
    ∃ settlement, verifyBoundChecks openServer passedChecks issuedChallenge plainRequest
        (some "/report") = .ok settlement ∧
      ∃ challenge, challenge.id = issuedChallenge.id ∧
        SameFields challenge issuedChallenge ∧ settlement.request.amount = "5" := by
  have hInjective : Function.Injective (openServer.hmac openServer.challengeBindingSecret) := by
    intro left right hSame
    have hTexts := utf8_injective hSame
    simpa [openServer] using hTexts
  have hSettled : ∃ settlement, verifyBoundChecks openServer passedChecks issuedChallenge
      plainRequest (some "/report") = .ok settlement ∧ settlement.request.amount = "5" := by
    have hAmount : ((verifyBoundChecks openServer passedChecks issuedChallenge plainRequest
        (some "/report")).toOption.map fun settlement => settlement.request.amount) = some "5" := by
      decide +kernel
    cases hChecked : verifyBoundChecks openServer passedChecks issuedChallenge plainRequest
        (some "/report") with
    | error error => simp [hChecked, Except.toOption] at hAmount
    | ok settlement =>
        rw [hChecked] at hAmount
        exact ⟨settlement, rfl, Option.some.inj hAmount⟩
  rcases hSettled with ⟨settlement, hChecked, hAmount⟩
  have hIssued : ∀ challenge ∈ ({issuedChallenge} : Set PaymentChallenge), Issued openServer.hmac
      openServer.challengeBindingSecret openServer.realm challenge := by
    rintro _ rfl
    exact issued_issuedChallenge
  rcases (settled_as_issued hIssued hInjective (fun _ => ⟨issuedChallenge, rfl, rfl⟩)
    ⟨_, rfl⟩).2.1 passedChecks plainRequest _ settlement hChecked with
    ⟨challenge, -, hSame, hFields, -⟩
  exact ⟨settlement, hChecked, challenge, hSame, hFields, hAmount⟩

end PayKit.Charge
