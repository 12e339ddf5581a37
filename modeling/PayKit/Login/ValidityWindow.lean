import PayKit.Arithmetic.Periods
import PayKit.Login.Credential
import PayKit.Login.OneMeaning
import PayKit.Login.TimestampRoundTrip

/-!
# The validity window of a login

A credential that a client built from a challenge is verified at exactly the times at which its
expiry, the end of the billing period and the end of the endpoint let it. The expiry was written
as text, signed, and read again, and the end of the period is computed anew at each time.
-/

namespace PayKit.Login

open Challenge Control Machine Periods Solana Subscription

/-! ### Billing periods -/

namespace AuthenticateServer

variable (server : AuthenticateServer)

/-- The seconds of a billing period. -/
def periodSecs : ℤ :=
  server.config.periodHours * 3600

/-- The billing period that a time is in. -/
def period (time : ℤ) : ℕ :=
  periodAt server.config.planCreatedAt server.periodSecs time

def endOfPeriod (period : ℕ) : ℤ :=
  endOf server.config.planCreatedAt server.periodSecs period

/-- The time that a challenge issued at a time expires at. -/
def expirySecs (issued : ℤ) : ℤ :=
  match server.subscriptionExpiresSecs with
  | some endpointEnd => min (server.endOfPeriod (server.period issued)) endpointEnd
  | none => server.endOfPeriod (server.period issued)

/-- What the clock still decides for a credential with an expiry. -/
structure Window (expiry time : ℤ) : Prop where
  unexpired : time < expiry + clockSkewToleranceSecs
  inPeriod : expiry ≤ server.endOfPeriod (server.period time) + clockSkewToleranceSecs
  beforeEnd : ∀ endpointEnd, server.subscriptionExpiresSecs = some endpointEnd →
    time < endpointEnd ∧ expiry ≤ endpointEnd

end AuthenticateServer

theorem currentPeriodEndSecs_eq {planCreatedAt now : ℤ} {periodHours : ℕ}
    (hPositive : 0 < periodHours) (hPeriod : periodHours ≤ 8760) :
    currentPeriodEndSecs planCreatedAt periodHours now = endOf planCreatedAt (periodHours * 3600)
      (periodAt planCreatedAt (periodHours * 3600) now) := by
  have hHours : asI64 periodHours = periodHours := Int.bmod_eq_of_le (by omega) (by omega)
  rw [currentPeriodEndSecs, hHours]
  unfold endOf periodAt
  split
  · rename_i hEarly
    have hFirst : ((now - planCreatedAt) / ((periodHours : ℤ) * 3600)).toNat = 0 := by
      apply Int.toNat_of_nonpos
      exact (Int.ediv_neg_of_neg_of_pos (by omega) (by omega)).le
    rw [hFirst]
    omega
  · rename_i hLate
    have hElapsed : 0 ≤ now - planCreatedAt := by omega
    rw [Int.tdiv_eq_ediv_of_nonneg hElapsed,
      Int.toNat_of_nonneg (Int.ediv_nonneg hElapsed (by omega))]

section

variable {primitives : LoginPrimitives} {json : RequestJson} {signer : LoginSigner}
  {config : AuthenticateConfig} {server : AuthenticateServer} {plan program : Pubkey}
  {defaultExpires : String} {issued time : ℤ} {credential : AuthenticateCredential}

theorem AuthenticateServer.expirySecs_le :
    server.expirySecs issued ≤ server.endOfPeriod (server.period issued) ∧
      ∀ endpointEnd, server.subscriptionExpiresSecs = some endpointEnd →
        server.expirySecs issued ≤ endpointEnd := by
  unfold expirySecs
  split
  · rename_i endpointEnd hCutoff
    refine ⟨min_le_left _ _, ?_⟩
    rintro other hOther
    cases hCutoff.symm.trans hOther
    exact min_le_right _ _
  · rename_i hCutoff
    refine ⟨le_refl _, ?_⟩
    rintro endpointEnd hOther
    cases hCutoff.symm.trans hOther

theorem AuthenticateServer.lt_expirySecs
    (hPeriod : time < server.endOfPeriod (server.period issued))
    (hEnd : ∀ endpointEnd, server.subscriptionExpiresSecs = some endpointEnd →
      time < endpointEnd) :
    time < server.expirySecs issued := by
  unfold expirySecs
  split
  · rename_i endpointEnd hCutoff
    exact lt_min hPeriod (hEnd endpointEnd hCutoff)
  · exact hPeriod

theorem AuthenticateServer.new_eq_ok
    (hServer : AuthenticateServer.new primitives config = .ok server) :
    0 < server.config.periodHours ∧ server.config.periodHours ≤ 8760 := by
  simp only [AuthenticateServer.new, bind_eq_ok, refuseIf_eq_ok, exists_const] at hServer
  rcases hServer with ⟨-, -, -, -, -, -, hPeriod, _, -, _, -, _, -, hReturned⟩
  cases hReturned
  exact ⟨Nat.pos_of_ne_zero fun hZero => hPeriod (.inl hZero),
    Nat.le_of_not_lt fun hLong => hPeriod (.inr hLong)⟩

theorem AuthenticateServer.checkWindow_eq_ok {payload : AuthenticatePayload} {expiry : ℤ}
    (hPositive : 0 < server.config.periodHours) (hPeriod : server.config.periodHours ≤ 8760)
    (hExpiry : payload.expirationTime = formatRfc3339Seconds expiry) (hYear : FourDigitYear expiry)
    (hNotBefore : payload.notBefore = none) :
    server.checkWindow payload time = .ok () ↔ server.Window expiry time := by
  have hEnd : currentPeriodEndSecs server.config.planCreatedAt server.config.periodHours time =
      server.endOfPeriod (server.period time) := currentPeriodEndSecs_eq hPositive hPeriod
  have hCutoff : (∀ endpointEnd, server.subscriptionExpiresSecs = some endpointEnd →
      time < endpointEnd ∧ expiry ≤ endpointEnd) ↔
      (match server.subscriptionExpiresSecs with
      | some endpointEnd =>
          refuseIf (endpointEnd ≤ time ∨ endpointEnd < expiry)
            (.outsideValidityWindow : VerifyError)
      | none => pure ()) = .ok () := by
    cases server.subscriptionExpiresSecs with
    | none => exact ⟨fun _ => rfl, nofun⟩
    | some endpointEnd =>
        rw [refuseIf_eq_ok, not_or, Int.not_le, Int.not_lt]
        exact ⟨fun hEnds => hEnds endpointEnd rfl, by rintro hEnds _ ⟨⟩; exact hEnds⟩
  simp only [checkWindow, hExpiry, hNotBefore, hEnd, bind_eq_ok, mapError_eq_ok, refuseIf_eq_ok,
    exists_const, parse_formatRfc3339Seconds hYear]
  constructor
  · rintro ⟨_, ⟨⟩, hUnexpired, hInPeriod, hEnds⟩
    exact ⟨by omega, by omega, hCutoff.mpr hEnds⟩
  · rintro ⟨hUnexpired, hInPeriod, hEnds⟩
    exact ⟨expiry, rfl, by omega, by omega, hCutoff.mp hEnds⟩

/-! ### Honest credentials -/

/-- The client and the server read a request as it was written. -/
structure RequestJson.Reads (json : RequestJson) (primitives : LoginPrimitives) : Prop where
  decode_fromTyped : ∀ request text, json.fromTyped request = .ok text →
    json.decode text = .ok request
  decodeRequest_eq : ∀ text, primitives.decodeRequest text =
    (json.decode text).map DetailedRequest.toAuthenticateRequest

/-- What a signer signs is verified under its key. -/
def LoginSigner.Genuine (signer : LoginSigner) (primitives : LoginPrimitives) : Prop :=
  ∀ message signature, signer.signMessage (utf8 message) = .ok signature →
    primitives.verifySignature signer.pubkey.display (base58Encode signature) message = .ok ()

/-- The credential of a client for a challenge that was issued at a time. -/
def AuthenticateServer.honestCredential (primitives : LoginPrimitives) (json : RequestJson)
    (server : AuthenticateServer) (signer : LoginSigner) (plan program : Pubkey)
    (defaultExpires : String) (issued : ℤ) : Except String AuthenticateCredential := do
  let challenge ← server.challengeAt primitives json defaultExpires issued
  buildCredential json signer challenge
    (findSubscriptionPda primitives.findProgramAddress plan signer.pubkey program).display

/-- The request of a challenge that is issued at a time. -/
def AuthenticateServer.requestAt (primitives : LoginPrimitives) (server : AuthenticateServer)
    (issued : ℤ) : AuthenticateRequest :=
  let expirationTime := formatRfc3339Seconds (server.expirySecs issued)
  { domain := server.config.domain
    uri := server.config.uri
    version := siwmppVersion
    nonce := server.computeNonce primitives expirationTime
    issuedAt := formatRfc3339Seconds issued
    expirationTime
    notBefore := none
    statement := server.config.statement
    requestId := none
    resources := [] }

theorem AuthenticateServer.issuedRequest_eq_ok {request : AuthenticateRequest}
    (hPositive : 0 < server.config.periodHours) (hPeriod : server.config.periodHours ≤ 8760)
    (hIssued : server.issuedRequest primitives issued = .ok request) :
    (∀ endpointEnd, server.subscriptionExpiresSecs = some endpointEnd → issued < endpointEnd) ∧
      request = server.requestAt primitives issued := by
  have hEnd : currentPeriodEndSecs server.config.planCreatedAt server.config.periodHours issued =
      server.endOfPeriod (server.period issued) := currentPeriodEndSecs_eq hPositive hPeriod
  unfold requestAt expirySecs
  simp only [issuedRequest, hEnd] at hIssued
  cases hCutoff : server.subscriptionExpiresSecs with
  | none =>
      rw [hCutoff] at hIssued
      cases hIssued
      refine ⟨?_, rfl⟩
      rintro _ ⟨⟩
  | some endpointEnd =>
      rw [hCutoff] at hIssued
      rcases refuseIf_bind_eq_ok.mp hIssued with ⟨hBefore, hRequest⟩
      cases hRequest
      refine ⟨?_, rfl⟩
      rintro _ ⟨⟩
      omega

theorem AuthenticateServer.honestCredential_eq_ok (hReads : json.Reads primitives)
    (hPositive : 0 < server.config.periodHours) (hPeriod : server.config.periodHours ≤ 8760)
    (hBuilt : server.honestCredential primitives json signer plan program defaultExpires issued =
      .ok credential) :
    (∀ endpointEnd, server.subscriptionExpiresSecs = some endpointEnd → issued < endpointEnd) ∧
      ∃ encoded signature,
        let payload := unsignedPayload signer (server.requestAt primitives issued)
          server.config.network
          (findSubscriptionPda primitives.findProgramAddress plan signer.pubkey program).display
        primitives.decodeRequest encoded = .ok (server.requestAt primitives issued) ∧
        signer.signMessage (utf8 (formatCanonicalMessage payload)) = .ok signature ∧
        credential = ⟨withChallengeBindingSecretFull primitives.hmac
          server.challengeBindingSecret server.realm methodName intentName encoded
          (some defaultExpires) none server.config.statement none,
          .ok { payload with signature := base58Encode signature }⟩ := by
  rcases bind_eq_ok.mp hBuilt with ⟨challenge, hChallenge, hCredential⟩
  simp only [challengeAt, bind_eq_ok, mapError_eq_ok] at hChallenge
  rcases hChallenge with ⟨request, hRequest, encoded, hEncoded, ⟨⟩⟩
  rcases issuedRequest_eq_ok hPositive hPeriod hRequest with ⟨hBefore, rfl⟩
  have hDecoded := hReads.decode_fromTyped _ _ hEncoded
  refine ⟨hBefore, encoded, ?_⟩
  rcases refuseIf_bind_eq_ok.mp hCredential with ⟨-, hCredential⟩
  simp only [withChallengeBindingSecretFull, hDecoded, bind_eq_ok, mapError_eq_ok,
    okOr_eq_ok] at hCredential
  rcases hCredential with ⟨_, ⟨⟩, network, hNetwork, signature, hSignature, hReturned⟩
  cases hNetwork
  cases hReturned
  refine ⟨signature, ?_, hSignature, rfl⟩
  rw [hReads.decodeRequest_eq, hDecoded]
  rfl

theorem AuthenticateServer.verifyAt_eq_ok {address : Pubkey} (hReads : json.Reads primitives)
    (hSigner : signer.Genuine primitives)
    (hServer : AuthenticateServer.new primitives config = .ok server)
    (hPlan : Pubkey.fromStr server.config.planId = .ok plan)
    (hProgram : Pubkey.fromStr server.programId = .ok program)
    (hYear : FourDigitYear (server.expirySecs issued))
    (hBuilt : server.honestCredential primitives json signer plan program defaultExpires issued =
      .ok credential) :
    server.verifyAt primitives credential time = .ok address ↔
      address = signer.pubkey ∧ server.Window (server.expirySecs issued) time := by
  rcases new_eq_ok hServer with ⟨hPositive, hPeriod⟩
  rcases honestCredential_eq_ok hReads hPositive hPeriod hBuilt with
    ⟨-, encoded, signature, hDecoded, hSignature, rfl⟩
  -- the clock is left out of every check but the one of the window
  generalize hPayload : ({ unsignedPayload signer (server.requestAt primitives issued)
    server.config.network (findSubscriptionPda primitives.findProgramAddress plan signer.pubkey
      program).display with signature := base58Encode signature } : AuthenticatePayload) = payload
  have hEcho : server.checkEcho (server.requestAt primitives issued) payload = .ok () := by
    subst hPayload
    simp [checkEcho, unsignedPayload, requestAt]
  have hWindow : server.checkWindow payload time = .ok () ↔
      server.Window (server.expirySecs issued) time := by
    subst hPayload
    exact checkWindow_eq_ok hPositive hPeriod rfl hYear rfl
  have hNonce : payload.nonce = server.computeNonce primitives payload.expirationTime := by
    subst hPayload
    rfl
  have hResources : server.checkResources primitives payload = .ok signer.pubkey := by
    subst hPayload
    simp only [checkResources, bind_eq_ok, mapError_eq_ok, refuseIf_eq_ok, exists_const]
    refine ⟨signer.pubkey, Pubkey.fromStr_display _, plan, hPlan, program, hProgram, ?_, rfl⟩
    simp [unsignedPayload, requestAt, expectedResource]
  have hSigned : verifySignature primitives payload = .ok () := by
    subst hPayload
    simp only [verifySignature, refuseIf_bind_eq_ok]
    exact ⟨by simp [unsignedPayload], by simp [unsignedPayload], hSigner _ _ hSignature⟩
  have hRequest : server.checkRequest (server.requestAt primitives issued) = .ok () := by
    simp [checkRequest, requestAt]
  simp only [verifyAt, bind_eq_ok, mapError_eq_ok, refuseIf_eq_ok, exists_const]
  constructor
  · rintro ⟨-, -, -, -, request, hEncoded, _, -, _, hCarried, _, -, _, hClock, -, key, hKey, _, -,
      hReturned⟩
    cases hCarried
    rw [hResources] at hKey
    cases hKey
    cases hReturned
    exact ⟨rfl, hWindow.mp hClock⟩
  · rintro ⟨rfl, hClock⟩
    exact ⟨by simp [withChallengeBindingSecretFull], by simp [withChallengeBindingSecretFull],
      by simp [withChallengeBindingSecretFull], by simp [withChallengeBindingSecretFull],
      server.requestAt primitives issued, hDecoded, (), hRequest, payload, rfl, (), hEcho, (),
      hWindow.mpr hClock, fun hOther => hOther hNonce, signer.pubkey, hResources, (), hSigned, rfl⟩

/-- A login is accepted from its challenge up to its expiry, and it outlives neither its expiry
nor its period by more than the skew, nor the endpoint at all. Before its own period it is accepted
where its expiry is within the skew of the end of the earlier period. -/
theorem honest_login_window (hReads : json.Reads primitives) (hSigner : signer.Genuine primitives)
    (hServer : AuthenticateServer.new primitives config = .ok server)
    (hPlan : Pubkey.fromStr server.config.planId = .ok plan)
    (hProgram : Pubkey.fromStr server.programId = .ok program)
    (hYear : FourDigitYear (server.expirySecs issued))
    (hBuilt : server.honestCredential primitives json signer plan program defaultExpires issued =
      .ok credential) :
    credential.payload.map (·.expirationTime) =
        .ok (formatRfc3339Seconds (server.expirySecs issued)) ∧
      (issued ≤ time → time < server.expirySecs issued →
        server.verifyAt primitives credential time = .ok signer.pubkey) ∧
      ∀ address, server.verifyAt primitives credential time = .ok address →
        time < server.expirySecs issued + clockSkewToleranceSecs ∧
        (∀ endpointEnd, server.subscriptionExpiresSecs = some endpointEnd → time < endpointEnd) ∧
        (server.period time < server.period issued →
          server.endOfPeriod (server.period time) < server.expirySecs issued ∧
          server.expirySecs issued ≤
            server.endOfPeriod (server.period time) + clockSkewToleranceSecs) ∧
        time < server.endOfPeriod (server.period issued) + clockSkewToleranceSecs := by
  have hVerified : ∀ address, server.verifyAt primitives credential time = .ok address ↔
      address = signer.pubkey ∧ server.Window (server.expirySecs issued) time := fun _ =>
    AuthenticateServer.verifyAt_eq_ok hReads hSigner hServer hPlan hProgram hYear hBuilt
  rcases AuthenticateServer.new_eq_ok hServer with ⟨hPositive, hPeriod⟩
  rcases AuthenticateServer.honestCredential_eq_ok hReads hPositive hPeriod hBuilt with
    ⟨hBefore, _, _, _, _, hCredential⟩
  have hExpiry : server.expirySecs issued ≤ server.endOfPeriod (server.period issued) ∧
      ∀ endpointEnd, server.subscriptionExpiresSecs = some endpointEnd →
        server.expirySecs issued ≤ endpointEnd := AuthenticateServer.expirySecs_le
  rcases hExpiry with ⟨hInPeriod, hInEndpoint⟩
  have hLength : 0 < server.periodSecs := by
    unfold AuthenticateServer.periodSecs
    omega
  refine ⟨?_, ?_, ?_⟩
  · rw [hCredential]
    rfl
  · intro hIssued hTime
    apply (hVerified signer.pubkey).mpr
    -- no period ends before the one of the challenge, once the challenge is issued
    have hEnds : server.endOfPeriod (server.period issued) ≤
        server.endOfPeriod (server.period time) := by
      rw [← Int.not_lt]
      intro hLater
      have hEarlier := (endOf_lt_endOf hLength).mp hLater
      have hOrder : server.period issued ≤ server.period time := periodAt_mono hLength hIssued
      exact absurd hEarlier (Nat.not_lt.mpr hOrder)
    refine ⟨rfl, ?_, ?_, ?_⟩
    · exact hTime.trans_le (by unfold clockSkewToleranceSecs; omega)
    · exact (hInPeriod.trans hEnds).trans (by unfold clockSkewToleranceSecs; omega)
    · intro endpointEnd hCutoff
      have hEnd := hInEndpoint endpointEnd hCutoff
      exact ⟨hTime.trans_le hEnd, hEnd⟩
  · intro address hAccepted
    rcases (hVerified address).mp hAccepted with ⟨-, hWindow⟩
    refine ⟨hWindow.unexpired, ?_, ?_, ?_⟩
    · intro endpointEnd hCutoff
      exact (hWindow.beforeEnd endpointEnd hCutoff).1
    · intro hEarlier
      refine ⟨?_, hWindow.inPeriod⟩
      -- the earlier period was over when the challenge was issued
      have hOver := endOf_le hLength hEarlier
      have hIssued : issued < server.expirySecs issued :=
        AuthenticateServer.lt_expirySecs (lt_endOf hLength) hBefore
      exact lt_of_le_of_lt hOver hIssued
    · exact hWindow.unexpired.trans_le (by omega)

end

/-! ### A login that is accepted until it expires -/

/-- The request of a challenge for one path, as it is written. -/
def encodedRequest : String :=
  "eyJkb21haW4iOiJhcGkuZXhhbXBsZS5jb20iLCJleHBpcmF0aW9uVGltZSI6IjIwMjYtMDYtMjdUMjA6MjY6" ++
    "NDBaIiwiaXNzdWVkQXQiOiIyMDI2LTA1LTI5VDIyOjI1OjIyWiIsIm1ldGhvZERldGFpbHMiOnsibmV0d29y" ++
    "ayI6Im1haW5uZXQiLCJzaWduYXR1cmVTY2hlbWUiOiJzaXdtcHAiLCJzaWduYXR1cmVUeXBlIjoiZWQyNTUx" ++
    "OSJ9LCJub25jZSI6IjdLSzN5NklZUmpNIiwidXJpIjoiaHR0cHM6Ly9hcGkuZXhhbXBsZS5jb20vdjEiLCJ2" ++
    "ZXJzaW9uIjoiMSJ9"

def detailedRequest : DetailedRequest where
  toAuthenticateRequest := sharedRequest "v1"
  methodDetails := some (.forNetwork "mainnet")

def sharedJson : RequestJson where
  fromTyped request := if request = detailedRequest then .ok encodedRequest else .error "other"
  decode text := if text = encodedRequest then .ok detailedRequest else .error text

def sharedSignature : List UInt8 :=
  [114, 139, 3, 77, 191, 180, 154, 175, 64, 214, 156, 241, 234, 104, 104, 182, 54, 82, 112,
  249, 167, 234, 44, 92, 131, 216, 211, 166, 55, 172, 107, 96, 151, 193, 245, 193, 228, 91,
  79, 250, 30, 151, 32, 97, 128, 29, 157, 61, 185, 237, 59, 188, 211, 45, 223, 213, 60, 206,
  120, 119, 117, 120, 211, 2]

/-- The libraries of a server, with the two codes that it makes. -/
def windowPrimitives : LoginPrimitives :=
  { sharedPrimitives with
    hmac := fun secret message =>
      if message = "authenticate|api.example.com|" ++ (sharedConfig "v1").planId ++
          "|2026-06-27T20:26:40Z" then
        sharedPrimitives.hmac secret message
      else
        [192, 75, 140, 97, 214, 190, 127, 119, 110, 25, 0, 158, 178, 224, 90, 18, 230,
        193, 113, 29, 61, 135, 199, 197, 163, 155, 148, 207, 33, 170, 231, 253]
    decodeRequest := fun text =>
      if text = encodedRequest then .ok (sharedRequest "v1") else .error text
    verifySignature := fun address signature _ =>
      if address = loginSigner.display ∧ signature = base58Encode sharedSignature then .ok ()
      else .error .invalid }

def sharedSigner : LoginSigner where
  pubkey := loginSigner
  signMessage _ := .ok sharedSignature

def sharedPlan : Pubkey :=
  ⟨[145, 52, 10, 189, 213, 223, 115, 158, 183, 86, 111, 129, 2, 75, 62, 163, 251, 27, 3, 49, 39,
    111, 85, 82, 88, 167, 69, 80, 174, 150, 178, 228], rfl⟩

def sharedProgram : Pubkey :=
  ⟨[187, 199, 119, 175, 186, 104, 240, 18, 62, 192, 196, 209, 183, 238, 137, 110, 147, 1, 201, 41,
    197, 90, 6, 186, 149, 24, 33, 88, 37, 140, 21, 169], rfl⟩

/-- The credential of a client that asks for a challenge at the time of the logins. -/
def sharedCredential : AuthenticateCredential where
  challenge := withChallengeBindingSecretFull windowPrimitives.hmac "test-secret"
    "api.example.com" methodName intentName encodedRequest (some "2026-05-29T22:30:22Z") none none
    none
  payload := .ok { sharedLogin "v1" none none with
    signatureScheme := some signatureSchemeSiwmpp
    signature := base58Encode sharedSignature }

theorem sharedJson_reads : sharedJson.Reads windowPrimitives := by
  constructor
  · intro request text hText
    simp only [sharedJson] at hText ⊢
    split at hText
    · rename_i hRequest
      cases hText
      rw [if_pos rfl, hRequest]
    · cases hText
  · intro text
    simp only [sharedJson, windowPrimitives]
    split <;> rfl

theorem sharedCredential_built :
    (sharedServer "v1").honestCredential windowPrimitives sharedJson sharedSigner sharedPlan
      sharedProgram "2026-05-29T22:30:22Z" loginNow = .ok sharedCredential := by
  have hIssued : (sharedServer "v1").issuedRequest windowPrimitives loginNow =
      .ok (sharedRequest "v1") := by decide
  have hEncoded : sharedJson.fromTyped detailedRequest = .ok encodedRequest := by
    simp only [sharedJson, if_true]
  have hDecoded : sharedJson.decode encodedRequest = .ok detailedRequest := by
    simp only [sharedJson, if_true]
  have hSubscription : (findSubscriptionPda windowPrimitives.findProgramAddress sharedPlan
      loginSigner sharedProgram).display = "AZ29stm3ZEAwxHaSyhwJrj1y9UyiR34uDqTnnYKhUQSF" := by
    decide
  have hAddress : loginSigner.display = "GmaDrppBC7P5ARKV8g3djiwP89vz1jLK23V2GBjuAEGB" := by
    decide
  apply bind_eq_ok.mpr
  refine ⟨sharedCredential.challenge, ?_, ?_⟩
  · simp only [AuthenticateServer.challengeAt, bind_eq_ok, mapError_eq_ok]
    exact ⟨_, hIssued, encodedRequest, hEncoded, rfl⟩
  · apply refuseIf_bind_eq_ok.mpr
    refine ⟨by decide, ?_⟩
    simp only [bind_eq_ok, mapError_eq_ok, okOr_eq_ok, sharedSigner, hSubscription]
    refine ⟨detailedRequest, hDecoded, "mainnet", rfl, sharedSignature, rfl, ?_⟩
    unfold unsignedPayload sharedCredential
    rw [hAddress]
    rfl

/-- The login is accepted in its last second, and it is not accepted a minute later. -/
theorem honest_login_window_shared :
    (sharedServer "v1").verifyAt windowPrimitives sharedCredential 1782591999 = .ok loginSigner ∧
      ∀ address, (sharedServer "v1").verifyAt windowPrimitives sharedCredential 1782592060 ≠
        .ok address := by
  have hServer : AuthenticateServer.new windowPrimitives (sharedConfig "v1") =
      .ok (sharedServer "v1") := by decide
  have hGenuine : sharedSigner.Genuine windowPrimitives := by
    rintro message signature ⟨⟩
    simp only [windowPrimitives, sharedSigner, and_self, if_true]
  have hPlan : Pubkey.fromStr (sharedServer "v1").config.planId = .ok sharedPlan := by decide
  have hProgram : Pubkey.fromStr (sharedServer "v1").programId = .ok sharedProgram := by decide
  have hYear : FourDigitYear ((sharedServer "v1").expirySecs loginNow) := by
    unfold FourDigitYear
    decide
  constructor
  · exact (honest_login_window sharedJson_reads hGenuine hServer hPlan hProgram hYear
      sharedCredential_built).2.1 (by decide) (by decide)
  · intro address hAccepted
    have hTime := ((honest_login_window sharedJson_reads hGenuine hServer hPlan hProgram hYear
      sharedCredential_built).2.2 address hAccepted).1
    exact absurd hTime (by decide)

end PayKit.Login
