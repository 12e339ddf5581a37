import PayKit.BatchSettlement.Client

/-!
# What a client ever authorizes

A server chooses every response and every corrective challenge that a client's channel
adopts, and what the client signs next adds to what it adopted. The client is still
never made to sign for more than it was asked to pay: its watermark stays below a
cumulative amount that it signed itself.

A server that signs vouchers in the client's place confirms what it charged, within the
amount the client authorized for the request.
-/

namespace PayKit.BatchSettlement

open Control Machine Solana Tx Voucher

/-! ### Client-signed channels -/

/-- A voucher that the client signed, with the amount it was to add. -/
structure Grant where
  amount : ℕ
  voucher : BatchVoucher
deriving DecidableEq

/-- The cumulative amount that the voucher lets the server claim. -/
def Grant.cumulative (grant : Grant) : ℕ :=
  match grant.voucher.maxClaimable with
  | .ok cumulative => cumulative
  | .error _ => 0

/-- The most that the server can claim with the vouchers it was given. -/
def largestSigned : List Grant → ℕ
  | [] => 0
  | grant :: older => max grant.cumulative (largestSigned older)

/-- A channel and the vouchers the client has signed, the newest first. -/
structure ClientSession where
  channel : BatchChannel
  grants : List Grant

inductive ClientCall where
  | signNextVoucher (signer : List UInt8 → Except String Signature) (amount : ℕ)
  | applyPaymentResponse (response : BatchSettlementResponse) (requirements : BatchRequirements)
      (submitted : BatchVoucher)
  | adoptCorrectiveState (requirements : BatchRequirements)

section

variable (curve : Ed25519)

namespace ClientSession

/-- One call, whether it succeeds or fails. -/
def perform (session : ClientSession) : ClientCall → ClientSession
  | .signNextVoucher signer amount =>
      match session.channel.signNextVoucher curve signer amount with
      | (.ok voucher, channel) => ⟨channel, ⟨amount, voucher⟩ :: session.grants⟩
      | (.error _, channel) => ⟨channel, session.grants⟩
  | .applyPaymentResponse response requirements submitted =>
      ⟨(session.channel.applyPaymentResponse response requirements submitted).2, session.grants⟩
  | .adoptCorrectiveState requirements =>
      ⟨(session.channel.adoptCorrectiveState curve requirements).2, session.grants⟩

/-- A signature that a challenge presents verifies only for a cumulative amount that the
client has signed. -/
def Unforged (session : ClientSession) : ClientCall → Prop
  | .adoptCorrectiveState requirements =>
      ∀ proof cumulative, requirements.voucherState = some proof → cumulative ≤ u64Max →
        verifyVoucherSignature curve session.channel.channelId.display cumulative proof.expiresAt
          proof.signature session.channel.config.payerAuthorizer 0 0 = .ok () →
        ∃ grant ∈ session.grants, grant.voucher.maxClaimable = .ok cumulative
  | _ => True

/-- The voucher that a response is held against is one that the client signed. -/
def Submitted (session : ClientSession) : ClientCall → Prop
  | .applyPaymentResponse _ _ submitted => ∃ grant ∈ session.grants, grant.voucher = submitted
  | _ => True

end ClientSession

/-- The sessions that calls of the allowed kind lead to. -/
inductive ClientRun (Allowed : ClientSession → ClientCall → Prop) (start : ClientSession) :
    ClientSession → Prop where
  | start : ClientRun Allowed start start
  | call {session : ClientSession} (call : ClientCall) :
      ClientRun Allowed start session → Allowed session call →
      ClientRun Allowed start (session.perform curve call)

end

/-- The client has authorized no more than it was asked to. -/
structure ClientSession.Bounded (session : ClientSession) : Prop where
  watermark : session.channel.chargedCumulativeAmount ≤ largestSigned session.grants
  signing : ∀ newer grant older, session.grants = newer ++ grant :: older →
    grant.cumulative ≤ largestSigned older + grant.amount

theorem cumulative_le_largestSigned {grants : List Grant} {grant : Grant}
    (hMem : grant ∈ grants) : grant.cumulative ≤ largestSigned grants := by
  induction grants with
  | nil => cases hMem
  | cons newest older hInduction =>
      rcases List.mem_cons.mp hMem with rfl | hOlder
      · exact le_max_left _ _
      · exact le_trans (hInduction hOlder) (le_max_right _ _)

theorem Grant.cumulative_eq {grant : Grant} {cumulative : ℕ}
    (hVoucher : grant.voucher.maxClaimable = .ok cumulative) :
    grant.cumulative = cumulative := by
  simp only [Grant.cumulative, hVoucher]

theorem largestSigned_le_sum {grants : List Grant}
    (hSigning : ∀ newer grant older, grants = newer ++ grant :: older →
      grant.cumulative ≤ largestSigned older + grant.amount) :
    largestSigned grants ≤ (grants.map Grant.amount).sum := by
  induction grants with
  | nil => exact le_refl 0
  | cons newest older hInduction =>
      have hNewest := hSigning [] newest older rfl
      have hOlder : largestSigned older ≤ (older.map Grant.amount).sum := by
        apply hInduction
        intro newer grant oldest hSplit
        exact hSigning (newest :: newer) grant oldest (by rw [hSplit, List.cons_append])
      simp only [largestSigned, List.map_cons, List.sum_cons]
      omega

namespace ClientSession

variable {curve : Ed25519} {session start : ClientSession} {call : ClientCall}

theorem Bounded.adopt {channel : BatchChannel} (hBounded : session.Bounded)
    (hWatermark : channel.chargedCumulativeAmount ≤ largestSigned session.grants) :
    Bounded ⟨channel, session.grants⟩ :=
  ⟨hWatermark, hBounded.signing⟩

theorem Bounded.sign {amount : ℕ} {voucher : BatchVoucher} (hBounded : session.Bounded)
    (hVoucher : voucher.maxClaimable = .ok (session.channel.chargedCumulativeAmount + amount)) :
    Bounded ⟨session.channel, ⟨amount, voucher⟩ :: session.grants⟩ := by
  have hCumulative := @Grant.cumulative_eq ⟨amount, voucher⟩ _ hVoucher
  refine ⟨le_trans hBounded.watermark (le_max_right _ _), ?_⟩
  intro newer grant older hSplit
  cases newer with
  | nil =>
      cases hSplit
      have hWatermark := hBounded.watermark
      rw [hCumulative]
      change session.channel.chargedCumulativeAmount + amount ≤
        largestSigned session.grants + amount
      omega
  | cons newest newer =>
      rw [List.cons_append, List.cons.injEq] at hSplit
      exact hBounded.signing newer grant older hSplit.2

theorem Bounded.perform (hBounded : session.Bounded) (hUnforged : session.Unforged curve call)
    (hSubmitted : session.Submitted call) : (session.perform curve call).Bounded := by
  cases call with
  | signNextVoucher signer amount =>
      simp only [ClientSession.perform]
      rcases hOutcome : session.channel.signNextVoucher curve signer amount with
        ⟨outcome, channel⟩
      cases outcome with
      | error failure =>
          have hSame := BatchChannel.signNextVoucher_atomic session.channel failure
            (by rw [hOutcome])
          rw [hOutcome] at hSame
          subst hSame
          exact hBounded
      | ok voucher =>
          rcases BatchChannel.signNextVoucher_eq_ok hOutcome with ⟨rfl, hVoucher⟩
          exact hBounded.sign hVoucher
  | applyPaymentResponse response requirements submitted =>
      apply hBounded.adopt
      rcases hOutcome : session.channel.applyPaymentResponse response requirements submitted with
        ⟨outcome, channel⟩
      cases outcome with
      | error failure =>
          have hSame := BatchChannel.applyPaymentResponse_atomic session.channel failure
            (by rw [hOutcome])
          rw [hOutcome] at hSame
          rw [show channel = session.channel from hSame]
          exact hBounded.watermark
      | ok value =>
          rcases BatchChannel.applyPaymentResponse_eq_ok hOutcome with
            ⟨charged, balance, hCharged, rfl⟩
          rcases hSubmitted with ⟨grant, hMem, rfl⟩
          rw [← Grant.cumulative_eq hCharged]
          exact cumulative_le_largestSigned hMem
  | adoptCorrectiveState requirements =>
      apply hBounded.adopt
      rcases hOutcome : session.channel.adoptCorrectiveState curve requirements with
        ⟨outcome, channel⟩
      cases outcome with
      | error failure =>
          have hSame := BatchChannel.adoptCorrectiveState_atomic session.channel failure
            (by rw [hOutcome])
          rw [hOutcome] at hSame
          rw [show channel = session.channel from hSame]
          exact hBounded.watermark
      | ok adopted =>
          rcases BatchChannel.adoptCorrectiveState_eq_ok hOutcome with
            ⟨⟨proof, signed, hProof, hParsed, hVerified, hCovered⟩, rfl⟩
          rcases hUnforged proof signed hProof (parseU64_le hParsed) hVerified with
            ⟨grant, hMem, hVoucher⟩
          have hLargest := cumulative_le_largestSigned hMem
          rw [Grant.cumulative_eq hVoucher] at hLargest
          exact le_trans hCovered hLargest

theorem Bounded.run (hStart : start.Bounded)
    (hRun : ClientRun curve (fun session call =>
      session.Unforged curve call ∧ session.Submitted call) start session) :
    session.Bounded := by
  induction hRun with
  | start => exact hStart
  | call call hRun hAllowed hInduction => exact hInduction.perform hAllowed.1 hAllowed.2

@[simp]
theorem grants_applyPaymentResponse {response : BatchSettlementResponse}
    {requirements : BatchRequirements} {submitted : BatchVoucher} :
    (session.perform curve (.applyPaymentResponse response requirements submitted)).grants =
      session.grants :=
  rfl

theorem new_bounded {channelId : Pubkey} {config : BatchChannelConfig} {deposit : ℕ} :
    Bounded ⟨.new channelId config 0 deposit, []⟩ := by
  refine ⟨le_refl 0, ?_⟩
  intro newer grant older hSplit
  simp at hSplit

end ClientSession

/-! ### Server-signed channels -/

/-- A request's authorization, the response to it, and the escrow the client has proven. -/
structure MeteredCall where
  response : BatchSettlementResponse
  authorization : BatchAuthorization
  confirmedDeposit : Option ℕ

/-- The amount that the client authorized for the request. -/
def MeteredCall.authorized (call : MeteredCall) : ℕ :=
  (parseU64 call.authorization.authorizedAmount).getD 0

/-- A channel and the amounts of the authorizations whose responses it accepted. -/
structure MeteredSession where
  channel : BatchChannel
  accepted : List ℕ

section

variable (curve : Ed25519)

def MeteredSession.meter (session : MeteredSession) (call : MeteredCall) : MeteredSession :=
  match session.channel.applyAuthorizationResponseWithDeposit curve call.response
      call.authorization call.confirmedDeposit with
  | (.ok _, channel) => ⟨channel, call.authorized :: session.accepted⟩
  | (.error _, channel) => ⟨channel, session.accepted⟩

/-- The responses of a sequence of requests. -/
def MeteredSession.meterAll (session : MeteredSession) (calls : List MeteredCall) :
    MeteredSession :=
  calls.foldl (MeteredSession.meter curve) session

end

/-- What a response may change from one session to a later one. -/
structure MeteredSession.Grows (earlier later : MeteredSession) : Prop where
  complete : earlier.channel.historyComplete → later.channel.historyComplete
  forward : earlier.channel.chargedCumulativeAmount ≤ later.channel.chargedCumulativeAmount
  escrow : earlier.channel.chargedCumulativeAmount ≤ earlier.channel.deposit →
    later.channel.chargedCumulativeAmount ≤ later.channel.deposit
  authorized : earlier.channel.historyComplete →
    later.channel.chargedCumulativeAmount + earlier.accepted.sum ≤
      earlier.channel.chargedCumulativeAmount + later.accepted.sum

namespace MeteredSession

variable {curve : Ed25519} {session : MeteredSession}

theorem Grows.refl : session.Grows session :=
  ⟨id, le_refl _, id, fun _ => le_refl _⟩

theorem Grows.trans {earlier middle later : MeteredSession} (hFirst : earlier.Grows middle)
    (hSecond : middle.Grows later) : earlier.Grows later where
  complete := fun hComplete => hSecond.complete (hFirst.complete hComplete)
  forward := le_trans hFirst.forward hSecond.forward
  escrow := fun hEscrow => hSecond.escrow (hFirst.escrow hEscrow)
  authorized := by
    intro hComplete
    have hEarlier := hFirst.authorized hComplete
    have hLater := hSecond.authorized (hFirst.complete hComplete)
    omega

theorem meter_grows {call : MeteredCall} : session.Grows (session.meter curve call) := by
  simp only [meter]
  rcases hOutcome : session.channel.applyAuthorizationResponseWithDeposit curve call.response
      call.authorization call.confirmedDeposit with ⟨outcome, channel⟩
  cases outcome with
  | error failure =>
      have hSame := BatchChannel.applyAuthorizationResponse_atomic session.channel failure
        (by rw [hOutcome])
      rw [hOutcome] at hSame
      subst hSame
      exact .refl
  | ok value =>
      rcases BatchChannel.applyAuthorizationResponse_eq_ok hOutcome with
        ⟨cumulative, authorized, hAuthorized, hForward, hCeiling, hEscrow, rfl⟩
      have hAmount : call.authorized = authorized := by
        rw [MeteredCall.authorized, hAuthorized, Option.getD_some]
      refine ⟨fun _ => rfl, hForward, fun _ => hEscrow, ?_⟩
      intro hComplete
      have hBounded := hCeiling hComplete
      simp only [List.sum_cons, hAmount]
      omega

theorem meterAll_grows {calls : List MeteredCall} : session.Grows (session.meterAll curve calls) := by
  induction calls generalizing session with
  | nil => exact .refl
  | cons call rest hInduction => exact meter_grows.trans hInduction

end MeteredSession

/-! ### The bounds -/

/-- What a client authorizes is bounded by what it was asked to pay: on a channel it
signs for, over every run against an arbitrary server, and on a channel the server signs
for, over every sequence of responses. A call that fails changes nothing. -/
theorem client_authorizes_within_bounds (curve : Ed25519) :
    (∀ channelId config deposit session,
      ClientRun curve (fun session call => session.Unforged curve call ∧ session.Submitted call)
        ⟨.new channelId config 0 deposit, []⟩ session →
      session.channel.chargedCumulativeAmount ≤ largestSigned session.grants ∧
      (∀ newer grant older, session.grants = newer ++ grant :: older →
        grant.cumulative ≤ largestSigned older + grant.amount) ∧
      largestSigned session.grants ≤ (session.grants.map Grant.amount).sum) ∧
    (∀ channel earlier later, channel.historyComplete = true →
      let before := MeteredSession.meterAll curve ⟨channel, []⟩ earlier
      let after := MeteredSession.meterAll curve ⟨channel, []⟩ (earlier ++ later)
      before.channel.chargedCumulativeAmount ≤ after.channel.chargedCumulativeAmount ∧
      (channel.chargedCumulativeAmount ≤ channel.deposit →
        after.channel.chargedCumulativeAmount ≤ after.channel.deposit) ∧
      after.channel.chargedCumulativeAmount ≤
        channel.chargedCumulativeAmount + after.accepted.sum) ∧
    (∀ signer amount, Update.Atomic (BatchChannel.signNextVoucher curve signer amount)) ∧
    (∀ response requirements submitted,
      Update.Atomic (BatchChannel.applyPaymentResponse response requirements submitted)) ∧
    (∀ response authorization confirmedDeposit, Update.Atomic
      (BatchChannel.applyAuthorizationResponseWithDeposit curve response authorization
        confirmedDeposit)) ∧
    ∀ requirements, Update.Atomic (BatchChannel.adoptCorrectiveState curve requirements) := by
  refine ⟨?_, ?_, fun _ _ => BatchChannel.signNextVoucher_atomic,
    fun _ _ _ => BatchChannel.applyPaymentResponse_atomic,
    fun _ _ _ => BatchChannel.applyAuthorizationResponse_atomic,
    fun _ => BatchChannel.adoptCorrectiveState_atomic⟩
  · intro channelId config deposit session hRun
    have hBounded := ClientSession.new_bounded.run hRun
    exact ⟨hBounded.watermark, hBounded.signing, largestSigned_le_sum hBounded.signing⟩
  · intro channel earlier later hComplete
    have hSplit : MeteredSession.meterAll curve ⟨channel, []⟩ (earlier ++ later) =
        (MeteredSession.meterAll curve ⟨channel, []⟩ earlier).meterAll curve later := by
      simp only [MeteredSession.meterAll, List.foldl_append]
    have hWhole := @MeteredSession.meterAll_grows curve ⟨channel, []⟩
      (earlier ++ later)
    refine ⟨?_, hWhole.escrow, ?_⟩
    · rw [hSplit]
      exact MeteredSession.meterAll_grows.forward
    · simpa using hWhole.authorized hComplete

/-! ### A run, and a voucher that the client never signed -/

def payerKey : Pubkey := .ofTwos

def channelKey : Pubkey := .numbered 3

/-- The payer's Ed25519 signature of the voucher for 1,000. -/
def signatureOf1000 : Signature where
  bytes := [45, 49, 254, 117, 38, 15, 145, 36, 122, 150, 52, 226, 1, 149, 217, 82, 142, 174, 181,
    127, 203, 60, 140, 39, 75, 34, 131, 55, 190, 5, 165, 192, 127, 151, 169, 95, 109, 180, 127, 64,
    10, 98, 216, 232, 35, 159, 135, 234, 146, 246, 160, 147, 33, 33, 17, 109, 233, 122, 141, 199,
    52, 141, 218, 8]
  length_bytes := rfl

/-- The payer's Ed25519 signature of the voucher for 900. -/
def signatureOf900 : Signature where
  bytes := [173, 75, 116, 95, 159, 110, 152, 252, 140, 213, 40, 122, 77, 25, 75, 82, 238, 105, 20,
    248, 175, 235, 148, 46, 124, 61, 216, 52, 165, 39, 138, 193, 26, 133, 136, 7, 91, 82, 136, 139,
    175, 181, 193, 86, 89, 201, 0, 144, 171, 182, 3, 40, 77, 30, 60, 135, 60, 109, 175, 92, 53, 114,
    123, 14]
  length_bytes := rfl

/-- The codecs, and the curve on the two vouchers. -/
def payerCurve : Ed25519 where
  encode64 signature :=
    String.ofList ((Encoding.transcode 256 58 (signature.bytes.map UInt8.toNat)).map base58Char)
  decode64 text :=
    match text.toList.mapM base58Digit with
    | none => .error "InvalidChar"
    | some digits =>
        let bytes := (Encoding.transcode 58 256 digits).map UInt8.ofNat
        if hLength : bytes.length = 64 then .ok ⟨bytes, hLength⟩ else .error "TooShort"
  decode32 text := (Pubkey.fromStr text).mapError ParsePubkeyError.display
  checkKey _ := .ok ()
  verifyStrict key message signature := key = payerKey ∧
    ((message = voucherMessageBytes channelKey 1000 0 ∧ signature = signatureOf1000) ∨
      (message = voucherMessageBytes channelKey 900 0 ∧ signature = signatureOf900))

def payerSigner (message : List UInt8) : Except String Signature :=
  if message = voucherMessageBytes channelKey 1000 0 then .ok signatureOf1000
  else if message = voucherMessageBytes channelKey 900 0 then .ok signatureOf900
  else .error "signer unavailable"

def payerConfig : BatchChannelConfig where
  payer := payerKey.display
  payerAuthorizer := payerKey.display
  token := channelKey.display
  withdrawDelay := 900
  salt := "7"
  openSlot := 42

def voucherOf1000 : BatchVoucher where
  channelId := channelKey.display
  maxClaimableAmount := "1000"
  expiresAt := 0
  signature := payerCurve.encode64 signatureOf1000

/-- A response that confirms a charge. -/
def confirmation (charged cumulative : String) : BatchSettlementResponse where
  success := true
  errorReason := none
  extra := some {
    commitmentId := some "commitment"
    chargedAmount := some charged
    channelState := some ⟨channelKey.display, "5000", some cumulative⟩
    voucher := none }

/-- A challenge that corrects the watermark to 600, on the proof of the voucher for 1,000. -/
def correction : BatchRequirements where
  amount := "300"
  channelState := some ⟨channelKey.display, "5000", some "600"⟩
  voucherState := some ⟨"1000", 0, payerCurve.encode64 signatureOf1000⟩

/-- The client pays 1,000, is corrected to 600 and pays 300. -/
def correctedSession : ClientSession :=
  [ClientCall.signNextVoucher payerSigner 1000,
    .applyPaymentResponse (confirmation "1000" "1000") ⟨"1000", none, none⟩ voucherOf1000,
    .adoptCorrectiveState correction,
    .signNextVoucher payerSigner 300].foldl (ClientSession.perform payerCurve)
    ⟨.new channelKey payerConfig 0 5000, []⟩

/-- The proof of the correction verifies for no amount but the one that was signed. -/
theorem correction_unforged {session : ClientSession} {grant : Grant}
    (hChannel : session.channel.channelId = channelKey) (hGrant : grant ∈ session.grants)
    (hVoucher : grant.voucher.maxClaimable = .ok 1000) :
    session.Unforged payerCurve (.adoptCorrectiveState correction) := by
  intro proof cumulative hProof hFits hVerified
  simp only [correction, Option.some.injEq] at hProof
  subst hProof
  rw [hChannel] at hVerified
  rcases verifyVoucherSignature_eq_ok hVerified with ⟨signer, bytes, -, hBytes, hSignature⟩
  have hDecoded : payerCurve.decode64 (payerCurve.encode64 signatureOf1000) =
      .ok signatureOf1000 := by
    decide +kernel
  simp only [hDecoded, Except.ok.injEq] at hBytes
  have hDistinct : signatureOf1000 ≠ signatureOf900 := by decide
  simp only [payerCurve, ← hBytes, hDistinct, and_false, or_false, and_true,
    decide_eq_true_eq] at hSignature
  have hAmount := voucherMessageBytes_cumulative hFits (by decide) hSignature.2
  rw [hAmount]
  exact ⟨grant, hGrant, hVoucher⟩

theorem client_authorizes_within_bounds_of_correctedSession :
    correctedSession.channel.chargedCumulativeAmount = 600 ∧
    correctedSession.grants.map Grant.cumulative = [900, 1000] ∧
    correctedSession.channel.chargedCumulativeAmount ≤ largestSigned correctedSession.grants ∧
    (∀ newer grant older, correctedSession.grants = newer ++ grant :: older →
      grant.cumulative ≤ largestSigned older + grant.amount) ∧
    largestSigned correctedSession.grants ≤ (correctedSession.grants.map Grant.amount).sum := by
  refine ⟨by decide +kernel, by decide +kernel, ?_⟩
  apply (client_authorizes_within_bounds payerCurve).1 channelKey payerConfig 5000
  have hSigned : (⟨1000, voucherOf1000⟩ : Grant) ∈
      (ClientSession.perform payerCurve ⟨.new channelKey payerConfig 0 5000, []⟩
        (.signNextVoucher payerSigner 1000)).grants := by
    decide +kernel
  simp only [correctedSession, List.foldl_cons, List.foldl_nil]
  refine .call _ (.call _ (.call _ (.call _ .start ?_) ?_) ?_) ?_
  · exact ⟨trivial, trivial⟩
  · exact ⟨trivial, ⟨1000, voucherOf1000⟩, hSigned, rfl⟩
  · refine ⟨@correction_unforged _ ⟨1000, voucherOf1000⟩ ?_ ?_ ?_, trivial⟩
    · decide
    · rw [ClientSession.grants_applyPaymentResponse]
      exact hSigned
    · decide
  · exact ⟨trivial, trivial⟩

/-- A voucher for 500 that the payer never signed. -/
def unsignedVoucher : BatchVoucher where
  channelId := channelKey.display
  maxClaimableAmount := "500"
  expiresAt := 0
  signature := ""

/-- Held against a voucher that the client did not sign, a response moves the watermark
above all that the client signed, and the next voucher claims more than was asked. -/
theorem unsigned_submission_exceeds_bounds :
    ¬(∀ session, ClientRun payerCurve (ClientSession.Unforged payerCurve)
        ⟨.new channelKey payerConfig 0 5000, []⟩ session →
      session.channel.chargedCumulativeAmount ≤ largestSigned session.grants) ∧
    ¬∀ session, ClientRun payerCurve (ClientSession.Unforged payerCurve)
        ⟨.new channelKey payerConfig 0 5000, []⟩ session →
      largestSigned session.grants ≤ (session.grants.map Grant.amount).sum := by
  have hMoved : ClientRun payerCurve (ClientSession.Unforged payerCurve)
      ⟨.new channelKey payerConfig 0 5000, []⟩
      (ClientSession.perform payerCurve ⟨.new channelKey payerConfig 0 5000, []⟩
        (.applyPaymentResponse (confirmation "500" "500") ⟨"500", none, none⟩
          unsignedVoucher)) :=
    .call _ .start trivial
  constructor
  · intro hWatermark
    exact absurd (hWatermark _ hMoved) (by decide)
  · intro hSum
    exact absurd (hSum _ (.call (.signNextVoucher payerSigner 400) hMoved trivial))
      (by decide)

end PayKit.BatchSettlement
