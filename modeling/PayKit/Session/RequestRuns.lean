import PayKit.Session.LifecyclePrograms

/-!
# Runs of the request server

Any number of requests run against one store that holds nothing at first, in any order of their
calls, with whatever the chain, the clocks and the store answer. Every reachable store holds
histories of moves, and every answer is about a record that it holds. What follows from that is
what a payee and a payer rely on.

* `records_solvent`: what is charged was authorized, what is authorized is proven by a voucher and
  in escrow, or was paid out, a close fixes the watermark, and nothing recorded is taken back.
* `charges_admitted`: a record comes to owe more only for one of four reasons, and a charge only
  on a channel that was seen to be open recently.
* `deposits_landed`: a deposit is that of an open that landed and of distinct finalized top-ups.
* `requests_charged_once`: the charges of a request of the operator add up to a total that was
  asked for it.
* `seal_carries_proof`: a seal is handed a voucher that was verified for exactly its watermark,
  or none because the chain has paid as much already.
-/

namespace PayKit.Session

open Accounting Channel Concurrency Control Encoding Machine Store
open Metered (SessionSigner)

variable {Scope Caller : Type} [DecidableEq Scope] [DecidableEq Caller]
  {server : RequestServer Scope} {requests : Caller → SessionRequest} {caller : Caller}

/-! ### Answers -/

variable (server requests) in
/-- What the answer to a request says of the records. -/
def Recorded (history : SessionHistory Caller) : SessionRequest → SessionAnswer → Prop
  | .openChannel payload _, .opened acceptance =>
      Shown history payload.channelId acceptance.state ∧ opensChannel acceptance.state = false
  | .resumeOpen channelId, .opened acceptance =>
      Shown history channelId acceptance.state ∧ opensChannel acceptance.state = false
  | .voucher payload _ _ _, .accepted acceptance => ∃ state,
      Shown history payload.channelId state ∧ acceptance.cumulative = state.cumulative
  | .use payload _ idempotencyKey, .used acceptance =>
      UseRecorded history payload.channelId idempotencyKey acceptance
  | .charge authenticated _ requestTotal _, .charged _ =>
      ChargeRecorded history authenticated requestTotal
  | .topUp payload, .toppedUp acceptance => Shown history payload.channelId acceptance.state ∧
      acceptance.transactionSignature ∈ acceptance.state.processedTopupSignatures
  | .close payload, .sealing params => ∃ state final, Shown history payload.channelId state ∧
      Sealing server (knownOf server requests history) payload.channelId state params ∧
      state.closeRequestedAt.isSome = true ∧ state.finalCumulative = some final
  | .sealParams channelId, .sealing params => ∃ state, Shown history channelId state ∧
      Sealing server (knownOf server requests history) channelId state params
  | _, _ => True

omit [DecidableEq Caller] in
theorem keeps_serve {before : SessionWorld Caller} (hTrusted : server.Trusted)
    (hBefore : Consistent server requests before) :
    Keeps server requests caller (server.serve (requests caller))
      (fun answer world => Recorded server requests world.history (requests caller) answer)
      before := by
  cases hRequest : requests caller with
  | openChannel payload context =>
      apply Environment.ensures_map
      apply keeps_openChannel hTrusted hBefore
      intro validated hValid
      rw [hRequest]
      exact ⟨rfl, validated, hValid, rfl⟩
  | resumeOpen channelId =>
      exact Environment.ensures_map (keeps_resumeOpen hTrusted hBefore hRequest)
  | voucher payload amount allowReplay guard =>
      exact Environment.ensures_map (keeps_verifyVoucherPriced hBefore)
  | use payload challengeId idempotencyKey =>
      apply Environment.ensures_map
      apply keeps_processUse hTrusted hBefore
      rw [hRequest]
      exact ⟨rfl, rfl, rfl, rfl⟩
  | authenticate payload challengeId idempotencyKey =>
      exact Environment.ensures_map (keeps_authenticateUse hBefore)
  | charge authenticated signer requestTotal guard =>
      apply Environment.ensures_map
      apply keeps_chargeOperatorRequest hBefore
      rw [hRequest]
      exact ⟨rfl, rfl, rfl, rfl⟩
  | topUp payload => exact Environment.ensures_map (keeps_processTopup hBefore hRequest)
  | delivery request => exact Environment.ensures_map (keeps_beginDelivery hBefore)
  | usage channelId deliveryId amount =>
      exact Environment.ensures_map (keeps_recordUsage hBefore)
  | commit payload => exact Environment.ensures_map (keeps_processCommit hBefore)
  | close payload => exact Environment.ensures_map (keeps_processClose hBefore)
  | sealParams channelId =>
      apply Environment.ensures_map
      refine (keeps_sealParams hBefore).weaken ?_
      rintro params world - - ⟨state, hRead, hSealing⟩
      exact ⟨state, hRead.shown, hSealing⟩
  | markSealed channelId => exact Environment.ensures_map (keeps_markSealed hBefore)

/-! ### Reachable stores -/

variable (server requests) in
/-- All requests before their first call, over a store that holds nothing. -/
def sessionStart : Config Caller SessionStore SessionCall SessionReply
    (Except SessionError SessionAnswer) where
  world := ⟨fun _ => [], []⟩
  threads caller := (server.serve (requests caller)).run

omit [DecidableEq Caller] in
theorem consistent_start : Consistent server requests (sessionStart server requests).world where
  histories _ := .empty
  shown channelId state hShown := by
    cases hShown with
    | read hRead => cases hRead
    | wrote hWrote => cases hWrote

/-- Every reachable store holds histories of moves, and the answers given are of its records. -/
theorem consistent_of_reachable {reached : Config Caller SessionStore SessionCall SessionReply
      (Except SessionError SessionAnswer)} (hTrusted : server.Trusted)
    (hRun : server.environment.Reachable (sessionStart server requests) reached) :
    Consistent server requests reached.world ∧
      ∀ caller answer, reached.threads caller = .done (.ok answer) →
        Recorded server requests reached.world.history (requests caller) answer := by
  have hSafe : ∀ caller, Keeps server requests caller (server.serve (requests caller))
      (fun answer world => Recorded server requests world.history (requests caller) answer)
      (sessionStart server requests).world :=
    fun caller => keeps_serve hTrusted consistent_start
  rcases Environment.safe_of_reachable consistent_start hSafe hRun with ⟨hConsistent, hEnds⟩
  refine ⟨hConsistent, ?_⟩
  intro caller answer hDone
  have hEnd := hEnds caller
  rw [hDone] at hEnd
  exact hEnd.post_of_done hConsistent

/-! ### A run

An operator's server opens a channel, tops it up, charges a use and a metered request on it, and
closes it. -/

/-- The intent as an object, with its optional members left out. -/
def objectIntents : IntentCodec where
  toValue intent := .ok (.object (
    [("version", .unsigned intent.version), ("channelId", .text intent.payload.channelId),
      ("depositAmount", .text intent.payload.depositAmount), ("payer", .text intent.payload.payer),
      ("authorizedSigner", .text intent.payload.authorizedSigner),
      ("openSlot", .unsigned intent.payload.openSlot),
      ("transaction", .text intent.payload.transaction),
      ("challengeId", .text intent.challengeId),
      ("recentBlockhash", .text intent.recentBlockhash),
      ("recentSlot", .unsigned intent.recentSlot)] ++
    (intent.payload.authentication.map fun text => ("authentication", Json.text text)).toList ++
    (intent.payload.idleTimeoutSeconds.map fun secs => ("idle", Json.unsigned secs)).toList ++
    (intent.finalizedValidAt.map fun slot => ("validAt", Json.unsigned slot)).toList ++
    (intent.transactionSignature.map fun text => ("signature", Json.text text)).toList ++
    (match intent.adoptionFloor with
      | .slot slot => [("floor", .unsigned slot)]
      | .unproven => [])))
  fromValue
    | .object members => do
        let text := fun key => (members.lookup key).bind fun
          | .text value => some value
          | _ => none
        let number := fun key => (members.lookup key).bind Json.asU64
        return {
          version := ← number "version"
          payload := {
            channelId := ← text "channelId"
            depositAmount := ← text "depositAmount"
            payer := ← text "payer"
            authorizedSigner := ← text "authorizedSigner"
            openSlot := ← number "openSlot"
            authentication := text "authentication"
            idleTimeoutSeconds := number "idle"
            transaction := ← text "transaction" }
          challengeId := ← text "challengeId"
          recentBlockhash := ← text "recentBlockhash"
          recentSlot := ← number "recentSlot"
          finalizedValidAt := number "validAt"
          transactionSignature := text "signature"
          adoptionFloor := ((number "floor").map .slot).getD .unproven }
    | _ => none

/-- The signature of a voucher by a key, in the clear. -/
def clearSignature (signer channelId : String) (cumulative : ℕ) : String :=
  signer ++ "/" ++ channelId ++ "/" ++ cumulative.repr

def operatorKey : SessionSigner where
  pubkey := "operator-key"
  signMessage data := do
    let cumulative ← okOr (parseU64 data.cumulativeAmount) (.other "invalid amount")
    return clearSignature "operator-key" data.channelId cumulative

def operatorServer : RequestServer Unit where
  store := ⟨⟨fun _ => .ok .null, fun _ => none⟩, none⟩
  operator := "operator-key"
  voucherSigner := operatorSigner
  intents := objectIntents
  encodeState _ := .error "unused"
  validateOpenRequest payload _ := do
    let deposit ← okOr (parseU64 payload.depositAmount) (.other "invalid deposit")
    refuseIf (payload.authorizedSigner ≠ "operator-key")
      (.other "operator voucher signing requires authorizedSigner to match the operator")
    return ⟨deposit, 60, payload.payer, payload.openSlot⟩
  prepareOpen payload _ := .ok ⟨some payload.transaction, payload.transaction⟩
  recipient := "recipient"
  gracePeriodSeconds := 900
  currency := .ok "mint"
  checkSignature channelId cumulative _ signature signer :=
    if signature = clearSignature signer channelId cumulative then .ok ()
    else .error "Invalid voucher signature"
  amount := 5
  minVoucherDelta := 0
  operatorSigningKey := some operatorKey
  encodeAuthentication proof :=
    .ok (proof.challengeId ++ "/" ++ proof.payer ++ "/" ++ proof.signature)
  verifyAuthentication proof channelId := .ok (proof.signature = proof.payer ++ ":" ++ channelId)
  prepareTopUp payload _ := .ok (some payload.transaction)
  parsePubkey _ := .ok ⟨List.replicate 32 7, by decide⟩

theorem operatorServer_trusted : operatorServer.Trusted where
  key key hKey := by
    cases hKey
    constructor
    intro data signature cumulative hSigned hParsed
    simp only [operatorKey, bind_eq_ok, okOr_eq_ok, hParsed, Option.some.injEq, pure, Except.pure,
      Except.ok.injEq] at hSigned
    rcases hSigned with ⟨_, rfl, rfl⟩
    exact if_pos rfl
  opening payload context validated hValid _ := by
    simp only [operatorServer, bind_eq_ok, okOr_eq_ok, refuseIf_eq_ok, not_not] at hValid
    rcases hValid with ⟨_, _, _, hSigner, _⟩
    exact hSigner

def bearerProof : SessionAuthentication where
  challengeId := "challenge"
  payer := "payer"
  signature := "payer:channel"

def openPayload : OpenPayload where
  channelId := "channel"
  depositAmount := "100"
  payer := "payer"
  authorizedSigner := "operator-key"
  openSlot := 42
  authentication := some "challenge/payer/payer:channel"
  idleTimeoutSeconds := none
  transaction := "open-transaction"

def meteredUse : AuthenticatedUse where
  channelId := "channel"
  authentication := "challenge/payer/payer:channel"
  challengeId := "request"
  idempotencyKey := "metered"

def meteredSession : Fin 5 → SessionRequest
  | 0 => .openChannel openPayload ⟨"challenge", none, "blockhash", 42⟩
  | 1 => .topUp ⟨"channel", "50", "topup-transaction"⟩
  | 2 => .use ⟨"channel", bearerProof⟩ "first" "fixed"
  | 3 => .charge meteredUse "operator-key" 7 fun _ => .ok ()
  | 4 => .close ⟨"channel", some bearerProof, none⟩

/-- The store answers at time 1000; the chain has landed what was submitted, and is slow to show
the channel. -/
def answerSession (now : ℕ) : (call : SessionCall) → SessionStore →
    SessionReply call × SessionStore
  | .getChannel channelId, store => (.ok (currentRecord store channelId), store)
  | .update channelId updater, store =>
      match updater now (currentRecord store channelId) with
      | .ok (result, record) => (.ok (result, record), store.write channelId ⟨now, record⟩)
      | .error failure => (.error failure, store)
  | .clock, store => (now, store)
  | .readAccount _ _, store => (.ok (some ⟨0, 0, 0⟩, now), store)
  | .sign signer data, store =>
      (.ok (clearSignature signer data.channelId ((parseU64 data.cumulativeAmount).getD 0)), store)
  | .pipeline, store => (.ok (), store)
  | .openSlot slot, store => (.ok slot, store)
  | .blockhashValidity _ _, store => (.ok (true, 42), store)
  | .submitOpen _ _ _, store => (.ok (.landed "open-transaction" 0), store)
  | .unfunded _ _ _, store => (.ok false, store)
  | .submitTopUp _, store => (.ok 50, store)
  | .readFinalized _ _, store => (.ok (some ⟨true, 0, 150⟩), store)

theorem answerSession_effect (now : ℕ) (call : SessionCall) (store : SessionStore) :
    sessionEffect call store (answerSession now call store).1 (answerSession now call store).2 := by
  cases call with
  | getChannel channelId =>
      refine ⟨rfl, ?_⟩
      intro found hFound
      cases hFound
      rfl
  | update channelId updater =>
      simp only [answerSession]
      cases hRan : updater now (currentRecord store channelId) with
      | ok answer => exact Updated.written hRan
      | error failure => exact Updated.refused hRan
  | _ => rfl

def turns : List (Fin 5 × ℕ) :=
  [0, 1, 2, 3, 4].flatMap fun caller => List.replicate 12 (caller, 1000 + 40 * caller.val)

def sessionRun : Config (Fin 5) SessionStore SessionCall SessionReply
    (Except SessionError SessionAnswer) :=
  (sessionStart operatorServer meteredSession).runSchedule answerSession turns

theorem sessionRun_reachable : operatorServer.environment.Reachable
    (sessionStart operatorServer meteredSession) sessionRun := by
  apply Config.reachable_runSchedule answerSession_effect
  apply Config.permitted_of_handler
  intro world caller now call
  cases call with
  | sign signer data =>
      rintro signature cumulative ⟨⟩ hParsed
      exact if_pos (by simp [hParsed])
  | _ => trivial

theorem length_sessionRun : (sessionRun.world.state "channel").length = 8 := by
  decide +kernel

/-- A record of the run, the newest one first. -/
def sessionRecord (index : Fin 8) : Held :=
  (sessionRun.world.state "channel").get (index.cast length_sessionRun.symm)

/-! ### Money -/

variable {reached : Config Caller SessionStore SessionCall SessionReply
    (Except SessionError SessionAnswer)}

/-- In every run, every record is solvent: what was charged is authorized; what is authorized
beyond what the chain paid out is proven by the stored voucher, under the signer of the channel,
and in escrow; and a watermark that a close fixed stays final. No later record takes anything
back, and none changes the terms of the channel. -/
theorem records_solvent (hTrusted : server.Trusted)
    (hRun : server.environment.Reachable (sessionStart server requests) reached)
    (channelId : String) :
    (∀ held ∈ reached.world.state channelId,
      Sound (accountOf held.record) ∧ server.Proven channelId held.record ∧
      (held.record.settledOnChain = 0 ∨ (knownOf server requests reached.world.history).paid
        channelId held.record.settledOnChain)) ∧
    (reached.world.state channelId).Pairwise fun newer older =>
      Follows older.record newer.record := by
  have hHistory := (consistent_of_reachable hTrusted hRun).1.histories channelId
  refine ⟨?_, hHistory.pairwise⟩
  intro held hMem
  exact ⟨hHistory.sound held hMem, hHistory.proven held hMem, hHistory.paid held hMem⟩

theorem records_solvent_of_sessionRun :
    (∀ held ∈ sessionRun.world.state "channel",
      Sound (accountOf held.record) ∧ operatorServer.Proven "channel" held.record ∧
      (held.record.settledOnChain = 0 ∨
        (knownOf operatorServer meteredSession sessionRun.world.history).paid "channel"
          held.record.settledOnChain)) ∧
    (sessionRun.world.state "channel").Pairwise fun newer older =>
      Follows older.record newer.record :=
  records_solvent operatorServer_trusted sessionRun_reachable "channel"

/-- In every run, a record that owes more than the one before owes it for a charge on an open
channel, for a delivery that was reserved before, by the close of the client, or because the
chain paid out as much. The channel that is charged was seen to be open: by a read that began at
the time of its last observation, or by the open that was confirmed then; and that time is no
older than the configured age. -/
theorem charges_admitted (hTrusted : server.Trusted)
    (hRun : server.environment.Reachable (sessionStart server requests) reached)
    {channelId : String} {later earlier : List Held} {newer older : Held}
    (hRecords : reached.world.state channelId = later ++ newer :: older :: earlier) :
    Reason server newer.time older.record newer.record ∧
      (server.Admits newer.time older.record →
        (knownOf server requests reached.world.history).sawOpen channelId
          older.record.onchainObservedAt ∨
        (∃ held ∈ older :: earlier, held.time = older.record.onchainObservedAt) ∧
          ∃ deposit, (knownOf server requests reached.world.history).landed channelId deposit) := by
  have hHistory := (consistent_of_reachable hTrusted hRun).1.histories channelId
  rw [hRecords] at hHistory
  refine ⟨hHistory.move.reason, ?_⟩
  intro hAdmits
  exact hHistory.suffix.tail.seen hAdmits.opened hAdmits.live

theorem charges_admitted_of_sessionRun : ∃ later newer older earlier,
    sessionRun.world.state "channel" = later ++ newer :: older :: earlier ∧
      older.record.spentAmount = 5 ∧ newer.record.spentAmount = 12 ∧
      Reason operatorServer newer.time older.record newer.record ∧
      ((knownOf operatorServer meteredSession sessionRun.world.history).sawOpen "channel"
          older.record.onchainObservedAt ∨
        (∃ held ∈ older :: earlier, held.time = older.record.onchainObservedAt) ∧ ∃ deposit,
          (knownOf operatorServer meteredSession sessionRun.world.history).landed "channel"
            deposit) := by
  have hRecords : sessionRun.world.state "channel" =
      (sessionRun.world.state "channel").take 1 ++ sessionRecord 1 :: sessionRecord 2 ::
        (sessionRun.world.state "channel").drop 3 := by
    simp [sessionRecord, -List.drop_one]
  have hAdmits : operatorServer.Admits (sessionRecord 1).time (sessionRecord 2).record := by
    refine ⟨⟨?_, ?_, ?_⟩, ?_, ?_⟩ <;> decide +kernel
  have hCharged := charges_admitted operatorServer_trusted sessionRun_reachable hRecords
  exact ⟨_, _, _, _, hRecords, by decide +kernel, by decide +kernel, hCharged.1,
    hCharged.2 hAdmits⟩

theorem chargedFor_suffix {key : String} {later records : List Held} :
    chargedFor key records ≤ chargedFor key (later ++ records) := by
  induction later with
  | nil => exact le_rfl
  | cons newest later hInduction =>
      refine hInduction.trans ?_
      cases hRest : later ++ records with
      | nil => exact Nat.zero_le _
      | cons older earlier =>
          rw [List.cons_append, hRest, chargedFor]
          exact Nat.le_add_left _ _

/-- In every run, as long as the channel remembers all its requests, the charges of a request add
up to the total that is recorded for it. A positive total was asked for on this channel and for
this request, and it is no less than any total that was answered for. -/
theorem requests_charged_once (hTrusted : server.Trusted)
    (hRun : server.environment.Reachable (sessionStart server requests) reached)
    {channelId : String} {newest : Held} {earlier : List Held}
    (hRecords : reached.world.state channelId = newest :: earlier)
    (hFits : ∀ held ∈ newest :: earlier,
      held.record.processedUses.length < maxProcessedUses) (key : String) :
    chargedFor key (newest :: earlier) = totalFor newest.record.processedUses key ∧
      (0 < chargedFor key (newest :: earlier) → ∃ caller challengeId,
        (requests caller).Asks server channelId challengeId key
          (chargedFor key (newest :: earlier))) ∧
      ∀ caller authenticated signer requestTotal guard charge,
        requests caller = .charge authenticated signer requestTotal guard →
        authenticated.channelId = channelId → authenticated.idempotencyKey = key →
        reached.threads caller = .done (.ok (.charged charge)) →
          requestTotal ≤ chargedFor key (newest :: earlier) := by
  rcases consistent_of_reachable hTrusted hRun with ⟨hConsistent, hAnswers⟩
  have hHistory := hConsistent.histories channelId
  rw [hRecords] at hHistory
  have hTotal := hHistory.chargedFor_eq key hFits
  refine ⟨hTotal, ?_, ?_⟩
  · intro hPositive
    rw [hTotal, totalFor] at hPositive ⊢
    cases hFound : newest.record.processedUses.find? fun entry => entry.idempotencyKey = key with
    | none => simp [hFound] at hPositive
    | some entry =>
        rcases hHistory.asked newest List.mem_cons_self entry
          (List.mem_of_find?_eq_some hFound) with ⟨total, hAmount, caller, hAsks⟩
        have hKey := List.find?_some hFound
        simp only [decide_eq_true_eq] at hKey
        refine ⟨caller, entry.challengeId, ?_⟩
        simpa [hAmount, hKey] using hAsks
  · intro caller authenticated signer requestTotal guard charge hRequest hChannel hKey hDone
    have hRecorded := hAnswers caller _ hDone
    rw [hRequest] at hRecorded
    rcases hRecorded with ⟨state, hShown, hReaches⟩
    rw [hChannel] at hShown
    rw [hKey] at hReaches
    rcases hConsistent.shown channelId state hShown with ⟨held, hMem, rfl⟩
    rw [hRecords] at hMem
    rcases List.append_of_mem hMem with ⟨later, older, hSplit⟩
    have hOlder : RecordHistory server (knownOf server requests reached.world.history) channelId
        (held :: older) := by
      rw [hSplit] at hHistory
      exact hHistory.suffix
    have hOlderFits : ∀ member ∈ held :: older,
        member.record.processedUses.length < maxProcessedUses := by
      intro member hMember
      exact hFits member (hSplit ▸ List.mem_append_right _ hMember)
    rw [← hOlder.chargedFor_eq key hOlderFits] at hReaches
    rw [hSplit]
    exact hReaches.trans chargedFor_suffix

/-- The charge that an answer is for. -/
def SessionAnswer.charge? : SessionAnswer → Option OperatorCharge
  | .charged charge => some charge
  | _ => none

/-- The parameters that an answer is for. -/
def SessionAnswer.params? : SessionAnswer → Option SealParams
  | .sealing params => some params
  | _ => none

def answered {Answer : Type} (read : SessionAnswer → Option Answer)
    (program : Program SessionCall SessionReply (Except SessionError SessionAnswer)) :
    Option Answer :=
  match program with
  | .done (.ok answer) => read answer
  | _ => none

theorem done_of_answered {Answer : Type} {read : SessionAnswer → Option Answer}
    {program : Program SessionCall SessionReply (Except SessionError SessionAnswer)}
    (hAnswered : (answered read program).isSome = true) :
    ∃ answer value, program = .done (.ok answer) ∧ read answer = some value := by
  cases program with
  | perform call next => cases hAnswered
  | done outcome =>
      cases outcome with
      | error error => cases hAnswered
      | ok answer =>
          rcases Option.isSome_iff_exists.mp hAnswered with ⟨value, hValue⟩
          exact ⟨answer, value, rfl, hValue⟩

theorem requests_charged_once_of_sessionRun : ∃ newest earlier,
    sessionRun.world.state "channel" = newest :: earlier ∧
      chargedFor "metered" (newest :: earlier) =
        totalFor newest.record.processedUses "metered" ∧
      7 ≤ chargedFor "metered" (newest :: earlier) ∧ ∃ caller challengeId,
        (meteredSession caller).Asks operatorServer "channel" challengeId "metered"
          (chargedFor "metered" (newest :: earlier)) := by
  have hSome : sessionRun.world.state "channel" ≠ [] := by
    apply List.ne_nil_of_length_pos
    rw [length_sessionRun]
    decide
  have hFits : ∀ held ∈ sessionRun.world.state "channel",
      held.record.processedUses.length < maxProcessedUses := by
    decide +kernel
  have hAnswered : (answered SessionAnswer.charge? (sessionRun.threads 3)).isSome = true := by
    decide +kernel
  rcases List.exists_cons_of_ne_nil hSome with ⟨newest, earlier, hRecords⟩
  rcases done_of_answered hAnswered with ⟨answer, charge, hDone, hCharge⟩
  rw [hRecords] at hFits
  rcases requests_charged_once operatorServer_trusted sessionRun_reachable hRecords hFits
    "metered" with ⟨hTotal, hAsked, hReached⟩
  cases answer with
  | charged charge =>
      have hSeven := hReached 3 meteredUse "operator-key" 7 _ charge rfl rfl rfl hDone
      exact ⟨newest, earlier, hRecords, hTotal, hSeven, hAsked (by omega)⟩
  | _ => cases hCharge

/-! ### Seals -/

/-- The request asks for the parameters of a seal. -/
def SessionRequest.Seals (channelId : String) : SessionRequest → Prop
  | .close payload => payload.channelId = channelId
  | .sealParams asked => asked = channelId
  | _ => False

/-- In every run, the parameters of a seal are those of a record that the store holds. They carry
a voucher that was verified for exactly the channel, the settled watermark and the expiry that
they name, within the deposit; or none, and the chain has paid out as much already. After a close
the voucher is for the watermark that the close fixed. -/
theorem seal_carries_proof (hTrusted : server.Trusted)
    (hRun : server.environment.Reachable (sessionStart server requests) reached)
    {channelId : String} {params : SealParams} (hSeals : (requests caller).Seals channelId)
    (hDone : reached.threads caller = .done (.ok (.sealing params))) :
    ∃ held ∈ reached.world.state channelId,
      Sealing server (knownOf server requests reached.world.history) channelId held.record params ∧
      ∀ payload, requests caller = .close payload → ∃ final,
        held.record.finalCumulative = some final ∧ final ≤ params.settled ∧
          (params.voucherSignature.isSome = true → params.settled = final) := by
  rcases consistent_of_reachable hTrusted hRun with ⟨hConsistent, hAnswers⟩
  have hAnswer := hAnswers caller _ hDone
  cases hRequest : requests caller with
  | close payload =>
      rw [hRequest] at hAnswer hSeals
      cases hSeals
      rcases hAnswer with ⟨state, final, hShown, hSealing, hClosing, hFinal⟩
      rcases hConsistent.shown _ state hShown with ⟨held, hMem, rfl⟩
      refine ⟨held, hMem, hSealing, ?_⟩
      intro _ _
      have hSound := (hConsistent.histories _).sound held hMem
      rcases hSound.fixed final hFinal with ⟨-, hBelow, hAbove⟩
      have hBelowRecord : final ≤ held.record.cumulative := hBelow
      have hAboveRecord : held.record.cumulative ≤ max final held.record.settledOnChain := hAbove
      refine ⟨final, hFinal, hBelowRecord.trans hSealing.reaches, ?_⟩
      intro hVoucher
      rcases hSealing.proof with ⟨hNone, -⟩ | ⟨signature, -, hSettled, -, hUnsettled, -⟩
      · rw [hNone] at hVoucher
        cases hVoucher
      · omega
  | sealParams asked =>
      rw [hRequest] at hAnswer hSeals
      cases hSeals
      rcases hAnswer with ⟨state, hShown, hSealing⟩
      rcases hConsistent.shown _ state hShown with ⟨held, hMem, rfl⟩
      exact ⟨held, hMem, hSealing, fun _ hOther => nomatch hOther⟩
  | _ =>
      rw [hRequest] at hSeals
      exact hSeals.elim

theorem seal_carries_proof_of_sessionRun : ∃ params, ∃ held ∈ sessionRun.world.state "channel",
    Sealing operatorServer (knownOf operatorServer meteredSession sessionRun.world.history)
        "channel" held.record params ∧ ∃ final,
      held.record.finalCumulative = some final ∧ final ≤ params.settled ∧
        (params.voucherSignature.isSome = true → params.settled = final) := by
  have hAnswered : (answered SessionAnswer.params? (sessionRun.threads 4)).isSome = true := by
    decide +kernel
  rcases done_of_answered hAnswered with ⟨answer, params, hDone, hParams⟩
  cases answer with
  | sealing params =>
      have hSeals : (meteredSession 4).Seals "channel" := rfl
      rcases seal_carries_proof operatorServer_trusted sessionRun_reachable hSeals hDone
        with ⟨held, hMem, hSealing, hFinal⟩
      exact ⟨params, held, hMem, hSealing, hFinal _ rfl⟩
  | _ => cases hParams

end PayKit.Session
