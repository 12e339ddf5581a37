import PayKit.BatchSettlement.ClientSession
import PayKit.BatchSettlement.Payment
import PayKit.BatchSettlement.SponsorPolicy

/-!
# Served work and the escrow behind it

The chain's deposit of a channel grows with each setup transaction that lands, once for
each. The record's deposit follows it through reads of the channel account. A request is
served on a voucher that the record's deposit covers, or that it will cover once the setup
transaction has landed that the payload carries.

That promise needs the carried setup to be counted once. The record knows that a landed
setup is counted when it marks its signature as processed, which only the commit of a
payload with a deposit does; a read of the channel account counts it without a mark.
-/

namespace PayKit.BatchSettlement

open Channel Control Encoding Machine Solana Store Tx Voucher

/-! ### The actions of a run -/

/-- How the broadcast of a setup transaction ends. -/
inductive BroadcastEnd where
  | landed
  | landedUnreported
  | notLanded
deriving DecidableEq

/-- A channel on the chain and in a server's store, with the payments in between. -/
structure EscrowState where
  record : Option ChannelState
  /-- The channel's deposit on the chain. -/
  deposit : ℕ
  landed : List CarriedSetup
  /-- What `verify_payment` accepted. -/
  verified : List BatchOutcome
  /-- What was served or resumed, with its reservation. -/
  admitted : List (BatchOutcome × ReservationToken)
  /-- The setups whose broadcast was reported as landed. -/
  reported : List CarriedSetup

namespace EscrowState

variable (state : EscrowState)

/-- The setup transaction lands, for the first time or not. -/
def land (setup : CarriedSetup) : EscrowState :=
  if setup ∈ state.landed then state
  else { state with deposit := state.deposit + setup.amount, landed := setup :: state.landed }

/-- The chain's deposit after the carried setup has landed. -/
def backing (carried : Option CarriedSetup) : ℕ :=
  match carried with
  | none => state.deposit
  | some setup => if setup ∈ state.landed then state.deposit else state.deposit + setup.amount

end EscrowState

inductive EscrowAction where
  | verifyPayment (payment : BatchPayment) (readings : ChainReadings)
  | reserve (outcome : BatchOutcome) (lease : ℕ) (now : ℤ)
  | markHandlerSucceeded (token : ReservationToken)
  | releaseAuthorization (outcome : BatchOutcome)
  | broadcast (outcome : BatchOutcome) (ending : BroadcastEnd)
  | finishCommit (outcome : BatchOutcome) (token : ReservationToken)
      (confirmed : Option OnchainChannel) (now : ℤ) (response : ChannelState → Option Json)
  | observe (update : RecordUpdate)

/-- One action and the state it found. -/
structure EscrowStep where
  before : EscrowState
  action : EscrowAction

section

variable (server : BatchServer) (inPlace : Bool)

/-- `seed_state`, with the receiver binding of an open. -/
def seedState (payment : BatchPayment) (opensChannel : Bool) (now : ℕ) : ChannelState :=
  let seed : ChannelState :=
    { channelId := payment.channelId.display
      authorizedSigner := payment.config.payerAuthorizer
      deposit := 0
      cumulative := 0
      sealed := false
      highestVoucherSignature := none
      highestVoucherExpiresAt := none
      closeRequestedAt := none
      finalCumulative := none
      openSlot := some payment.config.openSlot
      payer := payment.config.payer
      rentPayer := server.feePayer.display
      openingChallengeId := ""
      authentication := none
      voucherSigner := "client"
      idleTimeoutSeconds := none
      lastActivityAt := now
      spentAmount := 0
      settledOnChain := 0
      distributedOnChain := 0
      processedUses := []
      processedTopupSignatures := []
      nextDeliverySequence := 0
      pendingDeliveries := []
      committedDeliveries := []
      pendingSetup := none
      onchainCheckedAt := 0
      lifecycle := none
      schemaVersion := channelStateSchemaVersion
      extra := [] }
  let bound := (seed.setBinding server.deployment.binding).setGracePeriod payment.config.withdrawDelay
  if opensChannel then
    { bound with
      extra := insertMember bound.extra receiverBindingKey (.text server.receiverAuthorizer.display) }
  else bound

namespace BatchOutcome

variable (outcome : BatchOutcome)

/-- The setup that `reserve` stages. -/
def pendingSetup (lease : ℕ) (now : ℤ) : Option PendingSetup :=
  outcome.depositSignature.map fun signature =>
    ⟨signature, outcome.depositAmount, outcome.opensChannel, saturatingAddI64 now (asI64 lease)⟩

def authorizationRequest (lease : ℕ) (now : ℤ) : AuthorizationRequest :=
  ⟨outcome.authorizationId, outcome.requestFingerprint, outcome.chargedAmount,
    outcome.maxClaimable, lease, now⟩

/-- The record that `reserve` works on: only a payload with a deposit may create one. -/
def reservable (record : Option ChannelState) (now : ℤ) : Option ChannelState :=
  record.or (outcome.payment.deposit.map fun _ =>
    seedState server outcome.payment outcome.opensChannel now.toNat)

/-- `reserve`: its answer, and the record it leaves. -/
def reserve (lease : ℕ) (now : ℤ) (record : Option ChannelState) :
    Except StoreError BatchReservation × Option ChannelState :=
  match outcome.reservable server record now with
  | none => (.error (.internal "Channel not found"), record)
  | some state =>
      let staged := state.reserveAuthorizationStaged (outcome.authorizationRequest lease now)
        (stageSetup server.deployment (outcome.pendingSetup lease now))
      match staged.1 with
      | .ok _ => (staged.1, some staged.2)
      | .error _ => (staged.1, if inPlace then some staged.2 else record)

def commit (token : ReservationToken) (confirmed : Option OnchainChannel) (now : ℤ)
    (response : ChannelState → Option Json) : Commit where
  token := token
  voucherSignature := outcome.payment.voucher.signature
  voucherExpiresAt := outcome.payment.voucher.expiresAt
  now := now
  confirmed := confirmed.map OnchainChannel.toConfirmedChannel
  depositSignature := outcome.depositSignature
  rentPayer := server.feePayer.display
  response := response

end BatchOutcome

/-- The record after a store transition that may fail. -/
def keptRecord (state : ChannelState) (result : Except StoreError Unit × ChannelState) :
    ChannelState :=
  match result.1 with
  | .ok () => result.2
  | .error _ => if inPlace then result.2 else state

namespace EscrowAction

/-- The account that an update was read from. -/
def readDeposit : RecordUpdate → ℕ
  | .reconcile onchain _ _ => onchain.deposit
  | .upsertChannel onchain _ _ => onchain.deposit
  | _ => 0

/-- What the code has seen before it takes the action. Reads of the chain return a deposit
that the channel holds already. -/
def Enabled (channelId : Pubkey) (state : EscrowState) : EscrowAction → Prop
  | verifyPayment payment _ => payment.channelId = channelId
  | reserve outcome _ _ => outcome ∈ state.verified ∧ outcome.replay = false
  | markHandlerSucceeded token => ∃ outcome, (outcome, token) ∈ state.admitted
  | releaseAuthorization outcome => ∃ token, (outcome, token) ∈ state.admitted
  | broadcast outcome _ => ∃ token, (outcome, token) ∈ state.admitted
  | finishCommit outcome token confirmed _ _ =>
      (outcome, token) ∈ state.admitted ∧
        match outcome.payment.carriedSetup server.chain with
        | none => confirmed = none
        | some setup =>
            setup ∈ state.reported ∧ ∃ channel, confirmed = some channel ∧
              channel.deposit ≤ state.deposit ∧
              checkChannelBindings server outcome.payment.config outcome.payment.payTo channel
                outcome.maxClaimable = .ok ()
  | observe update =>
      (∀ transition, update ≠ .request transition) ∧ readDeposit update ≤ state.deposit

end EscrowAction

namespace EscrowStep

variable (step : EscrowStep)

/-- The state that the action leaves. -/
def after : EscrowState :=
  let state := step.before
  match step.action with
  | .verifyPayment payment readings =>
      match verifyPayment server payment readings state.record with
      | .ok outcome => { state with verified := outcome :: state.verified }
      | .error _ => state
  | .reserve outcome lease now =>
      let reserved := outcome.reserve server inPlace lease now state.record
      let kept := { state with record := reserved.2 }
      match reserved.1 with
      | .ok (.reserved token) => { kept with admitted := (outcome, token) :: state.admitted }
      | .ok (.handlerSucceeded token) =>
          { kept with admitted := (outcome, token) :: state.admitted }
      | _ => kept
  | .markHandlerSucceeded token =>
      { state with record := state.record.map fun record =>
          keptRecord inPlace record (record.markAuthorizationHandlerSucceeded token) }
  | .releaseAuthorization outcome =>
      { state with record := state.record.map fun record =>
          keptRecord inPlace record (releaseRequest outcome.authorizationId
            outcome.requestFingerprint outcome.depositSignature record) }
  | .broadcast outcome ending =>
      match outcome.payment.carriedSetup server.chain, ending with
      | some setup, .landed =>
          { state.land setup with reported := setup :: state.reported }
      | some setup, .landedUnreported => state.land setup
      | _, _ => state
  | .finishCommit outcome token confirmed now response =>
      { state with record := state.record.map fun record =>
          keptRecord inPlace record (BatchSettlement.finishCommit server.deployment
            (outcome.commit server token confirmed now response) record) }
  | .observe update =>
      { state with record := state.record.map (update.after server.deployment inPlace) }

/-- The payload for which `verify_and_reserve_payment` returns `Serve`. -/
def served : Option BatchOutcome :=
  match step.action with
  | .reserve outcome lease now =>
      match (outcome.reserve server inPlace lease now step.before.record).1 with
      | .ok (.reserved _) => some outcome
      | _ => none
  | _ => none

/-- The carried setup is not in the stored deposit already, or the record marks it as
processed. -/
def CountsOnce : Prop :=
  match step.action with
  | .verifyPayment payment _ =>
      ∀ record ∈ step.before.record, ∀ setup ∈ payment.carriedSetup server.chain,
        setup ∈ step.before.landed →
        (payment.carriedSignature server).any (· ∈ record.processedTopupSignatures) ∨
          record.deposit + setup.amount ≤ step.before.deposit
  | _ => True

end EscrowStep

/-- A run from `start`, newest step first, and the state it ends in. -/
inductive EscrowRun (channelId : Pubkey) (start : EscrowState) :
    List EscrowStep → EscrowState → Prop where
  | start : EscrowRun channelId start [] start
  | step {trace : List EscrowStep} {state : EscrowState} (action : EscrowAction) :
      EscrowRun channelId start trace state → action.Enabled server channelId state →
      EscrowRun channelId start (⟨state, action⟩ :: trace)
        (EscrowStep.after server inPlace ⟨state, action⟩)

end

/-- A run starts with no payment under way and a record that is not ahead of the chain. -/
structure EscrowStart (start : EscrowState) : Prop where
  stored : ∀ record ∈ start.record, record.deposit ≤ start.deposit
  landed : ∀ setup ∈ start.landed, setup.amount ≤ start.deposit
  verified : start.verified = []
  admitted : start.admitted = []
  reported : start.reported = []

/-! ### What a store transition does to the stored deposit -/

section

variable {server : BatchServer} {inPlace : Bool} {state : ChannelState} {bound : ℕ}

theorem commitAuthorization_deposit {token : ReservationToken} {voucherSignature : String}
    {voucherExpiresAt now : ℤ} {response : ChannelState → Option Json} :
    (state.commitAuthorization token voucherSignature voucherExpiresAt now
      response).2.deposit = state.deposit := by
  simp only [ChannelState.commitAuthorization]
  repeat' split
  all_goals rfl

theorem reserveAuthorizationStaged_deposit {request : AuthorizationRequest}
    {stage : ChannelState → Except StoreError (Option PendingSetup)} :
    (state.reserveAuthorizationStaged request stage).2.deposit = state.deposit := by
  simp only [ChannelState.reserveAuthorizationStaged]
  split
  · rfl
  · split <;> rfl

theorem releaseRequest_deposit {authorizationId requestFingerprint : String}
    {depositSignature : Option String} :
    (releaseRequest authorizationId requestFingerprint depositSignature state).2.deposit =
      state.deposit := by
  have hReleased : (state.releaseAuthorization authorizationId requestFingerprint).2.deposit =
      state.deposit := by
    rcases state.releaseAuthorization_cases authorizationId requestFingerprint with
      hSame | ⟨index, -, hRemoved⟩
    · rw [hSame]
    · rw [hRemoved]
  simp only [releaseRequest]
  split
  · rfl
  · rename_i released hCase
    rw [hCase] at hReleased
    split <;> exact hReleased

theorem markHandlerSucceeded_deposit {token : ReservationToken} :
    (state.markAuthorizationHandlerSucceeded token).2.deposit = state.deposit := by
  rcases state.markAuthorizationHandlerSucceeded_cases token with
    ⟨hSame, -⟩ | ⟨index, -, -, hMarked⟩
  · rw [hSame]
  · rw [hMarked]

theorem recordOnchainObservation_deposit (observation : OnchainObservation) (checkedAt : ℕ) :
    (state.recordOnchainObservation observation checkedAt).2.deposit = state.deposit := by
  have hApplied : (state.applyObservedLifecycle observation.lifecycle).deposit = state.deposit := by
    cases observation.lifecycle with
    | opened => rfl
    | closing startedAt => rfl
    | terminal startedAt => cases startedAt <;> rfl
  simp only [ChannelState.recordOnchainObservation]
  split
  · exact hApplied
  · split <;> exact hApplied

theorem sealAt_deposit {now : ℕ} : (sealAt state now).deposit = state.deposit := by
  simp only [sealAt]
  split <;> rfl

theorem completeBinding_deposit {deployment : Deployment} {gracePeriod : ℕ} :
    (completeBinding deployment gracePeriod state).2.deposit = state.deposit := by
  simp only [completeBinding]
  split
  · rfl
  split
  · rfl
  · rename_i adopted hAdopted
    simp only [ChannelState.adoptBinding, bind_eq_ok] at hAdopted
    rcases hAdopted with ⟨recorded, -, hAdopted⟩
    split at hAdopted
    · cases hAdopted
      rfl
    · cases hAdopted
      rfl

theorem finishCommit_deposit {commit : Commit} (hStored : state.deposit ≤ bound)
    (hConfirmed : ∀ channel ∈ commit.confirmed, channel.deposit ≤ bound) :
    (finishCommit server.deployment commit state).2.deposit ≤ bound := by
  have hCommitted : ∀ confirmed : ChannelState, confirmed.deposit ≤ bound →
      (commitConfirmed server.deployment commit confirmed).2.deposit ≤ bound := by
    intro confirmed hWithin
    unfold commitConfirmed
    split
    · exact hWithin
    · rw [commitAuthorization_deposit]
      exact hWithin
  cases hCase : commit.confirmed with
  | none =>
      simp only [finishCommit, hCase]
      exact hCommitted state hStored
  | some channel =>
      simp only [finishCommit, hCase]
      apply hCommitted
      simp only [recordConfirmedSetup, recordOnchainObservation_deposit]
      exact max_le hStored (hConfirmed channel hCase)

/-- An update that follows the chain raises the stored deposit no further than it read. -/
theorem RecordUpdate.after_deposit {update : RecordUpdate}
    (hOther : ∀ transition, update ≠ .request transition) (hStored : state.deposit ≤ bound)
    (hRead : EscrowAction.readDeposit update ≤ bound) :
    (update.after server.deployment inPlace state).deposit ≤ bound := by
  cases update with
  | request transition => exact absurd rfl (hOther transition)
  | reconcile onchain slot now =>
      simp only [after, result, reconcileWith, recordOnchainObservation_deposit]
      exact max_le hStored hRead
  | completeBinding gracePeriod =>
      simp only [after, result, completeBinding_deposit]
      exact hStored
  | upsertChannel onchain depositSignature now => exact max_le hStored hRead
  | recordClose closedAt now => exact hStored
  | recordCooperativeClose completed now => exact hStored
  | recordSettled settled => exact hStored
  | recordRedemption settled distributed now => exact hStored
  | recordFinalized applied now =>
      simp only [after, result, BatchSettlement.recordFinalized, sealAt_deposit]
      exact hStored
  | firstSealedAt now =>
      simp only [after, result, sealAt_deposit]
      exact hStored

end

/-! ### What every step keeps -/

/-- The stored deposit and every landed setup are within the chain's deposit. -/
structure WithinDeposit (state : EscrowState) : Prop where
  stored : ∀ record ∈ state.record, record.deposit ≤ state.deposit
  landed : ∀ setup ∈ state.landed, setup.amount ≤ state.deposit

/-- What was accepted is backed once the carried setup has landed. -/
def Backed (server : BatchServer) (state : EscrowState) : Prop :=
  ∀ outcome ∈ state.verified,
    outcome.maxClaimable ≤ state.backing (outcome.payment.carriedSetup server.chain)

namespace EscrowState

variable {state : EscrowState} {carried : Option CarriedSetup} {setup : CarriedSetup}

theorem deposit_le_backing : state.deposit ≤ state.backing carried := by
  simp only [backing]
  split
  · rfl
  · split <;> omega

theorem land_verified : (state.land setup).verified = state.verified := by
  simp only [land]
  split <;> rfl

theorem land_backing : state.backing carried ≤ (state.land setup).backing carried := by
  simp only [land]
  split
  · rfl
  · rename_i hNew
    cases carried with
    | none => exact Nat.le_add_right _ _
    | some other =>
        simp only [backing, List.mem_cons]
        by_cases hOther : other ∈ state.landed
        · simp [hOther]
        · by_cases hSame : other = setup
          · simp [hSame, hNew]
          · simp [hOther, hSame]

theorem withinDeposit_land (hWithin : WithinDeposit state) : WithinDeposit (state.land setup) := by
  simp only [EscrowState.land]
  split
  · exact hWithin
  · refine ⟨?_, ?_⟩
    · intro record hRecord
      exact (hWithin.stored record hRecord).trans (Nat.le_add_right _ _)
    · intro other hOther
      rcases List.mem_cons.mp hOther with rfl | hOther
      · exact Nat.le_add_left _ _
      · exact (hWithin.landed other hOther).trans (Nat.le_add_right _ _)

end EscrowState

section

variable {server : BatchServer} {inPlace : Bool} {channelId : Pubkey} {step : EscrowStep}
  {start final : EscrowState} {trace : List EscrowStep}

theorem keptRecord_deposit {state : ChannelState} {result : Except StoreError Unit × ChannelState}
    {bound : ℕ} (hStored : state.deposit ≤ bound) (hResult : result.2.deposit ≤ bound) :
    (keptRecord inPlace state result).deposit ≤ bound := by
  simp only [keptRecord]
  split
  · exact hResult
  · split
    · exact hResult
    · exact hStored

theorem seedState_deposit {payment : BatchPayment} {opensChannel : Bool} {now : ℕ} :
    (seedState server payment opensChannel now).deposit = 0 := by
  simp only [seedState]
  split <;> rfl

theorem reserve_deposit {outcome : BatchOutcome} {lease bound : ℕ} {now : ℤ}
    {record : Option ChannelState} (hStored : ∀ state ∈ record, state.deposit ≤ bound) :
    ∀ state ∈ (outcome.reserve server inPlace lease now record).2, state.deposit ≤ bound := by
  cases hFound : outcome.reservable server record now with
  | none =>
      simp only [BatchOutcome.reserve, hFound]
      exact hStored
  | some found =>
      have hWithin : found.deposit ≤ bound := by
        cases record with
        | some state =>
            simp only [BatchOutcome.reservable, Option.some_or, Option.some.injEq] at hFound
            rw [← hFound]
            exact hStored state rfl
        | none =>
            simp only [BatchOutcome.reservable, Option.none_or, Option.map_eq_some_iff] at hFound
            rcases hFound with ⟨deposit, -, hSeed⟩
            rw [← hSeed, seedState_deposit]
            exact Nat.zero_le bound
      have hTaken := @reserveAuthorizationStaged_deposit found
        (outcome.authorizationRequest lease now)
        (stageSetup server.deployment (outcome.pendingSetup lease now))
      intro state hState
      simp only [BatchOutcome.reserve, hFound] at hState
      split at hState
      · cases hState
        rw [hTaken]
        exact hWithin
      · cases inPlace with
        | true =>
            cases hState
            rw [hTaken]
            exact hWithin
        | false => exact hStored state hState

theorem confirmed_deposit {outcome : BatchOutcome} {token : ReservationToken}
    {onchain : OnchainChannel} {now : ℤ} {response : ChannelState → Option Json}
    {state : EscrowState}
    (hEnabled : EscrowAction.Enabled server channelId state
      (.finishCommit outcome token (some onchain) now response)) :
    onchain.deposit ≤ state.deposit := by
  rcases hEnabled with ⟨-, hConfirmed⟩
  split at hConfirmed
  · cases hConfirmed
  · rcases hConfirmed with ⟨-, channel, hChannel, hRead, -⟩
    cases hChannel
    exact hRead

namespace EscrowStep

theorem after_chain (hQuiet : ∀ outcome ending, step.action ≠ .broadcast outcome ending) :
    (step.after server inPlace).deposit = step.before.deposit ∧
      (step.after server inPlace).landed = step.before.landed := by
  rcases step with ⟨before, action⟩
  cases action with
  | verifyPayment payment readings =>
      simp only [after]
      split <;> exact ⟨rfl, rfl⟩
  | reserve outcome lease now =>
      simp only [after]
      split <;> exact ⟨rfl, rfl⟩
  | markHandlerSucceeded token => exact ⟨rfl, rfl⟩
  | releaseAuthorization outcome => exact ⟨rfl, rfl⟩
  | broadcast outcome ending => exact absurd rfl (hQuiet outcome ending)
  | finishCommit outcome token confirmed now response => exact ⟨rfl, rfl⟩
  | observe update => exact ⟨rfl, rfl⟩

theorem after_broadcast {outcome : BatchOutcome} {ending : BroadcastEnd}
    (hBroadcast : step.action = .broadcast outcome ending) :
    (∃ setup reported, step.after server inPlace =
      { step.before.land setup with reported := reported }) ∨
      step.after server inPlace = step.before := by
  rcases step with ⟨before, action⟩
  subst hBroadcast
  cases hCarried : outcome.payment.carriedSetup server.chain with
  | none =>
      simp [after, hCarried]
  | some setup =>
      cases ending with
      | landed =>
          simp only [after, hCarried]
          exact .inl ⟨setup, _, rfl⟩
      | landedUnreported =>
          simp only [after, hCarried]
          exact .inl ⟨setup, _, rfl⟩
      | notLanded =>
          simp [after, hCarried]

theorem after_backing {carried : Option CarriedSetup} :
    step.before.backing carried ≤ (step.after server inPlace).backing carried := by
  by_cases hBroadcast : ∃ outcome ending, step.action = .broadcast outcome ending
  · rcases hBroadcast with ⟨outcome, ending, hBroadcast⟩
    rcases @after_broadcast server inPlace step outcome ending hBroadcast with
      ⟨setup, reported, hAfter⟩ | hAfter
    · rw [hAfter]
      exact EscrowState.land_backing
    · rw [hAfter]
  · rcases @after_chain server inPlace step
      (fun outcome ending hSame => hBroadcast ⟨outcome, ending, hSame⟩) with ⟨hDeposit, hLanded⟩
    simp only [EscrowState.backing, hDeposit, hLanded, le_refl]

theorem after_stored (hWithin : WithinDeposit step.before)
    (hEnabled : step.action.Enabled server channelId step.before) :
    ∀ record ∈ (step.after server inPlace).record,
      record.deposit ≤ (step.after server inPlace).deposit := by
  rcases step with ⟨before, action⟩
  have hStored := hWithin.stored
  cases action with
  | verifyPayment payment readings =>
      simp only [after]
      split <;> exact hStored
  | reserve outcome lease now =>
      have hReserved : ∀ record ∈ (outcome.reserve server inPlace lease now before.record).2,
          record.deposit ≤ before.deposit := reserve_deposit hStored
      simp only [after]
      split <;> exact hReserved
  | markHandlerSucceeded token =>
      intro record hRecord
      rcases Option.mem_map.mp hRecord with ⟨found, hFound, rfl⟩
      apply keptRecord_deposit (hStored found hFound)
      rw [markHandlerSucceeded_deposit]
      exact hStored found hFound
  | releaseAuthorization outcome =>
      intro record hRecord
      rcases Option.mem_map.mp hRecord with ⟨found, hFound, rfl⟩
      apply keptRecord_deposit (hStored found hFound)
      rw [releaseRequest_deposit]
      exact hStored found hFound
  | broadcast outcome ending =>
      rcases @after_broadcast server inPlace ⟨before, .broadcast outcome ending⟩ outcome ending rfl
        with ⟨setup, reported, hAfter⟩ | hAfter
      · rw [hAfter]
        exact (EscrowState.withinDeposit_land hWithin).stored
      · rw [hAfter]
        exact hStored
  | finishCommit outcome token confirmed now response =>
      intro record hRecord
      rcases Option.mem_map.mp hRecord with ⟨found, hFound, rfl⟩
      apply keptRecord_deposit (hStored found hFound)
      refine @finishCommit_deposit server _ _ _ (hStored found hFound) ?_
      intro channel hChannel
      rcases Option.map_eq_some_iff.mp hChannel with ⟨onchain, rfl, rfl⟩
      exact confirmed_deposit hEnabled
  | observe update =>
      intro record hRecord
      rcases Option.mem_map.mp hRecord with ⟨found, hFound, rfl⟩
      exact RecordUpdate.after_deposit hEnabled.1 (hStored found hFound) hEnabled.2

theorem after_withinDeposit (hWithin : WithinDeposit step.before)
    (hEnabled : step.action.Enabled server channelId step.before) :
    WithinDeposit (step.after server inPlace) := by
  refine ⟨after_stored hWithin hEnabled, ?_⟩
  by_cases hBroadcast : ∃ outcome ending, step.action = .broadcast outcome ending
  · rcases hBroadcast with ⟨outcome, ending, hBroadcast⟩
    rcases @after_broadcast server inPlace step outcome ending hBroadcast with
      ⟨setup, reported, hAfter⟩ | hAfter
    · rw [hAfter]
      exact (EscrowState.withinDeposit_land hWithin).landed
    · rw [hAfter]
      exact hWithin.landed
  · rcases @after_chain server inPlace step
      (fun outcome ending hSame => hBroadcast ⟨outcome, ending, hSame⟩) with ⟨hDeposit, hLanded⟩
    rw [hDeposit, hLanded]
    exact hWithin.landed

theorem verifyPayment_backed {payment : BatchPayment} {readings : ChainReadings}
    {state : EscrowState} {outcome : BatchOutcome} (hWithin : WithinDeposit state)
    (hCounts : CountsOnce server ⟨state, .verifyPayment payment readings⟩)
    (hVerified : verifyPayment server payment readings state.record = .ok outcome) :
    outcome.maxClaimable ≤ state.backing (outcome.payment.carriedSetup server.chain) := by
  simp only [verifyPayment, bind_eq_ok] at hVerified
  rcases hVerified with ⟨_, -, hVerified⟩
  cases hDeposit : payment.deposit with
  | none =>
      rw [hDeposit] at hVerified
      rcases verifyVoucher_eq_ok hVerified with ⟨-, record, hRecord, hCap⟩
      exact (hCap.trans (hWithin.stored record hRecord)).trans EscrowState.deposit_le_backing
  | some deposit =>
      rw [hDeposit] at hVerified
      rcases verifyDeposit_eq_ok hDeposit hVerified with
        ⟨rfl, setup, ceiling, hCarried, hCeiling, hCap⟩
      refine hCap.trans ?_
      simp only [hCarried, EscrowState.backing]
      cases hRecord : state.record with
      | none =>
          rw [hRecord] at hCeiling
          cases hCeiling
          split
          · rename_i hLanded
            exact hWithin.landed setup hLanded
          · exact Nat.le_add_left _ _
      | some record =>
          have hStored := hWithin.stored record hRecord
          rw [hRecord] at hCeiling
          split
          · rename_i hLanded
            rcases depositCeiling_eq_ok hCeiling with ⟨-, rfl⟩ | ⟨hUnprocessed, rfl⟩
            · exact hStored
            · rcases hCounts record hRecord setup hCarried hLanded with hProcessed | hUncounted
              · exact absurd hProcessed hUnprocessed
              · exact hUncounted
          · rcases depositCeiling_eq_ok hCeiling with ⟨-, rfl⟩ | ⟨-, rfl⟩
            · omega
            · omega

theorem after_backed (hWithin : WithinDeposit step.before) (hBacked : Backed server step.before)
    (hCounts : step.CountsOnce server) : Backed server (step.after server inPlace) := by
  have hKept : ∀ outcome ∈ step.before.verified,
      outcome.maxClaimable ≤
        (step.after server inPlace).backing (outcome.payment.carriedSetup server.chain) :=
    fun outcome hOutcome => (hBacked outcome hOutcome).trans after_backing
  rcases step with ⟨before, action⟩
  cases action with
  | verifyPayment payment readings =>
      simp only [after]
      split
      · rename_i accepted hVerified
        have hAccepted : accepted.maxClaimable ≤
            before.backing (accepted.payment.carriedSetup server.chain) :=
          verifyPayment_backed hWithin hCounts hVerified
        intro outcome hOutcome
        rcases List.mem_cons.mp hOutcome with rfl | hOutcome
        · exact hAccepted
        · exact hBacked outcome hOutcome
      · exact hBacked
  | reserve outcome lease now =>
      simp only [after]
      split <;> exact hBacked
  | markHandlerSucceeded token => exact hBacked
  | releaseAuthorization outcome => exact hBacked
  | broadcast outcome ending =>
      rcases @after_broadcast server inPlace ⟨before, .broadcast outcome ending⟩ outcome ending rfl
        with ⟨setup, reported, hAfter⟩ | hAfter
      · rw [hAfter] at hKept ⊢
        intro accepted hAccepted
        apply hKept
        rw [← EscrowState.land_verified]
        exact hAccepted
      · rw [hAfter]
        exact hBacked
  | finishCommit outcome token confirmed now response => exact hBacked
  | observe update => exact hBacked

theorem verified_of_served {outcome : BatchOutcome}
    (hEnabled : step.action.Enabled server channelId step.before)
    (hServed : step.served server inPlace = some outcome) : outcome ∈ step.before.verified := by
  rcases step with ⟨before, action⟩
  cases action with
  | reserve reserved lease now =>
      simp only [served] at hServed
      split at hServed
      · cases hServed
        exact hEnabled.1
      · cases hServed
  | _ => cases hServed

end EscrowStep

/-! ### Runs -/

theorem EscrowStart.withinDeposit (hStart : EscrowStart start) : WithinDeposit start :=
  ⟨hStart.stored, hStart.landed⟩

theorem EscrowStart.backed (hStart : EscrowStart start) : Backed server start := by
  intro outcome hOutcome
  rw [hStart.verified] at hOutcome
  cases hOutcome

theorem EscrowRun.withinDeposit (hStart : EscrowStart start)
    (hRun : EscrowRun server inPlace channelId start trace final) : WithinDeposit final := by
  induction hRun with
  | start => exact hStart.withinDeposit
  | step action hRun hEnabled hInduction =>
      exact EscrowStep.after_withinDeposit hInduction hEnabled

theorem EscrowRun.backed (hStart : EscrowStart start)
    (hRun : EscrowRun server inPlace channelId start trace final)
    (hCounts : ∀ step ∈ trace, step.CountsOnce server) : Backed server final := by
  induction hRun with
  | start => exact hStart.backed
  | step action hRun hEnabled hInduction =>
      exact EscrowStep.after_backed (hRun.withinDeposit hStart)
        (hInduction fun step hStep => hCounts step (List.mem_cons_of_mem _ hStep))
        (hCounts _ List.mem_cons_self)

/-- The stored deposit never exceeds the chain's. While every carried setup is counted
once, no request is served for more than the chain's deposit after its setup landed. -/
theorem served_within_escrow (hStart : EscrowStart start)
    (hRun : EscrowRun server inPlace channelId start trace final) :
    (∀ record ∈ final.record, record.deposit ≤ final.deposit) ∧
      ((∀ step ∈ trace, step.CountsOnce server) →
        ∀ step ∈ trace, ∀ outcome, step.served server inPlace = some outcome →
          outcome.maxClaimable ≤
            step.before.backing (outcome.payment.carriedSetup server.chain)) := by
  refine ⟨(hRun.withinDeposit hStart).stored, ?_⟩
  intro hCounts
  induction hRun with
  | start => simp
  | @step trace state action hRun hEnabled hInduction =>
      have hEarlier : ∀ step ∈ trace, step.CountsOnce server :=
        fun step hStep => hCounts step (List.mem_cons_of_mem _ hStep)
      intro step hStep outcome hServed
      rcases List.mem_cons.mp hStep with rfl | hStep
      · exact hRun.backed hStart hEarlier outcome
          (EscrowStep.verified_of_served hEnabled hServed)
      · exact hInduction hEarlier step hStep outcome hServed

end

/-! ### A top-up that is counted twice -/

def escrowMint : Pubkey := .ofConst "EPjFWdd5AufqSSqeM2qN1xzybapC8G4wEGGkZwyTDt1v"

def escrowReceiver : Pubkey := .numbered 4

/-- The channel that the payer opened with the sponsor for the mint. -/
def escrowChannel : Pubkey where
  bytes := [154, 201, 73, 111, 38, 45, 138, 94, 71, 247, 163, 243, 82, 197, 233, 13, 215, 28, 135,
    147, 105, 11, 94, 83, 80, 249, 8, 72, 129, 226, 201, 85]
  length_bytes := rfl

def channelTokenAccount : Pubkey where
  bytes := [223, 213, 223, 245, 177, 197, 124, 108, 74, 85, 75, 195, 233, 16, 233, 68, 192, 85,
    215, 238, 90, 134, 143, 119, 140, 80, 30, 148, 111, 242, 173, 96]
  length_bytes := rfl

/-- The payer's Ed25519 signature of the channel's voucher for 1,000. -/
def escrowSignatureOf1000 : Signature where
  bytes := [57, 148, 254, 213, 196, 158, 22, 177, 172, 198, 116, 239, 35, 224, 116, 105, 62, 1,
    161, 252, 61, 127, 235, 167, 185, 184, 85, 254, 62, 113, 161, 230, 153, 172, 247, 171, 99, 200,
    58, 46, 83, 210, 67, 84, 181, 166, 132, 211, 218, 107, 43, 143, 143, 182, 221, 101, 155, 61,
    57, 144, 246, 104, 179, 8]
  length_bytes := rfl

/-- The payer's Ed25519 signature of the channel's voucher for 2,000. -/
def escrowSignatureOf2000 : Signature where
  bytes := [27, 227, 147, 250, 137, 30, 196, 44, 52, 13, 101, 28, 238, 238, 4, 138, 158, 24, 114,
    127, 85, 56, 17, 133, 117, 206, 128, 207, 8, 47, 166, 181, 30, 102, 237, 4, 42, 124, 56, 141,
    180, 181, 44, 79, 82, 217, 156, 119, 76, 144, 135, 166, 96, 130, 53, 246, 197, 37, 2, 157, 36,
    152, 179, 1]
  length_bytes := rfl

/-- The payer's Ed25519 signature of the top-up. -/
def topUpSignature : Signature where
  bytes := [126, 116, 56, 44, 89, 132, 181, 215, 93, 142, 213, 187, 50, 118, 15, 196, 86, 190, 95,
    153, 228, 255, 171, 175, 248, 187, 143, 186, 186, 181, 108, 79, 176, 5, 61, 247, 201, 45, 172,
    251, 0, 136, 166, 230, 252, 8, 118, 90, 200, 146, 6, 243, 140, 206, 165, 158, 97, 163, 26, 186,
    93, 240, 10, 4]
  length_bytes := rfl

/-- The three signatures in base 58. -/
def escrowSignatures : List (Signature × String) := [
  (escrowSignatureOf1000,
    "29moUNQMNBVNkAvCqkncJgRc6kTaKMyoM3rQ97tckvHEhVvQkqVTZPYgYgj8rUsAQjQHZhTnegaVhFPoAwGhfMiX"),
  (escrowSignatureOf2000,
    "ZLjVgrFC1YeBo44PXrFjbcmfYFnMtEPdQd7vDpj1JWC1EDR5AB5LWtCLFE8zJqUHzsdF9ch3t3pFWUoXnvdNrPz"),
  (topUpSignature,
    "3Xdw5z49yjRJe5yBS4hE79yGr8NShywNj9YXnNEJqDRW8HAs5LSU57BDFyzjEZMow9MM6VGnQXm16hLbaJMoy4HR")]

/-- The codecs, and the curve on the three signatures. -/
def escrowCurve : Ed25519 where
  encode64 signature := (escrowSignatures.lookup signature).getD ""
  decode64 text := okOr ((escrowSignatures.find? (·.2 = text)).map Prod.fst) "InvalidChar"
  decode32 text := (Pubkey.fromStr text).mapError ParsePubkeyError.display
  checkKey _ := .ok ()
  verifyStrict key message signature := key = payerKey ∧
    ((message = voucherMessageBytes escrowChannel 1000 0 ∧ signature = escrowSignatureOf1000) ∨
      (message = voucherMessageBytes escrowChannel 2000 0 ∧ signature = escrowSignatureOf2000))

/-- A unit price, a top-up of 1,000 and a nonce memo, signed by the payer. -/
def topUpTransaction : VersionedTransaction where
  signatures := [Signature.default, topUpSignature]
  message := .v0
    { header := ⟨2, 0, 5⟩
      accountKeys := [closeSponsor, payerKey, escrowChannel, payerTokenAccount,
        channelTokenAccount, escrowMint, tokenProgram, paymentChannelsProgram, memoProgram,
        computeBudgetProgram]
      recentBlockhash := List.replicate 32 0
      instructions := [
        ⟨9, [], [3, 232, 3, 0, 0, 0, 0, 0, 0]⟩,
        ⟨7, [1, 2, 3, 4, 5, 6], [3, 232, 3, 0, 0, 0, 0, 0, 0]⟩,
        ⟨8, [], asBytes "0123456789abcdef0123456789abcdef"⟩] }
    []

/-- The Solana crates on the top-up. -/
def escrowChain : Chain where
  decode text :=
    if text = "top_up" then .ok topUpTransaction else .error "invalid base64"
  serializedSize tx := .ok (1 + 64 * tx.signatures.length + (serializeSmall tx.message).length)
  serialize := serializeSmall
  verify signature key bytes :=
    signature = topUpSignature ∧ key = payerKey ∧ bytes = serializeSmall topUpTransaction.message
  findProgramAddress seeds program :=
    if seeds = [payerKey.bytes, tokenProgram.bytes, escrowMint.bytes] then payerTokenAccount
    else if seeds = [escrowChannel.bytes, tokenProgram.bytes, escrowMint.bytes] then
      channelTokenAccount
    else program

def escrowServer : BatchServer where
  deployment := batchDeployment
  chain := escrowChain
  curve := escrowCurve
  programId := paymentChannelsProgram
  feePayer := closeSponsor
  tokenProgram := tokenProgram
  receiverAuthorizer := closeSponsor
  memo := none
  acceptedVersions := [.v0]
  distributionHash := Pubkey.bytes

def escrowPayment (maxClaimable : String) (signature : Signature)
    (deposit : Option BatchDeposit) : BatchPayment where
  config := {
    payer := payerKey.display
    payerAuthorizer := payerKey.display
    token := escrowMint.display
    withdrawDelay := 900
    salt := "7"
    openSlot := 42 }
  channelId := escrowChannel
  payTo := escrowReceiver.display
  envelope := .ok ()
  charge := 1000
  voucher := ⟨escrowChannel.display, maxClaimable, 0, escrowCurve.encode64 signature⟩
  deposit := deposit
  fingerprint signature := signature

def topUpOf1000 : BatchDeposit := ⟨"1000", "top_up"⟩

def firstPayment : BatchPayment := escrowPayment "1000" escrowSignatureOf1000 (some topUpOf1000)

/-- The first request again, as a voucher alone. -/
def retriedPayment : BatchPayment := escrowPayment "1000" escrowSignatureOf1000 none

/-- The second request, with the same top-up. -/
def secondPayment : BatchPayment := escrowPayment "2000" escrowSignatureOf2000 (some topUpOf1000)

def escrowReadings : ChainReadings where
  onchain := .ok true
  mintOwner := .ok ()
  settlementAccounts := .ok ()
  recentSlot := none
  depositCanLand := .ok ()

def escrowOnchain (deposit : ℕ) : OnchainChannel where
  deposit := deposit
  settled := 0
  payoutWatermark := 0
  openSlot := 42
  gracePeriod := 900
  status := channelStatusOpen
  closureStartedAt := 0
  payer := payerKey
  payee := closeSponsor
  rentPayer := closeSponsor
  authorizedSigner := payerKey
  mint := escrowMint
  distributionHash := escrowReceiver.bytes

/-- The channel was opened with a deposit of 500. -/
def escrowStart : EscrowState where
  record := some (recordConfirmedSetup (seedState escrowServer firstPayment true 100)
    (escrowOnchain 500).toConfirmedChannel closeSponsor.display 100 (some "open"))
  deposit := 500
  landed := []
  verified := []
  admitted := []
  reported := []

/-- The outcome of a payment that is no replay. -/
def escrowOutcome (payment : BatchPayment) (maxClaimable : ℕ) : BatchOutcome where
  payment := payment
  replay := false
  chargedAmount := 1000
  maxClaimable := maxClaimable
  depositSignature := payment.deposit.map fun _ => escrowCurve.encode64 topUpSignature
  opensChannel := false

theorem checkVoucherOf_1000 {deposit : Option BatchDeposit} :
    checkVoucherOf escrowServer (escrowPayment "1000" escrowSignatureOf1000 deposit) =
      .ok 1000 := by
  have hChecked : checkVoucherOf escrowServer (escrowPayment "1000" escrowSignatureOf1000 none) =
      .ok 1000 := by
    decide
  exact hChecked

theorem checkVoucherOf_2000 {deposit : Option BatchDeposit} :
    checkVoucherOf escrowServer (escrowPayment "2000" escrowSignatureOf2000 deposit) =
      .ok 2000 := by
  have hChecked : checkVoucherOf escrowServer (escrowPayment "2000" escrowSignatureOf2000 none) =
      .ok 2000 := by
    decide
  exact hChecked

theorem validateSetup_topUp {recentSlot : Option ℕ} :
    ∃ payer, validateSetup escrowChain topUpTransaction .topUp
      (expectations escrowServer firstPayment.config escrowChannel escrowReceiver) 1000
      recentSlot = .ok ⟨topUpTransaction, payer⟩ := by
  have hAccepted : (validateSetup escrowChain topUpTransaction .topUp
      (expectations escrowServer firstPayment.config escrowChannel escrowReceiver) 1000
      none).isOk := by
    decide +kernel
  cases hValidated : validateSetup escrowChain topUpTransaction .topUp
      (expectations escrowServer firstPayment.config escrowChannel escrowReceiver) 1000 none with
  | error error =>
      rw [hValidated] at hAccepted
      cases hAccepted
  | ok validated =>
      have hTransaction := validateSetup_transaction hValidated
      rcases validated with ⟨transaction, payer⟩
      simp only at hTransaction
      subst hTransaction
      exact ⟨payer, hValidated⟩

theorem setupForm_topUp :
    setupFormFromTransaction escrowChain "top_up" paymentChannelsProgram = .ok .topUp := by
  decide

theorem checkSetup_topUp {maxClaimable : String} {signature : Signature}
    {stored : Option ChannelState} :
    ∃ payer, checkSetup escrowServer (escrowPayment maxClaimable signature (some topUpOf1000))
      escrowReadings stored topUpOf1000 .topUp 1000 = .ok ⟨topUpTransaction, payer⟩ := by
  have hReceiver : parsePubkey escrowReceiver.display = .ok escrowReceiver := by decide
  have hDecoded : ∀ label, decodeTransaction escrowChain topUpOf1000.transaction label =
      .ok topUpTransaction := fun label => rfl
  rcases @validateSetup_topUp none with ⟨payer, hValidated⟩
  refine ⟨payer, ?_⟩
  simp only [checkSetup, bind_eq_ok, mapError_eq_ok]
  refine ⟨escrowReceiver, hReceiver, (), rfl, (), rfl, topUpTransaction, hDecoded _, true, rfl, ?_⟩
  simp only [validateSetupTransaction, bind_eq_ok]
  exact ⟨topUpTransaction, hDecoded _, hValidated⟩

theorem verifyPayment_topUp {maxClaimable : String} {signature : Signature}
    {stored : Option ChannelState} {claimable ceiling : ℕ}
    (hVoucher : checkVoucherOf escrowServer
      (escrowPayment maxClaimable signature (some topUpOf1000)) = .ok claimable)
    (hStored : checkStored escrowServer
      (escrowPayment maxClaimable signature (some topUpOf1000)) stored claimable = .ok false)
    (hCeiling : depositCeiling stored 1000 (some (escrowCurve.encode64 topUpSignature)) =
      .ok ceiling)
    (hCap : claimable ≤ ceiling) (hSome : stored.isSome) :
    verifyPayment escrowServer (escrowPayment maxClaimable signature (some topUpOf1000))
        escrowReadings stored =
      .ok (escrowOutcome (escrowPayment maxClaimable signature (some topUpOf1000)) claimable) := by
  have hPresent : ¬(stored.isNone ∧ true = true) := by
    rintro ⟨hNone, -⟩
    rw [Option.isNone_iff_eq_none] at hNone
    rw [hNone] at hSome
    cases hSome
  have hAmount : topUpOf1000.parsedAmount = .ok 1000 := by decide
  have hForm : setupFormFromTransaction escrowServer.chain topUpOf1000.transaction
      escrowServer.programId = .ok .topUp := setupForm_topUp
  have hSignature : payerSignature escrowServer.curve topUpTransaction =
      some (escrowCurve.encode64 topUpSignature) := rfl
  have hLanding : ∀ recorded, checkLanding escrowReadings stored recorded = .ok () := by
    intro recorded
    simp only [checkLanding]
    split <;> rfl
  rcases @checkSetup_topUp maxClaimable signature stored with ⟨payer, hSetup⟩
  have hVerified : verifyDeposit escrowServer
      (escrowPayment maxClaimable signature (some topUpOf1000)) escrowReadings topUpOf1000 stored =
        .ok (escrowOutcome (escrowPayment maxClaimable signature (some topUpOf1000))
          claimable) := by
    simp only [verifyDeposit, bind_eq_ok, mapError_eq_ok, refuseIf_eq_ok]
    exact ⟨claimable, hVoucher, true, rfl, (), hPresent, 1000, hAmount, .topUp, hForm, false,
      hStored, _, hSetup, (), hLanding _, ceiling, hCeiling, (),
      checkDepositCap_eq_ok.mpr hCap, rfl⟩
  exact hVerified

theorem verifyPayment_retried {stored : Option ChannelState}
    (hBinding : checkStoredBinding escrowServer stored = .ok ())
    (hStored : stored.any fun state => checkChannelOpen state.sealed state.closeRequestedAt.isSome =
      .ok () ∧ checkWatermark state.cumulative state.highestVoucherSignature
        retriedPayment.voucher 1000 1000 = .ok false ∧ 1000 ≤ state.deposit) :
    verifyPayment escrowServer retriedPayment escrowReadings stored =
      .ok (escrowOutcome retriedPayment 1000) := by
  have hVoucher : checkVoucherOf escrowServer retriedPayment = .ok 1000 := checkVoucherOf_1000
  cases stored with
  | none => cases hStored
  | some state =>
      simp only [Option.any_some, decide_eq_true_eq] at hStored
      rcases hStored with ⟨hOpen, hFresh, hCap⟩
      have hVerified : verifyVoucher escrowServer retriedPayment (some state) =
          .ok (escrowOutcome retriedPayment 1000) := by
        simp only [verifyVoucher, bind_eq_ok, okOr_eq_ok]
        exact ⟨(), hBinding, state, rfl, (), hOpen, 1000, hVoucher, false, hFresh, (),
          checkDepositCap_eq_ok.mpr hCap, rfl⟩
      exact hVerified

theorem EscrowRun.next {server : BatchServer} {inPlace : Bool} {channelId : Pubkey}
    {start state : EscrowState} {trace : List EscrowStep}
    (hRun : EscrowRun server inPlace channelId start trace state) (action : EscrowAction)
    (next : EscrowState) (hEnabled : action.Enabled server channelId state)
    (hAfter : EscrowStep.after server inPlace ⟨state, action⟩ = next) :
    EscrowRun server inPlace channelId start (⟨state, action⟩ :: trace) next := by
  rw [← hAfter]
  exact .step action hRun hEnabled

theorem EscrowStep.after_verified {server : BatchServer} {inPlace : Bool} {state : EscrowState}
    {payment : BatchPayment} {readings : ChainReadings} {outcome : BatchOutcome}
    (hVerified : verifyPayment server payment readings state.record = .ok outcome) :
    EscrowStep.after server inPlace ⟨state, .verifyPayment payment readings⟩ =
      { state with verified := outcome :: state.verified } := by
  simp only [after, hVerified]

def topUpSetup : CarriedSetup := ⟨topUpTransaction.message, 1000⟩

theorem carriedSetup_topUp {maxClaimable : String} {signature : Signature} :
    (escrowPayment maxClaimable signature (some topUpOf1000)).carriedSetup escrowServer.chain =
      some topUpSetup := by
  have hAmount : (⟨"1000", "top_up"⟩ : BatchDeposit).parsedAmount = .ok 1000 := by decide
  simp [BatchPayment.carriedSetup, BatchPayment.carriedTransaction, escrowPayment, hAmount,
    topUpSetup, escrowServer, escrowChain, topUpOf1000, Except.toOption]

/-- Whether a reservation answers with a token, fresh or of a handler that succeeded. -/
def answersWith (answer : Except StoreError BatchReservation) (fresh : Bool)
    (token : ReservationToken) : Bool :=
  match answer with
  | .ok (.reserved reserved) => fresh && reserved = token
  | .ok (.handlerSucceeded succeeded) => !fresh && succeeded = token
  | _ => false

theorem reserved_of_answersWith {answer : Except StoreError BatchReservation}
    {token : ReservationToken} (hAnswer : answersWith answer true token) :
    answer = .ok (.reserved token) := by
  simp only [answersWith] at hAnswer
  split at hAnswer
  · simpa using hAnswer
  · cases hAnswer
  · cases hAnswer

theorem handlerSucceeded_of_answersWith {answer : Except StoreError BatchReservation}
    {token : ReservationToken} (hAnswer : answersWith answer false token) :
    answer = .ok (.handlerSucceeded token) := by
  simp only [answersWith] at hAnswer
  split at hAnswer
  · cases hAnswer
  · simpa using hAnswer
  · cases hAnswer

def firstOutcome : BatchOutcome := escrowOutcome firstPayment 1000

def firstToken : ReservationToken :=
  ⟨firstOutcome.authorizationId, firstOutcome.requestFingerprint, 1000, 1⟩

def verifiedState : EscrowState := { escrowStart with verified := [firstOutcome] }

def servedState : EscrowState :=
  { verifiedState with
    record := (firstOutcome.reserve escrowServer true 300 200 escrowStart.record).2
    admitted := [(firstOutcome, firstToken)] }

/-- The runs of the first request up to its serving. -/
def servedTrace : List EscrowStep := [
  ⟨verifiedState, .reserve firstOutcome 300 200⟩,
  ⟨escrowStart, .verifyPayment firstPayment escrowReadings⟩]

theorem escrowStart_isStart : EscrowStart escrowStart where
  stored := by
    intro record hRecord
    cases hRecord
    decide
  landed := by simp [escrowStart]
  verified := rfl
  admitted := rfl
  reported := rfl

theorem firstOutcome_reserved :
    (firstOutcome.reserve escrowServer true 300 200 escrowStart.record).1 =
      .ok (.reserved firstToken) :=
  reserved_of_answersWith (by decide)

theorem servedRun :
    EscrowRun escrowServer true escrowChannel escrowStart servedTrace servedState := by
  have hVerified : verifyPayment escrowServer firstPayment escrowReadings escrowStart.record =
      .ok firstOutcome :=
    verifyPayment_topUp checkVoucherOf_1000 (by decide)
      (show _ = Except.ok 1500 by decide) (by decide) rfl
  have hFirst : EscrowRun escrowServer true escrowChannel escrowStart
      [⟨escrowStart, .verifyPayment firstPayment escrowReadings⟩] verifiedState :=
    EscrowRun.next .start _ _ rfl (EscrowStep.after_verified hVerified)
  refine hFirst.next _ _ ⟨List.mem_singleton_self _, rfl⟩ ?_
  have hReserved : (firstOutcome.reserve escrowServer true 300 200 verifiedState.record).1 =
      .ok (.reserved firstToken) := firstOutcome_reserved
  simp only [EscrowStep.after, hReserved]
  rfl

theorem served_within_escrow_of_servedRun :
    firstOutcome.maxClaimable = 1000 ∧
      firstOutcome.maxClaimable ≤ verifiedState.backing (some topUpSetup) := by
  refine ⟨rfl, ?_⟩
  have hCounts : ∀ step ∈ servedTrace, step.CountsOnce escrowServer := by
    intro step hStep
    rcases List.mem_pair.mp hStep with rfl | rfl
    · trivial
    · intro record hRecord setup hSetup hLanded
      cases hLanded
  have hServed : EscrowStep.served escrowServer true
      ⟨verifiedState, .reserve firstOutcome 300 200⟩ = some firstOutcome := by
    have hReserved : (firstOutcome.reserve escrowServer true 300 200 verifiedState.record).1 =
        .ok (.reserved firstToken) := firstOutcome_reserved
    simp only [EscrowStep.served, hReserved]
  have hBacked := (served_within_escrow escrowStart_isStart servedRun).2 hCounts _
    List.mem_cons_self firstOutcome hServed
  have hCarried : firstOutcome.payment.carriedSetup escrowServer.chain = some topUpSetup :=
    carriedSetup_topUp
  rw [hCarried] at hBacked
  exact hBacked

def retriedOutcome : BatchOutcome := escrowOutcome retriedPayment 1000

def secondOutcome : BatchOutcome := escrowOutcome secondPayment 2000

def secondToken : ReservationToken :=
  ⟨secondOutcome.authorizationId, secondOutcome.requestFingerprint, 2000, 2⟩

def handledState : EscrowState :=
  { servedState with
    record := servedState.record.map fun record =>
      keptRecord true record (record.markAuthorizationHandlerSucceeded firstToken) }

/-- The top-up landed, but its broadcast failed. -/
def landedState : EscrowState :=
  { handledState with
    deposit := 1500
    landed := [topUpSetup] }

def topUpRead : RecordUpdate := .reconcile (escrowOnchain 1500) 50 300

/-- A read of the channel account recorded the deposit. -/
def reconciledState : EscrowState :=
  { landedState with
    record := landedState.record.map (topUpRead.after escrowServer.deployment true) }

def retriedState : EscrowState :=
  { reconciledState with verified := [retriedOutcome, firstOutcome] }

def resumedState : EscrowState :=
  { retriedState with
    record := (retriedOutcome.reserve escrowServer true 300 310 reconciledState.record).2
    admitted := [(retriedOutcome, firstToken), (firstOutcome, firstToken)] }

/-- The retry committed the first request, without its setup. -/
def committedState : EscrowState :=
  { resumedState with
    record := resumedState.record.map fun record =>
      keptRecord true record (finishCommit escrowServer.deployment
        (retriedOutcome.commit escrowServer firstToken none 320 fun _ => none) record) }

def representedState : EscrowState :=
  { committedState with verified := [secondOutcome, retriedOutcome, firstOutcome] }

/-- The first request is served, its top-up lands unreported and is read from the chain,
and the request is retried as a voucher; the second request carries the top-up again. -/
def representedTrace : List EscrowStep := [
  ⟨committedState, .verifyPayment secondPayment escrowReadings⟩,
  ⟨resumedState, .finishCommit retriedOutcome firstToken none 320 fun _ => none⟩,
  ⟨retriedState, .reserve retriedOutcome 300 310⟩,
  ⟨reconciledState, .verifyPayment retriedPayment escrowReadings⟩,
  ⟨landedState, .observe topUpRead⟩,
  ⟨handledState, .broadcast firstOutcome .landedUnreported⟩,
  ⟨servedState, .markHandlerSucceeded firstToken⟩] ++ servedTrace

theorem landedRun :
    EscrowRun escrowServer true escrowChannel escrowStart (representedTrace.drop 5)
      landedState := by
  have hCarried : firstOutcome.payment.carriedSetup escrowServer.chain = some topUpSetup :=
    carriedSetup_topUp
  have hHandled := servedRun.next (.markHandlerSucceeded firstToken) handledState
    ⟨firstOutcome, List.mem_singleton_self _⟩ rfl
  refine hHandled.next _ _ ⟨firstToken, List.mem_singleton_self _⟩ ?_
  simp only [EscrowStep.after, hCarried]
  rfl

theorem resumedRun :
    EscrowRun escrowServer true escrowChannel escrowStart (representedTrace.drop 2)
      resumedState := by
  have hVerified : verifyPayment escrowServer retriedPayment escrowReadings
      reconciledState.record = .ok retriedOutcome :=
    verifyPayment_retried (by decide) (by decide)
  have hResumed : (retriedOutcome.reserve escrowServer true 300 310 retriedState.record).1 =
      .ok (.handlerSucceeded firstToken) :=
    handlerSucceeded_of_answersWith (by decide)
  have hReconciled := landedRun.next (.observe topUpRead) reconciledState
    ⟨nofun, Nat.le_refl 1500⟩ rfl
  have hRetried := hReconciled.next (.verifyPayment retriedPayment escrowReadings) retriedState
    rfl (EscrowStep.after_verified hVerified)
  refine hRetried.next _ _ ⟨List.mem_cons_self, rfl⟩ ?_
  simp only [EscrowStep.after, hResumed]
  rfl

theorem representedRun :
    EscrowRun escrowServer true escrowChannel escrowStart representedTrace representedState := by
  have hVerified : verifyPayment escrowServer secondPayment escrowReadings
      committedState.record = .ok secondOutcome :=
    verifyPayment_topUp checkVoucherOf_2000 (by decide)
      (show _ = Except.ok 2500 by decide) (by decide) (by decide)
  have hCommitted := resumedRun.next
    (.finishCommit retriedOutcome firstToken none 320 fun _ => none) committedState
    ⟨List.mem_cons_self, rfl⟩ rfl
  exact hCommitted.next (.verifyPayment secondPayment escrowReadings) _ rfl
    (EscrowStep.after_verified hVerified)

/-- The second request is served for 2,000 over a deposit of 1,500 that the top-up is in. -/
theorem represented_topUp_serves_over_deposit :
    ¬∀ (server : BatchServer) (inPlace : Bool) (channelId : Pubkey) (start final : EscrowState)
      (trace : List EscrowStep), EscrowStart start →
      EscrowRun server inPlace channelId start trace final →
      ∀ step ∈ trace, ∀ outcome, step.served server inPlace = some outcome →
        outcome.maxClaimable ≤
          step.before.backing (outcome.payment.carriedSetup server.chain) := by
  intro hBacked
  have hReserved : (secondOutcome.reserve escrowServer true 300 400 representedState.record).1 =
      .ok (.reserved secondToken) :=
    reserved_of_answersWith (by decide)
  have hRun := EscrowRun.step (.reserve secondOutcome 300 400) representedRun
    ⟨List.mem_cons_self, rfl⟩
  have hServed : EscrowStep.served escrowServer true
      ⟨representedState, .reserve secondOutcome 300 400⟩ = some secondOutcome := by
    simp only [EscrowStep.served, hReserved]
  have hWithin := hBacked _ _ _ _ _ _ escrowStart_isStart hRun _ List.mem_cons_self _ hServed
  have hCarried : secondOutcome.payment.carriedSetup escrowServer.chain = some topUpSetup :=
    carriedSetup_topUp
  rw [hCarried] at hWithin
  have hBacking : representedState.backing (some topUpSetup) = 1500 := by decide
  rw [hBacking] at hWithin
  exact absurd hWithin (by decide)

end PayKit.BatchSettlement
