import PayKit.BatchSettlement.Error
import PayKit.Channel.Authorization
import PayKit.Channel.Binding

/-!
# The transitions of the batch-settlement server

What `x402/server/batch_settlement.rs` does to a channel record, one store transition at
a time: requests reserve, mark, commit and release their authorizations, and the two ways
to close a channel choose the amount to seal it at.

A transition that the source runs in place on the stored record returns the record it
leaves, also when it fails.
-/

namespace PayKit.BatchSettlement

open Channel Control Encoding Machine Store

/-! ### Requests -/

structure Deployment where
  binding : ChannelBinding
  withdrawDelay : ℕ
  readBinding : Json → Except String ChannelBinding

/-- What the server reads from a confirmed channel. -/
structure ConfirmedChannel where
  deposit : ℕ
  settled : ℕ
  payoutWatermark : ℕ
  openSlot : ℕ
  gracePeriod : ℕ

/-- A request's carried setup, against a setup that is already pending: another setup
transaction in flight would be credited twice. -/
def stageSetup (deployment : Deployment) (setup : Option PendingSetup) (state : ChannelState) :
    Except StoreError (Option PendingSetup) := do
  state.checkBindingComplete deployment.readBinding deployment.binding
  state.checkGracePeriod deployment.withdrawDelay
  match state.pendingSetup, setup with
  | some current, some setup =>
      if current.payerSignature ≠ setup.payerSignature then
        .error (.internal s!"channel {state.channelId} already has a pending setup transaction")
      else .ok (some setup)
  | _, setup => .ok setup

/-- What `finish_commit` records of a confirmed setup transaction. -/
def recordConfirmedSetup (state : ChannelState) (channel : ConfirmedChannel) (rentPayer : String)
    (now : ℤ) (depositSignature : Option String) : ChannelState :=
  let confirmed := { state with
    deposit := max state.deposit channel.deposit
    settledOnChain := max state.settledOnChain channel.settled
    distributedOnChain := max state.distributedOnChain channel.payoutWatermark
    openSlot := some channel.openSlot }
  let observed := ({ confirmed.setGracePeriod channel.gracePeriod with
    rentPayer := rentPayer }.recordOnchainObservation ⟨none, .opened⟩ (max now 0).toNat).2
  { observed with
    pendingSetup := none
    processedTopupSignatures :=
      match depositSignature with
      | none => observed.processedTopupSignatures
      | some signature =>
          if signature ∈ observed.processedTopupSignatures then observed.processedTopupSignatures
          else observed.processedTopupSignatures ++ [signature] }

/-- A commit: the token of its reservation, its voucher, and the channel that its carried
setup transaction was confirmed on. -/
structure Commit where
  token : ReservationToken
  voucherSignature : String
  voucherExpiresAt : ℤ
  now : ℤ
  confirmed : Option ConfirmedChannel
  depositSignature : Option String
  rentPayer : String
  response : ChannelState → Option Json

/-- The commit on the record with the confirmed setup. -/
def commitConfirmed (deployment : Deployment) (commit : Commit) (confirmed : ChannelState) :
    Except StoreError Unit × ChannelState :=
  match confirmed.checkBindingComplete deployment.readBinding deployment.binding with
  | .error error => (.error error, confirmed)
  | .ok () =>
      { confirmed with lastActivityAt := (max commit.now 0).toNat }.commitAuthorization commit.token
        commit.voucherSignature commit.voucherExpiresAt commit.now commit.response

/-- The store transition of `finish_commit`. -/
def finishCommit (deployment : Deployment) (commit : Commit) (state : ChannelState) :
    Except StoreError Unit × ChannelState :=
  match commit.confirmed with
  | none => commitConfirmed deployment commit state
  | some channel => commitConfirmed deployment commit
      (recordConfirmedSetup state channel commit.rentPayer commit.now commit.depositSignature)

/-- The store transition of `release_authorization`: only the request's own setup
transaction is dropped. -/
def releaseRequest (authorizationId requestFingerprint : String)
    (depositSignature : Option String) (state : ChannelState) :
    Except StoreError Unit × ChannelState :=
  match state.releaseAuthorization authorizationId requestFingerprint with
  | (.error error, _) => (.error error, state)
  | (.ok (), released) =>
      if released.pendingSetup.map PendingSetup.payerSignature = depositSignature then
        (.ok (), { released with pendingSetup := none })
      else (.ok (), released)

/-! ### Closes -/

/-- What the finalizer does for a closing channel. -/
inductive GraceSealPlan where
  | inFlight
  | nothingToApply
  | apply (cumulative : ℕ) (signature : String) (expiresAt : ℤ)
  | sealFrozen
deriving DecidableEq

def graceSealPlan (state : ChannelState) (onchainSettled : ℕ) (pastDeadline : Bool) (now : ℤ) :
    GraceSealPlan :=
  if state.hasBlockingAuthorization now then .inFlight
  else if pastDeadline then .sealFrozen
  else
    match state.highestVoucherSignature with
    | none => .nothingToApply
    | some signature =>
        if state.cumulative ≤ onchainSettled then .nothingToApply
        else .apply state.cumulative signature (state.highestVoucherExpiresAt.getD 0)

/-- The time a close started: of the chain, or else of the clock. -/
def closeTime (closureStartedAt : ℤ) (clock : ℕ) : ℕ :=
  if 0 ≤ closureStartedAt then closureStartedAt.toNat else clock

/-- The store transition of `plan_close`: record the close and choose, and fence the
watermark when the choice is to seal. -/
def planClose (closureStartedAt : ℤ) (clock onchainSettled : ℕ) (pastDeadline : Bool) (now : ℤ)
    (state : ChannelState) : GraceSealPlan × ChannelState :=
  let closing := state.requestClose (closeTime closureStartedAt clock)
  let plan := graceSealPlan closing onchainSettled pastDeadline now
  match plan with
  | .apply cumulative _ _ => (plan, closing.freezeWatermarkAt cumulative)
  | .sealFrozen => (plan, closing.freezeWatermarkAt onchainSettled)
  | .inFlight => (plan, closing)
  | .nothingToApply => (plan, closing)

def closeRefusal (detail : String) : StoreError :=
  .internal (errors.invalidCloseState ++ ": " ++ detail)

/-- The store transition of `fence_cooperative_close`. -/
def fenceCooperativeClose (cumulative now : ℕ) (state : ChannelState) :
    Except StoreError Unit × ChannelState :=
  if state.hasBlockingAuthorization (asI64 now) then
    (.error (closeRefusal s!"channel {state.channelId} has a paid request in flight"), state)
  else if state.cumulative ≠ cumulative then
    (.error (closeRefusal
      s!"accepted cumulative moved to {state.cumulative} since the refund was verified"), state)
  else
    match state.finalCumulative with
    | some frozen =>
        if frozen ≠ cumulative then
          (.error (closeRefusal s!"channel {state.channelId} is already closing at {frozen}"),
            state)
        else (.ok (), (state.requestClose now).freezeWatermarkAt cumulative)
    | none => (.ok (), (state.requestClose now).freezeWatermarkAt cumulative)

end PayKit.BatchSettlement
