import PayKit.Concurrency.Ensures
import PayKit.Session.MeteredDelivery
import PayKit.Session.OpenFlow
import PayKit.Solana.Pubkey

/-!
# The request server of sessions

`SessionServer` of `mpp/server/session.rs` as programs of awaited calls: opening and resuming a
channel, the charges (vouchers, `use` proofs, metered operator charges), metered deliveries,
top-ups, the cooperative close and the parameters of the seal.

An update of the store runs its closure under the lock of the record, and the closure reads the
clock there, so that an updater is given the time. It returns what the source captures, with the
new record. The updaters of `accept_voucher`, of deliveries, of commits and of opens are those
modelled elsewhere; here are the others, and the programs around all of them.

What the server is configured with, the Ed25519 operations, the transactions that it prepares
and the parser of an address are parameters. What the store, the chain and a remote signer
answer is decided by a run.
-/

namespace PayKit.Session

open Channel Concurrency Control Encoding Machine Solana Store
open Metered (SessionSigner SignedVoucher VoucherData DeliveryRequest MeteringDirective
  CommitPayload CommitReceipt CommitTask CommitStage reserveDelivery recordDeliveryUsage checkCommit
  commitDelivery requireFreshSnapshot idleLifecycle)

/-! ## Messages -/

structure VoucherPayload where
  channelId : String
  voucher : SignedVoucher

/-- The proof that a client reuses for the requests of an operator-signed session. -/
structure SessionAuthentication where
  challengeId : String
  payer : String
  signature : String
deriving DecidableEq

structure UsePayload where
  channelId : String
  authentication : SessionAuthentication

structure TopUpPayload where
  channelId : String
  additionalAmount : String
  transaction : String

structure ClosePayload where
  channelId : String
  authentication : Option SessionAuthentication
  voucher : Option SignedVoucher

structure UseAcceptance where
  voucher : SignedVoucher
  replay : Bool

/-- A `use` proof that matched the proof bound at open, and the request it is for. -/
structure AuthenticatedUse where
  channelId : String
  authentication : String
  challengeId : String
  idempotencyKey : String

/-- A metered charge on an operator-signed session. -/
structure OperatorCharge where
  voucher : SignedVoucher
  previousCumulative : ℕ
  cumulative : ℕ
  charged : ℕ
  requestTotal : ℕ
  replay : Bool

structure TopUpAcceptance where
  state : ChannelState
  replay : Bool
  transactionSignature : String

/-- What the seal of a channel is built from, as far as the record decides it. -/
structure SealParams where
  channelId : Pubkey
  authorizedSigner : Option Pubkey
  payer : Option Pubkey
  rentPayer : Option Pubkey
  mint : Option String
  settled : ℕ
  voucherSignature : Option String
  voucherExpiresAt : Option ℤ
  recipient : Pubkey

/-! ## Calls -/

/-- Why an update failed. The charge of an operator tells through a flag that its closure set
whether it found the watermark moved. -/
inductive UpdateFailure where
  | failed (error : StoreError)
  | moved

def UpdateFailure.error : UpdateFailure → StoreError
  | failed error => error
  | moved => .internal "operator charge watermark moved"

/-- The closure of an update: it is given the time and the record. -/
abbrev Updater (Failure Result : Type) :=
  ℕ → Option ChannelState → Except Failure (Result × ChannelState)

/-- What a read of a channel account shows. -/
structure OnchainRead where
  status : ℕ
  closureStartedAt : ℤ
  settled : ℕ

/-- A channel account after a top-up: whether its hooks are those of the policy, its status and
its deposit. -/
structure ToppedUpChannel where
  policyHooks : Bool
  status : ℕ
  deposit : ℕ

inductive SessionCall : Type 1 where
  | getChannel (channelId : String)
  | update {Result : Type} (channelId : String) (updater : Updater UpdateFailure Result)
  | clock
  /-- `read_confirmed_owned_account_data_at`, decoded. -/
  | readAccount (channelId : String) (minSlot : ℕ)
  | sign (signer : String) (data : VoucherData)
  | pipeline
  /-- `validate_open_slot`. -/
  | openSlot (slot : ℕ)
  | blockhashValidity (blockhash : String) (minSlot : Option ℕ)
  /-- `submit_and_fetch_open`. -/
  | submitOpen (channelId : String) (freshOpen : Bool) (activationFloor : Option ℕ)
  | unfunded (channelId signature : String) (invalidAt : ℕ)
  /-- The submission of a top-up, confirmed and then finalized. -/
  | submitTopUp (signature : String)
  | readFinalized (channelId : String) (minSlot : ℕ)

abbrev SessionReply : SessionCall → Type
  | .getChannel _ => Except StoreError (Option ChannelState)
  | @SessionCall.update Result _ _ => Except UpdateFailure (Result × ChannelState)
  | .clock => ℕ
  | .readAccount _ _ => Except SessionError (Option OnchainRead × ℕ)
  | .sign _ _ => Except SessionError String
  | .pipeline => Except SessionError Unit
  | .openSlot _ => Except SessionError ℕ
  | .blockhashValidity _ _ => Except String (Bool × ℕ)
  | .submitOpen _ _ _ => Except SessionError OpenSubmission
  | .unfunded _ _ _ => Except String Bool
  | .submitTopUp _ => Except SessionError ℕ
  | .readFinalized _ _ => Except SessionError (Option ToppedUpChannel)

abbrev SessionProgram := Fallible SessionError SessionCall SessionReply

def checked {Result : Type} (outcome : Except SessionError Result) : SessionProgram Result :=
  Fallible.ofExcept outcome

/-- A step of the functions shared with other schemes. -/
def checkedCore {Result : Type} (outcome : Except Error Result) : SessionProgram Result :=
  checked (outcome.mapError fun | .other message => .other message)

/-- The updater of a store that knows no flag. -/
def plainly {Result : Type} (updater : Updater StoreError Result) : Updater UpdateFailure Result :=
  fun now record => (updater now record).mapError .failed

/-! ## The server -/

structure RequestServer (Scope : Type) extends SessionServer Scope where
  recipient : String
  gracePeriodSeconds : ℕ
  /-- The mint that the configured currency resolves to. -/
  currency : Except Error String
  checkSignature : SignatureCheck
  /-- The price of one use. -/
  amount : ℕ
  minVoucherDelta : ℕ
  operatorSigningKey : Option SessionSigner
  encodeAuthentication : SessionAuthentication → Except String String
  verifyAuthentication : SessionAuthentication → String → Except String Bool
  /-- `prepare_topup_transaction`, down to the first signature of the transaction. -/
  prepareTopUp : TopUpPayload → ChannelState → Except SessionError (Option String)
  parsePubkey : String → Except SessionError Pubkey

def operatorSigner : String := "operator"
def maxProcessedUses : ℕ := 256
def operatorChargeAttempts : ℕ := 8
def maxIdempotencyKeyBytes : ℕ := 255
def sealedAtKey : String := "mppSealedAt"
def operatorVoucherError : String :=
  "a voucher does not authenticate an operator-signed session; present the session bearer " ++
    "proof (use)"
def bindingMismatch : String :=
  "use authentication does not match the proof bound at open"
def closedOrPending : String :=
  "Channel is closed or close is pending"

/-- The clock in milliseconds, as an activity is stamped. -/
def nowMillis (now : ℕ) : ℕ :=
  min (now * 1000) i64Max.toNat

/-- `ObservedLifecycle::of_channel`. -/
def lifecycleOfChannel (read : OnchainRead) (now : ℕ) : ObservedLifecycle :=
  let startedAt :=
    if read.closureStartedAt ≠ 0 ∨ read.status ≠ 0 then
      some (max (if 0 ≤ read.closureStartedAt then read.closureStartedAt.toNat else now) 1)
    else none
  match read.status, startedAt with
  | 0, some startedAt => .closing startedAt
  | 2, some startedAt => .closing startedAt
  | 0, none => .opened
  | _, startedAt => .terminal startedAt

namespace RequestServer

variable {Scope : Type} [DecidableEq Scope] (server : RequestServer Scope)

/-- What the functions of metered sessions read of the configuration. -/
def config : Metered.SessionConfig where
  operator := server.operator
  gracePeriodSeconds := server.gracePeriodSeconds
  currency := server.currency
  checkSignature := server.checkSignature

/-! ### The store, with the policy of the server -/

/-- `BoundStore::get_channel`, and `read_channel`, whose reader only copies. -/
def getChannel (channelId : String) : SessionProgram (Option ChannelState) :=
  Fallible.await (SessionCall.getChannel channelId) fun reply =>
    (do
      let found ← reply
      server.store.checkExisting found
      return found : Except StoreError (Option ChannelState)).mapError .ofStore

/-- The record of a channel that has to be there. -/
def existing (channelId : String) : SessionProgram ChannelState := do
  let found ← server.getChannel channelId
  checked (okOr found (.other s!"Channel {channelId} not found"))

/-- The closure of `BoundStore::update_channel`. -/
def bound {Result : Type} (updater : Updater UpdateFailure Result) :
    Updater UpdateFailure Result :=
  fun now record => do
    (server.store.checkExisting record).mapError .failed
    let (result, updated) ← updater now record
    (server.store.check updated).mapError .failed
    return (result, updated)

def update {Result : Type} (channelId : String) (updater : Updater StoreError Result) :
    SessionProgram (Result × ChannelState) :=
  Fallible.await (SessionCall.update channelId (server.bound (plainly updater)))
    (Except.mapError fun failure => .ofStore failure.error)

/-- `BoundStore::mutate_channel` without a seed. -/
def mutate {Result : Type} (channelId : String)
    (mutator : ℕ → ChannelState → Except StoreError (Result × ChannelState)) :
    SessionProgram (Result × ChannelState) :=
  server.update channelId fun now record => do
    let state ← okOr record channelNotFound
    mutator now state

/-! ### The snapshot of the chain -/

/-- `refresh_channel_snapshot` reads the chain for this record. -/
def snapshotDue (now : ℕ) (state : ChannelState) : Bool :=
  ¬state.sealed ∧ state.closeRequestedAt = none ∧ ¬opensChannel state ∧
    server.config.snapshotMaxAge ≤ min ((now - state.onchainObservedAt) * 2) u64Max

def readChannelLifecycle (channelId : String) (now minSlot : ℕ) :
    SessionProgram (Option (ObservedLifecycle × ℕ) × ℕ) := do
  let (read, slot) ← Fallible.await (SessionCall.readAccount channelId minSlot) id
  return (read.map fun read => (lifecycleOfChannel read now, read.settled), slot)

/-- The mutator of `refresh_channel_snapshot`. A failed mutator leaves nothing, not even the
fences of a read that is behind. -/
def recordSnapshot (now slot settled : ℕ) (lifecycle : ObservedLifecycle) (state : ChannelState) :
    Except StoreError (Unit × ChannelState) :=
  let settledState := { state with settledOnChain := max state.settledOnChain settled }
  let (outcome, observed) :=
    settledState.recordOnchainObservation ⟨some slot, lifecycle⟩ now
  match outcome with
  | .behind recorded => .error (.internal
      s!"channel read at slot {slot} is behind the recorded slot {recorded}")
  | .fresh =>
      if lifecycle = .opened then .ok ((), observed)
      else
        let nowMs := min (now * 1000) u64Max
        let closeAfter := (observed.lifecycle.map fun current =>
          min current.closeAfter nowMs).getD nowMs
        .ok ((), { observed with lifecycle := some ⟨server.operator, closeAfter⟩ })

/-- What a refresh answers to the lifecycle that it read. -/
def admitLifecycle (channelId : String) : ObservedLifecycle → Except SessionError Unit
  | .opened => .ok ()
  | .closing startedAt => .error (.other (s!"Channel close is pending — channel {channelId} has " ++
      s!"been closing onchain since {startedAt}; no further charges accepted"))
  | .terminal _ => .error (.other s!"Channel {channelId} is already sealed onchain")

def renewSnapshot (channelId : String) (now minSlot : ℕ) : SessionProgram Unit := do
  let (read, slot) ← readChannelLifecycle channelId now minSlot
  let (lifecycle, settled) ← checked
    (okOr read (.other s!"Channel {channelId} not found onchain"))
  let _ ← server.mutate channelId fun _ => server.recordSnapshot now slot settled lifecycle
  checked (admitLifecycle channelId lifecycle)

def refreshChannelSnapshot (channelId : String) : SessionProgram Unit := do
  let now ← Fallible.request SessionCall.clock
  let found ← server.getChannel channelId
  if found.any (server.snapshotDue now) then
    server.renewSnapshot channelId now ((found.map ChannelState.onchainObservedSlot).getD 0)
  else
    return ()

end RequestServer

end PayKit.Session
