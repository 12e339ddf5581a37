import PayKit.Concurrency.Ensures
import PayKit.Concurrency.Limits
import PayKit.Settlement.Packing

/-!
# The settlement worker

The actor of `core/settlement/worker.rs`: it gathers the settlements of channels and flushes them,
several to a transaction, when enough of them are there, when the first of them has waited for the
linger window, or when every handle is gone. A flush is a task of its own, and so is the
confirmation of what it sent: a packed transaction that failed on-chain applied nothing, and its
settlements are then sent again, one to a transaction.

The broadcaster and the signer answer each call as they like; any number of tasks take turns at
their calls; submissions arrive and time passes between any two steps. A oneshot reply channel is
the number of its submission. The spans of the submitters and what is only traced are left out.

Which settlements the instructions of a transaction are is told along with the call that sends it,
and so is the number of a settlement that is answered; the broadcaster is told neither.
-/

namespace PayKit.Settlement

open Concurrency Control Solana Tx

deriving instance DecidableEq for SettlementUnit

/-- A settlement with the number of its submission. -/
abbrev Submitted : Type :=
  SettlementUnit Unit ℕ

/-- `SettlementResult`: the signature of the transaction. -/
abbrev SettlementResult : Type :=
  Except String String

inductive ConfirmOutcome where
  | confirmed
  | pending
  | failed (error : String)
deriving DecidableEq

/-- Why a sent settlement did not confirm. -/
inductive ConfirmFailure where
  /-- It landed and failed: none of its instructions applied. -/
  | onChain (message : String)
  /-- Not confirmed within the window; it may still land. -/
  | unconfirmed (message : String)

def ConfirmFailure.intoMessage : ConfirmFailure → String
  | onChain message => message
  | unconfirmed message => message

def maxVoucherSettlementsPerTx : TxVersion → ℕ
  | .v0 => 4
  | .v1 => 18

/-- The configuration; durations are in milliseconds. Of the signer the worker knows its key. -/
structure SettlementConfig where
  operator : Pubkey
  operatorSigner : Pubkey
  maxVoucherSettlementsPerTx : ℕ
  linger : ℕ
  maxInFlightTx : ℕ
  confirmAttempts : ℕ
  txVersion : TxVersion
  computeBudget : Option ComputeBudget

namespace SettlementConfig

def new (operator operatorSigner : Pubkey) : SettlementConfig where
  operator := operator
  operatorSigner := operatorSigner
  maxVoucherSettlementsPerTx := Settlement.maxVoucherSettlementsPerTx .v0
  linger := 350
  maxInFlightTx := 16
  confirmAttempts := 10
  txVersion := .v0
  computeBudget := none

def withTxVersion (cfg : SettlementConfig) (version : TxVersion) : SettlementConfig :=
  { cfg with
    txVersion := version
    maxVoucherSettlementsPerTx := Settlement.maxVoucherSettlementsPerTx version }

/-- `max_voucher_settlements_per_tx.max(1)`. -/
def maxPerTx (cfg : SettlementConfig) : ℕ :=
  max cfg.maxVoucherSettlementsPerTx 1

def permits (cfg : SettlementConfig) : ℕ :=
  max cfg.maxInFlightTx 1

end SettlementConfig

/-- What a task of the worker is spawned for. -/
inductive WorkerJob where
  | flush (units : List Submitted)
  /-- To confirm a sent transaction, which is packed when it carries several settlements. The
  source keeps the instructions of those that were replied to. -/
  | confirm (signature : String) (packed : Bool) (confirming replied : List Submitted)

inductive WorkerCall where
  | acquire
  | release
  | latestBlockhash
  | sign (tx : VersionedTransaction)
  | send (carries : List Submitted) (tx : VersionedTransaction)
  | confirm (signature : String)
  | sleep (duration : ℕ)
  | reply (unit : Submitted) (outcome : SettlementResult)
  | spawn (job : WorkerJob)

abbrev WorkerReply : WorkerCall → Type
  | .latestBlockhash => Except String (List UInt8)
  | .sign _ => Except String Signature
  | .send _ _ => Except String String
  | .confirm _ => Except String ConfirmOutcome
  | _ => Unit

/-- The configuration, and the crates that compile and measure transactions. -/
structure SettlementWorker where
  cfg : SettlementConfig
  compile : MessageCompiler
  serializedSize : VersionedTransaction → Except String ℕ

namespace SettlementWorker

variable (worker : SettlementWorker)

def fitsTx : FitsTx := fun version ixs payer budget =>
  match buildUnsignedUnchecked worker.compile version payer ixs (List.replicate 32 0) budget with
  | .ok tx => (checkLimits worker.serializedSize tx version).isOk
  | .error _ => false

/-- The unsigned transaction of some instructions. -/
def unsigned (ixs : List Instruction) (blockhash : List UInt8) :
    Except String VersionedTransaction :=
  buildUnsigned worker.compile worker.serializedSize worker.cfg.txVersion worker.cfg.operator ixs
    blockhash worker.cfg.computeBudget

/-- `sign_versioned_transaction_slot`, with the operator's signer. -/
def signVersionedTransactionSlot (tx : VersionedTransaction) :
    Fallible String WorkerCall WorkerReply VersionedTransaction := do
  let index ← Fallible.ofExcept <|
    okOr (tx.message.staticAccountKeys.findIdx? (· = worker.cfg.operatorSigner))
      "signer not found in transaction accounts"
  let required := tx.message.header.numRequiredSignatures.toNat
  Fallible.ofExcept (refuseIf (required ≤ index) "signer is not a required transaction signer")
  Fallible.ofExcept (refuseIf (tx.signatures.length ≠ required)
    s!"transaction has {tx.signatures.length} signature slots but requires {required}")
  let signature ← Fallible.await (.sign tx)
    (·.mapError ("transaction signing failed: " ++ ·))
  return { tx with signatures := tx.signatures.set index signature }

/-- The instructions of some settlements, one after the other. -/
def flat (units : List Submitted) : List Instruction :=
  units.flatMap (·.instructions)

def signAndSend (carries : List Submitted) : Fallible String WorkerCall WorkerReply String := do
  let blockhash ← Fallible.await .latestBlockhash id
  let tx ← Fallible.ofExcept
    ((worker.unsigned (flat carries) blockhash).mapError ("settle build failed: " ++ ·))
  let signed ← ExceptT.mk
    ((·.mapError ("settle signing failed: " ++ ·)) <$> (worker.signVersionedTransactionSlot tx).run)
  Fallible.await (.send carries signed) id

def onChainMessage (signature error : String) : String :=
  s!"settlement {signature} failed on-chain: {error}"

def unconfirmedMessage (signature : String) : String :=
  s!"settlement {signature} was not confirmed in its window"

/-- `confirm_settlement`, with the attempts that are left. -/
def confirmSettlement (signature : String) :
    ℕ → Program WorkerCall WorkerReply (Except ConfirmFailure String)
  | 0 => return .error (.unconfirmed (unconfirmedMessage signature))
  | attempts + 1 => do
      match ← Program.request (WorkerCall.confirm signature) with
      | .ok .confirmed => return .ok signature
      | .ok (.failed error) => return .error (.onChain (onChainMessage signature error))
      | .ok .pending | .error _ =>
          let _ ← Program.request (.sleep 400)
          confirmSettlement signature attempts

/-- The permit is held for the sending only. -/
def settleAlone (unit : Submitted) : Program WorkerCall WorkerReply SettlementResult := do
  let _ ← Program.request .acquire
  let sent ← (worker.signAndSend [unit]).run
  let _ ← Program.request .release
  match sent with
  | .error error => return .error error
  | .ok signature =>
      return (← confirmSettlement signature worker.cfg.confirmAttempts).mapError
        ConfirmFailure.intoMessage

def replyEach (outcome : SettlementResult) : List Submitted → Program WorkerCall WorkerReply Unit
  | [] => return
  | unit :: units => do
      let _ ← Program.request (.reply unit outcome)
      replyEach outcome units

def settleGroup (group : List Submitted) : Program WorkerCall WorkerReply Unit := do
  let result ← (worker.signAndSend group).run
  let packed : Bool := 1 < group.length
  let split := group.partition fun unit => unit.awaitConfirmation && result.isOk
  let replied := if packed && result.isOk then split.2 else []
  replyEach result split.2
  match result with
  | .ok signature =>
      let _ ← Program.request (.spawn (.confirm signature packed split.1 replied))
  | .error _ => return

/-- The loop over the units to settle alone and to answer. -/
def settleConfirming : List Submitted → Program WorkerCall WorkerReply Unit
  | [] => return
  | unit :: confirming => do
      let outcome ← worker.settleAlone unit
      let _ ← Program.request (.reply unit outcome)
      settleConfirming confirming

/-- The loop over those that were answered before. -/
def settleReplied : List Submitted → Program WorkerCall WorkerReply Unit
  | [] => return
  | unit :: replied => do
      let _ ← worker.settleAlone unit
      settleReplied replied

/-- The background task of `settle_group`. -/
def confirmSent (signature : String) (packed : Bool) (confirming replied : List Submitted) :
    Program WorkerCall WorkerReply Unit := do
  match ← confirmSettlement signature worker.cfg.confirmAttempts with
  | .ok signature => replyEach (.ok signature) confirming
  | .error (.onChain message) =>
      if packed then
        worker.settleConfirming confirming
        worker.settleReplied replied
      else replyEach (.error message) confirming
  | .error (.unconfirmed message) => replyEach (.error message) confirming

/-- The loop of `spawn_flush`. A permit is held for each transaction. -/
def settleGroups : List (List Submitted) → Program WorkerCall WorkerReply Unit
  | [] => return
  | group :: groups => do
      let _ ← Program.request .acquire
      worker.settleGroup group
      let _ ← Program.request .release
      settleGroups groups

def groups (units : List Submitted) : List (List Submitted) :=
  regroup worker.fitsTx units worker.cfg.txVersion worker.cfg.operator worker.cfg.computeBudget
    worker.cfg.maxVoucherSettlementsPerTx

def crew : Crew WorkerJob WorkerCall WorkerReply where
  body
    | .flush units => worker.settleGroups (worker.groups units)
    | .confirm signature packed confirming replied =>
        worker.confirmSent signature packed confirming replied
  starts
    | .spawn job => [job]
    | _ => []

end SettlementWorker

/-! ### The actor -/

/-- `mpsc::channel(1024)`. -/
def submissionCapacity : ℕ := 1024

/-- The variables of the actor, its tasks, and all units that were submitted. -/
structure WorkerState where
  clock : ℕ
  submitted : List Submitted
  handlesOpen : Bool
  queue : List Submitted
  pending : List Submitted
  deadline : Option ℕ
  stopped : Bool
  available : ℕ
  crowd : Crowd WorkerCall WorkerReply

def WorkerCall.permitUse : WorkerCall → PermitUse
  | .acquire => .acquires
  | .release => .releases
  | .send _ _ => .requires
  | _ => .ignores

namespace WorkerState

/-- `spawn`: nothing is submitted yet. -/
def start (cfg : SettlementConfig) : WorkerState where
  clock := 0
  submitted := []
  handlesOpen := true
  queue := []
  pending := []
  deadline := none
  stopped := false
  available := cfg.permits
  crowd := ⟨[], []⟩

variable (worker : SettlementWorker) (state : WorkerState)

/-- `SettlementHandle::submit`, which waits while the channel is full. -/
def submit (channelId : String) (instructions : List Instruction) (awaitConfirmation : Bool) :
    Option WorkerState :=
  if state.handlesOpen ∧ state.queue.length < submissionCapacity then
    let unit : Submitted :=
      ⟨channelId, instructions, (), state.submitted.length, awaitConfirmation⟩
    some { state with submitted := state.submitted ++ [unit], queue := state.queue ++ [unit] }
  else none

def spawnFlush (units : List Submitted) : WorkerState :=
  { state with crowd := state.crowd.start worker.crew (.flush units) }

/-- The size trigger: full transactions are sealed as long as there are any. The bound on the
rounds is never reached. -/
def sealFull : ℕ → WorkerState → WorkerState
  | 0, state => state
  | rounds + 1, state =>
      if worker.cfg.maxPerTx ≤ state.pending.length then
        let batch := state.pending.take worker.cfg.maxPerTx
        let state := { state with pending := state.pending.drop worker.cfg.maxPerTx }
        sealFull rounds (state.spawnFlush worker batch)
      else state

/-- Everything that is pending is flushed, if there is anything. -/
def flushPending : WorkerState :=
  if state.pending.isEmpty then state
  else { state with pending := [] }.spawnFlush worker state.pending

/-- A unit is taken into the buffer, and the timer is set for the first one. -/
def push (unit : Submitted) (queue : List Submitted) : WorkerState :=
  { state with
    queue := queue
    pending := state.pending ++ [unit]
    deadline := some (state.deadline.getD (state.clock + worker.cfg.linger)) }

/-- `rx.recv()` returns. -/
def receive : Option WorkerState :=
  if state.stopped then none
  else
    match state.queue with
    | unit :: queue =>
        let state := state.push worker unit queue
        let state := state.sealFull worker state.pending.length
        some { state with deadline := if state.pending.isEmpty then none else state.deadline }
    | [] =>
        if state.handlesOpen then none
        else some { state.flushPending worker with stopped := true }

/-- The timer of the linger window fires. -/
def timer : Option WorkerState :=
  match state.deadline with
  | none => none
  | some deadline =>
      if state.stopped ∨ state.clock < deadline then none
      else some { state.flushPending worker with deadline := none }

/-- What the worker does by itself. -/
inductive Works : WorkerState → WorkerState → Prop
  | receive {state after : WorkerState} (hReceive : state.receive worker = some after) :
      Works state after
  | timer {state after : WorkerState} (hTimer : state.timer worker = some after) :
      Works state after
  | perform {state : WorkerState} {exchange : Exchange WorkerCall WorkerReply}
      {crowd : Crowd WorkerCall WorkerReply} {available : ℕ}
      (hStep : state.crowd.Step worker.crew exchange crowd)
      (hPermit : exchange.call.permitUse.take state.available = some available) :
      Works state { state with crowd, available }

def tick (elapsed : ℕ) : WorkerState :=
  { state with clock := state.clock + elapsed }

/-- A move of the worker, of a submitter or of the clock. -/
inductive Moves : WorkerState → WorkerState → Prop
  | works {state after : WorkerState} (hWorks : Works worker state after) : Moves state after
  | submit {state after : WorkerState} {channelId : String} {instructions : List Instruction}
      {awaitConfirmation : Bool}
      (hSubmit : state.submit channelId instructions awaitConfirmation = some after) :
      Moves state after
  | dropHandles (state : WorkerState) : Moves state { state with handlesOpen := false }
  | tick (state : WorkerState) (elapsed : ℕ) : Moves state (state.tick elapsed)

/-- The states that the worker can come to. -/
def Reachable (state : WorkerState) : Prop :=
  Relation.ReflTransGen (Moves worker) (start worker.cfg) state

/-- Nothing is left to receive, to flush or to do. -/
def Settled : Prop :=
  state.queue = [] ∧ state.pending = [] ∧ state.crowd.Finished

end WorkerState

end PayKit.Settlement
