import PayKit.Rpc.Broadcast
import PayKit.Store.ConsumedSignatures
import PayKit.X402.Error

/-!
# Settling an `exact` payment

`X402::settle_exact` of `x402/server/exact.rs` as the sequence of its store operations and
its requests to a node, and the others that share its ledger: a payment that is on the
chain already, and the claims and releases of the charge server.

The co-signature makes no call. Its result, with the signature that then names the
transaction, is part of the payment.
-/

namespace PayKit.Exact

open Concurrency Rpc Store X402

/-- A call of a settlement, or what the chain does in the meantime. -/
inductive SettleCall where
  | store (call : Store.Call)
  | rpc (call : RpcCall)
  | chain (signature : String)

abbrev SettleReply : SettleCall → Type
  | .store call => Store.Reply call
  | .rpc call => RpcReply call
  | .chain _ => Unit

structure SettleState where
  store : Backend
  landings : String → Landing

/-- The answers a call may get and what it changes. -/
def effect : (call : SettleCall) → SettleState → SettleReply call → SettleState → Prop
  | .store call, before, reply, after =>
      Store.effect call before.store reply after.store ∧ after.landings = before.landings
  | .rpc call, before, reply, after =>
      Rpc.effect call before.landings reply after.landings ∧ after.store = before.store
  | .chain signature, before, _, after =>
      after.store = before.store ∧ ∃ next, Landing.Advances (before.landings signature) next ∧
        after.landings = Function.update before.landings signature next

abbrev SettleM (Result : Type) := Program SettleCall SettleReply Result

def ledger {Result : Type} (operation : StoreM Result) : SettleM (Except StoreError Result) :=
  operation.run.within .store fun _ reply => reply

theorem ledger_bind {First Second : Type} (operation : StoreM First)
    (rest : First → StoreM Second) :
    ledger (operation >>= rest) = ledger operation >>= fun
      | .ok result => ledger (rest result)
      | .error error => .done (.error error) := by
  unfold ledger
  rw [ExceptT.run_bind, Program.within_bind]
  congr 1
  funext outcome
  cases outcome <;> rfl

def node {Result : Type} (program : RpcM Result) : SettleM Result :=
  program.within .rpc fun _ reply => reply

/-- The answer of a call, when it has ended. -/
abbrev Answer := Option (Except Error String)

/-- A verified payment: the signature of a transaction on the chain, or the outcome of
co-signing a transaction. -/
inductive VerifiedExactPayment where
  | signature (signature : String)
  | transaction (cosigned : Except Error String)

def storeFailure (error : StoreError) : Error :=
  .other ("x402 replay store error: " ++ error.display)

def consumeSignature (signature : String) : SettleM (Except Error Unit) := do
  match ← ledger (ConsumedSignatures.claim signature) with
  | .error error => return .error (storeFailure error)
  | .ok true => return .ok ()
  | .ok false => return .error .signatureConsumed

/-- What a broadcast that ended means for the claim and for the request. -/
def concludeSettlement (signature : String) : Broadcast Settled → SettleM Answer
  | none => return none
  | some (.ok (.confirmed confirmed)) => do
      match ← ledger (ConsumedSignatures.confirm signature) with
      | .error error => return some (.error (storeFailure error))
      | .ok true => return some (.ok confirmed)
      | .ok false => return some (.error .signatureConsumed)
  | some (.ok (.alreadyLanded _)) => do
      match ← ledger (ConsumedSignatures.confirm signature) with
      | .error error => return some (.error (storeFailure error))
      | .ok _ => return some (.error .signatureConsumed)
  | some (.error (.unknown error)) =>
      return some (.error (.settlementPending ("transaction " ++ signature ++ " " ++
        (BroadcastFailure.unknown error).display ++ "; retry the same payment, do not pay again")))
  | some (.error failure) => do
      let _ ← ledger (ConsumedSignatures.releasePending signature)
      return some (.error (.rpc ("exact settlement broadcast failed: " ++ failure.display)))

/-- Broadcast a transaction whose signature is claimed. -/
def settleClaimed (signature : String) (prior : PriorBroadcast) (rounds : ℕ) : SettleM Answer := do
  let broadcast ← node (sendAndConfirmSettlement signature prior rounds)
  concludeSettlement signature broadcast

def settleExact (payment : VerifiedExactPayment) (rounds : ℕ) : SettleM Answer :=
  match payment with
  | .signature signature => do
      match ← consumeSignature signature with
      | .error error => return some (.error error)
      | .ok () => return some (.ok signature)
  | .transaction (.error error) => return some (.error error)
  | .transaction (.ok signature) => do
      match ← ledger (ConsumedSignatures.claimPending signature) with
      | .error error => return some (.error (storeFailure error))
      | .ok .consumed => return some (.error .signatureConsumed)
      | .ok .fresh => settleClaimed signature .none rounds
      | .ok .resumePending => settleClaimed signature .possible rounds

/-! ### Who runs beside a settlement -/

inductive Role where
  /-- Settle a transaction. -/
  | pull (cosigned : Except Error String) (rounds : ℕ)
  /-- Settle a signature once it is verified on the chain. -/
  | push (signature : String)
  /-- A charge: claim the signature and possibly release it. -/
  | charge (signature : String) (releases : Bool)
  /-- The chain, moving on with transactions. -/
  | chain (signatures : List String)

namespace Role

/-- A payment by a signature that is on the chain. -/
def pushProgram (signature : String) : SettleM Answer := do
  match ← node (Program.request (RpcCall.signatureStatus signature true)) with
  | .ok (some .succeeded) => settleExact (.signature signature) 0
  | _ => return some (.error .transactionNotFound)

/-- A claim, and its release when the charge is given up. -/
def chargeProgram (signature : String) (releases : Bool) : SettleM Answer := do
  match ← ledger (ConsumedSignatures.claim signature) with
  | .ok true =>
      if releases then
        let _ ← ledger (ConsumedSignatures.release signature)
        return none
      else return none
  | _ => return none

def chainProgram : List String → SettleM Answer
  | [] => return none
  | signature :: rest => do
      Program.request (SettleCall.chain signature)
      chainProgram rest

def program : Role → SettleM Answer
  | pull cosigned rounds => settleExact (.transaction cosigned) rounds
  | push signature => pushProgram signature
  | charge signature releases => chargeProgram signature releases
  | chain signatures => chainProgram signatures

/-- The signature that the party asks a response for. -/
def pays : Role → Option String
  | pull (.ok signature) _ => some signature
  | push signature => some signature
  | _ => none

end Role

variable {Caller : Type}

abbrev SettleEvent (Caller : Type) := Event Caller SettleCall SettleReply

abbrev SettleWorld (Caller : Type) := World Caller SettleState SettleCall SettleReply

abbrev SettleConfig (Caller : Type) := Config Caller SettleState SettleCall SettleReply Answer

/-- Every party at its start, on a store and a chain. -/
def startOf (roles : Caller → Role) (state : SettleState) : SettleConfig Caller where
  world := ⟨state, []⟩
  threads caller := (roles caller).program

/-- The receipt that a caller was answered with. -/
def receiptOf (config : SettleConfig Caller) (caller : Caller) : Option String :=
  match config.threads caller with
  | .done (some (.ok receipt)) => some receipt
  | _ => none

theorem receiptOf_eq_some {config : SettleConfig Caller} {caller : Caller} {receipt : String} :
    receiptOf config caller = some receipt ↔
      config.threads caller = .done (some (.ok receipt)) := by
  unfold receiptOf
  split
  · simp_all
  · rename_i hOther
    simp only [reduceCtorEq, false_iff]
    exact hOther receipt

/-- The party was answered with a grant of the signature. -/
def Granted (roles : Caller → Role) (config : SettleConfig Caller) (caller : Caller)
    (signature : String) : Prop :=
  (roles caller).pays = some signature ∧ ∃ receipt, receiptOf config caller = some receipt

/-! ### Schedules -/

/-- A handler of the calls for a fixed schedule, in which the node answers a send as it is
told to and otherwise with what is true. -/
def handle (send : SendReply) : (call : SettleCall) → SettleState → SettleReply call × SettleState
  | .store call, state =>
      let handled := Store.handle ⟨.unknown "", false⟩ call state.store
      (handled.1, { state with store := handled.2 })
  | .rpc (.sendTransaction signature), state =>
      (send, match send with
        | .accepted => { state with
            landings := Function.update state.landings signature
              (state.landings signature).forward }
        | _ => state)
  | .rpc (.signatureStatus signature _), state =>
      (.ok (state.landings signature).outcome, state)
  | .rpc (.isBlockhashValid signature), state =>
      (.ok !(state.landings signature).expired, state)
  | .chain signature, state =>
      ((), { state with
        landings := Function.update state.landings signature
          (state.landings signature).settle })

theorem effect_handle (send : SendReply) (call : SettleCall) (state : SettleState) :
    effect call state (handle send call state).1 (handle send call state).2 := by
  cases call with
  | store call => exact ⟨Store.effect_handle _ call state.store, rfl⟩
  | chain signature => exact ⟨rfl, _, Landing.advances_settle, rfl⟩
  | rpc call =>
      cases call with
      | signatureStatus signature searched => exact ⟨⟨rfl, Except.ok.inj⟩, rfl⟩
      | isBlockhashValid signature => exact ⟨rfl, rfl⟩
      | sendTransaction signature =>
          cases send with
          | accepted => exact ⟨rfl, rfl⟩
          | refused preflight error => exact ⟨rfl, rfl⟩
          | failed error => exact ⟨.inl rfl, rfl⟩

end PayKit.Exact
