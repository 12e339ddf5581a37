import PayKit.Concurrency.Interleaving

/-!
# The shared key-value store and the chain behind it

The replay ledgers are written against the asynchronous `Store` trait of
`core/store.rs`: five operations, each atomic, on string keys and JSON values.
Settlement adds two calls to a Solana node. This file gives both as the calls
of a `Program`, together with the state they act on.

Only three shapes of JSON are ever written: `true`, the object
`{"state": …}` that marks a pending or released signature, and a serialized
`ChargeRecord`. `Value` has one constructor for each, so that writing a record
and reading it back is the identity, as the derived serializers make it.

The store never loses or expires a key and its operations never fail: the
properties proved over it concern what concurrent callers do to one another,
not an unreliable backend.
-/

namespace PayKit.Store

open Concurrency

/-- Settlement state of a `ChargeRecord`. -/
inductive ChargeRecordState where
  | reserved
  | confirmed
  | failed
  | pending
deriving DecidableEq, Repr

/-- A durable record of one charge-settlement attempt, keyed by challenge id. -/
structure ChargeRecord where
  challengeId : String
  normalizedRequestDigest : String
  finalSignature : Option String
  failureReason : Option String
  state : ChargeRecordState
  updatedAt : Int
  expiresAt : Int
deriving DecidableEq, Repr

/-- The JSON values the ledgers store. -/
inductive Value where
  | bool (value : Bool)
  | marker (state : String)
  | record (record : ChargeRecord)
deriving DecidableEq, Repr

/-- Errors of the store and of the ledgers built on it. -/
inductive StoreError where
  | internal (message : String)
  | serialization (message : String)
deriving DecidableEq, Repr

def StoreError.display : StoreError → String
  | .internal message => "Store error: " ++ message
  | .serialization message => "Serialization error: " ++ message

/-- How a transaction that reached a block ended. -/
inductive TransactionOutcome where
  | succeeded
  | failed (error : String)
deriving DecidableEq, Repr

/-- What the sender of a transaction learns: it reached a block, the node
refused it in preflight and never forwarded it, or neither is known. -/
inductive SendOutcome where
  | landed (outcome : TransactionOutcome)
  | preflightRejected (error : String)
  | unknown (error : String)
deriving DecidableEq, Repr

/-- One awaited call of a server: an operation of the `Store` trait, a broadcast
of the transaction with the given signature up to its confirmation, or a status
read. `clientBroadcast` is the payer sending its own signed transaction, or an
earlier broadcast landing late. -/
inductive Call where
  | get (key : String)
  | putIfAbsent (key : String) (value : Value)
  | putIfEq (key : String) (expected : Option Value) (value : Value)
  | delete (key : String)
  | sendTransaction (signature : String)
  | signatureStatus (signature : String)
  | clientBroadcast (signature : String)
deriving DecidableEq, Repr

/-- The reply to each call. A status read that fails replies `.error`. -/
abbrev Reply : Call → Type
  | .get _ => Option Value
  | .putIfAbsent _ _ => Bool
  | .putIfEq _ _ _ => Bool
  | .delete _ => Unit
  | .sendTransaction _ => SendOutcome
  | .signatureStatus _ => Except String (Option TransactionOutcome)
  | .clientBroadcast _ => Unit

/-- What the store holds under each key, and the outcome of every transaction
the chain has included, by signature. -/
structure Backend where
  entries : String → Option Value
  chain : String → Option TransactionOutcome

namespace Backend

/-- The backend with one entry changed. -/
def setEntry (backend : Backend) (key : String) (value : Option Value) : Backend :=
  { backend with entries := Function.update backend.entries key value }

@[simp]
theorem setEntry_chain (backend : Backend) (key : String) (value : Option Value) :
    (backend.setEntry key value).chain = backend.chain :=
  rfl

@[simp]
theorem setEntry_entries_self (backend : Backend) (key : String) (value : Option Value) :
    (backend.setEntry key value).entries key = value :=
  Function.update_self ..

theorem setEntry_entries_of_ne (backend : Backend) {key other : String} (value : Option Value)
    (different : other ≠ key) : (backend.setEntry key value).entries other =
      backend.entries other :=
  Function.update_of_ne different ..

/-- `signature` lands with `outcome`, unless it already landed. -/
def land (backend : Backend) (signature : String) (outcome : TransactionOutcome) : Backend :=
  { backend with
    chain := Function.update backend.chain signature
      (some ((backend.chain signature).getD outcome)) }

@[simp]
theorem land_entries (backend : Backend) (signature : String) (outcome : TransactionOutcome) :
    (backend.land signature outcome).entries = backend.entries :=
  rfl

end Backend

/-- The answers a call may get and the backend it leaves. The store operations
are functions of the store. A transaction lands at most once; a status read may
miss a transaction that landed, but never reports one that did not. -/
def effect : (call : Call) → Backend → Reply call → Backend → Prop
  | .get key, backend, reply, after => reply = backend.entries key ∧ after = backend
  | .putIfAbsent key value, backend, reply, after =>
      (backend.entries key = none ∧ reply = true ∧ after = backend.setEntry key (some value)) ∨
        (backend.entries key ≠ none ∧ reply = false ∧ after = backend)
  | .putIfEq key expected value, backend, reply, after =>
      (backend.entries key = expected ∧ reply = true ∧
          after = backend.setEntry key (some value)) ∨
        (backend.entries key ≠ expected ∧ reply = false ∧ after = backend)
  | .delete key, backend, _, after => after = backend.setEntry key none
  | .sendTransaction signature, backend, reply, after =>
      match reply with
      | .landed outcome => after = backend.land signature outcome ∧
          after.chain signature = some outcome
      | .preflightRejected _ => after = backend
      | .unknown _ => after = backend ∨ ∃ outcome, after = backend.land signature outcome
  | .signatureStatus signature, backend, reply, after => after = backend ∧
      ∀ outcome, reply = .ok (some outcome) → backend.chain signature = some outcome
  | .clientBroadcast signature, backend, _, after =>
      after = backend ∨ ∃ outcome, after = backend.land signature outcome

/-- A ledger operation: a program over the store that may fail. -/
abbrev StoreM := Fallible StoreError Call Reply

def get (key : String) : StoreM (Option Value) :=
  Fallible.request (Call.get key)

def putIfAbsent (key : String) (value : Value) : StoreM Bool :=
  Fallible.request (Call.putIfAbsent key value)

def putIfEq (key : String) (expected : Option Value) (value : Value) : StoreM Bool :=
  Fallible.request (Call.putIfEq key expected value)

def delete (key : String) : StoreM Unit :=
  Fallible.request (Call.delete key)

/-- What a node says when it is asked: the answers to the calls that the store
does not determine. -/
structure NodeAnswer where
  send : SendOutcome
  seesTransaction : Bool

/-- A handler of the calls, for running one program alone or a fixed schedule.
The store operations do not depend on the node. -/
def handle (answer : NodeAnswer) : (call : Call) → Backend → Reply call × Backend
  | .get key, backend => (backend.entries key, backend)
  | .putIfAbsent key value, backend =>
      if backend.entries key = none then (true, backend.setEntry key (some value))
      else (false, backend)
  | .putIfEq key expected value, backend =>
      if backend.entries key = expected then (true, backend.setEntry key (some value))
      else (false, backend)
  | .delete key, backend => ((), backend.setEntry key none)
  | .sendTransaction signature, backend =>
      match answer.send with
      | .landed outcome =>
          (.landed ((backend.chain signature).getD outcome),
            backend.land signature ((backend.chain signature).getD outcome))
      | .preflightRejected error => (.preflightRejected error, backend)
      | .unknown error => (.unknown error, backend)
  | .signatureStatus signature, backend =>
      (.ok (if answer.seesTransaction then backend.chain signature else none), backend)
  | .clientBroadcast signature, backend => ((), backend.land signature .succeeded)

theorem effect_handle (answer : NodeAnswer) (call : Call) (backend : Backend) :
    effect call backend (handle answer call backend).1 (handle answer call backend).2 := by
  cases call with
  | get key => exact ⟨rfl, rfl⟩
  | putIfAbsent key value =>
      by_cases absent : backend.entries key = none <;> simp [effect, handle, absent]
  | putIfEq key expected value =>
      by_cases equal : backend.entries key = expected <;> simp [effect, handle, equal]
  | delete key => rfl
  | sendTransaction signature =>
      rcases answer with ⟨send, seesTransaction⟩
      cases send with
      | landed outcome =>
          cases earlier : backend.chain signature <;>
            simp [effect, handle, Backend.land, earlier]
      | preflightRejected error => rfl
      | unknown error => exact .inl rfl
  | signatureStatus signature =>
      refine ⟨rfl, ?_⟩
      intro outcome reply
      by_cases sees : answer.seesTransaction <;> simp_all [handle]
  | clientBroadcast signature => exact .inr ⟨.succeeded, rfl⟩

end PayKit.Store
