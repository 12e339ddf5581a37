import PayKit.Store.KeyValue

/-!
# Broadcasting a transaction

`core/rpc.rs`: sending a signed transaction to a node and following it to its outcome,
`send_and_confirm_settlement` with the callers built on it. A transaction is named by its
first signature, without which nothing is sent.

`Landing` is what is true of a transaction on the chain, of which a node may know less. A
node may refuse a send for any reason, lose its answer, miss a status and err about a
blockhash; only a status of success is never made up.

The loop that polls a status takes a number of rounds and ends without a result when they
are over, so that a run of any length is a run with enough rounds.
-/

namespace PayKit.Rpc

open Concurrency Store

/-! ### The node -/

inductive SendReply where
  | accepted
  /-- A JSON-RPC error response, from the preflight simulation or not. -/
  | refused (preflight : Bool) (error : String)
  /-- Any other error, after which the transaction may have been forwarded. -/
  | failed (error : String)
deriving DecidableEq

/-- A request to a node about the transaction with a signature. -/
inductive RpcCall where
  | sendTransaction (signature : String)
  | signatureStatus (signature : String) (history : Bool)
  | isBlockhashValid (signature : String)
deriving DecidableEq

abbrev RpcReply : RpcCall → Type
  | .sendTransaction _ => SendReply
  | .signatureStatus _ _ => Except String (Option TransactionOutcome)
  | .isBlockhashValid _ => Except String Bool

/-- What has become of a transaction. -/
structure Landing where
  /-- A node has been handed the transaction. -/
  forwarded : Bool := false
  outcome : Option TransactionOutcome := none
  /-- Its blockhash has expired. -/
  expired : Bool := false
deriving DecidableEq

namespace Landing

variable (landing : Landing)

def Succeeded : Prop :=
  landing.outcome = some .succeeded

def Outstanding : Prop :=
  landing.forwarded = true ∧ landing.outcome = none ∧ landing.expired = false

/-- It landed, or may still, without an error. -/
def Live : Prop :=
  landing.Succeeded ∨ landing.Outstanding

/-- It landed with an error, and moved nothing. -/
def Failed : Prop :=
  ∃ error, landing.outcome = some (.failed error)

instance : Decidable landing.Succeeded := inferInstanceAs (Decidable (_ = _))

instance : Decidable landing.Outstanding := inferInstanceAs (Decidable (_ ∧ _ ∧ _))

instance : Decidable landing.Live := inferInstanceAs (Decidable (_ ∨ _))

def forward : Landing :=
  { landing with forwarded := true }

/-- What the chain does with the transaction: an outstanding one lands, or its blockhash
expires. -/
def Advances (before after : Landing) : Prop :=
  (before.Outstanding ∧ ∃ outcome, after = { before with outcome := some outcome }) ∨
    after = { before with expired := true }

variable {landing}

theorem Failed.not_live (hFailed : landing.Failed) : ¬landing.Live := by
  rcases hFailed with ⟨error, hOutcome⟩
  simp [Live, Succeeded, Outstanding, hOutcome]

theorem Failed.forward (hFailed : landing.Failed) : landing.forward.Failed := hFailed

theorem Succeeded.forward (hSucceeded : landing.Succeeded) : landing.forward.Succeeded :=
  hSucceeded

theorem Failed.advances {after : Landing} (hFailed : landing.Failed)
    (hAdvances : Advances landing after) : after.Failed := by
  rcases hFailed with ⟨error, hOutcome⟩
  rcases hAdvances with ⟨hOutstanding, -⟩ | rfl
  · simp [Outstanding, hOutcome] at hOutstanding
  · exact ⟨error, hOutcome⟩

theorem Succeeded.advances {after : Landing} (hSucceeded : landing.Succeeded)
    (hAdvances : Advances landing after) : after.Succeeded := by
  rcases hAdvances with ⟨hOutstanding, -⟩ | rfl
  · simp only [Succeeded] at hSucceeded
    simp [Outstanding, hSucceeded] at hOutstanding
  · exact hSucceeded

/-- One thing that the chain may do. -/
def settle (landing : Landing) : Landing :=
  if landing.Outstanding then { landing with outcome := some .succeeded }
  else { landing with expired := true }

theorem advances_settle : Advances landing landing.settle := by
  unfold settle
  split
  · rename_i hOutstanding
    exact .inl ⟨hOutstanding, _, rfl⟩
  · exact .inr rfl

theorem live_of_advances {after : Landing} (hAdvances : Advances landing after)
    (hLive : after.Live) : landing.Live := by
  rcases hAdvances with ⟨hOutstanding, -⟩ | rfl
  · exact .inr hOutstanding
  · rcases hLive with hSucceeded | hOutstanding
    · exact .inl hSucceeded
    · simp [Outstanding] at hOutstanding

end Landing

/-- The answers a request may get and what it changes. -/
def effect : (call : RpcCall) → (String → Landing) → RpcReply call → (String → Landing) → Prop
  | .sendTransaction signature, before, reply, after =>
      let forwarded := Function.update before signature (before signature).forward
      match reply with
      | .accepted => after = forwarded
      | .refused _ _ => after = before
      | .failed _ => after = before ∨ after = forwarded
  | .signatureStatus signature _, before, reply, after =>
      after = before ∧ (reply = .ok (some .succeeded) → (before signature).Succeeded)
  | .isBlockhashValid _, before, _, after => after = before

theorem landing_of_effect {call : RpcCall} {before after : String → Landing}
    {reply : RpcReply call} (hEffect : effect call before reply after) (signature : String) :
    after signature = before signature ∨
      call = .sendTransaction signature ∧ after signature = (before signature).forward := by
  cases call with
  | signatureStatus other searched => exact .inl (by rw [hEffect.1])
  | isBlockhashValid other => exact .inl (by rw [show after = before from hEffect])
  | sendTransaction other =>
      have hForwarded : after = Function.update before other (before other).forward →
          after signature = before signature ∨
            RpcCall.sendTransaction other = .sendTransaction signature ∧
              after signature = (before signature).forward := by
        rintro rfl
        by_cases hSame : signature = other
        · subst hSame
          exact .inr ⟨rfl, Function.update_self ..⟩
        · exact .inl (Function.update_of_ne hSame ..)
      cases reply with
      | accepted => exact hForwarded hEffect
      | refused preflight error => exact .inl (by rw [show after = before from hEffect])
      | failed error =>
          rcases hEffect with hSame | hForward
          · exact .inl (by rw [hSame])
          · exact hForwarded hForward

/-! ### The broadcast -/

/-- Whether the bytes of a transaction may have reached a node before. -/
inductive PriorBroadcast where
  | none
  | possible
deriving DecidableEq

/-- Why a transaction was not confirmed. -/
inductive BroadcastFailure where
  | notLanded (error : String)
  | failedOnChain (error : String)
  | unknown (error : String)
deriving DecidableEq

/-- How a transaction was confirmed. -/
inductive Settled where
  | confirmed (signature : String)
  /-- It had landed before this caller sent it. -/
  | alreadyLanded (signature : String)
deriving DecidableEq

def BroadcastFailure.display : BroadcastFailure → String
  | notLanded error => "not landed: " ++ error
  | failedOnChain error => "failed on-chain: " ++ error
  | unknown error => "outcome unknown: " ++ error

/-- What a broadcast has come to, if it has ended. -/
abbrev Broadcast (Outcome : Type) := Option (Except BroadcastFailure Outcome)

abbrev RpcM (Result : Type) := Program RpcCall RpcReply Result

/-- The loop of `send_and_confirm_settlement`, for a number of rounds. -/
def confirmSettlement (signature : String) : ℕ → RpcM (Broadcast Settled)
  | 0 => return none
  | rounds + 1 => do
      match ← Program.request (RpcCall.signatureStatus signature false) with
      | .error error => return some (.error (.unknown error))
      | .ok (some .succeeded) => return some (.ok (.confirmed signature))
      | .ok (some (.failed error)) => return some (.error (.failedOnChain error))
      | .ok none =>
          match ← Program.request (RpcCall.isBlockhashValid signature) with
          | .error error => return some (.error (.unknown error))
          | .ok true => confirmSettlement signature rounds
          | .ok false =>
              -- it may have landed between the two reads
              match ← Program.request (RpcCall.signatureStatus signature true) with
              | .error error => return some (.error (.unknown error))
              | .ok none =>
                  return some (.error (.unknown
                    "blockhash expired with no status recorded for the transaction"))
              | .ok (some (.failed error)) => return some (.error (.failedOnChain error))
              | .ok (some .succeeded) => confirmSettlement signature rounds

/-- What a refused send has come to, from the status recorded for the transaction. -/
def reconcileRefusal (signature error : String) (neverSent : Bool) (rounds : ℕ) :
    RpcM (Broadcast Settled) := do
  match ← Program.request (RpcCall.signatureStatus signature true) with
  | .error error => return some (.error (.unknown error))
  | .ok none =>
      return some (.error (if neverSent then .notLanded error else .unknown error))
  | .ok (some (.failed error)) => return some (.error (.failedOnChain error))
  | .ok (some .succeeded) =>
      if neverSent then return some (.ok (.alreadyLanded signature))
      else confirmSettlement signature rounds

def sendAndConfirmSettlement (signature : String) (prior : PriorBroadcast) (rounds : ℕ) :
    RpcM (Broadcast Settled) := do
  match ← Program.request (RpcCall.sendTransaction signature) with
  | .accepted => confirmSettlement signature rounds
  | .refused preflight error =>
      reconcileRefusal signature error (prior = .none ∧ preflight) rounds
  | .failed error => return some (.error (.unknown error))

/-- `send_and_confirm_with_outcome`: the signature, however it was confirmed. -/
def sendAndConfirmWithOutcome (signature : String) (prior : PriorBroadcast) (rounds : ℕ) :
    RpcM (Broadcast String) := do
  let broadcast ← sendAndConfirmSettlement signature prior rounds
  return broadcast.map fun outcome => outcome.map fun
    | .confirmed signature => signature
    | .alreadyLanded signature => signature

def sendAndConfirmTransaction (signature : String) (rounds : ℕ) : RpcM (Broadcast String) :=
  sendAndConfirmWithOutcome signature .possible rounds

/-! ### Which requests a broadcast makes -/

/-- The request is about the transaction, and sends nothing. -/
def Reads (signature : String) (call : RpcCall) : Prop :=
  (∃ history, call = .signatureStatus signature history) ∨ call = .isBlockhashValid signature

end PayKit.Rpc
