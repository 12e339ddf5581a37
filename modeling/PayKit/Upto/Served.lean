import PayKit.Concurrency.Interleaving
import PayKit.Store.KeyValue
import PayKit.X402.Error

/-!
# Settling a served upto request

`settle_served_upto_with` of `gate.rs`: the settlement of a request whose handler already ran.
It settles inline, resolves the settlements whose outcome it does not know, answers, and goes
on in the background. The answer decides whether the response is released.

Submitting a settlement and resolving one are the calls, and so is the answer, because the
background work comes after it. The channel seals at most once, and a settlement that was
submitted may land at any later time.
-/

namespace PayKit.Upto

open Concurrency X402

/-! ### The calls -/

structure UptoSettlementResponse where
  success : Bool
  errorReason : Option String
  payer : Option String
  transaction : String
  network : String
  amount : String
deriving DecidableEq

/-- What a receipt needs of a verified open. -/
structure ServedOpen where
  payer : String
  network : String

def settlementResponse (opened : ServedOpen) (actual : ℕ) (signature : String) :
    UptoSettlementResponse where
  success := true
  errorReason := none
  payer := some opened.payer
  transaction := signature
  network := opened.network
  amount := actual.repr

inductive ServedCall where
  | settle (amount : ℕ)
  | resolve (amount : ℕ) (signature : String)
  /-- `settle_served_upto_with` returns. -/
  | answer (receipt : Option UptoSettlementResponse)
  /-- A submitted settlement lands. -/
  | land (signature : String)
  /-- A submitted settlement fails, or can not land any more. -/
  | die (signature : String)

abbrev ServedReply : ServedCall → Type
  | .settle _ => Except Error UptoSettlementResponse
  | .resolve _ _ => Except Error (Option UptoSettlementResponse)
  | .answer _ => Unit
  | .land _ => Unit
  | .die _ => Unit

/-- What the chain knows of a settlement. -/
inductive Submission where
  | unsent
  | submitted
  | dead
deriving DecidableEq

/-- The settlements of one channel, which seals once. -/
structure SettlementChain where
  submission : String → Submission
  landed : Option String

namespace SettlementChain

variable (chain : SettlementChain) (signature : String)

def Charges : Prop :=
  chain.landed = some signature ∨
    chain.landed = none ∧ chain.submission signature = .submitted

/-- The settlement did not land and never will. -/
def NeverLands : Prop :=
  chain.landed ≠ some signature ∧ (chain.submission signature = .dead ∨ chain.landed ≠ none)

def submit : SettlementChain :=
  { chain with submission := Function.update chain.submission signature .submitted }

def kill : SettlementChain :=
  { chain with submission := Function.update chain.submission signature .dead }

end SettlementChain

/-- The answers a call may get and what it changes. The signature of a settlement determines
the amount that it settles. -/
def servedEffect (opened : ServedOpen) (amountOf : String → ℕ) : (call : ServedCall) →
    SettlementChain → ServedReply call → SettlementChain → Prop
  | .settle amount, before, reply, after =>
      (∃ signature, reply = .ok (settlementResponse opened amount signature) ∧
        before.landed = none ∧ before.submission signature ≠ .dead ∧
          amountOf signature = amount ∧ after = { before with landed := some signature }) ∨
      (∃ error, reply = .error error ∧ (∀ signature, error ≠ .settlementPending signature) ∧
        after = before) ∨
      ∃ signature, reply = .error (.settlementPending signature) ∧
        before.submission signature ≠ .dead ∧ amountOf signature = amount ∧
          after = before.submit signature
  | .resolve amount signature, before, reply, after =>
      after = before ∧
        ((reply = .ok (some (settlementResponse opened amount signature)) ∧
            before.landed = some signature) ∨
          (reply = .ok none ∧ before.NeverLands signature) ∨ ∃ error, reply = .error error)
  | .answer _, before, _, after => after = before
  | .land signature, before, _, after =>
      (before.landed = none ∧ before.submission signature = .submitted ∧
        after = { before with landed := some signature }) ∨ after = before
  | .die signature, before, _, after =>
      (before.landed ≠ some signature ∧ before.submission signature = .submitted ∧
        after = before.kill signature) ∨ after = before

abbrev ServedM (Result : Type) := Program ServedCall ServedReply Result

/-! ### The settlement -/

/-- `UptoSettlementRetry`, without its delays. -/
structure UptoSettlementRetry where
  inlineAttempts : ℕ
  backgroundAttempts : ℕ

def didNotRun : Error :=
  .other "settlement did not run"

/-- The signature of a settlement that was submitted with an unknown outcome. -/
def pendingSignature : Error → List String
  | .settlementPending signature => [signature]
  | _ => []

/-- The rounds of `retry_upto_settlement` before the answer, with the signatures that they
leave unresolved. -/
def settleInline (actual : ℕ) : ℕ → Option Error → List String →
    ServedM (Except Error UptoSettlementResponse × List String)
  | 0, last, submitted => return (.error (last.getD didNotRun), submitted)
  | attempts + 1, _, submitted => do
      match ← Program.request (ServedCall.settle actual) with
      | .ok settlement => return (.ok settlement, submitted)
      | .error error =>
          settleInline actual attempts (some error) (submitted ++ pendingSignature error)

/-- The loop of `resolve_pending` over the signatures, with those that are still unknown. -/
def resolveEach (actual : ℕ) : List String → List String →
    ServedM (Option UptoSettlementResponse × List String)
  | [], unknown => return (none, unknown)
  | signature :: pending, unknown => do
      match ← Program.request (ServedCall.resolve actual signature) with
      -- the signatures that were not looked at are dropped as well
      | .ok (some settlement) => return (some settlement, [])
      | .ok none => resolveEach actual pending unknown
      | .error _ => resolveEach actual pending (unknown ++ [signature])

def resolvePending (actual : ℕ) (pending : List String) :
    ServedM (Option UptoSettlementResponse × List String) :=
  resolveEach actual pending []

/-- The rounds of resolution before the answer. -/
def resolveInline (actual : ℕ) : ℕ → List String →
    ServedM (Option UptoSettlementResponse × List String)
  | 0, submitted => return (none, submitted)
  | attempts + 1, submitted => do
      if submitted = [] then return (none, submitted)
      else
        let (landed, left) ← resolvePending actual submitted
        if landed.isSome then return (landed, left)
        else resolveInline actual attempts left

/-- The outcome of the inline settlement, and the signatures that it leaves unresolved. -/
def settleAndResolve (actual attempts : ℕ) :
    ServedM (Option UptoSettlementResponse × List String) := do
  let (outcome, submitted) ← settleInline actual (max attempts 1) none []
  match outcome with
  | .ok settlement => return (some settlement, submitted)
  | .error _ => resolveInline actual (max attempts 1) submitted

/-- The receipt that names a settlement which may still land. -/
def pendingReceipt (opened : ServedOpen) (actual : ℕ) (submitted : List String) :
    UptoSettlementResponse where
  success := false
  errorReason := some "settlement_pending"
  payer := some opened.payer
  transaction := submitted.getLast?.getD ""
  network := opened.network
  amount := actual.repr

/-- The background work for a released response whose settlement is unknown. -/
def settleReleased (actual : ℕ) : ℕ → List String → ServedM Unit
  | 0, _ => return ()
  | attempts + 1, submitted => do
      let (landed, left) ← resolvePending actual submitted
      if landed.isSome then return ()
      else
        match ← Program.request (ServedCall.settle actual) with
        | .ok _ => return ()
        | .error error => settleReleased actual attempts (left ++ pendingSignature error)

/-- The background work for a withheld response: `retry_upto_settlement` of zero. -/
def refundWithheld : ℕ → ServedM Unit
  | 0 => return ()
  | attempts + 1 => do
      match ← Program.request (ServedCall.settle 0) with
      | .ok _ => return ()
      | .error _ => refundWithheld attempts

/-- `settle_served_upto_with`, and the background task that it spawns. -/
def settleServedUptoWith (opened : ServedOpen) (actual : ℕ) (retry : UptoSettlementRetry) :
    ServedM Unit := do
  let (landed, submitted) ← settleAndResolve actual retry.inlineAttempts
  match landed with
  | some settlement => Program.request (ServedCall.answer (some settlement))
  | none =>
      if submitted ≠ [] then do
        Program.request (ServedCall.answer (some (pendingReceipt opened actual submitted)))
        settleReleased actual (max retry.backgroundAttempts 1) submitted
      else do
        Program.request (ServedCall.answer none)
        refundWithheld (max retry.backgroundAttempts 1)

/-! ### The release of the response -/

inductive UptoGateResponse (Body : Type) where
  | released (body : Body) (header : String × String)
  | badGateway (message : String)

/-- `release_upto_response`, with the encoding of the settlement header. -/
def releaseUptoResponse {Body Failure : Type}
    (settlementHeader : UptoSettlementResponse → Option (String × String))
    (body : Except Failure Body) (settlement : Option UptoSettlementResponse) :
    UptoGateResponse Body :=
  match body with
  | .error _ => .badGateway "resource response body failed or exceeded the metered size limit"
  | .ok body =>
      match settlement.bind settlementHeader with
      | some header => .released body header
      | none =>
          .badGateway "payment settlement could not be confirmed; the response is withheld"

/-! ### The guard of an open channel -/

/-- A request between its open and its settlement. -/
structure OpenedUpto where
  /-- The guard still holds the open. -/
  held : Bool
  cell : Option ℕ
  /-- The amounts that the open was handed to a settlement with. -/
  settlements : List ℕ
deriving DecidableEq

inductive RequestMove where
  /-- The handler meters an amount. -/
  | charge (baseUnits : ℕ)
  /-- The request is dropped, within an async runtime or outside of one. -/
  | drop (runtime : Bool)
  /-- The handler's body is complete: `OpenedUpto::into_open` and `ServedUpto::settle`. -/
  | settle

def OpenedUpto.meteredCharge (request : OpenedUpto) : ℕ :=
  request.cell.getD 0

/-- One move of a request that may be charged up to `maxBaseUnits`. -/
def OpenedUpto.apply (maxBaseUnits : ℕ) (request : OpenedUpto) : RequestMove → OpenedUpto
  | .charge baseUnits => { request with cell := some (min baseUnits maxBaseUnits) }
  | .drop runtime =>
      if request.held then
        { request with
          held := false
          settlements :=
            if runtime then request.settlements ++ [request.meteredCharge]
            else request.settlements }
      else request
  | .settle =>
      if request.held then
        { request with
          held := false
          settlements := request.settlements ++ [request.meteredCharge] }
      else request

def requestRun (maxBaseUnits : ℕ) (moves : List RequestMove) : OpenedUpto :=
  moves.foldl (OpenedUpto.apply maxBaseUnits) ⟨true, none, []⟩

/-! ### Who runs -/

inductive ServedParty where
  | settlement
  | chain
deriving DecidableEq

abbrev ServedWorld := World ServedParty SettlementChain ServedCall ServedReply

abbrev ServedRun := Config ServedParty SettlementChain ServedCall ServedReply Unit

/-- What the chain does with settlements. -/
inductive ChainMove where
  | land (signature : String)
  | die (signature : String)

def chainMoves : List ChainMove → ServedM Unit
  | [] => return ()
  | .land signature :: moves => do
      Program.request (ServedCall.land signature)
      chainMoves moves
  | .die signature :: moves => do
      Program.request (ServedCall.die signature)
      chainMoves moves

/-- The settlement of an open whose channel no settlement was submitted for. -/
def servedStart (opened : ServedOpen) (actual : ℕ) (retry : UptoSettlementRetry)
    (moves : List ChainMove) : ServedRun where
  world := ⟨⟨fun _ => .unsent, none⟩, []⟩
  threads
    | .settlement => settleServedUptoWith opened actual retry
    | .chain => chainMoves moves

/-- The node and the chain, in any order. -/
def servedEnvironment (opened : ServedOpen) (amountOf : String → ℕ) :
    Environment ServedParty SettlementChain ServedCall ServedReply where
  effect := servedEffect opened amountOf
  allowed _ _ := True

end PayKit.Upto
