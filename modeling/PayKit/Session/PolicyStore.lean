import PayKit.Channel.Stores
import PayKit.Control.Update

/-!
# The policy of a session channel

`mpp/server/session_binding.rs`: every record carries the policy that its channel was opened
under, and a request server reads and changes records through `BoundStore`, which refuses those
of other policies, those whose open is terminal and those whose open is pending. Only opening
and recovering a channel use the store directly.

The policy and the configuration that a binding holds, and how it is written as JSON, are
parameters.
-/

namespace PayKit.Session

open Channel Control Encoding Store

/-- `Binding`: the version and what the channel is bound to. -/
structure PolicyBinding (Scope : Type) where
  version : ℕ
  scope : Scope
deriving DecidableEq

def PolicyBinding.new {Scope : Type} (scope : Scope) : PolicyBinding Scope where
  version := 1
  scope

structure BindingCodec (Scope : Type) where
  toValue : PolicyBinding Scope → Except String Json
  fromValue : Json → Option (PolicyBinding Scope)

def BindingCodec.RoundTrips {Scope : Type} (codec : BindingCodec Scope) : Prop :=
  ∀ binding value, codec.toValue binding = .ok value → codec.fromValue value = some binding

/-- The errors of session operations. -/
inductive SessionError where
  | other (reason : String)
  | rpc (reason : String)
deriving DecidableEq

def SessionError.display : SessionError → String
  | other reason => reason
  | rpc reason => "RPC error: " ++ reason

/-- `store_err`. -/
def SessionError.ofStore (error : StoreError) : SessionError :=
  .other error.display

def bindingKey : String := "mppSessionBinding"
def openTerminalKey : String := "mppSessionOpenTerminal"
def openTerminalError : String :=
  "session open expired without funding; request a new channel"

def sessionOpenIsTerminal (state : ChannelState) : Bool :=
  (state.extra.lookup openTerminalKey).isSome

/-- The channel waits for the confirmation of its open. -/
def opensChannel (state : ChannelState) : Bool :=
  state.pendingSetup.any (·.opensChannel)

section

variable {Scope : Type} [DecidableEq Scope] (codec : BindingCodec Scope)

/-- `Binding::insert`. -/
def insertBinding (binding : PolicyBinding Scope) (state : ChannelState) :
    Except SessionError ChannelState := do
  let value ← (codec.toValue binding).mapError fun error =>
    SessionError.other ("serialize session binding: " ++ error)
  return { state with
    schemaVersion := channelStateSchemaVersion
    extra := insertMember state.extra bindingKey value }

def readBinding (state : ChannelState) : Except SessionError (Option (PolicyBinding Scope)) :=
  match state.extra.lookup bindingKey with
  | none => .ok none
  | some value =>
      match codec.fromValue value with
      | none => .error (.other "invalid session policy binding")
      | some binding =>
          if binding.version = 1 then .ok (some binding)
          else .error (.other "unsupported session policy binding version")

def requireBinding (expected : Option (PolicyBinding Scope)) (allowPending : Bool)
    (state : ChannelState) : Except SessionError Unit := do
  refuseIf (sessionOpenIsTerminal state) (.other openTerminalError : SessionError)
  let binding ← readBinding codec state
  refuseIf (binding ≠ expected)
    (.other "channel session policy binding mismatch" : SessionError)
  refuseIf (¬allowPending ∧ opensChannel state)
    (.other "channel open is pending confirmation" : SessionError)

end

/-! ### Stores -/

/-- Operations of a store that may fail. -/
abbrev StoreUpdate (Result : Type) := Update MemoryChannelStore StoreError Result

namespace InnerStore

def getChannel (channelId : String) : StoreUpdate (Option ChannelState) :=
  fun store => (.ok (store channelId), store)

/-- `update_channel`. The updater returns what it captures, and the new record. -/
def updateChannel {Result : Type} (channelId : String)
    (updater : Option ChannelState → Except StoreError (Result × ChannelState)) :
    StoreUpdate (Result × ChannelState) :=
  fun store =>
    match updater (store channelId) with
    | .ok (result, updated) =>
        (.ok (result, updated), Function.update store channelId (some updated))
    | .error error => (.error error, store)

def readChannel {Result : Type} (channelId : String)
    (reader : Option ChannelState → Except StoreError Result) : StoreUpdate Result :=
  fun store => (reader (store channelId), store)

/-- `list_channels`, for the identifiers that the store holds. -/
def listChannels (channelIds : List String) : StoreUpdate (List ChannelState) :=
  fun store => (.ok (channelIds.filterMap store), store)

end InnerStore

/-- A mutator that fails leaves nothing. -/
def mutated {Result : Type} (mutator : ChannelMutator Result) (state : ChannelState) :
    Except StoreError (Result × ChannelState) :=
  match mutator state with
  | (.ok result, updated) => .ok (result, updated)
  | (.error error, _) => .error error

/-- `BoundStore`, with what its binding is made of and the codec of that. -/
structure BoundStore (Scope : Type) where
  codec : BindingCodec Scope
  scope : Option Scope

namespace BoundStore

/-- The binding of the records of this server; a server without a policy has none. -/
def binding {Scope : Type} (bound : BoundStore Scope) : Option (PolicyBinding Scope) :=
  bound.scope.map .new

variable {Scope : Type} [DecidableEq Scope] (bound : BoundStore Scope)

def check (state : ChannelState) : Except StoreError Unit :=
  (requireBinding bound.codec bound.binding false state).mapError fun error =>
    StoreError.internal error.display

/-- The check of a record that is there. -/
def checkExisting : Option ChannelState → Except StoreError Unit
  | some state => bound.check state
  | none => .ok ()

def getChannel (channelId : String) : StoreUpdate (Option ChannelState) := do
  let state ← InnerStore.getChannel channelId
  Update.check (bound.checkExisting state)
  return state

def updateChannel {Result : Type} (channelId : String)
    (updater : Option ChannelState → Except StoreError (Result × ChannelState)) :
    StoreUpdate (Result × ChannelState) :=
  InnerStore.updateChannel channelId fun state => do
    bound.checkExisting state
    let (result, updated) ← updater state
    bound.check updated
    return (result, updated)

def readChannel {Result : Type} (channelId : String)
    (reader : Option ChannelState → Except StoreError Result) : StoreUpdate Result :=
  InnerStore.readChannel channelId fun state => do
    bound.checkExisting state
    reader state

/-- `mutate_channel`; `reserve_authorization` is this with a mutator of its own. -/
def mutateChannel {Result : Type} (channelId : String) (seed : Option ChannelState)
    (mutator : ChannelMutator Result) : StoreUpdate Result := do
  let (result, _) ← bound.updateChannel channelId fun state => do
    let state ← okOr (state.or seed) channelNotFound
    mutated mutator state
  return result

def putChannel (channelId : String) (state : ChannelState) : StoreUpdate Unit := do
  let _ ← bound.updateChannel channelId fun existing => do
    refuseIf existing.isSome (.internal "Channel already exists" : StoreError)
    return ((), state)
  return ()

def listChannels (channelIds : List String) : StoreUpdate (List ChannelState) := do
  let channels ← InnerStore.listChannels channelIds
  return channels.filter fun state => (bound.check state).isOk

def advanceCumulative (channelId : String) (expected new : ℕ) : StoreUpdate Bool := do
  let (changed, _) ← bound.updateChannel channelId fun state => do
    let state ← okOr state channelNotFound
    if state.cumulative = expected then return (true, { state with cumulative := new })
    else return (false, state)
  return changed

def updateDeposit (channelId : String) (deposit : ℕ) : StoreUpdate Unit :=
  bound.mutateChannel channelId none fun state => (.ok (), { state with deposit })

def markSealed (channelId : String) : StoreUpdate Unit :=
  bound.mutateChannel channelId none fun state => (.ok (), state.markSealed)

/-- The deadline moves only forwards, and only while no close is under way. -/
def touched (lifecycle : ChannelLifecycle) (state : ChannelState) : ChannelState :=
  if ¬state.sealed ∧ state.closeRequestedAt = none ∧ state.finalCumulative = none ∧
      state.lifecycle.all (fun current => current.closeAfter < lifecycle.closeAfter) then
    { state with lifecycle := some lifecycle }
  else state

def touchChannelLifecycle (channelId : String) (lifecycle : ChannelLifecycle) :
    StoreUpdate ChannelState := do
  let (_, state) ← bound.updateChannel channelId fun state => do
    let state ← okOr state channelNotFound
    return ((), touched lifecycle state)
  return state

def deleteChannel (_channelId : String) : StoreUpdate Unit :=
  Update.check (.error (.internal "request server cannot delete channels"))

def deleteChannelIf (_channelId : String) (_approve : ChannelState → Bool) : StoreUpdate Bool :=
  Update.check (.error (.internal "request server cannot delete channels"))

def markFinalized (_channelId : String) : StoreUpdate Unit :=
  Update.check (.error (.internal "request server cannot finalize channels"))

end BoundStore

end PayKit.Session
