import PayKit.Channel.State
import PayKit.Control.Refusal

/-!
# The deployment a record belongs to

`ChannelBinding` of `core/store.rs` and the grace period of the channel, both kept among
the fields of `extra`. How a binding is read from JSON belongs to the serialization
library and is a parameter.
-/

namespace PayKit.Channel

open Control Encoding Machine Store

structure ChannelBinding where
  scheme : String
  payTo : Option String
  network : Option String
  programId : Option String
deriving DecidableEq

namespace ChannelBinding

/-- Both sides have recorded the field, and they disagree. -/
def differs (recorded current : Option String) : Bool :=
  recorded.isSome ∧ current.isSome ∧ recorded ≠ current

/-- The first recorded field that `current` disagrees with. -/
def mismatch (binding current : ChannelBinding) : Option String :=
  if binding.scheme ≠ current.scheme then some "scheme"
  else if differs binding.payTo current.payTo then some "payTo"
  else if differs binding.network current.network then some "network"
  else if differs binding.programId current.programId then some "programId"
  else none

def isComplete (binding : ChannelBinding) : Bool :=
  binding.payTo.isSome ∧ binding.network.isSome ∧ binding.programId.isSome

/-- `filled_from`: a field that is not recorded is taken from `current`. -/
def filledFrom (binding current : ChannelBinding) : ChannelBinding where
  scheme := binding.scheme
  payTo := binding.payTo.or current.payTo
  network := binding.network.or current.network
  programId := binding.programId.or current.programId

/-- The binding as it is stored; a field that is not recorded is left out. -/
def toJson (binding : ChannelBinding) : Json :=
  .object (("scheme", .text binding.scheme) ::
    [("payTo", binding.payTo), ("network", binding.network),
      ("programId", binding.programId)].filterMap fun field =>
        field.2.map fun value => (field.1, .text value))

end ChannelBinding

def channelBindingKey : String := "channelBinding"

def gracePeriodKey : String := "gracePeriod"

namespace ChannelState

variable (state : ChannelState) (readBinding : Json → Except String ChannelBinding)

def binding : Except StoreError (Option ChannelBinding) :=
  match state.extra.lookup channelBindingKey with
  | none => .ok none
  | some value =>
      match readBinding value with
      | .ok binding => .ok (some binding)
      | .error error =>
          .error (.internal s!"channel {state.channelId} has an unreadable binding: {error}")

def checkBinding (current : ChannelBinding) : Except StoreError Unit := do
  let recorded ← state.binding readBinding
  match recorded.bind (·.mismatch current) with
  | none => return ()
  | some field =>
      .error (.internal
        s!"channel {state.channelId} belongs to another deployment ({field} differs)")

def checkBindingComplete (current : ChannelBinding) : Except StoreError Unit := do
  state.checkBinding readBinding current
  let recorded ← state.binding readBinding
  refuseIf (¬(recorded = some current ∧ current.isComplete))
    (.internal s!"channel {state.channelId} has no complete deployment binding")

def setBinding (binding : ChannelBinding) : ChannelState :=
  { state with extra := insertMember state.extra channelBindingKey binding.toJson }

def adoptBinding (current : ChannelBinding) : Except StoreError ChannelState := do
  let recorded ← state.binding readBinding
  let adopted := (recorded.map (·.filledFrom current)).getD current
  return if recorded = some adopted then state else state.setBinding adopted

/-- `grace_period`: a recorded value that fits 32 bits. -/
def gracePeriod : Option ℕ :=
  (state.extraU64 gracePeriodKey).filter (· < 2 ^ 32)

def setGracePeriod (gracePeriod : ℕ) : ChannelState :=
  { state with extra := insertMember state.extra gracePeriodKey (.unsigned gracePeriod) }

def checkGracePeriod (withdrawDelay : ℕ) : Except StoreError Unit :=
  match state.gracePeriod with
  | some recorded =>
      refuseIf (recorded ≠ withdrawDelay)
        (.internal (s!"channel {state.channelId} has a {recorded}s grace period, not the " ++
          s!"{withdrawDelay}s this server requires"))
  | none => .error (.internal s!"channel {state.channelId} has no recorded grace period")

end ChannelState

end PayKit.Channel
