import PayKit.Accounting.Prepaid
import PayKit.Session.RequestLifecycle

/-!
# What a session record goes through

`RecordMove` is the inversion lemma of the request server: it lists all that one update of the
store can do to the record of a channel, with what the server knew when it wrote. `Held` records
with the time of their writing make up the history of a channel, and a `RecordHistory` is one in
which every record follows from the one before by a move. Nothing here runs a program; the
programs are shown to write only such histories, and what is proved of histories then holds of
every run.

Each move is a move of the prepaid account that the record stands for.
-/

namespace PayKit.Session

open Accounting Channel Concurrency Control Encoding Machine Store
open Metered (CommitTask)
open RequestServer (FinalVoucher)

/-- The account that a record stands for. A channel is funded once its open is confirmed. -/
def accountOf (state : ChannelState) : Account where
  deposit := state.deposit
  authorized := state.cumulative
  spent := state.spentAmount
  settled := state.settledOnChain
  closing := state.closeRequestedAt
  fixed := state.finalCumulative
  isSealed := state.sealed
  funded := ¬opensChannel state

/-- The total that a request was charged, as the record has it. -/
def totalFor (uses : List ProcessedUse) (key : String) : ℕ :=
  ((uses.find? fun entry => entry.idempotencyKey = key).bind ProcessedUse.amount).getD 0

/-- What a move leaves as it is unless it says so. -/
structure SameTerms (before after : ChannelState) : Prop where
  channelId : after.channelId = before.channelId
  authorizedSigner : after.authorizedSigner = before.authorizedSigner
  voucherSigner : after.voucherSigner = before.voucherSigner
  payer : after.payer = before.payer
  openingChallengeId : after.openingChallengeId = before.openingChallengeId
  authentication : after.authentication = before.authentication

structure SameObservation (before after : ChannelState) : Prop where
  observedAt : after.onchainObservedAt = before.onchainObservedAt
  observedSlot : after.onchainObservedSlot = before.onchainObservedSlot
  terminal : sessionOpenIsTerminal after = sessionOpenIsTerminal before

/-- A move that concerns neither money nor the chain. -/
structure Aside (before after : ChannelState) : Prop extends SameTerms before after,
    SameObservation before after where
  account : accountOf after = accountOf before
  signature : after.highestVoucherSignature = before.highestVoucherSignature
  expiresAt : after.highestVoucherExpiresAt = before.highestVoucherExpiresAt
  uses : after.processedUses = before.processedUses
  topUps : after.processedTopupSignatures = before.processedTopupSignatures

section

variable {Scope : Type} (server : RequestServer Scope)

/-- A voucher over these terms verifies. -/
def RequestServer.Signed (channelId : String) (cumulative : ℕ) (expiresAt : ℤ)
    (signature signer : String) : Prop :=
  server.checkSignature channelId cumulative expiresAt signature signer = .ok ()

/-- The record takes charges: it is open, and the chain was read recently enough. -/
structure RequestServer.Admits (time : ℕ) (state : ChannelState) : Prop where
  opened : (accountOf state).Opened
  live : sessionOpenIsTerminal state = false
  recent : time ≤ state.onchainObservedAt + server.config.snapshotMaxAge

/-- The record that an open reserves. -/
structure RequestServer.Reserved (channelId : String) (state : ChannelState) : Prop where
  channelId : state.channelId = channelId
  voucherSigner : state.voucherSigner = server.voucherSigner
  authorizedSigner : server.voucherSigner = operatorSigner →
    state.authorizedSigner = server.operator
  pending : opensChannel state = true
  live : sessionOpenIsTerminal state = false
  account : accountOf state =
    { deposit := 0, authorized := 0, spent := 0, settled := 0, closing := none, fixed := none,
      isSealed := false, funded := false }
  signature : state.highestVoucherSignature = none
  uses : state.processedUses = []
  topUps : state.processedTopupSignatures = []

/-- What the server has been asked and told. -/
structure Knowledge where
  /-- A total was asked for the request of this challenge and key on the channel. -/
  asked : String → String → String → ℕ → Prop
  /-- A read that began at this time by the clock showed the channel open. -/
  sawOpen : String → ℕ → Prop
  /-- An open of this deposit landed. -/
  landed : String → ℕ → Prop
  /-- The chain was seen to have paid this out. -/
  paid : String → ℕ → Prop
  /-- The top-up of this signature was finalized, for this amount. -/
  finalized : String → String → ℕ → Prop

structure Knowledge.Le (earlier later : Knowledge) : Prop where
  asked : ∀ channelId challengeId key total, earlier.asked channelId challengeId key total →
    later.asked channelId challengeId key total
  sawOpen : ∀ channelId time, earlier.sawOpen channelId time → later.sawOpen channelId time
  landed : ∀ channelId deposit, earlier.landed channelId deposit → later.landed channelId deposit
  paid : ∀ channelId settled, earlier.paid channelId settled → later.paid channelId settled
  finalized : ∀ channelId signature amount, earlier.finalized channelId signature amount →
    later.finalized channelId signature amount

variable (known : Knowledge) (channelId : String) (time : ℕ)

/-- What an update of the store can do to a record. -/
inductive RecordMove : ChannelState → ChannelState → Prop where
  | aside {before after : ChannelState} (same : Aside before after) : RecordMove before after
  /-- A new voucher of the client pays for an action. -/
  | voucher {before : ChannelState} {voucher : Voucher} {amount lastActivityAt : ℕ}
      {lifecycle : Option ChannelLifecycle}
      (admits : server.Admits time before)
      (rises : before.cumulative < voucher.newCumulative)
      (within : voucher.newCumulative ≤ before.deposit)
      (covered : amount ≤ voucher.newCumulative - before.spentAmount)
      (signed : server.Signed channelId voucher.newCumulative voucher.expiresAt voucher.signature
        before.authorizedSigner) :
      RecordMove before (accepted voucher { before with
        spentAmount := before.spentAmount + amount
        lastActivityAt
        lifecycle })
  /-- The operator signs for a request that it serves. -/
  | operator {before : ChannelState} {delta : ℕ} {signature : String} {entry : ProcessedUse}
      (admits : server.Admits time before)
      (within : before.cumulative + delta ≤ before.deposit)
      (signed : server.Signed channelId (before.cumulative + delta) 0 signature
        before.authorizedSigner)
      (total : entry.amount = some (totalFor before.processedUses entry.idempotencyKey + delta))
      (asked : ∀ total, entry.amount = some total →
        known.asked channelId entry.challengeId entry.idempotencyKey total)
      (recorded : entry.voucherSignature = signature) :
      RecordMove before (server.operatorCharged before time (before.cumulative + delta)
        (before.spentAmount + delta) signature entry)
  /-- A reserved delivery is committed by a voucher of the client. -/
  | commit {before : ChannelState} {task : CommitTask} {nowMs : ℕ}
      {index : Fin before.pendingDeliveries.length}
      (funded : opensChannel before = false) (unsealed : before.sealed = false)
      (unfixed : before.finalCumulative = none)
      (pays : before.cumulative + (before.pendingDeliveries.get index).amount = task.newCumulative)
      (within : task.newCumulative ≤ before.deposit)
      (signed : server.Signed channelId task.newCumulative task.expiresAt task.signature
        before.authorizedSigner) :
      RecordMove before (task.applyTo server.config nowMs before index
        (before.spentAmount + (before.pendingDeliveries.get index).amount))
  /-- The client closes the channel, and what was delivered is paid. -/
  | close {before : ChannelState} {final : FinalVoucher} {owed requestedAt : ℕ}
      {pendingDeliveries : List PendingDelivery}
      (opened : (accountOf before).Opened)
      (owes : owed = 0 ∨ saturatingAdd before.cumulative owed ≤ final.cumulative ∧
        before.spentAmount + owed ≤ u64Max)
      (rises : before.cumulative ≤ final.cumulative)
      (within : final.cumulative = before.cumulative ∨ final.cumulative ≤ before.deposit)
      (carried : final.cumulative = before.cumulative ∧
          final.signature = before.highestVoucherSignature ∧
          final.expiresAt = before.highestVoucherExpiresAt ∨
        ∃ signature, final.signature = some signature ∧ server.Signed channelId final.cumulative
          (final.expiresAt.getD 0) signature before.authorizedSigner) :
      RecordMove before { before with
        spentAmount := before.spentAmount + owed
        pendingDeliveries
        cumulative := final.cumulative
        highestVoucherSignature := final.signature
        highestVoucherExpiresAt := final.expiresAt
        closeRequestedAt := some requestedAt
        finalCumulative := some final.cumulative }
  /-- A finalized top-up is credited. -/
  | topUp {before : ChannelState} {amount lastActivityAt : ℕ} {signature : String}
      {lifecycle : Option ChannelLifecycle}
      (opened : (accountOf before).Opened)
      (unknown : signature ∉ before.processedTopupSignatures)
      (finalized : known.finalized channelId signature amount) :
      RecordMove before { before with
        deposit := before.deposit + amount
        lastActivityAt
        lifecycle
        processedTopupSignatures := before.processedTopupSignatures ++ [signature] }
  /-- A read of the chain that is not behind renews the snapshot. -/
  | observed {before after : ChannelState} {settled slot now : ℕ} {shown : ObservedLifecycle}
      {lifecycle : Option ChannelLifecycle}
      (funded : opensChannel before = false)
      (renewed : ({ before with settledOnChain := max before.settledOnChain settled } :
        ChannelState).recordOnchainObservation ⟨some slot, shown⟩ now = (.fresh, after))
      (saw : shown = .opened → known.sawOpen channelId now)
      (paid : known.paid channelId settled) : RecordMove before { after with lifecycle }
  /-- The chain paid out more than was known. -/
  | settled {before : ChannelState} {settled : ℕ} (funded : opensChannel before = false)
      (paid : known.paid channelId settled) :
      RecordMove before { before with settledOnChain := max before.settledOnChain settled }
  | markSealed {before : ChannelState} (funded : opensChannel before = false) :
      RecordMove before before.markSealed
  /-- An open is confirmed, or found to be confirmed again. -/
  | activated {before : ChannelState} {deposit settled : ℕ}
      (landed : known.landed channelId deposit) (paid : known.paid channelId settled) :
      RecordMove before (activated deposit settled time before)
  /-- An open is given up. -/
  | retired {before : ChannelState} {marker : Json} :
      RecordMove before (retired marker before)

end

/-- A record, and when it was written. -/
structure Held where
  time : ℕ
  record : ChannelState

/-- The records of a channel, newest first: the first one was reserved by an open, and each later
one follows by a move. -/
inductive RecordHistory {Scope : Type} (server : RequestServer Scope) (known : Knowledge)
    (channelId : String) : List Held → Prop where
  | empty : RecordHistory server known channelId []
  | reserved {time : ℕ} {record : ChannelState} (reserved : server.Reserved channelId record) :
      RecordHistory server known channelId [⟨time, record⟩]
  | wrote {time : ℕ} {record : ChannelState} {held : Held} {earlier : List Held}
      (history : RecordHistory server known channelId (held :: earlier))
      (move : RecordMove server known channelId time held.record record) :
      RecordHistory server known channelId (⟨time, record⟩ :: held :: earlier)

end PayKit.Session
