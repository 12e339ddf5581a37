import PayKit.Upto.OpenSoundness
import PayKit.Upto.VerifiedOpen

/-!
# An authorization serves one request

A channel is in flight from the moment a call inserts it until the call fails or what it returned
is dropped, so one caller holds it at a time. A holder returns an open only after it found the
channel absent and then read it, and a channel that was absent after an earlier open was returned
is closed, so it is not read again.

`Stage` is how far a caller is with a channel, by the calls it made. What is so at each stage is
in `Exclusive`, which every step keeps.
-/

namespace PayKit.Upto

open BatchSettlement (Chain closePayer closeSponsor paymentChannelsProgram rentSysvar serializeSmall)
open Concurrency Control Encoding Machine PaymentChannel Rpc Solana Tx X402

/-! ### How far a caller is -/

inductive Stage where
  | idle
  | claimed
  /-- The channel was not there. -/
  | absent
  /-- The channel was there after it was not. -/
  | bound
  | served
deriving DecidableEq

def nextStage (channelId : Pubkey) : (call : OpenCall) → OpenReply call → Stage → Stage
  | .claim claimed, fresh, stage =>
      if claimed = channelId ∧ fresh = true then .claimed else stage
  | .release released, _, stage => if released = channelId then .idle else stage
  | .account address, .ok none, stage =>
      if address = channelId ∧ stage = .claimed then .absent else stage
  | .accountData address, .ok data, stage =>
      if address = channelId ∧ stage = .absent ∧ (ChannelAccount.fromBytes data).isSome then .bound
      else stage
  | .returns opened, _, stage =>
      if opened.channelId = channelId ∧ stage = .bound then .served else stage
  | _, _, stage => stage

abbrev OpenHistory (Caller : Type) := List (Event Caller OpenCall OpenReply)

def stageOf {Caller : Type} [DecidableEq Caller] (caller : Caller) (channelId : Pubkey) :
    OpenHistory Caller → Stage
  | [] => .idle
  | event :: older =>
      if event.caller = caller then
        nextStage channelId event.call event.reply (stageOf caller channelId older)
      else stageOf caller channelId older

def ReturnsFor (channelId : Pubkey) : OpenCall → Bool
  | .returns opened => opened.channelId = channelId
  | _ => false

/-- The opens that were returned for a channel. -/
def returnsOf {Caller : Type} (channelId : Pubkey) (history : OpenHistory Caller) : ℕ :=
  history.countP fun event => ReturnsFor channelId event.call

def returned (opened : VerifiedUptoOpen) : (call : OpenCall) → OpenReply call → Prop
  | .returns other, _ => other = opened
  | _, _ => False

def readData (channelId : Pubkey) (data : List UInt8) : (call : OpenCall) → OpenReply call → Prop
  | .accountData address, reply => address = channelId ∧ reply = .ok data
  | _, _ => False

def submitted (settlement : UptoSettlement) : (call : OpenCall) → OpenReply call → Prop
  | .submit other, _ => other = settlement
  | _, _ => False

section

variable {channelId : Pubkey} {call : OpenCall} {reply : OpenReply call} {stage : Stage}

def Claims (channelId : Pubkey) : (call : OpenCall) → OpenReply call → Prop
  | .claim claimed, fresh => claimed = channelId ∧ fresh = true
  | _, _ => False

/-- The account is read, and is not there. -/
def FindsAbsent (channelId : Pubkey) : (call : OpenCall) → OpenReply call → Prop
  | .account address, .ok none => address = channelId
  | _, _ => False

def FindsChannel (channelId : Pubkey) : (call : OpenCall) → OpenReply call → Prop
  | .accountData address, .ok data =>
      address = channelId ∧ (ChannelAccount.fromBytes data).isSome = true
  | _, _ => False

theorem nextStage_ne_idle (hNext : nextStage channelId call reply stage ≠ .idle) :
    stage ≠ .idle ∨ Claims channelId call reply := by
  unfold nextStage at hNext
  split at hNext
  case h_1 =>
    split at hNext
    case isTrue hClaims => exact .inr hClaims
    case isFalse => exact .inl hNext
  case h_2 =>
    split at hNext
    case isTrue => exact absurd rfl hNext
    case isFalse => exact .inl hNext
  case h_3 =>
    split at hNext
    case isTrue hAbsent => exact .inl (by rw [hAbsent.2]; decide)
    case isFalse => exact .inl hNext
  case h_4 =>
    split at hNext
    case isTrue hBound => exact .inl (by rw [hBound.2.1]; decide)
    case isFalse => exact .inl hNext
  case h_5 =>
    split at hNext
    case isTrue hServed => exact .inl (by rw [hServed.2]; decide)
    case isFalse => exact .inl hNext
  case h_6 => exact .inl hNext

theorem nextStage_eq_absent (hNext : nextStage channelId call reply stage = .absent) :
    stage = .absent ∨ FindsAbsent channelId call reply := by
  unfold nextStage at hNext
  split at hNext
  case h_3 =>
    split at hNext
    case isTrue hAbsent => exact .inr hAbsent.1
    case isFalse => exact .inl hNext
  case h_6 => exact .inl hNext
  all_goals
    split at hNext
    · cases hNext
    · exact .inl hNext

theorem nextStage_eq_bound (hNext : nextStage channelId call reply stage = .bound) :
    (stage = .bound ∧ ReturnsFor channelId call = false) ∨
      (stage = .absent ∧ FindsChannel channelId call reply) := by
  cases call with
  | returns opened =>
      simp only [nextStage] at hNext
      split at hNext
      case isTrue => cases hNext
      case isFalse hOther =>
        refine .inl ⟨hNext, ?_⟩
        simpa [ReturnsFor, hNext] using hOther
  | accountData address =>
      cases reply with
      | error error => exact .inl ⟨hNext, rfl⟩
      | ok data =>
          simp only [nextStage] at hNext
          split at hNext
          case isTrue hBound => exact .inr ⟨hBound.2.1, hBound.1, hBound.2.2⟩
          case isFalse => exact .inl ⟨hNext, rfl⟩
  | claim claimed =>
      simp only [nextStage] at hNext
      split at hNext
      case isTrue => cases hNext
      case isFalse => exact .inl ⟨hNext, rfl⟩
  | release released =>
      simp only [nextStage] at hNext
      split at hNext
      case isTrue => cases hNext
      case isFalse => exact .inl ⟨hNext, rfl⟩
  | account address =>
      refine .inl ⟨?_, rfl⟩
      rcases reply with error | _ | found
      · exact hNext
      · simp only [nextStage] at hNext
        split at hNext
        case isTrue => cases hNext
        case isFalse => exact hNext
      · exact hNext
  | _ => exact .inl ⟨hNext, rfl⟩

end

/-! ### The state -/

section

variable {channelId : Pubkey} {call : OpenCall} {reply : OpenReply call}
  {before after : OpenState}

theorem claims_fresh (hEffect : openEffect call before reply after)
    (hClaims : Claims channelId call reply) :
    before.inFlight channelId = false ∧ after.inFlight channelId = true := by
  cases call with
  | claim claimed =>
      rcases hClaims with ⟨rfl, rfl⟩
      rcases hEffect with ⟨hFresh, rfl⟩
      exact ⟨by simpa using hFresh.symm, Function.update_self ..⟩
  | _ => exact hClaims.elim

theorem inFlight_kept (hEffect : openEffect call before reply after)
    (hHeld : before.inFlight channelId = true) (hKept : call ≠ .release channelId) :
    after.inFlight channelId = true := by
  cases call with
  | claim claimed =>
      rw [hEffect.2]
      by_cases hSame : channelId = claimed
      · rw [hSame]
        exact Function.update_self ..
      · exact (Function.update_of_ne hSame _ _).trans hHeld
  | release released =>
      rw [show after = _ from hEffect]
      have hOther : channelId ≠ released := by
        rintro rfl
        exact hKept rfl
      exact (Function.update_of_ne hOther _ _).trans hHeld
  | chain move =>
      rw [show after = before.apply move from hEffect]
      cases move <;> (unfold OpenState.apply; dsimp only; split <;> exact hHeld)
  | account address => rwa [hEffect.1]
  | accountData address => rwa [hEffect.1]
  | _ => rwa [show after = before from hEffect]

theorem life_kept (hEffect : openEffect call before reply after) :
    (before.life channelId ≠ .unopened → after.life channelId ≠ .unopened) ∧
      (before.life channelId = .closed → after.life channelId = .closed) := by
  cases call with
  | chain move =>
      rw [show after = before.apply move from hEffect]
      cases move with
      | opens moved data =>
          unfold OpenState.apply
          dsimp only
          split
          case h_1 hUnopened =>
            by_cases hSame : channelId = moved
            · subst hSame
              simp [hUnopened]
            · simp [Function.update_of_ne hSame]
          case h_2 => exact ⟨id, id⟩
      | changes moved data =>
          unfold OpenState.apply
          dsimp only
          split
          case h_1 old hLive =>
            by_cases hSame : channelId = moved
            · subst hSame
              simp [hLive]
            · simp [Function.update_of_ne hSame]
          case h_2 => exact ⟨id, id⟩
      | closes moved =>
          unfold OpenState.apply
          dsimp only
          split
          case h_1 old hLive =>
            by_cases hSame : channelId = moved
            · subst hSame
              simp
            · simp [Function.update_of_ne hSame]
          case h_2 => exact ⟨id, id⟩
  | claim claimed =>
      rw [hEffect.2]
      exact ⟨id, id⟩
  | release released =>
      rw [show after = _ from hEffect]
      exact ⟨id, id⟩
  | account address =>
      rw [hEffect.1]
      exact ⟨id, id⟩
  | accountData address =>
      rw [hEffect.1]
      exact ⟨id, id⟩
  | _ =>
      rw [show after = before from hEffect]
      exact ⟨id, id⟩

theorem not_live_of_absent (hEffect : openEffect call before reply after)
    (hAbsent : FindsAbsent channelId call reply) :
    after = before ∧ ∀ data, before.life channelId ≠ .live data := by
  cases call with
  | account address =>
      rcases reply with error | _ | found
      · exact hAbsent.elim
      · obtain rfl : address = channelId := hAbsent
        refine ⟨hEffect.1, fun data hLive => ?_⟩
        exact nomatch hEffect.2 data hLive none rfl
      · exact hAbsent.elim
  | _ => exact hAbsent.elim

theorem live_of_found (hEffect : openEffect call before reply after)
    (hFound : FindsChannel channelId call reply) :
    after = before ∧ ∃ data, before.life channelId = .live data := by
  cases call with
  | accountData address =>
      cases reply with
      | error error => exact hFound.elim
      | ok data =>
          rcases hFound with ⟨rfl, hChannel⟩
          rcases Option.isSome_iff_exists.mp hChannel with ⟨channel, hDecoded⟩
          exact ⟨hEffect.1, data, hEffect.2 data channel rfl hDecoded⟩
  | _ => exact hFound.elim

end

/-! ### The invariant -/

section

variable {Caller : Type} [DecidableEq Caller]

/-- The open that was returned is for what the channel's account held. -/
def Priced (history : OpenHistory Caller) (caller : Caller) (opened : VerifiedUptoOpen) : Prop :=
  ∃ data channel, Did history caller (readData opened.channelId data) ∧
    ChannelAccount.fromBytes data = some channel ∧ channel.deposit = opened.maxAmount

/-- The settlement is of an open that the caller was given, and within its amount. -/
def WithinOpen (history : OpenHistory Caller) (caller : Caller) (settlement : UptoSettlement) :
    Prop :=
  ∃ opened, Did history caller (returned opened) ∧ opened.channelId = settlement.channelId ∧
    settlement.charged ≤ opened.maxAmount

/-- What is so in every world that is reached. -/
structure Exclusive (world : OpenWorld Caller) : Prop where
  held : ∀ caller channelId, stageOf caller channelId world.history ≠ .idle →
    world.state.inFlight channelId = true
  alone : ∀ caller other channelId, stageOf caller channelId world.history ≠ .idle →
    stageOf other channelId world.history ≠ .idle → caller = other
  opened : ∀ channelId, returnsOf channelId world.history ≠ 0 →
    world.state.life channelId ≠ .unopened
  once : ∀ channelId, returnsOf channelId world.history ≤ 1
  absent : ∀ caller channelId, stageOf caller channelId world.history = .absent →
    returnsOf channelId world.history = 0 ∨ world.state.life channelId = .closed
  bound : ∀ caller channelId, stageOf caller channelId world.history = .bound →
    returnsOf channelId world.history = 0 ∧ world.state.life channelId ≠ .unopened
  priced : ∀ caller opened, Did world.history caller (returned opened) →
    Priced world.history caller opened
  charged : ∀ caller settlement, Did world.history caller (submitted settlement) →
    WithinOpen world.history caller settlement

/-- A call that keeps the invariant. -/
def Permitted (world : OpenWorld Caller) (caller : Caller) : OpenCall → Prop
  | .release channelId => stageOf caller channelId world.history ≠ .idle
  | .returns opened => stageOf caller opened.channelId world.history = .bound ∧
      Priced world.history caller opened
  | .submit settlement => WithinOpen world.history caller settlement
  | _ => True

variable {caller other : Caller} {channelId : Pubkey} {call : OpenCall} {reply : OpenReply call}
  {world : OpenWorld Caller} {after : OpenState} {history : OpenHistory Caller}

theorem stageOf_self : stageOf caller channelId (⟨caller, call, reply⟩ :: history) =
    nextStage channelId call reply (stageOf caller channelId history) :=
  if_pos rfl

theorem stageOf_other (hOther : other ≠ caller) :
    stageOf caller channelId (⟨other, call, reply⟩ :: history) =
      stageOf caller channelId history :=
  if_neg hOther

omit [DecidableEq Caller] in
theorem returnsOf_cons : returnsOf channelId (⟨other, call, reply⟩ :: history) =
    returnsOf channelId history + if ReturnsFor channelId call then 1 else 0 := by
  simp [returnsOf, List.countP_cons]

theorem eq_returns (hReturns : ReturnsFor channelId call = true) :
    ∃ opened, call = .returns opened ∧ opened.channelId = channelId := by
  cases call with
  | returns opened => exact ⟨opened, rfl, by simpa [ReturnsFor] using hReturns⟩
  | _ => cases hReturns

theorem holds_before (hHolds : stageOf caller channelId (⟨other, call, reply⟩ :: history) ≠ .idle) :
    stageOf caller channelId history ≠ .idle ∨ (other = caller ∧ Claims channelId call reply) := by
  by_cases hSame : other = caller
  · subst hSame
    rw [stageOf_self] at hHolds
    exact (nextStage_ne_idle hHolds).imp_right fun hClaims => ⟨rfl, hClaims⟩
  · rw [stageOf_other hSame] at hHolds
    exact .inl hHolds

theorem bound_of_returns (hPermitted : Permitted world caller call)
    (hReturns : ReturnsFor channelId call = true) :
    stageOf caller channelId world.history = .bound := by
  rcases eq_returns hReturns with ⟨opened, rfl, rfl⟩
  exact hPermitted.1

theorem Exclusive.returnsFor_eq_false (hExclusive : Exclusive world)
    (hPermitted : Permitted world caller call)
    (hHolds : stageOf other channelId world.history ≠ .idle)
    (hUnread : caller = other → stageOf other channelId world.history ≠ .bound) :
    ReturnsFor channelId call = false := by
  by_contra hReturns
  have hBound := bound_of_returns hPermitted (Bool.not_eq_false _ ▸ hReturns)
  have hSame : caller = other :=
    hExclusive.alone caller other channelId (by rw [hBound]; decide) hHolds
  exact hUnread hSame (hSame ▸ hBound)

omit [DecidableEq Caller] in
theorem returnsOf_kept (hNone : ReturnsFor channelId call = false) :
    returnsOf channelId (⟨caller, call, reply⟩ :: history) = returnsOf channelId history := by
  rw [returnsOf_cons, hNone]
  rfl

omit [DecidableEq Caller] in
theorem Priced.cons {opened : VerifiedUptoOpen} {event : Event Caller OpenCall OpenReply}
    (hPriced : Priced history caller opened) : Priced (event :: history) caller opened := by
  rcases hPriced with ⟨data, channel, hRead, hDecoded, hDeposit⟩
  exact ⟨data, channel, did_cons.mpr (.inr hRead), hDecoded, hDeposit⟩

omit [DecidableEq Caller] in
theorem WithinOpen.cons {settlement : UptoSettlement} {event : Event Caller OpenCall OpenReply}
    (hWithin : WithinOpen history caller settlement) :
    WithinOpen (event :: history) caller settlement := by
  rcases hWithin with ⟨opened, hReturned, hChannel, hCharged⟩
  exact ⟨opened, did_cons.mpr (.inr hReturned), hChannel, hCharged⟩

theorem Exclusive.step (hExclusive : Exclusive world)
    (hEffect : openEffect call world.state reply after)
    (hPermitted : Permitted world caller call) :
    Exclusive (world.record ⟨caller, call, reply⟩ after) where
  held holder channelId hHolds := by
    rcases holds_before hHolds with hBefore | ⟨-, hClaims⟩
    · refine inFlight_kept hEffect (hExclusive.held holder channelId hBefore) ?_
      -- Only the holder releases, and then it no longer holds.
      rintro rfl
      have hSame : caller = holder :=
        hExclusive.alone caller holder channelId hPermitted hBefore
      subst hSame
      rw [World.record_history, stageOf_self] at hHolds
      exact hHolds (if_pos rfl)
    · exact (claims_fresh hEffect hClaims).2
  alone holder other channelId hHolds hOther := by
    rcases holds_before hHolds with hBefore | ⟨hCaller, hClaims⟩
    · rcases holds_before hOther with hOtherBefore | ⟨-, hClaims⟩
      · exact hExclusive.alone holder other channelId hBefore hOtherBefore
      · have hFree := (claims_fresh hEffect hClaims).1
        rw [hExclusive.held holder channelId hBefore] at hFree
        cases hFree
    · rcases holds_before hOther with hOtherBefore | ⟨hOtherCaller, -⟩
      · have hFree := (claims_fresh hEffect hClaims).1
        rw [hExclusive.held other channelId hOtherBefore] at hFree
        cases hFree
      · rw [← hCaller, ← hOtherCaller]
  opened channelId hReturned := by
    refine (life_kept hEffect).1 ?_
    cases hReturns : ReturnsFor channelId call with
    | false =>
        rw [World.record_history, returnsOf_kept hReturns] at hReturned
        exact hExclusive.opened channelId hReturned
    | true => exact (hExclusive.bound caller channelId (bound_of_returns hPermitted hReturns)).2
  once channelId := by
    cases hReturns : ReturnsFor channelId call with
    | false =>
        rw [World.record_history, returnsOf_kept hReturns]
        exact hExclusive.once channelId
    | true =>
        have hNone := (hExclusive.bound caller channelId (bound_of_returns hPermitted hReturns)).1
        rw [World.record_history, returnsOf_cons, hNone, hReturns]
        exact Nat.le_refl 1
  absent holder channelId hStage := by
    have hBefore : stageOf holder channelId world.history = .absent ∨
        FindsAbsent channelId call reply := by
      by_cases hSame : caller = holder
      · subst hSame
        exact nextStage_eq_absent (stageOf_self.symm.trans hStage)
      · exact .inl ((stageOf_other hSame).symm.trans hStage)
    rcases hBefore with hAbsent | hFinds
    · have hHolds : stageOf holder channelId world.history ≠ .idle := by
        rw [hAbsent]
        decide
      have hNone : ReturnsFor channelId call = false :=
        hExclusive.returnsFor_eq_false hPermitted hHolds fun _ => by rw [hAbsent]; decide
      rw [World.record_history, returnsOf_kept hNone]
      exact (hExclusive.absent holder channelId hAbsent).imp_right (life_kept hEffect).2
    · rcases not_live_of_absent hEffect hFinds with ⟨rfl, hNotLive⟩
      have hNone : ReturnsFor channelId call = false := by
        cases call with
        | account address => rfl
        | _ => exact hFinds.elim
      rw [World.record_history, returnsOf_kept hNone]
      by_contra hNeither
      rw [not_or] at hNeither
      have hOpened := hExclusive.opened channelId hNeither.1
      cases hLife : world.state.life channelId with
      | unopened => exact hOpened hLife
      | live data => exact hNotLive data hLife
      | closed => exact hNeither.2 hLife
  bound holder channelId hStage := by
    have hBefore : (stageOf holder channelId world.history = .bound ∧
        ReturnsFor channelId call = false) ∨
        (stageOf holder channelId world.history = .absent ∧ FindsChannel channelId call reply) := by
      by_cases hSame : caller = holder
      · subst hSame
        exact nextStage_eq_bound (stageOf_self.symm.trans hStage)
      · have hBound := (stageOf_other hSame).symm.trans hStage
        refine .inl ⟨hBound, hExclusive.returnsFor_eq_false hPermitted (by rw [hBound]; decide) ?_⟩
        exact fun hCaller => absurd hCaller hSame
    rcases hBefore with ⟨hBound, hNone⟩ | ⟨hAbsent, hFinds⟩
    · rw [World.record_history, returnsOf_kept hNone]
      have hHeld := hExclusive.bound holder channelId hBound
      exact ⟨hHeld.1, (life_kept hEffect).1 hHeld.2⟩
    · rcases live_of_found hEffect hFinds with ⟨rfl, data, hLive⟩
      have hNone : ReturnsFor channelId call = false := by
        cases call with
        | accountData address => rfl
        | _ => exact hFinds.elim
      rw [World.record_history, returnsOf_kept hNone, World.record_state, hLive]
      refine ⟨?_, by simp⟩
      rcases hExclusive.absent holder channelId hAbsent with hNever | hClosed
      · exact hNever
      · rw [hLive] at hClosed
        cases hClosed
  priced holder opened hReturned := by
    rcases did_cons.mp hReturned with ⟨rfl, hNow⟩ | hBefore
    · cases call with
      | returns other =>
          obtain rfl : other = opened := hNow
          exact hPermitted.2.cons
      | _ => exact hNow.elim
    · exact (hExclusive.priced holder opened hBefore).cons
  charged holder settlement hSubmitted := by
    rcases did_cons.mp hSubmitted with ⟨rfl, hNow⟩ | hBefore
    · cases call with
      | submit other =>
          obtain rfl : other = settlement := hNow
          exact WithinOpen.cons hPermitted
      | _ => exact hNow.elim
    · exact (hExclusive.charged holder settlement hBefore).cons

end

/-! ### The calls of a program -/

/-- Calls that change nothing for who holds a channel, once it was looked for. -/
def Quiet : OpenCall → Prop
  | .account _ => True
  | .challengedSlot => True
  | .cosign _ => True
  | .signVoucher _ _ _ => True
  | .node _ => True
  | _ => False

section

variable {Result : Type} {allowed : OpenCall → Prop}

theorem sure_uses (check : Except Error Result) : (sure check).run.Uses allowed :=
  trivial

theorem ask_uses {call : OpenCall} (hAllowed : allowed call) : (ask call).run.Uses allowed :=
  ⟨hAllowed, fun _ => trivial⟩

theorem ensurePayoutsReady_uses {server : UptoServer} {mint tokenProgram : Pubkey}
    {entries : List Distribution} :
    (ensurePayoutsReady server mint tokenProgram entries).run.Uses Quiet := by
  induction entries with
  | nil => trivial
  | cons entry entries hInduction =>
      unfold ensurePayoutsReady
      split
      · exact hInduction
      · refine Fallible.uses_bind (ask_uses trivial) fun read => ?_
        refine Fallible.uses_bind (sure_uses _) fun account => ?_
        split
        · trivial
        · exact hInduction

theorem cosignFeePayer_uses {server : UptoServer} {tx : VersionedTransaction} :
    (cosignFeePayer server tx).run.Uses Quiet := by
  refine Fallible.uses_bind (sure_uses _) fun _ => ?_
  exact Fallible.uses_bind (ask_uses trivial) fun _ => sure_uses _

theorem uses_true {Call : Type} {Reply : Call → Type} (program : Program Call Reply Result) :
    program.Uses fun _ => True := by
  induction program with
  | done result => trivial
  | perform call next hInduction => exact ⟨trivial, hInduction⟩

theorem broadcastOpen_uses {signature : String} {rounds : ℕ} :
    (broadcastOpen signature rounds).run.Uses Quiet := by
  refine Fallible.uses_bind ?_ fun outcome => ?_
  · rw [ExceptT.run_lift, map_eq_pure_bind]
    exact (uses_true _).within.bind fun _ => trivial
  · rcases outcome with _ | failure | landed
    · trivial
    · trivial
    · trivial

theorem nextStage_quiet {channelId : Pubkey} {call : OpenCall} {reply : OpenReply call}
    {stage : Stage} (hQuiet : Quiet call) (hStage : stage ≠ .claimed) :
    nextStage channelId call reply stage = stage := by
  cases call with
  | account address =>
      rcases reply with error | _ | found
      · rfl
      · exact if_neg fun hClaimed => hStage hClaimed.2
      · rfl
  | challengedSlot => rfl
  | cosign tx => rfl
  | signVoucher claimed amount expiresAt => rfl
  | node call => rfl
  | _ => exact hQuiet.elim

end

/-! ### What a caller keeps -/

section

variable {Caller : Type} [DecidableEq Caller] {Result First : Type} {caller : Caller}
  {channelId : Pubkey} {stage : Stage} {before after : OpenWorld Caller}
  {running : OpenWorld Caller → Prop} {post : Result → OpenWorld Caller → Prop}

/-- The program keeps the invariant, and ends in the postcondition. -/
abbrev Keeps (caller : Caller) (running : OpenWorld Caller → Prop)
    (post : Result → OpenWorld Caller → Prop) (program : Program OpenCall OpenReply Result)
    (before : OpenWorld Caller) : Prop :=
  (openEnvironment Caller).Safe Exclusive caller running post program before

def At (caller : Caller) (channelId : Pubkey) (stage : Stage) (world : OpenWorld Caller) : Prop :=
  stageOf caller channelId world.history = stage

def Holding (caller : Caller) (channelId : Pubkey) (world : OpenWorld Caller) : Prop :=
  stageOf caller channelId world.history ≠ .idle

theorem stageOf_interfere {invariant : OpenWorld Caller → Prop}
    (hInterferes : Interferes invariant caller before after) :
    stageOf caller channelId after.history = stageOf caller channelId before.history := by
  rcases hInterferes with ⟨-, events, hHistory, hOthers⟩
  rw [hHistory]
  clear hHistory
  induction events with
  | nil => rfl
  | cons event events hInduction =>
      rw [List.cons_append, stageOf_other (hOthers event (List.mem_cons_self ..))]
      exact hInduction fun other hOther => hOthers other (List.mem_cons_of_mem _ hOther)

theorem At.interfere {invariant : OpenWorld Caller → Prop}
    (hAt : At caller channelId stage before)
    (hInterferes : Interferes invariant caller before after) : At caller channelId stage after :=
  (stageOf_interfere hInterferes).trans hAt

theorem Holding.interfere {invariant : OpenWorld Caller → Prop}
    (hHolding : Holding caller channelId before)
    (hInterferes : Interferes invariant caller before after) : Holding caller channelId after := by
  rw [Holding, stageOf_interfere hInterferes]
  exact hHolding

theorem At.holding (hAt : At caller channelId stage before) (hStage : stage ≠ .idle) :
    Holding caller channelId before := by
  rw [Holding, show stageOf caller channelId before.history = stage from hAt]
  exact hStage

theorem keeps_perform {call : OpenCall} {next : OpenReply call → Program OpenCall OpenReply Result}
    (hPermitted : ∀ now : OpenWorld Caller, Interferes Exclusive caller before now →
      running now ∧ Permitted now caller call)
    (hNext : ∀ (now : OpenWorld Caller) reply state, Interferes Exclusive caller before now →
      Exclusive (now.record ⟨caller, call, reply⟩ state) →
        Keeps caller running post (next reply) (now.record ⟨caller, call, reply⟩ state)) :
    Keeps caller running post (.perform call next) before := by
  intro now hInterferes
  refine ⟨(hPermitted now hInterferes).1, ?_⟩
  intro reply state hEffect _
  have hKept := hInterferes.1.step hEffect (hPermitted now hInterferes).2
  exact ⟨hKept, hNext now reply state hInterferes hKept⟩

theorem permitted_of_quiet {call : OpenCall} (hQuiet : Quiet call) :
    Permitted before caller call := by
  cases call with
  | account address => trivial
  | challengedSlot => trivial
  | cosign tx => trivial
  | signVoucher claimed amount expiresAt => trivial
  | node call => trivial
  | _ => exact hQuiet.elim

theorem quiet_keeps {program : Program OpenCall OpenReply Result} (hUses : program.Uses Quiet)
    (hStage : stage ≠ .claimed) (hAt : At caller channelId stage before) :
    Keeps caller (At caller channelId stage) (fun _ => At caller channelId stage) program
      before := by
  induction program generalizing before with
  | done result => exact fun now hInterferes => hAt.interfere hInterferes
  | perform call next hInduction =>
      apply keeps_perform
      · exact fun now hInterferes => ⟨hAt.interfere hInterferes, permitted_of_quiet hUses.1⟩
      · intro now reply state hInterferes _
        apply hInduction reply (hUses.2 reply)
        have hNow := hAt.interfere hInterferes
        rw [At, World.record_history, stageOf_self, nextStage_quiet hUses.1 (hNow.symm ▸ hStage)]
        exact hNow

theorem checked_bind_keeps {post : Except OpenFailure Result → OpenWorld Caller → Prop}
    {check : Except Failure First} {rest : First → OpenM Result}
    (hError : ∀ failure now, Interferes Exclusive caller before now →
      post (.error (.failed failure)) now)
    (hRest : ∀ result, check = .ok result → Keeps caller running post (rest result).run before) :
    Keeps caller running post (checked check >>= rest).run before := by
  cases check with
  | error failure => exact hError failure
  | ok result => exact hRest result rfl

theorem sure_bind_keeps {post : Except OpenFailure Result → OpenWorld Caller → Prop}
    {check : Except Error First} {rest : First → OpenM Result}
    (hError : ∀ failure now, Interferes Exclusive caller before now →
      post (.error (.failed failure)) now)
    (hRest : ∀ result, check = .ok result → Keeps caller running post (rest result).run before) :
    Keeps caller running post (sure check >>= rest).run before := by
  refine checked_bind_keeps hError fun result hResult => hRest result ?_
  cases check with
  | error error => cases hResult
  | ok value => exact congrArg Except.ok (Except.ok.inj hResult)

/-! ### The open -/

theorem fetchChannel_eq_ok {read : Except String (List UInt8)} {channel : ChannelAccount}
    (hFetched : fetchChannel read = .ok channel) :
    ∃ data, read = .ok data ∧ ChannelAccount.fromBytes data = some channel := by
  simp only [fetchChannel, bind_eq_ok, mapError_eq_ok, okOr_eq_ok] at hFetched
  exact hFetched

theorem bindChannel_eq_ok {handler : UptoHandler} {prepared : PreparedOpen}
    {channel : ChannelAccount} (hBound : bindChannel handler prepared channel = .ok ()) :
    channel.deposit = prepared.max := by
  simp only [bindChannel, refuseIf_bind_eq_ok, not_not] at hBound
  exact hBound.2.2.2.2.2.2.2.1

theorem ensureChannelAbsent_eq_ok {existing : Except String (Option ObservedAccount)}
    {slot : Option ℕ} {channelId : Pubkey}
    (hAbsent : ensureChannelAbsent ⟨existing.map (·.isSome), slot⟩ channelId = .ok ()) :
    existing = .ok none := by
  rcases existing with error | _ | found
  · cases hAbsent
  · rfl
  · cases hAbsent

/-- The open is prepared once the channel was not there. -/
abbrev Prepared (caller : Caller) (claim : OpenClaim) :
    Except OpenFailure PreparedOpen → OpenWorld Caller → Prop
  | .ok prepared, world =>
      prepared.channelId = claim.channelId ∧ At caller claim.channelId .absent world
  | .error _, world => Holding caller claim.channelId world

abbrev Opened (caller : Caller) (channelId : Pubkey) :
    Except OpenFailure VerifiedUptoOpen → OpenWorld Caller → Prop
  | .ok opened, world => opened.channelId = channelId ∧ At caller channelId .served world ∧
      Did world.history caller (returned opened)
  | .error _, world => Holding caller channelId world

theorem validate_eq_ok {server : UptoServer} {claim : OpenClaim} {tx : VersionedTransaction}
    {slot : Option ℕ} {prepared : PreparedOpen}
    (hValid : claim.validate server tx slot = .ok prepared) :
    prepared.channelId = claim.channelId := by
  simp only [OpenClaim.validate, bind_eq_ok] at hValid
  rcases hValid with ⟨_, -, _, -, hResult⟩
  cases hResult
  rfl

theorem prepareClaimed_keeps {server : UptoServer} {claim : OpenClaim}
    (hAt : At caller claim.channelId .claimed before) :
    Keeps caller (Holding caller claim.channelId) (Prepared caller claim)
      (prepareClaimed server claim).run before := by
  refine checked_bind_keeps ?_ fun tx _ => ?_
  · exact fun _ now hInterferes => (hAt.interfere hInterferes).holding (by decide)
  apply keeps_perform
  · exact fun now hInterferes => ⟨(hAt.interfere hInterferes).holding (by decide), trivial⟩
  intro now existing state hInterferes _
  have hNow := hAt.interfere hInterferes
  have hStage : ∀ stage, stage = nextStage claim.channelId (.account claim.channelId) existing
      .claimed → At caller claim.channelId stage
        (now.record ⟨caller, .account claim.channelId, existing⟩ state) := by
    rintro stage rfl
    rw [At, World.record_history, stageOf_self, show stageOf _ _ _ = _ from hNow]
  refine sure_bind_keeps ?_ fun _ hAbsent => ?_
  · intro failure later hLater
    refine ((hStage _ rfl).interfere hLater).holding ?_
    rcases existing with error | _ | found
    · simp [nextStage]
    · simp [nextStage]
    · simp [nextStage]
  obtain rfl : existing = .ok none := ensureChannelAbsent_eq_ok hAbsent
  have hGone := hStage .absent (by simp [nextStage])
  apply keeps_perform
  · exact fun later hLater => ⟨(hGone.interfere hLater).holding (by decide), trivial⟩
  intro later slot other hLater _
  have hStill : At caller claim.channelId .absent
      (later.record ⟨caller, .challengedSlot, slot⟩ other) := by
    rw [At, World.record_history, stageOf_self]
    exact hGone.interfere hLater
  intro last hLast
  cases hValid : claim.validate server tx slot with
  | error failure => exact (hStill.interfere hLast).holding (by decide)
  | ok prepared => exact ⟨validate_eq_ok hValid, hStill.interfere hLast⟩

theorem quiet_bind_keeps {program : OpenM First} {rest : First → OpenM Result}
    {post : Except OpenFailure Result → OpenWorld Caller → Prop}
    (holds : Exclusive before) (hUses : program.run.Uses Quiet) (hStage : stage ≠ .claimed)
    (hIdle : stage ≠ .idle) (hAt : At caller channelId stage before)
    (hError : ∀ failure now, Holding caller channelId now → post (.error failure) now)
    (hRest : ∀ result now, Exclusive now → At caller channelId stage now →
      Keeps caller (Holding caller channelId) post (rest result).run now) :
    Keeps caller (Holding caller channelId) post (program >>= rest).run before := by
  refine Environment.Safe.fallible_bind holds
    ((quiet_keeps hUses hStage hAt).weaken_running fun world hNow => hNow.holding hIdle) ?_ ?_
  · exact fun result now hHolds _ hNow => hRest result now hHolds hNow
  · intro failure now _ _ hNow later hInterferes
    exact hError failure later ((hNow.interfere hInterferes).holding hIdle)

theorem openClaimed_keeps {handler : UptoHandler} {claim : OpenClaim} {rounds : ℕ}
    (holds : Exclusive before) (hAt : At caller claim.channelId .claimed before) :
    Keeps caller (Holding caller claim.channelId) (Opened caller claim.channelId)
      (openClaimed handler claim rounds).run before := by
  refine Environment.Safe.fallible_bind holds (prepareClaimed_keeps hAt) ?_
    fun failure now _ _ hHolding later hInterferes => hHolding.interfere hInterferes
  rintro prepared now hHolds - ⟨hChannel, hAbsent⟩
  refine quiet_bind_keeps hHolds ensurePayoutsReady_uses (by decide) (by decide) hAbsent
    (fun _ _ hHolding => hHolding) fun _ now hHolds hAbsent => ?_
  refine quiet_bind_keeps hHolds cosignFeePayer_uses (by decide) (by decide) hAbsent
    (fun _ _ hHolding => hHolding) fun signature now hHolds hAbsent => ?_
  refine quiet_bind_keeps hHolds broadcastOpen_uses (by decide) (by decide) hAbsent
    (fun _ _ hHolding => hHolding) fun _ now hHolds hAbsent => ?_
  rw [hChannel]
  apply keeps_perform
  · exact fun next hInterferes => ⟨(hAbsent.interfere hInterferes).holding (by decide), trivial⟩
  intro next read state hInterferes hKept
  have hNow := hAbsent.interfere hInterferes
  have hStage : At caller claim.channelId
      (nextStage claim.channelId (.accountData claim.channelId) read .absent)
      (next.record ⟨caller, .accountData claim.channelId, read⟩ state) := by
    rw [At, World.record_history, stageOf_self, show stageOf _ _ _ = _ from hNow]
  have hHolding : Holding caller claim.channelId
      (next.record ⟨caller, .accountData claim.channelId, read⟩ state) := by
    refine hStage.holding ?_
    cases read with
    | error error => simp [nextStage]
    | ok data =>
        simp only [nextStage]
        split
        · decide
        · decide
  refine sure_bind_keeps (fun _ later hLater => hHolding.interfere hLater) fun channel hFetched => ?_
  refine sure_bind_keeps (fun _ later hLater => hHolding.interfere hLater) fun _ hBound => ?_
  rcases fetchChannel_eq_ok hFetched with ⟨data, rfl, hDecoded⟩
  have hRead : At caller claim.channelId .bound
      (next.record ⟨caller, .accountData claim.channelId, .ok data⟩ state) := by
    rwa [nextStage, if_pos ⟨rfl, rfl, by rw [hDecoded]; rfl⟩] at hStage
  have hPriced : Priced (next.record ⟨caller, .accountData claim.channelId, .ok data⟩ state).history
      caller (openedOf prepared channel) :=
    ⟨data, channel, did_self ⟨hChannel.symm, rfl⟩, hDecoded, bindChannel_eq_ok hBound⟩
  apply keeps_perform
  · intro later hLater
    refine ⟨hHolding.interfere hLater, ?_, ?_⟩
    · rw [show (openedOf prepared channel).channelId = claim.channelId from hChannel]
      exact hRead.interfere hLater
    · rcases hPriced with ⟨data, channel, hDid, hRest⟩
      exact ⟨data, channel, hDid.suffix hLater.suffix, hRest⟩
  · intro later reply other hLater _ last hLast
    refine ⟨hChannel, ?_, ?_⟩
    · refine At.interfere ?_ hLast
      rw [At, World.record_history, stageOf_self]
      exact if_pos ⟨hChannel, hRead.interfere hLater⟩
    · have hDid : Did (⟨caller, .returns (openedOf prepared channel), reply⟩ ::
          later.history : OpenHistory Caller) caller (returned (openedOf prepared channel)) :=
        did_self rfl
      exact hDid.suffix hLast.suffix

theorem release_keeps {post : Result → OpenWorld Caller → Prop}
    {next : Unit → Program OpenCall OpenReply Result} (hHolding : Holding caller channelId before)
    (hNext : ∀ reply now, Keeps caller (fun _ => True) post (next reply) now) :
    Keeps caller (fun _ => True) post (.perform (.release channelId) next) before :=
  keeps_perform (fun _ hInterferes => ⟨trivial, hHolding.interfere hInterferes⟩)
    fun _ _ _ _ _ => hNext _ _

/-- What is returned is held, and nothing is held otherwise. -/
abbrev Verified (caller : Caller) : Except OpenFailure VerifiedUptoOpen → OpenWorld Caller → Prop
  | .ok opened, world => At caller opened.channelId .served world ∧
      Did world.history caller (returned opened)
  | .error _, _ => True

theorem guarded_keeps {patience : ℕ} {body : OpenM VerifiedUptoOpen} (holds : Exclusive before)
    (hBody : Keeps caller (Holding caller channelId) (Opened caller channelId) body.run before) :
    Keeps caller (fun _ => True) (Verified caller) (guarded channelId patience body).run before := by
  refine Environment.Safe.bind holds (hBody.stopAfter.weaken_running fun _ _ => trivial) ?_
  rintro (_ | failure | opened) now - - hNow
  · exact release_keeps hNow fun _ _ _ _ => trivial
  · exact release_keeps hNow fun _ _ _ _ => trivial
  · intro later hLater
    rcases hNow with ⟨rfl, hServed, hReturned⟩
    exact ⟨hServed.interfere hLater, hReturned.suffix hLater.suffix⟩

theorem verifyOpenForRoute_keeps {request : OpenRequest} :
    Keeps caller (fun _ => True) (Verified caller) (verifyOpenForRoute request).run before := by
  refine sure_bind_keeps (fun _ _ _ => trivial) fun offered _ => ?_
  refine checked_bind_keeps (fun _ _ _ => trivial) fun claim _ => ?_
  apply keeps_perform
  · exact fun _ _ => ⟨trivial, trivial⟩
  intro now fresh state hInterferes hKept
  cases fresh with
  | false => exact fun _ _ => trivial
  | true =>
      refine guarded_keeps hKept (openClaimed_keeps hKept ?_)
      rw [At, World.record_history, stageOf_self]
      exact if_pos ⟨rfl, rfl⟩

/-! ### The settlements -/

theorem settlementVoucher_yields {opened : VerifiedUptoOpen} {actual : ℕ} {expiresAt : ℤ} :
    Fallible.Yields (fun voucher : Option SettlementVoucher =>
      (voucher.map (·.cumulativeAmount)).getD 0 = actual)
      (settlementVoucher opened actual expiresAt) := by
  unfold settlementVoucher
  split
  case isTrue hNone =>
    rintro _ ⟨⟩
    exact hNone.symm
  case isFalse =>
    refine Fallible.Yields.bind (Fallible.yields_true _) fun signed _ => ?_
    refine Fallible.Yields.bind (Fallible.yields_true _) fun signature _ => ?_
    rintro _ ⟨⟩
    rfl

theorem buildSettlementInstructions_yields {handler : UptoHandler} {opened : VerifiedUptoOpen}
    {actual : ℕ} {now : ℤ} :
    Fallible.Yields (fun settlement : UptoSettlement => settlement.channelId = opened.channelId ∧
      settlement.charged ≤ opened.maxAmount)
      (buildSettlementInstructions handler opened actual now) := by
  have hAsserted : Fallible.Yields (fun _ => actual ≤ opened.maxAmount)
      (sure (assertSettlementWithinCeiling actual opened.maxAmount)) := by
    intro _ hResult
    by_contra hOver
    rw [assertSettlementWithinCeiling, refuseIf, if_pos (Nat.not_le.mp hOver)] at hResult
    cases hResult
  refine Fallible.Yields.bind hAsserted fun _ hCeiling => ?_
  refine Fallible.Yields.bind settlementVoucher_yields fun voucher hVoucher => ?_
  refine Fallible.Yields.bind (Fallible.yields_true _) fun decision _ => ?_
  rintro _ ⟨⟩
  exact ⟨rfl, hVoucher.trans_le hCeiling⟩

theorem settlementVoucher_uses {opened : VerifiedUptoOpen} {actual : ℕ} {expiresAt : ℤ} :
    (settlementVoucher opened actual expiresAt).run.Uses Quiet := by
  unfold settlementVoucher
  split
  · trivial
  · refine Fallible.uses_bind (ask_uses trivial) fun signed => ?_
    exact Fallible.uses_bind (sure_uses _) fun signature => trivial

theorem sealedRefund_uses {server : UptoServer} {terms : SealedRefundTerms} {sealedAt now : ℤ} :
    (sealedRefund server terms sealedAt now).run.Uses Quiet := by
  unfold sealedRefund
  dsimp only
  split
  · trivial
  · refine Fallible.uses_bind (ask_uses trivial) fun read => ?_
    exact Fallible.uses_bind (sure_uses _) fun account => trivial

theorem buildSettlementInstructions_uses {handler : UptoHandler} {opened : VerifiedUptoOpen}
    {actual : ℕ} {now : ℤ} :
    (buildSettlementInstructions handler opened actual now).run.Uses Quiet := by
  refine Fallible.uses_bind (sure_uses _) fun _ => ?_
  refine Fallible.uses_bind settlementVoucher_uses fun voucher => ?_
  exact Fallible.uses_bind sealedRefund_uses fun decision => trivial

/-- What a caller knows that was given an open. -/
def Given (caller : Caller) (opened : VerifiedUptoOpen) (world : OpenWorld Caller) : Prop :=
  At caller opened.channelId .served world ∧ Did world.history caller (returned opened)

theorem settleActual_keeps {handler : UptoHandler} {opened : VerifiedUptoOpen} {actual : ℕ}
    {now : ℤ} (holds : Exclusive before) (hGiven : Given caller opened before) :
    Keeps caller (fun _ => True) (fun _ => Given caller opened)
      (settleActual handler opened actual now).run before := by
  have hBuilt : Keeps caller (fun _ => True) (fun _ => At caller opened.channelId .served)
      (buildSettlementInstructions handler opened actual now).run before :=
    (quiet_keeps buildSettlementInstructions_uses (by decide) hGiven.1).weaken_running
      fun _ _ => trivial
  refine Environment.Safe.fallible_bind holds (hBuilt.yields buildSettlementInstructions_yields) ?_ ?_
  · rintro settlement world - hSuffix ⟨hAt, hWithin⟩
    rcases hWithin settlement rfl with ⟨hChannel, hCharged⟩
    have hReturned := hGiven.2.suffix hSuffix
    apply keeps_perform
    · intro later hLater
      exact ⟨trivial, opened, hReturned.suffix hLater.suffix, hChannel.symm, hCharged⟩
    · intro later reply state hLater _ last hLast
      refine ⟨?_, ?_⟩
      · refine At.interfere ?_ hLast
        rw [At, World.record_history, stageOf_self]
        exact hAt.interfere hLater
      · exact (hReturned.suffix (hLater.suffix.trans (List.suffix_cons _ _))).suffix hLast.suffix
  · rintro failure world - hSuffix ⟨hAt, -⟩ later hLater
    exact ⟨hAt.interfere hLater, (hGiven.2.suffix hSuffix).suffix hLater.suffix⟩

theorem settleEach_keeps {handler : UptoHandler} {opened : VerifiedUptoOpen}
    {settlements : List (ℕ × ℤ)} (holds : Exclusive before) (hGiven : Given caller opened before) :
    Keeps caller (fun _ => True) (fun _ => Given caller opened)
      (settleEach handler opened settlements) before := by
  induction settlements generalizing before with
  | nil =>
      intro later hLater
      exact ⟨hGiven.1.interfere hLater, hGiven.2.suffix hLater.suffix⟩
  | cons settlement settlements hInduction =>
      refine Environment.Safe.bind holds (settleActual_keeps holds hGiven) ?_
      exact fun _ later hHolds _ hNow => hInduction hHolds hNow

/-! ### Runs -/

theorem OpenRequest.program_keeps {request : OpenRequest} (holds : Exclusive before) :
    Keeps caller (fun _ => True) (fun _ _ => True) request.program before := by
  refine Environment.Safe.bind holds verifyOpenForRoute_keeps ?_
  rintro (failure | opened) now hHolds - hVerified
  · exact fun _ _ => trivial
  · refine Environment.Safe.bind hHolds (settleEach_keeps hHolds hVerified) ?_
    rintro - later hLater - hGiven
    cases request.drops with
    | false => exact fun _ _ => trivial
    | true => exact release_keeps (hGiven.1.holding (by decide)) fun _ _ _ _ => trivial

theorem channelMoves_keeps {moves : List ChannelMove} :
    Keeps caller (fun _ => True) (fun _ _ => True) (channelMoves moves) before := by
  induction moves generalizing before with
  | nil => exact fun _ _ => trivial
  | cons move moves hInduction =>
      exact keeps_perform (fun _ _ => ⟨trivial, trivial⟩) fun _ _ _ _ _ => hInduction

theorem OpenRole.program_keeps {role : OpenRole} (holds : Exclusive before) :
    Keeps caller (fun _ => True) (fun _ _ => True) role.program before := by
  cases role with
  | client request => exact request.program_keeps holds
  | chain moves => exact channelMoves_keeps

theorem exclusive_openStart {roles : Caller → OpenRole} {life : Pubkey → ChannelLife} :
    Exclusive (openStart roles life).world where
  held _ _ hHolds := absurd rfl hHolds
  alone _ _ _ hHolds := absurd rfl hHolds
  opened _ hReturned := absurd rfl hReturned
  once _ := Nat.zero_le 1
  absent _ _ hStage := nomatch hStage
  bound _ _ hStage := nomatch hStage
  priced _ _ hReturned := absurd hReturned not_did_nil
  charged _ _ hSubmitted := absurd hSubmitted not_did_nil

theorem exclusive_of_reachable {roles : Caller → OpenRole} {life : Pubkey → ChannelLife}
    {reached : OpenRun Caller}
    (hRun : (openEnvironment Caller).Reachable (openStart roles life) reached) :
    Exclusive reached.world := by
  have hSafe : ∀ caller : Caller, Keeps caller (fun _ => True) (fun _ _ => True)
      ((openStart roles life).threads caller) (openStart roles life).world :=
    fun caller => OpenRole.program_keeps exclusive_openStart
  exact (Environment.safe_of_reachable exclusive_openStart hSafe hRun).1

theorem live_of_read {roles : Caller → OpenRole} {life : Pubkey → ChannelLife}
    {reached : OpenRun Caller} {data : List UInt8} {channel : ChannelAccount}
    (hRun : (openEnvironment Caller).Reachable (openStart roles life) reached)
    (hRead : Did reached.world.history caller (readData channelId data))
    (hDecoded : ChannelAccount.fromBytes data = some channel) :
    ∃ read, (openEnvironment Caller).Reachable (openStart roles life) read ∧
      read.world.history <:+ reached.world.history ∧
      read.world.state.life channelId = .live data := by
  rcases hRead with ⟨⟨mover, call, reply⟩, hMem, -, hKind⟩
  rcases hRun.step_of_mem hMem (by simp [openStart]) with
    ⟨before, after, hBefore, hStep, hHistory, hAfter⟩
  refine ⟨before, hBefore, ?_, ?_⟩
  · refine List.IsSuffix.trans ?_ hAfter.history_suffix
    rw [hHistory]
    exact List.suffix_cons _ _
  · cases hStep with
    | perform other made next answer state hWaiting hEffect _ =>
        have hSame := (List.cons.inj hHistory).1
        cases call with
        | accountData address =>
            rcases hKind with ⟨rfl, rfl⟩
            cases hSame
            exact hEffect.2 data channel rfl hDecoded
        | _ => exact hKind.elim

/-- An authorization is served once, for at most the deposit that was on the chain. -/
theorem one_open_per_channel {roles : Caller → OpenRole} {life : Pubkey → ChannelLife}
    {reached : OpenRun Caller}
    (hRun : (openEnvironment Caller).Reachable (openStart roles life) reached) :
    (∀ channelId, returnsOf channelId reached.world.history ≤ 1) ∧
      (∀ caller settlement, Did reached.world.history caller (submitted settlement) →
        ∃ opened, Did reached.world.history caller (returned opened) ∧
          opened.channelId = settlement.channelId ∧ settlement.charged ≤ opened.maxAmount) ∧
      ∀ caller opened, Did reached.world.history caller (returned opened) →
        ∃ read data channel, (openEnvironment Caller).Reachable (openStart roles life) read ∧
          read.world.history <:+ reached.world.history ∧
          read.world.state.life opened.channelId = .live data ∧
          ChannelAccount.fromBytes data = some channel ∧ channel.deposit = opened.maxAmount := by
  have hExclusive := exclusive_of_reachable hRun
  refine ⟨hExclusive.once, hExclusive.charged, ?_⟩
  intro caller opened hReturned
  rcases hExclusive.priced caller opened hReturned with ⟨data, channel, hRead, hDecoded, hDeposit⟩
  rcases live_of_read hRun hRead hDecoded with ⟨read, hReached, hSuffix, hLive⟩
  exact ⟨read, data, channel, hReached, hSuffix, hLive, hDecoded, hDeposit⟩

end

/-! ### A replay -/

inductive ReplayParty where
  | payer
  | hasty
  | late
  | chain
deriving DecidableEq

/-- The payer's Ed25519 signature of the open whose fee the sponsor pays. -/
def sponsoredSignature : Signature where
  bytes := [99, 109, 57, 139, 84, 116, 104, 156, 33, 32, 219, 69, 130, 5, 183, 241, 255, 6, 168,
    251, 207, 195, 96, 66, 49, 139, 93, 170, 61, 132, 56, 155, 100, 253, 121, 60, 60, 133, 66, 131,
    250, 194, 39, 254, 27, 212, 4, 98, 12, 184, 147, 248, 171, 141, 13, 47, 2, 249, 217, 4, 49,
    145, 156, 7]
  length_bytes := rfl

/-- An open of 1,000 that the sponsor pays the fee of. -/
def sponsoredOpen : VersionedTransaction where
  signatures := [Signature.default, sponsoredSignature]
  message := .v0
    { header := ⟨2, 0, 8⟩
      accountKeys := [closeSponsor, closePayer, openedChannel, payersTokens, channelsTokens,
        openMint, tokenProgram, systemProgram, rentSysvar, ataProgram, openEventAuthority,
        paymentChannelsProgram, memoProgram]
      recentBlockhash := List.replicate 32 0
      instructions := [
        ⟨11, [1, 0, 0, 5, 0, 2, 3, 4, 6, 7, 8, 9, 10, 11],
          [1, 7, 0, 0, 0, 0, 0, 0, 0, 232, 3, 0, 0, 0, 0, 0, 0, 132, 3, 0, 0, 42, 0, 0, 0, 0, 0, 0,
            0, 1, 0, 0, 0] ++ closeSponsor.bytes ++ [16, 39]⟩,
        ⟨12, [], asBytes "orders"⟩] }
    []

def sponsoredChain : Chain :=
  { openChain with
    decode text := if text = "open" then .ok sponsoredOpen else .error "invalid base64"
    verify signature key bytes := signature = sponsoredSignature ∧ key = closePayer ∧
      bytes = serializeSmall sponsoredOpen.message }

/-- The account of the channel that the sample open opens. -/
def openedChannelData : List UInt8 :=
  [1, 1, 255, 0, 7, 0, 0, 0, 0, 0, 0, 0, 232, 3, 0, 0, 0, 0, 0, 0] ++ List.replicate 32 0 ++
    [132, 3, 0, 0] ++ [81, 154, 129, 135, 136, 125, 210, 130, 75, 90, 31, 141, 156, 144, 112, 100,
      150, 240, 3, 59, 235, 239, 226, 71, 30, 62, 91, 158, 179, 190, 212, 182] ++
    closePayer.bytes ++ closeSponsor.bytes ++ closeSponsor.bytes ++ openMint.bytes ++
    closeSponsor.bytes ++ [42, 0, 0, 0, 0, 0, 0, 0]

/-- A request whose open is settled for 600 of 1,000. The digest is that of the one recipient. -/
def replayRequest : OpenRequest where
  handler :=
    { server := { openServer with chain := sponsoredChain }
      maxTimeoutSeconds := 60
      sha256 := fun _ => slice openedChannelData 56 88 }
  header := "header"
  offered := .ok [openRequirements]
  now := 1000
  rounds := 2
  patience := 20
  settlements := [(600, 1000)]
  drops := true

def replayRoles : ReplayParty → OpenRole
  | .chain => .chain [.opens openedChannel openedChannelData, .closes openedChannel]
  | _ => .client replayRequest

/-- The chain, a node and the signers when all is well. -/
def answerOpen (_ : Unit) : (call : OpenCall) → OpenState → OpenReply call × OpenState
  | .claim channelId, state =>
      (!state.inFlight channelId,
        { state with inFlight := Function.update state.inFlight channelId true })
  | .release channelId, state =>
      ((), { state with inFlight := Function.update state.inFlight channelId false })
  | .account address, state =>
      match state.life address with
      | .live data => (.ok (some ⟨paymentChannelsProgram, data⟩), state)
      | _ => (.ok none, state)
  | .accountData address, state =>
      match state.life address with
      | .live data => (.ok data, state)
      | _ => (.error "account not found", state)
  | .challengedSlot, state => (some 50, state)
  | .cosign _, state => (.ok "signature", state)
  | .signVoucher _ _ _, state => (.ok openSignature, state)
  | .node (.sendTransaction _), state => (.accepted, state)
  | .node (.signatureStatus _ _), state => (.ok (some .succeeded), state)
  | .node (.isBlockhashValid _), state => (.ok true, state)
  | .returns _, state => ((), state)
  | .submit _, state => (.ok "settlement", state)
  | .chain move, state => ((), state.apply move)

theorem openEffect_answerOpen (choice : Unit) (call : OpenCall) (state : OpenState) :
    openEffect call state (answerOpen choice call state).1 (answerOpen choice call state).2 := by
  cases call with
  | claim channelId => exact ⟨rfl, rfl⟩
  | release channelId => rfl
  | account address =>
      cases hLife : state.life address with
      | live data => simp [openEffect, answerOpen, hLife]
      | unopened => simp [openEffect, answerOpen, hLife]
      | closed => simp [openEffect, answerOpen, hLife]
  | accountData address =>
      cases hLife : state.life address with
      | live data => simp +contextual [openEffect, answerOpen, hLife]
      | unopened => simp [openEffect, answerOpen, hLife]
      | closed => simp [openEffect, answerOpen, hLife]
  | node call => cases call <;> rfl
  | _ => rfl

/-- The open is presented while it is served and again when its channel is closed. -/
def replayRun : OpenRun ReplayParty :=
  (openStart replayRoles fun _ => .unopened).runSchedule answerOpen
    (List.replicate 5 (.payer, ()) ++ [(.hasty, ()), (.chain, ())] ++
      List.replicate 7 (.payer, ()) ++ [(.chain, ())] ++ List.replicate 9 (.late, ()))

/-- The open is returned once, and every settlement is within an open that was returned. -/
theorem one_open_of_replayRun :
    returnsOf openedChannel replayRun.world.history = 1 ∧
      (∀ channelId, returnsOf channelId replayRun.world.history ≤ 1) ∧
      ∀ caller settlement, Did replayRun.world.history caller (submitted settlement) →
        ∃ opened, Did replayRun.world.history caller (returned opened) ∧
          opened.channelId = settlement.channelId ∧ settlement.charged ≤ opened.maxAmount := by
  have hRun : (openEnvironment ReplayParty).Reachable
      (openStart replayRoles fun _ => .unopened) replayRun :=
    Config.reachable_runSchedule openEffect_answerOpen _ _
      (Config.permitted_of_unrestricted (fun _ _ => trivial) _ _)
  rcases one_open_per_channel hRun with ⟨hOnce, hWithin, -⟩
  exact ⟨by decide +kernel, hOnce, hWithin⟩

end PayKit.Upto
