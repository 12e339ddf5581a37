import Mathlib.Algebra.BigOperators.Fin
import PayKit.Session.AcceptVoucher

/-!
# Concurrent vouchers on one channel

Any number of callers accept vouchers on one channel, their snapshot reads and
updates interleaved in any order. The watermark only rises, stays within the
deposit, and each fresh voucher is accepted by one caller only.

What a caller is told it charged is counted from the watermark of its snapshot,
and so is the minimum step, although another voucher may have raised the
watermark since. The charges add up to the rise of the watermark exactly in the
runs in which no fresh voucher is accepted over a stale snapshot.
-/

namespace PayKit.Session

open Channel Concurrency Machine Store

variable {Caller : Type} [DecidableEq Caller]

/-- What one call of `accept_voucher` has charged so far. -/
def chargedBy : Program ChannelCall ChannelReply (Except Error VoucherAcceptance) → ℕ
  | .done (.ok acceptance) => acceptance.charged
  | _ => 0

abbrev VoucherWorld (Caller : Type) := World Caller (Option ChannelState) ChannelCall ChannelReply

abbrev VoucherConfig (Caller : Type) :=
  Config Caller (Option ChannelState) ChannelCall ChannelReply (Except Error VoucherAcceptance)

/-- The store answers; the runs take the steps that `allowed` permits. -/
def voucherStore (allowed : VoucherWorld Caller →
    Event Caller ChannelCall ChannelReply → Prop) :
    Environment Caller (Option ChannelState) ChannelCall ChannelReply where
  effect call record reply after := (reply, after) = handle call record
  allowed := allowed

/-- Every caller is about to accept its voucher. -/
def acceptAll (channelId : String) (checkSignature : SignatureCheck) (channel : ChannelState)
    (vouchers : Caller → Voucher) : VoucherConfig Caller where
  world := ⟨some channel, []⟩
  threads caller := (acceptVoucher channelId checkSignature (vouchers caller)).run

/-- A step that accepts a fresh voucher finds the watermark its caller's snapshot
showed. -/
def OverCurrentSnapshot (world : VoucherWorld Caller) :
    Event Caller ChannelCall ChannelReply → Prop
  | ⟨caller, .updateChannel _, .ok (_, false)⟩ =>
      ∀ snapshot, ⟨caller, .getChannel, some snapshot⟩ ∈ world.history →
        world.state.map ChannelState.cumulative = some snapshot.cumulative
  | _ => True

/-- The watermark of the stored record. -/
def watermark (config : VoucherConfig Caller) : ℕ :=
  (config.world.state.map ChannelState.cumulative).getD 0

section

variable {channelId : String} {checkSignature : SignatureCheck}
  {channel current after : ChannelState}
  {vouchers : Caller → Voucher} {config next : VoucherConfig Caller}
  {allowed : VoucherWorld Caller → Event Caller ChannelCall ChannelReply → Prop}

/-- How far a caller is, while the record is `current`. -/
inductive Phase (channelId : String) (checkSignature : SignatureCheck) (voucher : Voucher)
    (caller : Caller) (history : List (Event Caller ChannelCall ChannelReply))
    (current : ChannelState) :
    Program ChannelCall ChannelReply (Except Error VoucherAcceptance) → Prop where
  | unread : Phase channelId checkSignature voucher caller history current
      (acceptVoucher channelId checkSignature voucher).run
  | waiting (snapshot : ChannelState)
      (read : ⟨caller, .getChannel, some snapshot⟩ ∈ history)
      (below : snapshot.cumulative ≤ current.cumulative)
      (deposit : snapshot.deposit = current.deposit)
      (checked : checkSnapshot channelId checkSignature voucher snapshot = .ok ()) :
      Phase channelId checkSignature voucher caller history current
        (.perform (.updateChannel (commitVoucher voucher fun state _ => .ok state))
          fun updated => .done (acceptance snapshot.cumulative updated))
  | refused (error : Error) :
      Phase channelId checkSignature voucher caller history current (.done (.error error))
  | replayed (acceptance : VoucherAcceptance) (replay : acceptance.replay = true)
      (charged : acceptance.charged = 0) :
      Phase channelId checkSignature voucher caller history current (.done (.ok acceptance))
  | fresh (acceptance : VoucherAcceptance) (below : voucher.newCumulative ≤ current.cumulative) :
      Phase channelId checkSignature voucher caller history current (.done (.ok acceptance))

omit [DecidableEq Caller] in
theorem Phase.mono {voucher : Voucher} {caller : Caller} {after : ChannelState}
    {history : List (Event Caller ChannelCall ChannelReply)}
    {event : Event Caller ChannelCall ChannelReply}
    {program : Program ChannelCall ChannelReply (Except Error VoucherAcceptance)}
    (hPhase : Phase channelId checkSignature voucher caller history current program)
    (hBelow : current.cumulative ≤ after.cumulative) (hDeposit : current.deposit = after.deposit) :
    Phase channelId checkSignature voucher caller (event :: history) after program := by
  cases hPhase with
  | unread => exact .unread
  | waiting snapshot hRead hSnapshot hSame hChecked =>
      exact .waiting snapshot (List.mem_cons_of_mem _ hRead) (hSnapshot.trans hBelow)
        (hSame.trans hDeposit) hChecked
  | refused error => exact .refused error
  | replayed acceptance hReplay hCharged => exact .replayed acceptance hReplay hCharged
  | fresh acceptance hAccepted => exact .fresh acceptance (hAccepted.trans hBelow)

/-- What one step does: it accepts a fresh voucher, or leaves the record as it was
and charges nothing. -/
inductive Progress (channelId : String) (checkSignature : SignatureCheck)
    (vouchers : Caller → Voucher) (config : VoucherConfig Caller) (current : ChannelState)
    (next : VoucherConfig Caller) : Prop where
  | quiet (caller : Caller)
      (program : Program ChannelCall ChannelReply (Except Error VoucherAcceptance))
      (state : next.world.state = some current)
      (threads : next.threads = Function.update config.threads caller program)
      (busy : chargedBy (config.threads caller) = 0) (uncharged : chargedBy program = 0)
      (stale : ∀ acceptance, program = .done (.ok acceptance) → acceptance.replay = true)
      (unaccepted : ∀ other updater updated, next.world.history ≠
        ⟨other, .updateChannel updater, .ok (updated, false)⟩ :: config.world.history)
      (phase : Phase channelId checkSignature (vouchers caller) caller next.world.history current
        program)
  | fresh (caller : Caller) (snapshot : ChannelState)
      (updater : Option ChannelState → Except StoreError (ChannelState × Bool))
      (state : next.world.state = some (accepted (vouchers caller) current))
      (history : next.world.history =
        ⟨caller, .updateChannel updater, .ok (accepted (vouchers caller) current, false)⟩ ::
          config.world.history)
      (threads : next.threads = Function.update config.threads caller
        (.done (.ok ⟨(vouchers caller).newCumulative,
          (vouchers caller).newCumulative - snapshot.cumulative, false⟩)))
      (busy : chargedBy (config.threads caller) = 0)
      (read : ⟨caller, .getChannel, some snapshot⟩ ∈ config.world.history)
      (below : snapshot.cumulative ≤ current.cumulative)
      (above : current.cumulative < (vouchers caller).newCumulative)
      (minimum : snapshot.cumulative + (vouchers caller).minVoucherDelta ≤
        (vouchers caller).newCumulative)
      (deposit : (vouchers caller).newCumulative ≤ current.deposit)

theorem progress_of_update {caller : Caller} {snapshot : ChannelState}
    {reply : Except StoreError (ChannelState × Bool)} {after : Option ChannelState}
    (hState : config.world.state = some current)
    (hAnswered : (reply, after) = handle (.updateChannel (commitVoucher (vouchers caller)
      fun state _ => .ok state)) config.world.state)
    (hBusy : chargedBy (config.threads caller) = 0)
    (hRead : ⟨caller, .getChannel, some snapshot⟩ ∈ config.world.history)
    (hBelow : snapshot.cumulative ≤ current.cumulative)
    (hDeposit : snapshot.deposit = current.deposit)
    (hChecked : checkSnapshot channelId checkSignature (vouchers caller) snapshot = .ok ()) :
    Progress channelId checkSignature vouchers config current
      ⟨config.world.record ⟨caller, .updateChannel (commitVoucher (vouchers caller)
          fun state _ => .ok state), reply⟩ after,
        Function.update config.threads caller (.done (acceptance snapshot.cumulative reply))⟩ := by
  rw [handle, hState] at hAnswered
  split at hAnswered
  · rename_i updated flag hCommitted
    cases hAnswered
    rcases commitVoucher_eq_ok hCommitted with ⟨state, hSome, hCases⟩
    cases hSome
    rcases hCases with ⟨rfl, rfl⟩ | ⟨rfl, hAbove, rfl⟩
    · refine .quiet caller _ rfl rfl hBusy rfl ?_ (by simp) (.replayed _ rfl rfl)
      intro acceptance hDone
      cases hDone
      rfl
    · rcases checkSnapshot_eq_ok hChecked with ⟨hWithin, hFresh⟩
      have hMinimum : snapshot.cumulative + (vouchers caller).minVoucherDelta ≤
          (vouchers caller).newCumulative := by
        rcases hFresh with hReplay | ⟨-, hMinimum⟩
        · -- A replay in the snapshot cannot be fresh: the watermark has not fallen since.
          simp only [Voucher.isReplay, decide_eq_true_eq] at hReplay
          omega
        · exact hMinimum
      exact .fresh caller snapshot _ rfl rfl rfl hBusy hRead hBelow hAbove hMinimum
        (hDeposit ▸ hWithin)
  · cases hAnswered
    refine .quiet caller _ rfl rfl hBusy rfl ?_ (by simp) (.refused _)
    intro acceptance hDone
    cases hDone

theorem progress (hState : config.world.state = some current)
    (hPhases : ∀ caller, Phase channelId checkSignature (vouchers caller) caller
      config.world.history current (config.threads caller))
    (hStep : (voucherStore allowed).Step config next) :
    Progress channelId checkSignature vouchers config current next := by
  cases hStep with
  | perform caller call rest reply after hWaiting hAnswered hAllowed =>
      have hPhase := hPhases caller
      generalize hThread : config.threads caller = thread at hPhase hWaiting
      have hBusy : chargedBy (config.threads caller) = 0 := by
        rw [hThread, hWaiting]
        rfl
      cases hPhase with
      | unread =>
          rw [acceptVoucher_run] at hWaiting
          cases hWaiting
          simp only [voucherStore, handle, hState, Prod.mk.injEq] at hAnswered
          rcases hAnswered with ⟨rfl, rfl⟩
          refine .quiet caller _ rfl rfl hBusy ?_ ?_ (by simp) ?_
          · dsimp only
            split <;> rfl
          · intro acceptance hDone
            dsimp only at hDone
            split at hDone <;> cases hDone
          · dsimp only
            split
            · exact .refused _
            · rename_i hChecked
              exact .waiting current (List.mem_cons_self ..) le_rfl rfl hChecked
      | waiting snapshot hRead hBelow hDeposit hChecked =>
          cases hWaiting
          exact progress_of_update hState hAnswered hBusy hRead hBelow hDeposit hChecked
      | refused error => cases hWaiting
      | replayed acceptance hReplay hCharged => cases hWaiting
      | fresh acceptance hAccepted => cases hWaiting

/-- A caller that was told its voucher is fresh. -/
def AcceptedFresh (config : VoucherConfig Caller) (caller : Caller) : Prop :=
  ∃ acceptance, config.threads caller = .done (.ok acceptance) ∧ acceptance.replay = false

/-- What holds between two steps, while the record is `current`. -/
structure VoucherInvariant (channelId : String) (checkSignature : SignatureCheck)
    (channel : ChannelState) (vouchers : Caller → Voucher) (config : VoucherConfig Caller)
    (current : ChannelState) : Prop where
  state : config.world.state = some current
  deposit : current.deposit = channel.deposit
  funded : channel.cumulative ≤ channel.deposit → current.cumulative ≤ channel.deposit
  phases : ∀ caller, Phase channelId checkSignature (vouchers caller) caller
    config.world.history current (config.threads caller)
  once : ∀ first second, AcceptedFresh config first → AcceptedFresh config second →
    (vouchers first).newCumulative = (vouchers second).newCumulative → first = second

namespace VoucherInvariant

omit [DecidableEq Caller] in
theorem initial : VoucherInvariant channelId checkSignature channel vouchers
    (acceptAll channelId checkSignature channel vouchers) channel where
  state := rfl
  deposit := rfl
  funded := id
  phases _ := .unread
  once := by
    rintro first second ⟨acceptance, hDone, -⟩
    cases hDone

omit [DecidableEq Caller] in
theorem watermark_eq
    (hInvariant : VoucherInvariant channelId checkSignature channel vouchers config current) :
    watermark config = current.cumulative := by
  simp [watermark, hInvariant.state]

omit [DecidableEq Caller] in
theorem below
    (hInvariant : VoucherInvariant channelId checkSignature channel vouchers config current)
    {caller : Caller} (hFresh : AcceptedFresh config caller) :
    (vouchers caller).newCumulative ≤ current.cumulative := by
  rcases hFresh with ⟨acceptance, hDone, hReplay⟩
  have hPhase := hInvariant.phases caller
  rw [hDone] at hPhase
  cases hPhase with
  | replayed acceptance hReplayed hCharged => simp [hReplay] at hReplayed
  | fresh acceptance hBelow => exact hBelow

theorem progress
    (hInvariant : VoucherInvariant channelId checkSignature channel vouchers config current)
    (hStep : (voucherStore allowed).Step config next) :
    Progress channelId checkSignature vouchers config current next :=
  Session.progress hInvariant.state hInvariant.phases hStep

theorem acceptedFresh_update {caller other : Caller}
    {program : Program ChannelCall ChannelReply (Except Error VoucherAcceptance)}
    (hThreads : next.threads = Function.update config.threads caller program)
    (hFresh : AcceptedFresh next other) :
    other = caller ∧ (∃ acceptance, program = .done (.ok acceptance) ∧ acceptance.replay = false) ∨
      other ≠ caller ∧ AcceptedFresh config other := by
  rcases hFresh with ⟨acceptance, hDone, hReplay⟩
  rw [hThreads] at hDone
  by_cases hSame : other = caller
  · subst hSame
    rw [Function.update_self] at hDone
    exact .inl ⟨rfl, acceptance, hDone, hReplay⟩
  · rw [Function.update_of_ne hSame] at hDone
    exact .inr ⟨hSame, acceptance, hDone, hReplay⟩

theorem step
    (hInvariant : VoucherInvariant channelId checkSignature channel vouchers config current)
    (hStep : (voucherStore allowed).Step config next) :
    ∃ after, VoucherInvariant channelId checkSignature channel vouchers next after ∧
      current.cumulative ≤ after.cumulative := by
  have hHistory : ∃ event, next.world.history = event :: config.world.history := by
    cases hStep
    exact ⟨_, rfl⟩
  rcases hHistory with ⟨event, hHistory⟩
  cases hInvariant.progress hStep with
  | quiet caller program hState hThreads hBusy hUncharged hStale hUnaccepted hPhase =>
      refine ⟨current, ⟨hState, hInvariant.deposit, hInvariant.funded, ?_, ?_⟩, le_rfl⟩
      · intro other
        rw [hThreads]
        by_cases hSame : other = caller
        · subst hSame
          rw [Function.update_self]
          exact hPhase
        · rw [Function.update_of_ne hSame, hHistory]
          exact (hInvariant.phases other).mono le_rfl rfl
      · intro first second hFirst hSecond hVoucher
        have hOld : ∀ other, AcceptedFresh next other → AcceptedFresh config other := by
          intro other hOther
          rcases acceptedFresh_update hThreads hOther with ⟨-, acceptance, hDone, hReplay⟩ | hOld
          · simp [hStale acceptance hDone] at hReplay
          · exact hOld.2
        exact hInvariant.once first second (hOld first hFirst) (hOld second hSecond) hVoucher
  | fresh caller snapshot updater hState hFreshHistory hThreads hBusy hRead hBelow hAbove hMinimum
      hDeposit =>
      refine ⟨accepted (vouchers caller) current,
        ⟨hState, hInvariant.deposit, ?_, ?_, ?_⟩, hAbove.le⟩
      · intro _
        rw [← hInvariant.deposit]
        exact hDeposit
      · intro other
        rw [hThreads]
        by_cases hSame : other = caller
        · subst hSame
          rw [Function.update_self]
          exact .fresh _ le_rfl
        · rw [Function.update_of_ne hSame, hHistory]
          exact (hInvariant.phases other).mono hAbove.le rfl
      · -- The new voucher is above every voucher accepted before.
        intro first second hFirst hSecond hVoucher
        rcases acceptedFresh_update hThreads hFirst with ⟨rfl, -⟩ | ⟨-, hFirstOld⟩ <;>
          rcases acceptedFresh_update hThreads hSecond with ⟨rfl, -⟩ | ⟨-, hSecondOld⟩
        · rfl
        · have hOld := hInvariant.below hSecondOld
          omega
        · have hOld := hInvariant.below hFirstOld
          omega
        · exact hInvariant.once first second hFirstOld hSecondOld hVoucher

theorem reachable
    (hInvariant : VoucherInvariant channelId checkSignature channel vouchers config current)
    (hRun : (voucherStore allowed).Reachable config next) :
    ∃ after, VoucherInvariant channelId checkSignature channel vouchers next after ∧
      current.cumulative ≤ after.cumulative := by
  induction hRun with
  | refl => exact ⟨current, hInvariant, le_rfl⟩
  | tail _ hStep ih =>
      rcases ih with ⟨middle, hMiddle, hRisen⟩
      rcases hMiddle.step hStep with ⟨after, hAfter, hRisenStep⟩
      exact ⟨after, hAfter, hRisen.trans hRisenStep⟩

end VoucherInvariant

/-! ## What the callers were charged -/

theorem sum_chargedBy_update [Fintype Caller]
    {threads : Caller → Program ChannelCall ChannelReply (Except Error VoucherAcceptance)}
    {caller : Caller}
    {program : Program ChannelCall ChannelReply (Except Error VoucherAcceptance)}
    (hBusy : chargedBy (threads caller) = 0) :
    ∑ other, chargedBy (Function.update threads caller program other) =
      chargedBy program + ∑ other, chargedBy (threads other) := by
  rw [← Finset.add_sum_erase _ _ (Finset.mem_univ caller),
    ← Finset.add_sum_erase _ (fun other => chargedBy (threads other)) (Finset.mem_univ caller),
    Function.update_self, hBusy, zero_add]
  congr 1
  apply Finset.sum_congr rfl
  intro other hOther
  rw [Function.update_of_ne (Finset.ne_of_mem_erase hOther)]

/-- A fresh voucher accepted over a current snapshot charges the rise of the
watermark. -/
theorem snapshot_eq_of_allowed {caller : Caller} {snapshot : ChannelState}
    (hState : config.world.state = some current)
    (hStep : (voucherStore OverCurrentSnapshot).Step config next)
    {updater : Option ChannelState → Except StoreError (ChannelState × Bool)}
    {updated : ChannelState}
    (hHistory : next.world.history =
      ⟨caller, .updateChannel updater, .ok (updated, false)⟩ :: config.world.history)
    (hRead : ⟨caller, .getChannel, some snapshot⟩ ∈ config.world.history) :
    current.cumulative = snapshot.cumulative := by
  cases hStep with
  | perform mover call rest reply after hWaiting hAnswered hAllowed =>
      simp only [World.record_history, List.cons.injEq, and_true] at hHistory
      have hCurrent : OverCurrentSnapshot config.world
          ⟨caller, .updateChannel updater, .ok (updated, false)⟩ := hHistory ▸ hAllowed
      have hSame := hCurrent snapshot hRead
      simpa [hState] using hSame

theorem charges_add_up [Fintype Caller] {reached : VoucherConfig Caller}
    (hRun : (voucherStore OverCurrentSnapshot).Reachable
      (acceptAll channelId checkSignature channel vouchers) reached) :
    channel.cumulative + ∑ caller, chargedBy (reached.threads caller) = watermark reached := by
  induction hRun with
  | refl =>
      have hNone : ∀ caller, chargedBy
          ((acceptAll channelId checkSignature channel vouchers).threads caller) = 0 :=
        fun _ => rfl
      simp only [hNone, Finset.sum_const_zero, Nat.add_zero]
      rfl
  | @tail middle last hRun hStep ih =>
      rcases VoucherInvariant.initial.reachable hRun with ⟨current, hInvariant, -⟩
      rw [hInvariant.watermark_eq] at ih
      cases hInvariant.progress hStep with
      | quiet caller program hState hThreads hBusy hUncharged hStale hUnaccepted hPhase =>
          rw [hThreads, sum_chargedBy_update hBusy, hUncharged, zero_add, ih]
          simp [watermark, hState]
      | fresh caller snapshot updater hState hHistory hThreads hBusy hRead hBelow hAbove hMinimum
          hDeposit =>
          have hSame := snapshot_eq_of_allowed hInvariant.state hStep hHistory hRead
          have hAfter : watermark last = (vouchers caller).newCumulative := by
            simp [watermark, hState, accepted]
          have hCharged : chargedBy (.done (.ok ⟨(vouchers caller).newCumulative,
              (vouchers caller).newCumulative - snapshot.cumulative, false⟩)) =
              (vouchers caller).newCumulative - snapshot.cumulative :=
            rfl
          rw [hThreads, sum_chargedBy_update hBusy, hAfter, hCharged]
          omega

/-- A fresh voucher accepted over a current snapshot steps the watermark by at least
the minimum. -/
theorem minimum_step {reached : VoucherConfig Caller}
    (hRun : (voucherStore OverCurrentSnapshot).Reachable
      (acceptAll channelId checkSignature channel vouchers) reached)
    (hStep : (voucherStore OverCurrentSnapshot).Step reached next) {caller : Caller}
    {updater : Option ChannelState → Except StoreError (ChannelState × Bool)}
    {updated : ChannelState}
    (hHistory : next.world.history =
      ⟨caller, .updateChannel updater, .ok (updated, false)⟩ :: reached.world.history) :
    watermark reached + (vouchers caller).minVoucherDelta ≤ watermark next := by
  rcases VoucherInvariant.initial.reachable hRun with ⟨current, hInvariant, -⟩
  rw [hInvariant.watermark_eq]
  cases hInvariant.progress hStep with
  | quiet mover program hState hThreads hBusy hUncharged hStale hUnaccepted hPhase =>
      exact absurd hHistory (hUnaccepted caller updater updated)
  | fresh mover snapshot other hState hFresh hThreads hBusy hRead hBelow hAbove hMinimum
      hDeposit =>
      rw [hFresh] at hHistory
      have hSame := snapshot_eq_of_allowed hInvariant.state hStep hFresh hRead
      simp only [List.cons.injEq, and_true, Event.mk.injEq] at hHistory
      rcases hHistory with ⟨rfl, -⟩
      simp only [watermark, hState, accepted, Option.map_some, Option.getD_some]
      omega

/-- Voucher acceptance accounting. In every run the watermark never falls, it never
exceeds a deposit that covered it at first, and a fresh voucher is accepted by one
caller only. In every run whose fresh vouchers are each accepted over the watermark
their caller's snapshot showed, the charges of all calls that returned add up to the
rise of the watermark, and every fresh voucher steps it by at least the minimum. -/
theorem vouchers_accounted [Fintype Caller] :
    (∀ middle reached : VoucherConfig Caller,
      (voucherStore fun _ _ => True).Reachable
        (acceptAll channelId checkSignature channel vouchers) middle →
      (voucherStore fun _ _ => True).Reachable middle reached →
        watermark middle ≤ watermark reached ∧
          (channel.cumulative ≤ channel.deposit → watermark reached ≤ channel.deposit) ∧
          ∀ first second, AcceptedFresh reached first → AcceptedFresh reached second →
            (vouchers first).newCumulative = (vouchers second).newCumulative → first = second) ∧
      ∀ reached : VoucherConfig Caller,
        (voucherStore OverCurrentSnapshot).Reachable
          (acceptAll channelId checkSignature channel vouchers) reached →
        channel.cumulative + ∑ caller, chargedBy (reached.threads caller) = watermark reached ∧
          ∀ next caller updater updated,
            (voucherStore OverCurrentSnapshot).Step reached next →
            next.world.history =
              ⟨caller, .updateChannel updater, .ok (updated, false)⟩ :: reached.world.history →
            watermark reached + (vouchers caller).minVoucherDelta ≤ watermark next := by
  refine ⟨?_, ?_⟩
  · intro middle reached hRun hLater
    rcases VoucherInvariant.initial.reachable hRun with ⟨current, hMiddle, -⟩
    rcases hMiddle.reachable hLater with ⟨after, hReached, hRisen⟩
    rw [hMiddle.watermark_eq, hReached.watermark_eq]
    exact ⟨hRisen, hReached.funded, hReached.once⟩
  · intro reached hRun
    exact ⟨charges_add_up hRun, fun next caller updater updated hStep hHistory =>
      minimum_step hRun hStep hHistory⟩

end

/-! ## Two vouchers -/

/-- Two callers on a channel with watermark 0, one with a voucher for 10 and one with a
voucher for `second`, under a minimum step of 5. -/
def twoVouchers (second : ℕ) (caller : Bool) : Voucher where
  newCumulative := if caller then second else 10
  expiresAt := 0
  signature := if caller then "second" else "first"
  now := 100
  minVoucherDelta := 5
  settlementWindow := 0
  requiredAvailability := 0

def acceptTwo (second : ℕ) : VoucherConfig Bool :=
  acceptAll "channel" (fun _ _ _ _ _ => .ok ()) openedChannel (twoVouchers second)

/-- Let the callers take their steps in the given order. -/
def acceptInOrder (second : ℕ) (order : List Bool) : VoucherConfig Bool :=
  (acceptTwo second).runSchedule (fun (_ : Unit) => handle) (order.map fun caller => (caller, ()))

theorem reachable_acceptInOrder
    {allowed : VoucherWorld Bool → Event Bool ChannelCall ChannelReply → Prop}
    (second : ℕ) (order : List Bool)
    (hPermitted : (acceptTwo second).Permitted (fun (_ : Unit) => handle) allowed
      (order.map fun caller => (caller, ()))) :
    (voucherStore allowed).Reachable (acceptTwo second) (acceptInOrder second order) :=
  Config.reachable_runSchedule (fun _ _ _ => rfl) _ _ hPermitted

/-- One caller after the other: 10, and then 5 more. -/
theorem vouchers_accounted_of_oneAfterTheOther :
    watermark (acceptInOrder 15 [false, false, true, true]) = 15 ∧
      openedChannel.cumulative +
          ∑ caller, chargedBy ((acceptInOrder 15 [false, false, true, true]).threads caller) =
        watermark (acceptInOrder 15 [false, false, true, true]) := by
  refine ⟨by decide, ?_⟩
  apply (vouchers_accounted.2 _ (reachable_acceptInOrder 15 _ _)).1
  refine ⟨trivial, ?_, trivial, ?_, trivial⟩
  · intro snapshot hRead
    rcases List.mem_cons.mp hRead with hRead | hRead
    · cases hRead
      rfl
    · cases hRead
  · intro snapshot hRead
    rcases List.mem_cons.mp hRead with hRead | hRead
    · cases hRead
      rfl
    · rcases List.mem_cons.mp hRead with hRead | hRead
      · cases hRead
      · rcases List.mem_cons.mp hRead with hRead | hRead
        · cases hRead
        · cases hRead

/-- Both callers read the channel before either voucher is accepted. The second step
is 2, below the minimum, and the charges are 10 and 12 for a rise of 12. -/
theorem staleSnapshot_overcharges :
    (voucherStore fun _ _ => True).Reachable (acceptTwo 12)
        (acceptInOrder 12 [false, true, false, true]) ∧
      ¬ openedChannel.cumulative +
          ∑ caller, chargedBy ((acceptInOrder 12 [false, true, false, true]).threads caller) =
        watermark (acceptInOrder 12 [false, true, false, true]) ∧
      AcceptedFresh (acceptInOrder 12 [false, true, false, true]) true ∧
      ¬ watermark (acceptInOrder 12 [false, true, false]) + (twoVouchers 12 true).minVoucherDelta ≤
        watermark (acceptInOrder 12 [false, true, false, true]) := by
  refine ⟨reachable_acceptInOrder 12 _ (Config.permitted_of_unrestricted (fun _ _ => trivial) _ _),
    by decide, ⟨_, rfl, rfl⟩, by decide⟩

end PayKit.Session
