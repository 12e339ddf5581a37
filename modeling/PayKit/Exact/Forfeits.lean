import PayKit.Exact.Grants

/-!
# Releasing a claim that a landed payment stands on

A call that claimed a signature afresh takes a preflight refusal of its first send as proof
that no node was handed the transaction, and releases the claim. That is a fact about this
call alone. Another one may have resumed the claim in the meantime, and its send may have
been forwarded.

So a release is sound in the runs in which a first send is refused while the transaction is
neither landed nor in flight, no other call is then about to send it, and none resumes the
claim before it is released. The schedules at the end of the file show what happens in the
others: the transaction lands, and nobody is granted it.
-/

namespace PayKit.Exact

open Concurrency Rpc Store X402

variable {Caller : Type}

/-! ### What a call has done -/

section

variable (history : List (SettleEvent Caller)) (caller : Caller) (signature : String)

/-- The caller claimed the signature for its own broadcast. -/
def Fresh : Prop :=
  Did history caller fun call reply =>
    puts call reply = some (consumedSignatureKey signature, pendingMarker)

def findsPending (signature : String) : (call : SettleCall) → SettleReply call → Prop
  | .store (.get key), value =>
      key = consumedSignatureKey signature ∧ value = some pendingMarker
  | _, _ => False

/-- The caller found the claim of an earlier broadcast. -/
def Resumed : Prop :=
  Did history caller (findsPending signature)

def Sent : Prop :=
  Did history caller fun call _ => call = .rpc (.sendTransaction signature)

def isRefused (signature : String) : (call : SettleCall) → SettleReply call → Prop
  | .rpc (.sendTransaction other), .refused true _ => other = signature
  | _, _ => False

/-- The caller's send was refused by the preflight simulation. -/
def Refused : Prop :=
  Did history caller (isRefused signature)

def isUnread (signature : String) : (call : SettleCall) → SettleReply call → Prop
  | .rpc (.signatureStatus other _), .error _ => other = signature
  | _, _ => False

/-- The caller could not read a status. -/
def Unread : Prop :=
  Did history caller (isUnread signature)

def concludes (signature : String) : (call : SettleCall) → SettleReply call → Prop
  | .store (.putIfEq key expected _), _ =>
      key = consumedSignatureKey signature ∧ expected = some pendingMarker
  | _, _ => False

/-- The caller confirmed the claim or released it, or tried to. -/
def Concluded : Prop :=
  Did history caller (concludes signature)

/-- The caller is about to send the transaction. -/
def YetToSend : Prop :=
  (Fresh history caller signature ∨ Resumed history caller signature) ∧
    ¬Sent history caller signature

/-- The caller takes its claim for one that nothing was sent for, and has not released it. -/
def Withdrawing : Prop :=
  Fresh history caller signature ∧ Refused history caller signature ∧
    ¬Unread history caller signature ∧ ¬Concluded history caller signature

def tellsConfirmed (signature : String) : (call : SettleCall) → SettleReply call → Prop
  | .rpc (.signatureStatus other false), .ok (some .succeeded) => other = signature
  | _, _ => False

/-- The caller's poll of the status ended with a success. -/
def Polled : Prop :=
  Did history caller (tellsConfirmed signature)

end

def tellsFailure (signature : String) : (call : SettleCall) → SettleReply call → Prop
  | .rpc (.signatureStatus other _), .ok (some (.failed _)) => other = signature
  | _, _ => False

/-- The caller was told that the transaction failed. -/
def SawFailure (history : List (SettleEvent Caller)) (caller : Caller) (signature : String) :
    Prop :=
  Did history caller (tellsFailure signature)

/-- The swap that releases a pending claim. -/
def withdraw (signature : String) : SettleCall :=
  .store (.putIfEq (consumedSignatureKey signature) (some pendingMarker) releasedMarker)

/-- The steps of the runs in which a release is sound. A transaction that failed on the
chain moved nothing, and its claim may be released at any time. -/
structure Orderly (signature : String) (world : SettleWorld Caller)
    (event : SettleEvent Caller) : Prop where
  refused : ∀ caller error,
    event = ⟨caller, .rpc (.sendTransaction signature), .refused true error⟩ →
      Fresh world.history caller signature → ¬(world.state.landings signature).Failed →
        ¬(world.state.landings signature).Live ∧
          ∀ other, other ≠ caller → ¬YetToSend world.history other signature
  resumed : ∀ caller,
    event = ⟨caller, .store (.get (consumedSignatureKey signature)), some pendingMarker⟩ →
      ¬(world.state.landings signature).Failed →
        ∀ other, ¬Withdrawing world.history other signature
  failed : tellsFailure signature event.call event.reply →
    (world.state.landings signature).Failed

def orderly (signature : String) : Environment Caller SettleState SettleCall SettleReply where
  effect := effect
  allowed := Orderly signature

structure ClaimInvariant (signature : String) (world : SettleWorld Caller) : Prop where
  live : (world.state.landings signature).Live →
    world.state.store.entries (consumedSignatureKey signature) = some pendingMarker ∨
      world.state.store.entries (consumedSignatureKey signature) = some (.bool true)
  waiting : ∀ caller, YetToSend world.history caller signature →
    ¬(world.state.landings signature).Failed →
      world.state.store.entries (consumedSignatureKey signature) = some pendingMarker ∨
        world.state.store.entries (consumedSignatureKey signature) = some (.bool true)
  withdrawing : ∀ caller, Withdrawing world.history caller signature →
    ¬(world.state.landings signature).Failed → ¬(world.state.landings signature).Live ∧
      world.state.store.entries (consumedSignatureKey signature) = some pendingMarker ∧
        ∀ other, ¬YetToSend world.history other signature
  oneWithdrawing : ∀ left right, Withdrawing world.history left signature →
    Withdrawing world.history right signature → ¬(world.state.landings signature).Failed →
      left = right
  consumed : world.state.store.entries (consumedSignatureKey signature) = some (.bool true) →
    (world.state.landings signature).Succeeded ∧
      ∃ caller, Took world.history caller signature
  landed : ∀ caller, SawSuccess world.history caller signature →
    (world.state.landings signature).Succeeded
  failed : ∀ caller, SawFailure world.history caller signature →
    (world.state.landings signature).Failed

section

variable {call : SettleCall} {reply : SettleReply call} {after : SettleState}
  {world : SettleWorld Caller} {mover caller : Caller} {signature : String}

/-- The call claims the signature, or finds it claimed. -/
def Claims (signature : String) (call : SettleCall) (reply : SettleReply call) : Prop :=
  puts call reply = some (consumedSignatureKey signature, pendingMarker) ∨
    findsPending signature call reply

theorem yetToSend_of_cons
    (hYetToSend : YetToSend (⟨mover, call, reply⟩ :: world.history) caller signature) :
    (mover = caller ∧ Claims signature call reply) ∨
      YetToSend world.history caller signature := by
  rcases hYetToSend with ⟨hClaimed, hUnsent⟩
  have hUnsentBefore : ¬Sent world.history caller signature := fun hSent =>
    hUnsent (did_cons.mpr (.inr hSent))
  rcases hClaimed with hFresh | hResumed
  · rcases did_cons.mp hFresh with ⟨hMover, hPuts⟩ | hBefore
    · exact .inl ⟨hMover, .inl hPuts⟩
    · exact .inr ⟨.inl hBefore, hUnsentBefore⟩
  · rcases did_cons.mp hResumed with ⟨hMover, hFinds⟩ | hBefore
    · exact .inl ⟨hMover, .inr hFinds⟩
    · exact .inr ⟨.inr hBefore, hUnsentBefore⟩

theorem withdrawing_of_cons
    (hWithdrawing : Withdrawing (⟨mover, call, reply⟩ :: world.history) caller signature) :
    (mover = caller ∧ puts call reply = some (consumedSignatureKey signature, pendingMarker)) ∨
    (mover = caller ∧ isRefused signature call reply ∧ Fresh world.history caller signature) ∨
      Withdrawing world.history caller signature := by
  rcases hWithdrawing with ⟨hFresh, hRefused, hRead, hOpen⟩
  rcases did_cons.mp hFresh with hNow | hFreshBefore
  · exact .inl hNow
  rcases did_cons.mp hRefused with ⟨hMover, hNow⟩ | hRefusedBefore
  · exact .inr (.inl ⟨hMover, hNow, hFreshBefore⟩)
  · refine .inr (.inr ⟨hFreshBefore, hRefusedBefore, ?_, ?_⟩)
    · exact fun hUnread => hRead (did_cons.mpr (.inr hUnread))
    · exact fun hConcluded => hOpen (did_cons.mpr (.inr hConcluded))

theorem failed_kept (signature : String) {before : SettleState} (hEffect : effect call before reply after)
    (hFailed : (before.landings signature).Failed) : (after.landings signature).Failed := by
  cases call with
  | store call => rwa [hEffect.2]
  | chain other =>
      rcases hEffect.2 with ⟨next, hAdvances, hAfter⟩
      rw [hAfter]
      by_cases hSame : signature = other
      · subst hSame
        simpa using hFailed.advances hAdvances
      · simpa [Function.update_of_ne hSame] using hFailed
  | rpc call =>
      rcases landing_of_effect hEffect.1 signature with hSame | ⟨-, hForwarded⟩
      · rwa [hSame]
      · rw [hForwarded]
        exact hFailed.forward

theorem ClaimInvariant.landed_step (hInvariant : ClaimInvariant signature world)
    (hEffect : effect call world.state reply after)
    (hSaw : SawSuccess (⟨mover, call, reply⟩ :: world.history) caller signature) :
    (after.landings signature).Succeeded := by
  apply succeeded_kept hEffect
  rcases did_cons.mp hSaw with ⟨-, hTold⟩ | hBefore
  · exact succeeded_of_told hEffect hTold
  · exact hInvariant.landed caller hBefore

theorem ClaimInvariant.failed_step (hInvariant : ClaimInvariant signature world)
    (hEffect : effect call world.state reply after)
    (hTold : tellsFailure signature call reply → (world.state.landings signature).Failed)
    (hSaw : SawFailure (⟨mover, call, reply⟩ :: world.history) caller signature) :
    (after.landings signature).Failed := by
  apply failed_kept signature hEffect
  rcases did_cons.mp hSaw with ⟨-, hNow⟩ | hBefore
  · exact hTold hNow
  · exact hInvariant.failed caller hBefore

theorem ClaimInvariant.consumed_step (hInvariant : ClaimInvariant signature world)
    (hEffect : effect call world.state reply after)
    (hEntry : world.state.store.entries (consumedSignatureKey signature) = some (.bool true)) :
    (after.landings signature).Succeeded ∧
      ∃ caller, Took (⟨mover, call, reply⟩ :: world.history) caller signature := by
  rcases hInvariant.consumed hEntry with ⟨hSucceeded, taker, hTook⟩
  exact ⟨succeeded_kept hEffect hSucceeded, taker, hTook.suffix (List.suffix_cons _ _)⟩

theorem ClaimInvariant.still (hInvariant : ClaimInvariant signature world)
    (hEffect : effect call world.state reply after)
    (hEntry : after.store.entries (consumedSignatureKey signature) =
      world.state.store.entries (consumedSignatureKey signature))
    (hLive : (after.landings signature).Live → (world.state.landings signature).Live)
    (hClaims : ¬Claims signature call reply)
    (hRefused : isRefused signature call reply → ¬Fresh world.history mover signature)
    (hTold : tellsFailure signature call reply → (world.state.landings signature).Failed) :
    ClaimInvariant signature (world.record ⟨mover, call, reply⟩ after) := by
  have hYetToSend : ∀ caller, YetToSend (⟨mover, call, reply⟩ :: world.history) caller signature →
      YetToSend world.history caller signature := by
    intro caller hNow
    rcases yetToSend_of_cons hNow with ⟨-, hNow⟩ | hBefore
    · exact absurd hNow hClaims
    · exact hBefore
  have hWithdrawing : ∀ caller,
      Withdrawing (⟨mover, call, reply⟩ :: world.history) caller signature →
        Withdrawing world.history caller signature := by
    intro caller hNow
    rcases withdrawing_of_cons hNow with ⟨-, hPuts⟩ | ⟨rfl, hNow, hFresh⟩ | hBefore
    · exact absurd (.inl hPuts) hClaims
    · exact absurd hFresh (hRefused hNow)
    · exact hBefore
  have hFailed := failed_kept signature hEffect
  constructor
  · intro hNow
    simpa [hEntry] using hInvariant.live (hLive hNow)
  · intro caller hNow hUnfailed
    simpa [hEntry] using hInvariant.waiting caller (hYetToSend caller hNow) (mt hFailed hUnfailed)
  · intro caller hNow hUnfailed
    rcases hInvariant.withdrawing caller (hWithdrawing caller hNow) (mt hFailed hUnfailed) with
      ⟨hDead, hPending, hNobody⟩
    exact ⟨mt hLive hDead, by simpa [hEntry] using hPending,
      fun other hOther => hNobody other (hYetToSend other hOther)⟩
  · intro left right hLeft hRight hUnfailed
    exact hInvariant.oneWithdrawing left right (hWithdrawing left hLeft)
      (hWithdrawing right hRight) (mt hFailed hUnfailed)
  · intro hConsumed
    exact hInvariant.consumed_step hEffect (by simpa [hEntry] using hConsumed)
  · exact fun caller => hInvariant.landed_step hEffect
  · exact fun caller => hInvariant.failed_step hEffect hTold

theorem Refused.sent {history : List (SettleEvent Caller)}
    (hRefused : Refused history caller signature) : Sent history caller signature := by
  rcases hRefused with ⟨⟨_, call, reply⟩, hEvent, hOwn, hKind⟩
  refine ⟨_, hEvent, hOwn, ?_⟩
  cases call with
  | store call => exact hKind.elim
  | chain other => exact hKind.elim
  | rpc call =>
      cases call with
      | signatureStatus other searched => exact hKind.elim
      | isBlockhashValid other => exact hKind.elim
      | sendTransaction other =>
          rcases reply with _ | ⟨preflight, error⟩ | error
          · exact hKind.elim
          · cases preflight with
            | true => exact congrArg (SettleCall.rpc ∘ RpcCall.sendTransaction) hKind
            | false => exact hKind.elim
          · exact hKind.elim

theorem ClaimInvariant.claim {key : Call} {inserted : Store.Reply key}
    (hInvariant : ClaimInvariant signature world)
    (hEffect : effect (.store key) world.state inserted after)
    (hBefore : world.state.store.entries (consumedSignatureKey signature) ≠ some pendingMarker ∧
      world.state.store.entries (consumedSignatureKey signature) ≠ some (.bool true))
    (hAfter : after.store.entries (consumedSignatureKey signature) = some pendingMarker)
    (hUnsent : ¬Sent world.history mover signature) :
    ClaimInvariant signature (world.record ⟨mover, .store key, inserted⟩ after) := by
  have hFailed := failed_kept signature hEffect
  have hNobody : ∀ caller,
      Withdrawing (⟨mover, .store key, inserted⟩ :: world.history) caller signature →
        (world.state.landings signature).Failed := by
    intro caller hNow
    by_contra hUnfailed
    rcases withdrawing_of_cons hNow with ⟨rfl, -⟩ | ⟨-, hRefused, -⟩ | hWithdrawing
    · rcases did_cons.mp hNow.2.1 with ⟨-, hRefused⟩ | hRefused
      · exact hRefused
      · exact hUnsent (Refused.sent hRefused)
    · exact hRefused
    · exact hBefore.1 (hInvariant.withdrawing caller hWithdrawing hUnfailed).2.1
  constructor
  · exact fun _ => .inl hAfter
  · exact fun _ _ _ => .inl hAfter
  · exact fun caller hNow hUnfailed => absurd (hFailed (hNobody caller hNow)) hUnfailed
  · exact fun left right hLeft _ hUnfailed => absurd (hFailed (hNobody left hLeft)) hUnfailed
  · intro hConsumed
    simp [hAfter, pendingMarker] at hConsumed
  · exact fun caller => hInvariant.landed_step hEffect
  · exact fun caller => hInvariant.failed_step hEffect False.elim

theorem ClaimInvariant.resume {key : String} {found : Option Value}
    (hInvariant : ClaimInvariant signature world)
    (hEffect : effect (.store (.get key)) world.state found after)
    (hResumed : findsPending signature (.store (.get key)) found →
      ¬(world.state.landings signature).Failed →
        ∀ other, ¬Withdrawing world.history other signature) :
    ClaimInvariant signature (world.record ⟨mover, .store (.get key), found⟩ after) := by
  have hStore : after.store = world.state.store := hEffect.1.2
  have hLandings : after.landings = world.state.landings := hEffect.2
  by_cases hFinds : findsPending signature (.store (.get key)) found
  · have hEntry : world.state.store.entries (consumedSignatureKey signature) =
        some pendingMarker := by
      rw [← hFinds.2, ← hFinds.1]
      exact hEffect.1.1.symm
    have hNobody : ∀ caller,
        Withdrawing (⟨mover, .store (.get key), found⟩ :: world.history) caller signature →
          (world.state.landings signature).Failed := by
      intro caller hNow
      by_contra hUnfailed
      rcases withdrawing_of_cons hNow with ⟨-, hPuts⟩ | ⟨-, hRefused, -⟩ | hWithdrawing
      · simp [puts] at hPuts
      · exact hRefused
      · exact hResumed hFinds hUnfailed caller hWithdrawing
    constructor
    · exact fun _ => .inl (by simpa [hStore] using hEntry)
    · exact fun _ _ _ => .inl (by simpa [hStore] using hEntry)
    · intro caller hNow hUnfailed
      exact absurd (by simpa [hLandings] using hNobody caller hNow) hUnfailed
    · intro left right hLeft _ hUnfailed
      exact absurd (by simpa [hLandings] using hNobody left hLeft) hUnfailed
    · intro hConsumed
      exact hInvariant.consumed_step hEffect (by simpa [hStore] using hConsumed)
    · exact fun caller => hInvariant.landed_step hEffect
    · exact fun caller => hInvariant.failed_step hEffect False.elim
  · apply hInvariant.still hEffect (by rw [hStore]) (by simp [hLandings])
    · simp [Claims, puts, hFinds]
    · exact False.elim
    · exact False.elim

theorem eq_of_isRefused {sent : SendReply}
    (hRefused : isRefused signature (.rpc (.sendTransaction signature)) sent) :
    ∃ error, sent = .refused true error := by
  rcases sent with _ | ⟨preflight, error⟩ | error
  · exact hRefused.elim
  · cases preflight with
    | true => exact ⟨error, rfl⟩
    | false => exact hRefused.elim
  · exact hRefused.elim

theorem ClaimInvariant.send {sent : SendReply} (hInvariant : ClaimInvariant signature world)
    (hEffect : effect (.rpc (.sendTransaction signature)) world.state sent after)
    (hYetToSend : YetToSend world.history mover signature)
    (hRefused : ∀ error, sent = .refused true error → Fresh world.history mover signature →
      ¬(world.state.landings signature).Failed → ¬(world.state.landings signature).Live ∧
        ∀ other, other ≠ mover → ¬YetToSend world.history other signature) :
    ClaimInvariant signature (world.record ⟨mover, .rpc (.sendTransaction signature), sent⟩ after) := by
  have hStore : after.store = world.state.store := hEffect.2
  have hFailed := failed_kept signature hEffect
  have hYet : ∀ caller, YetToSend (⟨mover, .rpc (.sendTransaction signature), sent⟩ ::
      world.history) caller signature → caller ≠ mover ∧ YetToSend world.history caller signature := by
    intro caller hNow
    refine ⟨?_, ?_⟩
    · rintro rfl
      exact hNow.2 (did_self rfl)
    · rcases yetToSend_of_cons hNow with ⟨-, hPuts | hFinds⟩ | hBefore
      · simp [puts] at hPuts
      · exact hFinds.elim
      · exact hBefore
  -- whoever withdraws its claim now was refused by this very send
  have hWithdrawing : ∀ caller, Withdrawing (⟨mover, .rpc (.sendTransaction signature), sent⟩ ::
      world.history) caller signature → ¬(world.state.landings signature).Failed →
        caller = mover ∧ (∃ error, sent = .refused true error) ∧
          Fresh world.history mover signature := by
    intro caller hNow hUnfailed
    rcases withdrawing_of_cons hNow with ⟨-, hPuts⟩ | ⟨rfl, hIsRefused, hFresh⟩ | hBefore
    · simp [puts] at hPuts
    · exact ⟨rfl, eq_of_isRefused hIsRefused, hFresh⟩
    · exact absurd hYetToSend ((hInvariant.withdrawing caller hBefore hUnfailed).2.2 mover)
  constructor
  · intro hLive
    have hUnfailed : ¬(world.state.landings signature).Failed := fun hDead =>
      (hFailed hDead).not_live hLive
    simpa [hStore] using hInvariant.waiting mover hYetToSend hUnfailed
  · intro caller hNow hUnfailed
    simpa [hStore] using hInvariant.waiting caller (hYet caller hNow).2 (mt hFailed hUnfailed)
  · intro caller hNow hUnfailed
    rcases hWithdrawing caller hNow (mt hFailed hUnfailed) with ⟨rfl, ⟨error, rfl⟩, hFresh⟩
    rcases hRefused error rfl hFresh (mt hFailed hUnfailed) with ⟨hDead, hNobody⟩
    have hSame : after.landings = world.state.landings := hEffect.1
    refine ⟨by simpa [hSame] using hDead, ?_, fun other hOther => ?_⟩
    · rcases hInvariant.waiting caller hYetToSend (mt hFailed hUnfailed) with hPending | hConsumed
      · simpa [hStore] using hPending
      · exact absurd (.inl (hInvariant.consumed hConsumed).1) hDead
    · exact hNobody other (hYet other hOther).1 (hYet other hOther).2
  · intro left right hLeft hRight hUnfailed
    have hLeftMover := (hWithdrawing left hLeft (mt hFailed hUnfailed)).1
    have hRightMover := (hWithdrawing right hRight (mt hFailed hUnfailed)).1
    exact hLeftMover.trans hRightMover.symm
  · intro hConsumed
    exact hInvariant.consumed_step hEffect (by simpa [hStore] using hConsumed)
  · exact fun caller => hInvariant.landed_step hEffect
  · exact fun caller => hInvariant.failed_step hEffect False.elim

theorem ClaimInvariant.unswapped {value : Value} (hInvariant : ClaimInvariant signature world)
    (hEffect : effect (.store (.putIfEq (consumedSignatureKey signature) (some pendingMarker)
      value)) world.state false after) :
    ClaimInvariant signature (world.record ⟨mover, .store (.putIfEq
      (consumedSignatureKey signature) (some pendingMarker) value), false⟩ after) := by
  have hStore : after.store = world.state.store := by
    rcases hEffect.1 with ⟨-, hReply, -⟩ | ⟨-, -, hSame⟩
    · cases hReply
    · exact hSame
  apply hInvariant.still hEffect (by rw [hStore]) (by simp [hEffect.2])
  · simp [Claims, puts, findsPending]
  · exact False.elim
  · exact False.elim

theorem ClaimInvariant.confirm {swapped : Bool} (hInvariant : ClaimInvariant signature world)
    (hEffect : effect (.store (.putIfEq (consumedSignatureKey signature) (some pendingMarker)
      (.bool true))) world.state swapped after)
    (hSaw : SawSuccess world.history mover signature) :
    ClaimInvariant signature (world.record ⟨mover, .store (.putIfEq
      (consumedSignatureKey signature) (some pendingMarker) (.bool true)), swapped⟩ after) := by
  cases swapped with
  | false => exact hInvariant.unswapped hEffect
  | true =>
      have hSucceeded := succeeded_kept hEffect (hInvariant.landed mover hSaw)
      have hConsumed : after.store.entries (consumedSignatureKey signature) =
          some (.bool true) := by
        rcases hEffect.1 with ⟨-, -, hAfter⟩ | ⟨-, hReply, -⟩
        · rw [hAfter, Backend.setEntry_entries_self]
        · cases hReply
      have hNobody : ∀ caller, Withdrawing (⟨mover, .store (.putIfEq
          (consumedSignatureKey signature) (some pendingMarker) (.bool true)), true⟩ ::
            world.history) caller signature → (world.state.landings signature).Failed := by
        intro caller hNow
        by_contra hUnfailed
        rcases withdrawing_of_cons hNow with ⟨-, hPuts⟩ | ⟨-, hRefused, -⟩ | hBefore
        · simp [puts, pendingMarker] at hPuts
        · exact hRefused
        · exact (hInvariant.withdrawing caller hBefore hUnfailed).1
            (.inl (hInvariant.landed mover hSaw))
      have hFailed := failed_kept signature hEffect
      constructor
      · exact fun _ => .inr hConsumed
      · exact fun _ _ _ => .inr hConsumed
      · exact fun caller hNow hUnfailed => absurd (hFailed (hNobody caller hNow)) hUnfailed
      · exact fun left right hLeft _ hUnfailed => absurd (hFailed (hNobody left hLeft)) hUnfailed
      · exact fun _ => ⟨hSucceeded, mover, did_self rfl⟩
      · exact fun caller => hInvariant.landed_step hEffect
      · exact fun caller => hInvariant.failed_step hEffect False.elim

theorem ClaimInvariant.release {swapped : Bool} (hInvariant : ClaimInvariant signature world)
    (hEffect : effect (withdraw signature) world.state swapped after)
    (hReleases : Withdrawing world.history mover signature ∨
      (world.state.landings signature).Failed) :
    ClaimInvariant signature (world.record ⟨mover, withdraw signature, swapped⟩ after) := by
  cases swapped with
  | false => exact hInvariant.unswapped hEffect
  | true =>
      have hLandings : after.landings = world.state.landings := hEffect.2
      have hReleased : after.store.entries (consumedSignatureKey signature) =
          some releasedMarker := by
        rcases hEffect.1 with ⟨-, -, hAfter⟩ | ⟨-, hReply, -⟩
        · rw [hAfter, Backend.setEntry_entries_self]
        · cases hReply
      have hUnlive : ¬(world.state.landings signature).Live := by
        by_cases hDead : (world.state.landings signature).Failed
        · exact hDead.not_live
        · rcases hReleases with hWithdrawing | hFailed
          · exact (hInvariant.withdrawing mover hWithdrawing hDead).1
          · exact absurd hFailed hDead
      have hWithdrawing : ∀ caller,
          Withdrawing (⟨mover, withdraw signature, true⟩ :: world.history) caller signature →
            caller ≠ mover ∧ Withdrawing world.history caller signature := by
        intro caller hNow
        refine ⟨?_, ?_⟩
        · rintro rfl
          exact hNow.2.2.2 (did_self ⟨rfl, rfl⟩)
        · rcases withdrawing_of_cons hNow with ⟨-, hPuts⟩ | ⟨-, hRefused, -⟩ | hBefore
          · simp [withdraw, puts, releasedMarker, pendingMarker] at hPuts
          · exact hRefused.elim
          · exact hBefore
      constructor
      · intro hLive
        exact absurd (by simpa [hLandings] using hLive) hUnlive
      · intro caller hNow hUnfailed
        rw [World.record_state, hLandings] at hUnfailed
        have hMover := hReleases.resolve_right hUnfailed
        rcases yetToSend_of_cons hNow with ⟨-, hPuts | hFinds⟩ | hBefore
        · simp [withdraw, puts, releasedMarker, pendingMarker] at hPuts
        · exact hFinds.elim
        · exact absurd hBefore ((hInvariant.withdrawing mover hMover hUnfailed).2.2 caller)
      · intro caller hNow hUnfailed
        rw [World.record_state, hLandings] at hUnfailed
        rcases hWithdrawing caller hNow with ⟨hOther, hBefore⟩
        have hMover := hReleases.resolve_right hUnfailed
        exact absurd (hInvariant.oneWithdrawing caller mover hBefore hMover hUnfailed) hOther
      · intro left right hLeft hRight hUnfailed
        rw [World.record_state, hLandings] at hUnfailed
        exact hInvariant.oneWithdrawing left right (hWithdrawing left hLeft).2
          (hWithdrawing right hRight).2 hUnfailed
      · intro hConsumed
        simp [hReleased, releasedMarker] at hConsumed
      · exact fun caller => hInvariant.landed_step hEffect
      · exact fun caller => hInvariant.failed_step hEffect False.elim

end

/-! ### The walk of a settlement -/

/-- The calls that a settlement makes once it has sent the transaction. -/
def follows (signature : String) : SettleCall → Prop
  | .rpc (.signatureStatus _ _) => True
  | .store (.putIfAbsent key value) => key = consumedSignatureKey signature ∧ value = .bool true
  | .store (.putIfEq key expected value) =>
      key = consumedSignatureKey signature ∧ (expected = some pendingMarker ∨ value = .bool true)
  | _ => False

def moves (signature : String) (call : SettleCall) : Prop :=
  call = .rpc (.sendTransaction signature) ∨ follows signature call

/-- The caller made no call that could change what becomes of the payment. -/
def Idle (history : List (SettleEvent Caller)) (caller : Caller) (signature : String) : Prop :=
  ¬Did history caller fun call _ => moves signature call

/-- The caller has sent the transaction at most. -/
def Unfollowed (history : List (SettleEvent Caller)) (caller : Caller) (signature : String) :
    Prop :=
  ¬Did history caller fun call _ => follows signature call

/-- A call to keys of the store other than the ledger key. -/
def Aside (signature : String) : SettleCall → Prop
  | .store (.putIfAbsent key _) => key ≠ consumedSignatureKey signature
  | .store (.delete key) => key ≠ consumedSignatureKey signature
  | _ => False

section

variable {call : SettleCall} {reply : SettleReply call} {history : List (SettleEvent Caller)}
  {caller : Caller} {signature : String}

theorem follows_of_takes
    (hPuts : puts call reply = some (consumedSignatureKey signature, .bool true)) :
    follows signature call := by
  cases call with
  | rpc call => simp [puts] at hPuts
  | chain other => simp [puts] at hPuts
  | store call =>
      cases call with
      | putIfAbsent key value =>
          cases reply with
          | true => simpa [puts, follows] using hPuts
          | false => simp [puts] at hPuts
      | putIfEq key expected value =>
          cases reply with
          | true =>
              simp only [puts, Option.some.injEq, Prod.mk.injEq] at hPuts
              exact ⟨hPuts.1, .inr hPuts.2⟩
          | false => simp [puts] at hPuts
      | _ => simp [puts] at hPuts

theorem follows_of_told (hTold : tellsSuccess signature call reply) : follows signature call := by
  cases call with
  | store call => exact hTold.elim
  | chain other => exact hTold.elim
  | rpc call =>
      cases call with
      | sendTransaction other => exact hTold.elim
      | isBlockhashValid other => exact hTold.elim
      | signatureStatus other searched => trivial

theorem follows_of_unread (hUnread : isUnread signature call reply) : follows signature call := by
  cases call with
  | store call => exact hUnread.elim
  | chain other => exact hUnread.elim
  | rpc call =>
      cases call with
      | sendTransaction other => exact hUnread.elim
      | isBlockhashValid other => exact hUnread.elim
      | signatureStatus other searched => trivial

theorem told_of_confirmed (hConfirmed : tellsConfirmed signature call reply) :
    tellsSuccess signature call reply := by
  cases call with
  | store call => exact hConfirmed.elim
  | chain other => exact hConfirmed.elim
  | rpc call =>
      cases call with
      | sendTransaction other => exact hConfirmed.elim
      | isBlockhashValid other => exact hConfirmed.elim
      | signatureStatus other searched =>
          cases searched with
          | true => exact hConfirmed.elim
          | false =>
              rcases reply with error | _ | succeeded | error
              · exact hConfirmed
              · exact hConfirmed
              · exact hConfirmed
              · exact hConfirmed

theorem follows_of_concludes (hConcludes : concludes signature call reply) :
    follows signature call := by
  cases call with
  | rpc call => exact hConcludes.elim
  | chain other => exact hConcludes.elim
  | store call =>
      cases call with
      | putIfEq key expected value => exact ⟨hConcludes.1, .inl hConcludes.2⟩
      | _ => exact hConcludes.elim

theorem Polled.sawSuccess (hPolled : Polled history caller signature) :
    SawSuccess history caller signature :=
  hPolled.mono fun _ _ => told_of_confirmed

namespace Unfollowed

variable (hUnfollowed : Unfollowed history caller signature)

include hUnfollowed

theorem not_took : ¬Took history caller signature :=
  fun hTook => hUnfollowed (hTook.mono fun _ _ => follows_of_takes)

theorem not_sawSuccess : ¬SawSuccess history caller signature :=
  fun hSaw => hUnfollowed (hSaw.mono fun _ _ => follows_of_told)

theorem not_polled : ¬Polled history caller signature :=
  fun hPolled => hUnfollowed.not_sawSuccess (Polled.sawSuccess hPolled)

theorem not_unread : ¬Unread history caller signature :=
  fun hUnread => hUnfollowed (hUnread.mono fun _ _ => follows_of_unread)

theorem not_concluded : ¬Concluded history caller signature :=
  fun hConcluded => hUnfollowed (hConcluded.mono fun _ _ => follows_of_concludes)

end Unfollowed

theorem Idle.unfollowed (hIdle : Idle history caller signature) :
    Unfollowed history caller signature :=
  fun hDid => hIdle (hDid.mono fun _ _ => .inr)

theorem Idle.not_sent (hIdle : Idle history caller signature) : ¬Sent history caller signature :=
  fun hSent => hIdle (hSent.mono fun _ _ => .inl)

theorem Aside.not_moves (hAside : Aside signature call) : ¬moves signature call := by
  rintro (rfl | hFollows)
  · exact hAside
  · cases call with
    | rpc call => exact hAside
    | chain other => exact hAside
    | store call =>
        cases call with
        | putIfAbsent key value => exact hAside hFollows.1
        | delete key => exact hFollows
        | _ => exact hAside

end

section

variable {Result : Type} {caller : Caller} {signature : String} {before : SettleWorld Caller}
  {post : Result → SettleWorld Caller → Prop}

/-- The program keeps the invariant in every orderly run, took nothing while it is under way,
and ends in the postcondition. -/
abbrev OrderlyTo (signature : String) (caller : Caller)
    (post : Result → SettleWorld Caller → Prop) (program : SettleM Result)
    (before : SettleWorld Caller) : Prop :=
  (orderly signature).Safe (ClaimInvariant signature) caller
    (fun world => ¬Took world.history caller signature) post program before

theorem orderlyTo_perform {call : SettleCall} {next : SettleReply call → SettleM Result}
    (hTook : ¬Took before.history caller signature)
    (hStep : ∀ (now : SettleWorld Caller) reply state, ClaimInvariant signature now →
      (∀ kind, Did now.history caller kind ↔ Did before.history caller kind) →
        effect call now.state reply state → Orderly signature now ⟨caller, call, reply⟩ →
          ClaimInvariant signature (now.record ⟨caller, call, reply⟩ state) ∧
            (ClaimInvariant signature (now.record ⟨caller, call, reply⟩ state) →
              OrderlyTo signature caller post (next reply)
                (now.record ⟨caller, call, reply⟩ state))) :
    OrderlyTo signature caller post (.perform call next) before := by
  intro now hInterferes
  refine ⟨fun hNow => hTook (hInterferes.did_iff.mp hNow), ?_⟩
  intro reply state hEffect hOrderly
  rcases hStep now reply state hInterferes.1 (fun _ => hInterferes.did_iff) hEffect hOrderly with
    ⟨hKept, hNext⟩
  exact ⟨hKept, hNext hKept⟩

theorem orderlyTo_aside {call : SettleCall} {next : SettleReply call → SettleM Result}
    (hTook : ¬Took before.history caller signature) (hAside : Aside signature call)
    (hNext : ∀ (now : SettleWorld Caller) reply state,
      (∀ kind, Did now.history caller kind ↔ Did before.history caller kind) →
      ClaimInvariant signature (now.record ⟨caller, call, reply⟩ state) →
        effect call now.state reply state →
        OrderlyTo signature caller post (next reply) (now.record ⟨caller, call, reply⟩ state)) :
    OrderlyTo signature caller post (.perform call next) before := by
  apply orderlyTo_perform hTook
  intro now reply state hInvariant hSame hEffect _
  refine ⟨?_, fun hKept => hNext now reply state hSame hKept hEffect⟩
  cases call with
  | rpc call => exact hAside.elim
  | chain other => exact hAside.elim
  | store call =>
      have hLandings : state.landings = now.state.landings := hEffect.2
      cases call with
      | putIfAbsent key value =>
          apply hInvariant.still hEffect _ (by simp [hLandings])
          · rintro (hPuts | hFinds)
            · cases reply with
              | true =>
                  simp only [puts, Option.some.injEq, Prod.mk.injEq] at hPuts
                  exact hAside hPuts.1
              | false => simp [puts] at hPuts
            · exact hFinds
          · exact False.elim
          · exact False.elim
          · rcases hEffect.1 with ⟨-, -, hAfter⟩ | ⟨-, -, hAfter⟩
            · rw [hAfter, Backend.setEntry_entries_of_ne _ _ (Ne.symm hAside)]
            · rw [hAfter]
      | delete key =>
          apply hInvariant.still hEffect _ (by simp [hLandings])
          · rintro (hPuts | hFinds)
            · simp [puts] at hPuts
            · exact hFinds
          · exact False.elim
          · exact False.elim
          · rw [show state.store = _ from hEffect.1,
              Backend.setEntry_entries_of_ne _ _ (Ne.symm hAside)]
      | _ => exact hAside.elim

theorem clear_cons {call : SettleCall} {reply : SettleReply call}
    {older newer : List (SettleEvent Caller)} {mover : Caller}
    {kind : (call : SettleCall) → SettleReply call → Prop} (hKind : ¬kind call reply)
    (hClear : ¬Did older caller kind) (hSame : Did newer caller kind ↔ Did older caller kind) :
    ¬Did (⟨mover, call, reply⟩ :: newer) caller kind := by
  intro hNow
  rcases did_cons.mp hNow with ⟨-, hNow⟩ | hBefore
  · exact hKind hNow
  · exact hClear (hSame.mp hBefore)

theorem orderlyTo_giveBack {kind : (call : SettleCall) → SettleReply call → Prop} {result : Result}
    (hKind : ∀ call reply, kind call reply → moves signature call) {keys : List String}
    (hKeys : ∀ key ∈ keys, key ∈ legacyConsumedSignatureKeys signature)
    (hTook : ¬Took before.history caller signature) (hClear : ¬Did before.history caller kind) :
    OrderlyTo signature caller (fun outcome world => outcome = .ok result ∧
        ¬Took world.history caller signature ∧ ¬Did world.history caller kind)
      (ledger (do
        ConsumedSignatures.giveBack keys
        return result)) before := by
  induction keys generalizing before with
  | nil =>
      intro world hInterferes
      exact ⟨rfl, fun hNow => hTook (hInterferes.did_iff.mp hNow),
        fun hNow => hClear (hInterferes.did_iff.mp hNow)⟩
  | cons key keys hInduction =>
      rw [List.forall_mem_cons] at hKeys
      have hAside : Aside signature (.store (.delete key)) := by
        rintro rfl
        exact consumedSignatureKey_not_mem_legacy signature signature hKeys.1
      apply orderlyTo_aside hTook hAside
      intro now reply state hSame _ _
      apply hInduction hKeys.2
      · exact clear_cons (fun hPuts => hAside.not_moves (.inr (follows_of_takes hPuts))) hTook
          (hSame _)
      · exact clear_cons (fun hIs => hAside.not_moves (hKind _ _ hIs)) hClear (hSame _)

/-- What a claim has come to, before anything is sent. -/
abbrev ClaimedIfTrue (caller : Caller) (signature : String) (outcome : Except StoreError Bool)
    (world : SettleWorld Caller) : Prop :=
  Idle world.history caller signature ∧
    (outcome = .ok true → Fresh world.history caller signature)

theorem orderlyTo_unclaimed {keys : List String}
    (hKeys : ∀ key ∈ keys, key ∈ legacyConsumedSignatureKeys signature)
    (hIdle : Idle before.history caller signature) :
    OrderlyTo signature caller (ClaimedIfTrue caller signature) (ledger (do
      ConsumedSignatures.giveBack keys
      return false)) before := by
  apply (orderlyTo_giveBack (fun _ _ => id) hKeys hIdle.unfollowed.not_took hIdle).weaken
  rintro outcome world _ _ ⟨rfl, -, hStillIdle⟩
  exact ⟨hStillIdle, by simp⟩

theorem orderlyTo_fresh (hIdle : Idle before.history caller signature)
    (hFresh : Fresh before.history caller signature) :
    OrderlyTo signature caller (ClaimedIfTrue caller signature) (.done (.ok true)) before := by
  intro world hInterferes
  exact ⟨fun hNow => hIdle (hInterferes.did_iff.mp hNow), fun _ => hInterferes.did_iff.mpr hFresh⟩

theorem orderlyTo_claimLedgerKey {taken : List String}
    (hTaken : ∀ key ∈ taken, key ∈ legacyConsumedSignatureKeys signature)
    (hIdle : Idle before.history caller signature) :
    OrderlyTo signature caller (ClaimedIfTrue caller signature)
      (ledger (ConsumedSignatures.claimLedgerKey signature pendingMarker taken)) before := by
  apply orderlyTo_perform hIdle.unfollowed.not_took
  intro now inserted state hInvariant hSame hEffect _
  have hStillIdle : Idle (⟨caller, .store (.putIfAbsent (consumedSignatureKey signature)
      pendingMarker), inserted⟩ :: now.history) caller signature :=
    clear_cons (by simp [moves, follows, pendingMarker]) hIdle (hSame _)
  cases inserted with
  | true =>
      refine ⟨?_, fun _ => orderlyTo_fresh hStillIdle (did_self rfl)⟩
      rcases hEffect.1 with ⟨hAbsent, -, hAfter⟩ | ⟨-, hReply, -⟩
      · apply hInvariant.claim hEffect (by simp [hAbsent])
        · rw [hAfter, Backend.setEntry_entries_self]
        · exact fun hSent => hIdle.not_sent ((hSame _).mp hSent)
      · cases hReply
  | false =>
      refine ⟨?_, fun _ => ?_⟩
      · rcases hEffect.1 with ⟨-, hReply, -⟩ | ⟨-, -, hAfter⟩
        · cases hReply
        · apply hInvariant.still hEffect (by rw [hAfter]) (by simp [hEffect.2])
          · simp [Claims, puts, findsPending]
          · exact False.elim
          · exact False.elim
      apply orderlyTo_perform hStillIdle.unfollowed.not_took
      intro later swapped state hInvariant hSame hEffect _
      have hIdleLater : Idle (⟨caller, .store (.putIfEq (consumedSignatureKey signature)
          (some releasedMarker) pendingMarker), swapped⟩ :: later.history) caller signature :=
        clear_cons (by simp [moves, follows, pendingMarker, releasedMarker]) hStillIdle (hSame _)
      cases swapped with
      | true =>
          refine ⟨?_, fun _ => orderlyTo_fresh hIdleLater (did_self rfl)⟩
          rcases hEffect.1 with ⟨hReleased, -, hAfter⟩ | ⟨-, hReply, -⟩
          · apply hInvariant.claim hEffect
            · rw [hReleased]
              simp [releasedMarker, pendingMarker]
            · rw [hAfter, Backend.setEntry_entries_self]
            · exact fun hSent => hStillIdle.not_sent ((hSame _).mp hSent)
          · cases hReply
      | false =>
          refine ⟨?_, fun _ => orderlyTo_unclaimed hTaken hIdleLater⟩
          rcases hEffect.1 with ⟨-, hReply, -⟩ | ⟨-, -, hAfter⟩
          · cases hReply
          · apply hInvariant.still hEffect (by rw [hAfter]) (by simp [hEffect.2])
            · simp [Claims, puts, findsPending]
            · exact False.elim
            · exact False.elim

theorem orderlyTo_claimFrom {taken keys : List String}
    (hTaken : ∀ key ∈ taken, key ∈ legacyConsumedSignatureKeys signature)
    (hKeys : ∀ key ∈ keys, key ∈ legacyConsumedSignatureKeys signature)
    (hIdle : Idle before.history caller signature) :
    OrderlyTo signature caller (ClaimedIfTrue caller signature)
      (ledger (ConsumedSignatures.claimFrom signature pendingMarker taken keys)) before := by
  induction keys generalizing taken before with
  | nil => exact orderlyTo_claimLedgerKey hTaken hIdle
  | cons key keys hInduction =>
      rw [List.forall_mem_cons] at hKeys
      have hAside : Aside signature (.store (.putIfAbsent key (.bool true))) := by
        rintro rfl
        exact consumedSignatureKey_not_mem_legacy signature signature hKeys.1
      apply orderlyTo_aside hIdle.unfollowed.not_took hAside
      intro now inserted state hSame _ _
      have hStillIdle : Idle (⟨caller, .store (.putIfAbsent key (.bool true)), inserted⟩ ::
          now.history) caller signature := clear_cons hAside.not_moves hIdle (hSame _)
      cases inserted with
      | true =>
          refine hInduction ?_ hKeys.2 hStillIdle
          intro other hOther
          rcases List.mem_append.mp hOther with hBefore | hNow
          · exact hTaken other hBefore
          · rw [List.mem_singleton.mp hNow]
            exact hKeys.1
      | false => exact orderlyTo_unclaimed hTaken hStillIdle

/-- What a claim of a transaction that is about to be sent has come to. -/
abbrev PendingClaimed (caller : Caller) (signature : String)
    (outcome : Except StoreError PendingClaim) (world : SettleWorld Caller) : Prop :=
  Idle world.history caller signature ∧
    (outcome = .ok .fresh → Fresh world.history caller signature) ∧
    (outcome = .ok .resumePending → Resumed world.history caller signature)

theorem orderlyTo_claimPending (hInvariant : ClaimInvariant signature before)
    (hIdle : Idle before.history caller signature) :
    OrderlyTo signature caller (PendingClaimed caller signature)
      (ledger (ConsumedSignatures.claimPending signature)) before := by
  unfold ConsumedSignatures.claimPending
  rw [ledger_bind]
  apply Environment.Safe.bind hInvariant (orderlyTo_claimFrom (by simp) (fun _ => id) hIdle)
  rintro (error | claimed) world hNow _ ⟨hStillIdle, hFresh⟩
  · intro later hInterferes
    exact ⟨fun hMoved => hStillIdle (hInterferes.did_iff.mp hMoved), by simp, by simp⟩
  cases claimed with
  | true =>
      intro later hInterferes
      refine ⟨fun hMoved => hStillIdle (hInterferes.did_iff.mp hMoved), fun _ => ?_, by simp⟩
      exact hInterferes.did_iff.mpr (hFresh rfl)
  | false =>
      apply orderlyTo_perform hStillIdle.unfollowed.not_took
      intro now found state hInvariant hSame hEffect hOrderly
      have hIdleNow : Idle (⟨caller, .store (.get (consumedSignatureKey signature)), found⟩ ::
          now.history) caller signature :=
        clear_cons (by simp [moves, follows]) hStillIdle (hSame _)
      refine ⟨?_, fun _ => ?_⟩
      · apply hInvariant.resume hEffect
        rintro ⟨-, rfl⟩
        exact hOrderly.resumed caller rfl
      · show OrderlyTo _ _ _ (ledger (ite _ _ _)) _
        split
        · rename_i hPending
          intro later hInterferes
          refine ⟨fun hMoved => hIdleNow (hInterferes.did_iff.mp hMoved), by simp, fun _ => ?_⟩
          exact hInterferes.did_iff.mpr (did_self ⟨rfl, hPending⟩)
        · intro later hInterferes
          exact ⟨fun hMoved => hIdleNow (hInterferes.did_iff.mp hMoved), by simp, by simp⟩

/-- What the caller knows when its broadcast has ended. -/
def BroadcastEnded (caller : Caller) (signature : String) (broadcast : Broadcast Settled)
    (world : SettleWorld Caller) : Prop :=
  ¬Took world.history caller signature ∧
    match broadcast with
    | some (.ok (.confirmed _)) => SawSuccess world.history caller signature
    | some (.ok (.alreadyLanded _)) => False
    | some (.error (.notLanded _)) =>
        Withdrawing world.history caller signature ∧ ¬Polled world.history caller signature
    | some (.error (.failedOnChain _)) =>
        SawFailure world.history caller signature ∧ ¬Polled world.history caller signature
    | _ => ¬Polled world.history caller signature

theorem BroadcastEnded.interfere {broadcast : Broadcast Settled} {after : SettleWorld Caller}
    (hEnded : BroadcastEnded caller signature broadcast before)
    (hInterferes : Interferes (ClaimInvariant signature) caller before after) :
    BroadcastEnded caller signature broadcast after := by
  simpa only [BroadcastEnded, Took, SawSuccess, SawFailure, Withdrawing, Polled, Fresh, Refused,
    Unread, Concluded, hInterferes.did_iff] using hEnded

theorem orderlyTo_ended {broadcast : Broadcast Settled}
    (hEnded : BroadcastEnded caller signature broadcast before) :
    OrderlyTo signature caller (BroadcastEnded caller signature) (.done broadcast) before :=
  fun _ hInterferes => hEnded.interfere hInterferes

theorem ClaimInvariant.read {call : RpcCall} {reply : RpcReply call} {world : SettleWorld Caller}
    {after : SettleState} (hReads : Reads signature call)
    (hInvariant : ClaimInvariant signature world)
    (hEffect : effect (.rpc call) world.state reply after)
    (hOrderly : Orderly signature world ⟨caller, .rpc call, reply⟩) :
    ClaimInvariant signature (world.record ⟨caller, .rpc call, reply⟩ after) := by
  have hLandings : after.landings = world.state.landings := by
    rcases hReads with ⟨searched, rfl⟩ | rfl
    · exact hEffect.1.1
    · exact hEffect.1
  apply hInvariant.still hEffect (by rw [hEffect.2]) (by simp [hLandings])
  · simp [Claims, puts, findsPending]
  · rcases hReads with ⟨searched, rfl⟩ | rfl
    · exact False.elim
    · exact False.elim
  · exact hOrderly.failed

theorem orderlyTo_confirmSettlement {rounds : ℕ} (hTook : ¬Took before.history caller signature)
    (hPolled : ¬Polled before.history caller signature) :
    OrderlyTo signature caller (BroadcastEnded caller signature)
      (node (confirmSettlement signature rounds)) before := by
  induction rounds generalizing before with
  | zero => exact orderlyTo_ended ⟨hTook, hPolled⟩
  | succ rounds hInduction =>
      apply orderlyTo_perform hTook
      intro now status state hInvariant hSame hEffect hOrderly
      refine ⟨hInvariant.read (.inl ⟨_, rfl⟩) hEffect hOrderly, fun _ => ?_⟩
      have hTookNow : ¬Took (⟨caller, .rpc (.signatureStatus signature false), status⟩ ::
          now.history) caller signature := clear_cons (by simp [puts]) hTook (hSame _)
      rcases status with error | _ | succeeded | failure
      · exact orderlyTo_ended ⟨hTookNow, clear_cons id hPolled (hSame _)⟩
      · have hPolledNow : ¬Polled (⟨caller, .rpc (.signatureStatus signature false), .ok none⟩ ::
            now.history) caller signature := clear_cons id hPolled (hSame _)
        apply orderlyTo_perform hTookNow
        intro now valid state hInvariant hSame hEffect hOrderly
        refine ⟨hInvariant.read (.inr rfl) hEffect hOrderly, fun _ => ?_⟩
        have hTookValid : ¬Took (⟨caller, .rpc (.isBlockhashValid signature), valid⟩ ::
            now.history) caller signature := clear_cons (by simp [puts]) hTookNow (hSame _)
        have hPolledValid : ¬Polled (⟨caller, .rpc (.isBlockhashValid signature), valid⟩ ::
            now.history) caller signature := clear_cons id hPolledNow (hSame _)
        rcases valid with error | valid
        · exact orderlyTo_ended ⟨hTookValid, hPolledValid⟩
        cases valid with
        | true => exact hInduction hTookValid hPolledValid
        | false =>
            apply orderlyTo_perform hTookValid
            intro now status state hInvariant hSame hEffect hOrderly
            refine ⟨hInvariant.read (.inl ⟨_, rfl⟩) hEffect hOrderly, fun _ => ?_⟩
            have hTookLast : ¬Took (⟨caller, .rpc (.signatureStatus signature true), status⟩ ::
                now.history) caller signature := clear_cons (by simp [puts]) hTookValid (hSame _)
            have hPolledLast : ¬Polled (⟨caller, .rpc (.signatureStatus signature true), status⟩ ::
                now.history) caller signature := clear_cons id hPolledValid (hSame _)
            rcases status with error | _ | succeeded | failure
            · exact orderlyTo_ended ⟨hTookLast, hPolledLast⟩
            · exact orderlyTo_ended ⟨hTookLast, hPolledLast⟩
            · exact hInduction hTookLast hPolledLast
            · exact orderlyTo_ended ⟨hTookLast, did_self rfl, hPolledLast⟩
      · exact orderlyTo_ended ⟨hTookNow, did_self rfl⟩
      · exact orderlyTo_ended ⟨hTookNow, did_self rfl, clear_cons id hPolled (hSame _)⟩

theorem orderlyTo_neverSent {error : String} {rounds : ℕ}
    (hUnfollowed : Unfollowed before.history caller signature)
    (hFresh : Fresh before.history caller signature)
    (hRefused : Refused before.history caller signature) :
    OrderlyTo signature caller (BroadcastEnded caller signature)
      (node (reconcileRefusal signature error true rounds)) before := by
  apply orderlyTo_perform hUnfollowed.not_took
  intro now status state hInvariant hSame hEffect hOrderly
  refine ⟨hInvariant.read (.inl ⟨_, rfl⟩) hEffect hOrderly, fun _ => ?_⟩
  have hTook : ¬Took (⟨caller, .rpc (.signatureStatus signature true), status⟩ ::
      now.history) caller signature := clear_cons (by simp [puts]) hUnfollowed.not_took (hSame _)
  have hPolled : ¬Polled (⟨caller, .rpc (.signatureStatus signature true), status⟩ ::
      now.history) caller signature := clear_cons id hUnfollowed.not_polled (hSame _)
  rcases status with error | _ | succeeded | failure
  · exact orderlyTo_ended ⟨hTook, hPolled⟩
  · refine orderlyTo_ended ⟨hTook, ⟨?_, ?_, ?_, ?_⟩, hPolled⟩
    · exact ((hSame _).mpr hFresh).suffix (List.suffix_cons _ _)
    · exact ((hSame _).mpr hRefused).suffix (List.suffix_cons _ _)
    · exact clear_cons id hUnfollowed.not_unread (hSame _)
    · exact clear_cons id hUnfollowed.not_concluded (hSame _)
  · -- somebody landed it, which nobody could have while this claim is withdrawn
    have hWithdrawing : Withdrawing now.history caller signature :=
      ⟨(hSame _).mpr hFresh, (hSame _).mpr hRefused,
        fun hUnread => hUnfollowed.not_unread ((hSame _).mp hUnread),
        fun hConcluded => hUnfollowed.not_concluded ((hSame _).mp hConcluded)⟩
    have hSucceeded : (now.state.landings signature).Succeeded := succeeded_of_told hEffect rfl
    have hUnfailed : ¬(now.state.landings signature).Failed := fun hFailed =>
      hFailed.not_live (.inl hSucceeded)
    exact absurd (.inl hSucceeded) (hInvariant.withdrawing caller hWithdrawing hUnfailed).1
  · exact orderlyTo_ended ⟨hTook, did_self rfl, hPolled⟩

theorem orderlyTo_maybeSent {error : String} {rounds : ℕ}
    (hTook : ¬Took before.history caller signature)
    (hPolled : ¬Polled before.history caller signature) :
    OrderlyTo signature caller (BroadcastEnded caller signature)
      (node (reconcileRefusal signature error false rounds)) before := by
  apply orderlyTo_perform hTook
  intro now status state hInvariant hSame hEffect hOrderly
  refine ⟨hInvariant.read (.inl ⟨_, rfl⟩) hEffect hOrderly, fun _ => ?_⟩
  have hTookNow : ¬Took (⟨caller, .rpc (.signatureStatus signature true), status⟩ ::
      now.history) caller signature := clear_cons (by simp [puts]) hTook (hSame _)
  have hPolledNow : ¬Polled (⟨caller, .rpc (.signatureStatus signature true), status⟩ ::
      now.history) caller signature := clear_cons id hPolled (hSame _)
  rcases status with error | _ | succeeded | failure
  · exact orderlyTo_ended ⟨hTookNow, hPolledNow⟩
  · exact orderlyTo_ended ⟨hTookNow, hPolledNow⟩
  · exact orderlyTo_confirmSettlement hTookNow hPolledNow
  · exact orderlyTo_ended ⟨hTookNow, did_self rfl, hPolledNow⟩

theorem orderlyTo_sendAndConfirm {prior : PriorBroadcast} {rounds : ℕ}
    (hIdle : Idle before.history caller signature)
    (hClaimed : (prior = .none ∧ Fresh before.history caller signature) ∨
      (prior = .possible ∧ Resumed before.history caller signature)) :
    OrderlyTo signature caller (BroadcastEnded caller signature)
      (node (sendAndConfirmSettlement signature prior rounds)) before := by
  apply orderlyTo_perform hIdle.unfollowed.not_took
  intro now sent state hInvariant hSame hEffect hOrderly
  have hYetToSend : YetToSend now.history caller signature := by
    refine ⟨?_, fun hSent => hIdle.not_sent ((hSame _).mp hSent)⟩
    rcases hClaimed with ⟨-, hFresh⟩ | ⟨-, hResumed⟩
    · exact .inl ((hSame _).mpr hFresh)
    · exact .inr ((hSame _).mpr hResumed)
  have hUnfollowed : Unfollowed (⟨caller, .rpc (.sendTransaction signature), sent⟩ ::
      now.history) caller signature := clear_cons (by simp [follows]) hIdle.unfollowed (hSame _)
  refine ⟨?_, fun _ => ?_⟩
  · apply hInvariant.send hEffect hYetToSend
    rintro error rfl
    exact hOrderly.refused caller error rfl
  rcases sent with _ | ⟨preflight, error⟩ | error
  · exact orderlyTo_confirmSettlement hUnfollowed.not_took hUnfollowed.not_polled
  · rcases hClaimed with ⟨rfl, hFresh⟩ | ⟨rfl, -⟩
    · cases preflight with
      | true =>
          apply orderlyTo_neverSent hUnfollowed
          · exact ((hSame _).mpr hFresh).suffix (List.suffix_cons _ _)
          · exact did_self rfl
      | false => exact orderlyTo_maybeSent hUnfollowed.not_took hUnfollowed.not_polled
    · cases preflight with
      | true => exact orderlyTo_maybeSent hUnfollowed.not_took hUnfollowed.not_polled
      | false => exact orderlyTo_maybeSent hUnfollowed.not_took hUnfollowed.not_polled
  · exact orderlyTo_ended ⟨hUnfollowed.not_took, hUnfollowed.not_polled⟩

/-- What an answer means for the payment. -/
structure Treated (caller : Caller) (signature : String) (answer : Answer)
    (world : SettleWorld Caller) : Prop where
  granted : Took world.history caller signature → ∃ receipt, answer = some (.ok receipt)
  consumed : SawSuccess world.history caller signature →
    answer = some (.error .signatureConsumed) → ∃ other, Took world.history other signature
  polled : Polled world.history caller signature →
    (∃ receipt, answer = some (.ok receipt)) ∨ ∃ other, Took world.history other signature

theorem orderlyTo_untreated {answer : Answer} (hTook : ¬Took before.history caller signature)
    (hPolled : ¬Polled before.history caller signature)
    (hAnswer : answer = some (.error .signatureConsumed) →
      ¬SawSuccess before.history caller signature) :
    OrderlyTo signature caller (Treated caller signature) (.done answer) before := by
  intro world hInterferes
  constructor
  · exact fun hNow => absurd (hInterferes.did_iff.mp hNow) hTook
  · exact fun hSaw hConsumed => absurd (hInterferes.did_iff.mp hSaw) (hAnswer hConsumed)
  · exact fun hNow => absurd (hInterferes.did_iff.mp hNow) hPolled

theorem orderlyTo_releasePending (hTook : ¬Took before.history caller signature)
    (hPolled : ¬Polled before.history caller signature)
    (hReleases : Withdrawing before.history caller signature ∨
      SawFailure before.history caller signature) :
    OrderlyTo signature caller (fun _ world => ¬Took world.history caller signature ∧
        ¬Polled world.history caller signature)
      (ledger (ConsumedSignatures.releasePending signature)) before := by
  apply orderlyTo_perform hTook
  intro now swapped state hInvariant hSame hEffect _
  have hTookNow : ¬Took (⟨caller, withdraw signature, swapped⟩ :: now.history) caller signature := by
    apply clear_cons _ hTook (hSame _)
    cases swapped <;> simp [withdraw, puts, releasedMarker]
  have hPolledNow : ¬Polled (⟨caller, withdraw signature, swapped⟩ :: now.history) caller
      signature := clear_cons id hPolled (hSame _)
  refine ⟨?_, fun _ => ?_⟩
  · apply hInvariant.release hEffect
    rcases hReleases with hWithdrawing | hFailed
    · left
      simpa only [Withdrawing, Fresh, Refused, Unread, Concluded, hSame] using hWithdrawing
    · exact .inr (hInvariant.failed caller ((hSame _).mpr hFailed))
  cases swapped with
  | true =>
      have hMoves : ∀ call reply, tellsConfirmed signature call reply → moves signature call :=
        fun _ _ hConfirmed => .inr (follows_of_told (told_of_confirmed hConfirmed))
      have hStillUnpolled : ¬Did (now.record ⟨caller, withdraw signature, true⟩ state).history
        caller (tellsConfirmed signature) := hPolledNow
      apply (orderlyTo_giveBack hMoves (fun _ => id) hTookNow hStillUnpolled).weaken
      exact fun _ _ _ _ hKept => hKept.2
  | false =>
      exact fun _ hInterferes => ⟨fun hNow => hTookNow (hInterferes.did_iff.mp hNow),
        fun hNow => hPolledNow (hInterferes.did_iff.mp hNow)⟩

theorem orderlyTo_confirm (hTook : ¬Took before.history caller signature)
    (hSaw : SawSuccess before.history caller signature) :
    OrderlyTo signature caller (fun outcome world => (∃ swapped, outcome = .ok swapped) ∧
        (outcome = .ok false → ¬Took world.history caller signature ∧
          ∃ other, Took world.history other signature))
      (ledger (ConsumedSignatures.confirm signature)) before := by
  apply orderlyTo_perform hTook
  intro now swapped state hInvariant hSame hEffect _
  refine ⟨hInvariant.confirm hEffect ((hSame _).mpr hSaw), fun _ => ?_⟩
  intro world hInterferes
  refine ⟨⟨swapped, rfl⟩, ?_⟩
  rintro ⟨⟩
  have hSucceeded := hInvariant.landed caller ((hSame _).mpr hSaw)
  have hConsumed : now.state.store.entries (consumedSignatureKey signature) = some (.bool true) := by
    rcases hEffect.1 with ⟨-, hReply, -⟩ | ⟨hOther, -, -⟩
    · cases hReply
    · exact (hInvariant.live (.inl hSucceeded)).resolve_left hOther
  rcases (hInvariant.consumed hConsumed).2 with ⟨other, hOther⟩
  refine ⟨fun hNow => ?_, other, ?_⟩
  · have hBefore := hInterferes.did_iff.mp hNow
    exact clear_cons (by simp [puts]) hTook (hSame _) hBefore
  · exact (hOther.suffix (List.suffix_cons _ _)).suffix hInterferes.suffix

theorem orderlyTo_concludeSettlement {broadcast : Broadcast Settled}
    (hInvariant : ClaimInvariant signature before)
    (hEnded : BroadcastEnded caller signature broadcast before) :
    OrderlyTo signature caller (Treated caller signature)
      (concludeSettlement signature broadcast) before := by
  rcases hEnded with ⟨hTook, hEnded⟩
  rcases broadcast with _ | failure | settled
  · exact orderlyTo_untreated hTook hEnded (by simp)
  · cases failure with
    | unknown error => exact orderlyTo_untreated hTook hEnded (by simp)
    | notLanded error =>
        apply Environment.Safe.bind hInvariant
          (orderlyTo_releasePending hTook hEnded.2 (.inl hEnded.1))
        exact fun _ _ _ _ hKept => orderlyTo_untreated hKept.1 hKept.2 (by simp)
    | failedOnChain error =>
        apply Environment.Safe.bind hInvariant
          (orderlyTo_releasePending hTook hEnded.2 (.inr hEnded.1))
        exact fun _ _ _ _ hKept => orderlyTo_untreated hKept.1 hKept.2 (by simp)
  · cases settled with
    | alreadyLanded confirmed => exact hEnded.elim
    | confirmed confirmed =>
        apply Environment.Safe.bind hInvariant (orderlyTo_confirm hTook hEnded)
        rintro outcome world _ _ ⟨⟨swapped, rfl⟩, hFalse⟩
        cases swapped with
        | true =>
            intro later hInterferes
            exact ⟨fun _ => ⟨_, rfl⟩, by simp, fun _ => .inl ⟨_, rfl⟩⟩
        | false =>
            rcases hFalse rfl with ⟨hUntaken, other, hOther⟩
            intro later hInterferes
            have hOtherLater := hOther.suffix hInterferes.suffix
            refine ⟨fun hNow => ?_, fun _ _ => ⟨other, hOtherLater⟩,
              fun _ => .inr ⟨other, hOtherLater⟩⟩
            exact absurd (hInterferes.did_iff.mp hNow) hUntaken

theorem orderlyTo_settleClaimed {prior : PriorBroadcast} {rounds : ℕ}
    (hInvariant : ClaimInvariant signature before)
    (hIdle : Idle before.history caller signature)
    (hClaimed : (prior = .none ∧ Fresh before.history caller signature) ∨
      (prior = .possible ∧ Resumed before.history caller signature)) :
    OrderlyTo signature caller (Treated caller signature)
      (settleClaimed signature prior rounds) before := by
  apply Environment.Safe.bind hInvariant (orderlyTo_sendAndConfirm hIdle hClaimed)
  intro broadcast world hNow _ hEnded
  exact orderlyTo_concludeSettlement hNow hEnded

theorem orderlyTo_settleExact {rounds : ℕ} (hInvariant : ClaimInvariant signature before)
    (hIdle : Idle before.history caller signature) :
    OrderlyTo signature caller (Treated caller signature)
      (settleExact (.transaction (.ok signature)) rounds) before := by
  apply Environment.Safe.bind hInvariant (orderlyTo_claimPending hInvariant hIdle)
  rintro (error | claimed) world hNow _ ⟨hStillIdle, hFresh, hResumed⟩
  · exact orderlyTo_untreated hStillIdle.unfollowed.not_took hStillIdle.unfollowed.not_polled
      (by simp [storeFailure])
  · cases claimed with
    | consumed =>
        exact orderlyTo_untreated hStillIdle.unfollowed.not_took hStillIdle.unfollowed.not_polled
          fun _ => hStillIdle.unfollowed.not_sawSuccess
    | fresh => exact orderlyTo_settleClaimed hNow hStillIdle (.inl ⟨rfl, hFresh rfl⟩)
    | resumePending => exact orderlyTo_settleClaimed hNow hStillIdle (.inr ⟨rfl, hResumed rfl⟩)

theorem orderlyTo_chainProgram {signatures : List String}
    (hIdle : Idle before.history caller signature) :
    OrderlyTo signature caller (fun _ world => Idle world.history caller signature)
      (Role.chainProgram signatures) before := by
  induction signatures generalizing before with
  | nil => exact fun _ hInterferes hNow => hIdle (hInterferes.did_iff.mp hNow)
  | cons other signatures hInduction =>
      apply orderlyTo_perform hIdle.unfollowed.not_took
      intro now reply state hInvariant hSame hEffect _
      refine ⟨?_, fun _ => hInduction (clear_cons (by simp [moves, follows]) hIdle (hSame _))⟩
      apply hInvariant.still hEffect (by rw [hEffect.1])
      · rcases hEffect.2 with ⟨next, hAdvances, hAfter⟩
        rw [hAfter]
        by_cases hSignature : signature = other
        · subst hSignature
          simpa using Landing.live_of_advances hAdvances
        · simp [Function.update_of_ne hSignature]
      · simp [Claims, puts, findsPending]
      · exact False.elim
      · exact False.elim

end

/-! ### The runs -/

/-- Nobody has claimed the signature, and nobody has sent the transaction. -/
structure Unclaimed (signature : String) (state : SettleState) : Prop where
  entry : state.store.entries (consumedSignatureKey signature) ≠ some pendingMarker ∧
    state.store.entries (consumedSignatureKey signature) ≠ some (.bool true)
  landing : ¬(state.landings signature).Live

theorem claimInvariant_start {signature : String} {state : SettleState}
    (hUnclaimed : Unclaimed signature state) :
    ClaimInvariant signature (⟨state, []⟩ : SettleWorld Caller) where
  live hLive := absurd hLive hUnclaimed.landing
  waiting _ hYetToSend := by
    rcases hYetToSend.1 with hFresh | hResumed
    · exact absurd hFresh not_did_nil
    · exact absurd hResumed not_did_nil
  withdrawing _ hWithdrawing := absurd hWithdrawing.1 not_did_nil
  oneWithdrawing _ _ hWithdrawing := absurd hWithdrawing.1 not_did_nil
  consumed hConsumed := absurd hConsumed hUnclaimed.entry.2
  landed _ hSaw := absurd hSaw not_did_nil
  failed _ hSaw := absurd hSaw not_did_nil

/-- Every party settles the transaction, or is the chain. -/
def Settles (signature : String) (role : Role) : Prop :=
  (∃ rounds, role = .pull (.ok signature) rounds) ∨ ∃ signatures, role = .chain signatures

theorem orderlyTo_program {role : Role} {signature : String} {caller : Caller}
    {before : SettleWorld Caller} (hSettles : Settles signature role)
    (hInvariant : ClaimInvariant signature before) (hFresh : before.history = []) :
    OrderlyTo signature caller (fun answer world => Treated caller signature answer world ∧
      (Took world.history caller signature → role.pays = some signature)) role.program before := by
  have hIdle : Idle before.history caller signature := by
    rw [hFresh]
    exact not_did_nil
  rcases hSettles with ⟨rounds, rfl⟩ | ⟨signatures, rfl⟩
  · apply (orderlyTo_settleExact hInvariant hIdle).weaken
    exact fun _ _ _ _ hTreated => ⟨hTreated, fun _ => rfl⟩
  · apply (orderlyTo_chainProgram hIdle).weaken
    intro answer world _ _ hStillIdle
    have hTook := hStillIdle.unfollowed.not_took
    refine ⟨⟨fun hNow => absurd hNow hTook, ?_, ?_⟩, fun hNow => absurd hNow hTook⟩
    · exact fun hSaw => absurd hSaw hStillIdle.unfollowed.not_sawSuccess
    · exact fun hPolled => absurd hPolled hStillIdle.unfollowed.not_polled

/-- In an orderly run a pending claim is released only while the transaction can not land, and
whoever polls its success is granted it, if nobody else was. -/
theorem release_unlanded_and_success_granted [DecidableEq Caller] {roles : Caller → Role}
    {signature : String} {state : SettleState}
    (hSettles : ∀ caller, Settles signature (roles caller))
    (hUnclaimed : Unclaimed signature state) {reached : SettleConfig Caller}
    (hRun : (orderly signature).Reachable (startOf roles state) reached) :
    (∀ caller older, reached.world.history = ⟨caller, withdraw signature, true⟩ :: older →
      ¬(reached.world.state.landings signature).Live) ∧
    ∀ caller answer, reached.threads caller = .done answer →
      (Polled reached.world.history caller signature → (∃ receipt, answer = some (.ok receipt)) ∨
        ∃ other, Granted roles reached other signature) ∧
      (SawSuccess reached.world.history caller signature →
        answer = some (.error .signatureConsumed) →
          ∃ other, Granted roles reached other signature) := by
  have hStart : ClaimInvariant signature (⟨state, []⟩ : SettleWorld Caller) :=
    claimInvariant_start hUnclaimed
  rcases Environment.safe_of_reachable hStart
    (fun caller => orderlyTo_program (hSettles caller) hStart rfl) hRun with ⟨hInvariant, hSafe⟩
  have hGranted : ∀ other, Took reached.world.history other signature →
      Granted roles reached other signature := by
    intro other hTook
    have hOther := hSafe other
    cases hThread : reached.threads other with
    | perform call next =>
        rw [hThread] at hOther
        exact absurd hTook (hOther.running_of_perform hInvariant)
    | done answer =>
        rw [hThread] at hOther
        rcases hOther.post_of_done hInvariant with ⟨hTreated, hPays⟩
        rcases hTreated.granted hTook with ⟨receipt, rfl⟩
        exact ⟨hPays hTook, receipt, receiptOf_eq_some.mpr hThread⟩
  refine ⟨?_, ?_⟩
  · intro caller older hLast hLive
    have hReleased : reached.world.state.store.entries (consumedSignatureKey signature) =
        some releasedMarker := by
      rcases Relation.ReflTransGen.cases_tail hRun with rfl | ⟨middle, -, hStep⟩
      · cases hLast
      · cases hStep with
        | perform mover call next reply after waiting answered permitted =>
            rw [World.record_history, List.cons.injEq] at hLast
            rcases hLast with ⟨hEvent, -⟩
            cases hEvent
            rcases answered.1 with ⟨-, -, hAfter⟩ | ⟨-, hReply, -⟩
            · rw [World.record_state, hAfter, Backend.setEntry_entries_self]
            · cases hReply
    have hEntry := hInvariant.live hLive
    simp [hReleased, releasedMarker, pendingMarker] at hEntry
  · intro caller answer hDone
    have hCaller := hSafe caller
    rw [hDone] at hCaller
    rcases hCaller.post_of_done hInvariant with ⟨hTreated, -⟩
    refine ⟨fun hPolled => ?_, fun hSaw hConsumed => ?_⟩
    · rcases hTreated.polled hPolled with hReceipt | ⟨other, hOther⟩
      · exact .inl hReceipt
      · exact .inr ⟨other, hGranted other hOther⟩
    · rcases hTreated.consumed hSaw hConsumed with ⟨other, hOther⟩
      exact ⟨other, hGranted other hOther⟩

/-! ### Schedules -/

/-- No send was refused, and no failure was told. -/
def isCalm (event : SettleEvent Presenter) : Bool :=
  match event.call, event.reply with
  | .rpc (.sendTransaction _), .refused _ _ => false
  | .rpc (.signatureStatus _ _), .ok (some (.failed _)) => false
  | _, _ => true

theorem not_isRefused_of_isCalm {event : SettleEvent Presenter} {signature : String}
    (hCalm : isCalm event = true) : ¬isRefused signature event.call event.reply := by
  rcases event with ⟨caller, call, reply⟩
  cases call with
  | store call => exact id
  | chain other => exact id
  | rpc call =>
      cases call with
      | signatureStatus other searched => exact id
      | isBlockhashValid other => exact id
      | sendTransaction other =>
          cases reply with
          | accepted => exact id
          | failed error => exact id
          | refused preflight error => simp [isCalm] at hCalm

theorem not_tellsFailure_of_isCalm {event : SettleEvent Presenter} {signature : String}
    (hCalm : isCalm event = true) : ¬tellsFailure signature event.call event.reply := by
  rcases event with ⟨caller, call, reply⟩
  cases call with
  | store call => exact id
  | chain other => exact id
  | rpc call =>
      cases call with
      | sendTransaction other => exact id
      | isBlockhashValid other => exact id
      | signatureStatus other searched =>
          rcases reply with error | _ | succeeded | failure
          · exact id
          · exact id
          · exact id
          · simp [isCalm] at hCalm

theorem orderly_of_isCalm {signature : String} {world : SettleWorld Presenter}
    {event : SettleEvent Presenter}
    (hCalm : ∀ old ∈ event :: world.history, isCalm old = true) : Orderly signature world event where
  refused caller error hEvent := by
    subst hEvent
    exact absurd rfl (not_isRefused_of_isCalm (hCalm _ (List.mem_cons_self ..)))
  resumed _ _ _ other hWithdrawing := by
    rcases hWithdrawing.2.1 with ⟨old, hOld, -, hRefused⟩
    exact not_isRefused_of_isCalm (hCalm old (List.mem_cons_of_mem _ hOld)) hRefused
  failed hTold := absurd hTold (not_tellsFailure_of_isCalm (hCalm _ (List.mem_cons_self ..)))

/-- The first call polls the success of the transaction after the second one was granted it. -/
theorem release_unlanded_and_success_granted_of_resumedGrant :
    Polled resumedGrant.world.history .first "signature" ∧
      resumedGrant.threads .first = .done (some (.error .signatureConsumed)) ∧
        ∃ other, Granted oneTransactionTwice resumedGrant other "signature" := by
  have hPolled : Polled resumedGrant.world.history .first "signature" :=
    ⟨_, .tail _ (.head _), rfl, rfl⟩
  have hSettles : ∀ caller, Settles "signature" (oneTransactionTwice caller) := by
    intro caller
    cases caller with
    | first => exact .inl ⟨_, rfl⟩
    | second => exact .inl ⟨_, rfl⟩
    | chain => exact .inr ⟨_, rfl⟩
  have hRun : (orderly "signature").Reachable (startOf oneTransactionTwice unsettled)
      resumedGrant :=
    Config.reachable_runSchedule effect_handle _ _
      (Config.permitted_of_history (fun _ _ => orderly_of_isCalm) _ _ (by decide))
  have hTreated := (release_unlanded_and_success_granted hSettles ⟨by decide, by decide⟩ hRun).2
    .first (some (.error .signatureConsumed)) rfl
  exact ⟨hPolled, rfl, (hTreated.1 hPolled).resolve_left (by simp)⟩

/-- The second call resumes the claim of the first and has the transaction forwarded; then
the first one is refused, and releases the claim. -/
def withdrawnClaim : SettleConfig Presenter :=
  (startOf oneTransactionTwice unsettled).runSchedule handle
    (List.replicate 5 (.first, .accepted) ++ List.replicate 3 (.second, .accepted) ++
      List.replicate 3 (.first, .refused true "Transaction simulation failed"))

/-- The transaction lands, and the second call finds nothing to confirm. -/
def forfeited : SettleConfig Presenter :=
  withdrawnClaim.runSchedule handle
    (List.replicate 4 (.first, .accepted) ++ [(.chain, .accepted)] ++
      List.replicate 2 (.second, .accepted))

theorem resumed_claim_forfeited :
    Unclaimed "signature" unsettled ∧
    anyOrder.Reachable (startOf oneTransactionTwice unsettled) withdrawnClaim ∧
    (∃ older, withdrawnClaim.world.history =
      ⟨.first, withdraw "signature", true⟩ :: older) ∧
    (withdrawnClaim.world.state.landings "signature").Outstanding ∧
    anyOrder.Reachable withdrawnClaim forfeited ∧
    (forfeited.world.state.landings "signature").Succeeded ∧
    Polled forfeited.world.history .second "signature" ∧
    forfeited.threads .second = .done (some (.error .signatureConsumed)) ∧
    ∀ caller, receiptOf forfeited caller = none := by
  refine ⟨⟨by decide, by decide⟩, ?_, ⟨_, rfl⟩, by decide, ?_, by decide, ?_, rfl, ?_⟩
  · exact Config.reachable_runSchedule effect_handle _ _
      (Config.permitted_of_unrestricted (fun _ _ => trivial) _ _)
  · exact Config.reachable_runSchedule effect_handle _ _
      (Config.permitted_of_unrestricted (fun _ _ => trivial) _ _)
  · exact ⟨_, .tail _ (.head _), rfl, rfl⟩
  · intro caller
    cases caller <;> decide

end PayKit.Exact
