import PayKit.Subscription.Settlement

/-!
# When a reservation may be dropped

`verify_credential` deletes the reservation of an activation when its broadcast says that
the transaction did not and cannot land. It says so of every send that a node refuses, of a
blockhash that expired while no status was read, and of a recorded failure. The first two
prove nothing by themselves: a node also refuses what has landed already, and a transaction
may land between the two reads.
-/

namespace PayKit.Subscription

open Charge Concurrency Rpc Solana Store

/-! ### What the node has said -/

section

variable (signature : String)

def isRefused : (request : SubscriptionCall) → SubscriptionReply request → Prop
  | .rpc (.sendTransaction other), .refused _ _ => other = signature
  | _, _ => False

def tellsExpiry : (request : SubscriptionCall) → SubscriptionReply request → Prop
  | .rpc (.isBlockhashValid other), .ok false => other = signature
  | _, _ => False

def tellsFailure : (request : SubscriptionCall) → SubscriptionReply request → Prop
  | .rpc (.signatureStatus other _), .ok (some (.failed _)) => other = signature
  | _, _ => False

/-- An answer that is taken for a proof that the transaction can not land. -/
def rejects (request : SubscriptionCall) (reply : SubscriptionReply request) : Prop :=
  isRefused signature request reply ∨ tellsExpiry signature request reply ∨
    tellsFailure signature request reply

def drops (request : SubscriptionCall) (_ : SubscriptionReply request) : Prop :=
  request = .delete (consumedKey signature)

end

variable {Caller : Type}

/-- The steps of the runs in which such an answer is one. -/
structure Conclusive (signature : String) (world : SubscriptionWorld Caller)
    (event : SubscriptionEvent Caller) : Prop where
  refused : isRefused signature event.call event.reply → ¬(world.state.landings signature).Live
  stillRefused : event.call = .rpc (.sendTransaction signature) →
    (∃ caller, Did world.history caller (isRefused signature)) →
      isRefused signature event.call event.reply
  expired : tellsExpiry signature event.call event.reply →
    (world.state.landings signature).expired = true ∧
      ¬(world.state.landings signature).Succeeded
  failed : tellsFailure signature event.call event.reply →
    (world.state.landings signature).Failed

def conclusive (signature : String) :
    Environment Caller SubscriptionState SubscriptionCall SubscriptionReply where
  effect := effect
  allowed := Conclusive signature

structure RejectionInvariant (signature : String) (world : SubscriptionWorld Caller) : Prop where
  refused : (∃ caller, Did world.history caller (isRefused signature)) →
    ¬(world.state.landings signature).Live
  expired : (∃ caller, Did world.history caller (tellsExpiry signature)) →
    (world.state.landings signature).expired = true ∧
      ¬(world.state.landings signature).Succeeded
  failed : (∃ caller, Did world.history caller (tellsFailure signature)) →
    (world.state.landings signature).Failed
  dropped : ∀ caller, Did world.history caller (drops signature) →
    ∃ other, Did world.history other (rejects signature)

section

variable {request : SubscriptionCall} {reply : SubscriptionReply request}
  {before after : SubscriptionState} {world : SubscriptionWorld Caller} {mover caller : Caller}
  {signature : String}

theorem landing_step (signature : String) (hEffect : effect request before reply after) :
    after.landings signature = before.landings signature ∨
      (request = .rpc (.sendTransaction signature) ∧
        ¬isRefused signature request reply ∧
        after.landings signature = (before.landings signature).forward) ∨
      Landing.Advances (before.landings signature) (after.landings signature) := by
  cases request with
  | get key => exact .inl (by rw [hEffect.2])
  | putIfAbsent key value =>
      rcases hEffect with ⟨-, -, rfl⟩ | ⟨-, -, rfl⟩
      · exact .inl rfl
      · exact .inl rfl
  | putIfEq key expected value =>
      rcases hEffect with ⟨-, -, rfl⟩ | ⟨-, -, rfl⟩
      · exact .inl rfl
      · exact .inl rfl
  | delete key => exact .inl (by rw [show after = _ from hEffect]; rfl)
  | fetchDelegation pda => exact .inl (by rw [show after = before from hEffect])
  | fetchAuthorityInitId pda => exact .inl (by rw [show after = before from hEffect])
  | landedSlot other => exact .inl (by rw [hEffect.1])
  | chain other =>
      rcases hEffect with ⟨next, hAdvances, rfl⟩
      by_cases hSame : signature = other
      · subst hSame
        exact .inr (.inr (by simpa using hAdvances))
      · exact .inl (by simp [Function.update_of_ne hSame])
  | rpc call =>
      rcases hEffect with ⟨landings, hAnswered, rfl⟩
      rcases landing_of_effect hAnswered signature with hSame | ⟨rfl, hForwarded⟩
      · exact .inl hSame
      · rcases reply with _ | ⟨preflight, error⟩ | error
        · exact .inr (.inl ⟨rfl, id, hForwarded⟩)
        · exact .inl (congrFun (show landings = before.landings from hAnswered) signature)
        · exact .inr (.inl ⟨rfl, id, hForwarded⟩)

theorem dead_of_rejects (hInvariant : RejectionInvariant signature world)
    (hRejects : ∃ caller, Did world.history caller (rejects signature)) :
    ¬(world.state.landings signature).Live := by
  rcases hRejects with ⟨caller, event, hEvent, hOwn, hRefused | hExpired | hFailed⟩
  · exact hInvariant.refused ⟨caller, event, hEvent, hOwn, hRefused⟩
  · rcases hInvariant.expired ⟨caller, event, hEvent, hOwn, hExpired⟩ with ⟨hDead, hNot⟩
    rintro (hSucceeded | hOutstanding)
    · exact hNot hSucceeded
    · simp [Landing.Outstanding, hDead] at hOutstanding
  · exact (hInvariant.failed ⟨caller, event, hEvent, hOwn, hFailed⟩).not_live

theorem RejectionInvariant.step (hInvariant : RejectionInvariant signature world)
    (hEffect : effect request world.state reply after)
    (hConclusive : Conclusive signature world ⟨mover, request, reply⟩)
    (hDrops : drops signature request reply →
      ∃ other, Did world.history other (rejects signature)) :
    RejectionInvariant signature (world.record ⟨mover, request, reply⟩ after) where
  refused := by
    rintro ⟨caller, hRefused⟩
    have hBefore : ¬(world.state.landings signature).Live := by
      rcases did_cons.mp hRefused with ⟨-, hNow⟩ | hOld
      · exact hConclusive.refused hNow
      · exact hInvariant.refused ⟨caller, hOld⟩
    rcases landing_step signature hEffect with
      hSame | ⟨hSends, hAccepted, -⟩ | hAdvances
    · rwa [World.record_state, hSame]
    · rcases did_cons.mp hRefused with ⟨-, hNow⟩ | hOld
      · exact absurd hNow hAccepted
      · exact absurd (hConclusive.stillRefused hSends ⟨caller, hOld⟩) hAccepted
    · exact mt (Landing.live_of_advances hAdvances) hBefore
  expired := by
    rintro ⟨caller, hTold⟩
    have hBefore : (world.state.landings signature).expired = true ∧
        ¬(world.state.landings signature).Succeeded := by
      rcases did_cons.mp hTold with ⟨-, hNow⟩ | hOld
      · exact hConclusive.expired hNow
      · exact hInvariant.expired ⟨caller, hOld⟩
    rcases landing_step signature hEffect with
      hSame | ⟨-, -, hForwarded⟩ | ⟨hOutstanding, -⟩ | hExpired
    · rwa [World.record_state, hSame]
    · rw [World.record_state, hForwarded]
      exact hBefore
    · simp [Landing.Outstanding, hBefore.1] at hOutstanding
    · rw [World.record_state, hExpired]
      exact ⟨rfl, hBefore.2⟩
  failed := by
    rintro ⟨caller, hTold⟩
    have hBefore : (world.state.landings signature).Failed := by
      rcases did_cons.mp hTold with ⟨-, hNow⟩ | hOld
      · exact hConclusive.failed hNow
      · exact hInvariant.failed ⟨caller, hOld⟩
    rcases landing_step signature hEffect with
      hSame | ⟨-, -, hForwarded⟩ | hAdvances
    · rwa [World.record_state, hSame]
    · rw [World.record_state, hForwarded]
      exact hBefore.forward
    · exact hBefore.advances hAdvances
  dropped := by
    intro caller hDropped
    have hRejected : ∃ other, Did world.history other (rejects signature) := by
      rcases did_cons.mp hDropped with ⟨-, hNow⟩ | hOld
      · exact hDrops hNow
      · exact hInvariant.dropped caller hOld
    rcases hRejected with ⟨other, hOther⟩
    exact ⟨other, hOther.suffix (List.suffix_cons _ _)⟩

end

/-! ### The walk of an activation -/

section

variable {Result : Type} {caller : Caller} {signature : String}
  {before : SubscriptionWorld Caller} {post : Result → SubscriptionWorld Caller → Prop}

/-- The program keeps the invariant in every conclusive run, and ends in the postcondition. -/
abbrev ConclusiveTo (signature : String) (caller : Caller)
    (post : Result → SubscriptionWorld Caller → Prop)
    (program : Program SubscriptionCall SubscriptionReply Result)
    (before : SubscriptionWorld Caller) : Prop :=
  (conclusive signature).Safe (RejectionInvariant signature) caller (fun _ => True) post program
    before

theorem conclusiveTo_of_retains {program : Program SubscriptionCall SubscriptionReply Result}
    (hUses : program.Uses Retains) :
    ConclusiveTo signature caller (fun _ _ => True) program before := by
  refine Environment.Safe.of_quiet ?_ hUses
  intro world request reply state hInvariant hRetains hEffect hConclusive
  exact hInvariant.step hEffect hConclusive fun hDrops => absurd hDrops (hRetains _)

theorem conclusiveTo_rpc {request : RpcCall}
    {next : RpcReply request → Program SubscriptionCall SubscriptionReply Result}
    (hNext : ∀ (now : SubscriptionWorld Caller) reply state,
      ConclusiveTo signature caller post (next reply)
        (now.record ⟨caller, .rpc request, reply⟩ state)) :
    ConclusiveTo signature caller post (.perform (.rpc request) next) before := by
  intro now hInterferes
  refine ⟨trivial, ?_⟩
  intro reply state hAnswered hConclusive
  have hEffect : effect (.rpc request) now.state reply state := hAnswered
  refine ⟨?_, hNext now reply state⟩
  apply hInterferes.1.step hEffect hConclusive
  intro hDrops
  cases hDrops

/-- Who takes the transaction for dead was told so. -/
abbrev RejectedIfTold (caller : Caller) (signature : String)
    (broadcast : Option (Except BroadcastError String)) (world : SubscriptionWorld Caller) : Prop :=
  ∀ error, broadcast = some (.error (.rejected error)) →
    Did world.history caller (rejects signature)

theorem conclusiveTo_told {presented : String} {broadcast : Option (Except BroadcastError String)}
    (hTold : RejectedIfTold caller presented broadcast before) :
    ConclusiveTo signature caller (RejectedIfTold caller presented) (.done broadcast) before :=
  fun _ hInterferes error hRejected => (hTold error hRejected).suffix hInterferes.suffix

/-- The requests of a broadcast, as calls. -/
abbrev within {Outcome : Type} (program : RpcM Outcome) :
    Program SubscriptionCall SubscriptionReply Outcome :=
  program.within .rpc fun _ reply => reply

theorem conclusiveTo_confirmActivation {presented : String} {rounds : ℕ} :
    ConclusiveTo signature caller (RejectedIfTold caller presented)
      (within (confirmActivation presented rounds)) before := by
  induction rounds generalizing before with
  | zero => exact conclusiveTo_told (by simp [RejectedIfTold])
  | succ rounds hInduction =>
      apply conclusiveTo_rpc
      rintro now (error | _ | succeeded | failure) state
      · exact conclusiveTo_told (by simp [RejectedIfTold])
      · apply conclusiveTo_rpc
        rintro later (error | valid) state
        · exact conclusiveTo_told (by simp [RejectedIfTold])
        cases valid with
        | true => exact hInduction
        | false => exact conclusiveTo_told fun _ _ => did_self (.inr (.inl rfl))
      · exact conclusiveTo_told (by simp [RejectedIfTold])
      · exact conclusiveTo_told fun _ _ => did_self (.inr (.inr rfl))

theorem conclusiveTo_broadcastAndConfirm {presented : String} {rounds : ℕ} :
    ConclusiveTo signature caller (RejectedIfTold caller presented)
      (within (broadcastAndConfirm presented rounds)) before := by
  apply conclusiveTo_rpc
  rintro now (_ | ⟨preflight, error⟩ | error) state
  · exact conclusiveTo_confirmActivation
  · exact conclusiveTo_told fun _ _ => did_self (.inl rfl)
  · exact conclusiveTo_told (by simp [RejectedIfTold])

theorem conclusiveTo_node {presented : String} {rounds : ℕ}
    (hInvariant : RejectionInvariant signature before) :
    ConclusiveTo signature caller (fun outcome world => ∃ broadcast, outcome = .ok broadcast ∧
        RejectedIfTold caller presented broadcast world)
      (node (broadcastAndConfirm presented rounds)).run before := by
  apply Environment.Safe.bind hInvariant conclusiveTo_broadcastAndConfirm
  intro broadcast world _ _ hTold later hInterferes
  refine ⟨broadcast, rfl, ?_⟩
  exact fun error hRejected => (hTold error hRejected).suffix hInterferes.suffix

theorem conclusiveTo_drop {presented : String} {error : VerificationError}
    (hRejected : Did before.history caller (rejects presented)) :
    ConclusiveTo signature caller (fun _ _ => True) (do
      call (.delete (consumedKey presented))
      throw error : SubscriptionM (Option SubscriptionReceipt)).run before := by
  intro now hInterferes
  refine ⟨trivial, ?_⟩
  intro reply state hAnswered hConclusive
  have hEffect : effect (.delete (consumedKey presented)) now.state reply state := hAnswered
  refine ⟨?_, fun _ _ => trivial⟩
  apply hInterferes.1.step hEffect hConclusive
  intro hDrops
  obtain rfl : presented = signature :=
    consumedKey_injective (SubscriptionCall.delete.inj hDrops)
  exact ⟨caller, hRejected.suffix hInterferes.suffix⟩

theorem uses_tryReserve {key challengeId : String} :
    (tryReserveActivationSignature key challengeId).run.Uses Retains := by
  refine ⟨by simp [Retains], ?_⟩
  intro inserted
  cases inserted with
  | true => trivial
  | false => exact ⟨by simp [Retains], fun _ => trivial⟩

theorem uses_reserve {key challengeId : String} :
    (reserveActivationSignature key challengeId).run.Uses Retains := by
  apply Fallible.uses_bind uses_tryReserve
  intro reservation
  cases reservation with
  | held => trivial
  | heldElsewhere => trivial

theorem uses_ownSlot {activation : String} : (ownSlot activation).run.Uses ReadsChain := by
  apply Fallible.uses_bind (uses_call trivial)
  intro reply
  apply Fallible.uses_bind uses_check
  rintro (_ | slot) <;> trivial

theorem uses_knownSlot {activation : String} {own : Option ℕ} :
    (knownSlot activation own).run.Uses ReadsChain := by
  cases own with
  | some slot => trivial
  | none => exact uses_ownSlot

theorem uses_previousSlot {other : String} {binding : Entry} :
    (previousSlot other binding).run.Uses ReadsChain := by
  unfold previousSlot
  split
  · trivial
  · exact Fallible.uses_bind (uses_call trivial) fun _ => uses_check

theorem uses_supersedes {activation : String} {own : Option ℕ} {current : Option Entry} :
    (supersedes activation own current).run.Uses ReadsChain := by
  unfold supersedes
  split
  · trivial
  split
  · trivial
  split
  · trivial
  · apply Fallible.uses_bind uses_knownSlot
    intro this
    exact Fallible.uses_bind uses_previousSlot fun _ => trivial

theorem uses_candidateRecord {activation : String} {current : Option Entry}
    {candidate : ℕ → ActivationBinding} :
    (candidateRecord activation current candidate).run.Uses ReadsChain := by
  have hFresh : (freshBinding activation candidate).run.Uses ReadsChain :=
    Fallible.uses_bind uses_ownSlot fun _ => trivial
  unfold candidateRecord
  split
  · split
    · trivial
    · exact hFresh
  · exact hFresh

theorem uses_claimActivation {activation : String} {current recorded : Option Entry}
    {candidate : ℕ → ActivationBinding} :
    (claimActivation activation current recorded candidate).run.Uses Retains := by
  cases recorded with
  | some record => trivial
  | none =>
      apply Fallible.uses_bind (uses_candidateRecord.mono fun _ => ReadsChain.retains)
      intro written
      refine ⟨by simp [Retains], ?_⟩
      intro inserted
      cases inserted with
      | true => trivial
      | false =>
          refine ⟨by simp [Retains], ?_⟩
          rintro (_ | record) <;> trivial

theorem uses_publishBinding {bindingKey activation : String} {bound : Entry} {attempts : ℕ}
    {own : Option ℕ} {current : Option Entry} :
    (publishBinding bindingKey activation bound attempts own current).run.Uses Retains := by
  induction attempts generalizing own current with
  | zero => trivial
  | succ attempts hInduction =>
      unfold publishBinding
      split
      · trivial
      apply Fallible.uses_bind (uses_supersedes.mono fun _ => ReadsChain.retains)
      rintro ⟨refused, slot⟩
      cases refused with
      | true => trivial
      | false =>
          refine ⟨by simp [Retains], ?_⟩
          intro swapped
          cases swapped with
          | true => trivial
          | false => exact ⟨by simp [Retains], fun _ => hInduction⟩

theorem uses_publishActivationBinding {bindingKey activation : String}
    {candidate : ℕ → ActivationBinding} :
    (publishActivationBinding bindingKey activation candidate).run.Uses Retains := by
  refine ⟨by simp [Retains], fun current => ⟨by simp [Retains], fun recorded => ?_⟩⟩
  exact Fallible.uses_bind uses_claimActivation fun _ => uses_publishBinding

theorem uses_bindConfirmedActivation {server : SubscriptionServer}
    {activation : PreparedActivation} {presented : String} :
    (bindConfirmedActivation server activation presented).run.Uses Retains := by
  apply Fallible.uses_bind (uses_confirmedDelegation.mono fun _ => ReadsChain.retains)
  rintro ⟨delegation, periodHours⟩
  apply Fallible.uses_bind uses_publishActivationBinding
  intro bound
  show (ite _ _ _ : SubscriptionM _).run.Uses _
  split <;> trivial

theorem uses_ensureActivationLanded {presented : String} :
    (ensureActivationLanded presented).run.Uses Retains := by
  refine ⟨by simp [Retains], ?_⟩
  rintro (error | _ | succeeded | failure) <;> trivial

theorem conclusiveTo_verifyActivation {server : SubscriptionServer}
    {activation : PreparedActivation} {rounds : ℕ}
    (hInvariant : RejectionInvariant signature before) :
    ConclusiveTo signature caller (fun _ _ => True)
      (verifyActivation server activation rounds).run before := by
  have hError : ∀ (error : VerificationError) (world : SubscriptionWorld Caller),
      ConclusiveTo signature caller (fun _ _ => True)
        (.done (.error error) : Program _ _ SubscriptionAnswer) world := fun _ _ _ _ => trivial
  apply Environment.Safe.fallible_bind hInvariant
    (conclusiveTo_of_retains (uses_call (by simp [Retains]))) _ fun _ _ _ _ _ => hError _ _
  intro delegation world hNow _ _
  apply Environment.Safe.fallible_bind hNow (conclusiveTo_of_retains uses_check) _
    fun _ _ _ _ _ => hError _ _
  intro presented later hLater _ _
  have hBind : (do return some (← bindConfirmedActivation server activation presented) :
      SubscriptionM (Option SubscriptionReceipt)).run.Uses Retains :=
    Fallible.uses_bind uses_bindConfirmedActivation fun _ => trivial
  have hBroadcast : ∀ (world : SubscriptionWorld Caller), RejectionInvariant signature world →
      ConclusiveTo signature caller (fun _ _ => True)
        (broadcastActivation server activation rounds presented).run world := by
    intro world hWorld
    apply Environment.Safe.fallible_bind hWorld (conclusiveTo_of_retains uses_reserve) _
      fun _ _ _ _ _ => hError _ _
    intro _ reserved hReserved _ _
    apply Environment.Safe.fallible_bind hReserved (conclusiveTo_node hReserved) _
      fun _ _ _ _ _ => hError _ _
    rintro broadcast ended hEnded _ ⟨_, ⟨⟩, hTold⟩
    rcases broadcast with _ | failure | landed
    · exact fun _ _ => trivial
    · cases failure with
      | rejected error => exact conclusiveTo_drop (hTold error rfl)
      | unknown error => exact hError _ _
    · exact conclusiveTo_of_retains hBind
  rcases delegation with error | _ | found
  · exact hBroadcast later hLater
  · exact hBroadcast later hLater
  · apply conclusiveTo_of_retains
    apply Fallible.uses_bind uses_ensureActivationLanded
    intro _
    exact Fallible.uses_bind uses_tryReserve fun _ => hBind

theorem uses_verifyAccessCredential {server : SubscriptionServer} {access : PreparedAccess} :
    (verifyAccessCredential server access).run.Uses Retains := by
  apply Fallible.uses_bind uses_check
  intro payer
  refine ⟨by simp [Retains], fun found => ?_⟩
  apply Fallible.uses_bind uses_check
  intro bound
  apply Fallible.uses_bind uses_check
  intro expectedAmount
  apply Fallible.uses_bind uses_check
  intro periodHours
  apply Fallible.uses_bind (uses_activeDelegation.mono fun _ => ReadsChain.retains)
  rintro ⟨delegation, ends⟩
  apply Fallible.uses_bind uses_check
  intro anchor
  apply Fallible.uses_bind uses_check
  intro subscriptionId
  apply Fallible.uses_bind uses_check
  intro reference
  exact Fallible.uses_bind uses_check fun _ => trivial

theorem uses_chainProgram {signatures : List String} :
    (chainProgram signatures).run.Uses Retains := by
  induction signatures with
  | nil => trivial
  | cons other signatures hInduction => exact ⟨by simp [Retains], fun _ => hInduction⟩

theorem conclusiveTo_program {server : SubscriptionServer} {role : SubscriptionRole}
    (hInvariant : RejectionInvariant signature before) :
    ConclusiveTo signature caller (fun _ _ => True) (role.program server) before := by
  cases role with
  | activation presented rounds => exact conclusiveTo_verifyActivation hInvariant
  | access presented => exact conclusiveTo_of_retains uses_verifyAccessCredential
  | chain signatures => exact conclusiveTo_of_retains uses_chainProgram

end

/-! ### The runs -/

theorem rejectionInvariant_start {signature : String} {state : SubscriptionState} :
    RejectionInvariant signature (⟨state, []⟩ : SubscriptionWorld Caller) where
  refused := by
    rintro ⟨caller, hRefused⟩
    exact absurd hRefused not_did_nil
  expired := by
    rintro ⟨caller, hExpired⟩
    exact absurd hExpired not_did_nil
  failed := by
    rintro ⟨caller, hFailed⟩
    exact absurd hFailed not_did_nil
  dropped _ hDropped := absurd hDropped not_did_nil

/-- A call has taken the transaction for dead: it is about to drop its reservation, or did. -/
def Dropped (signature : String) (run : SubscriptionRun Caller) : Prop :=
  ∃ caller, (∃ next, run.threads caller = .perform (.delete (consumedKey signature)) next) ∨
    Did run.world.history caller (drops signature)

/-- In a conclusive run a reservation is dropped only for a transaction that did not succeed,
and never does. -/
theorem dropped_reservation_never_lands [DecidableEq Caller] {server : SubscriptionServer}
    {roles : Caller → SubscriptionRole} {state : SubscriptionState} {signature : String}
    {reached : SubscriptionRun Caller}
    (hRun : (conclusive signature).Reachable (startOf server roles state) reached)
    (hDropped : Dropped signature reached) :
    ∀ later, (conclusive signature).Reachable reached later →
      ¬(later.world.state.landings signature).Live := by
  have hKept : ∀ run : SubscriptionRun Caller,
      (conclusive signature).Reachable (startOf server roles state) run →
        RejectionInvariant signature run.world ∧ ∀ caller,
          ConclusiveTo signature caller (fun _ _ => True) (run.threads caller) run.world :=
    fun run hReaches => Environment.safe_of_reachable rejectionInvariant_start
      (fun _ => conclusiveTo_program rejectionInvariant_start) hReaches
  rcases hKept reached hRun with ⟨hInvariant, hSafe⟩
  have hRejected : ∃ other, Did reached.world.history other (rejects signature) := by
    rcases hDropped with ⟨caller, ⟨next, hNext⟩ | hDropped⟩
    · have hCaller := hSafe caller
      rw [hNext] at hCaller
      have hAllowed : (conclusive signature).allowed reached.world
          ⟨caller, .delete (consumedKey signature), ()⟩ :=
        ⟨False.elim, by simp, False.elim, False.elim⟩
      have hAfter := ((hCaller _ (.refl hInvariant)).2 () _ rfl hAllowed).1
      rcases hAfter.dropped caller (did_self rfl) with ⟨other, hOther⟩
      rcases did_cons.mp hOther with ⟨-, hNow⟩ | hBefore
      · rcases hNow with hNow | hNow | hNow <;> exact hNow.elim
      · exact ⟨other, hBefore⟩
    · exact hInvariant.dropped caller hDropped
  intro later hLater
  rcases hRejected with ⟨other, hOther⟩
  have hSuffix := Environment.Reachable.history_suffix hLater
  exact dead_of_rejects (hKept later (hRun.trans hLater)).1 ⟨other, hOther.suffix hSuffix⟩

/-! ### Schedules -/

/-- Two presentations of one activation, and the chain. -/
inductive Party where
  | first
  | retry
  | chain
deriving DecidableEq

def presentedTwice : Party → SubscriptionRole
  | .first => .activation plainActivation 1
  | .retry => .activation plainActivation 1
  | .chain => .chain ["signature", "signature"]

/-- A first send is refused, and nothing was sent. -/
def refusedFirst : SubscriptionRun Party :=
  (startOf plainServer presentedTwice nothingStored).runSchedule handle
    (List.replicate 3 (.first, .refusing))

theorem dropped_reservation_never_lands_of_refusedFirst :
    Dropped "signature" refusedFirst ∧
      ¬(refusedFirst.world.state.landings "signature").Live := by
  have hDropped : Dropped "signature" refusedFirst := ⟨.first, .inl ⟨_, rfl⟩⟩
  have hRun : (conclusive "signature").Reachable
      (startOf plainServer presentedTwice nothingStored) refusedFirst := by
    apply Config.reachable_runSchedule effect_handle
    refine ⟨?_, ?_, ?_, trivial⟩
    · exact ⟨False.elim, by simp, False.elim, False.elim⟩
    · exact ⟨False.elim, by simp, False.elim, False.elim⟩
    · exact ⟨fun _ => by decide, fun _ _ => rfl, False.elim, False.elim⟩
  exact ⟨hDropped, dropped_reservation_never_lands hRun hDropped refusedFirst .refl⟩

/-- The transaction lands after its status was read, and its blockhash expires. -/
def landedUnread : SubscriptionRun Party :=
  (startOf plainServer presentedTwice nothingStored).runSchedule handle
    (List.replicate 4 (.first, .truthful) ++ List.replicate 2 (.chain, .truthful) ++
      [(.first, .truthful)])

/-- The transaction lands while the outcome of its first broadcast is unknown, and the node
refuses the retry. -/
def landedBeforeRetry : SubscriptionRun Party :=
  (startOf plainServer presentedTwice nothingStored).runSchedule handle
    (List.replicate 3 (.first, .truthful) ++ [(.first, .silent), (.chain, .truthful)] ++
      List.replicate 4 (.retry, .refusing))

theorem dropped_reservations_landed :
    anyOrder.Reachable (startOf plainServer presentedTwice nothingStored) landedUnread ∧
    Dropped "signature" landedUnread ∧
    (landedUnread.world.state.landings "signature").Succeeded ∧
    anyOrder.Reachable (startOf plainServer presentedTwice nothingStored) landedBeforeRetry ∧
    Dropped "signature" landedBeforeRetry ∧
    (landedBeforeRetry.world.state.landings "signature").Succeeded := by
  have hRun : ∀ schedule, anyOrder.Reachable (startOf plainServer presentedTwice nothingStored)
      ((startOf plainServer presentedTwice nothingStored).runSchedule handle schedule) :=
    fun schedule => Config.reachable_runSchedule effect_handle _ _
      (Config.permitted_of_unrestricted (fun _ _ => trivial) _ _)
  exact ⟨hRun _, ⟨.first, .inl ⟨_, rfl⟩⟩, by decide, hRun _, ⟨.retry, .inl ⟨_, rfl⟩⟩,
    by decide⟩

end PayKit.Subscription
