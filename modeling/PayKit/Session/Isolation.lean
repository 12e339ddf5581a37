import PayKit.Session.OpenFlow

/-!
# Policies are isolated from each other

Servers of different policies share a store. Whatever operations a server runs, a record of
another policy, or one whose open is terminal, stays as it was and is never handed out, the
binding of no record changes, and the records that are created carry the binding of the server.

Each operation changes one record at most, and the argument is that of the checks within the
updates: the wrapper checks the record before and after the updater, while opening, activating
and retiring check or know it by themselves.
-/

namespace PayKit.Session

open Channel Control Encoding Machine Store

namespace BoundStore

variable {Scope : Type} (bound : BoundStore Scope)

/-- A record that is not for this server: its open is terminal, or it is bound otherwise. -/
def Foreign (state : ChannelState) : Prop :=
  sessionOpenIsTerminal state = true ∨ readBinding bound.codec state ≠ .ok bound.binding

/-- What a run may do to the records of a store. -/
structure Isolated (before after : MemoryChannelStore) : Prop where
  foreign : ∀ channelId state, before channelId = some state → bound.Foreign state →
    after channelId = some state
  kept : ∀ channelId state, before channelId = some state →
    ∃ later, after channelId = some later ∧
      readBinding bound.codec later = readBinding bound.codec state
  created : ∀ channelId state, before channelId = none → after channelId = some state →
    readBinding bound.codec state = .ok bound.binding

/-- An update of one record that isolates policies. -/
def Permitted (existing : Option ChannelState) (updated : ChannelState) : Prop :=
  (∀ state, existing = some state → ¬bound.Foreign state) ∧
    readBinding bound.codec updated = .ok bound.binding

variable {bound} {before between after : MemoryChannelStore} {state : ChannelState}

theorem binding_of_own (hOwn : ¬bound.Foreign state) :
    readBinding bound.codec state = .ok bound.binding := by
  by_contra hOther
  exact hOwn (.inr hOther)

theorem Isolated.refl (store : MemoryChannelStore) : bound.Isolated store store where
  foreign := fun _ _ hFound _ => hFound
  kept := fun _ state hFound => ⟨state, hFound, rfl⟩
  created := by
    intro channelId state hAbsent hFound
    rw [hAbsent] at hFound
    cases hFound

theorem Isolated.trans (hFirst : bound.Isolated before between)
    (hSecond : bound.Isolated between after) : bound.Isolated before after where
  foreign := by
    intro channelId state hFound hForeign
    exact hSecond.foreign channelId state (hFirst.foreign channelId state hFound hForeign) hForeign
  kept := by
    intro channelId state hFound
    rcases hFirst.kept channelId state hFound with ⟨middle, hMiddle, hSame⟩
    rcases hSecond.kept channelId middle hMiddle with ⟨later, hLater, hStill⟩
    exact ⟨later, hLater, hStill.trans hSame⟩
  created := by
    intro channelId state hAbsent hFound
    cases hBetween : between channelId with
    | none => exact hSecond.created channelId state hBetween hFound
    | some middle =>
        rcases hSecond.kept channelId middle hBetween with ⟨later, hLater, hSame⟩
        rw [hFound] at hLater
        cases hLater
        rw [hSame]
        exact hFirst.created channelId middle hAbsent hBetween

theorem isolated_of_permitted {channelId : String} {updated : ChannelState}
    (hPermitted : bound.Permitted (before channelId) updated) :
    bound.Isolated before (Function.update before channelId (some updated)) := by
  refine ⟨?_, ?_, ?_⟩
  · intro other state hFound hForeign
    by_cases hOther : other = channelId
    · subst hOther
      exact absurd hForeign (hPermitted.1 state hFound)
    · rwa [Function.update_of_ne hOther]
  · intro other state hFound
    by_cases hOther : other = channelId
    · subst hOther
      refine ⟨updated, Function.update_self .., ?_⟩
      rw [hPermitted.2, binding_of_own (hPermitted.1 state hFound)]
    · exact ⟨state, by rwa [Function.update_of_ne hOther], rfl⟩
  · intro other state hAbsent hFound
    by_cases hOther : other = channelId
    · subst hOther
      rw [Function.update_self] at hFound
      cases hFound
      exact hPermitted.2
    · rw [Function.update_of_ne hOther, hAbsent] at hFound
      cases hFound

section

variable [DecidableEq Scope]

theorem requireBinding_eq_ok {allowPending : Bool} {value : Unit} :
    requireBinding bound.codec bound.binding allowPending state = .ok value ↔
      ¬bound.Foreign state ∧ (allowPending = false → opensChannel state = false) := by
  simp only [requireBinding, bind_eq_ok, refuseIf_eq_ok, Foreign, not_or,
    not_not]
  constructor
  · rintro ⟨_, hTerminal, binding, hRead, _, hSame, hPending⟩
    subst hSame
    refine ⟨⟨hTerminal, hRead⟩, ?_⟩
    intro hAllowed
    by_contra hOpens
    exact hPending ⟨by simp [hAllowed], by simpa using hOpens⟩
  · rintro ⟨⟨hTerminal, hRead⟩, hPending⟩
    refine ⟨(), hTerminal, _, hRead, (), rfl, ?_⟩
    rintro ⟨hAllowed, hOpens⟩
    have hClosed := hPending (by simpa using hAllowed)
    simp [hClosed] at hOpens

theorem check_eq_ok {value : Unit} :
    bound.check state = .ok value ↔ ¬bound.Foreign state ∧ opensChannel state = false := by
  simp [check, requireBinding_eq_ok]

end

/-- An operation on a record, where it addresses one, that serves no record of another policy. -/
structure Serves {Failure Result : Type} (bound : BoundStore Scope) (addressed : Option String)
    (records : Result → List ChannelState) (store : MemoryChannelStore)
    (outcome : Except Failure Result × MemoryChannelStore) : Prop where
  isolated : bound.Isolated store outcome.2
  returned : ∀ result, outcome.1 = .ok result → ∀ state ∈ records result, ¬bound.Foreign state
  refused : ∀ channelId state, addressed = some channelId → store channelId = some state →
    bound.Foreign state → ∃ failure, outcome.1 = .error failure

namespace Serves

variable {Failure Result Other : Type} {addressed : Option String}
  {records : Result → List ChannelState} {store : MemoryChannelStore}

theorem failed {failure : Failure} (hIsolated : bound.Isolated store after) :
    bound.Serves addressed records store (.error failure, after) :=
  ⟨hIsolated, (by intro result hResult; cases hResult), fun _ _ _ _ _ => ⟨failure, rfl⟩⟩

theorem bind {operation : Update MemoryChannelStore Failure Result}
    {rest : Result → Update MemoryChannelStore Failure Other} {later : Other → List ChannelState}
    (hServes : bound.Serves addressed records store (operation store))
    (hRest : ∀ result next,
      ∃ value, rest result next = (.ok value, next) ∧ later value ⊆ records result) :
    bound.Serves addressed later store ((operation >>= rest) store) := by
  apply Update.bind_intro
  · intro failure next hFailed
    rw [hFailed] at hServes
    exact failed hServes.isolated
  · intro result next hDone
    rw [hDone] at hServes
    rcases hRest result next with ⟨value, hValue, hRecords⟩
    rw [hValue]
    refine ⟨hServes.isolated, ?_, ?_⟩
    · intro returned hReturned state hState
      cases hReturned
      exact hServes.returned result rfl state (hRecords hState)
    · intro channelId state hAddressed hFound hForeign
      rcases hServes.refused channelId state hAddressed hFound hForeign with ⟨failure, hRefused⟩
      cases hRefused

theorem storing {operation : StoreUpdate Result}
    (hServes : bound.Serves addressed records store (operation store)) :
    bound.Serves addressed records store (storing operation store) := by
  refine ⟨hServes.isolated, ?_, ?_⟩
  · intro result hResult
    exact hServes.returned result (mapError_eq_ok.mp hResult)
  · intro channelId state hAddressed hFound hForeign
    rcases hServes.refused channelId state hAddressed hFound hForeign with ⟨failure, hRefused⟩
    exact ⟨SessionError.ofStore failure, by simp [Session.storing, hRefused, mapError_error]⟩

end Serves

/-! ### The wrapper -/

section

variable [DecidableEq Scope] {Result : Type} {store : MemoryChannelStore} {channelId : String}

theorem checkExisting_eq_ok {existing : Option ChannelState} {value : Unit} :
    bound.checkExisting existing = .ok value ↔ ∀ found, existing = some found →
      ¬bound.Foreign found ∧ opensChannel found = false := by
  cases existing with
  | none => simp [checkExisting]
  | some found => simp [checkExisting, check_eq_ok]

theorem getChannel_serves :
    bound.Serves (some channelId) Option.toList store (bound.getChannel channelId store) := by
  change bound.Serves _ _ _ ((Update.check (bound.checkExisting (store channelId)) >>= fun _ =>
    pure (store channelId)) store)
  apply Update.check_bind_intro
  · intro failure
    exact Serves.failed (Isolated.refl store)
  · intro _ hChecked
    rw [checkExisting_eq_ok] at hChecked
    refine ⟨Isolated.refl store, ?_, ?_⟩
    · intro result hResult state hState
      cases hResult
      exact (hChecked state (Option.mem_toList.mp hState)).1
    · intro other state hAddressed hFound hForeign
      cases hAddressed
      exact absurd hForeign (hChecked state hFound).1

theorem updateChannel_serves
    (updater : Option ChannelState → Except StoreError (Result × ChannelState)) :
    bound.Serves (some channelId) (fun updated => [updated.2]) store
      (bound.updateChannel channelId updater store) := by
  simp only [updateChannel, InnerStore.updateChannel]
  split
  · rename_i result updated hUpdated
    simp only [bind_eq_ok, checkExisting_eq_ok, check_eq_ok] at hUpdated
    rcases hUpdated with ⟨_, hExisting, ⟨given, written⟩, hWritten, _, hWrittenOwn, hSame⟩
    cases hSame
    refine ⟨isolated_of_permitted ⟨fun state hFound => (hExisting state hFound).1,
      binding_of_own hWrittenOwn.1⟩, ?_, ?_⟩
    · intro returned hReturned state hState
      cases hReturned
      rw [List.mem_singleton.mp hState]
      exact hWrittenOwn.1
    · intro other state hAddressed hFound hForeign
      cases hAddressed
      exact absurd hForeign (hExisting state hFound).1
  · exact Serves.failed (Isolated.refl store)

theorem readChannel_serves (reader : Option ChannelState → Except StoreError Result) :
    bound.Serves (some channelId) (fun _ => []) store
      (bound.readChannel channelId reader store) := by
  refine ⟨Isolated.refl store, by simp, ?_⟩
  intro other state hAddressed hFound hForeign
  cases hAddressed
  have hRefused : ∀ value, (bound.readChannel channelId reader store).1 ≠ .ok value := by
    intro value hRead
    simp only [readChannel, InnerStore.readChannel, bind_eq_ok, checkExisting_eq_ok] at hRead
    rcases hRead with ⟨_, hExisting, -⟩
    exact (hExisting state hFound).1 hForeign
  cases hOutcome : (bound.readChannel channelId reader store).1 with
  | ok value => exact absurd hOutcome (hRefused value)
  | error failure => exact ⟨failure, rfl⟩

theorem listChannels_serves (channelIds : List String) :
    bound.Serves none id store (bound.listChannels channelIds store) := by
  refine ⟨Isolated.refl store, ?_, by simp⟩
  intro listed hListed state hState
  cases hListed
  have hChecked := (List.mem_filter.mp hState).2
  cases hOutcome : bound.check state with
  | ok value => exact (check_eq_ok.mp hOutcome).1
  | error failure => simp [hOutcome, Except.isOk, Except.toBool] at hChecked

theorem updateChannel_bind_serves {Other : Type}
    (updater : Option ChannelState → Except StoreError (Result × ChannelState))
    {rest : Result × ChannelState → StoreUpdate Other}
    (hRest : ∀ updated next, ∃ value, rest updated next = (.ok value, next)) :
    bound.Serves (some channelId) (fun _ => []) store
      ((bound.updateChannel channelId updater >>= rest) store) := by
  apply (updateChannel_serves updater).bind
  intro updated next
  rcases hRest updated next with ⟨value, hValue⟩
  exact ⟨value, hValue, List.nil_subset _⟩

theorem mutateChannel_serves (seed : Option ChannelState) (mutator : ChannelMutator Result) :
    bound.Serves (some channelId) (fun _ => []) store
      (bound.mutateChannel channelId seed mutator store) :=
  updateChannel_bind_serves _ fun updated _ => ⟨updated.1, rfl⟩

theorem putChannel_serves (state : ChannelState) :
    bound.Serves (some channelId) (fun _ => []) store
      (bound.putChannel channelId state store) :=
  updateChannel_bind_serves _ fun _ _ => ⟨(), rfl⟩

theorem advanceCumulative_serves (expected new : ℕ) :
    bound.Serves (some channelId) (fun _ => []) store
      (bound.advanceCumulative channelId expected new store) :=
  updateChannel_bind_serves _ fun updated _ => ⟨updated.1, rfl⟩

theorem touchChannelLifecycle_serves (lifecycle : ChannelLifecycle) :
    bound.Serves (some channelId) (fun touched => [touched]) store
      (bound.touchChannelLifecycle channelId lifecycle store) := by
  apply (updateChannel_serves _).bind
  intro updated next
  exact ⟨updated.2, rfl, List.Subset.refl _⟩

end

end BoundStore

/-! ### Opening -/

open BoundStore

theorem updateChannel_bind_intro {Result Later : Type} {store : MemoryChannelStore}
    {channelId : String}
    {updater : Option ChannelState → Except StoreError (Result × ChannelState)}
    {rest : Result × ChannelState → SessionUpdate Later}
    {Holds : Except SessionError Later × MemoryChannelStore → Prop}
    (hFailed : ∀ failure, Holds (.error failure, store))
    (hRest : ∀ result updated, updater (store channelId) = .ok (result, updated) →
      Holds (rest (result, updated) (Function.update store channelId (some updated)))) :
    Holds ((storing (InnerStore.updateChannel channelId updater) >>= rest) store) := by
  apply Update.bind_intro
  · intro failure next hUpdate
    simp only [storing, InnerStore.updateChannel] at hUpdate
    split at hUpdate
    · cases hUpdate
    · cases hUpdate
      exact hFailed _
  · intro value next hUpdate
    simp only [storing, InnerStore.updateChannel] at hUpdate
    split at hUpdate
    · rename_i result updated hUpdated
      cases hUpdate
      exact hRest result updated hUpdated
    · cases hUpdate

namespace SessionServer

variable {Scope : Type} {server : SessionServer Scope} {state updated : ChannelState}

theorem foreign_congr (hTerminal : updated.extra.lookup openTerminalKey =
      state.extra.lookup openTerminalKey)
    (hBinding : updated.extra.lookup bindingKey = state.extra.lookup bindingKey) :
    server.store.Foreign updated ↔ server.store.Foreign state := by
  simp only [Foreign, sessionOpenIsTerminal, readBinding, hTerminal, hBinding]

theorem readBinding_retired (marker : Json) :
    readBinding server.store.codec (retired marker state) =
      readBinding server.store.codec state := by
  have hLookup : (retired marker state).extra.lookup bindingKey =
      state.extra.lookup bindingKey := lookup_insertMember_of_ne (by decide)
  simp only [readBinding, hLookup]

theorem activated_foreign (deposit settled activatedAt : ℕ) :
    server.store.Foreign (activated deposit settled activatedAt state) ↔
      server.store.Foreign state := by
  have hExtra : (activated deposit settled activatedAt state).extra =
      insertMember state.extra onchainObservedAtKey (.unsigned activatedAt) := by
    simp only [activated]
    split <;> rfl
  apply foreign_congr
  · rw [hExtra]
    exact lookup_insertMember_of_ne (by decide)
  · rw [hExtra]
    exact lookup_insertMember_of_ne (by decide)

theorem boundState_own (hCodec : server.store.codec.RoundTrips)
    {payload : OpenPayload} {context : SessionOpenContext} {validated : ValidatedOpen}
    {prepared : PreparedOpen} {nowSecs : ℕ} {intent : Json}
    (hBound : server.boundState payload context validated prepared nowSecs intent = .ok state) :
    ¬server.store.Foreign state := by
  have hTerminal : (insertMember [] openIntentKey intent).lookup openTerminalKey = none :=
    lookup_insertMember_of_ne (by decide)
  have hUnbound : (insertMember [] openIntentKey intent).lookup bindingKey = none :=
    lookup_insertMember_of_ne (by decide)
  simp only [boundState] at hBound
  cases hBinding : server.store.binding with
  | none =>
      simp only [hBinding] at hBound
      cases hBound
      simp [Foreign, sessionOpenIsTerminal, readBinding, freshState, hTerminal, hUnbound, hBinding]
  | some binding =>
      have hVersion : binding.version = 1 := by
        simp only [BoundStore.binding, Option.map_eq_some_iff] at hBinding
        rcases hBinding with ⟨scope, -, hNew⟩
        rw [← hNew]
        rfl
      simp only [hBinding, insertBinding, bind_eq_ok, mapError_eq_ok] at hBound
      rcases hBound with ⟨value, hValue, hState⟩
      cases hState
      have hStill : (insertMember (insertMember [] openIntentKey intent) bindingKey value).lookup
          openTerminalKey = none := by
        rw [lookup_insertMember_of_ne (by decide), hTerminal]
      simp [Foreign, sessionOpenIsTerminal, readBinding, freshState, hStill,
        lookup_insertMember_self, hCodec binding value hValue, hVersion, hBinding]

theorem retireElsewhere_permitted {intent : Json} {value : Unit}
    (hOwn : ¬server.store.Foreign state)
    (hRetired : server.retireElsewhere intent (some state) = .ok (value, updated)) :
    server.store.Permitted (some state) updated := by
  simp only [retireElsewhere, bind_eq_ok, okOr_eq_ok] at hRetired
  rcases hRetired with ⟨found, hFound, _, -, hSame⟩
  cases hFound
  cases hSame
  refine ⟨by simpa using hOwn, ?_⟩
  rw [readBinding_retired, binding_of_own hOwn]

theorem retireExpired_permitted {expected : ChannelState} {invalidAt : ℕ} {value : Unit}
    (hOwn : ¬server.store.Foreign state)
    (hRetired : server.retireExpired expected invalidAt (some state) = .ok (value, updated)) :
    server.store.Permitted (some state) updated := by
  simp only [retireExpired, bind_eq_ok, okOr_eq_ok] at hRetired
  rcases hRetired with ⟨found, hFound, _, -, _, -, _, -, hSame⟩
  cases hFound
  cases hSame
  refine ⟨by simpa using hOwn, ?_⟩
  rw [readBinding_retired, binding_of_own hOwn]

section

variable [DecidableEq Scope]

theorem requireOwn_eq_ok {value : Unit} :
    server.requireOwn state = .ok value ↔ ¬server.store.Foreign state := by
  simp [requireOwn, requireBinding_eq_ok]

theorem requireOwnStored_eq_ok {value : Unit} :
    server.requireOwnStored state = .ok value ↔ ¬server.store.Foreign state := by
  simp [requireOwnStored, requireOwn_eq_ok]

theorem requireExisting_eq_ok {existing : Option ChannelState} {value : Unit} :
    server.requireExisting existing = .ok value ↔
      ∀ found, existing = some found → ¬server.store.Foreign found := by
  cases existing with
  | none => simp [requireExisting]
  | some found => simp [requireExisting, requireOwn_eq_ok]

theorem reserve_permitted {payload : OpenPayload} {context : SessionOpenContext}
    {validated : ValidatedOpen} {intent : Json} {fresh : ChannelState}
    {existing : Option ChannelState} {replay : Bool} (hFresh : ¬server.store.Foreign fresh)
    (hReserved : server.reserve payload context validated intent fresh existing =
      .ok (replay, updated)) :
    server.store.Permitted existing updated ∧ ¬server.store.Foreign updated := by
  cases existing with
  | none =>
      cases hReserved
      exact ⟨⟨by simp, binding_of_own hFresh⟩, hFresh⟩
  | some found =>
      simp only [reserve, bind_eq_ok, requireOwnStored_eq_ok] at hReserved
      rcases hReserved with ⟨_, hOwn, _, -, _, -, _, -, _, -, hSame⟩
      cases hSame
      exact ⟨⟨by simpa using hOwn, binding_of_own hOwn⟩, hOwn⟩

theorem activate_permitted {deposit settled activatedAt : ℕ} {intent : Json}
    {existing : Option ChannelState} {value : Unit}
    (hActivated : server.activate deposit settled activatedAt intent existing =
      .ok (value, updated)) :
    server.store.Permitted existing updated ∧ ¬server.store.Foreign updated := by
  simp only [activate, bind_eq_ok, okOr_eq_ok, requireOwnStored_eq_ok] at hActivated
  rcases hActivated with ⟨found, hFound, _, hOwn, _, -, hSame⟩
  cases hSame
  have hStill := (not_congr (activated_foreign deposit settled activatedAt)).mpr hOwn
  exact ⟨⟨by simpa [hFound] using hOwn, binding_of_own hStill⟩, hStill⟩

/-- The outcome of an open writes no record that is not this server's, given that the open
reserved one that is. -/
theorem concludeOpen_serves {payload : OpenPayload} {deposit : ℕ} {intent : Json} {replay : Bool}
    {answers : OpenAnswers} {store : MemoryChannelStore}
    (hReserved : store payload.channelId = some state) (hOwn : ¬server.store.Foreign state) :
    server.store.Serves none (fun acceptance : OpenAcceptance => [acceptance.state]) store
      (server.concludeOpen payload deposit intent replay answers store) := by
  apply Update.check_bind_intro
  · intro failure
    exact Serves.failed (Isolated.refl store)
  · intro submission _
    cases submission with
    | openedElsewhere =>
        apply updateChannel_bind_intro
        · intro failure
          exact Serves.failed (Isolated.refl store)
        · intro result updated hRetired
          rw [hReserved] at hRetired
          have hPermitted := retireElsewhere_permitted hOwn hRetired
          rw [← hReserved] at hPermitted
          exact Serves.failed (isolated_of_permitted hPermitted)
    | landed transactionSignature settled =>
        apply updateChannel_bind_intro
        · intro failure
          exact Serves.failed (Isolated.refl store)
        · intro result updated hActivated
          have hPermitted := activate_permitted hActivated
          refine ⟨isolated_of_permitted hPermitted.1, ?_, by simp⟩
          intro acceptance hAcceptance record hRecord
          cases hAcceptance
          rw [List.mem_singleton.mp hRecord]
          exact hPermitted.2

theorem processOpenInner_serves (hCodec : server.store.codec.RoundTrips)
    (payload : OpenPayload) (context : SessionOpenContext) (answers : OpenAnswers)
    (store : MemoryChannelStore) :
    server.store.Serves (some payload.channelId)
      (fun acceptance : OpenAcceptance => [acceptance.state]) store
      (server.processOpenInner payload context answers store) := by
  have hRefused : ∀ failure : SessionError, server.store.Serves (some payload.channelId)
      (fun acceptance : OpenAcceptance => [acceptance.state]) store (.error failure, store) :=
    fun _ => Serves.failed (Isolated.refl store)
  refine Update.check_bind_intro hRefused fun validated _ => ?_
  change server.store.Serves _ _ _
    ((Update.check (server.requireExisting (store payload.channelId)) >>= _) store)
  refine Update.check_bind_intro hRefused fun _ hExisting => ?_
  rw [requireExisting_eq_ok] at hExisting
  refine Update.check_bind_intro hRefused fun _ _ => ?_
  refine Update.check_bind_intro hRefused fun prepared _ => ?_
  refine Update.check_bind_intro hRefused fun observedFloor _ => ?_
  refine Update.check_bind_intro hRefused fun storedIntent _ => ?_
  refine Update.check_bind_intro hRefused fun _ _ => ?_
  refine Update.check_bind_intro hRefused fun intent _ => ?_
  refine Update.check_bind_intro hRefused fun fresh hFresh => ?_
  refine updateChannel_bind_intro hRefused fun replay reserved hReserved => ?_
  have hPermitted := reserve_permitted (boundState_own hCodec hFresh) hReserved
  have hConcluded : server.store.Serves none (fun acceptance : OpenAcceptance => [acceptance.state])
      (Function.update store payload.channelId (some reserved))
      (server.concludeOpen payload validated.deposit intent replay answers
        (Function.update store payload.channelId (some reserved))) :=
    concludeOpen_serves (Function.update_self payload.channelId (some reserved) store)
      hPermitted.2
  refine ⟨(isolated_of_permitted hPermitted.1).trans hConcluded.isolated, hConcluded.returned, ?_⟩
  intro channelId found hAddressed hFound hForeign
  cases hAddressed
  exact absurd hForeign (hExisting found hFound)

theorem resumePendingOpen_serves (hCodec : server.store.codec.RoundTrips)
    (channelId : String) (retirement : RetirementAnswers) (answers : OpenAnswers)
    (store : MemoryChannelStore) :
    server.store.Serves (some channelId)
      (fun acceptance : OpenAcceptance => [acceptance.state]) store
      (server.resumePendingOpen channelId retirement answers store) := by
  have hRefused : ∀ failure : SessionError, server.store.Serves (some channelId)
      (fun acceptance : OpenAcceptance => [acceptance.state]) store (.error failure, store) :=
    fun _ => Serves.failed (Isolated.refl store)
  change server.store.Serves _ _ _
    ((Update.check (okOr (store channelId) (SessionError.other "pending open not found")) >>= _) store)
  refine Update.check_bind_intro hRefused fun state hFound => ?_
  rw [okOr_eq_ok] at hFound
  refine Update.check_bind_intro hRefused fun _ hOwn => ?_
  rw [requireOwn_eq_ok] at hOwn
  refine Update.check_bind_intro hRefused fun intent hIntent => ?_
  refine Update.check_bind_intro hRefused fun expired _ => ?_
  cases expired with
  | some invalidAt =>
      refine updateChannel_bind_intro hRefused fun _ retired hRetired => ?_
      rw [hFound] at hRetired
      have hPermitted := retireExpired_permitted hOwn hRetired
      rw [← hFound] at hPermitted
      exact Serves.failed (isolated_of_permitted hPermitted)
  | none =>
      simp only [pendingIntent, bind_eq_ok, refuseIf_eq_ok, not_or, not_not] at hIntent
      rcases hIntent with ⟨_, -, _, -, found, -, _, ⟨-, hChannel⟩, hSame⟩
      cases hSame
      rw [← hChannel]
      exact processOpenInner_serves hCodec _ _ answers store

end

/-! ### Runs -/

/-- What an operation hands to its caller: what an updater or a reader captured, and records. -/
structure Returned (Result : Type) where
  result : Option Result
  records : List ChannelState

/-- The operations of a server, with whatever updaters its methods use. -/
inductive SessionOperation (Result : Type) where
  | getChannel (channelId : String)
  | updateChannel (channelId : String)
      (updater : Option ChannelState → Except StoreError (Result × ChannelState))
  | readChannel (channelId : String)
      (reader : Option ChannelState → Except StoreError Result)
  | mutateChannel (channelId : String) (seed : Option ChannelState)
      (mutator : ChannelMutator Result)
  | putChannel (channelId : String) (state : ChannelState)
  | listChannels (channelIds : List String)
  | advanceCumulative (channelId : String) (expected new : ℕ)
  | updateDeposit (channelId : String) (deposit : ℕ)
  | markSealed (channelId : String)
  | touchChannelLifecycle (channelId : String) (lifecycle : ChannelLifecycle)
  | deleteChannel (channelId : String)
  | deleteChannelIf (channelId : String) (approve : ChannelState → Bool)
  | markFinalized (channelId : String)
  | processOpen (payload : OpenPayload) (context : SessionOpenContext) (answers : OpenAnswers)
  | resumePendingOpen (channelId : String) (retirement : RetirementAnswers)
      (answers : OpenAnswers)

/-- The record that an operation is about. -/
def SessionOperation.addressed {Result : Type} : SessionOperation Result → Option String
  | getChannel channelId | updateChannel channelId _ | readChannel channelId _
  | mutateChannel channelId _ _ | putChannel channelId _ | advanceCumulative channelId _ _
  | updateDeposit channelId _ | markSealed channelId | touchChannelLifecycle channelId _
  | deleteChannel channelId | deleteChannelIf channelId _ | markFinalized channelId
  | resumePendingOpen channelId _ _ => some channelId
  | processOpen payload _ _ => some payload.channelId
  | listChannels _ => none

section

variable [DecidableEq Scope] {Result : Type} (server)

def run : SessionOperation Result → SessionUpdate (Returned Result)
  | .getChannel channelId => storing (server.store.getChannel channelId) >>= fun state =>
      pure ⟨none, state.toList⟩
  | .updateChannel channelId updater =>
      storing (server.store.updateChannel channelId updater) >>= fun updated =>
        pure ⟨some updated.1, [updated.2]⟩
  | .readChannel channelId reader =>
      storing (server.store.readChannel channelId reader) >>= fun result =>
        pure ⟨some result, []⟩
  | .mutateChannel channelId seed mutator =>
      storing (server.store.mutateChannel channelId seed mutator) >>= fun result =>
        pure ⟨some result, []⟩
  | .putChannel channelId state =>
      storing (server.store.putChannel channelId state) >>= fun _ => pure ⟨none, []⟩
  | .listChannels channelIds =>
      storing (server.store.listChannels channelIds) >>= fun channels => pure ⟨none, channels⟩
  | .advanceCumulative channelId expected new =>
      storing (server.store.advanceCumulative channelId expected new) >>= fun _ => pure ⟨none, []⟩
  | .updateDeposit channelId deposit =>
      storing (server.store.updateDeposit channelId deposit) >>= fun _ => pure ⟨none, []⟩
  | .markSealed channelId =>
      storing (server.store.markSealed channelId) >>= fun _ => pure ⟨none, []⟩
  | .touchChannelLifecycle channelId lifecycle =>
      storing (server.store.touchChannelLifecycle channelId lifecycle) >>= fun state =>
        pure ⟨none, [state]⟩
  | .deleteChannel channelId =>
      storing (BoundStore.deleteChannel channelId) >>= fun _ => pure ⟨none, []⟩
  | .deleteChannelIf channelId approve =>
      storing (BoundStore.deleteChannelIf channelId approve) >>= fun _ => pure ⟨none, []⟩
  | .markFinalized channelId =>
      storing (BoundStore.markFinalized channelId) >>= fun _ => pure ⟨none, []⟩
  | .processOpen payload context answers =>
      server.processOpenInner payload context answers >>= fun acceptance =>
        pure ⟨none, [acceptance.state]⟩
  | .resumePendingOpen channelId retirement answers =>
      server.resumePendingOpen channelId retirement answers >>= fun acceptance =>
        pure ⟨none, [acceptance.state]⟩

/-- Operations one after the other, each with its outcome. -/
def runAll : List (SessionOperation Result) → MemoryChannelStore →
    List (SessionOperation Result × Except SessionError (Returned Result)) × MemoryChannelStore
  | [], store => ([], store)
  | operation :: operations, store =>
      let ran := server.run operation store
      let later := runAll operations ran.2
      ((operation, ran.1) :: later.1, later.2)

variable {server}

theorem run_serves (hCodec : server.store.codec.RoundTrips)
    (operation : SessionOperation Result) (store : MemoryChannelStore) :
    server.store.Serves operation.addressed Returned.records store
      (server.run operation store) := by
  cases operation with
  | getChannel channelId =>
      exact getChannel_serves.storing.bind fun state _ => ⟨_, rfl, List.Subset.refl _⟩
  | updateChannel channelId updater =>
      exact (updateChannel_serves updater).storing.bind fun _ _ => ⟨_, rfl, List.Subset.refl _⟩
  | readChannel channelId reader =>
      exact (readChannel_serves reader).storing.bind fun _ _ => ⟨_, rfl, List.nil_subset _⟩
  | mutateChannel channelId seed mutator =>
      exact (mutateChannel_serves seed mutator).storing.bind
        fun _ _ => ⟨_, rfl, List.nil_subset _⟩
  | putChannel channelId state =>
      exact (putChannel_serves state).storing.bind fun _ _ => ⟨_, rfl, List.nil_subset _⟩
  | listChannels channelIds =>
      exact (listChannels_serves channelIds).storing.bind
        fun _ _ => ⟨_, rfl, List.Subset.refl _⟩
  | advanceCumulative channelId expected new =>
      exact (advanceCumulative_serves expected new).storing.bind
        fun _ _ => ⟨_, rfl, List.nil_subset _⟩
  | updateDeposit channelId deposit =>
      exact (mutateChannel_serves none _).storing.bind fun _ _ => ⟨_, rfl, List.nil_subset _⟩
  | markSealed channelId =>
      exact (mutateChannel_serves none _).storing.bind fun _ _ => ⟨_, rfl, List.nil_subset _⟩
  | touchChannelLifecycle channelId lifecycle =>
      exact (touchChannelLifecycle_serves lifecycle).storing.bind
        fun _ _ => ⟨_, rfl, List.Subset.refl _⟩
  | deleteChannel channelId => exact Serves.failed (Isolated.refl store)
  | deleteChannelIf channelId approve => exact Serves.failed (Isolated.refl store)
  | markFinalized channelId => exact Serves.failed (Isolated.refl store)
  | processOpen payload context answers =>
      exact (processOpenInner_serves hCodec payload context answers store).bind
        fun _ _ => ⟨_, rfl, List.Subset.refl _⟩
  | resumePendingOpen channelId retirement answers =>
      exact (resumePendingOpen_serves hCodec channelId retirement answers store).bind
        fun _ _ => ⟨_, rfl, List.Subset.refl _⟩

/-- Whatever operations a server runs on whatever store: the records of other policies, and
those whose open is terminal, stay as they were, no binding changes, and new records carry the
binding of the server; it hands out no such record, and an operation on one fails. -/
theorem policies_isolated (hCodec : server.store.codec.RoundTrips)
    (operations : List (SessionOperation Result)) (store : MemoryChannelStore) :
    server.store.Isolated store (server.runAll operations store).2 ∧
      ∀ entry ∈ (server.runAll operations store).1,
        (∀ returned, entry.2 = .ok returned →
          ∀ state ∈ returned.records, ¬server.store.Foreign state) ∧
        ∀ channelId state, entry.1.addressed = some channelId →
          store channelId = some state → server.store.Foreign state →
            ∃ failure, entry.2 = .error failure := by
  induction operations generalizing store with
  | nil => exact ⟨Isolated.refl store, by simp [runAll]⟩
  | cons operation operations hInduction =>
      have hServes := run_serves hCodec operation store
      rcases hInduction (server.run operation store).2 with ⟨hIsolated, hLog⟩
      refine ⟨hServes.isolated.trans hIsolated, ?_⟩
      intro entry hEntry
      rcases List.mem_cons.mp hEntry with hFirst | hLater
      · subst hFirst
        exact ⟨hServes.returned, hServes.refused⟩
      · refine ⟨(hLog entry hLater).1, ?_⟩
        intro channelId state hAddressed hFound hForeign
        exact (hLog entry hLater).2 channelId state hAddressed
          (hServes.isolated.foreign channelId state hFound hForeign) hForeign

end

/-- A codec for policies that are names. -/
def namedCodec : BindingCodec String where
  toValue binding :=
    .ok (.object [("version", .unsigned binding.version), ("policy", .text binding.scope)])
  fromValue
    | .object [("version", .unsigned version), ("policy", .text scope)] => some ⟨version, scope⟩
    | _ => none

/-- A server of the policy `cheap`, which opens nothing. -/
def cheapServer : SessionServer String where
  store := ⟨namedCodec, some "cheap"⟩
  operator := "operator"
  voucherSigner := "client"
  intents := ⟨fun _ => .error "unused", fun _ => none⟩
  encodeState := fun _ => .error "unused"
  validateOpenRequest := fun _ _ => .error (.other "unused")
  prepareOpen := fun _ _ => .error (.other "unused")

/-- A record of the policy `dear`. -/
def dearState : ChannelState :=
  { openedChannel with
    extra := [(bindingKey, .object [("version", .unsigned 1), ("policy", .text "dear")])] }

def dearStore : MemoryChannelStore :=
  fun channelId => if channelId = "channel" then some dearState else none

def cheapOperations : List (SessionOperation Unit) :=
  [.updateDeposit "channel" 0, .markSealed "channel", .getChannel "channel"]

theorem policies_isolated_of_dear :
    (cheapServer.runAll cheapOperations dearStore).2 "channel" = some dearState :=
  (policies_isolated (fun _ _ hValue => by cases hValue; rfl) cheapOperations
    dearStore).1.foreign "channel" dearState rfl (.inr (by decide))

end SessionServer

end PayKit.Session
