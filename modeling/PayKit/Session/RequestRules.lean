import PayKit.Session.RequestStore

/-!
# Rules for the calls of the request server

A request server's program keeps the histories of the store whatever other requests do
meanwhile. Here is one rule for each kind of call: a call that leaves the store alone, a read,
and an update, which has to be a move of the newest record. The rules for reads and updates
through the policy of the server follow.
-/

namespace PayKit.Session

open Accounting Channel Concurrency Control Encoding Machine Store

variable {Scope Caller : Type} {Result : Type} {server : RequestServer Scope}
  {requests : Caller → SessionRequest} {caller : Caller} {before now world : SessionWorld Caller}
  {channelId : String}

variable (server requests caller) in
/-- Run by the caller, the program writes only histories, and the assertion holds of its value. -/
def Keeps (program : SessionProgram Result) (holds : Result → SessionWorld Caller → Prop)
    (before : SessionWorld Caller) : Prop :=
  server.environment.Ensures (Consistent server requests) caller program holds before

/-- The caller made the call after all of the earlier history, and was told this. -/
def Told (caller : Caller) (earlier : SessionHistory Caller) (call : SessionCall)
    (reply : SessionReply call) (later : SessionHistory Caller) : Prop :=
  ∃ newer older, later = newer ++ ⟨caller, call, reply⟩ :: older ∧ earlier <:+ older

theorem Told.mem {earlier later : SessionHistory Caller} {call : SessionCall}
    {reply : SessionReply call} (hTold : Told caller earlier call reply later) :
    ⟨caller, call, reply⟩ ∈ later := by
  rcases hTold with ⟨newer, older, rfl, -⟩
  exact List.mem_append_right _ List.mem_cons_self

theorem Told.mono {earlier middle later : SessionHistory Caller} {call : SessionCall}
    {reply : SessionReply call} (hTold : Told caller earlier call reply middle)
    (hGrown : middle <:+ later) : Told caller earlier call reply later := by
  rcases hTold with ⟨newer, older, rfl, hEarlier⟩
  rcases hGrown with ⟨newest, rfl⟩
  exact ⟨newest ++ newer, older, (List.append_assoc _ _ _).symm, hEarlier⟩

theorem told_now {call : SessionCall} {reply : SessionReply call}
    (hInterferes : Interferes (Consistent server requests) caller before now) :
    Told caller before.history call reply (⟨caller, call, reply⟩ :: now.history) :=
  ⟨[], now.history, rfl, hInterferes.suffix⟩

/-! ### Quiet calls -/

theorem keeps_step_quiet {call : SessionCall} (hQuiet : call.Quiet)
    (hInterferes : Interferes (Consistent server requests) caller before now)
    {reply : SessionReply call} {state : SessionStore}
    (hEffect : sessionEffect call now.state reply state) :
    Consistent server requests (now.record ⟨caller, call, reply⟩ state) := by
  have hNothing : ∀ shownId shown, ¬Shown [⟨caller, call, reply⟩] shownId shown := by
    intro shownId shown hShown
    cases hShown with
    | read hRead =>
        cases List.mem_singleton.mp hRead
        exact hQuiet
    | wrote hWrote =>
        cases List.mem_singleton.mp hWrote
        exact hQuiet
  have hSame : state = now.state := by
    cases call with
    | getChannel channelId => exact absurd hQuiet id
    | update channelId updater => exact absurd hQuiet id
    | _ => exact hEffect
  subst hSame
  exact hInterferes.1.answered _ fun shownId shown hShown => absurd hShown (hNothing _ _)

theorem keeps_request (call : SessionCall) (hQuiet : call.Quiet) :
    Keeps server requests caller (Fallible.request call)
      (fun reply world => Told caller before.history call reply world.history) before := by
  intro now hInterferes
  refine ⟨trivial, ?_⟩
  intro reply state hEffect hAllowed
  refine ⟨keeps_step_quiet hQuiet hInterferes hEffect, ?_⟩
  intro later hLater
  exact (told_now hInterferes).mono hLater.suffix

theorem keeps_await (call : SessionCall) (hQuiet : call.Quiet)
    {outcome : SessionReply call → Except SessionError Result} :
    Keeps server requests caller (Fallible.await call outcome)
      (fun value world => ∃ reply, Told caller before.history call reply world.history ∧
        server.Honest call reply ∧ outcome reply = .ok value) before := by
  refine Environment.ensures_await (fun reply world =>
    Told caller before.history call reply world.history ∧ server.Honest call reply) ?_ ?_
  · intro now hInterferes reply state hEffect hAllowed
    exact ⟨keeps_step_quiet hQuiet hInterferes hEffect, told_now hInterferes, hAllowed⟩
  · intro reply value world later hMiddle hValue hLater
    exact ⟨reply, hMiddle.1.mono hLater.suffix, hMiddle.2, hValue⟩

/-! ### Reads -/

/-- What a read found is the newest record. -/
structure Read (server : RequestServer Scope) (caller : Caller)
    (earlier later : SessionHistory Caller) (channelId : String) (state : ChannelState) : Prop
    where
  told : ⟨caller, .getChannel channelId, .ok (some state)⟩ ∈ later
  newest : Newest server earlier channelId state

theorem Read.shown {earlier later : SessionHistory Caller} {state : ChannelState}
    (hRead : Read server caller earlier later channelId state) : Shown later channelId state :=
  .read hRead.told

theorem keeps_read {outcome : Except StoreError (Option ChannelState) →
    Except SessionError Result} :
    Keeps server requests caller (Fallible.await (SessionCall.getChannel channelId) outcome)
      (fun value world => ∃ reply, outcome reply = .ok value ∧ ∀ state, reply = .ok (some state) →
        Read server caller before.history world.history channelId state) before := by
  refine Environment.ensures_await (fun reply world => ∀ state, reply = .ok (some state) →
    Read server caller before.history world.history channelId state) ?_ ?_
  · intro now hInterferes reply state hEffect hAllowed
    rcases hEffect with ⟨rfl, hFound⟩
    have hNewest : ∀ found, reply = .ok (some found) →
        Newest server now.history channelId found ∧
          ∃ held ∈ now.state channelId, held.record = found :=
      fun found hReply => hInterferes.1.newest (hFound _ hReply).symm
    constructor
    · apply hInterferes.1.answered
      intro shownId shown hShown
      cases hShown with
      | read hRead =>
          cases List.mem_singleton.mp hRead
          exact (hNewest shown rfl).2
      | wrote hWrote => cases List.mem_singleton.mp hWrote
    · rintro found rfl
      exact ⟨List.mem_cons_self, (hNewest found rfl).1.weaken hInterferes.suffix⟩
  · intro reply value world later hMiddle hValue hLater
    refine ⟨reply, hValue, ?_⟩
    intro state hReply
    exact ⟨hLater.suffix.mem (hMiddle state hReply).told, (hMiddle state hReply).newest⟩

/-! ### Updates -/

structure Wrote (server : RequestServer Scope) (earlier later : SessionHistory Caller)
    (channelId : String) (updater : Updater UpdateFailure Result) (result : Result)
    (record : ChannelState) : Prop where
  shown : Shown later channelId record
  ran : ∃ time found, updater time found = .ok (result, record) ∧
    ∀ state, found = some state → Newest server earlier channelId state
  follows : ∀ old, Shown earlier channelId old → Follows old record

theorem Wrote.mono {earlier middle later : SessionHistory Caller}
    {updater : Updater UpdateFailure Result} {result : Result} {record : ChannelState}
    (hWrote : Wrote server earlier middle channelId updater result record)
    (hGrown : middle <:+ later) : Wrote server earlier later channelId updater result record :=
  ⟨hWrote.shown.mono hGrown, hWrote.ran, hWrote.follows⟩

variable (server requests) in
/-- The update makes a reservation, or a move of the newest record. -/
structure Moves (history : SessionHistory Caller) (channelId : String)
    (updater : Updater UpdateFailure Result) : Prop where
  reserves : ∀ time result record, updater time none = .ok (result, record) →
    server.Reserved channelId record
  moves : ∀ time state result record, Newest server history channelId state →
    updater time (some state) = .ok (result, record) →
      RecordMove server (knownOf server requests history) channelId time state record

theorem keeps_step_update {updater : Updater UpdateFailure Result}
    (hMoves : Moves server requests before.history channelId updater)
    (hInterferes : Interferes (Consistent server requests) caller before now)
    {reply : Except UpdateFailure (Result × ChannelState)} {state : SessionStore}
    (hEffect : Updated channelId updater now.state reply state) :
    Consistent server requests (now.record ⟨caller, .update channelId updater, reply⟩ state) ∧
      ∀ result record, reply = .ok (result, record) → Wrote server before.history
        (⟨caller, .update channelId updater, reply⟩ :: now.history) channelId updater result
          record := by
  have hSuffix := hInterferes.suffix
  have hMono : (knownOf server requests before.history).Le (knownOf server requests now.history) :=
    knownOf_mono hSuffix
  have hNewest : ∀ found, currentRecord now.state channelId = some found →
      Newest server before.history channelId found :=
    fun found hFound => (hInterferes.1.newest hFound).1.weaken hSuffix
  have hWritten : ∀ time result record,
      updater time (currentRecord now.state channelId) = .ok (result, record) →
        (∀ shownId shown, Shown [⟨caller, .update channelId updater, reply⟩] shownId shown →
          shownId = channelId ∧ shown = record) →
        Consistent server requests (now.record ⟨caller, .update channelId updater, reply⟩
          (now.state.write channelId ⟨time, record⟩)) := by
    intro time result record hRan hShows
    apply hInterferes.1.written _ _ _ hShows
    · intro hNone
      exact hMoves.reserves time result record (hNone ▸ hRan)
    · intro found hFound
      exact (hMoves.moves time found result record (hNewest found hFound)
        (hFound ▸ hRan)).mono hMono
  have hSilent : ∀ failure, reply = .error failure → ∀ shownId shown,
      ¬Shown [⟨caller, .update channelId updater, reply⟩] shownId shown := by
    rintro failure rfl shownId shown hShown
    cases hShown with
    | read hRead => cases List.mem_singleton.mp hRead
    | wrote hWrote => cases List.mem_singleton.mp hWrote
  cases hEffect with
  | @written time result record hRan =>
      have hKept := hWritten time result record hRan fun shownId shown hShown => by
        cases hShown with
        | read hRead => cases List.mem_singleton.mp hRead
        | wrote hWrote =>
            cases List.mem_singleton.mp hWrote
            exact ⟨rfl, rfl⟩
      refine ⟨hKept, ?_⟩
      intro answered written hReply
      cases hReply
      refine ⟨.wrote List.mem_cons_self, ⟨time, _, hRan, hNewest⟩, ?_⟩
      intro old hOld
      have hCurrent : currentRecord (now.state.write channelId ⟨time, record⟩) channelId =
          some record := by
        simp [currentRecord, SessionStore.write]
      have hNew := (hKept.newest hCurrent).1
      exact hNew.follows old (hOld.mono (hSuffix.trans (List.suffix_cons _ _)))
  | refused hRan =>
      refine ⟨hInterferes.1.answered _ fun shownId shown hShown =>
        absurd hShown (hSilent _ rfl _ _), ?_⟩
      intro result record hReply
      cases hReply
  | unavailable =>
      refine ⟨hInterferes.1.answered _ fun shownId shown hShown =>
        absurd hShown (hSilent _ rfl _ _), ?_⟩
      intro result record hReply
      cases hReply
  | @unanswered time result record error hRan =>
      refine ⟨hWritten time result record hRan fun shownId shown hShown =>
        absurd hShown (hSilent _ rfl _ _), ?_⟩
      intro result record hReply
      cases hReply

theorem keeps_update {updater : Updater UpdateFailure Result}
    (hMoves : Moves server requests before.history channelId updater) :
    Keeps server requests caller (Fallible.request (SessionCall.update channelId updater))
      (fun reply world => ∀ result record, reply = .ok (result, record) →
        Wrote server before.history world.history channelId updater result record) before := by
  intro now hInterferes
  refine ⟨trivial, ?_⟩
  intro reply state hEffect hAllowed
  rcases keeps_step_update hMoves hInterferes hEffect with ⟨hKept, hWrote⟩
  refine ⟨hKept, ?_⟩
  intro later hLater result record hReply
  exact (hWrote result record hReply).mono hLater.suffix

theorem keeps_await_update {updater : Updater UpdateFailure Result} {Value : Type}
    {outcome : Except UpdateFailure (Result × ChannelState) → Except SessionError Value}
    (hMoves : Moves server requests before.history channelId updater) :
    Keeps server requests caller (Fallible.await (SessionCall.update channelId updater) outcome)
      (fun value world => ∃ reply, outcome reply = .ok value ∧
        ∀ result record, reply = .ok (result, record) →
          Wrote server before.history world.history channelId updater result record) before := by
  refine Environment.ensures_await (fun reply world => ∀ result record,
    reply = .ok (result, record) →
      Wrote server before.history world.history channelId updater result record) ?_ ?_
  · intro now hInterferes reply state hEffect hAllowed
    exact keeps_step_update hMoves hInterferes hEffect
  · intro reply value world later hMiddle hValue hLater
    exact ⟨reply, hValue, fun result record hReply =>
      (hMiddle result record hReply).mono hLater.suffix⟩

/-! ### Through the policy -/

section

variable [DecidableEq Scope]

theorem keeps_getChannel : Keeps server requests caller (server.getChannel channelId)
    (fun found world => ∀ state, found = some state →
      Read server caller before.history world.history channelId state) before := by
  refine keeps_read.weaken ?_
  rintro found world - - ⟨reply, hFound, hRead⟩ state rfl
  simp only [mapError_eq_ok, bind_eq_ok, pure, Except.pure, Except.ok.injEq] at hFound
  rcases hFound with ⟨value, rfl, -, -, rfl⟩
  exact hRead state rfl

omit [DecidableEq Scope] in
theorem keeps_innerChannel : Keeps server requests caller (RequestServer.innerChannel channelId)
    (fun found world => ∀ state, found = some state →
      Read server caller before.history world.history channelId state) before := by
  refine keeps_read.weaken ?_
  rintro found world - - ⟨reply, hFound, hRead⟩ state rfl
  simp only [mapError_eq_ok] at hFound
  exact hRead state hFound

theorem keeps_existing (hBefore : Consistent server requests before) :
    Keeps server requests caller (server.existing channelId)
      (fun state world => Read server caller before.history world.history channelId state)
      before := by
  refine Environment.ensures_bind hBefore keeps_getChannel ?_
  intro found world hConsistent hGrown hRead
  apply Environment.ensures_ofExcept
  intro state hState later hLater
  simp only [okOr_eq_ok] at hState
  exact ⟨hLater.suffix.mem (hRead state hState).told, (hRead state hState).newest⟩

variable (server requests) in
/-- What the update of a record within the policy has to be. -/
structure BoundMoves (history : SessionHistory Caller) (channelId : String)
    (updater : Updater UpdateFailure Result) : Prop where
  absent : ∀ time result record, updater time none ≠ .ok (result, record)
  moves : ∀ time state result record, Newest server history channelId state →
    sessionOpenIsTerminal state = false → opensChannel state = false →
    updater time (some state) = .ok (result, record) →
      RecordMove server (knownOf server requests history) channelId time state record

theorem BoundMoves.bound {history : SessionHistory Caller}
    {updater : Updater UpdateFailure Result}
    (hMoves : BoundMoves server requests history channelId updater) :
    Moves server requests history channelId (server.bound updater) where
  reserves time result record hRan := by
    exact absurd (bound_eq_ok hRan).2.1 (hMoves.absent time result record)
  moves time state result record hNewest hRan := by
    rcases bound_eq_ok hRan with ⟨hExisting, hUpdated, -⟩
    rcases check_eq_ok hExisting with ⟨hLive, hFunded⟩
    exact hMoves.moves time state result record hNewest hLive hFunded hUpdated

/-- An answered update within the policy ran its closure on a record. -/
structure BoundWrote (server : RequestServer Scope) (earlier later : SessionHistory Caller)
    (channelId : String) (updater : Updater StoreError Result) (result : Result)
    (record : ChannelState) : Prop where
  shown : Shown later channelId record
  ran : ∃ time found, updater time found = .ok (result, record) ∧
    ∀ state, found = some state → Newest server earlier channelId state
  follows : ∀ old, Shown earlier channelId old → Follows old record

theorem keeps_server_update {updater : Updater StoreError Result}
    (hMoves : BoundMoves server requests before.history channelId (plainly updater)) :
    Keeps server requests caller (server.update channelId updater)
      (fun answer world => BoundWrote server before.history world.history channelId updater
        answer.1 answer.2) before := by
  refine (keeps_await_update hMoves.bound).weaken ?_
  rintro ⟨result, record⟩ world - - ⟨reply, hValue, hWrote⟩
  have hReply : reply = .ok (result, record) := mapError_eq_ok.mp hValue
  have hWritten := hWrote result record hReply
  rcases hWritten.ran with ⟨time, found, hRan, hNewest⟩
  exact ⟨hWritten.shown, ⟨time, found, plainly_eq_ok.mp (bound_eq_ok hRan).2.1, hNewest⟩,
    hWritten.follows⟩

theorem keeps_mutate {mutator : ℕ → ChannelState → Except StoreError (Result × ChannelState)}
    (hMoves : ∀ time state result record, Newest server before.history channelId state →
      opensChannel state = false → mutator time state = .ok (result, record) →
        RecordMove server (knownOf server requests before.history) channelId time state record) :
    Keeps server requests caller (server.mutate channelId mutator) (fun _ _ => True) before := by
  refine (keeps_server_update ?_).trivially
  constructor
  · intro time result record hRan
    simp [plainly_eq_ok, bind_eq_ok] at hRan
  · intro time state result record hNewest hLive hFunded hRan
    simp only [plainly_eq_ok, bind_eq_ok, okOr_eq_ok, Option.some.injEq] at hRan
    rcases hRan with ⟨_, rfl, hMutated⟩
    exact hMoves time state result record hNewest hFunded hMutated

end

end PayKit.Session
