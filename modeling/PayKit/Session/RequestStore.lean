import PayKit.Session.RequestWrites

/-!
# The store under the request server

Any number of requests run against one store, which keeps the records of every channel, newest
first. A read answers with the newest one. An update runs its closure on the newest one at once,
and the store may fail before it or, when the failure is in its own answer, after it. Everything
else that a program asks for is answered arbitrarily, save that a signer signs what it is given.

What the server knows is read off the history of calls. The invariant of a run is that the
records of every channel are a history of moves under that knowledge, and that the store shows
no record that it does not hold.
-/

namespace PayKit.Session

open Accounting Channel Concurrency Control Encoding Machine Store
open RequestServer (checkToppedUp)

/-- The records of every channel, newest first. -/
abbrev SessionStore := String → List Held

def currentRecord (store : SessionStore) (channelId : String) : Option ChannelState :=
  (store channelId).head?.map Held.record

def SessionStore.write (store : SessionStore) (channelId : String) (held : Held) : SessionStore :=
  Function.update store channelId (held :: store channelId)

inductive Updated {Result : Type} (channelId : String) (updater : Updater UpdateFailure Result)
    (before : SessionStore) : Except UpdateFailure (Result × ChannelState) → SessionStore → Prop
  where
  | written {time : ℕ} {result : Result} {record : ChannelState}
      (ran : updater time (currentRecord before channelId) = .ok (result, record)) :
      Updated channelId updater before (.ok (result, record))
        (before.write channelId ⟨time, record⟩)
  | refused {time : ℕ} {failure : UpdateFailure}
      (ran : updater time (currentRecord before channelId) = .error failure) :
      Updated channelId updater before (.error failure) before
  | unavailable {error : StoreError} :
      Updated channelId updater before (.error (.failed error)) before
  /-- The record was written, and the answer of the store was lost. -/
  | unanswered {time : ℕ} {result : Result} {record : ChannelState} {error : StoreError}
      (ran : updater time (currentRecord before channelId) = .ok (result, record)) :
      Updated channelId updater before (.error (.failed error))
        (before.write channelId ⟨time, record⟩)

def sessionEffect :
    (call : SessionCall) → SessionStore → SessionReply call → SessionStore → Prop
  | .getChannel channelId, before, reply, after =>
      after = before ∧ ∀ found, reply = .ok found → found = currentRecord before channelId
  | @SessionCall.update Result channelId updater, before, reply, after =>
      @Updated Result channelId updater before reply after
  | _, before, _, after => after = before

/-- A call that leaves the store alone. -/
def SessionCall.Quiet : SessionCall → Prop
  | .getChannel _ => False
  | .update _ _ => False
  | _ => True

section

variable {Scope : Type} (server : RequestServer Scope)

/-- What a signer returns is a signature of what it was given. -/
def RequestServer.Honest : (call : SessionCall) → SessionReply call → Prop
  | .sign signer data, reply => ∀ signature cumulative, reply = .ok signature →
      parseU64 data.cumulativeAmount = some cumulative →
      server.Signed data.channelId cumulative (data.expiresAt.getD 0) signature signer
  | _, _ => True

def RequestServer.environment {Caller : Type} :
    Environment Caller SessionStore SessionCall SessionReply where
  effect := sessionEffect
  allowed _ event := server.Honest event.call event.reply

/-! ## Knowledge -/

variable {Caller : Type}

/-- What has been called, and answered. -/
abbrev SessionHistory (Caller : Type) := List (Event Caller SessionCall SessionReply)

abbrev SessionWorld (Caller : Type) := World Caller SessionStore SessionCall SessionReply

/-- The request asks for this total on the request of the challenge and the key. -/
def SessionRequest.Asks (channelId challengeId key : String) (total : ℕ) : SessionRequest → Prop
  | .use payload challenge idempotencyKey =>
      payload.channelId = channelId ∧ challenge = challengeId ∧ idempotencyKey = key ∧
        server.amount = total
  | .charge authenticated _ requestTotal _ =>
      authenticated.channelId = channelId ∧ authenticated.challengeId = challengeId ∧
        authenticated.idempotencyKey = key ∧ requestTotal = total
  | _ => False

/-- The request opens the channel with this deposit, or resumes an open of it. -/
def SessionRequest.Opens (history : SessionHistory Caller) (caller : Caller) (channelId : String)
    (deposit : ℕ) : SessionRequest → Prop
  | .openChannel payload context => payload.channelId = channelId ∧ ∃ validated,
      server.validateOpenRequest payload context = .ok validated ∧ validated.deposit = deposit
  | .resumeOpen resumed => resumed = channelId ∧ ∃ state intent validated,
      ⟨caller, .getChannel channelId, .ok (some state)⟩ ∈ history ∧
        server.pendingIntent channelId state = .ok intent ∧
        server.validateOpenRequest intent.payload intent.context = .ok validated ∧
        validated.deposit = deposit
  | _ => False

/-- The request tops the channel up by this amount. -/
def SessionRequest.TopsUp (channelId signature : String) (amount : ℕ) : SessionRequest → Prop
  | .topUp payload => payload.channelId = channelId ∧
      parseU64 payload.additionalAmount = some amount ∧
      ∃ existing, server.prepareTopUp payload existing = .ok (some signature)
  | _ => False

/-- What the requests and the history of calls tell. -/
def knownOf (requests : Caller → SessionRequest) (history : SessionHistory Caller) : Knowledge where
  asked channelId challengeId key total :=
    ∃ caller, (requests caller).Asks server channelId challengeId key total
  sawOpen channelId now := ∃ caller slot read shownAt newer older,
    history = newer ++ ⟨caller, .readAccount channelId slot, .ok (some read, shownAt)⟩ :: older ∧
      ⟨caller, .clock, now⟩ ∈ older ∧ lifecycleOfChannel read now = .opened
  landed channelId deposit := ∃ caller freshOpen floor signature settled,
    ⟨caller, .submitOpen channelId freshOpen floor, .ok (.landed signature settled)⟩ ∈ history ∧
      (requests caller).Opens server history caller channelId deposit
  paid channelId settled :=
    (∃ caller slot read shownAt,
      ⟨caller, .readAccount channelId slot, .ok (some read, shownAt)⟩ ∈ history ∧
        read.settled = settled) ∨
    ∃ caller freshOpen floor signature,
      ⟨caller, .submitOpen channelId freshOpen floor, .ok (.landed signature settled)⟩ ∈ history
  finalized channelId signature amount := ∃ caller slot found existing,
    (requests caller).TopsUp server channelId signature amount ∧
      ⟨caller, .submitTopUp signature, .ok slot⟩ ∈ history ∧
      ⟨caller, .readFinalized channelId slot, .ok found⟩ ∈ history ∧
      checkToppedUp existing amount found = .ok ()

variable {server} {requests : Caller → SessionRequest} {older newer : SessionHistory Caller}

theorem opens_mono (hGrown : older <:+ newer) {caller : Caller} {channelId : String}
    {deposit : ℕ} {request : SessionRequest}
    (hOpens : request.Opens server older caller channelId deposit) :
    request.Opens server newer caller channelId deposit := by
  cases request with
  | resumeOpen resumed =>
      rcases hOpens with ⟨hSame, state, intent, validated, hRead, hPending, hValid⟩
      exact ⟨hSame, state, intent, validated, hGrown.mem hRead, hPending, hValid⟩
  | _ => exact hOpens

theorem knownOf_mono (hGrown : older <:+ newer) :
    (knownOf server requests older).Le (knownOf server requests newer) where
  asked _ _ _ _ hAsked := hAsked
  sawOpen := by
    rintro channelId now ⟨caller, slot, read, shownAt, after, before, rfl, hClock, hOpen⟩
    rcases hGrown with ⟨newest, rfl⟩
    refine ⟨caller, slot, read, shownAt, newest ++ after, before, ?_, hClock, hOpen⟩
    rw [List.append_assoc]
  landed := by
    rintro channelId deposit ⟨caller, freshOpen, floor, signature, settled, hLanded, hOpens⟩
    exact ⟨caller, freshOpen, floor, signature, settled, hGrown.mem hLanded,
      opens_mono hGrown hOpens⟩
  paid := by
    rintro channelId settled (⟨caller, slot, read, shownAt, hRead, hSettled⟩ |
      ⟨caller, freshOpen, floor, signature, hLanded⟩)
    · exact .inl ⟨caller, slot, read, shownAt, hGrown.mem hRead, hSettled⟩
    · exact .inr ⟨caller, freshOpen, floor, signature, hGrown.mem hLanded⟩
  finalized := by
    rintro channelId signature amount
      ⟨caller, slot, found, existing, hTops, hSubmitted, hRead, hDone⟩
    exact ⟨caller, slot, found, existing, hTops, hGrown.mem hSubmitted, hGrown.mem hRead, hDone⟩

/-! ## The invariant -/

/-- The store showed this record of the channel, to a read or after an update. -/
inductive Shown (history : SessionHistory Caller) (channelId : String) (state : ChannelState) :
    Prop where
  | read {caller : Caller}
      (happened : ⟨caller, .getChannel channelId, .ok (some state)⟩ ∈ history)
  | wrote {caller : Caller} {Result : Type} {updater : Updater UpdateFailure Result}
      {result : Result}
      (happened : ⟨caller, .update channelId updater, .ok (result, state)⟩ ∈ history)

theorem Shown.mono {channelId : String} {state : ChannelState} (hGrown : older <:+ newer)
    (hShown : Shown older channelId state) : Shown newer channelId state := by
  cases hShown with
  | read hRead => exact .read (hGrown.mem hRead)
  | wrote hWrote => exact .wrote (hGrown.mem hWrote)

variable (server requests) in
structure Consistent (world : SessionWorld Caller) : Prop where
  histories : ∀ channelId,
    RecordHistory server (knownOf server requests world.history) channelId (world.state channelId)
  shown : ∀ channelId state, Shown world.history channelId state →
    ∃ held ∈ world.state channelId, held.record = state

/-- The record is the newest one that was shown by then, and belongs to this server. -/
structure Newest (server : RequestServer Scope) (history : SessionHistory Caller)
    (channelId : String) (state : ChannelState) : Prop where
  follows : ∀ earlier, Shown history channelId earlier → Follows earlier state
  owned : server.Owns channelId state

variable {world before : SessionWorld Caller} {channelId : String} {caller : Caller}

theorem Consistent.newest (hConsistent : Consistent server requests world) {state : ChannelState}
    (hCurrent : currentRecord world.state channelId = some state) :
    Newest server world.history channelId state ∧
      ∃ held ∈ world.state channelId, held.record = state := by
  rw [currentRecord, Option.map_eq_some_iff] at hCurrent
  rcases hCurrent with ⟨held, hHead, rfl⟩
  rcases List.head?_eq_some_iff.mp hHead with ⟨earlier, hRecords⟩
  have hHistory := hConsistent.histories channelId
  rw [hRecords] at hHistory
  have hMem : held ∈ world.state channelId := hRecords ▸ List.mem_cons_self
  refine ⟨⟨?_, hHistory.owned held List.mem_cons_self⟩, held, hMem, rfl⟩
  intro earlier hShown
  rcases hConsistent.shown channelId earlier hShown with ⟨old, hOld, rfl⟩
  exact hHistory.follows old (hRecords ▸ hOld)

theorem Newest.weaken {state : ChannelState} (hGrown : older <:+ newer)
    (hNewest : Newest server newer channelId state) : Newest server older channelId state :=
  ⟨fun earlier hShown => hNewest.follows earlier (hShown.mono hGrown), hNewest.owned⟩

theorem shown_cons {event : Event Caller SessionCall SessionReply} {state : ChannelState}
    (hShown : Shown (event :: older) channelId state) :
    Shown [event] channelId state ∨ Shown older channelId state := by
  cases hShown with
  | read hRead =>
      rcases List.mem_cons.mp hRead with hNew | hOld
      · exact .inl (.read (List.mem_singleton.mpr hNew))
      · exact .inr (.read hOld)
  | wrote hWrote =>
      rcases List.mem_cons.mp hWrote with hNew | hOld
      · exact .inl (.wrote (List.mem_singleton.mpr hNew))
      · exact .inr (.wrote hOld)

theorem Consistent.answered (hConsistent : Consistent server requests world)
    (event : Event Caller SessionCall SessionReply)
    (hShows : ∀ channelId state, Shown [event] channelId state →
      ∃ held ∈ world.state channelId, held.record = state) :
    Consistent server requests (world.record event world.state) where
  histories channelId :=
    (hConsistent.histories channelId).mono (knownOf_mono (List.suffix_cons _ _))
  shown channelId state hShown := by
    rcases shown_cons hShown with hNew | hOld
    · exact hShows channelId state hNew
    · exact hConsistent.shown channelId state hOld

theorem Consistent.written (hConsistent : Consistent server requests world)
    (event : Event Caller SessionCall SessionReply) {time : ℕ} {record : ChannelState}
    (hReserved : currentRecord world.state channelId = none → server.Reserved channelId record)
    (hMove : ∀ state, currentRecord world.state channelId = some state →
      RecordMove server (knownOf server requests world.history) channelId time state record)
    (hShows : ∀ shownId state, Shown [event] shownId state →
      shownId = channelId ∧ state = record) :
    Consistent server requests
      (world.record event (world.state.write channelId ⟨time, record⟩)) := by
  have hMono : (knownOf server requests world.history).Le
      (knownOf server requests (event :: world.history)) :=
    knownOf_mono (List.suffix_cons _ _)
  constructor
  · intro written
    by_cases hSame : written = channelId
    · subst hSame
      have hHistory := hConsistent.histories written
      simp only [World.record_state, World.record_history, SessionStore.write,
        Function.update_self]
      cases hRecords : world.state written with
      | nil => exact .reserved (hReserved (by simp [currentRecord, hRecords]))
      | cons held earlier =>
          rw [hRecords] at hHistory
          have hFound : currentRecord world.state written = some held.record := by
            simp [currentRecord, hRecords]
          exact .wrote (hHistory.mono hMono) ((hMove _ hFound).mono hMono)
    · simp only [World.record_state, World.record_history, SessionStore.write,
        Function.update_of_ne hSame]
      exact (hConsistent.histories written).mono hMono
  · intro shownId state hShown
    simp only [World.record_state, SessionStore.write]
    rcases shown_cons hShown with hNew | hOld
    · rcases hShows shownId state hNew with ⟨rfl, rfl⟩
      exact ⟨⟨time, state⟩, by simp, rfl⟩
    · rcases hConsistent.shown shownId state hOld with ⟨held, hMem, hRecord⟩
      refine ⟨held, ?_, hRecord⟩
      by_cases hSame : shownId = channelId
      · subst hSame
        simp [hMem]
      · simpa [hSame] using hMem

end

end PayKit.Session
