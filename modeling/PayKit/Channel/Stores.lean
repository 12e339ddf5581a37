import PayKit.Channel.Authorization
import PayKit.Control.Refusal

/-!
# Two channel stores

`MemoryChannelStore` and `RedisChannelStore` of `core/store.rs`, with the two
operations of the `ChannelStore` trait that change a record in place:
`mutate_channel` and `reserve_authorization`, which is built on it. The memory
store lets the mutator work on the stored record; the Redis store decodes a copy,
lets the mutator work on that, and writes it back by compare-and-set.

The two should be interchangeable. They are, unless a mutator fails after it has
touched the record, or fails on a channel that was absent: the memory store then
keeps what the mutator left, and the seed it was given.

The JSON codec of a record belongs to `serde_json` and is a parameter. Redis is
a map from keys to texts on which the scripts of the store are atomic.
-/

namespace PayKit.Channel

open Control Store

/-- A step on a record. It leaves a record also when it fails; what the source's
closure reports through a captured variable is its result. -/
abbrev ChannelMutator (Result : Type) := ChannelState → Except StoreError Result × ChannelState

def channelNotFound : StoreError :=
  .internal "Channel not found"

namespace ChannelState

/-- The record without its schema version. -/
def unstamped (state : ChannelState) : ChannelState :=
  { state with schemaVersion := 0 }

/-- The record stamped with the version of this writer. -/
def stamped (state : ChannelState) : ChannelState :=
  { state with schemaVersion := channelStateSchemaVersion }

@[simp]
theorem unstamped_stamped (state : ChannelState) : state.stamped.unstamped = state.unstamped :=
  rfl

end ChannelState

/-- The in-memory store: a record for each channel id. -/
abbrev MemoryChannelStore := String → Option ChannelState

namespace MemoryChannelStore

variable (store : MemoryChannelStore)

def getChannel (channelId : String) : Except StoreError (Option ChannelState) :=
  .ok (store channelId)

/-- `mutate_channel`: the mutator works on the stored record; a seed is inserted
first. -/
def mutateChannel {Result : Type} (channelId : String) (seed : Option ChannelState)
    (mutator : ChannelMutator Result) : Except StoreError Result × MemoryChannelStore :=
  match store channelId with
  | some state => ((mutator state).1, Function.update store channelId (some (mutator state).2))
  | none =>
      match seed with
      | some seed => ((mutator seed).1, Function.update store channelId (some (mutator seed).2))
      | none => (.error channelNotFound, store)

def reserveAuthorization (channelId : String) (seed : Option ChannelState)
    (request : AuthorizationRequest)
    (prepare : ChannelState → Except StoreError (Option PendingSetup)) :
    Except StoreError BatchReservation × MemoryChannelStore :=
  store.mutateChannel channelId seed fun state => state.reserveAuthorizationStaged request prepare

end MemoryChannelStore

/-- The JSON codec of channel records: `serde_json::to_string` and `from_str`. -/
structure Codec where
  toJson : ChannelState → Except String String
  fromJson : String → Except String ChannelState

namespace Codec

variable (codec : Codec)

/-- The codec writes this record as a text that it reads back. -/
def ReadsBack (state : ChannelState) : Prop :=
  ∃ raw, codec.toJson state = .ok raw ∧ codec.fromJson raw = .ok state

/-- Decode a stored record, refusing one that a newer schema has written. -/
def decode (raw : String) : Except StoreError ChannelState := do
  let state ← (codec.fromJson raw).mapError StoreError.serialization
  refuseIf (channelStateSchemaVersion < state.schemaVersion)
    (.serialization (s!"channel record schema_version {state.schemaVersion} is newer than this " ++
      s!"writer's {channelStateSchemaVersion}; refusing lossy decode"))
  return state

/-- Stamp this writer's schema version and encode for persistence. -/
def encodeForWrite (state : ChannelState) : Except StoreError (String × ChannelState) := do
  let raw ← (codec.toJson state.stamped).mapError StoreError.serialization
  return (raw, state.stamped)

end Codec

/-- The Redis store: its namespace and the texts Redis holds. -/
structure RedisChannelStore where
  keyPrefix : String
  entries : String → Option String

namespace RedisChannelStore

variable (codec : Codec) (store : RedisChannelStore)

def key (channelId : String) : String :=
  store.keyPrefix ++ channelId

def getRaw (channelId : String) : Option String :=
  store.entries (store.key channelId)

def getChannel (channelId : String) : Except StoreError (Option ChannelState) :=
  match store.getRaw channelId with
  | none => .ok none
  | some raw => (codec.decode raw).map some

/-- The compare-and-set script: write if the key still holds what was read. -/
def compareAndSet (channelId : String) (expected : Option String) (newValue : String) :
    Bool × RedisChannelStore :=
  if store.entries (store.key channelId) = expected then
    (true, { store with
      entries := Function.update store.entries (store.key channelId) (some newValue) })
  else (false, store)

/-- `mutate_channel`: decode, mutate the copy, write it back. -/
def mutateChannel {Result : Type} (channelId : String) (seed : Option ChannelState)
    (mutator : ChannelMutator Result) : Except StoreError Result × RedisChannelStore :=
  let currentRaw := store.getRaw channelId
  match store.getChannel codec channelId with
  | .error error => (.error error, store)
  | .ok current =>
      match current.or seed with
      | none => (.error channelNotFound, store)
      | some state =>
          match mutator state with
          | (.error error, _) => (.error error, store)
          | (.ok result, mutated) =>
              match codec.encodeForWrite mutated with
              | .error error => (.error error, store)
              | .ok (newRaw, _) =>
                  let written := store.compareAndSet channelId currentRaw newRaw
                  if written.1 then (.ok result, written.2)
                  else
                    (.error (.internal "Concurrent channel update; retry the request"),
                      written.2)

def reserveAuthorization (channelId : String) (seed : Option ChannelState)
    (request : AuthorizationRequest)
    (prepare : ChannelState → Except StoreError (Option PendingSetup)) :
    Except StoreError BatchReservation × RedisChannelStore :=
  store.mutateChannel codec channelId seed fun state =>
    state.reserveAuthorizationStaged request prepare

end RedisChannelStore

/-! ## Comparing the two -/

section

variable {codec : Codec} {memory : MemoryChannelStore} {redis : RedisChannelStore}
  {Result : Type} {channelId : String} {seed : Option ChannelState}
  {mutator : ChannelMutator Result}

/-- The Redis store holds the same records. -/
def RedisChannelStore.Holds (redis : RedisChannelStore) (codec : Codec)
    (memory : MemoryChannelStore) : Prop :=
  ∀ channelId, redis.getChannel codec channelId = .ok (memory channelId)

/-- Both stores return the same and hold the same records, up to the version stamp. -/
def Agree (codec : Codec) (inMemory : Except StoreError Result × MemoryChannelStore)
    (inRedis : Except StoreError Result × RedisChannelStore) : Prop :=
  inMemory.1 = inRedis.1 ∧ ∀ channelId, ∃ found,
    inRedis.2.getChannel codec channelId = .ok found ∧
      (inMemory.2 channelId).map ChannelState.unstamped = found.map ChannelState.unstamped

/-- The mutator fails only on a record that was stored, and then leaves it as it was. -/
def LeavesOnError (memory : MemoryChannelStore) (channelId : String) (seed : Option ChannelState)
    (mutator : ChannelMutator Result) : Prop :=
  ∀ state error left, (memory channelId).or seed = some state →
    mutator state = (.error error, left) →
      memory channelId = some state ∧ left.unstamped = state.unstamped

/-- The record a mutator writes reads back. -/
def WritesBack (codec : Codec) (memory : MemoryChannelStore) (channelId : String)
    (seed : Option ChannelState) (mutator : ChannelMutator Result) : Prop :=
  ∀ state result mutated, (memory channelId).or seed = some state →
    mutator state = (.ok result, mutated) → codec.ReadsBack mutated.stamped

namespace MemoryChannelStore

theorem mutateChannel_of_missing (hMissing : (memory channelId).or seed = none) :
    memory.mutateChannel channelId seed mutator = (.error channelNotFound, memory) := by
  rcases Option.or_eq_none_iff.mp hMissing with ⟨hAbsent, hUnseeded⟩
  simp only [mutateChannel, hAbsent, hUnseeded]

theorem mutateChannel_of_some {state : ChannelState}
    (hState : (memory channelId).or seed = some state) :
    memory.mutateChannel channelId seed mutator =
      ((mutator state).1, Function.update memory channelId (some (mutator state).2)) := by
  simp only [mutateChannel]
  cases hStored : memory channelId with
  | some stored =>
      rw [hStored, Option.some_or] at hState
      cases hState
      rfl
  | none =>
      rw [hStored, Option.none_or] at hState
      rw [hState]

end MemoryChannelStore

namespace RedisChannelStore

theorem key_injective {first second : String} (hKey : redis.key first = redis.key second) :
    first = second := by
  simpa [key, ← String.toList_inj] using hKey

theorem compareAndSet_getRaw (newValue : String) :
    redis.compareAndSet channelId (redis.getRaw channelId) newValue =
      (true, { redis with
        entries := Function.update redis.entries (redis.key channelId) (some newValue) }) := by
  simp [compareAndSet, getRaw]

theorem getChannel_write_self {newValue : String} :
    ({ redis with entries := Function.update redis.entries (redis.key channelId) (some newValue) } :
      RedisChannelStore).getChannel codec channelId = (codec.decode newValue).map some := by
  simp [getChannel, getRaw, key]

theorem getChannel_write_of_ne {newValue other : String} (hOther : other ≠ channelId) :
    ({ redis with entries := Function.update redis.entries (redis.key channelId) (some newValue) } :
      RedisChannelStore).getChannel codec other = redis.getChannel codec other := by
  have hKey : redis.key other ≠ redis.key channelId := fun hSame => hOther (key_injective hSame)
  simp only [getChannel, getRaw, key] at hKey ⊢
  rw [Function.update_of_ne hKey]

end RedisChannelStore

theorem Codec.ReadsBack.decode {state : ChannelState} {raw : String}
    (hRaw : codec.fromJson raw = .ok state.stamped) : codec.decode raw = .ok state.stamped := by
  simp [Codec.decode, hRaw, mapError_ok, refuseIf, ChannelState.stamped,
    bind, Except.bind, pure, Except.pure]

namespace RedisChannelStore

variable {state mutated : ChannelState} {error : StoreError} {result : Result}

theorem mutateChannel_of_missing (hHolds : redis.Holds codec memory)
    (hMissing : (memory channelId).or seed = none) :
    redis.mutateChannel codec channelId seed mutator = (.error channelNotFound, redis) := by
  simp only [mutateChannel, hHolds channelId, hMissing]

theorem mutateChannel_of_error (hHolds : redis.Holds codec memory)
    (hState : (memory channelId).or seed = some state)
    (hMutated : mutator state = (.error error, mutated)) :
    redis.mutateChannel codec channelId seed mutator = (.error error, redis) := by
  simp only [mutateChannel, hHolds channelId, hState, hMutated]

theorem mutateChannel_of_ok (hHolds : redis.Holds codec memory)
    (hState : (memory channelId).or seed = some state)
    (hMutated : mutator state = (.ok result, mutated)) (hReads : codec.ReadsBack mutated.stamped) :
    ∃ written, redis.mutateChannel codec channelId seed mutator = (.ok result, written) ∧
      written.Holds codec (Function.update memory channelId (some mutated.stamped)) := by
  rcases hReads with ⟨raw, hEncoded, hDecoded⟩
  have hEncode : codec.encodeForWrite mutated = .ok (raw, mutated.stamped) := by
    simp [Codec.encodeForWrite, hEncoded, mapError_ok, bind, Except.bind, pure, Except.pure]
  simp only [mutateChannel, hHolds channelId, hState, hMutated, hEncode, compareAndSet_getRaw,
    if_true]
  refine ⟨_, rfl, fun other => ?_⟩
  by_cases hOther : other = channelId
  · subst hOther
    rw [getChannel_write_self, Codec.ReadsBack.decode hDecoded, Function.update_self]
    rfl
  · rw [getChannel_write_of_ne hOther, Function.update_of_ne hOther]
    exact hHolds other

end RedisChannelStore

theorem agree_of_holds {stored : MemoryChannelStore} {result : Except StoreError Result}
    (hHolds : redis.Holds codec stored)
    (hSame : ∀ id, (memory id).map ChannelState.unstamped =
      (stored id).map ChannelState.unstamped) :
    Agree codec (result, memory) (result, redis) :=
  ⟨rfl, fun id => ⟨stored id, hHolds id, hSame id⟩⟩

theorem mutateChannel_agree_iff (hHolds : redis.Holds codec memory)
    (hWrites : WritesBack codec memory channelId seed mutator) :
    Agree codec (memory.mutateChannel channelId seed mutator)
        (redis.mutateChannel codec channelId seed mutator) ↔
      LeavesOnError memory channelId seed mutator := by
  cases hState : (memory channelId).or seed with
  | none =>
      rw [MemoryChannelStore.mutateChannel_of_missing hState,
        RedisChannelStore.mutateChannel_of_missing hHolds hState]
      refine iff_of_true (agree_of_holds hHolds fun _ => rfl) ?_
      intro state error left hSome
      simp [hState] at hSome
  | some state =>
      rw [MemoryChannelStore.mutateChannel_of_some hState]
      rcases hMutated : mutator state with ⟨outcome, mutated⟩
      cases outcome with
      | ok result =>
          rcases RedisChannelStore.mutateChannel_of_ok hHolds hState hMutated
            (hWrites state result mutated hState hMutated) with ⟨written, hWritten, hAfter⟩
          rw [hWritten]
          refine iff_of_true (agree_of_holds hAfter fun id => ?_) ?_
          · by_cases hId : id = channelId
            · subst hId
              simp
            · simp [Function.update_of_ne hId]
          · intro other error left hOther hError
            rw [hState] at hOther
            cases hOther
            rw [hMutated] at hError
            cases hError
      | error error =>
          rw [RedisChannelStore.mutateChannel_of_error hHolds hState hMutated]
          constructor
          · rintro ⟨-, hSame⟩ other failure left hOther hError
            rw [hState] at hOther
            cases hOther
            rw [hMutated] at hError
            cases hError
            rcases hSame channelId with ⟨found, hFound, hEqual⟩
            rw [hHolds channelId] at hFound
            cases hFound
            simp only [Function.update_self, Option.map_some] at hEqual
            rcases Option.map_eq_some_iff.mp hEqual.symm with ⟨stored, hStored, hLeft⟩
            rw [hStored, Option.some_or] at hState
            cases hState
            exact ⟨hStored, hLeft.symm⟩
          · intro hLeaves
            rcases hLeaves state error mutated hState hMutated with ⟨hStored, hLeft⟩
            refine agree_of_holds hHolds fun id => ?_
            by_cases hId : id = channelId
            · subst hId
              simp [hStored, hLeft]
            · simp [Function.update_of_ne hId]

/-- The preparation of a reservation does not fail on a seed for an absent channel,
when the seed is not refused before. -/
def PreparesSeed (memory : MemoryChannelStore) (channelId : String) (seed : Option ChannelState)
    (request : AuthorizationRequest)
    (prepare : ChannelState → Except StoreError (Option PendingSetup)) : Prop :=
  memory channelId = none → ∀ state, seed = some state →
    state.refuseReservation request = none → ∀ error, prepare state ≠ .error error

theorem ChannelState.reserveAuthorizationStaged_eq_error {state left : ChannelState}
    {request : AuthorizationRequest}
    {prepare : ChannelState → Except StoreError (Option PendingSetup)} {error : StoreError} :
    state.reserveAuthorizationStaged request prepare = (.error error, left) ↔
      state.refuseReservation request = none ∧ prepare state = .error error ∧ left = state := by
  simp only [reserveAuthorizationStaged]
  cases state.refuseReservation request with
  | some refused => simp
  | none =>
      cases prepare state with
      | error failure => simp [eq_comm]
      | ok setup => cases setup <;> simp

theorem leavesOnError_reserve_iff {request : AuthorizationRequest}
    {prepare : ChannelState → Except StoreError (Option PendingSetup)} :
    LeavesOnError memory channelId seed
        (fun state => state.reserveAuthorizationStaged request prepare) ↔
      PreparesSeed memory channelId seed request prepare := by
  simp only [LeavesOnError, ChannelState.reserveAuthorizationStaged_eq_error]
  constructor
  · intro hLeaves hAbsent state hSeed hCleared error hRefused
    have hStored := (hLeaves state error state (by simp [hAbsent, hSeed])
      ⟨hCleared, hRefused, rfl⟩).1
    rw [hAbsent] at hStored
    cases hStored
  · rintro hPrepares state error left hState ⟨hCleared, hRefused, rfl⟩
    refine ⟨?_, rfl⟩
    cases hStored : memory channelId with
    | some stored => simpa [hStored] using hState
    | none =>
        rw [hStored, Option.none_or] at hState
        exact absurd hRefused (hPrepares hStored left hState hCleared error)

end

/-! ## Two cases -/

/-- The text `serde_json` writes for `openedChannel`. -/
def openedChannelJson : String :=
  "\x7b\"channel_id\":\"channel\",\"authorized_signer\":\"signer\",\"deposit\":1000," ++
    "\"cumulative\":0,\"sealed\":false,\"highest_voucher_signature\":null," ++
    "\"highest_voucher_expires_at\":null,\"close_requested_at\":null,\"open_slot\":1," ++
    "\"payer\":\"payer\",\"rent_payer\":\"payer\",\"opening_challenge_id\":\"challenge\"," ++
    "\"authentication\":null,\"voucher_signer\":\"client\",\"idle_timeout_seconds\":null," ++
    "\"last_activity_at\":0,\"spent_amount\":0,\"settled_on_chain\":0," ++
    "\"distributed_on_chain\":0,\"processed_uses\":[],\"processed_topup_signatures\":[]," ++
    "\"next_delivery_sequence\":0,\"pending_deliveries\":[],\"committed_deliveries\":[]," ++
    "\"pending_setup\":null,\"onchain_checked_at\":0,\"lifecycle\":null," ++
    "\"schema_version\":2\x7d"

/-- What the codec does with `openedChannel` and its text. -/
def openedChannelCodec : Codec where
  toJson _ := .ok openedChannelJson
  fromJson raw := if raw = openedChannelJson then .ok openedChannel else .error "expected value"

/-- Both stores with the record of one opened channel. -/
def oneInMemory : MemoryChannelStore :=
  fun id => if id = "channel" then some openedChannel else none

def oneInRedis : RedisChannelStore where
  keyPrefix := "4:test:"
  entries key := if key = "4:test:channel" then some openedChannelJson else none

theorem openedChannelCodec_fromJson :
    openedChannelCodec.fromJson openedChannelJson = .ok openedChannel.stamped := by
  simp only [openedChannelCodec, if_true]
  rfl

theorem openedChannelCodec_readsBack : openedChannelCodec.ReadsBack openedChannel.stamped :=
  ⟨openedChannelJson, rfl, openedChannelCodec_fromJson⟩

theorem openedChannelCodec_decode :
    openedChannelCodec.decode openedChannelJson = .ok openedChannel :=
  Codec.ReadsBack.decode openedChannelCodec_fromJson

theorem oneInRedis_holds : oneInRedis.Holds openedChannelCodec oneInMemory := by
  intro id
  simp only [RedisChannelStore.getChannel, RedisChannelStore.getRaw, RedisChannelStore.key,
    oneInRedis, oneInMemory]
  by_cases hId : id = "channel"
  · subst hId
    have hKey : "4:test:" ++ "channel" = "4:test:channel" := by decide
    simp only [hKey, if_true, openedChannelCodec_decode]
    rfl
  · have hKey : "4:test:" ++ id ≠ "4:test:channel" := by
      intro hSame
      apply hId
      have hLists := congrArg String.toList hSame
      simp only [String.toList_append] at hLists
      rw [← String.toList_inj]
      exact List.append_cancel_left (hLists : _ = "4:test:".toList ++ "channel".toList)
    simp only [hId, hKey, if_false]

/-- A mutator that leaves the record as it is. -/
def readOnly : ChannelMutator Unit :=
  fun state => (.ok (), state)

/-- A mutator that refuses the record untouched. -/
def refuseUntouched : ChannelMutator Unit :=
  fun state => (.error (.internal "refused"), state)

/-- A mutator that seals the record and then fails. -/
def sealThenRefuse : ChannelMutator Unit :=
  fun state => (.error (.internal "refused"), state.markSealed)

def nothingInMemory : MemoryChannelStore :=
  fun _ => none

def nothingInRedis : RedisChannelStore :=
  { oneInRedis with entries := fun _ => none }

end PayKit.Channel
