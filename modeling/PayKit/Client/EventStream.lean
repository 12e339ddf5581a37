import PayKit.Arithmetic.Decimal
import PayKit.Control.Update
import PayKit.Streaming.LineReader

/-!
# Server-sent events

`SseDecoder` of `mpp/client/http_stream.rs`. A response comes in chunks, cut anywhere: within a
line, between a carriage return and its newline, within a character. The decoder keeps the bytes of
the line in progress and the fields of the event in progress, and it takes from each chunk the
lines that become complete.

A failure leaves the decoder as it is at that point, and a caller may go on with it. The text with
which the standard library refuses bytes that are no UTF-8 is a parameter.
-/

namespace PayKit.Client

open Control Machine Streaming Update

/-! ### The decoder -/

structure SseEvent where
  event : Option String
  data : String
  id : Option String
  retry : Option ℕ
deriving DecidableEq

structure PartialSseEvent where
  event : Option String := none
  data : String := ""
  id : Option String := none
  retry : Option ℕ := none
deriving DecidableEq

def maxSseLineBytes : ℕ :=
  1024 * 1024

def maxSseEventBytes : ℕ :=
  1024 * 1024

structure SseDecoder where
  buffer : List UInt8 := []
  current : PartialSseEvent := {}
deriving DecidableEq

def newline : UInt8 := 10

def carriageReturn : UInt8 := 13

/-- A method of the event in progress. -/
def onCurrent {Result : Type} (method : Update PartialSseEvent String Result) :
    Update SseDecoder String Result := fun decoder =>
  ((method decoder.current).1, { decoder with current := (method decoder.current).2 })

/-- The line without the carriage return at its end. -/
def withoutReturn (line : List UInt8) : List UInt8 :=
  if line.getLast? = some carriageReturn then line.dropLast else line

/-- The name of a field and its value, without the space before it. -/
def splitField (line : String) : String × String :=
  match line.toList.idxOf? ':' with
  | some index =>
      let value := line.toList.drop (index + 1)
      (String.ofList (line.toList.take index),
        String.ofList (if value.head? = some ' ' then value.tail else value))
  | none => (line, "")

def dispatchCurrent : Update PartialSseEvent String (Option SseEvent) := fun current =>
  if current.event = none ∧ current.data = "" ∧ current.id = none ∧ current.retry = none then
    (.ok none, current)
  else (.ok (some ⟨current.event, current.data, current.id, current.retry⟩), {})

/-- The `data` arm of `process_line`. -/
def appendData (value : String) : Update PartialSseEvent String Unit := do
  let held ← read (·.data)
  check (refuseIf (maxSseEventBytes < held.utf8ByteSize + value.utf8ByteSize + 1)
    s!"SSE event data exceeds {maxSseEventBytes} bytes")
  write fun current =>
    { current with data := (if held = "" then held else held ++ "\n") ++ value }

/-- What a field of an event does. A field with another name is skipped. -/
def processField (field value : String) : Update PartialSseEvent String Unit :=
  if field = "event" then write fun current => { current with event := some value }
  else if field = "data" then appendData value
  else if field = "id" then write fun current => { current with id := some value }
  else if field = "retry" then write fun current => { current with retry := parseU64 value }
  else pure ()

def processLine (line : String) : Update PartialSseEvent String (Option SseEvent) :=
  if line = "" then dispatchCurrent
  else if line.toList.head? = some ':' then pure none
  else do
    processField (splitField line).1 (splitField line).2
    return none

section

variable (utf8Error : List UInt8 → String)

def decodeLine (line : List UInt8) : Except String String :=
  okOr (String.fromUTF8? ⟨line.toArray⟩) ("SSE line is not valid UTF-8: " ++ utf8Error line)

namespace SseDecoder

def extendLine (bytes : List UInt8) : Update SseDecoder String Unit := do
  let buffered ← read (·.buffer)
  check (refuseIf (maxSseLineBytes < buffered.length + bytes.length)
    s!"SSE line exceeds {maxSseLineBytes} bytes")
  write fun decoder => { decoder with buffer := decoder.buffer ++ bytes }

/-- The line in progress is taken out of the buffer and processed. -/
def takeLine : Update SseDecoder String (Option SseEvent) := do
  let line ← read (·.buffer)
  write fun decoder => { decoder with buffer := [] }
  let line ← check (decodeLine utf8Error (withoutReturn line))
  onCurrent (processLine line)

/-- The loop of `push_chunk`, from the rest of the chunk on. -/
def pushRest (rest : List UInt8) : Update SseDecoder String (List SseEvent) :=
  match _hIndex : rest.idxOf? newline with
  | none => do
      extendLine rest
      return []
  | some index => do
      extendLine (rest.take index)
      let event ← takeLine utf8Error
      let events ← pushRest (rest.drop (index + 1))
      return event.toList ++ events
termination_by rest.length
decreasing_by
  have hBound := (List.idxOf?_eq_some_iff.mp _hIndex).1
  simp only [List.length_drop]
  omega

def pushChunk (chunk : List UInt8) : Update SseDecoder String (List SseEvent) :=
  pushRest utf8Error chunk

def flushLine : Update SseDecoder String (Option SseEvent) := fun decoder =>
  if decoder.buffer = [] then (.ok none, decoder) else takeLine utf8Error decoder

def finish : Update SseDecoder String (List SseEvent) := do
  let last ← flushLine utf8Error
  let left ← onCurrent dispatchCurrent
  return last.toList ++ left.toList

/-- The chunks of a response, in their order. -/
def pushChunks : List (List UInt8) → Update SseDecoder String (List SseEvent)
  | [] => return []
  | chunk :: chunks => do
      let events ← pushChunk utf8Error chunk
      let others ← pushChunks chunks
      return events ++ others

def decodeResponse (chunks : List (List UInt8)) : Update SseDecoder String (List SseEvent) := do
  let events ← pushChunks utf8Error chunks
  let left ← finish utf8Error
  return events ++ left

end SseDecoder

/-! ### The reference -/

/-- What is done with a complete line. -/
def handleLine (line : List UInt8) (current : PartialSseEvent) :
    Except String (List SseEvent × PartialSseEvent) := do
  let line ← decodeLine utf8Error (withoutReturn line)
  let (event, current) ← (processLine line).outcome current
  return (event.toList, current)

/-- The lines of a response. An empty text after the last newline is none. -/
def responseLines (response : List UInt8) : List (List UInt8) :=
  let pieces := response.splitOn newline
  pieces.dropLast ++ pieces.getLast?.toList.filter (· ≠ [])

/-- The events of a response: all its lines are processed, and what is left is dispatched. -/
def referenceEvents (response : List UInt8) : Except String (List SseEvent) := do
  let (events, current) ← feed (handleLine utf8Error) (responseLines response) {}
  let (left, _) ← dispatchCurrent.outcome current
  return events ++ left.toList

end

/-! ### The decoder reads lines -/

section

variable {utf8Error : List UInt8 → String} {decoder next : SseDecoder} {events : List SseEvent}

def SseDecoder.reader (decoder : SseDecoder) : Reader UInt8 PartialSseEvent :=
  ⟨decoder.buffer, decoder.current⟩

theorem SseDecoder.reader_injective (hSame : decoder.reader = next.reader) : decoder = next := by
  cases decoder
  cases next
  cases hSame
  rfl

/-- The decoder as a reader of lines. -/
def readByte (utf8Error : List UInt8 → String) : UInt8 → Reader UInt8 PartialSseEvent →
    Except String (List SseEvent × Reader UInt8 PartialSseEvent) :=
  readSymbol newline maxSseLineBytes s!"SSE line exceeds {maxSseLineBytes} bytes"
    (handleLine utf8Error)

def PartialSseEvent.Fits (current : PartialSseEvent) : Prop :=
  current.data.utf8ByteSize ≤ maxSseEventBytes

namespace SseDecoder

theorem extendLine_eq_ok {bytes : List UInt8} {value : Unit} :
    extendLine bytes decoder = (.ok value, next) ↔
      decoder.buffer.length + bytes.length ≤ maxSseLineBytes ∧
        next = { decoder with buffer := decoder.buffer ++ bytes } := by
  simp only [extendLine, read_bind, check_bind_eq_ok, refuseIf_eq_ok, Nat.not_lt, write_eq_ok]
  constructor
  · rintro ⟨_, hFits, hNext⟩
    exact ⟨hFits, hNext.symm⟩
  · rintro ⟨hFits, hNext⟩
    exact ⟨(), hFits, hNext.symm⟩

theorem onCurrent_eq_ok {Result : Type} {method : Update PartialSseEvent String Result}
    {value : Result} : onCurrent method decoder = (.ok value, next) ↔
      next.buffer = decoder.buffer ∧ method.outcome decoder.current = .ok (value, next.current) := by
  rw [outcome_eq_ok]
  rcases decoder with ⟨buffer, current⟩
  rcases next with ⟨nextBuffer, nextCurrent⟩
  simp only [onCurrent, Prod.mk.injEq, SseDecoder.mk.injEq]
  constructor
  · rintro ⟨hValue, hBuffer, hCurrent⟩
    exact ⟨hBuffer.symm, Prod.ext hValue hCurrent⟩
  · rintro ⟨hBuffer, hMethod⟩
    rw [hMethod]
    exact ⟨rfl, hBuffer.symm, rfl⟩

theorem toList_injective {left right : Option SseEvent} (hSame : left.toList = right.toList) :
    left = right := by
  cases left with
  | none =>
      cases right with
      | none => rfl
      | some event => cases hSame
  | some event =>
      cases right with
      | none => cases hSame
      | some other =>
          cases hSame
          rfl

theorem handleLine_eq_ok {line : List UInt8} {current after : PartialSseEvent} :
    handleLine utf8Error line current = .ok (events, after) ↔
      ∃ event, events = event.toList ∧ ∃ text,
        decodeLine utf8Error (withoutReturn line) = .ok text ∧
          (processLine text).outcome current = .ok (event, after) := by
  simp only [handleLine, bind_eq_ok, Prod.exists]
  constructor
  · rintro ⟨text, hText, event, _, hProcessed, hResult⟩
    cases hResult
    exact ⟨event, rfl, text, hText, hProcessed⟩
  · rintro ⟨event, rfl, text, hText, hProcessed⟩
    exact ⟨text, hText, event, after, hProcessed, rfl⟩

theorem takeLine_eq_ok {event : Option SseEvent} :
    takeLine utf8Error decoder = (.ok event, next) ↔ next.buffer = [] ∧
      handleLine utf8Error decoder.buffer decoder.current = .ok (event.toList, next.current) := by
  simp only [takeLine, read_bind, write_bind, check_bind_eq_ok, onCurrent_eq_ok, handleLine_eq_ok]
  constructor
  · rintro ⟨text, hText, hBuffer, hProcessed⟩
    exact ⟨hBuffer, event, rfl, text, hText, hProcessed⟩
  · rintro ⟨hBuffer, other, hEvent, text, hText, hProcessed⟩
    obtain rfl := toList_injective hEvent
    exact ⟨text, hText, hBuffer, hProcessed⟩

theorem cut_at_newline {rest : List UInt8} {index : ℕ} (hIndex : rest.idxOf? newline = some index) :
    newline ∉ rest.take index ∧
      rest = rest.take index ++ newline :: rest.drop (index + 1) := by
  rcases List.idxOf?_eq_some_iff.mp hIndex with ⟨hBound, hNewline, hBefore⟩
  constructor
  · intro hMem
    rcases List.mem_take_iff_getElem.mp hMem with ⟨place, hPlace, hFound⟩
    exact hBefore place (by omega) hFound
  · conv_lhs => rw [← List.take_append_drop index rest, List.drop_eq_getElem_cons hBound, hNewline]

theorem pushRest_eq_ok {rest : List UInt8} (hFits : decoder.buffer.length ≤ maxSseLineBytes) :
    pushRest utf8Error rest decoder = (.ok events, next) ↔
      feed (readByte utf8Error) rest decoder.reader = .ok (events, next.reader) := by
  fun_induction pushRest utf8Error rest generalizing decoder events with
  | case1 rest hIndex =>
      have hPlain : newline ∉ rest := List.idxOf?_eq_none_iff.mp hIndex
      rw [readByte, feed_plain_eq_ok hPlain hFits]
      simp only [Update.bind_eq_ok, extendLine_eq_ok, pure_eq_ok]
      constructor
      · rintro ⟨_, _, ⟨hRoom, rfl⟩, rfl, rfl⟩
        exact ⟨hRoom, rfl, rfl⟩
      · rintro ⟨hRoom, rfl, hNext⟩
        exact ⟨(), _, ⟨hRoom, rfl⟩, rfl, (reader_injective hNext).symm⟩
  | case2 rest index hIndex hInduction =>
      rcases cut_at_newline hIndex with ⟨hPlain, hRest⟩
      conv_rhs => rw [hRest, readByte, feed_line_eq_ok hPlain hFits]
      simp only [Update.bind_eq_ok, extendLine_eq_ok, takeLine_eq_ok, pure_eq_ok]
      constructor
      · rintro ⟨_, _, ⟨hRoom, rfl⟩, event, taken, ⟨hTaken, hHandled⟩, later, _, hLater, rfl, rfl⟩
        have hEmpty : taken.buffer.length ≤ maxSseLineBytes := by simp [hTaken]
        have hFed := (hInduction hEmpty).mp hLater
        rw [reader, hTaken] at hFed
        exact ⟨hRoom, event.toList, taken.current, later, hHandled, hFed, rfl⟩
      · rintro ⟨hRoom, first, current, later, hHandled, hLater, rfl⟩
        rcases handleLine_eq_ok.mp hHandled with ⟨event, rfl, -⟩
        refine ⟨(), _, ⟨hRoom, rfl⟩, event, ⟨[], current⟩, ⟨rfl, hHandled⟩, later, next, ?_, rfl, rfl⟩
        exact (hInduction (Nat.zero_le _)).mpr hLater

theorem fits_of_fed {bytes : List UInt8} {reader final : Reader UInt8 PartialSseEvent}
    (hFits : reader.line.length ≤ maxSseLineBytes)
    (hFed : feed (readByte utf8Error) bytes reader = .ok (events, final)) :
    final.line.length ≤ maxSseLineBytes :=
  feed_preserves (fun reader => reader.line.length ≤ maxSseLineBytes)
    (fun _ _ _ _ _ hRead => readSymbol_fits hRead) hFits hFed

theorem pushChunks_eq_ok {chunks : List (List UInt8)}
    (hFits : decoder.buffer.length ≤ maxSseLineBytes) :
    pushChunks utf8Error chunks decoder = (.ok events, next) ↔
      feed (readByte utf8Error) chunks.flatten decoder.reader = .ok (events, next.reader) := by
  induction chunks generalizing decoder events with
  | nil =>
      simp only [pushChunks, pure_eq_ok, List.flatten_nil, feed, Except.ok.injEq, Prod.mk.injEq]
      constructor
      · rintro ⟨rfl, rfl⟩
        exact ⟨rfl, rfl⟩
      · rintro ⟨rfl, hNext⟩
        exact ⟨rfl, reader_injective hNext⟩
  | cons chunk chunks hInduction =>
      simp only [pushChunks, pushChunk, Update.bind_eq_ok, pure_eq_ok, List.flatten_cons,
        feed_append_eq_ok]
      constructor
      · rintro ⟨first, middle, hFirst, later, _, hLater, rfl, rfl⟩
        have hFed := (pushRest_eq_ok hFits).mp hFirst
        exact ⟨first, middle.reader, later, hFed, (hInduction (fits_of_fed hFits hFed)).mp hLater,
          rfl⟩
      · rintro ⟨first, ⟨buffer, current⟩, later, hFed, hLater, rfl⟩
        have hFirst : pushRest utf8Error chunk decoder = (.ok first, ⟨buffer, current⟩) :=
          (pushRest_eq_ok hFits).mpr hFed
        exact ⟨first, _, hFirst, later, next,
          (hInduction (fits_of_fed hFits hFed)).mpr hLater, rfl, rfl⟩

theorem flushLine_eq_ok {event : Option SseEvent} :
    flushLine utf8Error decoder = (.ok event, next) ↔ next.buffer = [] ∧
      feed (handleLine utf8Error) ([decoder.buffer].filter (· ≠ [])) decoder.current =
        .ok (event.toList, next.current) := by
  unfold flushLine
  split
  · rename_i hEmpty
    have hNone : [decoder.buffer].filter (· ≠ []) = [] := by simp [hEmpty]
    rw [hNone, feed]
    constructor
    · rintro ⟨⟩
      exact ⟨hEmpty, rfl⟩
    · rintro ⟨hBuffer, hResult⟩
      rcases Prod.mk.inj (Except.ok.inj hResult) with ⟨hEvent, hCurrent⟩
      have hNext : decoder = next :=
        reader_injective (by rw [reader, reader, hEmpty, hBuffer, hCurrent])
      have hNothing : none = event := toList_injective hEvent
      rw [hNext, hNothing]
  · rename_i hFilled
    have hOne : [decoder.buffer].filter (· ≠ []) = [decoder.buffer] := by simp [hFilled]
    rw [takeLine_eq_ok, hOne, feed_singleton_eq_ok]

theorem toList_of_last {last : List SseEvent} {buffer : List UInt8}
    {current after : PartialSseEvent}
    (hLast : feed (handleLine utf8Error) ([buffer].filter (· ≠ [])) current = .ok (last, after)) :
    ∃ event : Option SseEvent, last = event.toList := by
  by_cases hEmpty : buffer = []
  · have hNone : [buffer].filter (· ≠ []) = [] := by simp [hEmpty]
    rw [hNone, feed] at hLast
    cases hLast
    exact ⟨none, rfl⟩
  · have hOne : [buffer].filter (· ≠ []) = [buffer] := by simp [hEmpty]
    rw [hOne, feed_singleton_eq_ok] at hLast
    rcases handleLine_eq_ok.mp hLast with ⟨event, hEvent, -⟩
    exact ⟨event, hEvent⟩

theorem finish_eq_ok :
    finish utf8Error decoder = (.ok events, next) ↔ next.buffer = [] ∧ ∃ last current left,
      feed (handleLine utf8Error) ([decoder.buffer].filter (· ≠ [])) decoder.current =
          .ok (last, current) ∧
        dispatchCurrent.outcome current = .ok (left, next.current) ∧
          events = last ++ left.toList := by
  simp only [finish, Update.bind_eq_ok, flushLine_eq_ok, onCurrent_eq_ok, pure_eq_ok]
  constructor
  · rintro ⟨last, flushed, ⟨hBuffer, hLast⟩, left, _, ⟨hNext, hLeft⟩, rfl, rfl⟩
    exact ⟨hNext.trans hBuffer, last.toList, flushed.current, left, hLast, hLeft, rfl⟩
  · rintro ⟨hBuffer, last, current, left, hLast, hLeft, rfl⟩
    rcases toList_of_last hLast with ⟨event, rfl⟩
    exact ⟨event, ⟨[], current⟩, ⟨rfl, hLast⟩, left, next, ⟨hBuffer, hLeft⟩, rfl, rfl⟩

theorem decodeResponse_eq_ok {chunks : List (List UInt8)} :
    (decodeResponse utf8Error chunks {}).1 = .ok events ↔
      (∀ line ∈ chunks.flatten.splitOn newline, line.length ≤ maxSseLineBytes) ∧
        referenceEvents utf8Error chunks.flatten = .ok events := by
  have hOutcome : (decodeResponse utf8Error chunks {}).1 = .ok events ↔
      ∃ next, decodeResponse utf8Error chunks {} = (.ok events, next) := by
    constructor
    · intro hEvents
      exact ⟨_, Prod.ext hEvents rfl⟩
    · rintro ⟨next, hEvents⟩
      rw [hEvents]
  have hRead : ∀ first middle, pushChunks utf8Error chunks {} = (.ok first, middle) ↔ _ :=
    fun first middle => (pushChunks_eq_ok (Nat.zero_le _)).trans feed_text_eq_ok
  obtain ⟨rest, hRest⟩ : ∃ rest, (chunks.flatten.splitOn newline).getLast? = some rest :=
    ⟨_, List.getLast?_eq_some_getLast (List.splitOn_ne_nil newline chunks.flatten)⟩
  rw [hOutcome]
  simp only [decodeResponse, Update.bind_eq_ok, hRead, finish_eq_ok, pure_eq_ok, referenceEvents,
    responseLines, bind_eq_ok, Prod.exists, feed_append_eq_ok, hRest, Option.toList_some,
    Option.some.injEq]
  generalize chunks.flatten.splitOn newline = pieces
  constructor
  · rintro ⟨next, first, middle, ⟨hFits, hLines, rfl⟩, _, _, ⟨-, last, current, left, hLast, hLeft,
      rfl⟩, rfl, rfl⟩
    refine ⟨hFits, first ++ last, current, ⟨first, middle.current, last, hLines, hLast, rfl⟩, left,
      _, hLeft, ?_⟩
    rw [List.append_assoc]
    rfl
  · rintro ⟨hFits, _, current, ⟨first, middle, last, hLines, hLast, rfl⟩, left, after, hLeft,
      hEvents⟩
    cases hEvents
    exact ⟨⟨[], after⟩, first, ⟨rest, middle⟩, ⟨hFits, hLines, rfl⟩, _, _,
      ⟨rfl, last, current, left, hLast, hLeft, rfl⟩, (List.append_assoc _ _ _).symm, rfl⟩

/-! ### What a decoder holds -/

/-- The bytes in progress are a part of one line, and neither they nor the data of the event in
progress are too many. -/
structure Bounded (decoder : SseDecoder) : Prop where
  oneLine : newline ∉ decoder.buffer
  line : decoder.buffer.length ≤ maxSseLineBytes
  event : decoder.current.Fits

end SseDecoder

/-- The decoders that a caller can have, whatever it did after a failure. -/
inductive SseDecoder.Reachable (utf8Error : List UInt8 → String) : SseDecoder → Prop
  | new : Reachable utf8Error {}
  | pushChunk (decoder : SseDecoder) (hReachable : Reachable utf8Error decoder)
      (chunk : List UInt8) : Reachable utf8Error (SseDecoder.pushChunk utf8Error chunk decoder).2
  | finish (decoder : SseDecoder) (hReachable : Reachable utf8Error decoder) :
      Reachable utf8Error (SseDecoder.finish utf8Error decoder).2

namespace SseDecoder

theorem appendData_preserves {value : String} :
    Preserves PartialSseEvent.Fits (appendData value) := by
  intro current hFits
  rw [appendData, read_bind]
  refine check_bind_preserves hFits ?_
  intro _ hChecked
  have hRoom := Nat.not_lt.mp (refuseIf_eq_ok.mp hChecked)
  have hNewline : "\n".utf8ByteSize = 1 := rfl
  simp only [write, PartialSseEvent.Fits, String.utf8ByteSize_append]
  split
  · omega
  · rw [String.utf8ByteSize_append, hNewline]
    omega

theorem processField_preserves {field value : String} :
    Preserves PartialSseEvent.Fits
      (processField field value) := by
  unfold processField
  split
  · exact write_preserves fun _ hFits => hFits
  · split
    · exact appendData_preserves
    · split
      · exact write_preserves fun _ hFits => hFits
      · split
        · exact write_preserves fun _ hFits => hFits
        · exact pure_preserves

theorem dispatchCurrent_preserves :
    Preserves PartialSseEvent.Fits dispatchCurrent := by
  intro current hFits
  unfold dispatchCurrent
  split
  · exact hFits
  · exact Nat.zero_le _

theorem processLine_preserves {line : String} :
    Preserves PartialSseEvent.Fits (processLine line) := by
  unfold processLine
  split
  · exact dispatchCurrent_preserves
  · split
    · exact pure_preserves
    · exact processField_preserves.bind fun _ => pure_preserves

theorem extendLine_preserves {bytes : List UInt8} (hPlain : newline ∉ bytes) :
    Preserves Bounded (extendLine bytes) := by
  intro decoder hBounded
  rw [extendLine, read_bind]
  refine check_bind_preserves hBounded ?_
  intro _ hChecked
  have hRoom := Nat.not_lt.mp (refuseIf_eq_ok.mp hChecked)
  refine ⟨List.not_mem_append hBounded.oneLine hPlain, ?_, hBounded.event⟩
  simpa only [write, List.length_append] using hRoom

theorem onCurrent_preserves {Result : Type} {method : Update PartialSseEvent String Result}
    (hMethod : Preserves PartialSseEvent.Fits method) :
    Preserves Bounded (onCurrent method) :=
  fun decoder hBounded => ⟨hBounded.oneLine, hBounded.line, hMethod decoder.current hBounded.event⟩

theorem takeLine_preserves : Preserves Bounded (takeLine utf8Error) := by
  unfold takeLine
  refine read_readOnly.preserves.bind fun line => ?_
  refine (write_preserves fun decoder hBounded => ?_).bind fun _ => ?_
  · exact ⟨List.not_mem_nil, Nat.zero_le _, hBounded.event⟩
  · exact check_readOnly.preserves.bind fun _ => onCurrent_preserves processLine_preserves

theorem pushRest_preserves {rest : List UInt8} : Preserves Bounded (pushRest utf8Error rest) := by
  fun_induction pushRest utf8Error rest with
  | case1 rest hIndex =>
      have hPlain : newline ∉ rest := List.idxOf?_eq_none_iff.mp hIndex
      exact (extendLine_preserves hPlain).bind fun _ => pure_preserves
  | case2 rest index hIndex hInduction =>
      have hPlain := (cut_at_newline hIndex).1
      exact (extendLine_preserves hPlain).bind fun _ => takeLine_preserves.bind fun _ =>
        hInduction.bind fun _ => pure_preserves

theorem flushLine_preserves : Preserves Bounded (flushLine utf8Error) := by
  intro decoder hBounded
  unfold flushLine
  split
  · exact hBounded
  · exact takeLine_preserves decoder hBounded

theorem finish_preserves : Preserves Bounded (finish utf8Error) :=
  flushLine_preserves.bind fun _ => (onCurrent_preserves dispatchCurrent_preserves).bind fun _ =>
    pure_preserves

theorem Reachable.bounded (hReachable : Reachable utf8Error decoder) : decoder.Bounded := by
  induction hReachable with
  | new => exact ⟨List.not_mem_nil, Nat.zero_le _, Nat.zero_le _⟩
  | pushChunk decoder _ chunk hBounded => exact pushRest_preserves decoder hBounded
  | finish decoder _ hBounded => exact finish_preserves decoder hBounded

end SseDecoder

/-- Two ways of cutting a response into chunks fail together, and give the same events as the
reference. In every decoder that can be reached, the bytes in progress are a part of one line and
within its limit, and the data of the event is within its own. -/
theorem decoding_ignores_chunks (utf8Error : List UInt8 → String) :
    (∀ left right : List (List UInt8), left.flatten = right.flatten →
      ((∃ failure, (SseDecoder.decodeResponse utf8Error left {}).1 = .error failure) ↔
        ∃ failure, (SseDecoder.decodeResponse utf8Error right {}).1 = .error failure) ∧
      ∀ events, (SseDecoder.decodeResponse utf8Error left {}).1 = .ok events →
        (SseDecoder.decodeResponse utf8Error right {}).1 = .ok events ∧
          referenceEvents utf8Error left.flatten = .ok events) ∧
    ∀ decoder, SseDecoder.Reachable utf8Error decoder → decoder.Bounded := by
  have hFails : ∀ chunks, (∃ failure,
      (SseDecoder.decodeResponse utf8Error chunks {}).1 = .error failure) ↔
      ∀ events, (SseDecoder.decodeResponse utf8Error chunks {}).1 ≠ .ok events := by
    intro chunks
    cases (SseDecoder.decodeResponse utf8Error chunks {}).1 with
    | ok events => simp
    | error failure => simp
  refine ⟨?_, fun _ hReachable => hReachable.bounded⟩
  intro left right hSame
  refine ⟨?_, ?_⟩
  · simp only [hFails, ne_eq, SseDecoder.decodeResponse_eq_ok, hSame]
  · intro events hEvents
    rw [SseDecoder.decodeResponse_eq_ok] at hEvents ⊢
    rw [← hSame]
    exact ⟨hEvents, hEvents.2⟩

end

end PayKit.Client
