import Mathlib.Data.List.Perm.Subperm
import Mathlib.Logic.Relation
import PayKit.Session.MeteredDelivery

/-!
# Runs of a metered session

One client and one server share a channel. What the client hands to its transport
may reach the server any number of times and at any later moment, or never; a
receipt may be lost. The client gives a directive that was not answered again before
it commits another.

The server's watermark is then the client's, or ahead of it by the directive that is
being retried: until that directive is answered, every other voucher on its way is at
most the client's watermark, and the server refuses it. Neither how long the server
remembers a commit nor whether it can be replayed plays a part in this; the record of
a commit is what lets a retry succeed.
-/

namespace PayKit.Session.Metered

open Channel Control Machine Store

/-! ## A consumer against any server -/

/-- A voucher with the watermark it was signed at, and whether its commit was answered with
a receipt. -/
structure Signing where
  watermark : ℕ
  voucher : SignedVoucher
  answered : Bool

structure Client where
  consumer : SessionConsumer
  stream : MeteredStreamState
  signed : List Signing

/-- What reaches a client: an event of its stream, or a directive to commit with the
transport's answer to it. `ack` commits the directive of the stream. -/
inductive ClientEvent where
  | streamed (event : MeteredSseEvent)
  | commit (directive : MeteringDirective) (answer : CommitPayload → Except Error CommitReceipt)
  | ack (answer : CommitPayload → Except Error CommitReceipt)

namespace Client

def commit (client : Client) (directive : MeteringDirective)
    (answer : CommitPayload → Except Error CommitReceipt) : Client where
  consumer :=
    match client.consumer.commitDirective directive answer with
    | .ok (consumer, _) => consumer
    | .error _ => client.consumer
  stream := client.stream
  signed :=
    match client.consumer.commitPayload directive with
    | .ok payload =>
        client.signed ++
          [⟨client.consumer.session.cumulative, payload.voucher, (answer payload).isOk⟩]
    | .error _ => client.signed

def step (client : Client) : ClientEvent → Client
  | .streamed event =>
      match client.stream.applyEvent event with
      | .ok stream => { client with stream }
      | .error _ => client
  | .commit directive answer => client.commit directive answer
  | .ack answer =>
      match client.stream.directiveForCommit with
      | .ok directive => client.commit directive answer
      | .error _ => client

def run (client : Client) (events : List ClientEvent) : Client :=
  events.foldl step client

end Client

/-- A voucher stays within the budget at the watermark it was signed at. -/
def Signing.Within (budget : MeteringBudget) (signing : Signing) : Prop :=
  ∃ cumulative, parseU64 signing.voucher.data.cumulativeAmount = some cumulative ∧
    signing.watermark < cumulative ∧ cumulative ≤ budget.maxCumulative ∧
      cumulative ≤ signing.watermark + budget.maxPerDelivery

/-- What a client has done since `start`. -/
structure Client.Bounded (start client : Client) : Prop where
  budget : client.consumer.budget = start.consumer.budget
  within : ∀ signing ∈ client.signed, signing ∈ start.signed ∨
    signing.Within start.consumer.budget
  monotone : start.consumer.session.cumulative ≤ client.consumer.session.cumulative
  watermark : client.consumer.session.cumulative = start.consumer.session.cumulative ∨
    ∃ signing ∈ client.signed, signing.answered = true ∧
      parseU64 signing.voucher.data.cumulativeAmount = some client.consumer.session.cumulative

namespace Client

variable {start client : Client}

theorem Bounded.refl (start : Client) : start.Bounded start where
  budget := rfl
  within := fun _ hSigning => .inl hSigning
  monotone := le_rfl
  watermark := .inl rfl

theorem Signs.within {consumer : SessionConsumer} {directive : MeteringDirective}
    {payload : CommitPayload} {amount : ℕ} {answered : Bool}
    (hSigns : Signs consumer directive payload amount) :
    (Signing.mk consumer.session.cumulative payload.voucher answered).Within consumer.budget := by
  refine ⟨_, hSigns.cumulative, ?_, hSigns.withinBudget, ?_⟩
  · exact Nat.lt_add_of_pos_right hSigns.positive
  · exact Nat.add_le_add_left hSigns.withinDelivery _

theorem Bounded.commit (hBounded : start.Bounded client) (directive : MeteringDirective)
    (answer : CommitPayload → Except Error CommitReceipt) :
    start.Bounded (client.commit directive answer) := by
  cases hPayload : client.consumer.commitPayload directive with
  | error error =>
      have hFailed : client.consumer.commitDirective directive answer = .error error := by
        simp only [SessionConsumer.commitDirective, hPayload]
        rfl
      have hSame : client.commit directive answer = client := by
        simp only [Client.commit, hPayload, hFailed]
      rwa [hSame]
  | ok payload =>
      rcases commitPayload_eq_ok hPayload with ⟨amount, hSigns⟩
      have hSigned : (client.commit directive answer).signed =
          client.signed ++
            [⟨client.consumer.session.cumulative, payload.voucher, (answer payload).isOk⟩] := by
        simp only [Client.commit, hPayload]
      have hWithin : ∀ signing ∈ (client.commit directive answer).signed,
          signing ∈ start.signed ∨ signing.Within start.consumer.budget := by
        intro signing hSigning
        rw [hSigned, List.mem_append, List.mem_singleton] at hSigning
        rcases hSigning with hEarlier | rfl
        · exact hBounded.within signing hEarlier
        · exact .inr (hBounded.budget ▸ Signs.within hSigns)
      cases hCommitted : client.consumer.commitDirective directive answer with
      | error error =>
          have hConsumer : (client.commit directive answer).consumer = client.consumer := by
            simp only [Client.commit, hCommitted]
          refine ⟨hConsumer ▸ hBounded.budget, hWithin, hConsumer ▸ hBounded.monotone, ?_⟩
          rw [hConsumer, hSigned]
          rcases hBounded.watermark with hSame | ⟨signing, hSigning, hParsed⟩
          · exact .inl hSame
          · exact .inr ⟨signing, List.mem_append_left _ hSigning, hParsed⟩
      | ok result =>
          rcases result with ⟨after, receipt⟩
          rcases commitDirective_eq_ok hCommitted with
            ⟨other, asked, hOther, hOtherSigns, hAnswered, hAfter⟩
          have hConsumer : (client.commit directive answer).consumer = after := by
            simp only [Client.commit, hCommitted]
          rw [hPayload, Except.ok.injEq] at hOther
          subst hOther hAfter
          refine ⟨hConsumer ▸ hBounded.budget, hWithin, ?_,
            .inr ⟨⟨client.consumer.session.cumulative, payload.voucher, (answer payload).isOk⟩,
              ?_, ?_, ?_⟩⟩
          · rw [hConsumer]
            exact Nat.le_add_right_of_le hBounded.monotone
          · rw [hSigned]
            exact List.mem_append_right _ (List.mem_singleton_self _)
          · rw [hAnswered]
            rfl
          · rw [hConsumer]
            exact hOtherSigns.cumulative

theorem Bounded.step (hBounded : start.Bounded client) (event : ClientEvent) :
    start.Bounded (client.step event) := by
  cases event with
  | streamed event =>
      simp only [Client.step]
      split
      · exact ⟨hBounded.budget, hBounded.within, hBounded.monotone, hBounded.watermark⟩
      · exact hBounded
  | commit directive answer => exact hBounded.commit directive answer
  | ack answer =>
      simp only [Client.step]
      split
      · exact hBounded.commit _ answer
      · exact hBounded

theorem Bounded.run (hBounded : start.Bounded client) (events : List ClientEvent) :
    start.Bounded (client.run events) := by
  induction events generalizing client with
  | nil => exact hBounded
  | cons event events hInduction => exact hInduction (hBounded.step event)

end Client

/-! ## Client and server -/

/-- One delivery that was charged: the reservation the commit found, and by how much
the watermark rose. -/
structure Charge where
  reservation : PendingDelivery
  amount : ℕ
deriving DecidableEq

/-- The two parties and what lies between them. `sent` holds every payload given to
the transport with its directive, `tasks` the commits between the server's snapshot
and its update, and `receipts` what the server answered. -/
structure World where
  server : ChannelState
  consumer : SessionConsumer
  stream : MeteredStreamState
  /-- The directive that was committed without an answer. -/
  retrying : Option MeteringDirective
  /-- What the commit in progress gave to the transport. -/
  inFlight : Option CommitPayload
  sent : List (MeteringDirective × CommitPayload)
  tasks : List (CommitPayload × CommitTask)
  receipts : List (CommitPayload × CommitReceipt)
  reservations : List PendingDelivery
  charges : List Charge

/-- The charge of an update: the reservation it took, when it raised the watermark. -/
def chargesOf (state after : ChannelState) (task : CommitTask) : List Charge :=
  if after.cumulative = state.cumulative then []
  else
    ((state.pendingIndex task.deliveryId).map fun index =>
      { reservation := state.pendingDeliveries.get index
        amount := after.cumulative - state.cumulative : Charge }).toList

inductive Event where
  | elsewhere
  | reserved (directive : MeteringDirective)
  | usageRecorded
  | checked
  | replayed
  | updated
  | refused
  | streamed
  | committing (directive : MeteringDirective)
  | committed (receipt : CommitReceipt)
  | failed

/-- One step of the server, of the client, or of the rest of the world. -/
inductive Step (config : SessionConfig) (world : World) : Event → World → Prop
  /-- Something else happens to the channel: its observation is refreshed, it is topped
  up, its close is requested. -/
  | elsewhere {after : ChannelState} (hSame : SameDeliveries world.server after) :
      Step config world .elsewhere { world with server := after }
  | reserved {now : ℕ} {request : DeliveryRequest} {after : ChannelState}
      {directive : MeteringDirective}
      (hBegun : beginDelivery config now request (some world.server) = .ok (after, directive)) :
      Step config world (.reserved directive)
        { world with
          server := after
          reservations := world.reservations ++ [request.reservation world.server] }
  | usageRecorded {deliveryId : String} {amount : ℕ} {after : ChannelState}
      (hRecorded : recordDeliveryUsage deliveryId amount (some world.server) = .ok after) :
      Step config world .usageRecorded { world with server := after }
  | checked {now : ℤ} {directive : MeteringDirective} {payload : CommitPayload}
      {task : CommitTask} (hSent : (directive, payload) ∈ world.sent)
      (hChecked : checkCommit config now payload (some world.server) = .ok (.reserved task)) :
      Step config world .checked { world with tasks := world.tasks ++ [(payload, task)] }
  | replayed {now : ℤ} {directive : MeteringDirective} {payload : CommitPayload}
      {receipt : CommitReceipt} (hSent : (directive, payload) ∈ world.sent)
      (hChecked :
        checkCommit config now payload (some world.server) = .ok (.replayed receipt)) :
      Step config world .replayed
        { world with receipts := world.receipts ++ [(payload, receipt)] }
  | updated {nowMs : ℕ} (index : Fin world.tasks.length) {after : ChannelState}
      {receipt : CommitReceipt}
      (hCommitted : commitDelivery config nowMs world.tasks[index].2 (some world.server) =
        .ok (after, receipt)) :
      Step config world .updated
        { world with
          server := after
          tasks := world.tasks.eraseIdx index
          receipts := world.receipts ++ [(world.tasks[index].1, receipt)]
          charges := world.charges ++ chargesOf world.server after world.tasks[index].2 }
  | refused (index : Fin world.tasks.length) :
      Step config world .refused { world with tasks := world.tasks.eraseIdx index }
  | streamed {event : MeteredSseEvent} {stream : MeteredStreamState}
      (hStreamed : world.stream.applyEvent event = .ok stream) :
      Step config world .streamed { world with stream }
  /-- `commit_directive` signs and gives its payload to the transport. -/
  | committing {directive : MeteringDirective} {payload : CommitPayload}
      (hIdle : world.inFlight = none)
      (hRetried : ∀ failed, world.retrying = some failed → directive = failed)
      (hPayload : world.consumer.commitPayload directive = .ok payload) :
      Step config world (.committing directive)
        { world with
          retrying := some directive
          inFlight := some payload
          sent := world.sent ++ [(directive, payload)] }
  /-- `commit_directive` returns a receipt the server gave for its payload. -/
  | committed {directive : MeteringDirective} {payload : CommitPayload}
      {receipt : CommitReceipt} {consumer : SessionConsumer}
      (hFlight : world.inFlight = some payload) (hRetrying : world.retrying = some directive)
      (hReceipt : (payload, receipt) ∈ world.receipts)
      (hCommitted :
        world.consumer.commitDirective directive (fun _ => .ok receipt) =
          .ok (consumer, receipt)) :
      Step config world (.committed receipt)
        { world with consumer, retrying := none, inFlight := none }
  /-- `commit_directive` fails or is dropped. -/
  | failed : Step config world .failed { world with inFlight := none }

def Run (config : SessionConfig) : World → World → Prop :=
  Relation.ReflTransGen fun world next => ∃ event, Step config world event next

theorem Run.next {config : SessionConfig} {start world next : World} {event : Event}
    (hRun : Run config start world) (hStep : Step config world event next) :
    Run config start next :=
  Relation.ReflTransGen.tail hRun ⟨event, hStep⟩

/-- Where a session starts: equal watermarks and nothing on its way. -/
structure World.Starts (world : World) : Prop where
  equal : world.server.cumulative = world.consumer.session.cumulative
  recorded : ∀ committed ∈ world.server.committedDeliveries,
    committed.cumulative ≤ world.server.cumulative
  reservations : world.reservations = world.server.pendingDeliveries
  retrying : world.retrying = none
  inFlight : world.inFlight = none
  sent : world.sent = []
  tasks : world.tasks = []
  receipts : world.receipts = []
  charges : world.charges = []

/-- The server's watermark is the client's, or ahead of it by the directive that is
being retried. -/
def World.InStep (world : World) : Prop :=
  world.server.cumulative = world.consumer.session.cumulative ∨
    ∃ directive amount, world.retrying = some directive ∧
      directive.amountBaseUnits = .ok amount ∧
      world.server.cumulative = world.consumer.session.cumulative + amount

/-- A delivery: its id, and the sequence number it was reserved under. -/
def deliveryOf (reservation : PendingDelivery) : String × ℕ :=
  (reservation.deliveryId, reservation.sequence)

/-- A reservation at a charge or a settlement is one that was made, for no more than was
reserved. -/
def World.Made (world : World) (reservation : PendingDelivery) : Prop :=
  ∃ made ∈ world.reservations, deliveryOf made = deliveryOf reservation ∧
    reservation.amount ≤ made.amount

/-- Each delivery was charged at most once, and at the amount that the server had
settled and the client had signed a directive for. -/
structure World.ChargesOnce (start world : World) : Prop where
  once : (world.charges.map fun charge => deliveryOf charge.reservation).Subperm
    (world.reservations.map deliveryOf)
  settled : ∀ charge ∈ world.charges,
    charge.amount = charge.reservation.amount ∧ world.Made charge.reservation
  signed : ∀ charge ∈ world.charges, ∃ directive payload, (directive, payload) ∈ world.sent ∧
    directive.deliveryId = charge.reservation.deliveryId ∧
    directive.amountBaseUnits = .ok charge.amount
  total : world.server.cumulative =
    start.server.cumulative + (world.charges.map Charge.amount).sum

/-! ### The invariant -/

/-- A payload on its way signs at most the client's watermark, or it is the one of the
directive that is being retried. -/
def World.Spent (world : World) (directive : MeteringDirective) (payload : CommitPayload) : Prop :=
  ∃ cumulative, parseU64 payload.voucher.data.cumulativeAmount = some cumulative ∧
    (cumulative ≤ world.consumer.session.cumulative ∨
      world.retrying = some directive ∧ world.consumer.commitPayload directive = .ok payload)

/-- The server holds the record that answers a payload. -/
def World.Answers (world : World) (payload : CommitPayload) : Prop :=
  ∃ newCumulative committed, parseU64 payload.voucher.data.cumulativeAmount = some newCumulative ∧
    world.server.committedAuthorization payload.deliveryId = some committed ∧
    committed.cumulative = newCumulative ∧ committed.voucherSignature = payload.voucher.signature

structure World.Invariant (start world : World) : Prop extends World.ChargesOnce start world where
  inStep : world.InStep
  answered : world.server.cumulative = world.consumer.session.cumulative ∨
    ∃ directive payload, world.retrying = some directive ∧
      world.consumer.commitPayload directive = .ok payload ∧ world.Answers payload
  recorded : ∀ committed ∈ world.server.committedDeliveries,
    committed.cumulative ≤ world.server.cumulative
  spent : ∀ directive payload, (directive, payload) ∈ world.sent → world.Spent directive payload
  tasks : ∀ payload task, (payload, task) ∈ world.tasks →
    ∃ directive newCumulative now, (directive, payload) ∈ world.sent ∧
      parseU64 payload.voucher.data.cumulativeAmount = some newCumulative ∧
      task = payload.task newCumulative now
  receipts : ∀ payload receipt, (payload, receipt) ∈ world.receipts →
    ∃ cumulative, parseU64 payload.voucher.data.cumulativeAmount = some cumulative ∧
      cumulative ≤ world.server.cumulative
  flight : ∀ payload, world.inFlight = some payload →
    ∃ directive, world.retrying = some directive ∧
      world.consumer.commitPayload directive = .ok payload
  standing : ((world.charges.map fun charge => deliveryOf charge.reservation) ++
    world.server.pendingDeliveries.map deliveryOf).Subperm (world.reservations.map deliveryOf)
  made : ∀ pending ∈ world.server.pendingDeliveries, world.Made pending

theorem map_set_of_eq {Entry Image : Type} {function : Entry → Image} {entries : List Entry}
    {index : Fin entries.length} {entry : Entry} (hSame : function entry = function entries[index]) :
    (entries.set index entry).map function = entries.map function := by
  apply List.ext_getElem
  · simp
  · intro position hSet hOld
    simp only [List.getElem_map, List.getElem_set]
    split
    · rename_i hHere
      subst hHere
      exact hSame
    · rfl

@[simp]
theorem chargesOf_self {state : ChannelState} {task : CommitTask} : chargesOf state state task = [] := by
  simp [chargesOf]

theorem chargesOf_taken {state after : ChannelState} {task : CommitTask}
    {index : Fin state.pendingDeliveries.length}
    (hIndex : state.pendingIndex task.deliveryId = some index)
    (hRaised : state.cumulative < after.cumulative) :
    chargesOf state after task =
      [⟨state.pendingDeliveries.get index, after.cumulative - state.cumulative⟩] := by
  simp [chargesOf, hIndex, hRaised.ne']

namespace World.Invariant

variable {config : SessionConfig} {start world next : World}

theorem initial (hStart : start.Starts) : World.Invariant start start where
  once := by simp [hStart.charges]
  settled := by simp [hStart.charges]
  signed := by simp [hStart.charges]
  total := by simp [hStart.charges]
  inStep := .inl hStart.equal
  answered := .inl hStart.equal
  recorded := hStart.recorded
  spent := by simp [hStart.sent]
  tasks := by simp [hStart.tasks]
  receipts := by simp [hStart.receipts]
  flight := by simp [hStart.inFlight]
  standing := by
    rw [hStart.charges, hStart.reservations]
    exact List.Subperm.refl _
  made := by
    intro pending hPending
    exact ⟨pending, hStart.reservations ▸ hPending, rfl, le_rfl⟩

theorem takes_retried (hInvariant : World.Invariant start world) {directive : MeteringDirective}
    {payload : CommitPayload} {newCumulative : ℕ} (hSent : (directive, payload) ∈ world.sent)
    (hParsed : parseU64 payload.voucher.data.cumulativeAmount = some newCumulative)
    (hAbove : world.server.cumulative < newCumulative) :
    ∃ amount, world.retrying = some directive ∧
      world.consumer.commitPayload directive = .ok payload ∧
      Signs world.consumer directive payload amount ∧
      world.server.cumulative = world.consumer.session.cumulative ∧
      newCumulative = world.server.cumulative + amount := by
  rcases hInvariant.spent directive payload hSent with
    ⟨cumulative, hOther, hBelow | ⟨hRetrying, hPayload⟩⟩
  · have hSame : cumulative = newCumulative := by simpa [hOther] using hParsed
    rcases hInvariant.inStep with hEqual | ⟨-, amount, -, -, hAhead⟩ <;> omega
  · rcases commitPayload_eq_ok hPayload with ⟨amount, hSigns⟩
    have hSame : world.consumer.session.cumulative + amount = newCumulative := by
      simpa [hSigns.cumulative] using hParsed
    have hEqual : world.server.cumulative = world.consumer.session.cumulative := by
      rcases hInvariant.inStep with hEqual | ⟨other, asked, hOther, hAsked, hAhead⟩
      · exact hEqual
      · rw [hRetrying, Option.some.injEq] at hOther
        subst hOther
        have hAmount : amount = asked := by simpa [hSigns.asks] using hAsked
        omega
    exact ⟨amount, hRetrying, hPayload, hSigns, hEqual, by omega⟩

theorem of_deliveries (hInvariant : World.Invariant start world) {after : ChannelState}
    {reservations : List PendingDelivery}
    (hCumulative : after.cumulative = world.server.cumulative)
    (hCommitted : after.committedDeliveries = world.server.committedDeliveries)
    (hReservations : world.reservations.Sublist reservations)
    (hStanding : ((world.charges.map fun charge => deliveryOf charge.reservation) ++
      after.pendingDeliveries.map deliveryOf).Subperm (reservations.map deliveryOf))
    (hMade : ∀ pending ∈ after.pendingDeliveries, ∃ made ∈ reservations,
      deliveryOf made = deliveryOf pending ∧ pending.amount ≤ made.amount) :
    World.Invariant start { world with server := after, reservations } where
  once := hInvariant.once.trans (hReservations.map deliveryOf).subperm
  settled := by
    intro charge hCharge
    rcases hInvariant.settled charge hCharge with ⟨hAmount, made, hIn, hSame, hWithin⟩
    exact ⟨hAmount, made, hReservations.subset hIn, hSame, hWithin⟩
  signed := hInvariant.signed
  total := hCumulative.trans hInvariant.total
  inStep := by simpa only [InStep, hCumulative] using hInvariant.inStep
  answered := by
    simpa only [Answers, ChannelState.committedAuthorization, hCumulative, hCommitted]
      using hInvariant.answered
  recorded := by simpa only [hCumulative, hCommitted] using hInvariant.recorded
  spent := hInvariant.spent
  tasks := hInvariant.tasks
  receipts := by simpa only [hCumulative] using hInvariant.receipts
  flight := hInvariant.flight
  standing := hStanding
  made := hMade

theorem elsewhere (hInvariant : World.Invariant start world) {after : ChannelState}
    (hSame : SameDeliveries world.server after) :
    World.Invariant start { world with server := after } := by
  apply hInvariant.of_deliveries hSame.cumulative hSame.committedDeliveries (List.Sublist.refl _)
  · rw [hSame.pendingDeliveries]
    exact hInvariant.standing
  · rw [hSame.pendingDeliveries]
    exact hInvariant.made

theorem reserved (hInvariant : World.Invariant start world) {now : ℕ} {request : DeliveryRequest}
    {after : ChannelState} {directive : MeteringDirective}
    (hBegun : beginDelivery config now request (some world.server) = .ok (after, directive)) :
    World.Invariant start
      { world with
        server := after
        reservations := world.reservations ++ [request.reservation world.server] } := by
  rcases beginDelivery_eq_ok hBegun with ⟨currency, -, -, hAfter⟩
  have hDeliveries : after.pendingDeliveries =
      world.server.pendingDeliveries ++ [request.reservation world.server] := by rw [hAfter]
  apply hInvariant.of_deliveries (by rw [hAfter]) (by rw [hAfter]) (List.sublist_append_left _ _)
  · rw [hDeliveries]
    simp only [List.map_append, ← List.append_assoc]
    exact (List.subperm_append_right _).mpr hInvariant.standing
  · intro pending hPending
    rw [hDeliveries] at hPending
    rcases List.mem_append.mp hPending with hEarlier | hNew
    · rcases hInvariant.made pending hEarlier with ⟨made, hIn, hSame⟩
      exact ⟨made, List.mem_append_left _ hIn, hSame⟩
    · rw [List.mem_singleton.mp hNew]
      exact ⟨_, List.mem_append_right _ (List.mem_singleton_self _), rfl, le_rfl⟩

theorem usageRecorded (hInvariant : World.Invariant start world) {deliveryId : String} {amount : ℕ}
    {after : ChannelState}
    (hRecorded : recordDeliveryUsage deliveryId amount (some world.server) = .ok after) :
    World.Invariant start { world with server := after } := by
  rcases recordDeliveryUsage_eq_ok hRecorded with ⟨index, hAfter | ⟨hWithin, hAfter⟩⟩
  · have hDeliveries : after.pendingDeliveries = world.server.pendingDeliveries.eraseIdx index := by
      rw [hAfter]
    apply hInvariant.of_deliveries (by rw [hAfter]) (by rw [hAfter]) (List.Sublist.refl _)
    · rw [hDeliveries]
      have hFewer := (List.eraseIdx_sublist world.server.pendingDeliveries index).map deliveryOf
      exact ((List.Sublist.refl _).append hFewer).subperm.trans hInvariant.standing
    · intro pending hPending
      rw [hDeliveries] at hPending
      exact hInvariant.made pending (List.mem_of_mem_eraseIdx hPending)
  · have hDeliveries : after.pendingDeliveries = world.server.pendingDeliveries.set index
        { world.server.pendingDeliveries.get index with amount } := by rw [hAfter]
    apply hInvariant.of_deliveries (by rw [hAfter]) (by rw [hAfter]) (List.Sublist.refl _)
    · rw [hDeliveries, map_set_of_eq]
      · exact hInvariant.standing
      · rfl
    · intro pending hPending
      rw [hDeliveries] at hPending
      rcases List.mem_or_eq_of_mem_set hPending with hEarlier | rfl
      · exact hInvariant.made pending hEarlier
      · rcases hInvariant.made _ (List.get_mem _ index) with ⟨made, hIn, hSame, hMade⟩
        exact ⟨made, hIn, hSame, hWithin.trans hMade⟩

theorem of_messages (hInvariant : World.Invariant start world) {stream : MeteredStreamState}
    {inFlight : Option CommitPayload} {tasks : List (CommitPayload × CommitTask)}
    {receipts : List (CommitPayload × CommitReceipt)}
    (hFlight : ∀ payload, inFlight = some payload → world.inFlight = some payload)
    (hTasks : ∀ payload task, (payload, task) ∈ tasks → (payload, task) ∈ world.tasks ∨
      ∃ directive newCumulative now, (directive, payload) ∈ world.sent ∧
        parseU64 payload.voucher.data.cumulativeAmount = some newCumulative ∧
        task = payload.task newCumulative now)
    (hReceipts : ∀ payload receipt, (payload, receipt) ∈ receipts →
      (payload, receipt) ∈ world.receipts ∨
      ∃ cumulative, parseU64 payload.voucher.data.cumulativeAmount = some cumulative ∧
        cumulative ≤ world.server.cumulative) :
    World.Invariant start { world with stream, inFlight, tasks, receipts } where
  toChargesOnce := ⟨hInvariant.once, hInvariant.settled, hInvariant.signed, hInvariant.total⟩
  inStep := hInvariant.inStep
  answered := hInvariant.answered
  recorded := hInvariant.recorded
  spent := hInvariant.spent
  tasks := fun payload task hTask =>
    (hTasks payload task hTask).elim (hInvariant.tasks payload task) id
  receipts := fun payload receipt hReceipt =>
    (hReceipts payload receipt hReceipt).elim (hInvariant.receipts payload receipt) id
  flight := fun payload hPayload => hInvariant.flight payload (hFlight payload hPayload)
  standing := hInvariant.standing
  made := hInvariant.made

theorem checked (hInvariant : World.Invariant start world) {now : ℤ}
    {directive : MeteringDirective} {payload : CommitPayload} {task : CommitTask}
    (hSent : (directive, payload) ∈ world.sent)
    (hChecked : checkCommit config now payload (some world.server) = .ok (.reserved task)) :
    World.Invariant start { world with tasks := world.tasks ++ [(payload, task)] } := by
  apply hInvariant.of_messages (fun _ => id) _ (fun _ _ => .inl)
  intro other otherTask hTask
  rcases List.mem_append.mp hTask with hEarlier | hNew
  · exact .inl hEarlier
  · rcases checkCommit_reserved hChecked with ⟨newCumulative, hParsed, hSame⟩
    cases List.mem_singleton.mp hNew
    exact .inr ⟨directive, newCumulative, now, hSent, hParsed, hSame⟩

theorem replayed (hInvariant : World.Invariant start world) {now : ℤ} {payload : CommitPayload}
    {receipt : CommitReceipt}
    (hChecked : checkCommit config now payload (some world.server) = .ok (.replayed receipt)) :
    World.Invariant start { world with receipts := world.receipts ++ [(payload, receipt)] } := by
  apply hInvariant.of_messages (fun _ => id) (fun _ _ => .inl)
  intro other answer hAnswer
  rcases List.mem_append.mp hAnswer with hEarlier | hNew
  · exact .inl hEarlier
  · rcases checkCommit_replayed hChecked with ⟨committed, hCommitted, hParsed⟩
    cases List.mem_singleton.mp hNew
    exact .inr ⟨_, hParsed, hInvariant.recorded committed hCommitted⟩

theorem refused (hInvariant : World.Invariant start world) (index : Fin world.tasks.length) :
    World.Invariant start { world with tasks := world.tasks.eraseIdx index } :=
  hInvariant.of_messages (fun _ => id) (fun _ _ hTask => .inl (List.mem_of_mem_eraseIdx hTask))
    (fun _ _ => .inl)

theorem streamed (hInvariant : World.Invariant start world) (stream : MeteredStreamState) :
    World.Invariant start { world with stream } :=
  hInvariant.of_messages (fun _ => id) (fun _ _ => .inl) (fun _ _ => .inl)

theorem failed (hInvariant : World.Invariant start world) :
    World.Invariant start { world with inFlight := none } :=
  hInvariant.of_messages (by simp) (fun _ _ => .inl) (fun _ _ => .inl)

theorem committing (hInvariant : World.Invariant start world) {directive : MeteringDirective}
    {payload : CommitPayload}
    (hRetried : ∀ failed, world.retrying = some failed → directive = failed)
    (hPayload : world.consumer.commitPayload directive = .ok payload) :
    World.Invariant start
      { world with
        retrying := some directive
        inFlight := some payload
        sent := world.sent ++ [(directive, payload)] } where
  once := hInvariant.once
  settled := hInvariant.settled
  signed := by
    intro charge hCharge
    rcases hInvariant.signed charge hCharge with ⟨signed, sent, hSent, hSigned⟩
    exact ⟨signed, sent, List.mem_append_left _ hSent, hSigned⟩
  total := hInvariant.total
  inStep := by
    rcases hInvariant.inStep with hEqual | ⟨failed, amount, hRetrying, hAhead⟩
    · exact .inl hEqual
    · exact .inr ⟨directive, amount, rfl, (hRetried failed hRetrying) ▸ hAhead⟩
  answered := by
    rcases hInvariant.answered with hEqual | ⟨failed, sent, hRetrying, hSent⟩
    · exact .inl hEqual
    · exact .inr ⟨directive, sent, rfl, (hRetried failed hRetrying) ▸ hSent⟩
  recorded := hInvariant.recorded
  spent := by
    intro other sent hSent
    rcases List.mem_append.mp hSent with hEarlier | hNew
    · rcases hInvariant.spent other sent hEarlier with
        ⟨cumulative, hParsed, hBelow | ⟨hRetrying, hOther⟩⟩
      · exact ⟨cumulative, hParsed, .inl hBelow⟩
      · exact ⟨cumulative, hParsed, .inr ⟨congrArg some (hRetried other hRetrying), hOther⟩⟩
    · rcases commitPayload_eq_ok hPayload with ⟨amount, hSigns⟩
      cases List.mem_singleton.mp hNew
      exact ⟨_, hSigns.cumulative, .inr ⟨rfl, hPayload⟩⟩
  tasks := by
    intro other task hTask
    rcases hInvariant.tasks other task hTask with ⟨signed, newCumulative, now, hSent, hTask⟩
    exact ⟨signed, newCumulative, now, List.mem_append_left _ hSent, hTask⟩
  receipts := hInvariant.receipts
  flight := by
    rintro other ⟨⟩
    exact ⟨directive, rfl, hPayload⟩
  standing := hInvariant.standing
  made := hInvariant.made

theorem committed (hInvariant : World.Invariant start world) {directive : MeteringDirective}
    {payload : CommitPayload} {receipt : CommitReceipt} {consumer : SessionConsumer}
    (hFlight : world.inFlight = some payload) (hRetrying : world.retrying = some directive)
    (hReceipt : (payload, receipt) ∈ world.receipts)
    (hCommitted : world.consumer.commitDirective directive (fun _ => .ok receipt) =
      .ok (consumer, receipt)) :
    World.Invariant start { world with consumer, retrying := none, inFlight := none } ∧
      world.server.cumulative = consumer.session.cumulative := by
  rcases commitDirective_eq_ok hCommitted with ⟨signed, amount, hSigned, hSigns, -, hAfter⟩
  have hWatermark : consumer.session.cumulative = world.consumer.session.cumulative + amount := by
    rw [hAfter]
  have hSame : signed = payload := by
    rcases hInvariant.flight payload hFlight with ⟨other, hOther, hPayload⟩
    rw [hRetrying, Option.some.injEq] at hOther
    rw [← hOther, hSigned, Except.ok.injEq] at hPayload
    exact hPayload
  have hEqual : world.server.cumulative = consumer.session.cumulative := by
    rcases hInvariant.receipts payload receipt hReceipt with ⟨cumulative, hParsed, hBelow⟩
    have hCumulative : world.consumer.session.cumulative + amount = cumulative := by
      simpa [← hSame, hSigns.cumulative] using hParsed
    rcases hInvariant.inStep with hBehind | ⟨other, asked, hOther, hAsked, hAhead⟩
    · have hPositive := hSigns.positive
      omega
    · rw [hRetrying, Option.some.injEq] at hOther
      rw [← hOther, hSigns.asks, Except.ok.injEq] at hAsked
      omega
  refine ⟨⟨⟨hInvariant.once, hInvariant.settled, hInvariant.signed, hInvariant.total⟩,
    .inl hEqual, .inl hEqual, hInvariant.recorded, ?_, hInvariant.tasks, hInvariant.receipts, by simp,
    hInvariant.standing, hInvariant.made⟩, hEqual⟩
  intro other sent hSent
  rcases hInvariant.spent other sent hSent with
    ⟨cumulative, hParsed, hBelow | ⟨hOther, hPayload⟩⟩
  · exact ⟨cumulative, hParsed, .inl (by dsimp only; omega)⟩
  · rw [hRetrying, Option.some.injEq] at hOther
    rw [← hOther, hSigned, Except.ok.injEq] at hPayload
    have hCumulative : world.consumer.session.cumulative + amount = cumulative := by
      simpa [← hPayload, hSigns.cumulative] using hParsed
    exact ⟨cumulative, hParsed, .inl (by dsimp only; omega)⟩

theorem perm_of_charged {charges : List Charge} {pendings : List PendingDelivery}
    (index : Fin pendings.length) (amount : ℕ) :
    ((charges.map fun charge => deliveryOf charge.reservation) ++ pendings.map deliveryOf).Perm
      (((charges ++ [(⟨pendings[index], amount⟩ : Charge)]).map fun charge =>
        deliveryOf charge.reservation) ++ (pendings.eraseIdx index).map deliveryOf) := by
  have hPicked := (List.getElem_cons_eraseIdx_perm index.isLt).symm.map deliveryOf
  simpa using hPicked.append_left (charges.map fun charge => deliveryOf charge.reservation)

theorem committedAuthorization_applyTo {task : CommitTask} {nowMs spentAmount : ℕ}
    {state : ChannelState} {index : Fin state.pendingDeliveries.length}
    (hNone : state.committedAuthorization task.deliveryId = none) :
    (task.applyTo config nowMs state index spentAmount).committedAuthorization task.deliveryId =
      some (task.record (task.newCumulative - state.cumulative)) := by
  have hLength : state.committedDeliveries.length + 1 - maxCommittedAuthorizations ≤
      state.committedDeliveries.length := by
    simp only [maxCommittedAuthorizations]
    omega
  have hKept : (state.committedDeliveries.drop
      (state.committedDeliveries.length + 1 - maxCommittedAuthorizations)).find?
        (fun entry => entry.deliveryId = task.deliveryId) = none := by
    apply List.find?_eq_none.mpr
    intro entry hEntry
    exact List.find?_eq_none.mp hNone entry (List.mem_of_mem_drop hEntry)
  simp only [ChannelState.committedAuthorization, CommitTask.applyTo, List.length_append,
    List.length_singleton, List.drop_append_of_le_length hLength, List.find?_append, hKept]
  simp [CommitTask.record]

theorem charged (hInvariant : World.Invariant start world) {directive : MeteringDirective}
    {payload : CommitPayload} {newCumulative : ℕ} {now : ℤ} {nowMs spentAmount amount : ℕ}
    {pending : Fin world.server.pendingDeliveries.length} {receipt : CommitReceipt}
    {after : ChannelState} {tasks : List (CommitPayload × CommitTask)}
    (hTasks : ∀ other task, (other, task) ∈ tasks → (other, task) ∈ world.tasks)
    (hSent : (directive, payload) ∈ world.sent)
    (hParsed : parseU64 payload.voucher.data.cumulativeAmount = some newCumulative)
    (hPending : (world.server.pendingDeliveries.get pending).deliveryId = payload.deliveryId)
    (hReserved : (world.server.pendingDeliveries.get pending).amount = amount)
    (hRetrying : world.retrying = some directive)
    (hSigns : Signs world.consumer directive payload amount)
    (hEqual : world.server.cumulative = world.consumer.session.cumulative)
    (hPayload : world.consumer.commitPayload directive = .ok payload)
    (hCumulative : newCumulative = world.server.cumulative + amount)
    (hNone : world.server.committedAuthorization payload.deliveryId = none)
    (hAfter : after = (payload.task newCumulative now).applyTo config nowMs world.server pending
      spentAmount) :
    World.Invariant start
      { world with
        server := after
        tasks
        receipts := world.receipts ++ [(payload, receipt)]
        charges := world.charges ++ [⟨world.server.pendingDeliveries.get pending, amount⟩] } := by
  have hRaised : after.cumulative = newCumulative := by
    rw [hAfter]
    rfl
  have hDeliveries : after.pendingDeliveries =
      world.server.pendingDeliveries.eraseIdx pending := by
    rw [hAfter]
    rfl
  have hCharged : ∀ charge ∈ world.charges ++ [⟨world.server.pendingDeliveries.get pending, amount⟩],
      charge ∈ world.charges ∨ charge = ⟨world.server.pendingDeliveries.get pending, amount⟩ := by
    intro charge hCharge
    simpa using hCharge
  have hStanding := (perm_of_charged pending amount).subperm_right.mp hInvariant.standing
  refine ⟨⟨?_, ?_, ?_, ?_⟩, ?_, .inr ⟨directive, payload, hRetrying, hPayload, ?_⟩, ?_,
    hInvariant.spent, ?_, ?_, hInvariant.flight, hDeliveries ▸ hStanding, ?_⟩
  · exact (List.sublist_append_left _ _).subperm.trans hStanding
  · intro charge hCharge
    rcases hCharged charge hCharge with hEarlier | rfl
    · exact hInvariant.settled charge hEarlier
    · exact ⟨hReserved.symm, hInvariant.made _ (List.getElem_mem pending.isLt)⟩
  · intro charge hCharge
    rcases hCharged charge hCharge with hEarlier | rfl
    · exact hInvariant.signed charge hEarlier
    · exact ⟨directive, payload, hSent, hSigns.deliveryId.symm.trans hPending.symm, hSigns.asks⟩
  · have hTotal := hInvariant.total
    simp only [List.map_append, List.map_cons, List.map_nil, List.sum_append, List.sum_cons,
      List.sum_nil]
    omega
  · exact .inr ⟨directive, amount, hRetrying, hSigns.asks, by dsimp only; omega⟩
  · refine ⟨newCumulative, (payload.task newCumulative now).record
      (newCumulative - world.server.cumulative), hParsed, ?_, rfl, rfl⟩
    dsimp only
    rw [hAfter]
    exact committedAuthorization_applyTo hNone
  · intro recorded hRecorded
    have hIn : recorded ∈ world.server.committedDeliveries ++
        [(payload.task newCumulative now).record (newCumulative - world.server.cumulative)] := by
      rw [hAfter] at hRecorded
      exact List.mem_of_mem_drop hRecorded
    rcases List.mem_append.mp hIn with hEarlier | hNew
    · have hBelow := hInvariant.recorded recorded hEarlier
      dsimp only
      omega
    · rw [List.mem_singleton.mp hNew]
      exact hRaised.ge
  · exact fun other task hTask => hInvariant.tasks other task (hTasks other task hTask)
  · intro other answer hAnswer
    rcases List.mem_append.mp hAnswer with hEarlier | hNew
    · rcases hInvariant.receipts other answer hEarlier with ⟨cumulative, hOther, hBelow⟩
      exact ⟨cumulative, hOther, by dsimp only; omega⟩
    · cases List.mem_singleton.mp hNew
      exact ⟨newCumulative, hParsed, hRaised.ge⟩
  · intro standing hIn
    rw [hDeliveries] at hIn
    exact hInvariant.made standing (List.mem_of_mem_eraseIdx hIn)

theorem updated (hInvariant : World.Invariant start world) {nowMs : ℕ}
    (index : Fin world.tasks.length) {after : ChannelState} {receipt : CommitReceipt}
    (hCommitted : commitDelivery config nowMs world.tasks[index].2 (some world.server) =
      .ok (after, receipt)) :
    World.Invariant start
      { world with
        server := after
        tasks := world.tasks.eraseIdx index
        receipts := world.receipts ++ [(world.tasks[index].1, receipt)]
        charges := world.charges ++ chargesOf world.server after world.tasks[index].2 } := by
  rcases hEntry : world.tasks[index] with ⟨payload, task⟩
  rw [hEntry] at hCommitted
  have hIn : (payload, task) ∈ world.tasks := hEntry ▸ List.getElem_mem index.isLt
  rcases hInvariant.tasks payload task hIn with
    ⟨directive, newCumulative, now, hSent, hParsed, rfl⟩
  have hTasks : ∀ other task, (other, task) ∈ world.tasks.eraseIdx index →
      (other, task) ∈ world.tasks := fun _ _ hTask => List.mem_of_mem_eraseIdx hTask
  rcases commitDelivery_eq_ok hCommitted with
    ⟨recorded, hRecorded, hSame, rfl⟩ |
      ⟨pending, spentAmount, hNone, hPending, hIndex, hReserved, hAbove, hAfter⟩
  · rw [chargesOf_self, List.append_nil]
    apply hInvariant.of_messages (fun _ => id) (fun other task hTask => .inl (hTasks other task hTask))
    intro other answer hAnswer
    rcases List.mem_append.mp hAnswer with hEarlier | hNew
    · exact .inl hEarlier
    · cases List.mem_singleton.mp hNew
      exact .inr ⟨newCumulative, hParsed, hSame.ge.trans (hInvariant.recorded recorded hRecorded)⟩
  · rcases hInvariant.takes_retried hSent hParsed hAbove with
      ⟨amount, hRetrying, hPayload, hSigns, hEqual, hCumulative⟩
    have hTaken : world.server.cumulative + (world.server.pendingDeliveries.get pending).amount =
      newCumulative := hReserved
    have hRaised : after.cumulative = newCumulative := by
      rw [hAfter]
      rfl
    have hDifference : after.cumulative - world.server.cumulative = amount := by omega
    rw [chargesOf_taken hIndex (by omega), hDifference]
    exact hInvariant.charged hTasks hSent hParsed hPending (by omega) hRetrying hSigns hEqual
      hPayload hCumulative hNone hAfter

theorem step (hInvariant : World.Invariant start world) {event : Event}
    (hStep : Step config world event next) : World.Invariant start next := by
  cases hStep with
  | elsewhere hSame => exact hInvariant.elsewhere hSame
  | reserved hBegun => exact hInvariant.reserved hBegun
  | usageRecorded hRecorded => exact hInvariant.usageRecorded hRecorded
  | checked hSent hChecked => exact hInvariant.checked hSent hChecked
  | replayed hSent hChecked => exact hInvariant.replayed hChecked
  | updated index hCommitted => exact hInvariant.updated index hCommitted
  | refused index => exact hInvariant.refused index
  | streamed hStreamed => exact hInvariant.streamed _
  | committing hIdle hRetried hPayload => exact hInvariant.committing hRetried hPayload
  | committed hFlight hRetrying hReceipt hCommitted =>
      exact (hInvariant.committed hFlight hRetrying hReceipt hCommitted).1
  | failed => exact hInvariant.failed

theorem run (hInvariant : World.Invariant start world) (hRun : Run config world next) :
    World.Invariant start next := by
  induction hRun with
  | refl => exact hInvariant
  | tail _ hStep hInduction =>
      rcases hStep with ⟨event, hStep⟩
      exact hInduction.step hStep

end World.Invariant

/-- A consumer signs nothing past its budget, whatever server it talks to; and as long as
it retries what was not answered, it stays in step with an honest one over a lossy
transport. -/
theorem metered_inStep (config : SessionConfig) {start : World} (hStart : start.Starts) :
    (∀ world, Run config start world → world.InStep ∧ start.ChargesOnce world ∧
      ∀ receipt next, Step config world (.committed receipt) next →
        next.server.cumulative = next.consumer.session.cumulative) ∧
    ∀ (client : Client) (events : List ClientEvent), client.Bounded (client.run events) := by
  refine ⟨?_, fun client events => (Client.Bounded.refl client).run events⟩
  intro world hRun
  have hInvariant := (World.Invariant.initial hStart).run hRun
  refine ⟨hInvariant.inStep, hInvariant.toChargesOnce, ?_⟩
  rintro receipt next ⟨⟩
  rename_i hFlight hRetrying hReceipt hCommitted
  exact (hInvariant.committed hFlight hRetrying hReceipt hCommitted).2

/-! ### A lost receipt -/

def sampleConfig : SessionConfig where
  operator := "operator"
  gracePeriodSeconds := 60
  currency := .ok "mint"
  checkSignature := fun _ _ _ _ _ => .ok ()

def sampleConsumer : SessionConsumer where
  session :=
    { channelId := "channel"
      cumulative := 0
      expiresAt := 0
      signer := ⟨"signer", fun data => .ok ("signed " ++ data.cumulativeAmount)⟩ }
  budget := ⟨100, 500, by decide, by decide⟩
  checkDirective := fun _ => .ok ()

def sampleStart : World where
  server := openedChannel
  consumer := sampleConsumer
  stream := ⟨none, none, false⟩
  retrying := none
  inFlight := none
  sent := []
  tasks := []
  receipts := []
  reservations := []
  charges := []

def sampleRequest : DeliveryRequest where
  sessionId := "channel"
  amount := 40
  deliveryId := some "delivery"
  commitUrl := none
  proof := none
  expiresAt := none

def sampleDirective : MeteringDirective :=
  sampleRequest.directive "mint" (sampleRequest.reservation openedChannel)

def samplePayload : CommitPayload where
  deliveryId := "delivery"
  voucher :=
    { data := { channelId := "channel", cumulativeAmount := "40", expiresAt := some 0 }
      signer := "signer"
      signature := "signed 40" }

theorem sampleStart_starts : sampleStart.Starts where
  equal := rfl
  recorded := by simp [sampleStart, openedChannel]
  reservations := rfl
  retrying := rfl
  inFlight := rfl
  sent := rfl
  tasks := rfl
  receipts := rfl
  charges := rfl

def reservedChannel : ChannelState :=
  { openedChannel with
    nextDeliverySequence := 1
    pendingDeliveries := [sampleRequest.reservation openedChannel] }

def sampleTask : CommitTask :=
  samplePayload.task 40 0

def committedChannel : ChannelState :=
  sampleTask.applyTo sampleConfig 0 reservedChannel ⟨0, by decide⟩ 40

/-- The server commits, the receipt is lost, and the retry is answered from the record. -/
theorem lostReceipt_run : ∃ world next receipt, Run sampleConfig sampleStart world ∧
    Step sampleConfig world (.committed receipt) next ∧ receipt.status = .replayed := by
  have hBegun : beginDelivery sampleConfig 0 sampleRequest (some openedChannel) =
      .ok (reservedChannel, sampleDirective) := rfl
  have hPayload : sampleConsumer.commitPayload sampleDirective = .ok samplePayload := rfl
  have hChecked : checkCommit sampleConfig 0 samplePayload (some reservedChannel) =
      .ok (.reserved sampleTask) := rfl
  have hUpdated : commitDelivery sampleConfig 0 sampleTask (some reservedChannel) =
      .ok (committedChannel, sampleTask.receipt 40 40 .committed) := rfl
  have hReplayed : checkCommit sampleConfig 0 samplePayload (some committedChannel) =
      .ok (.replayed (sampleTask.receipt 40 40 .replayed)) := rfl
  have hReserved : Run sampleConfig sampleStart _ := Run.next .refl (.reserved hBegun)
  have hSigned := hReserved.next (.committing rfl nofun hPayload)
  have hSnapshot := hSigned.next (.checked (List.mem_singleton_self _) hChecked)
  have hMoved := hSnapshot.next (.updated ⟨0, by decide⟩ hUpdated)
  have hLost := hMoved.next .failed
  have hRetried := hLost.next (.committing rfl (by rintro _ ⟨⟩; rfl) hPayload)
  have hAnswered := hRetried.next
    (.replayed (List.mem_append_right _ (List.mem_singleton_self _)) hReplayed)
  exact ⟨_, _, _, hAnswered,
    .committed rfl rfl (List.mem_append_right _ (List.mem_singleton_self _)) rfl, rfl⟩

/-- The retry whose receipt arrives leaves the two watermarks equal. -/
theorem metered_inStep_of_lostReceipt : ∃ world next receipt, Run sampleConfig sampleStart world ∧
    Step sampleConfig world (.committed receipt) next ∧ receipt.status = .replayed ∧
    next.server.cumulative = next.consumer.session.cumulative := by
  rcases lostReceipt_run with ⟨world, next, receipt, hRun, hStep, hReplayed⟩
  exact ⟨world, next, receipt, hRun, hStep, hReplayed,
    ((metered_inStep sampleConfig sampleStart_starts).1 world hRun).2.2 receipt next hStep⟩

end PayKit.Session.Metered
