import Mathlib.Logic.Function.Basic
import Mathlib.Logic.Relation
import PayKit.Concurrency.Program

/-!
# Interleaved runs and their proof rule

Any number of callers run programs against one shared state. A step lets one
caller perform the next call of its program atomically; which caller moves and
how a nondeterministic call is answered are arbitrary. The run keeps the
history of completed calls, newest first, as an auxiliary variable: it is never
read by a program, but invariants and assertions speak about it.

The proof rule is a rely-guarantee rule in which the rely is fixed: while a
caller waits, the others only extend the history by events of their own and
keep the invariant. An assertion about a caller's own events, or about some
event having happened, is therefore stable for free, and everything else has
to follow from the invariant. `Environment.Safe` is the resulting weakest
precondition of a program, and `Environment.safe_of_reachable` its soundness.
-/

namespace PayKit.Concurrency

universe u

/-- One completed call. -/
structure Event (Caller : Type) (Call : Type u) (Reply : Call → Type) where
  caller : Caller
  call : Call
  reply : Reply call

/-- The shared state together with the history of completed calls, newest first. -/
structure World (Caller State : Type) (Call : Type u) (Reply : Call → Type) where
  state : State
  history : List (Event Caller Call Reply)

def World.record {Caller State : Type} {Call : Type u} {Reply : Call → Type}
    (world : World Caller State Call Reply) (event : Event Caller Call Reply) (state : State) :
    World Caller State Call Reply :=
  ⟨state, event :: world.history⟩

@[simp]
theorem World.record_state {Caller State : Type} {Call : Type u} {Reply : Call → Type}
    (world : World Caller State Call Reply) (event : Event Caller Call Reply) (state : State) :
    (world.record event state).state = state :=
  rfl

@[simp]
theorem World.record_history {Caller State : Type} {Call : Type u} {Reply : Call → Type}
    (world : World Caller State Call Reply) (event : Event Caller Call Reply) (state : State) :
    (world.record event state).history = event :: world.history :=
  rfl

/-- A world and what is left to run of every caller's program. -/
structure Config (Caller State : Type) (Call : Type u) (Reply : Call → Type)
    (Result : Type) where
  world : World Caller State Call Reply
  threads : Caller → Program Call Reply Result

/-- The answers a call may get with the state it leaves, and the steps that the
runs under study take. -/
structure Environment (Caller State : Type) (Call : Type u) (Reply : Call → Type) where
  effect : (call : Call) → State → Reply call → State → Prop
  allowed : World Caller State Call Reply → Event Caller Call Reply → Prop

/-- What may happen to the world while `caller` waits, when every step keeps the
invariant. -/
def Interferes {Caller State : Type} {Call : Type u} {Reply : Call → Type}
    (invariant : World Caller State Call Reply → Prop) (caller : Caller)
    (before after : World Caller State Call Reply) : Prop :=
  invariant after ∧
    ∃ events, after.history = events ++ before.history ∧ ∀ event ∈ events, event.caller ≠ caller

namespace Interferes

variable {Caller State : Type} {Call : Type u} {Reply : Call → Type}
  {invariant : World Caller State Call Reply → Prop} {caller : Caller}
  {before after : World Caller State Call Reply}

theorem refl (holds : invariant before) : Interferes invariant caller before before :=
  ⟨holds, [], rfl, by simp⟩

theorem trans {later : World Caller State Call Reply}
    (first : Interferes invariant caller before after)
    (second : Interferes invariant caller after later) :
    Interferes invariant caller before later := by
  rcases first with ⟨_, firstEvents, firstHistory, firstOthers⟩
  rcases second with ⟨holds, secondEvents, secondHistory, secondOthers⟩
  refine ⟨holds, secondEvents ++ firstEvents, ?_, ?_⟩
  · rw [secondHistory, firstHistory, List.append_assoc]
  · intro event eventMem
    rcases List.mem_append.mp eventMem with inSecond | inFirst
    · exact secondOthers event inSecond
    · exact firstOthers event inFirst

theorem suffix (interference : Interferes invariant caller before after) :
    before.history <:+ after.history := by
  rcases interference with ⟨_, events, history, _⟩
  exact ⟨events, history.symm⟩

theorem mem_history_of_own (interference : Interferes invariant caller before after)
    {event : Event Caller Call Reply} (own : event.caller = caller)
    (happened : event ∈ after.history) : event ∈ before.history := by
  rcases interference with ⟨_, events, history, others⟩
  rw [history] at happened
  rcases List.mem_append.mp happened with new | old
  · exact absurd own (others event new)
  · exact old

end Interferes

/-- The caller made a call of the kind, with such a reply. -/
def Did {Caller : Type} {Call : Type u} {Reply : Call → Type}
    (history : List (Event Caller Call Reply)) (caller : Caller)
    (kind : (call : Call) → Reply call → Prop) : Prop :=
  ∃ event ∈ history, event.caller = caller ∧ kind event.call event.reply

section

variable {Caller State : Type} {Call : Type u} {Reply : Call → Type} {mover caller : Caller}
  {call : Call} {reply : Reply call} {history older newer : List (Event Caller Call Reply)}
  {kind : (call : Call) → Reply call → Prop}

theorem not_did_nil : ¬Did ([] : List (Event Caller Call Reply)) caller kind := by
  simp [Did]

theorem did_cons : Did (⟨mover, call, reply⟩ :: history) caller kind ↔
    (mover = caller ∧ kind call reply) ∨ Did history caller kind := by
  simp [Did]

theorem did_self (isKind : kind call reply) :
    Did (⟨caller, call, reply⟩ :: history) caller kind :=
  did_cons.mpr (.inl ⟨rfl, isKind⟩)

theorem Did.mono {weaker : (call : Call) → Reply call → Prop} (did : Did history caller kind)
    (implies : ∀ call reply, kind call reply → weaker call reply) : Did history caller weaker := by
  rcases did with ⟨event, eventMem, own, isKind⟩
  exact ⟨event, eventMem, own, implies _ _ isKind⟩

theorem Did.suffix (did : Did older caller kind) (grown : older <:+ newer) :
    Did newer caller kind := by
  rcases did with ⟨event, eventMem, own, isKind⟩
  exact ⟨event, grown.mem eventMem, own, isKind⟩

/-- What the waiting caller did is the same before and after. -/
theorem Interferes.did_iff {invariant : World Caller State Call Reply → Prop}
    {before after : World Caller State Call Reply}
    (interference : Interferes invariant caller before after) :
    Did after.history caller kind ↔ Did before.history caller kind := by
  refine ⟨?_, fun did => did.suffix interference.suffix⟩
  rintro ⟨event, eventMem, own, isKind⟩
  exact ⟨event, interference.mem_history_of_own own eventMem, own, isKind⟩

end

namespace Environment

variable {Caller State : Type} {Call : Type u} {Reply : Call → Type} {Result First : Type}

/-- One caller performs its next call. -/
inductive Step [DecidableEq Caller] (environment : Environment Caller State Call Reply) :
    Config Caller State Call Reply Result → Config Caller State Call Reply Result → Prop where
  | perform (config : Config Caller State Call Reply Result) (caller : Caller) (call : Call)
      (next : Reply call → Program Call Reply Result) (reply : Reply call) (state : State)
      (waiting : config.threads caller = .perform call next)
      (answered : environment.effect call config.world.state reply state)
      (permitted : environment.allowed config.world ⟨caller, call, reply⟩) :
      Step environment config
        ⟨config.world.record ⟨caller, call, reply⟩ state,
          Function.update config.threads caller (next reply)⟩

/-- The configurations a run reaches. -/
def Reachable [DecidableEq Caller] (environment : Environment Caller State Call Reply) :
    Config Caller State Call Reply Result → Config Caller State Call Reply Result → Prop :=
  Relation.ReflTransGen environment.Step

/-- Every step the program takes as `caller` keeps the invariant, `running`
holds whenever it waits, and `post` holds of its result from then on. -/
def Safe (environment : Environment Caller State Call Reply)
    (invariant : World Caller State Call Reply → Prop) (caller : Caller)
    (running : World Caller State Call Reply → Prop)
    (post : Result → World Caller State Call Reply → Prop) :
    Program Call Reply Result → World Caller State Call Reply → Prop
  | .done result, before => ∀ after, Interferes invariant caller before after → post result after
  | .perform call next, before => ∀ now, Interferes invariant caller before now →
      running now ∧ ∀ reply state, environment.effect call now.state reply state →
        environment.allowed now ⟨caller, call, reply⟩ →
          invariant (now.record ⟨caller, call, reply⟩ state) ∧
            environment.Safe invariant caller running post (next reply)
              (now.record ⟨caller, call, reply⟩ state)

variable {environment : Environment Caller State Call Reply}
  {invariant : World Caller State Call Reply → Prop} {caller : Caller}
  {running : World Caller State Call Reply → Prop}
  {post : Result → World Caller State Call Reply → Prop}
  {before after : World Caller State Call Reply}

/-- Safety survives whatever the others do. -/
theorem Safe.interfere {program : Program Call Reply Result}
    (safe : environment.Safe invariant caller running post program before)
    (interference : Interferes invariant caller before after) :
    environment.Safe invariant caller running post program after := by
  cases program with
  | done result => exact fun later further => safe later (interference.trans further)
  | perform call next => exact fun now further => safe now (interference.trans further)

theorem Safe.weaken {program : Program Call Reply Result}
    {weaker : Result → World Caller State Call Reply → Prop}
    (safe : environment.Safe invariant caller running post program before)
    (implies : ∀ result world, invariant world → before.history <:+ world.history →
      post result world → weaker result world) :
    environment.Safe invariant caller running weaker program before := by
  induction program generalizing before with
  | done result =>
      intro after interference
      exact implies result after interference.1 interference.suffix (safe after interference)
  | perform call next ih =>
      intro now interference
      refine ⟨(safe now interference).1, ?_⟩
      intro reply state answered permitted
      rcases (safe now interference).2 reply state answered permitted with ⟨kept, rest⟩
      refine ⟨kept, ih reply rest ?_⟩
      intro result world holds suffix
      apply implies result world holds
      exact (interference.suffix.trans (List.suffix_cons _ _)).trans suffix

theorem Safe.weaken_running {weaker : World Caller State Call Reply → Prop}
    {program : Program Call Reply Result}
    (safe : environment.Safe invariant caller running post program before)
    (implies : ∀ world, running world → weaker world) :
    environment.Safe invariant caller weaker post program before := by
  induction program generalizing before with
  | done result => exact safe
  | perform call next ih =>
      intro now interference
      refine ⟨implies now (safe now interference).1, ?_⟩
      intro reply state answered permitted
      rcases (safe now interference).2 reply state answered permitted with ⟨kept, rest⟩
      exact ⟨kept, ih reply rest⟩

/-- A program is safe when each of its calls keeps the invariant for a reason that
only depends on what has happened. -/
theorem Safe.of_uses {quiet : Call → Prop} {reason : World Caller State Call Reply → Prop}
    {program : Program Call Reply Result}
    (stable : ∀ earlier later, earlier.history <:+ later.history → reason earlier → reason later)
    (keeps : ∀ world call reply state, invariant world → reason world → quiet call →
      environment.effect call world.state reply state →
        environment.allowed world ⟨caller, call, reply⟩ →
          invariant (world.record ⟨caller, call, reply⟩ state))
    (uses : program.Uses quiet) (holds : reason before) :
    environment.Safe invariant caller (fun _ => True) (fun _ => reason) program before := by
  induction program generalizing before with
  | done result =>
      intro after interference
      exact stable before after interference.suffix holds
  | perform call next ih =>
      intro now interference
      refine ⟨trivial, ?_⟩
      intro reply state answered permitted
      have holdsNow := stable before now interference.suffix holds
      refine ⟨keeps now call reply state interference.1 holdsNow uses.1 answered permitted, ?_⟩
      apply ih reply (uses.2 reply)
      exact stable now _ (List.suffix_cons _ _) holdsNow

theorem Safe.of_quiet {quiet : Call → Prop} {program : Program Call Reply Result}
    (keeps : ∀ world call reply state, invariant world → quiet call →
      environment.effect call world.state reply state →
        environment.allowed world ⟨caller, call, reply⟩ →
          invariant (world.record ⟨caller, call, reply⟩ state))
    (uses : program.Uses quiet) :
    environment.Safe invariant caller (fun _ => True) (fun _ _ => True) program before :=
  Safe.of_uses (fun _ _ _ holds => holds)
    (fun world call reply state kept _ => keeps world call reply state kept) uses trivial

/-- The history grew by events of others and by calls in `quiet` of the caller. -/
def QuietSince (quiet : Call → Prop) (caller : Caller)
    (before after : World Caller State Call Reply) : Prop :=
  ∃ events, after.history = events ++ before.history ∧
    ∀ event ∈ events, event.caller = caller → quiet event.call

/-- A caller that makes only quiet calls adds only quiet events of its own. -/
theorem Safe.frame {quiet : Call → Prop} {program : Program Call Reply Result}
    (safe : environment.Safe invariant caller running post program before)
    (uses : program.Uses quiet) :
    environment.Safe invariant caller running
      (fun result world => post result world ∧ QuietSince quiet caller before world)
      program before := by
  induction program generalizing before with
  | done result =>
      intro after interference
      refine ⟨safe after interference, ?_⟩
      rcases interference with ⟨_, events, history, others⟩
      exact ⟨events, history, fun event eventMem own => absurd own (others event eventMem)⟩
  | perform call next ih =>
      intro now interference
      refine ⟨(safe now interference).1, ?_⟩
      intro reply state answered permitted
      rcases (safe now interference).2 reply state answered permitted with ⟨kept, rest⟩
      refine ⟨kept, (ih reply rest (uses.2 reply)).weaken ?_⟩
      rintro result world _ _ ⟨reached, newer, newerHistory, newerQuiet⟩
      rcases interference with ⟨_, older, olderHistory, others⟩
      refine ⟨reached, newer ++ ⟨caller, call, reply⟩ :: older, ?_, ?_⟩
      · rw [newerHistory, World.record_history, olderHistory]
        simp
      · intro event eventMem own
        rcases List.mem_append.mp eventMem with inNewer | inOlder
        · exact newerQuiet event inNewer own
        · rcases List.mem_cons.mp inOlder with rfl | inOlder
          · exact uses.1
          · exact absurd own (others event inOlder)

theorem QuietSince.interfere {quiet : Call → Prop}
    {before after later : World Caller State Call Reply}
    (since : QuietSince quiet caller before after)
    (interference : Interferes invariant caller after later) :
    QuietSince quiet caller before later := by
  rcases since with ⟨older, olderHistory, olderQuiet⟩
  rcases interference with ⟨_, newer, newerHistory, others⟩
  refine ⟨newer ++ older, ?_, ?_⟩
  · rw [newerHistory, olderHistory, List.append_assoc]
  · intro event eventMem own
    rcases List.mem_append.mp eventMem with inNewer | inOlder
    · exact absurd own (others event inNewer)
    · exact olderQuiet event inOlder own

/-- An event of the caller whose call is not quiet happened before. -/
theorem QuietSince.mem_before {quiet : Call → Prop}
    {before after : World Caller State Call Reply} (since : QuietSince quiet caller before after)
    {event : Event Caller Call Reply} (own : event.caller = caller)
    (loud : ¬quiet event.call) (happened : event ∈ after.history) : event ∈ before.history := by
  rcases since with ⟨events, history, allQuiet⟩
  rw [history] at happened
  rcases List.mem_append.mp happened with new | old
  · exact absurd (allQuiet event new own) loud
  · exact old

/-- Sequential composition: the second program starts in some later world in
which the postcondition of the first holds. -/
theorem Safe.bind {program : Program Call Reply First}
    {rest : First → Program Call Reply Result}
    {middle : First → World Caller State Call Reply → Prop}
    (holds : invariant before)
    (first : environment.Safe invariant caller running middle program before)
    (second : ∀ result world, invariant world → before.history <:+ world.history →
      middle result world → environment.Safe invariant caller running post (rest result) world) :
    environment.Safe invariant caller running post (program >>= rest) before := by
  induction program generalizing before with
  | done result =>
      exact second result before holds List.suffix_rfl (first before (.refl holds))
  | perform call next ih =>
      intro now interference
      refine ⟨(first now interference).1, ?_⟩
      intro reply state answered permitted
      rcases (first now interference).2 reply state answered permitted with ⟨kept, safe⟩
      refine ⟨kept, ih reply kept safe ?_⟩
      intro result world holdsLater suffix reached
      apply second result world holdsLater _ reached
      exact (interference.suffix.trans (List.suffix_cons _ _)).trans suffix

theorem Safe.fallible_bind {Error Second : Type}
    {post : Except Error Second → World Caller State Call Reply → Prop}
    {program : Fallible Error Call Reply First}
    {rest : First → Fallible Error Call Reply Second}
    {middle : Except Error First → World Caller State Call Reply → Prop}
    (holds : invariant before)
    (first : environment.Safe invariant caller running middle program.run before)
    (onOk : ∀ result world, invariant world → before.history <:+ world.history →
      middle (.ok result) world →
        environment.Safe invariant caller running post (rest result).run world)
    (onError : ∀ error world, invariant world → before.history <:+ world.history →
      middle (.error error) world →
        environment.Safe invariant caller running post (.done (.error error)) world) :
    environment.Safe invariant caller running post (program >>= rest).run before := by
  rw [ExceptT.run_bind]
  apply first.bind holds
  intro outcome world holdsLater suffix reached
  cases outcome with
  | ok result => exact onOk result world holdsLater suffix reached
  | error error => exact onError error world holdsLater suffix reached

theorem Safe.post_of_done {result : Result} (holds : invariant before)
    (safe : environment.Safe invariant caller running post (.done result) before) :
    post result before :=
  safe before (.refl holds)

theorem Safe.running_of_perform {call : Call} {next : Reply call → Program Call Reply Result}
    (holds : invariant before)
    (safe : environment.Safe invariant caller running post (.perform call next) before) :
    running before :=
  (safe before (.refl holds)).1

/-- Soundness: if every caller starts safe, every reachable world keeps the
invariant and every caller is still safe in it. -/
theorem safe_of_reachable [DecidableEq Caller]
    {running : Caller → World Caller State Call Reply → Prop}
    {post : Caller → Result → World Caller State Call Reply → Prop}
    {start reached : Config Caller State Call Reply Result}
    (holds : invariant start.world)
    (safe : ∀ caller, environment.Safe invariant caller (running caller) (post caller)
      (start.threads caller) start.world)
    (run : environment.Reachable start reached) :
    invariant reached.world ∧
      ∀ caller, environment.Safe invariant caller (running caller) (post caller)
        (reached.threads caller) reached.world := by
  induction run with
  | refl => exact ⟨holds, safe⟩
  | tail _ step ih =>
      rcases ih with ⟨holdsNow, safeNow⟩
      cases step with
      | perform mover call next reply state waiting answered permitted =>
          have moving := safeNow mover
          rw [waiting] at moving
          rcases (moving _ (.refl holdsNow)).2 reply state answered permitted with ⟨kept, rest⟩
          refine ⟨kept, ?_⟩
          intro other
          by_cases same : other = mover
          · subst same
            simpa using rest
          · simp only [Function.update_of_ne same]
            apply (safeNow other).interfere
            exact ⟨kept, [⟨mover, call, reply⟩], rfl, by simpa using Ne.symm same⟩

/-- A property of the world that every allowed step keeps holds along a run. -/
theorem Reachable.world_induction [DecidableEq Caller]
    {motive : World Caller State Call Reply → Prop}
    {start reached : Config Caller State Call Reply Result}
    (run : environment.Reachable start reached) (initial : motive start.world)
    (kept : ∀ world event state, motive world →
      environment.effect event.call world.state event.reply state →
        environment.allowed world event → motive (world.record event state)) :
    motive reached.world := by
  induction run with
  | refl => exact initial
  | tail _ step ih =>
      cases step with
      | perform mover call next reply state waiting answered permitted =>
          exact kept _ ⟨mover, call, reply⟩ state ih answered permitted

/-- A caller only ever makes calls that its program can make. -/
theorem Reachable.uses [DecidableEq Caller] {quiet : Call → Prop} {caller : Caller}
    {start reached : Config Caller State Call Reply Result}
    (run : environment.Reachable start reached) (uses : (start.threads caller).Uses quiet)
    (initial : ∀ event ∈ start.world.history, event.caller = caller → quiet event.call) :
    (reached.threads caller).Uses quiet ∧
      ∀ event ∈ reached.world.history, event.caller = caller → quiet event.call := by
  induction run with
  | refl => exact ⟨uses, initial⟩
  | tail _ step ih =>
      rcases ih with ⟨usesNow, quietNow⟩
      cases step with
      | perform mover call next reply state waiting answered permitted =>
          by_cases same : mover = caller
          · subst same
            rw [waiting] at usesNow
            refine ⟨by simpa using usesNow.2 reply, ?_⟩
            intro event eventMem own
            rcases List.mem_cons.mp eventMem with rfl | old
            · exact usesNow.1
            · exact quietNow event old own
          · refine ⟨by simpa only [Function.update_of_ne (Ne.symm same)] using usesNow, ?_⟩
            intro event eventMem own
            rcases List.mem_cons.mp eventMem with rfl | old
            · exact absurd own same
            · exact quietNow event old own

theorem Reachable.step_of_mem [DecidableEq Caller]
    {start reached : Config Caller State Call Reply Result}
    (run : environment.Reachable start reached) {event : Event Caller Call Reply}
    (happened : event ∈ reached.world.history) (fresh : event ∉ start.world.history) :
    ∃ before after, environment.Reachable start before ∧ environment.Step before after ∧
      after.world.history = event :: before.world.history ∧ environment.Reachable after reached := by
  induction run with
  | refl => exact absurd happened fresh
  | @tail middle last reaches step ih =>
      have grown : ∃ newest, last.world.history = newest :: middle.world.history := by
        cases step with
        | perform mover call next reply state waiting answered permitted => exact ⟨_, rfl⟩
      rcases grown with ⟨newest, history⟩
      rw [history] at happened
      rcases List.mem_cons.mp happened with rfl | old
      · exact ⟨middle, last, reaches, step, history, .refl⟩
      · rcases ih old with ⟨before, after, reachesBefore, stepBefore, historyAfter, rest⟩
        exact ⟨before, after, reachesBefore, stepBefore, historyAfter, rest.tail step⟩

theorem Reachable.history_suffix [DecidableEq Caller]
    {start reached : Config Caller State Call Reply Result}
    (run : environment.Reachable start reached) :
    start.world.history <:+ reached.world.history := by
  refine world_induction run (motive := fun world => start.world.history <:+ world.history)
    List.suffix_rfl ?_
  intro world event state suffix _ _
  exact suffix.trans (List.suffix_cons _ _)

end Environment

namespace Config

variable {Caller State : Type} {Call : Type u} {Reply : Call → Type} {Result : Type}
  {Choice : Type} [DecidableEq Caller]

/-- Let `turn.1` perform its next call, answered as the handler chooses by
`turn.2`. A finished caller does not move. -/
def advance (handle : Choice → (call : Call) → State → Reply call × State)
    (config : Config Caller State Call Reply Result) (turn : Caller × Choice) :
    Config Caller State Call Reply Result :=
  match config.threads turn.1 with
  | .done _ => config
  | .perform call next =>
      ⟨config.world.record ⟨turn.1, call, (handle turn.2 call config.world.state).1⟩
          (handle turn.2 call config.world.state).2,
        Function.update config.threads turn.1 (next (handle turn.2 call config.world.state).1)⟩

def runSchedule (handle : Choice → (call : Call) → State → Reply call × State)
    (config : Config Caller State Call Reply Result) (schedule : List (Caller × Choice)) :
    Config Caller State Call Reply Result :=
  schedule.foldl (advance handle) config

/-- No step of the schedule is ruled out. -/
def Permitted (handle : Choice → (call : Call) → State → Reply call × State)
    (allowed : World Caller State Call Reply → Event Caller Call Reply → Prop)
    (config : Config Caller State Call Reply Result) : List (Caller × Choice) → Prop
  | [] => True
  | turn :: schedule =>
      (match config.threads turn.1 with
        | .done _ => True
        | .perform call _ =>
            allowed config.world ⟨turn.1, call, (handle turn.2 call config.world.state).1⟩) ∧
        (config.advance handle turn).Permitted handle allowed schedule

/-- A schedule is a run, when the handler answers as the effect allows and no
step is ruled out. -/
theorem reachable_runSchedule {environment : Environment Caller State Call Reply}
    {handle : Choice → (call : Call) → State → Reply call × State}
    (answers : ∀ choice call state,
      environment.effect call state (handle choice call state).1 (handle choice call state).2)
    (config : Config Caller State Call Reply Result) (schedule : List (Caller × Choice))
    (permitted : config.Permitted handle environment.allowed schedule) :
    environment.Reachable config (config.runSchedule handle schedule) := by
  induction schedule generalizing config with
  | nil => exact .refl
  | cons turn schedule ih =>
      refine Relation.ReflTransGen.trans ?_ (ih (config.advance handle turn) permitted.2)
      have permittedNow := permitted.1
      rw [advance]
      split
      · exact .refl
      · rename_i call next waiting
        rw [waiting] at permittedNow
        exact .single (.perform config turn.1 call next _ _ waiting (answers _ _ _) permittedNow)

theorem history_suffix_runSchedule
    {handle : Choice → (call : Call) → State → Reply call × State}
    (config : Config Caller State Call Reply Result) (schedule : List (Caller × Choice)) :
    config.world.history <:+ (config.runSchedule handle schedule).world.history := by
  induction schedule generalizing config with
  | nil => exact List.suffix_rfl
  | cons turn schedule ih =>
      refine List.IsSuffix.trans ?_ (ih (config.advance handle turn))
      rw [advance]
      split
      · exact List.suffix_rfl
      · exact List.suffix_cons _ _

/-- A schedule is permitted when the events it leaves in the history are such
that every step among them is allowed. -/
theorem permitted_of_history
    {handle : Choice → (call : Call) → State → Reply call × State}
    {allowed : World Caller State Call Reply → Event Caller Call Reply → Prop}
    {fine : Event Caller Call Reply → Prop}
    (allows : ∀ world event, (∀ old ∈ event :: world.history, fine old) → allowed world event)
    (config : Config Caller State Call Reply Result) (schedule : List (Caller × Choice))
    (allFine : ∀ event ∈ (config.runSchedule handle schedule).world.history, fine event) :
    config.Permitted handle allowed schedule := by
  induction schedule generalizing config with
  | nil => trivial
  | cons turn schedule ih =>
      refine ⟨?_, ih _ allFine⟩
      cases waiting : config.threads turn.1 with
      | done result => trivial
      | perform call next =>
          apply allows
          intro old oldMem
          apply allFine
          refine (history_suffix_runSchedule (config.advance handle turn) schedule).mem ?_
          simpa only [advance, waiting, World.record_history] using oldMem

theorem permitted_of_unrestricted
    {handle : Choice → (call : Call) → State → Reply call × State}
    {allowed : World Caller State Call Reply → Event Caller Call Reply → Prop}
    (unrestricted : ∀ world event, allowed world event)
    (config : Config Caller State Call Reply Result) (schedule : List (Caller × Choice)) :
    config.Permitted handle allowed schedule :=
  permitted_of_history (fun world event (_ : ∀ old ∈ event :: world.history, True) =>
    unrestricted world event) config schedule fun _ _ => trivial

end Config

end PayKit.Concurrency
