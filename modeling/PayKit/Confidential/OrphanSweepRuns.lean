import Mathlib.Logic.Relation
import Mathlib.Order.Nat
import Mathlib.Tactic.Common
import PayKit.Confidential.OrphanSweep

/-!
# What the orphan sweeper closes

The note of an account's first sighting is kept under its address, and nothing removes it when the
account is closed by its own bundle. As long as no address is used again while the store or a
replica still holds a time from before, every time that is held is from the account's latest life,
and a close is broadcast only for an account that lived for the grace period. An address that is
used again is closed at once.
-/

namespace PayKit.Confidential.Orphan

variable {Replica Pubkey : Type}

/-- The account existed for the grace period since its latest creation. -/
def LivedLong (world : World Replica Pubkey) (pubkey : Pubkey) : Prop :=
  ∃ life, world.lives pubkey = some life ∧
    life.created + graceSecs ≤ life.closed.getD world.now

/-- The replica holds a time from before for the account, or is about to close it. -/
def Phase.HoldsBefore (pubkey : Pubkey) (time : ℕ) : Phase Pubkey → Prop
  | .marking candidate now _ => candidate.pubkey = pubkey ∧ now < time
  | .reading candidate now _ => candidate.pubkey = pubkey ∧ now < time
  | .restarting candidate now _ => candidate.pubkey = pubkey ∧ now < time
  | .simulating confirmed _ => confirmed.pubkey = pubkey
  | .sending confirmed _ => confirmed.pubkey = pubkey
  | _ => False

/-- The store or a replica holds a time from before for the account. -/
def HoldsOldTime (world : World Replica Pubkey) (pubkey : Pubkey) : Prop :=
  (∃ firstSeen, world.marks pubkey = some (.timed firstSeen) ∧ firstSeen < world.now) ∨
    ∃ replica, (world.phases replica).HoldsBefore pubkey world.now

/-- No address is used while a time from before is held for it. -/
def UsesFreshAddress (world : World Replica Pubkey) (action : Action Replica Pubkey) : Prop :=
  ∀ pubkey kind, action = .create pubkey kind → ¬HoldsOldTime world pubkey

/-- The step broadcasts the close of the account. -/
def Broadcasts (world : World Replica Pubkey) (action : Action Replica Pubkey) (pubkey : Pubkey) :
    Prop :=
  ∃ replica confirmed rest, world.phases replica = .sending confirmed rest ∧
    confirmed.pubkey = pubkey ∧ action = .move replica .send

/-- No sweep is running and the store holds no times. -/
structure Initial (world : World Replica Pubkey) : Prop where
  lives : ∀ pubkey life, world.lives pubkey = some life → life.created ≤ world.now
  marks : ∀ pubkey firstSeen, world.marks pubkey ≠ some (.timed firstSeen)
  phases : ∀ replica, world.phases replica = .idle

/-- A run of steps that meet a condition. -/
def Runs [DecidableEq Replica] [DecidableEq Pubkey]
    (Meets : World Replica Pubkey → Action Replica Pubkey → Prop) :
    World Replica Pubkey → World Replica Pubkey → Prop :=
  Relation.ReflTransGen fun world after => ∃ action, Meets world action ∧ world.step action = some after

/-! ### The invariant -/

/-- The account was created, and no later than at a time. -/
def CreatedBy (world : World Replica Pubkey) (pubkey : Pubkey) (time : ℕ) : Prop :=
  ∃ life, world.lives pubkey = some life ∧ life.created ≤ time

def AllCreated (world : World Replica Pubkey) (candidates : List (Candidate Pubkey)) : Prop :=
  ∀ candidate ∈ candidates, CreatedBy world candidate.pubkey world.now

/-- The times that a replica holds are from the latest lives of the accounts. -/
def Phase.Timely (world : World Replica Pubkey) : Phase Pubkey → Prop
  | .idle => True
  | .scanned contexts => ∀ pubkey ∈ contexts, CreatedBy world pubkey world.now
  | .next rest => AllCreated world rest
  | .marking candidate now rest =>
      (now ≤ world.now ∧ CreatedBy world candidate.pubkey now) ∧ AllCreated world rest
  | .reading candidate now rest =>
      (now ≤ world.now ∧ CreatedBy world candidate.pubkey now) ∧ AllCreated world rest
  | .restarting candidate now rest =>
      (now ≤ world.now ∧ CreatedBy world candidate.pubkey now) ∧ AllCreated world rest
  | .simulating confirmed rest =>
      (graceSecs ≤ world.now ∧ CreatedBy world confirmed.pubkey (world.now - graceSecs)) ∧
        AllCreated world rest
  | .sending confirmed rest => LivedLong world confirmed.pubkey ∧ AllCreated world rest
  | .confirming _ rest => AllCreated world rest
  | .deleting _ rest => AllCreated world rest

structure Timely (world : World Replica Pubkey) : Prop where
  lives : ∀ pubkey life, world.lives pubkey = some life → life.created ≤ world.now
  marks : ∀ pubkey firstSeen, world.marks pubkey = some (.timed firstSeen) →
    CreatedBy world pubkey firstSeen
  phases : ∀ replica, (world.phases replica).Timely world

variable {world after : World Replica Pubkey} {pubkey other : Pubkey} {kind : OrphanKind}
  {phase : Phase Pubkey} {replica : Replica} {time : ℕ} {life : Life}
  {candidate : Candidate Pubkey} {rest : List (Candidate Pubkey)} {mark : Option SeenMark}

theorem Initial.timely (hInitial : Initial world) : Timely world where
  lives := hInitial.lives
  marks pubkey firstSeen hMark := absurd hMark (hInitial.marks pubkey firstSeen)
  phases replica := by
    rw [hInitial.phases replica]
    trivial

theorem CreatedBy.mono {later : ℕ} (hCreated : CreatedBy world pubkey time) (hLater : time ≤ later) :
    CreatedBy world pubkey later := by
  rcases hCreated with ⟨life, hLife, hTime⟩
  exact ⟨life, hLife, le_trans hTime hLater⟩

/-! ### Steps of the clock and of the chain -/

/-- What becomes of the accounts while the replicas wait: the clock goes on, no account is
created before the present, and an account that is there may be closed. -/
structure Elapses (world after : World Replica Pubkey) : Prop where
  now : world.now ≤ after.now
  marks : after.marks = world.marks
  phases : after.phases = world.phases
  lives : ∀ pubkey, after.lives pubkey = world.lives pubkey ∨
    (∃ life, world.lives pubkey = some life ∧ life.closed = none ∧
      after.lives pubkey = some { life with closed := some after.now }) ∨
    (¬HoldsOldTime world pubkey ∧ after.now = world.now ∧
      ∃ kind, after.lives pubkey = some ⟨kind, world.now, none⟩)

theorem Elapses.createdBy (hElapses : Elapses world after) (hCreated : CreatedBy world pubkey time)
    (hFresh : ¬HoldsOldTime world pubkey → world.now ≤ time) : CreatedBy after pubkey time := by
  rcases hCreated with ⟨life, hLife, hTime⟩
  rcases hElapses.lives pubkey with hSame | ⟨closed, hClosed, -, hAfter⟩ | ⟨hOld, -, kind, hAfter⟩
  · exact ⟨life, hSame.trans hLife, hTime⟩
  · rw [hLife] at hClosed
    cases hClosed
    exact ⟨_, hAfter, hTime⟩
  · exact ⟨_, hAfter, hFresh hOld⟩

theorem Elapses.createdBy_now (hElapses : Elapses world after)
    (hCreated : CreatedBy world pubkey world.now) : CreatedBy after pubkey after.now :=
  (hElapses.createdBy hCreated fun _ => le_rfl).mono hElapses.now

theorem Elapses.allCreated (hElapses : Elapses world after) (hCreated : AllCreated world rest) :
    AllCreated after rest :=
  fun candidate hMem => hElapses.createdBy_now (hCreated candidate hMem)

theorem Elapses.livedLong (hElapses : Elapses world after) (hLived : LivedLong world pubkey)
    (hHeld : HoldsOldTime world pubkey) : LivedLong after pubkey := by
  rcases hLived with ⟨life, hLife, hLong⟩
  have hNow := hElapses.now
  rcases hElapses.lives pubkey with hSame | ⟨closed, hClosed, hOpen, hAfter⟩ | ⟨hOld, -⟩
  · refine ⟨life, hSame.trans hLife, ?_⟩
    cases hEnd : life.closed with
    | none =>
        rw [hEnd, Option.getD_none] at hLong
        exact le_trans hLong hNow
    | some closed =>
        rw [hEnd, Option.getD_some] at hLong
        exact hLong
  · rw [hLife] at hClosed
    cases hClosed
    rw [hOpen, Option.getD_none] at hLong
    exact ⟨_, hAfter, le_trans hLong hNow⟩
  · exact absurd hHeld hOld

theorem Elapses.phase_timely (hElapses : Elapses world after) (hPhase : world.phases replica = phase)
    (hTimely : phase.Timely world) : phase.Timely after := by
  have hHeld : ∀ {pubkey : Pubkey}, phase.HoldsBefore pubkey world.now → HoldsOldTime world pubkey :=
    fun hBefore => .inr ⟨replica, hPhase ▸ hBefore⟩
  have hTime : ∀ {candidate : Candidate Pubkey} {time : ℕ},
      (time < world.now → phase.HoldsBefore candidate.pubkey world.now) →
      (time ≤ world.now ∧ CreatedBy world candidate.pubkey time) →
        time ≤ after.now ∧ CreatedBy after candidate.pubkey time := by
    rintro candidate time hBefore ⟨hNow, hCreated⟩
    refine ⟨le_trans hNow hElapses.now, hElapses.createdBy hCreated fun hFresh => ?_⟩
    by_contra hLater
    exact hFresh (hHeld (hBefore (not_le.mp hLater)))
  cases phase with
  | idle => trivial
  | scanned contexts => exact fun pubkey hMem => hElapses.createdBy_now (hTimely pubkey hMem)
  | next rest => exact hElapses.allCreated hTimely
  | marking candidate now rest =>
      exact ⟨hTime (fun hBefore => ⟨rfl, hBefore⟩) hTimely.1, hElapses.allCreated hTimely.2⟩
  | reading candidate now rest =>
      exact ⟨hTime (fun hBefore => ⟨rfl, hBefore⟩) hTimely.1, hElapses.allCreated hTimely.2⟩
  | restarting candidate now rest =>
      exact ⟨hTime (fun hBefore => ⟨rfl, hBefore⟩) hTimely.1, hElapses.allCreated hTimely.2⟩
  | simulating confirmed rest =>
      rcases hTimely with ⟨⟨hGrace, hCreated⟩, hRest⟩
      have hNow := hElapses.now
      have hKept := hElapses.createdBy hCreated fun hFresh => absurd (hHeld rfl) hFresh
      exact ⟨⟨le_trans hGrace hNow, hKept.mono (by omega)⟩, hElapses.allCreated hRest⟩
  | sending confirmed rest =>
      exact ⟨hElapses.livedLong hTimely.1 (hHeld rfl), hElapses.allCreated hTimely.2⟩
  | confirming confirmed rest => exact hElapses.allCreated hTimely
  | deleting confirmed rest => exact hElapses.allCreated hTimely

theorem Elapses.timely (hElapses : Elapses world after) (hTimely : Timely world) : Timely after where
  lives pubkey life hLife := by
    have hNow := hElapses.now
    rcases hElapses.lives pubkey with hSame | ⟨closed, hClosed, -, hAfter⟩ | ⟨-, -, kind, hAfter⟩
    · exact le_trans (hTimely.lives pubkey life (hSame ▸ hLife)) hNow
    · rw [hLife] at hAfter
      cases hAfter
      exact le_trans (hTimely.lives pubkey closed hClosed) hNow
    · rw [hLife] at hAfter
      cases hAfter
      exact hNow
  marks pubkey firstSeen hMark := by
    rw [hElapses.marks] at hMark
    refine hElapses.createdBy (hTimely.marks pubkey firstSeen hMark) fun hFresh => ?_
    by_contra hLater
    exact hFresh (.inl ⟨firstSeen, hMark, not_le.mp hLater⟩)
  phases replica := by
    rw [hElapses.phases]
    exact hElapses.phase_timely rfl (hTimely.phases replica)

theorem elapses_tick {seconds : ℕ} :
    Elapses world { world with now := world.now + seconds } where
  now := Nat.le_add_right _ _
  marks := rfl
  phases := rfl
  lives _ := .inl rfl

theorem elapses_create [DecidableEq Pubkey] (hFresh : ¬HoldsOldTime world pubkey) :
    Elapses world (world.setLife pubkey ⟨kind, world.now, none⟩) where
  now := le_rfl
  marks := rfl
  phases := rfl
  lives other := by
    rw [World.setLife_lives]
    split
    · rename_i hOther
      exact .inr (.inr ⟨hOther ▸ hFresh, rfl, kind, rfl⟩)
    · exact .inl rfl

theorem elapses_close [DecidableEq Pubkey] {created : ℕ} (hLife : world.lives pubkey = some ⟨kind, created, none⟩) :
    Elapses world (world.setLife pubkey ⟨kind, created, some world.now⟩) where
  now := le_rfl
  marks := rfl
  phases := rfl
  lives other := by
    rw [World.setLife_lives]
    split
    · rename_i hOther
      exact .inr (.inl ⟨_, hOther ▸ hLife, rfl, rfl⟩)
    · exact .inl rfl

/-! ### Steps of a replica -/

theorem timely_congr (hNow : after.now = world.now) (hLives : after.lives = world.lives)
    (hTimely : phase.Timely world) : phase.Timely after := by
  unfold Phase.Timely AllCreated LivedLong CreatedBy at hTimely ⊢
  rw [hNow, hLives]
  exact hTimely

theorem createdBy_of_holds (hTimely : Timely world) (hHolds : world.holds pubkey kind = true) :
    ∃ life, world.lives pubkey = some life ∧ life.closed = none ∧ life.created ≤ world.now := by
  unfold World.holds at hHolds
  split at hHolds
  · rename_i life hLife
    exact ⟨life, hLife, (of_decide_eq_true hHolds).2, hTimely.lives pubkey life hLife⟩
  · cases hHolds

theorem Timely.setPhase [DecidableEq Replica] (hTimely : Timely world) (hPhase : phase.Timely world) :
    Timely (world.setPhase replica phase) where
  lives := hTimely.lives
  marks := hTimely.marks
  phases other := by
    rw [World.setPhase_phases]
    split
    · exact timely_congr rfl rfl hPhase
    · exact timely_congr rfl rfl (hTimely.phases other)

theorem Timely.setMark [DecidableEq Pubkey] (hTimely : Timely world)
    (hMark : ∀ firstSeen, mark = some (.timed firstSeen) → CreatedBy world pubkey firstSeen) :
    Timely (world.setMark pubkey mark) where
  lives := hTimely.lives
  marks other firstSeen hFound := by
    rw [World.setMark_marks] at hFound
    split at hFound
    · rename_i hOther
      exact hOther ▸ hMark firstSeen hFound
    · exact hTimely.marks other firstSeen hFound
  phases replica := timely_congr rfl rfl (hTimely.phases replica)

theorem Timely.setTimed [DecidableEq Pubkey] (hTimely : Timely world) (hCreated : CreatedBy world pubkey time) :
    Timely (world.setMark pubkey (some (.timed time))) := by
  apply hTimely.setMark
  intro firstSeen hSeen
  cases hSeen
  exact hCreated

theorem allCreated_of_holds (hTimely : Timely world) {found : List Pubkey}
    (hFound : found.all (world.holds · kind) = true) :
    ∀ pubkey ∈ found, CreatedBy world pubkey world.now := by
  intro pubkey hMem
  rcases createdBy_of_holds hTimely (List.all_eq_true.mp hFound pubkey hMem) with
    ⟨life, hLife, -, hCreated⟩
  exact ⟨life, hLife, hCreated⟩

theorem timely_afterGet (hTimely : Timely world)
    (hReading : (Phase.reading candidate time rest).Timely world) :
    (world.afterGet candidate time rest).Timely world := by
  rcases hReading with ⟨⟨hNow, hCreated⟩, hRest⟩
  unfold World.afterGet
  split
  · rename_i firstSeen hMark
    split
    · rename_i hGrace
      have hSeen := hTimely.marks _ _ hMark
      have hPositive : 0 < graceSecs := by decide
      exact ⟨⟨by omega, hSeen.mono (by omega)⟩, hRest⟩
    · exact hRest
  · exact ⟨⟨hNow, hCreated⟩, hRest⟩

/-- A simulation that succeeds shows that the account is still in the life it was marked in. -/
theorem livedLong_of_simulated (hTimely : Timely world) (hGrace : graceSecs ≤ world.now)
    (hCreated : CreatedBy world pubkey (world.now - graceSecs))
    (hHolds : world.holds pubkey kind = true) : LivedLong world pubkey := by
  rcases createdBy_of_holds hTimely hHolds with ⟨life, hLife, hOpen, -⟩
  rcases hCreated with ⟨marked, hMarked, hTime⟩
  rw [hLife] at hMarked
  cases hMarked
  refine ⟨life, hLife, ?_⟩
  rw [hOpen, Option.getD_none]
  omega

section

variable [DecidableEq Replica] [DecidableEq Pubkey]

theorem move_timely {step : Move Pubkey} (hTimely : Timely world)
    (hMove : world.moves replica (world.phases replica) step = some after) : Timely after := by
  have hPhase := hTimely.phases replica
  have hIdle : Timely (world.setPhase replica .idle) := hTimely.setPhase trivial
  revert hPhase hMove
  generalize world.phases replica = phase
  intro hMove hPhase
  unfold World.moves at hMove
  split at hMove
  case h_1 found =>
    split at hMove
    · rename_i hFound
      cases hMove
      exact hTimely.setPhase (allCreated_of_holds hTimely hFound)
    · cases hMove
  case h_2 contexts found =>
    split at hMove
    · rename_i hFound
      cases hMove
      apply hTimely.setPhase
      intro candidate hMem
      rcases List.mem_append.mp hMem with hMem | hMem
      · rcases List.mem_map.mp hMem with ⟨pubkey, hPubkey, rfl⟩
        exact hPhase pubkey hPubkey
      · rcases List.mem_map.mp hMem with ⟨pubkey, hPubkey, rfl⟩
        exact allCreated_of_holds hTimely hFound pubkey hPubkey
    · cases hMove
  case h_3 =>
    cases hMove
    exact hIdle
  case h_4 candidate rest =>
    cases hMove
    rcases List.forall_mem_cons.mp hPhase with ⟨hCandidate, hRest⟩
    exact hTimely.setPhase ⟨⟨le_rfl, hCandidate⟩, hRest⟩
  case h_5 candidate now rest =>
    split at hMove
    · cases hMove
      exact (hTimely.setTimed hPhase.1.2).setPhase (timely_congr rfl rfl hPhase.2)
    · cases hMove
      exact hTimely.setPhase hPhase
  case h_6 candidate now rest =>
    cases hMove
    exact hTimely.setPhase (timely_afterGet hTimely hPhase)
  case h_7 candidate now rest =>
    cases hMove
    exact (hTimely.setTimed hPhase.1.2).setPhase (timely_congr rfl rfl hPhase.2)
  case h_8 confirmed rest =>
    split at hMove
    · rename_i hHolds
      cases hMove
      rcases hPhase with ⟨⟨hGrace, hCreated⟩, hRest⟩
      exact hTimely.setPhase ⟨livedLong_of_simulated hTimely hGrace hCreated hHolds, hRest⟩
    · cases hMove
  case h_9 confirmed rest =>
    cases hMove
    exact hTimely.setPhase hPhase.2
  case h_10 confirmed rest =>
    cases hMove
    exact hTimely.setPhase hPhase.2
  case h_11 confirmed rest =>
    cases hMove
    exact hTimely.setPhase hPhase.2
  case h_12 confirmed rest =>
    cases hMove
    exact hTimely.setPhase hPhase
  case h_13 confirmed rest =>
    cases hMove
    exact hTimely.setPhase hPhase
  case h_14 confirmed rest =>
    cases hMove
    refine (hTimely.setMark ?_).setPhase (timely_congr rfl rfl hPhase)
    intro firstSeen hSeen
    cases hSeen
  case h_15 confirmed rest =>
    cases hMove
    exact hTimely.setPhase hPhase
  case h_16 =>
    cases hMove
    exact hIdle
  case h_17 =>
    cases hMove
    exact hIdle
  case h_18 => cases hMove

/-! ### Runs -/

theorem step_timely {action : Action Replica Pubkey} (hTimely : Timely world)
    (hFresh : UsesFreshAddress world action) (hStep : world.step action = some after) :
    Timely after := by
  cases action with
  | tick seconds =>
      cases hStep
      exact elapses_tick.timely hTimely
  | create pubkey kind =>
      simp only [World.step] at hStep
      split at hStep
      · cases hStep
      · cases hStep
        exact (elapses_create (hFresh pubkey kind rfl)).timely hTimely
  | close pubkey =>
      simp only [World.step] at hStep
      split at hStep
      · rename_i hLife
        cases hStep
        exact (elapses_close hLife).timely hTimely
      · cases hStep
  | move replica step => exact move_timely hTimely hStep

theorem run_timely (hTimely : Timely world) (hRun : Runs UsesFreshAddress world after) :
    Timely after := by
  induction hRun with
  | refl => exact hTimely
  | tail _ hStep hInduction =>
      rcases hStep with ⟨action, hFresh, hStep⟩
      exact step_timely hInduction hFresh hStep

/-- In a run that uses no address while a time from before is held for it, a close is broadcast
only for an account that existed for the grace period since its latest creation. -/
theorem broadcast_livedLong {initial reached : World Replica Pubkey}
    {action : Action Replica Pubkey} {pubkey : Pubkey} (hInitial : Initial initial)
    (hRun : Runs UsesFreshAddress initial reached)
    (hBroadcast : Broadcasts reached action pubkey) : LivedLong reached pubkey := by
  rcases hBroadcast with ⟨replica, confirmed, rest, hPhase, rfl, -⟩
  have hTimely := (run_timely hInitial.timely hRun).phases replica
  rw [hPhase] at hTimely
  exact hTimely.1

end

/-! ### An address that is used again -/

/-- A world in which nothing has happened. -/
def emptyWorld : World Unit ℕ where
  now := 0
  lives _ := none
  marks _ := none
  phases _ := .idle

/-- The world after a list of actions. -/
def World.afterAll (world : World Unit ℕ) : List (Action Unit ℕ) → Option (World Unit ℕ)
  | [] => some world
  | action :: actions => (world.step action).bind (·.afterAll actions)

def sweepMoves (moves : List (Move ℕ)) : List (Action Unit ℕ) :=
  ([Move.scanContexts [0], .scanRecords [], .readClock, .putIfAbsent] ++ moves).map (.move ())

/-- An account is seen by a sweep, closed by its bundle, and created again after the grace period,
when the next sweep confirms it at once. -/
def reuse : List (Action Unit ℕ) :=
  [.create 0 .proofContext] ++ sweepMoves [.readClock] ++ [.tick 1, .close 0, .tick 599,
    .create 0 .proofContext] ++ sweepMoves [.get, .simulate]

theorem initial_emptyWorld : Initial emptyWorld where
  lives _ _ hLife := by cases hLife
  marks _ _ hMark := by cases hMark
  phases _ := rfl

theorem runs_of_afterAll {Meets : World Unit ℕ → Action Unit ℕ → Prop}
    {actions : List (Action Unit ℕ)} {world after : World Unit ℕ}
    (hMeets : ∀ world, ∀ action ∈ actions, Meets world action)
    (hAfter : world.afterAll actions = some after) : Runs Meets world after := by
  induction actions generalizing world with
  | nil =>
      cases hAfter
      exact .refl
  | cons action actions hInduction =>
      rcases Option.bind_eq_some_iff.mp hAfter with ⟨next, hStep, hRest⟩
      have hFirst := hMeets world action List.mem_cons_self
      exact .head ⟨action, hFirst, hStep⟩ (hInduction (fun world action hMem =>
        hMeets world action (List.mem_cons_of_mem _ hMem)) hRest)

/-- The close of an account is broadcast when the account was just created. -/
theorem reuse_closed_early :
    ∃ reached : World Unit ℕ, Runs (fun _ _ => True) emptyWorld reached ∧
      Broadcasts reached (.move () .send) 0 ∧ ¬LivedLong reached 0 := by
  have hReached : ∃ reached, emptyWorld.afterAll reuse = some reached := ⟨_, rfl⟩
  rcases hReached with ⟨reached, hReached⟩
  refine ⟨reached, runs_of_afterAll (fun _ _ _ => trivial) hReached, ?_, ?_⟩
  · cases hReached
    exact ⟨(), ⟨0, .proofContext⟩, [], rfl, rfl, rfl⟩
  · rintro ⟨life, hLife, hLong⟩
    cases hReached
    cases hLife
    exact absurd hLong (by decide)

/-- An account that its bundle leaves behind is closed after the grace period. -/
theorem broadcast_livedLong_of_orphan :
    ∃ reached : World Unit ℕ, Broadcasts reached (.move () .send) 0 ∧ LivedLong reached 0 := by
  have hCreated : emptyWorld.step (.create 0 .proofContext) =
      some (emptyWorld.setLife 0 ⟨.proofContext, 0, none⟩) := rfl
  have hFresh : UsesFreshAddress emptyWorld (.create 0 .proofContext) := by
    rintro pubkey kind - (⟨firstSeen, hMark, -⟩ | ⟨replica, hHeld⟩)
    · cases hMark
    · exact hHeld
  have hRest : ∃ reached, (emptyWorld.setLife 0 ⟨.proofContext, 0, none⟩).afterAll
      (sweepMoves [.readClock] ++ [.tick 600] ++ sweepMoves [.get, .simulate]) = some reached :=
    ⟨_, rfl⟩
  rcases hRest with ⟨reached, hReached⟩
  have hRun : Runs UsesFreshAddress emptyWorld reached := by
    refine .head ⟨_, hFresh, hCreated⟩ (runs_of_afterAll ?_ hReached)
    intro world action hMem pubkey kind hCreate
    rw [hCreate] at hMem
    simp [sweepMoves] at hMem
  have hBroadcast : Broadcasts reached (.move () .send) 0 := by
    cases hReached
    exact ⟨(), ⟨0, .proofContext⟩, [], rfl, rfl, rfl⟩
  exact ⟨reached, hBroadcast, broadcast_livedLong initial_emptyWorld hRun hBroadcast⟩

end PayKit.Confidential.Orphan
