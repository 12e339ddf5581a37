import Mathlib.Data.Nat.Notation
import Mathlib.Logic.Function.Basic

/-!
# The orphan sweeper

`Mpp::sweep_confidential_orphans`, `broadcast_close` and `orphan::confirm_at` of
`mpp/server/confidential.rs`, as steps of any number of replicas. A replica scans for accounts of
the gateway, notes in the shared store when it first saw each, and closes an account whose note is
older than the grace period. Between two awaited calls of a replica anything else can happen:
bundles create and close accounts, and the other replicas go on.

An account is known here by its address, its kind and the times of its latest life. A scan returns
accounts that exist, and the simulation of a close only succeeds while the account exists.
-/

namespace PayKit.Confidential.Orphan

def graceSecs : ℕ :=
  600

inductive OrphanKind where
  | proofContext
  | record
deriving DecidableEq

/-- What a store can hold under `orphan::seen_key`. -/
inductive SeenMark where
  | timed (firstSeen : ℕ)
  | untimed
deriving DecidableEq

structure Life where
  kind : OrphanKind
  created : ℕ
  closed : Option ℕ
deriving DecidableEq

structure Candidate (Pubkey : Type) where
  pubkey : Pubkey
  kind : OrphanKind

/-- Where a replica stands in a sweep, with the candidates that are left. -/
inductive Phase (Pubkey : Type) where
  | idle
  | scanned (contexts : List Pubkey)
  | next (rest : List (Candidate Pubkey))
  /-- Before `put_if_absent`, `get` and `put` of `confirm_at`. -/
  | marking (candidate : Candidate Pubkey) (now : ℕ) (rest : List (Candidate Pubkey))
  | reading (candidate : Candidate Pubkey) (now : ℕ) (rest : List (Candidate Pubkey))
  | restarting (candidate : Candidate Pubkey) (now : ℕ) (rest : List (Candidate Pubkey))
  /-- Before the simulation, the send and the confirmation of `broadcast_close`. -/
  | simulating (confirmed : Candidate Pubkey) (rest : List (Candidate Pubkey))
  | sending (confirmed : Candidate Pubkey) (rest : List (Candidate Pubkey))
  | confirming (confirmed : Candidate Pubkey) (rest : List (Candidate Pubkey))
  | deleting (confirmed : Candidate Pubkey) (rest : List (Candidate Pubkey))

/-- What a replica does next. `fail` is a call that returns an error, and `stop` the end of the
replica, which later starts anew. -/
inductive Move (Pubkey : Type) where
  | scanContexts (found : List Pubkey)
  | scanRecords (found : List Pubkey)
  | readClock
  | putIfAbsent
  | get
  | put
  | simulate
  | send
  | confirm
  | delete
  | fail
  | stop

inductive Action (Replica Pubkey : Type) where
  | tick (seconds : ℕ)
  /-- A bundle creates an account of the gateway. -/
  | create (pubkey : Pubkey) (kind : OrphanKind)
  /-- A transaction that closes an account lands. -/
  | close (pubkey : Pubkey)
  | move (replica : Replica) (step : Move Pubkey)

/-- The chain, the shared store, and the replicas. -/
structure World (Replica Pubkey : Type) where
  now : ℕ
  lives : Pubkey → Option Life
  marks : Pubkey → Option SeenMark
  phases : Replica → Phase Pubkey

variable {Replica Pubkey : Type}

namespace World

variable (world : World Replica Pubkey)

def holds (pubkey : Pubkey) (kind : OrphanKind) : Bool :=
  match world.lives pubkey with
  | some life => life.kind = kind ∧ life.closed = none
  | none => false

def setPhase [DecidableEq Replica] (replica : Replica) (phase : Phase Pubkey) : World Replica Pubkey :=
  { world with phases := Function.update world.phases replica phase }

def setMark [DecidableEq Pubkey] (pubkey : Pubkey) (mark : Option SeenMark) : World Replica Pubkey :=
  { world with marks := Function.update world.marks pubkey mark }

def setLife [DecidableEq Pubkey] (pubkey : Pubkey) (life : Life) : World Replica Pubkey :=
  { world with lives := Function.update world.lives pubkey (some life) }

variable {world} in
theorem setPhase_phases [DecidableEq Replica] {replica other : Replica} {phase : Phase Pubkey} :
    (world.setPhase replica phase).phases other =
      if other = replica then phase else world.phases other :=
  Function.update_apply ..

variable {world} in
theorem setMark_marks [DecidableEq Pubkey] {pubkey other : Pubkey} {mark : Option SeenMark} :
    (world.setMark pubkey mark).marks other = if other = pubkey then mark else world.marks other :=
  Function.update_apply ..

variable {world} in
theorem setLife_lives [DecidableEq Pubkey] {pubkey other : Pubkey} {life : Life} :
    (world.setLife pubkey life).lives other =
      if other = pubkey then some life else world.lives other :=
  Function.update_apply ..

/-- Where a replica goes from `get` of `confirm_at`. -/
def afterGet (candidate : Candidate Pubkey) (now : ℕ) (rest : List (Candidate Pubkey)) :
    Phase Pubkey :=
  match world.marks candidate.pubkey with
  | some (.timed firstSeen) =>
      if graceSecs ≤ now - firstSeen then .simulating candidate rest else .next rest
  | _ => .restarting candidate now rest

variable [DecidableEq Replica] [DecidableEq Pubkey]

def moves (replica : Replica) : Phase Pubkey → Move Pubkey → Option (World Replica Pubkey)
  | .idle, .scanContexts found =>
      if found.all (world.holds · .proofContext) then some (world.setPhase replica (.scanned found))
      else none
  | .scanned contexts, .scanRecords found =>
      if found.all (world.holds · .record) then
        some (world.setPhase replica (.next (contexts.map (⟨·, .proofContext⟩) ++
          found.map (⟨·, .record⟩))))
      else none
  | .next [], .readClock => some (world.setPhase replica .idle)
  | .next (candidate :: rest), .readClock =>
      some (world.setPhase replica (.marking candidate world.now rest))
  | .marking candidate now rest, .putIfAbsent =>
      if world.marks candidate.pubkey = none then
        some ((world.setMark candidate.pubkey (some (.timed now))).setPhase replica (.next rest))
      else some (world.setPhase replica (.reading candidate now rest))
  | .reading candidate now rest, .get =>
      some (world.setPhase replica (world.afterGet candidate now rest))
  | .restarting candidate now rest, .put =>
      some ((world.setMark candidate.pubkey (some (.timed now))).setPhase replica (.next rest))
  | .simulating confirmed rest, .simulate =>
      if world.holds confirmed.pubkey confirmed.kind then
        some (world.setPhase replica (.sending confirmed rest))
      else none
  | .simulating _ rest, .fail => some (world.setPhase replica (.next rest))
  | .sending confirmed rest, .send => some (world.setPhase replica (.confirming confirmed rest))
  | .sending _ rest, .fail => some (world.setPhase replica (.next rest))
  | .confirming confirmed rest, .confirm =>
      some (world.setPhase replica (.deleting confirmed rest))
  | .confirming _ rest, .fail => some (world.setPhase replica (.next rest))
  | .deleting confirmed rest, .delete =>
      some ((world.setMark confirmed.pubkey none).setPhase replica (.next rest))
  | .deleting _ rest, .fail => some (world.setPhase replica (.next rest))
  | _, .fail => some (world.setPhase replica .idle)
  | _, .stop => some (world.setPhase replica .idle)
  | _, _ => none

/-- One step of the chain, of the clock or of a replica. -/
def step : Action Replica Pubkey → Option (World Replica Pubkey)
  | .tick seconds => some { world with now := world.now + seconds }
  | .create pubkey kind =>
      match world.lives pubkey with
      | some ⟨_, _, none⟩ => none
      | _ => some (world.setLife pubkey ⟨kind, world.now, none⟩)
  | .close pubkey =>
      match world.lives pubkey with
      | some ⟨kind, created, none⟩ => some (world.setLife pubkey ⟨kind, created, some world.now⟩)
      | _ => none
  | .move replica step => world.moves replica (world.phases replica) step

end World

end PayKit.Confidential.Orphan
