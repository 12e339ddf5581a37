import PayKit.Batching.Greedy
import PayKit.Tx.Compile

/-!
# Packing settlements

`core/settlement/packing.rs` and the `regroup` of `core/settlement/worker.rs`: the instruction
groups of the channels to settle are packed into transactions, in order, as many to a
transaction as its size and the caller's cap allow. Whether a transaction of some instructions
keeps within the limits of its version is `fitsTx`, of which nothing is assumed.
-/

namespace PayKit.Settlement

open Solana Tx Batching

structure ChannelInstructionGroup where
  channelId : String
  instructions : List Instruction

/-- One channel's settlement as the worker is given it, with the span and the reply channel of
its submitter. -/
structure SettlementUnit (Span Reply : Type) where
  channelId : String
  instructions : List Instruction
  parent : Span
  reply : Reply
  awaitConfirmation : Bool

def SettlementUnit.group {Span Reply : Type} (settled : SettlementUnit Span Reply) :
    ChannelInstructionGroup where
  channelId := settled.channelId
  instructions := settled.instructions

/-- `fits_tx`: a transaction of the instructions compiles and keeps within the limits. -/
abbrev FitsTx : Type :=
  TxVersion → List Instruction → Pubkey → Option ComputeBudget → Bool

variable (fitsTx : FitsTx)

def wouldOverflowTx (version : TxVersion) (cur : List Instruction) (curGroupCount : ℕ)
    (next : List Instruction) (payer : Pubkey) (budget : Option ComputeBudget)
    (maxGroupsPerTx : ℕ) : Bool :=
  if max maxGroupsPerTx 1 ≤ curGroupCount then true
  else !fitsTx version (cur ++ next) payer budget

/-- The loop of `pack`, over the batches put out and the current one. -/
def packLoop (version : TxVersion) (payer : Pubkey) (budget : Option ComputeBudget)
    (maxGroupsPerTx : ℕ) :
    List ChannelInstructionGroup → List (List ChannelInstructionGroup) →
      List ChannelInstructionGroup → List (List ChannelInstructionGroup)
  | [], out, cur => if cur.isEmpty then out else out ++ [cur]
  | ch :: channels, out, cur =>
      if !cur.isEmpty && wouldOverflowTx fitsTx version (cur.flatMap (·.instructions)) cur.length
          ch.instructions payer budget maxGroupsPerTx then
        packLoop version payer budget maxGroupsPerTx channels (out ++ [cur]) [ch]
      else
        packLoop version payer budget maxGroupsPerTx channels out (cur ++ [ch])

def pack (version : TxVersion) (channels : List ChannelInstructionGroup) (payer : Pubkey)
    (budget : Option ComputeBudget) (maxGroupsPerTx : ℕ) : List (List ChannelInstructionGroup) :=
  packLoop fitsTx version payer budget maxGroupsPerTx channels [] []

/-- The loop of `regroup`. -/
def regroupLoop {Span Reply : Type} (version : TxVersion) (payer : Pubkey)
    (budget : Option ComputeBudget) (maxPerTx : ℕ) :
    List (SettlementUnit Span Reply) → List (List (SettlementUnit Span Reply)) →
      List (SettlementUnit Span Reply) → List (List (SettlementUnit Span Reply))
  | [], out, cur => if cur.isEmpty then out else out ++ [cur]
  | u :: units, out, cur =>
      if !cur.isEmpty && wouldOverflowTx fitsTx version (cur.flatMap (·.instructions)) cur.length
          u.instructions payer budget maxPerTx then
        regroupLoop version payer budget maxPerTx units (out ++ [cur]) [u]
      else
        regroupLoop version payer budget maxPerTx units out (cur ++ [u])

def regroup {Span Reply : Type} (units : List (SettlementUnit Span Reply)) (version : TxVersion)
    (payer : Pubkey) (budget : Option ComputeBudget) (maxPerTx : ℕ) :
    List (List (SettlementUnit Span Reply)) :=
  regroupLoop fitsTx version payer budget maxPerTx units [] []

/-! ### Both loops are the greedy one -/

variable {fitsTx : FitsTx} {version : TxVersion} {payer : Pubkey} {budget : Option ComputeBudget}
  {cap : ℕ}

/-- Whether the next item overflows a batch, for items that carry instructions. -/
def overflowsBy {Item : Type} (instructions : Item → List Instruction) (fitsTx : FitsTx)
    (version : TxVersion) (payer : Pubkey) (budget : Option ComputeBudget) (cap : ℕ)
    (batch : List Item) (item : Item) : Bool :=
  wouldOverflowTx fitsTx version (batch.flatMap instructions) batch.length (instructions item)
    payer budget cap

theorem packLoop_eq_finish (channels cur : List ChannelInstructionGroup)
    (out : List (List ChannelInstructionGroup)) :
    packLoop fitsTx version payer budget cap channels out cur
      = (channels.foldl (Filling.take (overflowsBy (·.instructions) fitsTx version payer budget
          cap)) ⟨out, cur⟩).finish := by
  induction channels generalizing out cur with
  | nil => rfl
  | cons ch channels hInduction =>
      rw [packLoop, Filling.finish_cons, ← hInduction, ← hInduction]
      rfl

theorem pack_eq_greedy (channels : List ChannelInstructionGroup) :
    pack fitsTx version channels payer budget cap
      = greedy (overflowsBy (·.instructions) fitsTx version payer budget cap) channels :=
  packLoop_eq_finish channels [] []

theorem pack_isGreedy (channels : List ChannelInstructionGroup) :
    IsGreedy (overflowsBy (·.instructions) fitsTx version payer budget cap) channels
      (pack fitsTx version channels payer budget cap) := by
  rw [pack_eq_greedy]
  exact greedy_isGreedy _ channels

variable {Span Reply : Type}

theorem regroupLoop_eq_finish (units cur : List (SettlementUnit Span Reply))
    (out : List (List (SettlementUnit Span Reply))) :
    regroupLoop fitsTx version payer budget cap units out cur
      = (units.foldl (Filling.take (overflowsBy (·.instructions) fitsTx version payer budget
          cap)) ⟨out, cur⟩).finish := by
  induction units generalizing out cur with
  | nil => rfl
  | cons u units hInduction =>
      rw [regroupLoop, Filling.finish_cons, ← hInduction, ← hInduction]
      rfl

theorem regroup_eq_greedy (units : List (SettlementUnit Span Reply)) :
    regroup fitsTx units version payer budget cap
      = greedy (overflowsBy (·.instructions) fitsTx version payer budget cap) units :=
  regroupLoop_eq_finish units [] []

theorem pack_group (units : List (SettlementUnit Span Reply)) :
    pack fitsTx version (units.map SettlementUnit.group) payer budget cap
      = (regroup fitsTx units version payer budget cap).map (List.map SettlementUnit.group) := by
  rw [pack_eq_greedy, regroup_eq_greedy]
  refine greedy_map SettlementUnit.group (fun batch item => ?_) units
  simp [overflowsBy, SettlementUnit.group, List.flatMap_map]

/-! ### What a batch is -/

theorem overflowsBy_eq_false {Item : Type} {instructions : Item → List Instruction}
    {batch : List Item} {item : Item}
    (hFits : overflowsBy instructions fitsTx version payer budget cap batch item = false) :
    batch.length < max 1 cap ∧
      fitsTx version ((batch ++ [item]).flatMap instructions) payer budget = true := by
  unfold overflowsBy wouldOverflowTx at hFits
  split at hFits
  · cases hFits
  · next hCount =>
      refine ⟨by omega, ?_⟩
      simpa using hFits

theorem overflowsBy_eq_true {Item : Type} {instructions : Item → List Instruction}
    {batch : List Item} {item : Item}
    (hOverflows : overflowsBy instructions fitsTx version payer budget cap batch item = true) :
    max 1 cap ≤ batch.length ∨
      fitsTx version (batch.flatMap instructions ++ instructions item) payer budget = false := by
  unfold overflowsBy wouldOverflowTx at hOverflows
  split at hOverflows
  · next hCount => exact .inl (by omega)
  · right
    simpa using hOverflows

section Batch

variable {Item : Type} {instructions : Item → List Instruction} {batch : List Item}

theorem length_le_of_admits
    (hAdmits : Admits (overflowsBy instructions fitsTx version payer budget cap) batch) :
    batch.length ≤ max 1 cap := by
  rcases List.eq_nil_or_concat batch with rfl | ⟨before, last, rfl⟩
  · simp
  by_cases hBefore : before = []
  · subst hBefore
    simp
  have hFits := hAdmits before last [] (by simp) hBefore
  have hCount := (overflowsBy_eq_false hFits).1
  simp only [List.concat_eq_append, List.length_append, List.length_singleton]
  omega

theorem fitsTx_of_admits
    (hAdmits : Admits (overflowsBy instructions fitsTx version payer budget cap) batch)
    (hMany : 2 ≤ batch.length) :
    fitsTx version (batch.flatMap instructions) payer budget = true := by
  rcases List.eq_nil_or_concat batch with rfl | ⟨before, last, rfl⟩
  · simp at hMany
  have hBefore : before ≠ [] := by
    rintro rfl
    simp at hMany
  have hFits := hAdmits before last [] (by simp) hBefore
  rw [List.concat_eq_append]
  exact (overflowsBy_eq_false hFits).2

end Batch

/-- Packing keeps every group, in order and once; its batches are within the cap and, from two
groups on, within the limits of a transaction; none could have taken the next group; and the
worker's units are cut at the same places. -/
theorem pack_partitions (fitsTx : FitsTx) (version : TxVersion)
    (channels : List ChannelInstructionGroup) (payer : Pubkey) (budget : Option ComputeBudget)
    (cap : ℕ) :
    (pack fitsTx version channels payer budget cap).flatten = channels ∧
    (∀ batch ∈ pack fitsTx version channels payer budget cap,
      batch ≠ [] ∧ batch.length ≤ max 1 cap ∧
        (2 ≤ batch.length →
          fitsTx version (batch.flatMap (·.instructions)) payer budget = true)) ∧
    (∀ before first second after,
      pack fitsTx version channels payer budget cap = before ++ first :: second :: after →
        ∃ next rest, second = next :: rest ∧
          (first.length = max 1 cap ∨
            fitsTx version (first.flatMap (·.instructions) ++ next.instructions) payer budget
              = false)) ∧
    (∀ (Span Reply : Type) (units : List (SettlementUnit Span Reply)),
      units.map SettlementUnit.group = channels →
        (regroup fitsTx units version payer budget cap).map (List.map SettlementUnit.group)
          = pack fitsTx version channels payer budget cap) := by
  have hGreedy : IsGreedy (overflowsBy _ fitsTx version payer budget cap) channels
      (pack fitsTx version channels payer budget cap) := pack_isGreedy channels
  refine ⟨hGreedy.flatten, ?_, ?_, ?_⟩
  · intro batch hBatch
    have hAdmits := hGreedy.admits batch hBatch
    exact ⟨hGreedy.nonempty batch hBatch, length_le_of_admits hAdmits, fitsTx_of_admits hAdmits⟩
  · intro before first second after hSplit
    have hCloses := hGreedy.closes
    rw [hSplit, List.isChain_append_cons_cons] at hCloses
    rcases hCloses.2.1 with ⟨next, rest, hSecond, hOverflows⟩
    have hBound : first.length ≤ max 1 cap :=
      length_le_of_admits (hGreedy.admits first (by simp [hSplit]))
    refine ⟨next, rest, hSecond, ?_⟩
    rcases overflowsBy_eq_true hOverflows with hFull | hUnfit
    · exact .inl (by omega)
    · exact .inr hUnfit
  · rintro Span Reply units rfl
    exact (pack_group units).symm

end PayKit.Settlement
