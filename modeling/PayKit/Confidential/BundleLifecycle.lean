import PayKit.Confidential.Bundle
import PayKit.Control.History

/-!
# The temporary accounts of a bundle

What the instructions of a bundle do to the temporary accounts is a history of events: each
creates, initializes or closes one account, or none. The lifecycle check follows this history:
what it knows of an account is how often each of these happened to it, and where.
-/

namespace PayKit.Confidential

open Charge Control Encoding Machine Solana Tx

inductive AccountEvent where
  | creation
  | initialization
  | close
deriving DecidableEq

structure BundleStep where
  txIndex : ℕ
  keys : List Pubkey
  ix : CompiledInstruction

/-- The instructions of a bundle in their order. -/
def bundleSteps (transactions : List (VersionedTransaction × ℕ)) : List BundleStep :=
  transactions.flatMap fun tx =>
    tx.1.message.instructions.map (⟨tx.2, tx.1.message.staticAccountKeys, ·⟩)

section

variable (scope : BundleScope)

/-- What an instruction does to which account. A proof instruction with accounts writes its
context: into its first account, or into its second one when it reads the proof from the
first. -/
def eventOf (keys : List Pubkey) (ix : CompiledInstruction) : Option (AccountEvent × Pubkey) :=
  if programOf keys ix = some systemProgram then
    (accountAt keys ix 1).map (.creation, ·)
  else if programOf keys ix = some zkElgamalProofProgram then
    if ix.accounts.isEmpty then none
    else if ix.data.head? = some 0 then (accountAt keys ix 0).map (.close, ·)
    else (accountAt keys ix (if ix.data.length = 5 then 1 else 0)).map (.initialization, ·)
  else if programOf keys ix = some scope.recordProgram.id then
    if ix.data.head? = some 0 then (accountAt keys ix 0).map (.initialization, ·)
    else if ix.data.head? = some 3 then (accountAt keys ix 0).map (.close, ·)
    else none
  else none

/-- The transactions in which something happens to an account. -/
def occurrences (event : AccountEvent) (account : Pubkey) (steps : List BundleStep) : List ℕ :=
  (steps.filter fun step =>
    eventOf scope step.keys step.ix = some (event, account)).map (·.txIndex)

/-- The accounts that are created, in their order. -/
def createdAccounts (steps : List BundleStep) : List Pubkey :=
  steps.filterMap fun step =>
    match eventOf scope step.keys step.ix with
    | some (.creation, account) => some account
    | _ => none

/-- What is paid into the accounts that are created. -/
def createdLamports (steps : List BundleStep) : List ℕ :=
  steps.filterMap fun step =>
    if programOf step.keys step.ix = some systemProgram then leAt step.ix.data 4 12 else none

/-- What the check knows after a history. -/
structure Follows (finalTx : ℕ) (steps : List BundleStep) (state : Lifecycle) : Prop where
  accounts : state.funded.map Prod.fst = createdAccounts scope steps
  distinct : (state.funded.map Prod.fst).Nodup
  gateway : scope.gateway ∉ state.funded.map Prod.fst
  count : state.funded.length ≤ maxCtBundleFundedAccounts
  lamports : (createdLamports steps).sum = state.totalLamports
  capped : state.totalLamports ≤ maxCtBundleCreateLamports
  creations : ∀ account found, state.funded.lookup account = some found →
    occurrences scope .creation account steps = [found.createdIn]
  initializations : ∀ account found, state.funded.lookup account = some found →
    occurrences scope .initialization account steps =
      if found.initialized then [found.createdIn] else []
  closes : ∀ account found, state.funded.lookup account = some found →
    occurrences scope .close account steps = if found.closed then [finalTx] else []
  untouched : ∀ account, state.funded.lookup account = none →
    ∀ event, occurrences scope event account steps = []

end

/-! ### Small facts -/

section

variable {scope : BundleScope} {keys : List Pubkey} {ix : CompiledInstruction}

theorem occurrences_append {event : AccountEvent} {account : Pubkey}
    {steps later : List BundleStep} :
    occurrences scope event account (steps ++ later) =
      occurrences scope event account steps ++ occurrences scope event account later := by
  simp [occurrences]

theorem occurrences_singleton {event : AccountEvent} {account : Pubkey} {step : BundleStep} :
    occurrences scope event account [step] =
      if eventOf scope step.keys step.ix = some (event, account) then [step.txIndex] else [] := by
  by_cases hEvent : eventOf scope step.keys step.ix = some (event, account)
  · simp [occurrences, hEvent]
  · simp [occurrences, hEvent]

theorem lookup_setAccount {funded : List (Pubkey × FundedAccount)} {account other : Pubkey}
    {change : FundedAccount → FundedAccount} :
    (Lifecycle.setAccount funded account change).lookup other =
      if other = account then (funded.lookup other).map change else funded.lookup other := by
  induction funded with
  | nil => simp [Lifecycle.setAccount]
  | cons entry funded hInduction =>
      rcases entry with ⟨key, found⟩
      have hRest : (Lifecycle.setAccount ((key, found) :: funded) account change) =
          (if key = account then (key, change found) else (key, found)) ::
            Lifecycle.setAccount funded account change := rfl
      rw [hRest]
      by_cases hKey : other = key
      · subst hKey
        by_cases hAccount : other = account
        · simp [hAccount]
        · simp [hAccount]
      · have hBeq : (other == key) = false := beq_eq_false_iff_ne.mpr hKey
        by_cases hAccount : key = account
        · simp only [hAccount, if_true] at hBeq ⊢
          simp only [List.lookup_cons, hBeq, hInduction]
        · simp only [hAccount, if_false, List.lookup_cons, hBeq, hInduction]

theorem setAccount_keys {funded : List (Pubkey × FundedAccount)} {account : Pubkey}
    {change : FundedAccount → FundedAccount} :
    (Lifecycle.setAccount funded account change).map Prod.fst = funded.map Prod.fst := by
  rw [Lifecycle.setAccount, List.map_map]
  apply List.map_congr_left
  intro entry _
  simp only [Function.comp_apply]
  split <;> rfl

theorem lookup_isSome_iff_mem {funded : List (Pubkey × FundedAccount)} {account : Pubkey} :
    (funded.lookup account).isSome = true ↔ account ∈ funded.map Prod.fst := by
  simp [List.lookup_isSome_iff, List.mem_map]

end

/-! ### One instruction -/

section

variable {scope : BundleScope} {position : BundlePosition} {state next : Lifecycle}
  {ix : CompiledInstruction} {program account : Pubkey}

/-- An instruction as a step of the history. -/
def BundlePosition.step (position : BundlePosition) (ix : CompiledInstruction) : BundleStep :=
  ⟨position.txIndex, position.keys, ix⟩

theorem createTemporary_eq_ok (hCreate : createTemporary scope position state ix = .ok next) :
    ∃ account kind lamports space,
      accountAt position.keys ix 1 = some account ∧
      leAt ix.data 4 12 = some lamports ∧
      account ≠ scope.gateway ∧ state.funded.lookup account = none ∧
      state.funded.length + 1 ≤ maxCtBundleFundedAccounts ∧
      state.totalLamports + lamports ≤ maxCtBundleCreateLamports ∧
      next = ⟨state.funded ++ [(account, ⟨kind, false, false, space, 0, position.txIndex⟩)],
        state.totalLamports + lamports, account :: state.createdInTransaction, true⟩ := by
  simp only [createTemporary, bind_eq_ok, okOr_eq_ok, refuseIf_eq_ok] at hCreate
  rcases hCreate with ⟨account, hAccount, owner, -, lamports, hLamports, total, hTotal, -, hCapped,
    space, hSpace, -, hFresh, -, hCount, hNext⟩
  have hSum : total = state.totalLamports + lamports := by
    simp only [checkedAdd, Option.ite_none_right_eq_some, Option.some.injEq] at hTotal
    exact hTotal.2.symm
  subst hSum
  simp only [not_or, Bool.not_eq_true, Option.isSome_eq_false_iff, Option.isNone_iff_eq_none]
    at hFresh
  simp only [List.length_append, List.length_singleton, not_lt] at hCount
  refine ⟨account, if owner = zkElgamalProofProgram then .proofContext else .record, lamports,
    space, hAccount, hLamports, hFresh.1, hFresh.2, hCount, by omega, ?_⟩
  simp only [pure, Except.pure, Except.ok.injEq] at hNext
  exact hNext.symm

theorem transition_initialization {kind : FundedAccountKind}
    (hTransition : transition position state account kind false = .ok next) :
    ∃ found, state.funded.lookup account = some found ∧ found.closed = false ∧
      found.initialized = false ∧ account ∈ state.createdInTransaction ∧
      next = { state with
        funded := Lifecycle.setAccount state.funded account ({ · with initialized := true })
        advances := true } := by
  simp only [transition, bind_eq_ok, okOr_eq_ok, refuseIf_eq_ok] at hTransition
  rcases hTransition with ⟨found, hFound, -, hState, -, hCreated, hNext⟩
  simp only [Bool.false_eq_true, not_false_eq_true, true_and, not_or, Bool.not_eq_true]
    at hState
  simp only [Bool.false_eq_true, not_false_eq_true, true_and, not_not] at hCreated
  simp only [Bool.false_eq_true, if_false, pure, Except.pure, Except.ok.injEq] at hNext
  exact ⟨found, hFound, hState.2.1, hState.2.2, hCreated, hNext.symm⟩

theorem transition_close {kind : FundedAccountKind}
    (hTransition : transition position state account kind true = .ok next) :
    ∃ found, state.funded.lookup account = some found ∧ found.closed = false ∧
      found.initialized = true ∧ position.txIndex = position.finalTx ∧
      next = { state with
        funded := Lifecycle.setAccount state.funded account ({ · with closed := true }) } := by
  simp only [transition, bind_eq_ok, okOr_eq_ok, refuseIf_eq_ok] at hTransition
  rcases hTransition with ⟨found, hFound, -, hState, -, -, hNext⟩
  simp only [not_true_eq_false, false_and, or_false, not_or, Bool.not_eq_true] at hState
  simp only [if_true, bind_eq_ok, refuseIf_eq_ok] at hNext
  rcases hNext with ⟨-, hFinal, -, hInitialized, hNext⟩
  simp only [pure, Except.pure, Except.ok.injEq] at hNext
  exact ⟨found, hFound, hState.2, by simpa using hInitialized, not_not.mp hFinal, hNext.symm⟩

theorem writeRecord_eq_ok {length : ℕ}
    (hWrite : writeRecord scope state account length = .ok next) :
    ∃ found written, state.funded.lookup account = some found ∧
      next = { state with
        funded := Lifecycle.setAccount state.funded account ({ · with written })
        advances := true } := by
  simp only [writeRecord, bind_eq_ok, okOr_eq_ok, refuseIf_eq_ok] at hWrite
  rcases hWrite with ⟨found, hFound, -, -, -, -, hNext⟩
  simp only [pure, Except.pure, Except.ok.injEq] at hNext
  exact ⟨found, _, hFound, hNext.symm⟩

end

/-! ### What one instruction does to the history -/

section

variable {scope : BundleScope} {position : BundlePosition} {state next : Lifecycle}
  {ix : CompiledInstruction} {account : Pubkey} {found : FundedAccount}
  {steps : List BundleStep}

theorem createdAccounts_append {later : List BundleStep} :
    createdAccounts scope (steps ++ later) =
      createdAccounts scope steps ++ createdAccounts scope later := by
  simp only [createdAccounts, List.filterMap_append]

theorem createdLamports_append {later : List BundleStep} :
    createdLamports (steps ++ later) = createdLamports steps ++ createdLamports later := by
  simp only [createdLamports, List.filterMap_append]

theorem Follows.update {finalTx : ℕ} {step : BundleStep}
    (change : FundedAccount → FundedAccount)
    (hFollows : Follows scope finalTx steps state)
    (hFound : state.funded.lookup account = some found)
    (hFunded : next.funded = Lifecycle.setAccount state.funded account change)
    (hTotal : next.totalLamports = state.totalLamports)
    (hSystem : programOf step.keys step.ix ≠ some systemProgram)
    (hOthers : ∀ event other, other ≠ account →
      eventOf scope step.keys step.ix ≠ some (event, other))
    (hCreation : ∀ other, eventOf scope step.keys step.ix ≠ some (.creation, other))
    (hPlace : (change found).createdIn = found.createdIn)
    (hInitialization : (if found.initialized then [found.createdIn] else []) ++
      occurrences scope .initialization account [step] =
        if (change found).initialized then [found.createdIn] else [])
    (hClose : (if found.closed then [finalTx] else []) ++
      occurrences scope .close account [step] = if (change found).closed then [finalTx] else []) :
    Follows scope finalTx (steps ++ [step]) next := by
  have hKeys : next.funded.map Prod.fst = state.funded.map Prod.fst := by
    rw [hFunded, setAccount_keys]
  have hNoCreation : createdAccounts scope [step] = [] := by
    simp only [createdAccounts, List.filterMap_eq_nil_iff, List.mem_singleton, forall_eq]
  have hNoLamports : createdLamports [step] = [] := by
    simp [createdLamports, hSystem]
  have hNone : ∀ event other, other ≠ account → occurrences scope event other [step] = [] := by
    intro event other hOther
    rw [occurrences_singleton, if_neg (hOthers event other hOther)]
  have hLookup : ∀ other, next.funded.lookup other =
      if other = account then (state.funded.lookup other).map change
      else state.funded.lookup other := by
    intro other
    rw [hFunded, lookup_setAccount]
  constructor
  case accounts =>
    rw [hKeys, createdAccounts_append, hNoCreation, List.append_nil]
    exact hFollows.accounts
  case distinct =>
    rw [hKeys]
    exact hFollows.distinct
  case gateway =>
    rw [hKeys]
    exact hFollows.gateway
  case count =>
    rw [hFunded, Lifecycle.setAccount, List.length_map]
    exact hFollows.count
  case lamports =>
    rw [createdLamports_append, hNoLamports, List.append_nil, hTotal]
    exact hFollows.lamports
  case capped =>
    rw [hTotal]
    exact hFollows.capped
  case creations =>
    intro other known hKnown
    have hNoStep : occurrences scope .creation other [step] = [] := by
      rw [occurrences_singleton, if_neg (hCreation other)]
    rw [occurrences_append, hNoStep, List.append_nil]
    rw [hLookup] at hKnown
    by_cases hOther : other = account
    · subst hOther
      simp only [if_true, hFound, Option.map_some, Option.some.injEq] at hKnown
      rw [← hKnown, hPlace]
      exact hFollows.creations _ _ hFound
    · rw [if_neg hOther] at hKnown
      exact hFollows.creations _ _ hKnown
  case initializations =>
    intro other known hKnown
    rw [occurrences_append]
    rw [hLookup] at hKnown
    by_cases hOther : other = account
    · subst hOther
      simp only [if_true, hFound, Option.map_some, Option.some.injEq] at hKnown
      rw [hFollows.initializations _ _ hFound, hInitialization, ← hKnown, hPlace]
    · rw [if_neg hOther] at hKnown
      rw [hNone _ _ hOther, List.append_nil]
      exact hFollows.initializations _ _ hKnown
  case closes =>
    intro other known hKnown
    rw [occurrences_append]
    rw [hLookup] at hKnown
    by_cases hOther : other = account
    · subst hOther
      simp only [if_true, hFound, Option.map_some, Option.some.injEq] at hKnown
      rw [hFollows.closes _ _ hFound, hClose, ← hKnown]
    · rw [if_neg hOther] at hKnown
      rw [hNone _ _ hOther, List.append_nil]
      exact hFollows.closes _ _ hKnown
  case untouched =>
    intro other hUnknown event
    rw [occurrences_append]
    rw [hLookup] at hUnknown
    by_cases hOther : other = account
    · subst hOther
      simp only [if_true, hFound, Option.map_some, reduceCtorEq] at hUnknown
    · rw [if_neg hOther] at hUnknown
      rw [hNone _ _ hOther, List.append_nil]
      exact hFollows.untouched _ hUnknown _

theorem Follows.idle {finalTx : ℕ} {step : BundleStep}
    (hFollows : Follows scope finalTx steps state)
    (hSystem : programOf step.keys step.ix ≠ some systemProgram)
    (hEvent : eventOf scope step.keys step.ix = none) :
    Follows scope finalTx (steps ++ [step]) state := by
  have hNone : ∀ event other, occurrences scope event other [step] = [] := by
    intro event other
    simp [occurrences, hEvent]
  constructor
  case accounts =>
    rw [createdAccounts_append]
    simpa [createdAccounts, hEvent] using hFollows.accounts
  case distinct => exact hFollows.distinct
  case gateway => exact hFollows.gateway
  case count => exact hFollows.count
  case lamports =>
    rw [createdLamports_append]
    simpa [createdLamports, hSystem] using hFollows.lamports
  case capped => exact hFollows.capped
  case creations =>
    intro other known hKnown
    rw [occurrences_append, hNone, List.append_nil]
    exact hFollows.creations _ _ hKnown
  case initializations =>
    intro other known hKnown
    rw [occurrences_append, hNone, List.append_nil]
    exact hFollows.initializations _ _ hKnown
  case closes =>
    intro other known hKnown
    rw [occurrences_append, hNone, List.append_nil]
    exact hFollows.closes _ _ hKnown
  case untouched =>
    intro other hUnknown event
    rw [occurrences_append, hNone, List.append_nil]
    exact hFollows.untouched _ hUnknown _

end

/-! ### One step -/

section

variable {scope : BundleScope} {position : BundlePosition} {state next : Lifecycle}
  {ix : CompiledInstruction} {account : Pubkey} {steps : List BundleStep}

/-- The accounts that the transaction created are known as created by it. -/
def CreatedHere (txIndex : ℕ) (state : Lifecycle) : Prop :=
  ∀ account ∈ state.createdInTransaction, ∃ found,
    state.funded.lookup account = some found ∧ found.createdIn = txIndex

theorem CreatedHere.update {txIndex : ℕ} (change : FundedAccount → FundedAccount)
    (hCreated : CreatedHere txIndex state)
    (hFunded : next.funded = Lifecycle.setAccount state.funded account change)
    (hPlace : ∀ found, (change found).createdIn = found.createdIn)
    (hSame : next.createdInTransaction = state.createdInTransaction) :
    CreatedHere txIndex next := by
  intro other hOther
  rw [hSame] at hOther
  rcases hCreated other hOther with ⟨found, hFound, hIndex⟩
  rw [hFunded, lookup_setAccount]
  by_cases hAccount : other = account
  · exact ⟨change found, by rw [if_pos hAccount, hFound, Option.map_some], by rw [hPlace, hIndex]⟩
  · exact ⟨found, by rw [if_neg hAccount, hFound], hIndex⟩

theorem lookup_append_singleton {funded : List (Pubkey × FundedAccount)} {other : Pubkey}
    {found : FundedAccount} (hFresh : funded.lookup account = none) :
    (funded ++ [(account, found)]).lookup other =
      if other = account then some found else funded.lookup other := by
  rw [List.lookup_append]
  by_cases hOther : other = account
  · subst hOther
    simp [hFresh]
  · have hBeq : (other == account) = false := beq_eq_false_iff_ne.mpr hOther
    simp [List.lookup_cons, hBeq, hOther]

theorem Follows.create {kind : FundedAccountKind} {lamports space : ℕ}
    (hFollows : Follows scope position.finalTx steps state)
    (hProgram : programOf position.keys ix = some systemProgram)
    (hAccount : accountAt position.keys ix 1 = some account)
    (hLamports : leAt ix.data 4 12 = some lamports) (hGateway : account ≠ scope.gateway)
    (hFresh : state.funded.lookup account = none)
    (hCount : state.funded.length + 1 ≤ maxCtBundleFundedAccounts)
    (hCapped : state.totalLamports + lamports ≤ maxCtBundleCreateLamports) :
    Follows scope position.finalTx (steps ++ [position.step ix])
      ⟨state.funded ++ [(account, ⟨kind, false, false, space, 0, position.txIndex⟩)],
        state.totalLamports + lamports, account :: state.createdInTransaction, true⟩ := by
  have hEvent : eventOf scope position.keys ix = some (.creation, account) := by
    simp [eventOf, hProgram, hAccount]
  have hStep : ∀ event other, occurrences scope event other [position.step ix] =
      if event = .creation ∧ other = account then [position.txIndex] else [] := by
    intro event other
    rw [occurrences_singleton]
    simp only [BundlePosition.step, hEvent, Option.some.injEq, Prod.mk.injEq]
    congr 1
    simp only [eq_comm]
  have hAbsent : account ∉ state.funded.map Prod.fst := by
    rw [← lookup_isSome_iff_mem, hFresh]
    exact Bool.false_ne_true
  constructor
  case accounts =>
    rw [List.map_append, hFollows.accounts, createdAccounts_append]
    simp [createdAccounts, BundlePosition.step, hEvent]
  case distinct =>
    rw [List.map_append, List.nodup_append]
    refine ⟨hFollows.distinct, List.nodup_singleton _, ?_⟩
    intro known hKnown other hOther hSame
    simp only [List.map_cons, List.map_nil, List.mem_singleton] at hOther
    subst hSame hOther
    exact hAbsent hKnown
  case gateway =>
    simp only [List.map_append, List.map_cons, List.map_nil, List.mem_append, List.mem_singleton,
      not_or]
    exact ⟨hFollows.gateway, fun hSame => hGateway hSame.symm⟩
  case count => simpa using hCount
  case lamports =>
    rw [createdLamports_append, List.sum_append, hFollows.lamports]
    simp [createdLamports, BundlePosition.step, hProgram, hLamports]
  case capped => exact hCapped
  case creations =>
    intro other known hKnown
    rw [lookup_append_singleton hFresh] at hKnown
    rw [occurrences_append, hStep]
    by_cases hOther : other = account
    · subst hOther
      rw [if_pos rfl] at hKnown
      cases hKnown
      rw [hFollows.untouched _ hFresh]
      simp
    · rw [if_neg hOther] at hKnown
      rw [hFollows.creations _ _ hKnown]
      simp [hOther]
  case initializations =>
    intro other known hKnown
    rw [lookup_append_singleton hFresh] at hKnown
    rw [occurrences_append, hStep, if_neg (by simp), List.append_nil]
    by_cases hOther : other = account
    · subst hOther
      rw [if_pos rfl] at hKnown
      cases hKnown
      rw [hFollows.untouched _ hFresh]
      simp
    · rw [if_neg hOther] at hKnown
      exact hFollows.initializations _ _ hKnown
  case closes =>
    intro other known hKnown
    rw [lookup_append_singleton hFresh] at hKnown
    rw [occurrences_append, hStep, if_neg (by simp), List.append_nil]
    by_cases hOther : other = account
    · subst hOther
      rw [if_pos rfl] at hKnown
      cases hKnown
      rw [hFollows.untouched _ hFresh]
      simp
    · rw [if_neg hOther] at hKnown
      exact hFollows.closes _ _ hKnown
  case untouched =>
    intro other hUnknown event
    rw [lookup_append_singleton hFresh] at hUnknown
    by_cases hOther : other = account
    · rw [if_pos hOther] at hUnknown
      cases hUnknown
    · rw [if_neg hOther] at hUnknown
      rw [occurrences_append, hStep, if_neg (by simp [hOther]), List.append_nil]
      exact hFollows.untouched _ hUnknown _

theorem CreatedHere.create {kind : FundedAccountKind} {total space : ℕ}
    (hCreated : CreatedHere position.txIndex state)
    (hFresh : state.funded.lookup account = none) :
    CreatedHere position.txIndex
      ⟨state.funded ++ [(account, ⟨kind, false, false, space, 0, position.txIndex⟩)],
        total, account :: state.createdInTransaction, true⟩ := by
  intro other hOther
  rw [lookup_append_singleton hFresh]
  by_cases hAccount : other = account
  · exact ⟨_, if_pos hAccount, rfl⟩
  · rcases List.mem_cons.mp hOther with hSame | hOther
    · exact absurd hSame hAccount
    · rcases hCreated other hOther with ⟨found, hFound, hIndex⟩
      exact ⟨found, by rw [if_neg hAccount, hFound], hIndex⟩

section

variable (hFollows : Follows scope position.finalTx steps state)
  (hCreated : CreatedHere position.txIndex state)
  (hSystem : programOf position.keys ix ≠ some systemProgram)

include hFollows hCreated hSystem

theorem Follows.initialized {kind : FundedAccountKind}
    (hEvent : eventOf scope position.keys ix = some (.initialization, account))
    (hTransition : transition position state account kind false = .ok next) :
    Follows scope position.finalTx (steps ++ [position.step ix]) next ∧
      CreatedHere position.txIndex next := by
  rcases transition_initialization hTransition with
    ⟨found, hFound, hClosed, hInitialized, hHere, rfl⟩
  have hIndex : found.createdIn = position.txIndex := by
    rcases hCreated account hHere with ⟨known, hKnown, hIndex⟩
    rw [hFound] at hKnown
    cases hKnown
    exact hIndex
  refine ⟨Follows.update ({ · with initialized := true }) hFollows hFound rfl rfl hSystem
      ?_ ?_ rfl ?_ ?_,
    CreatedHere.update ({ · with initialized := true }) hCreated rfl (fun _ => rfl) rfl⟩
  · intro event other hOther hSame
    simp only [BundlePosition.step, hEvent, Option.some.injEq, Prod.mk.injEq] at hSame
    exact hOther hSame.2.symm
  · intro other hSame
    simp [BundlePosition.step, hEvent] at hSame
  · rw [occurrences_singleton]
    simp [BundlePosition.step, hEvent, hInitialized, hIndex]
  · rw [occurrences_singleton]
    simp [BundlePosition.step, hEvent]

theorem Follows.close {kind : FundedAccountKind}
    (hEvent : eventOf scope position.keys ix = some (.close, account))
    (hTransition : transition position state account kind true = .ok next) :
    Follows scope position.finalTx (steps ++ [position.step ix]) next ∧
      CreatedHere position.txIndex next := by
  rcases transition_close hTransition with ⟨found, hFound, hClosed, hInitialized, hFinal, rfl⟩
  refine ⟨Follows.update ({ · with closed := true }) hFollows hFound rfl rfl hSystem
      ?_ ?_ rfl ?_ ?_,
    CreatedHere.update ({ · with closed := true }) hCreated rfl (fun _ => rfl) rfl⟩
  · intro event other hOther hSame
    simp only [BundlePosition.step, hEvent, Option.some.injEq, Prod.mk.injEq] at hSame
    exact hOther hSame.2.symm
  · intro other hSame
    simp [BundlePosition.step, hEvent] at hSame
  · rw [occurrences_singleton]
    simp [BundlePosition.step, hEvent]
  · rw [occurrences_singleton]
    simp [BundlePosition.step, hEvent, hClosed, hFinal]

theorem Follows.write {length : ℕ} (hEvent : eventOf scope position.keys ix = none)
    (hWrite : writeRecord scope state account length = .ok next) :
    Follows scope position.finalTx (steps ++ [position.step ix]) next ∧
      CreatedHere position.txIndex next := by
  rcases writeRecord_eq_ok hWrite with ⟨found, written, hFound, rfl⟩
  refine ⟨Follows.update ({ · with written }) hFollows hFound rfl rfl hSystem
      ?_ ?_ rfl ?_ ?_,
    CreatedHere.update ({ · with written }) hCreated rfl (fun _ => rfl) rfl⟩
  · intro event other _ hSame
    simp [BundlePosition.step, hEvent] at hSame
  · intro other hSame
    simp [BundlePosition.step, hEvent] at hSame
  · rw [occurrences_singleton]
    simp [BundlePosition.step, hEvent]
  · rw [occurrences_singleton]
    simp [BundlePosition.step, hEvent]

theorem Follows.zk (hProgram : programOf position.keys ix = some zkElgamalProofProgram)
    (hZk : followZk position state ix = .ok next) :
    Follows scope position.finalTx (steps ++ [position.step ix]) next ∧
      CreatedHere position.txIndex next := by
  have hEvent : eventOf scope position.keys ix =
      if ix.accounts.isEmpty then none
      else if ix.data.head? = some 0 then (accountAt position.keys ix 0).map (.close, ·)
      else (accountAt position.keys ix (if ix.data.length = 5 then 1 else 0)).map
        (.initialization, ·) := by
    rw [eventOf, if_neg hSystem, if_pos hProgram]
  simp only [followZk] at hZk
  split at hZk
  next hEmpty =>
    cases hZk
    exact ⟨hFollows.idle hSystem (by rw [BundlePosition.step, hEvent, if_pos hEmpty]), hCreated⟩
  next hAccounts =>
    simp only [bind_eq_ok, okOr_eq_ok] at hZk
    rcases hZk with ⟨account, hAccount, hTransition⟩
    rw [if_neg hAccounts] at hEvent
    simp only [zkContext] at hAccount hTransition
    by_cases hClose : ix.data.head? = some 0
    · simp only [hClose, if_true] at hAccount hTransition hEvent
      rw [hAccount] at hEvent
      exact hFollows.close hCreated hSystem hEvent hTransition
    · by_cases hLength : ix.data.length = 5
      · simp only [hClose, hLength, if_true, if_false] at hAccount hTransition hEvent
        rw [hAccount] at hEvent
        exact hFollows.initialized hCreated hSystem hEvent hTransition
      · simp only [hClose, hLength, if_false] at hAccount hTransition hEvent
        rw [hAccount] at hEvent
        exact hFollows.initialized hCreated hSystem hEvent hTransition

theorem Follows.record (hZk : programOf position.keys ix ≠ some zkElgamalProofProgram)
    (hProgram : programOf position.keys ix = some scope.recordProgram.id)
    (hRecord : followRecord scope position state ix = .ok next) :
    Follows scope position.finalTx (steps ++ [position.step ix]) next ∧
      CreatedHere position.txIndex next := by
  have hEvent : eventOf scope position.keys ix =
      if ix.data.head? = some 0 then (accountAt position.keys ix 0).map (.initialization, ·)
      else if ix.data.head? = some 3 then (accountAt position.keys ix 0).map (.close, ·)
      else none := by
    rw [eventOf, if_neg hSystem, if_neg hZk, if_pos hProgram]
  simp only [followRecord, bind_eq_ok, okOr_eq_ok] at hRecord
  rcases hRecord with ⟨account, hAccount, parsed, hParsed, hRecord⟩
  rw [hAccount] at hEvent
  simp only [RecordIx.parse] at hParsed
  split at hParsed
  next hInitialize =>
    cases hParsed
    rw [if_pos hInitialize] at hEvent
    exact hFollows.initialized hCreated hSystem hEvent hRecord
  next hInitialize =>
    rw [if_neg hInitialize] at hEvent
    split at hParsed
    next hTag =>
      simp only [bind_eq_ok, okOr_eq_ok, refuseIf_eq_ok, pure, Except.pure, Except.ok.injEq]
        at hParsed
      rcases hParsed with ⟨length, -, -, -, -, -, rfl⟩
      rw [if_neg (by simp [hTag])] at hEvent
      exact hFollows.write hCreated hSystem hEvent hRecord
    next =>
      split at hParsed
      next hClose =>
        cases hParsed
        rw [if_pos hClose] at hEvent
        exact hFollows.close hCreated hSystem hEvent hRecord
      next => cases hParsed

end

theorem followInstruction_follows (hFollows : Follows scope position.finalTx steps state)
    (hCreated : CreatedHere position.txIndex state)
    (hStep : followInstruction scope position state ix = .ok next) :
    Follows scope position.finalTx (steps ++ [position.step ix]) next ∧
      CreatedHere position.txIndex next := by
  simp only [followInstruction, bundleProgram, bind_eq_ok, okOr_eq_ok] at hStep
  rcases hStep with ⟨program, hProgram, hStep⟩
  split at hStep
  next hSystem =>
    subst hSystem
    rcases createTemporary_eq_ok hStep with
      ⟨account, kind, lamports, space, hAccount, hLamports, hGateway, hFresh, hCount, hCapped, rfl⟩
    exact ⟨hFollows.create hProgram hAccount hLamports hGateway hFresh hCount hCapped,
      hCreated.create hFresh⟩
  next hSystem =>
    have hNotSystem : programOf position.keys ix ≠ some systemProgram := by simpa [hProgram]
    split at hStep
    next hZk =>
      subst hZk
      exact hFollows.zk hCreated hNotSystem hProgram hStep
    next hZk =>
      have hNotZk : programOf position.keys ix ≠ some zkElgamalProofProgram := by simpa [hProgram]
      split at hStep
      next hRecord =>
        subst hRecord
        exact hFollows.record hCreated hNotSystem hNotZk hProgram hStep
      next hRecord =>
        cases hStep
        refine ⟨hFollows.idle hNotSystem ?_, hCreated⟩
        rw [BundlePosition.step, eventOf, if_neg hNotSystem, if_neg hNotZk,
          if_neg (by simpa [hProgram])]

end

/-! ### A whole bundle -/

section

variable {scope : BundleScope} {finalTx : ℕ} {state next : Lifecycle} {steps : List BundleStep}

theorem Follows.congr (hFollows : Follows scope finalTx steps state)
    (hFunded : next.funded = state.funded) (hTotal : next.totalLamports = state.totalLamports) :
    Follows scope finalTx steps next := by
  constructor
  case accounts => simpa only [hFunded] using hFollows.accounts
  case distinct => simpa only [hFunded] using hFollows.distinct
  case gateway => simpa only [hFunded] using hFollows.gateway
  case count => simpa only [hFunded] using hFollows.count
  case lamports => simpa only [hTotal] using hFollows.lamports
  case capped => simpa only [hTotal] using hFollows.capped
  case creations => simpa only [hFunded] using hFollows.creations
  case initializations => simpa only [hFunded] using hFollows.initializations
  case closes => simpa only [hFunded] using hFollows.closes
  case untouched => simpa only [hFunded] using hFollows.untouched

theorem followTransaction_follows {tx : VersionedTransaction × ℕ}
    (hFollows : Follows scope finalTx steps state)
    (hStep : followTransaction scope finalTx state tx = .ok next) :
    Follows scope finalTx (steps ++ bundleSteps [tx]) next := by
  simp only [followTransaction, bind_eq_ok, refuseIf_eq_ok, pure, Except.pure, Except.ok.injEq]
    at hStep
  rcases hStep with ⟨after, hRun, -, -, rfl⟩
  have hStart : Follows scope finalTx steps
      { state with createdInTransaction := [], advances := false } := hFollows.congr rfl rfl
  have hHistory := foldlM_history
    (fun history known => Follows scope finalTx
      (steps ++ history.map
        (BundlePosition.step ⟨tx.2, finalTx, tx.1.message.staticAccountKeys⟩)) known ∧
      CreatedHere tx.2 known)
    ?_ [] ⟨by simpa using hStart, by intro account hNone; cases hNone⟩ hRun
  · rw [bundleSteps, List.flatMap_singleton]
    exact hHistory.1
  · intro history ix known after hKnown hStep
    have hNext := followInstruction_follows hKnown.1 hKnown.2 hStep
    simpa [List.append_assoc] using hNext

theorem bundleSteps_append {transactions later : List (VersionedTransaction × ℕ)} :
    bundleSteps (transactions ++ later) = bundleSteps transactions ++ bundleSteps later := by
  simp only [bundleSteps, List.flatMap_append]

theorem Follows.start : Follows scope finalTx [] ⟨[], 0, [], false⟩ := by
  constructor <;> simp [createdAccounts, createdLamports, occurrences]

/-- The accounts of a bundle that passes, each with the transaction that creates it. -/
theorem verifyConfidentialAccountLifecycle_follows {transactions : List VersionedTransaction}
    {accounts : List BundleAccount}
    (hVerified : verifyConfidentialAccountLifecycle scope transactions = .ok accounts) :
    ∃ state, Follows scope (transactions.length - 1) (bundleSteps transactions.zipIdx) state ∧
      ∀ account found, state.funded.lookup account = some found →
        found.initialized = true ∧ found.closed = true := by
  simp only [verifyConfidentialAccountLifecycle, bind_eq_ok, refuseIf_eq_ok] at hVerified
  rcases hVerified with ⟨state, hRun, -, hClosed, -⟩
  have hHistory := foldlM_history
    (fun history known => Follows scope (transactions.length - 1) (bundleSteps history) known)
    ?_ [] Follows.start hRun
  · refine ⟨state, hHistory, ?_⟩
    intro account found hFound
    have hMember : (account, found) ∈ state.funded := by
      rcases List.lookup_eq_some_iff.mp hFound with ⟨before, after, hSplit, -⟩
      rw [hSplit]
      exact List.mem_append_right _ List.mem_cons_self
    simp only [List.any_eq_true, decide_eq_true_eq, not_exists, not_and, not_or, not_not]
      at hClosed
    exact hClosed _ hMember
  · intro history tx known after hKnown hStep
    rw [bundleSteps_append]
    exact followTransaction_follows hKnown hStep

end

end PayKit.Confidential
