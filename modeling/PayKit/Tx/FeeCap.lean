import Mathlib.Algebra.Order.Floor.Div
import PayKit.Control.Faulting
import PayKit.Tx.Policy

/-!
# One fee cap for both versions

The caps on a unit limit and a unit price bound the fee that a sponsor pays, on both versions.
Version 0 declares a price per unit, and its fee is rounded up from it; without a declared limit
the runtime's own limit counts. Version 1 declares a fee, and its price is rounded up from that.

The functions of the budget compute in 128 bits. Their versions on machine integers, which fault
where an operation overflows, divides by zero or leaves its range, are those on numbers.
-/

namespace PayKit.Tx

open Control Encoding Faulting Machine Solana

/-! ### The computations on machine integers -/

/-- `ComputeBudget::priority_fee_lamports`. -/
def ComputeBudget.machinePriorityFeeLamports (budget : ComputeBudget) : Faulting String ℕ := do
  let micro ← times 128 budget.unitLimit budget.unitPriceMicroLamports
  let lamports ← divCeil micro 1000000
  return min lamports u64Max

/-- The unit limit of `ComputeBudget::runtime_default`: a saturating product of 64 bits, cut to
32 bits. -/
def machineRuntimeLimit (numInstructions : ℕ) : ℕ :=
  let limit := min (200000 * numInstructions) u64Max
  (if 1400000 < limit then 1400000 else limit) % 2 ^ 32

/-- The limit that the runtime gives a message without a declared one. -/
def machineImplicitLimit (message : VersionedMessage) (declared : DeclaredBudget) :
    Faulting String ℕ := do
  let budgeted ← minus message.instructions.length declared.instructionIndexes.length
  return machineRuntimeLimit budgeted

namespace DeclaredBudget

def machineUnitPrice (unitLimit fee : ℕ) : Faulting String ℕ :=
  if unitLimit = 0 then .ok u64Max
  else do
    let micro ← times 128 fee 1000000
    let price ← divCeil micro unitLimit
    return min price u64Max

def machineUnitPrices (unitLimit : ℕ) : Option ℕ → Faulting String (Option ℕ)
  | none => .ok none
  | some fee => do
      let price ← machineUnitPrice unitLimit fee
      return some price

/-- `DeclaredBudget::of`: version 0 has no arithmetic. -/
def machineOf : VersionedMessage → Faulting String DeclaredBudget
  | .v1 message config => do
      faultless (refuseIf (message.instructions.any (isComputeBudget message.accountKeys))
        "version 1 transactions must not contain ComputeBudget instructions")
      match config.computeUnitLimit with
      | none => faultless (.error "version 1 transaction config must set computeUnitLimit")
      | some unitLimit => do
          let price ← machineUnitPrices unitLimit config.priorityFee
          return { unitLimit := some unitLimit
                   unitPriceMicroLamports := price
                   loadedAccountsDataSizeLimit := config.loadedAccountsDataSizeLimit
                   instructionIndexes := [] }
  | message => faultless (of message)

end DeclaredBudget

/-- `check_v1_budget_caps_with`. -/
def machineCheckV1BudgetCapsWith (message : VersionedMessage)
    (maxUnitLimit maxUnitPriceMicroLamports : ℕ) (loaded : LoadedDataLimitRule) :
    Faulting String (Option DeclaredBudget) :=
  match TxVersion.of message with
  | .v0 => .ok none
  | .v1 => do
      let declared ← DeclaredBudget.machineOf message
      faultless (checkDeclaredCaps declared maxUnitLimit maxUnitPriceMicroLamports)
      faultless (refuseIf (¬loaded.accepts declared.loadedAccountsDataSizeLimit) loaded.refusal)
      return some declared

/-- `check_v1_budget_caps`. -/
def machineCheckV1BudgetCaps (message : VersionedMessage)
    (maxUnitLimit maxUnitPriceMicroLamports : ℕ) : Faulting String (Option DeclaredBudget) :=
  machineCheckV1BudgetCapsWith message maxUnitLimit maxUnitPriceMicroLamports .maximum

/-- No ComputeBudget instruction has accounts, each of them read as `instructions[index]`. -/
def machineCheckNoAccounts (instructions : List CompiledInstruction) :
    List ℕ → Faulting String Unit
  | [] => .ok ()
  | position :: rest => do
      let ix ← index instructions position
      if ix.accounts.isEmpty then machineCheckNoAccounts instructions rest
      else faultless (.error "ComputeBudget instructions must not have accounts")

/-- A priced message without a declared limit, against the cap on the limit. -/
def machineCheckImplicitLimit (message : VersionedMessage) (declared : DeclaredBudget)
    (maxUnitLimit : ℕ) : Faulting String Unit :=
  if declared.unitPriceMicroLamports.any (0 < ·) ∧ declared.unitLimit = none then do
    let implicitLimit ← machineImplicitLimit message declared
    faultless (refuseIf (maxUnitLimit < implicitLimit)
      (s!"implicit compute unit limit {implicitLimit} exceeds maximum {maxUnitLimit}; declare " ++
        "SetComputeUnitLimit"))
  else .ok ()

/-- `check_v0_budget_caps`. -/
def machineCheckV0BudgetCaps (message : VersionedMessage)
    (maxUnitLimit maxUnitPriceMicroLamports : ℕ) : Faulting String (Option DeclaredBudget) :=
  match TxVersion.of message with
  | .v1 => .ok none
  | .v0 => do
      let declared ← DeclaredBudget.machineOf message
      machineCheckNoAccounts message.instructions declared.instructionIndexes
      faultless (refuseIf declared.loadedAccountsDataSizeLimit.isSome
        "SetLoadedAccountsDataSizeLimit is not supported")
      faultless (checkDeclaredCaps declared maxUnitLimit maxUnitPriceMicroLamports)
      machineCheckImplicitLimit message declared maxUnitLimit
      return some declared

/-- The unit limit that counts for the fee of a version-0 message. -/
def machineLimit (message : VersionedMessage) (declared : DeclaredBudget) : Faulting String ℕ :=
  match declared.unitLimit with
  | some limit => .ok limit
  | none => machineImplicitLimit message declared

/-- The fee that `check_priority_fee` computes. -/
def machinePriorityFee (message : VersionedMessage) (declared : DeclaredBudget) :
    Faulting String ℕ :=
  match message with
  | .v1 _ config => .ok (config.priorityFee.getD 0)
  | _ => do
      let limit ← machineLimit message declared
      ComputeBudget.machinePriorityFeeLamports
        { unitLimit := limit
          unitPriceMicroLamports := declared.unitPriceMicroLamports.getD 0 }

/-- `check_priority_fee`. -/
def machineCheckPriorityFee (message : VersionedMessage) (maxLamports : ℕ) :
    Faulting String ℕ := do
  let declared ← DeclaredBudget.machineOf message
  let fee ← machinePriorityFee message declared
  faultless (refuseIf (maxLamports < fee)
    s!"priority fee {fee} lamports exceeds the sponsored maximum {maxLamports}")
  return fee

/-! ### What a declared budget is -/

/-- The bounds on what the first `count` instructions declare. -/
structure DeclaredBudget.Within (count : ℕ) (budget : DeclaredBudget) : Prop where
  unitLimit : ∀ limit ∈ budget.unitLimit, limit < 2 ^ 32
  unitPrice : ∀ price ∈ budget.unitPriceMicroLamports, price ≤ u64Max
  indexes : ∀ index ∈ budget.instructionIndexes, index < count
  length : budget.instructionIndexes.length ≤ count

theorem fromLeBytes_lt {bytes : List UInt8} {start stop : ℕ} (hStop : stop ≤ bytes.length) :
    fromLeBytes bytes start stop < 256 ^ (stop - start) := by
  have hBound := decodeLE_lt (slice bytes start stop)
  rwa [length_slice hStop] at hBound

theorem decodeComputeBudgetOp_within {ix : CompiledInstruction} {op : ComputeBudgetOp}
    (hOp : decodeComputeBudgetOp ix = some op) :
    (∀ units, op = .unitLimit units → units < 2 ^ 32) ∧
      ∀ price, op = .unitPrice price → price ≤ u64Max := by
  unfold decodeComputeBudgetOp at hOp
  split at hOp
  · next hLimit =>
      have hUnits : fromLeBytes ix.data 1 5 < 256 ^ 4 := fromLeBytes_lt (by omega)
      cases hOp
      constructor
      · rintro units ⟨⟩
        omega
      · rintro price ⟨⟩
  · split at hOp
    · next hPriced =>
        have hUnits : fromLeBytes ix.data 1 9 < 256 ^ 8 := fromLeBytes_lt (by omega)
        cases hOp
        constructor
        · rintro units ⟨⟩
        · rintro price ⟨⟩
          simp only [u64Max]
          omega
    · split at hOp
      · cases hOp
        constructor
        · rintro units ⟨⟩
        · rintro price ⟨⟩
      · cases hOp

namespace DeclaredBudget

theorem Within.declare {count : ℕ} {budget next : DeclaredBudget} {ix : CompiledInstruction}
    (hWithin : budget.Within count) (hNext : budget.declare count ix = .ok next) :
    next.Within (count + 1) := by
  rcases hWithin with ⟨hLimit, hPrice, hIndexes, hLength⟩
  have hAll : ∀ index ∈ budget.instructionIndexes ++ [count], index < count + 1 := by
    intro index hIndex
    rcases List.mem_append.mp hIndex with hIndex | hIndex
    · exact Nat.lt_succ_of_lt (hIndexes index hIndex)
    · rw [List.mem_singleton.mp hIndex]
      exact Nat.lt_succ_self count
  have hCount : (budget.instructionIndexes ++ [count]).length ≤ count + 1 := by
    simpa using hLength
  unfold DeclaredBudget.declare at hNext
  split at hNext
  · next units hOp =>
      have hUnits := (decodeComputeBudgetOp_within hOp).1 units rfl
      split at hNext
      · cases hNext
      · cases hNext
        exact ⟨by simpa using hUnits, hPrice, hAll, hCount⟩
  · next price hOp =>
      have hNew := (decodeComputeBudgetOp_within hOp).2 price rfl
      split at hNext
      · cases hNext
      · cases hNext
        exact ⟨hLimit, by simpa using hNew, hAll, hCount⟩
  · split at hNext
    · cases hNext
    · cases hNext
      exact ⟨hLimit, hPrice, hAll, hCount⟩
  · cases hNext

theorem Within.skip {count : ℕ} {budget : DeclaredBudget} (hWithin : budget.Within count) :
    budget.Within (count + 1) where
  unitLimit := hWithin.unitLimit
  unitPrice := hWithin.unitPrice
  indexes := fun index hIndex => Nat.lt_succ_of_lt (hWithin.indexes index hIndex)
  length := Nat.le_succ_of_le hWithin.length

theorem Within.scan {keys : List Pubkey} {count : ℕ} {ixs : List CompiledInstruction}
    {budget declared : DeclaredBudget} (hWithin : budget.Within count)
    (hScan : scan keys count ixs budget = .ok declared) :
    declared.Within (count + ixs.length) := by
  induction ixs generalizing count budget with
  | nil =>
      cases hScan
      exact hWithin
  | cons ix ixs hInduction =>
      rw [DeclaredBudget.scan] at hScan
      have hLength : count + (ix :: ixs).length = count + 1 + ixs.length := by
        simp only [List.length_cons]
        omega
      rw [hLength]
      split at hScan
      · rw [bind_eq_ok] at hScan
        rcases hScan with ⟨next, hNext, hScan⟩
        exact hInduction (hWithin.declare hNext) hScan
      · exact hInduction hWithin.skip hScan

theorem within_empty : Within 0 {} where
  unitLimit := by simp
  unitPrice := by simp
  indexes := by simp
  length := by simp

theorem within_of {message : VersionedMessage} {declared : DeclaredBudget}
    (hVersion : TxVersion.of message = .v0) (hDeclared : of message = .ok declared) :
    declared.Within message.instructions.length := by
  cases message with
  | v1 message config => cases hVersion
  | legacy message =>
      have hWithin := within_empty.scan hDeclared
      rwa [Nat.zero_add] at hWithin
  | v0 message lookups =>
      have hWithin := within_empty.scan hDeclared
      rwa [Nat.zero_add] at hWithin

end DeclaredBudget

/-! ### No operation faults -/

/-- The values of a version-1 configuration fit the fields that carry them. -/
def VersionedMessage.FitsFields : VersionedMessage → Prop
  | .v1 _ config =>
      (∀ fee ∈ config.priorityFee, fee ≤ u64Max) ∧ ∀ limit ∈ config.computeUnitLimit, limit < 2 ^ 32
  | _ => True

theorem machinePriorityFeeLamports_eq {budget : ComputeBudget} (hLimit : budget.unitLimit < 2 ^ 32)
    (hPrice : budget.unitPriceMicroLamports ≤ u64Max) :
    budget.machinePriorityFeeLamports = .ok budget.priorityFeeLamports := by
  have hMicro : budget.unitLimit * budget.unitPriceMicroLamports < 2 ^ 128 := by
    calc budget.unitLimit * budget.unitPriceMicroLamports
        ≤ 2 ^ 32 * u64Max := Nat.mul_le_mul hLimit.le hPrice
      _ < 2 ^ 128 := by decide
  rw [ComputeBudget.machinePriorityFeeLamports, times_of_lt hMicro, ok_bind,
    divCeil_of_ne_zero (by decide), ok_bind]
  rfl

theorem machineRuntimeLimit_eq (numInstructions : ℕ) :
    machineRuntimeLimit numInstructions
      = (ComputeBudget.runtimeDefault numInstructions).unitLimit := by
  have hMax : u64Max = 2 ^ 64 - 1 := rfl
  simp only [machineRuntimeLimit, ComputeBudget.runtimeDefault]
  split <;> omega

theorem runtimeDefault_unitLimit_lt (numInstructions : ℕ) :
    (ComputeBudget.runtimeDefault numInstructions).unitLimit < 2 ^ 32 := by
  simp only [ComputeBudget.runtimeDefault]
  omega

section

variable {message : VersionedMessage} {declared : DeclaredBudget}

theorem machineImplicitLimit_eq (hWithin : declared.Within message.instructions.length) :
    machineImplicitLimit message declared
      = .ok (ComputeBudget.runtimeDefault (budgetedInstructions message declared)).unitLimit := by
  rw [machineImplicitLimit, minus_of_le hWithin.length, ok_bind, machineRuntimeLimit_eq]
  rfl

theorem machineUnitPrice_eq {unitLimit fee : ℕ} (hFee : fee ≤ u64Max) :
    DeclaredBudget.machineUnitPrice unitLimit fee
      = .ok (DeclaredBudget.unitPrice unitLimit fee) := by
  unfold DeclaredBudget.machineUnitPrice DeclaredBudget.unitPrice
  split
  · rfl
  · next hLimit =>
      have hMicro : fee * 1000000 < 2 ^ 128 := by
        simp only [u64Max] at hFee
        omega
      rw [times_of_lt hMicro, ok_bind, divCeil_of_ne_zero hLimit, ok_bind]
      rfl

theorem machineOf_eq (hFits : message.FitsFields) :
    DeclaredBudget.machineOf message = faultless (DeclaredBudget.of message) := by
  cases message with
  | legacy message => rfl
  | v0 message lookups => rfl
  | v1 message config =>
      rcases hFits with ⟨hFee, -⟩
      rw [DeclaredBudget.machineOf, DeclaredBudget.of, faultless_bind]
      cases hLimit : config.computeUnitLimit with
      | none => rfl
      | some unitLimit =>
          cases hPriority : config.priorityFee with
          | none => rfl
          | some fee =>
              simp only [DeclaredBudget.machineUnitPrices,
                machineUnitPrice_eq (hFee fee hPriority)]
              rfl

theorem machineCheckNoAccounts_eq {instructions : List CompiledInstruction} {indexes : List ℕ}
    (hIndexes : ∀ index ∈ indexes, index < instructions.length) :
    machineCheckNoAccounts instructions indexes
      = faultless (refuseIf (indexes.any fun index =>
          instructions[index]?.any (!·.accounts.isEmpty))
        "ComputeBudget instructions must not have accounts") := by
  induction indexes with
  | nil => rfl
  | cons position indexes hInduction =>
      have hRest := hInduction fun index hIndex => hIndexes index (List.mem_cons_of_mem _ hIndex)
      have hPosition := hIndexes position List.mem_cons_self
      have hIx : instructions[position]? = some instructions[position] :=
        List.getElem?_eq_getElem hPosition
      rw [machineCheckNoAccounts, index_of_getElem? hIx, ok_bind, hRest]
      cases hEmpty : instructions[position].accounts.isEmpty with
      | true => simp [hIx, hEmpty]
      | false => simp [hIx, hEmpty, refuseIf]

theorem machineCheckImplicitLimit_eq {maxUnitLimit implicitLimit : ℕ}
    (hWithin : declared.Within message.instructions.length)
    (hImplicit : implicitLimit =
      (ComputeBudget.runtimeDefault (budgetedInstructions message declared)).unitLimit) :
    machineCheckImplicitLimit message declared maxUnitLimit
      = faultless (refuseIf (declared.unitPriceMicroLamports.any (0 < ·) ∧
          declared.unitLimit = none ∧ maxUnitLimit < implicitLimit)
        (s!"implicit compute unit limit {implicitLimit} exceeds maximum {maxUnitLimit}; declare " ++
          "SetComputeUnitLimit")) := by
  unfold machineCheckImplicitLimit
  split
  · next hPriced =>
      rw [machineImplicitLimit_eq hWithin, ok_bind, ← hImplicit]
      simp [hPriced]
  · next hFree =>
      have hPasses : ¬(declared.unitPriceMicroLamports.any (0 < ·) = true ∧
          declared.unitLimit = none ∧ maxUnitLimit < implicitLimit) :=
        fun hRefused => hFree ⟨hRefused.1, hRefused.2.1⟩
      rw [refuseIf, if_neg hPasses]
      rfl

theorem machineCheckV1BudgetCapsWith_eq (hFits : message.FitsFields) (maxUnitLimit maxPrice : ℕ)
    (loaded : LoadedDataLimitRule) :
    machineCheckV1BudgetCapsWith message maxUnitLimit maxPrice loaded
      = faultless (checkV1BudgetCapsWith message maxUnitLimit maxPrice loaded) := by
  unfold machineCheckV1BudgetCapsWith checkV1BudgetCapsWith
  cases TxVersion.of message with
  | v0 => rfl
  | v1 =>
      simp only [machineOf_eq hFits, faultless_bind]
      rfl

theorem machineCheckV1BudgetCaps_eq (hFits : message.FitsFields) (maxUnitLimit maxPrice : ℕ) :
    machineCheckV1BudgetCaps message maxUnitLimit maxPrice
      = faultless (checkV1BudgetCaps message maxUnitLimit maxPrice) :=
  machineCheckV1BudgetCapsWith_eq hFits maxUnitLimit maxPrice .maximum

theorem machineCheckV0BudgetCaps_eq (hFits : message.FitsFields) (maxUnitLimit maxPrice : ℕ) :
    machineCheckV0BudgetCaps message maxUnitLimit maxPrice
      = faultless (checkV0BudgetCaps message maxUnitLimit maxPrice) := by
  unfold machineCheckV0BudgetCaps checkV0BudgetCaps
  cases hVersion : TxVersion.of message with
  | v1 => rfl
  | v0 =>
      simp only [machineOf_eq hFits]
      cases hDeclared : DeclaredBudget.of message with
      | error failure => rfl
      | ok declared =>
          have hWithin := DeclaredBudget.within_of hVersion hDeclared
          simp only [faultless_ok, ok_bind, machineCheckNoAccounts_eq hWithin.indexes,
            machineCheckImplicitLimit_eq hWithin rfl]
          change _ = faultless (refuseIf _ _ >>= _)
          simp only [faultless_bind]
          rfl

theorem machineLimit_eq (hWithin : declared.Within message.instructions.length) :
    machineLimit message declared = .ok (declared.unitLimit.getD
      (ComputeBudget.runtimeDefault (budgetedInstructions message declared)).unitLimit) := by
  unfold machineLimit
  cases declared.unitLimit with
  | some limit => rfl
  | none => exact machineImplicitLimit_eq hWithin

theorem limit_lt (hWithin : declared.Within message.instructions.length) :
    declared.unitLimit.getD
      (ComputeBudget.runtimeDefault (budgetedInstructions message declared)).unitLimit
        < 2 ^ 32 := by
  cases hLimit : declared.unitLimit with
  | some limit => exact hWithin.unitLimit limit hLimit
  | none => exact runtimeDefault_unitLimit_lt _

theorem price_le (hWithin : declared.Within message.instructions.length) :
    declared.unitPriceMicroLamports.getD 0 ≤ u64Max := by
  cases hPrice : declared.unitPriceMicroLamports with
  | some price => exact hWithin.unitPrice price hPrice
  | none => exact Nat.zero_le _

theorem machinePriorityFee_eq (hDeclared : DeclaredBudget.of message = .ok declared) :
    machinePriorityFee message declared = .ok (priorityFee message declared) := by
  cases message with
  | v1 message config => rfl
  | legacy message =>
      have hWithin := DeclaredBudget.within_of rfl hDeclared
      change (machineLimit (.legacy message) declared >>= _) = _
      rw [machineLimit_eq hWithin, ok_bind,
        machinePriorityFeeLamports_eq (limit_lt hWithin) (price_le hWithin)]
      rfl
  | v0 message lookups =>
      have hWithin := DeclaredBudget.within_of rfl hDeclared
      change (machineLimit (.v0 message lookups) declared >>= _) = _
      rw [machineLimit_eq hWithin, ok_bind,
        machinePriorityFeeLamports_eq (limit_lt hWithin) (price_le hWithin)]
      rfl

theorem machineCheckPriorityFee_eq (hFits : message.FitsFields) (maxLamports : ℕ) :
    machineCheckPriorityFee message maxLamports
      = faultless (checkPriorityFee message maxLamports) := by
  unfold machineCheckPriorityFee checkPriorityFee
  rw [machineOf_eq hFits]
  cases hDeclared : DeclaredBudget.of message with
  | error failure => rfl
  | ok declared =>
      rw [faultless_ok, ok_bind, machinePriorityFee_eq hDeclared, ok_bind]
      change _ = faultless (refuseIf _ _ >>= _)
      rw [faultless_bind]
      rfl

end

/-! ### The cap -/

/-- The caps on the unit limit and price accept the message, by the check for its version. -/
def BudgetCapped (message : VersionedMessage) (maxUnitLimit maxUnitPriceMicroLamports : ℕ) :
    Prop :=
  match TxVersion.of message with
  | .v0 => ∃ declared, checkV0BudgetCaps message maxUnitLimit maxUnitPriceMicroLamports
      = .ok declared
  | .v1 => ∃ declared, checkV1BudgetCaps message maxUnitLimit maxUnitPriceMicroLamports
      = .ok declared

theorem checkDeclaredCaps_eq_ok {declared : DeclaredBudget} {maxUnitLimit maxPrice : ℕ}
    (hCapped : checkDeclaredCaps declared maxUnitLimit maxPrice = .ok ()) :
    (∀ limit ∈ declared.unitLimit, limit ≠ 0 ∧ limit ≤ maxUnitLimit) ∧
      ∀ price ∈ declared.unitPriceMicroLamports, price ≤ maxPrice := by
  simp only [checkDeclaredCaps, refuseIf_bind_eq_ok, refuseIf_eq_ok] at hCapped
  rcases hCapped with ⟨hPositive, hLimit, hPrice⟩
  refine ⟨fun limit hDeclared => ?_, fun price hDeclared => ?_⟩
  · rw [Option.mem_def] at hDeclared
    simp only [hDeclared] at hPositive hLimit
    constructor
    · simpa using hPositive
    · simpa using hLimit
  · rw [Option.mem_def] at hDeclared
    simp only [hDeclared] at hPrice
    simpa using hPrice

/-- A fee that is rounded up from a price per unit stays below one of larger factors. -/
theorem priorityFeeLamports_le {budget : ComputeBudget} {maxUnitLimit maxPrice : ℕ}
    (hFee : budget.unitLimit * budget.unitPriceMicroLamports ≤ maxUnitLimit * maxPrice) :
    budget.priorityFeeLamports ≤ (maxUnitLimit * maxPrice) ⌈/⌉ 1000000 := by
  rw [ComputeBudget.priorityFeeLamports, Nat.ceilDiv_eq_add_pred_div]
  omega

theorem fee_le_of_unitPrice {unitLimit fee maxUnitLimit maxPrice : ℕ} (hPositive : unitLimit ≠ 0)
    (hLimit : unitLimit ≤ maxUnitLimit) (hCap : maxPrice < u64Max)
    (hPrice : DeclaredBudget.unitPrice unitLimit fee ≤ maxPrice) :
    fee ≤ (maxUnitLimit * maxPrice) ⌈/⌉ 1000000 := by
  rw [DeclaredBudget.unitPrice, if_neg hPositive] at hPrice
  -- The price is below the cap, so that it was not cut to 64 bits.
  have hRounded : (fee * 1000000 + (unitLimit - 1)) / unitLimit ≤ maxPrice := by omega
  have hFee : fee * 1000000 ≤ maxUnitLimit * maxPrice := by
    have hCeil : (fee * 1000000) ⌈/⌉ unitLimit ≤ maxPrice := by
      rw [Nat.ceilDiv_eq_add_pred_div, Nat.add_sub_assoc (Nat.one_le_iff_ne_zero.mpr hPositive)]
      exact hRounded
    calc fee * 1000000
        ≤ unitLimit * maxPrice :=
          (ceilDiv_le_iff_le_mul (Nat.pos_of_ne_zero hPositive)).mp hCeil
      _ ≤ maxUnitLimit * maxPrice := Nat.mul_le_mul_right _ hLimit
  rw [Nat.ceilDiv_eq_add_pred_div]
  omega

theorem of_v1 {body : Message} {config : TransactionConfig} {declared : DeclaredBudget}
    (hDeclared : DeclaredBudget.of (.v1 body config) = .ok declared) :
    ∃ unitLimit, declared.unitLimit = some unitLimit ∧
      declared.unitPriceMicroLamports
        = config.priorityFee.map (DeclaredBudget.unitPrice unitLimit) := by
  rw [DeclaredBudget.of, refuseIf_bind_eq_ok] at hDeclared
  rcases hDeclared with ⟨-, hDeclared⟩
  cases hLimit : config.computeUnitLimit with
  | none =>
      rw [hLimit] at hDeclared
      cases hDeclared
  | some unitLimit =>
      rw [hLimit] at hDeclared
      cases hDeclared
      exact ⟨unitLimit, rfl, rfl⟩

section

variable {message : VersionedMessage} {declared : DeclaredBudget} {maxUnitLimit maxPrice : ℕ}

theorem v1_fee_le {body : Message} {config : TransactionConfig} (hCap : maxPrice < u64Max)
    (hDeclared : DeclaredBudget.of (.v1 body config) = .ok declared)
    (hCapped : checkDeclaredCaps declared maxUnitLimit maxPrice = .ok ()) :
    priorityFee (.v1 body config) declared ≤ (maxUnitLimit * maxPrice) ⌈/⌉ 1000000 := by
  rcases checkDeclaredCaps_eq_ok hCapped with ⟨hLimits, hPrices⟩
  rcases of_v1 hDeclared with ⟨unitLimit, hLimit, hPrice⟩
  rcases hLimits unitLimit hLimit with ⟨hPositive, hLimit⟩
  simp only [priorityFee]
  cases hFee : config.priorityFee with
  | none => exact Nat.zero_le _
  | some fee =>
      rw [hFee] at hPrice
      exact fee_le_of_unitPrice hPositive hLimit hCap (hPrices _ hPrice)

/-- The fee of a version-0 message: the limit that counts is within the cap, or the price is
zero. -/
theorem v0_fee_le
    (hCapped : checkDeclaredCaps declared maxUnitLimit maxPrice = .ok ())
    (hImplicit : ¬(declared.unitPriceMicroLamports.any (0 < ·) ∧ declared.unitLimit = none ∧
      maxUnitLimit
        < (ComputeBudget.runtimeDefault (budgetedInstructions message declared)).unitLimit)) :
    ComputeBudget.priorityFeeLamports
      { unitLimit := declared.unitLimit.getD
          (ComputeBudget.runtimeDefault (budgetedInstructions message declared)).unitLimit
        unitPriceMicroLamports := declared.unitPriceMicroLamports.getD 0 }
      ≤ (maxUnitLimit * maxPrice) ⌈/⌉ 1000000 := by
  rcases checkDeclaredCaps_eq_ok hCapped with ⟨hLimits, hPrices⟩
  apply priorityFeeLamports_le
  cases hPrice : declared.unitPriceMicroLamports with
  | none => simp
  | some price =>
      rw [Option.getD_some]
      rcases Nat.eq_zero_or_pos price with rfl | hPositive
      · simp
      · refine Nat.mul_le_mul ?_ (hPrices price hPrice)
        cases hLimit : declared.unitLimit with
        | some limit => exact (hLimits limit hLimit).2
        | none =>
            refine not_lt.mp fun hOver => ?_
            exact hImplicit ⟨by simp [hPrice, hPositive], hLimit, hOver⟩

theorem BudgetCapped.fee_le (hCapped : BudgetCapped message maxUnitLimit maxPrice)
    (hCap : maxPrice < u64Max) :
    ∃ declared, DeclaredBudget.of message = .ok declared ∧
      priorityFee message declared ≤ (maxUnitLimit * maxPrice) ⌈/⌉ 1000000 := by
  cases message with
  | v1 body config =>
      rcases hCapped with ⟨_, hChecked⟩
      simp only [checkV1BudgetCaps, checkV1BudgetCapsWith, TxVersion.of, bind_eq_ok] at hChecked
      rcases hChecked with ⟨declared, hDeclared, _, hDeclaredCaps, -⟩
      exact ⟨declared, hDeclared, v1_fee_le hCap hDeclared hDeclaredCaps⟩
  | v0 body lookups =>
      rcases hCapped with ⟨_, hChecked⟩
      simp only [checkV0BudgetCaps, TxVersion.of, bind_eq_ok, refuseIf_eq_ok] at hChecked
      rcases hChecked with ⟨declared, hDeclared, _, -, _, -, _, hDeclaredCaps, _, hImplicit, -⟩
      exact ⟨declared, hDeclared, v0_fee_le hDeclaredCaps hImplicit⟩
  | legacy body =>
      rcases hCapped with ⟨_, hChecked⟩
      simp only [checkV0BudgetCaps, TxVersion.of, bind_eq_ok, refuseIf_eq_ok] at hChecked
      rcases hChecked with ⟨declared, hDeclared, _, -, _, -, _, hDeclaredCaps, _, hImplicit, -⟩
      exact ⟨declared, hDeclared, v0_fee_le hDeclaredCaps hImplicit⟩

end

theorem checkPriorityFee_eq_ok {message : VersionedMessage} {declared : DeclaredBudget}
    {maxLamports fee : ℕ} (hDeclared : DeclaredBudget.of message = .ok declared)
    (hFee : checkPriorityFee message maxLamports = .ok fee) :
    fee = priorityFee message declared := by
  simp only [checkPriorityFee, hDeclared, bind_eq_ok, refuseIf_eq_ok, pure, Except.pure,
    Except.ok.injEq] at hFee
  rcases hFee with ⟨found, rfl, _, -, rfl⟩
  rfl

/-- The caps bound the fee on both versions by one amount, and none of the computations on
machine integers faults, on any message. -/
theorem priorityFee_capped (message : VersionedMessage) (maxUnitLimit maxPrice : ℕ)
    (hFits : message.FitsFields) (hPrice : maxPrice < u64Max) :
    (BudgetCapped message maxUnitLimit maxPrice → ∃ declared,
      DeclaredBudget.of message = .ok declared ∧
        (∀ maxLamports fee, checkPriorityFee message maxLamports = .ok fee →
          fee = priorityFee message declared) ∧
        priorityFee message declared ≤ (maxUnitLimit * maxPrice) ⌈/⌉ 1000000) ∧
    machineCheckV0BudgetCaps message maxUnitLimit maxPrice
      = faultless (checkV0BudgetCaps message maxUnitLimit maxPrice) ∧
    machineCheckV1BudgetCaps message maxUnitLimit maxPrice
      = faultless (checkV1BudgetCaps message maxUnitLimit maxPrice) ∧
    ∀ maxLamports, machineCheckPriorityFee message maxLamports
      = faultless (checkPriorityFee message maxLamports) := by
  refine ⟨fun hCapped => ?_, machineCheckV0BudgetCaps_eq hFits maxUnitLimit maxPrice,
    machineCheckV1BudgetCaps_eq hFits maxUnitLimit maxPrice, machineCheckPriorityFee_eq hFits⟩
  rcases hCapped.fee_le hPrice with ⟨declared, hDeclared, hFee⟩
  exact ⟨declared, hDeclared, fun _ _ hChecked => checkPriorityFee_eq_ok hDeclared hChecked, hFee⟩

/-- A version-1 message of 7 lamports for 3 units, whose price per unit does not divide evenly. -/
def unevenFee : VersionedMessage :=
  .v1
    { header := ⟨1, 0, 0⟩
      accountKeys := []
      recentBlockhash := []
      instructions := [] }
    { priorityFee := some 7
      computeUnitLimit := some 3
      loadedAccountsDataSizeLimit := some maxLoadedAccountsDataSizeBytes
      heapSize := none }

theorem priorityFee_capped_of_unevenFee :
    unevenFee.FitsFields ∧ BudgetCapped unevenFee 3 2333334 ∧ ∃ declared,
      DeclaredBudget.of unevenFee = .ok declared ∧
        priorityFee unevenFee declared ≤ (3 * 2333334) ⌈/⌉ 1000000 := by
  have hFits : unevenFee.FitsFields := by
    simp [unevenFee, VersionedMessage.FitsFields, u64Max]
  have hCapped : BudgetCapped unevenFee 3 2333334 := ⟨_, rfl⟩
  have hFee := (priorityFee_capped unevenFee 3 2333334 hFits (by decide)).1 hCapped
  rcases hFee with ⟨declared, hDeclared, -, hFee⟩
  exact ⟨hFits, hCapped, declared, hDeclared, hFee⟩

end PayKit.Tx
