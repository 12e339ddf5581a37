import PayKit.BatchSettlement.TransactionPolicy

/-!
# What a sponsor's signature authorizes

Every transaction the policy accepts, whatever its keys, header and instructions, is
one payment-channels instruction of the declared form, byte for byte and account for
account, wrapped in compute budgets, memos and Lighthouse assertions that do not name
the sponsor. It is signed by the channel payer and costs the sponsor a bounded
priority fee.

`priorityFeePaid` reads the fee from the message directly, as the runtime does.
-/

namespace PayKit.BatchSettlement

open Control Encoding Machine PaymentChannel Solana Tx

/-! ### The fee a message pays -/

/-- A value that one of the compute-budget instructions declares. -/
def declaredBy (pick : ComputeBudgetOp → Option ℕ) (keys : List Pubkey)
    (instructions : List CompiledInstruction) : Option ℕ :=
  instructions.findSome? fun ix =>
    if DeclaredBudget.isComputeBudget keys ix then (decodeComputeBudgetOp ix).bind pick else none

def limitOf : ComputeBudgetOp → Option ℕ
  | .unitLimit units => some units
  | _ => none

def priceOf : ComputeBudgetOp → Option ℕ
  | .unitPrice price => some price
  | _ => none

/-- The priority fee of a message in lamports: the fee in its header, or else the price
of its unit limit, which for a message without one depends on how many instructions
there are to budget. -/
def priorityFeePaid : VersionedMessage → ℕ
  | .v1 _ config => config.priorityFee.getD 0
  | message =>
      let keys := message.staticAccountKeys
      let budgeted :=
        (message.instructions.filter fun ix => !DeclaredBudget.isComputeBudget keys ix).length
      let limit := (declaredBy limitOf keys message.instructions).getD
        (min (200000 * budgeted) 1400000)
      let price := (declaredBy priceOf keys message.instructions).getD 0
      (limit * price + 999999) / 1000000

theorem declare_eq_ok {budget next : DeclaredBudget} {index : ℕ} {ix : CompiledInstruction}
    (hDeclared : budget.declare index ix = .ok next) :
    (∀ pick : ComputeBudgetOp → Option ℕ, pick = limitOf →
      next.unitLimit = budget.unitLimit.or ((decodeComputeBudgetOp ix).bind pick)) ∧
    (∀ pick : ComputeBudgetOp → Option ℕ, pick = priceOf →
      next.unitPriceMicroLamports =
        budget.unitPriceMicroLamports.or ((decodeComputeBudgetOp ix).bind pick)) ∧
    next.instructionIndexes = budget.instructionIndexes ++ [index] := by
  simp only [DeclaredBudget.declare] at hDeclared
  split at hDeclared
  · rename_i units hUnits
    split at hDeclared
    · cases hDeclared
    · rename_i hNone
      cases hDeclared
      simp_all [limitOf, priceOf]
  · rename_i price hPrice
    split at hDeclared
    · cases hDeclared
    · rename_i hNone
      cases hDeclared
      simp_all [limitOf, priceOf]
  · rename_i bytes hBytes
    split at hDeclared
    · cases hDeclared
    · cases hDeclared
      simp_all [limitOf, priceOf]
  · cases hDeclared

theorem scan_eq_ok {keys : List Pubkey} {index : ℕ} {instructions : List CompiledInstruction}
    {budget declared : DeclaredBudget}
    (hScan : DeclaredBudget.scan keys index instructions budget = .ok declared) :
    declared.unitLimit = budget.unitLimit.or (declaredBy limitOf keys instructions) ∧
    declared.unitPriceMicroLamports =
      budget.unitPriceMicroLamports.or (declaredBy priceOf keys instructions) ∧
    declared.instructionIndexes.length + (instructions.filter fun ix =>
      !DeclaredBudget.isComputeBudget keys ix).length =
      budget.instructionIndexes.length + instructions.length := by
  induction instructions generalizing index budget with
  | nil =>
      cases hScan
      simp [declaredBy]
  | cons ix rest hInduction =>
      simp only [DeclaredBudget.scan] at hScan
      split at hScan
      · rename_i hBudget
        simp only [bind_eq_ok] at hScan
        rcases hScan with ⟨next, hNext, hScan⟩
        rcases declare_eq_ok hNext with ⟨hLimit, hPrice, hIndexes⟩
        rcases hInduction hScan with ⟨hRestLimit, hRestPrice, hCount⟩
        refine ⟨?_, ?_, ?_⟩
        · rw [hRestLimit, hLimit limitOf rfl]
          simp only [declaredBy, List.findSome?_cons, hBudget, if_true]
          cases (decodeComputeBudgetOp ix).bind limitOf <;> cases budget.unitLimit <;> rfl
        · rw [hRestPrice, hPrice priceOf rfl]
          simp only [declaredBy, List.findSome?_cons, hBudget, if_true]
          cases (decodeComputeBudgetOp ix).bind priceOf <;>
            cases budget.unitPriceMicroLamports <;> rfl
        · rw [hIndexes] at hCount
          simp only [List.length_append, List.length_cons, List.length_nil] at hCount
          simp only [hBudget, Bool.not_true, Bool.false_eq_true, not_false_eq_true,
            List.filter_cons_of_neg, List.length_cons]
          omega
      · rename_i hNotBudget
        rcases hInduction hScan with ⟨hRestLimit, hRestPrice, hCount⟩
        have hFalse : DeclaredBudget.isComputeBudget keys ix = false := by simpa using hNotBudget
        refine ⟨?_, ?_, ?_⟩
        · rw [hRestLimit]
          simp [declaredBy, hFalse]
        · rw [hRestPrice]
          simp [declaredBy, hFalse]
        · simp only [hFalse, Bool.not_false, List.filter_cons_of_pos, List.length_cons]
          omega

theorem priorityFee_scanned {message : VersionedMessage} {declared : DeclaredBudget}
    (hScan : DeclaredBudget.scan message.staticAccountKeys 0 message.instructions {} =
      .ok declared) (hVersion : ∀ body config, message ≠ .v1 body config) :
    priorityFee message declared = min (priorityFeePaid message) u64Max := by
  rcases scan_eq_ok hScan with ⟨hLimit, hPrice, hCount⟩
  have hBudgeted : budgetedInstructions message declared =
      (message.instructions.filter fun ix =>
        !DeclaredBudget.isComputeBudget message.staticAccountKeys ix).length := by
    simp only [budgetedInstructions]
    simp only [List.length_nil] at hCount
    omega
  cases message with
  | v1 body config => exact absurd rfl (hVersion body config)
  | legacy body =>
      simp only [priorityFee, priorityFeePaid, hLimit, hPrice, Option.none_or, hBudgeted,
        ComputeBudget.runtimeDefault, ComputeBudget.priorityFeeLamports]
  | v0 body lookups =>
      simp only [priorityFee, priorityFeePaid, hLimit, hPrice, Option.none_or, hBudgeted,
        ComputeBudget.runtimeDefault, ComputeBudget.priorityFeeLamports]

theorem priorityFee_bounds {message : VersionedMessage} {maxLamports fee : ℕ}
    (hBelow : maxLamports < u64Max) (hFee : checkPriorityFee message maxLamports = .ok fee) :
    priorityFeePaid message ≤ maxLamports := by
  simp only [checkPriorityFee, bind_eq_ok, refuseIf_eq_ok, exists_const] at hFee
  rcases hFee with ⟨declared, hDeclared, hBounded, -⟩
  cases message with
  | v1 body config => exact not_lt.mp hBounded
  | legacy body =>
      have hPaid := @priorityFee_scanned (.legacy body) _ hDeclared (by simp)
      omega
  | v0 body lookups =>
      have hPaid := @priorityFee_scanned (.v0 body lookups) _ hDeclared (by simp)
      omega

/-! ### The layout -/

/-- A compute budget limit or price that does not name the sponsor. -/
structure IsBudget (keys : List Pubkey) (feePayer : Pubkey) (ix : CompiledInstruction) :
    Prop where
  program : programOf keys ix = some computeBudgetProgram
  operation : (∃ units, decodeComputeBudgetOp ix = some (.unitLimit units)) ∨
    ∃ price, decodeComputeBudgetOp ix = some (.unitPrice price)
  sponsor : namesFeePayer keys feePayer ix = false

/-- Such a limit or price within the caps. -/
structure IsCappedBudget (keys : List Pubkey) (feePayer : Pubkey) (ix : CompiledInstruction) :
    Prop extends IsBudget keys feePayer ix where
  limit : ∀ units, decodeComputeBudgetOp ix = some (.unitLimit units) →
    units ≤ openMaxComputeUnitLimit
  price : ∀ price, decodeComputeBudgetOp ix = some (.unitPrice price) →
    price ≤ maxComputeUnitPriceMicrolamports

/-- A memo or a Lighthouse assertion that does not name the sponsor. -/
structure IsAnnotation (keys : List Pubkey) (feePayer : Pubkey) (ix : CompiledInstruction) :
    Prop where
  program : programOf keys ix = some memoProgram ∨ programOf keys ix = some lighthouseProgram
  sponsor : namesFeePayer keys feePayer ix = false

section

variable {keys : List Pubkey} {feePayer : Pubkey} {label : String}

theorem programIn_eq_ok {ix : CompiledInstruction} {program : Pubkey} :
    programIn keys label ix = .ok program ↔ programOf keys ix = some program :=
  okOr_eq_ok

theorem rejectFeePayer_eq_ok {ix : CompiledInstruction} {wrapper : String} {value : Unit} :
    rejectFeePayer keys feePayer ix wrapper = .ok value ↔ namesFeePayer keys feePayer ix = false := by
  simp [rejectFeePayer]

theorem scanPrefix_capped {instructions rest : List CompiledInstruction}
    {seenLimit seenPrice : Bool}
    (hScan : scanPrefix keys feePayer label instructions seenLimit seenPrice = .ok rest) :
    ∃ before, instructions = before ++ rest ∧ ∀ ix ∈ before, IsCappedBudget keys feePayer ix := by
  induction instructions generalizing seenLimit seenPrice with
  | nil =>
      cases hScan
      exact ⟨[], rfl, by simp⟩
  | cons ix later hInduction =>
      simp only [scanPrefix, bind_eq_ok, programIn_eq_ok] at hScan
      rcases hScan with ⟨program, hProgram, hScan⟩
      split at hScan
      · cases hScan
        exact ⟨[], rfl, by simp⟩
      rename_i hBudget
      have hIsBudget : programOf keys ix = some computeBudgetProgram := by
        rw [hProgram, not_not.mp hBudget]
      simp only [bind_eq_ok, rejectFeePayer_eq_ok, exists_const] at hScan
      rcases hScan with ⟨hSponsor, hScan⟩
      have hExtend : ∀ limit price,
          scanPrefix keys feePayer label later limit price = .ok rest →
          IsCappedBudget keys feePayer ix →
          ∃ before, ix :: later = before ++ rest ∧
            ∀ ix ∈ before, IsCappedBudget keys feePayer ix := by
        intro limit price hLater hIx
        rcases hInduction hLater with ⟨before, hSplit, hEach⟩
        refine ⟨ix :: before, by rw [hSplit, List.cons_append], ?_⟩
        intro other hMem
        rcases List.mem_cons.mp hMem with rfl | hMem
        · exact hIx
        · exact hEach other hMem
      split at hScan
      · rename_i units hOperation
        simp only [bind_eq_ok, refuseIf_eq_ok, exists_const] at hScan
        refine hExtend _ _ hScan.2.2.2 ⟨⟨hIsBudget, .inl ⟨units, hOperation⟩, hSponsor⟩, ?_, ?_⟩
        · rintro other hOther
          cases hOperation.symm.trans hOther
          exact not_lt.mp hScan.2.2.1
        · rintro price hPrice
          cases hOperation.symm.trans hPrice
      · rename_i price hOperation
        simp only [bind_eq_ok, refuseIf_eq_ok, exists_const] at hScan
        refine hExtend _ _ hScan.2.2 ⟨⟨hIsBudget, .inr ⟨price, hOperation⟩, hSponsor⟩, ?_, ?_⟩
        · rintro units hUnits
          cases hOperation.symm.trans hUnits
        · rintro other hOther
          cases hOperation.symm.trans hOther
          exact not_lt.mp hScan.2.1
      · cases hScan
      · cases hScan

theorem scanPrefix_eq_ok {instructions rest : List CompiledInstruction}
    {seenLimit seenPrice : Bool}
    (hScan : scanPrefix keys feePayer label instructions seenLimit seenPrice = .ok rest) :
    ∃ before, instructions = before ++ rest ∧ ∀ ix ∈ before, IsBudget keys feePayer ix := by
  rcases scanPrefix_capped hScan with ⟨before, hSplit, hEach⟩
  exact ⟨before, hSplit, fun ix hMem => (hEach ix hMem).toIsBudget⟩

theorem scanSuffix_eq_ok {policy : MemoPolicy} {suffix : List CompiledInstruction}
    {counts result : SuffixCounts}
    (hScan : scanSuffix keys feePayer label policy suffix counts = .ok result) :
    ∀ ix ∈ suffix, IsAnnotation keys feePayer ix := by
  induction suffix generalizing counts with
  | nil => simp
  | cons ix rest hInduction =>
      simp only [scanSuffix, bind_eq_ok] at hScan
      rcases hScan with ⟨next, hNext, hScan⟩
      intro other hMem
      rcases List.mem_cons.mp hMem with rfl | hMem
      · simp only [scanSuffixInstruction, bind_eq_ok, programIn_eq_ok] at hNext
        rcases hNext with ⟨_, -, program, hProgram, hNext⟩
        split at hNext
        · rename_i hLighthouse
          simp only [bind_eq_ok, rejectFeePayer_eq_ok] at hNext
          rcases hNext with ⟨_, -, _, hSponsor, -⟩
          exact ⟨.inr (by rw [hProgram, hLighthouse]), hSponsor⟩
        split at hNext
        · rename_i hMemo
          simp only [bind_eq_ok, rejectFeePayer_eq_ok] at hNext
          rcases hNext with ⟨_, hSponsor, -⟩
          exact ⟨.inl (by rw [hProgram, hMemo]), hSponsor⟩
        · cases hNext
      · exact hInduction hScan other hMem

end

/-- What the layout scan establishes of a transaction and its primary instruction. -/
structure Layout (tx : VersionedTransaction) (programId feePayer : Pubkey)
    (discriminator : UInt8) (primary : CompiledInstruction) : Prop where
  split : ∃ before after, tx.message.instructions = before ++ primary :: after ∧
    (∀ ix ∈ before, IsBudget tx.message.staticAccountKeys feePayer ix) ∧
    ∀ ix ∈ after, IsAnnotation tx.message.staticAccountKeys feePayer ix
  program : programOf tx.message.staticAccountKeys primary = some programId
  discriminator : primary.data.head? = some discriminator
  fee : priorityFeePaid tx.message ≤ maxSponsoredPriorityFeeLamports

theorem scanChannelTxLayout_eq_ok {tx : VersionedTransaction} {programId feePayer : Pubkey}
    {discriminator : UInt8} {label : String} {policy : MemoPolicy} {primary : CompiledInstruction}
    (hFeePayer : tx.message.staticAccountKeys.head? = some feePayer)
    (hScan : scanChannelTxLayout tx programId discriminator label policy = .ok primary) :
    Layout tx programId feePayer discriminator primary := by
  simp only [scanChannelTxLayout, bind_eq_ok, okOr_eq_ok, hFeePayer, Option.some.injEq] at hScan
  rcases hScan with ⟨_, rfl, rest, hPrefix, hScan⟩
  rcases scanPrefix_eq_ok hPrefix with ⟨before, hSplit, hBefore⟩
  cases rest with
  | nil => cases hScan
  | cons first suffix =>
      simp only [bind_eq_ok, programIn_eq_ok, refuseIf_eq_ok, exists_const] at hScan
      rcases hScan with ⟨program, hProgram, hSame, hDiscriminator, counts, hSuffix, -, -, fee, hFee,
        hResult⟩
      cases hResult
      exact {
        split := ⟨before, suffix, hSplit, hBefore, scanSuffix_eq_ok hSuffix⟩
        program := by rw [hProgram, not_not.mp hSame]
        discriminator := not_not.mp hDiscriminator
        fee := by
          have hChecked : ∃ fee, checkPriorityFee tx.message maxSponsoredPriorityFeeLamports =
              .ok fee := by
            cases hCase : checkPriorityFee tx.message maxSponsoredPriorityFeeLamports with
            | ok fee => exact ⟨fee, rfl⟩
            | error error => simp [hCase, mapError_error] at hFee
          rcases hChecked with ⟨fee, hChecked⟩
          exact priorityFee_bounds (by decide) hChecked }

/-! ### The signers -/

/-- The sponsor and the channel payer sign, no one else, and the payer signed this very
message. -/
structure SignedBy (Signed : Pubkey → VersionedMessage → Prop) (tx : VersionedTransaction)
    (expected : TransactionExpectations) (payer : Pubkey) : Prop where
  configured : Pubkey.fromStr expected.config.payer = .ok payer
  required : tx.message.header.numRequiredSignatures = 2
  sponsorFirst : tx.message.staticAccountKeys[0]? = some expected.feePayer
  payerSecond : tx.message.staticAccountKeys[1]? = some payer
  distinct : payer ≠ expected.feePayer
  signed : Signed payer tx.message

theorem parsePubkey_eq_ok {text : String} {key : Pubkey} :
    parsePubkey text = .ok key ↔ Pubkey.fromStr text = .ok key := by
  simp only [parsePubkey]
  cases Pubkey.fromStr text <;> simp

theorem configKey_eq_ok {field text : String} {key : Pubkey} :
    configKey field text = .ok key ↔ Pubkey.fromStr text = .ok key := by
  rw [configKey, mapError_eq_ok, parsePubkey_eq_ok]

section

variable {chain : Chain} {tx : VersionedTransaction} {expected : TransactionExpectations}
  {label : String} {payer : Pubkey} {ix : CompiledInstruction}

theorem checkEnvelope_eq_ok {Signed : Pubkey → VersionedMessage → Prop}
    (hUnforgeable : ∀ signature key message,
      chain.verify signature key (chain.serialize message) = true → Signed key message)
    (hAccepted : checkEnvelope chain tx expected label = .ok payer) :
    SignedBy Signed tx expected payer := by
  simp only [checkEnvelope, bind_eq_ok, refuseIf_eq_ok, configKey_eq_ok, exists_const] at hAccepted
  rcases hAccepted with ⟨-, _, -, _, -, _, -, configured, hPayer, hDistinct, hFirst, hRequired,
    hSecond, -, hSigned, hResult⟩
  cases hResult
  have hAny := Option.any_eq_true _ _ |>.mp (not_not.mp hSigned)
  rcases hAny with ⟨signature, -, hVerified⟩
  exact {
    configured := hPayer
    required := UInt8.toNat_inj.mp (not_not.mp hRequired)
    sponsorFirst := by rw [← List.head?_eq_getElem?, not_not.mp hFirst]
    payerSecond := not_not.mp hSecond
    distinct := hDistinct
    signed := hUnforgeable signature _ tx.message hVerified }

/-! ### The declared instruction -/

theorem expectAccounts_eq_ok {keys : List Pubkey} {table : List (String × Pubkey)}
    {position : ℕ} {value : Unit}
    (hAccepted : expectAccounts keys ix label position table = .ok value) :
    ∀ offset < table.length, accountAt keys ix (position + offset) =
      (table[offset]?).map Prod.snd := by
  induction table generalizing position with
  | nil => simp
  | cons entry rest hInduction =>
      rcases entry with ⟨role, want⟩
      simp only [expectAccounts, expectAccount, bind_eq_ok, refuseIf_eq_ok, not_not,
        exists_const] at hAccepted
      rcases hAccepted with ⟨hHere, hRest⟩
      intro offset hOffset
      cases offset with
      | zero => simpa using hHere
      | succ offset =>
          have hLater := hInduction hRest offset (by simpa using hOffset)
          rw [show position + (offset + 1) = position + 1 + offset by omega, hLater]
          simp

theorem accounts_eq_table {keys : List Pubkey} {table : List (String × Pubkey)} {value : Unit}
    (hLength : ix.accounts.length = table.length)
    (hAccepted : expectAccounts keys ix label 0 table = .ok value) :
    ix.accounts.map (keyAt keys) = table.map fun entry => some entry.2 := by
  apply List.ext_getElem
  · simpa using hLength
  intro position hLeft hRight
  have hPosition : position < table.length := by simpa using hRight
  have hAccount := expectAccounts_eq_ok hAccepted position hPosition
  have hBound : position < ix.accounts.length := by omega
  simp only [Nat.zero_add, accountAt, List.getElem?_eq_getElem hBound, Option.bind_some,
    List.getElem?_eq_getElem hPosition, Option.map_some] at hAccount
  simpa using hAccount

/-- The instruction opens the payload's channel with the declared deposit. -/
def DeclaredOpen (chain : Chain) (expected : TransactionExpectations) (keys : List Pubkey)
    (payer : Pubkey) (depositAmount : ℕ) (ix : CompiledInstruction) : Prop :=
  ∃ mint authorizedSigner salt,
    Pubkey.fromStr expected.config.token = .ok mint ∧
    Pubkey.fromStr expected.config.payerAuthorizer = .ok authorizedSigner ∧
    parseU64 expected.config.salt = some salt ∧
    ix.accounts.map (keyAt keys) =
      (openAccounts chain expected payer mint authorizedSigner).map (fun entry => some entry.2) ∧
    ix.data = [openDiscriminator] ++ encodeLE 8 salt ++ encodeLE 8 depositAmount ++
      encodeLE 4 expected.config.withdrawDelay ++ encodeLE 8 expected.config.openSlot ++
      encodeLE 4 1 ++ expected.receiver.bytes ++ encodeLE 2 fullShareBps ∧
    expected.channelId = chain.findChannelPda payer expected.feePayer mint authorizedSigner salt
      expected.config.openSlot expected.programId

/-- The instruction tops the channel up by the declared amount. -/
def DeclaredTopUp (chain : Chain) (expected : TransactionExpectations) (keys : List Pubkey)
    (payer : Pubkey) (depositAmount : ℕ) (ix : CompiledInstruction) : Prop :=
  ∃ mint, Pubkey.fromStr expected.config.token = .ok mint ∧
    ix.accounts.map (keyAt keys) =
      (topUpAccounts chain expected payer mint).map (fun entry => some entry.2) ∧
    ix.data = [topUpDiscriminator] ++ encodeLE 8 depositAmount ∧
    namesFeePayer keys expected.feePayer ix = false

/-- The instruction requests the close of the channel, and carries nothing else. -/
def DeclaredRequestClose (expected : TransactionExpectations) (keys : List Pubkey)
    (payer : Pubkey) (ix : CompiledInstruction) : Prop :=
  ix.accounts.map (keyAt keys) = [some payer, some expected.channelId] ∧
    ix.data = [requestCloseDiscriminator] ∧ namesFeePayer keys expected.feePayer ix = false

theorem openArgs_bytes {data : List UInt8} (hLength : data.length = 67)
    (hHead : data.head? = some openDiscriminator) :
    data = [openDiscriminator] ++ encodeLE 8 (fromLeBytes data 1 9) ++
      encodeLE 8 (fromLeBytes data 9 17) ++ encodeLE 4 (fromLeBytes data 17 21) ++
      encodeLE 8 (fromLeBytes data 21 29) ++ encodeLE 4 (fromLeBytes data 29 33) ++
      slice data 33 65 ++ encodeLE 2 (fromLeBytes data 65 67) := by
  have hField : ∀ start stop, stop ≤ 67 →
      encodeLE (stop - start) (fromLeBytes data start stop) = slice data start stop := by
    intro start stop hStop
    exact (slice_eq_encodeLE (by omega)).symm
  rw [hField 1 9 (by omega), hField 9 17 (by omega), hField 17 21 (by omega),
    hField 21 29 (by omega), hField 29 33 (by omega), hField 65 67 (by omega),
    ← take_one_of_head? hHead]
  simp only [take_append_slice (show 1 ≤ 9 by omega), take_append_slice (show 9 ≤ 17 by omega),
    take_append_slice (show 17 ≤ 21 by omega), take_append_slice (show 21 ≤ 29 by omega),
    take_append_slice (show 29 ≤ 33 by omega), take_append_slice (show 33 ≤ 65 by omega),
    take_append_slice (show 65 ≤ 67 by omega)]
  rw [← hLength, List.take_length]

theorem checkOpenArgs_eq_ok {depositAmount : ℕ} {recentSlot : Option ℕ} {value : Unit}
    (hHead : ix.data.head? = some openDiscriminator)
    (hAccepted : checkOpenArgs chain expected ix depositAmount recentSlot = .ok value) :
    ∃ payer mint authorizedSigner salt,
      Pubkey.fromStr expected.config.payer = .ok payer ∧
      Pubkey.fromStr expected.config.token = .ok mint ∧
      Pubkey.fromStr expected.config.payerAuthorizer = .ok authorizedSigner ∧
      parseU64 expected.config.salt = some salt ∧
      ix.data = [openDiscriminator] ++ encodeLE 8 salt ++ encodeLE 8 depositAmount ++
        encodeLE 4 expected.config.withdrawDelay ++ encodeLE 8 expected.config.openSlot ++
        encodeLE 4 1 ++ expected.receiver.bytes ++ encodeLE 2 fullShareBps ∧
      expected.channelId = chain.findChannelPda payer expected.feePayer mint authorizedSigner salt
        expected.config.openSlot expected.programId := by
  simp only [checkOpenArgs, bind_eq_ok, refuseIf_eq_ok, okOr_eq_ok, mapError_eq_ok,
    parsePubkey_eq_ok, not_not, not_or, exists_const] at hAccepted
  rcases hAccepted with ⟨hLength, salt, hParsed, hSalt, hDeposit, hGrace, hSlot, hCount, recipient,
    hRecipient, ⟨hReceiver, hShare⟩, payer, hPayer, mint, hMint, signer, hSigner, hDerived, -⟩
  refine ⟨payer, mint, signer, salt, hPayer, hMint, hSigner, hParsed, ?_, ?_⟩
  · have hBytes := openArgs_bytes hLength hHead
    have hSlice : slice ix.data 33 65 = expected.receiver.bytes := by
      simp only [pubkeyOfBytes] at hRecipient
      split at hRecipient
      · cases hRecipient
        rw [← hReceiver]
        simp [slice, List.take_drop, openArgsPrefixLength]
      · cases hRecipient
    have hBps : fromLeBytes ix.data 65 67 = fullShareBps := by
      rw [← hShare]
      simp [fromLeBytes, slice, List.take_drop, List.drop_drop, openArgsPrefixLength]
    rw [hSalt, hDeposit, hGrace, hSlot, hSlice, hBps] at hBytes
    have hOne : fromLeBytes ix.data 29 33 = 1 := hCount
    rwa [hOne] at hBytes
  · rw [← hDerived, hSalt, hSlot]

theorem rejectFeePayerAccount_eq_ok {keys : List Pubkey} {feePayer : Pubkey} {value : Unit} :
    rejectFeePayerAccount keys feePayer ix label = .ok value ↔
      namesFeePayer keys feePayer ix = false := by
  simp [rejectFeePayerAccount]

end

/-! ### What a client submits -/

/-- A client transaction of one of the forms a sponsor co-signs. -/
inductive Submission where
  | setup (form : SetupForm) (depositAmount : ℕ) (recentSlot : Option ℕ)
  | requestClose

namespace Submission

def validate (chain : Chain) (transaction : String) (expected : TransactionExpectations) :
    Submission → Except BatchError ValidatedTransaction
  | setup form depositAmount recentSlot =>
      validateSetupTransaction chain transaction form expected depositAmount recentSlot
  | requestClose => validateRequestCloseTransaction chain transaction expected

def discriminator : Submission → UInt8
  | setup form _ _ => form.discriminator
  | requestClose => requestCloseDiscriminator

/-- The instruction is the one the form declares. -/
def Declared (chain : Chain) (expected : TransactionExpectations) (keys : List Pubkey)
    (payer : Pubkey) (ix : CompiledInstruction) : Submission → Prop
  | setup .open depositAmount _ => DeclaredOpen chain expected keys payer depositAmount ix
  | setup .topUp depositAmount _ => DeclaredTopUp chain expected keys payer depositAmount ix
  | requestClose => DeclaredRequestClose expected keys payer ix

end Submission

/-- The programs whose instructions may accompany the declared one. -/
def wrapperPrograms : List Pubkey :=
  [computeBudgetProgram, memoProgram, lighthouseProgram]

/-- All that the sponsor's signature of a transaction authorizes. -/
structure Authorizes (chain : Chain) (Signed : Pubkey → VersionedMessage → Prop)
    (submission : Submission) (tx : VersionedTransaction) (expected : TransactionExpectations)
    (payer : Pubkey) (primary : CompiledInstruction) : Prop where
  layout : Layout tx expected.programId expected.feePayer submission.discriminator primary
  /-- Exactly one instruction calls the payment-channels program. -/
  only : expected.programId ∉ wrapperPrograms →
    (tx.message.instructions.filter fun ix =>
      programOf tx.message.staticAccountKeys ix = some expected.programId) = [primary]
  declared : submission.Declared chain expected tx.message.staticAccountKeys payer primary
  signers : SignedBy Signed tx expected payer

theorem Layout.only {tx : VersionedTransaction} {programId feePayer : Pubkey}
    {discriminator : UInt8} {primary : CompiledInstruction}
    (hLayout : Layout tx programId feePayer discriminator primary)
    (hProgram : programId ∉ wrapperPrograms) :
    (tx.message.instructions.filter fun ix =>
      programOf tx.message.staticAccountKeys ix = some programId) = [primary] := by
  simp only [wrapperPrograms, List.mem_cons, List.not_mem_nil, or_false, not_or] at hProgram
  rcases hLayout.split with ⟨before, after, hSplit, hBefore, hAfter⟩
  have hNoneBefore : (before.filter fun ix =>
      programOf tx.message.staticAccountKeys ix = some programId) = [] := by
    apply List.filter_eq_nil_iff.mpr
    intro ix hMem
    simpa [(hBefore ix hMem).program] using Ne.symm hProgram.1
  have hNoneAfter : (after.filter fun ix =>
      programOf tx.message.staticAccountKeys ix = some programId) = [] := by
    apply List.filter_eq_nil_iff.mpr
    intro ix hMem
    rcases (hAfter ix hMem).program with hMemo | hLighthouse
    · simpa [hMemo] using Ne.symm hProgram.2.1
    · simpa [hLighthouse] using Ne.symm hProgram.2.2
  rw [hSplit, List.filter_append, hNoneBefore, List.filter_cons, hNoneAfter]
  simp [hLayout.program]

section

variable {chain : Chain} {Signed : Pubkey → VersionedMessage → Prop}
  {tx : VersionedTransaction} {expected : TransactionExpectations}
  {validated : ValidatedTransaction}

theorem validateSetup_authorizes {form : SetupForm} {depositAmount : ℕ} {recentSlot : Option ℕ}
    (hUnforgeable : ∀ signature key message,
      chain.verify signature key (chain.serialize message) = true → Signed key message)
    (hAccepted : validateSetup chain tx form expected depositAmount recentSlot = .ok validated) :
    validated.transaction = tx ∧ ∃ primary,
      Authorizes chain Signed (.setup form depositAmount recentSlot) tx expected
        validated.payer primary := by
  simp only [validateSetup, bind_eq_ok, mapError_eq_ok] at hAccepted
  rcases hAccepted with ⟨payer, hEnvelope, ix, hScan, hForm⟩
  have hSigners := checkEnvelope_eq_ok hUnforgeable hEnvelope
  have hLayout := scanChannelTxLayout_eq_ok
    (by rw [List.head?_eq_getElem?, hSigners.sponsorFirst]) hScan
  cases form with
  | «open» =>
      simp only [bind_eq_ok, checkOpenAccounts, refuseIf_eq_ok, configKey_eq_ok, not_not,
        exists_const] at hForm
      rcases hForm with ⟨_, -, _, ⟨hCount, mint, hMint, signer, hSigner, hAccounts⟩, _, hArgs, _, -,
        hResult⟩
      cases hResult
      rcases checkOpenArgs_eq_ok hLayout.discriminator hArgs with
        ⟨argPayer, argMint, argSigner, salt, hArgPayer, hArgMint, hArgSigner, hSalt, hData, hDerived⟩
      have hPayerSame := Except.ok.inj (hSigners.configured.symm.trans hArgPayer)
      have hMintSame := Except.ok.inj (hMint.symm.trans hArgMint)
      have hSignerSame := Except.ok.inj (hSigner.symm.trans hArgSigner)
      subst hPayerSame hMintSame hSignerSame
      exact ⟨rfl, ix, {
        layout := hLayout
        only := hLayout.only
        declared := ⟨mint, signer, salt, hMint, hSigner, hSalt, accounts_eq_table hCount hAccounts,
          hData, hDerived⟩
        signers := hSigners }⟩
  | topUp =>
      simp only [bind_eq_ok, checkTopUpAccounts, checkTopUpArgs, refuseIf_eq_ok, configKey_eq_ok,
        rejectFeePayerAccount_eq_ok, not_not, exists_const] at hForm
      rcases hForm with ⟨_, ⟨hCount, mint, hMint, hAccounts⟩, ⟨hLength, hAmount⟩, _, -, hSponsor,
        hResult⟩
      cases hResult
      have hData : ix.data = [topUpDiscriminator] ++ encodeLE 8 depositAmount := by
        have hField : encodeLE (9 - 1) (fromLeBytes ix.data 1 9) = slice ix.data 1 9 :=
          (slice_eq_encodeLE (by omega)).symm
        have hHead := take_one_of_head? hLayout.discriminator
        rw [← hAmount, hField, show [topUpDiscriminator] = ix.data.take 1 from hHead.symm,
          take_append_slice (show 1 ≤ 9 by omega), ← hLength, List.take_length]
      exact ⟨rfl, ix, {
        layout := hLayout
        only := hLayout.only
        declared := ⟨mint, hMint, accounts_eq_table hCount hAccounts, hData, hSponsor⟩
        signers := hSigners }⟩

theorem validateRequestClose_authorizes
    (hUnforgeable : ∀ signature key message,
      chain.verify signature key (chain.serialize message) = true → Signed key message)
    (hAccepted : validateRequestClose chain tx expected = .ok validated) :
    validated.transaction = tx ∧ ∃ primary,
      Authorizes chain Signed .requestClose tx expected validated.payer primary := by
  simp only [validateRequestClose, bind_eq_ok, mapError_eq_ok, refuseIf_eq_ok, not_not,
    rejectFeePayerAccount_eq_ok, exists_const] at hAccepted
  rcases hAccepted with ⟨payer, hEnvelope, ix, hScan, hCount, _, hAccounts, hLength, _, -, hSponsor,
    hResult⟩
  cases hResult
  have hSigners := checkEnvelope_eq_ok hUnforgeable hEnvelope
  have hLayout := scanChannelTxLayout_eq_ok
    (by rw [List.head?_eq_getElem?, hSigners.sponsorFirst]) hScan
  have hData : ix.data = [requestCloseDiscriminator] := by
    have hHead := take_one_of_head? hLayout.discriminator
    rwa [← hLength, List.take_length] at hHead
  exact ⟨rfl, ix, {
    layout := hLayout
    only := hLayout.only
    declared := ⟨accounts_eq_table hCount hAccounts, hData, hSponsor⟩
    signers := hSigners }⟩

/-- A transaction the policy accepts is the declared instruction in bounded wrapping,
signed by the channel payer. -/
theorem accepted_authorizes {submission : Submission} {transaction : String}
    (hUnforgeable : ∀ signature key message,
      chain.verify signature key (chain.serialize message) = true → Signed key message)
    (hAccepted : submission.validate chain transaction expected = .ok validated) :
    chain.decode transaction = .ok validated.transaction ∧ ∃ primary,
      Authorizes chain Signed submission validated.transaction expected validated.payer
        primary := by
  cases submission with
  | setup form depositAmount recentSlot =>
      simp only [Submission.validate, validateSetupTransaction, decodeTransaction, bind_eq_ok,
        mapError_eq_ok] at hAccepted
      rcases hAccepted with ⟨tx, hDecoded, hValid⟩
      rcases validateSetup_authorizes hUnforgeable hValid with ⟨rfl, hAuthorizes⟩
      exact ⟨hDecoded, hAuthorizes⟩
  | requestClose =>
      simp only [Submission.validate, validateRequestCloseTransaction, decodeTransaction,
        bind_eq_ok, mapError_eq_ok] at hAccepted
      rcases hAccepted with ⟨tx, hDecoded, hValid⟩
      rcases validateRequestClose_authorizes hUnforgeable hValid with ⟨rfl, hAuthorizes⟩
      exact ⟨hDecoded, hAuthorizes⟩

end

/-! ### An accepted close -/

/-- `PAYMENT_CHANNELS_PROGRAM_ID`. -/
def paymentChannelsProgram : Pubkey := .ofConst "CHNLxYvVA28MJP9PrFuDXccuoGXAx7jBacfLEkahyGsX"

/-- What is counted, after its count of fewer than 128. -/
def counted (bytes : List UInt8) (count : ℕ) : List UInt8 :=
  UInt8.ofNat count :: bytes

/-- The bytes of a small version-0 message without lookup tables. -/
def serializeSmall (message : VersionedMessage) : List UInt8 :=
  let header := message.header
  [128, header.numRequiredSignatures, header.numReadonlySignedAccounts,
    header.numReadonlyUnsignedAccounts] ++
  counted (message.staticAccountKeys.flatMap Pubkey.bytes) message.staticAccountKeys.length ++
  message.body.recentBlockhash ++
  counted (message.instructions.flatMap fun ix =>
    [ix.programIdIndex] ++ counted ix.accounts ix.accounts.length ++
      counted ix.data ix.data.length) message.instructions.length ++
  [0]

def closePayer : Pubkey := .ofTwos

/-- The payer's account of the mint that the channels are paid in. -/
def payerTokenAccount : Pubkey where
  bytes := [140, 68, 233, 211, 139, 65, 249, 42, 164, 51, 4, 64, 59, 16, 36, 69, 183, 220, 143,
    137, 203, 125, 145, 12, 45, 53, 75, 79, 254, 122, 126, 19]
  length_bytes := rfl

def closeSponsor : Pubkey := .numbered 1
def closeChannel : Pubkey := .numbered 3

/-- The payer's Ed25519 signature of the close. -/
def closeSignature : Signature where
  bytes := [243, 214, 52, 144, 52, 136, 16, 37, 233, 157, 141, 192, 191, 195, 198, 143, 207, 204,
    224, 192, 29, 121, 128, 84, 49, 28, 216, 136, 201, 69, 18, 154, 156, 255, 51, 126, 117, 4, 105,
    107, 137, 25, 228, 4, 16, 87, 251, 225, 203, 129, 108, 225, 148, 192, 137, 130, 27, 225, 225,
    106, 113, 1, 185, 11]
  length_bytes := rfl

/-- A unit price, the close and a nonce memo, signed by the payer. -/
def closeTransaction : VersionedTransaction where
  signatures := [Signature.default, closeSignature]
  message := .v0
    { header := ⟨2, 1, 3⟩
      accountKeys := [closeSponsor, closePayer, closeChannel, paymentChannelsProgram, memoProgram,
        computeBudgetProgram]
      recentBlockhash := List.replicate 32 0
      instructions := [
        ⟨5, [], [3, 232, 3, 0, 0, 0, 0, 0, 0]⟩,
        ⟨3, [1, 2], [5]⟩,
        ⟨4, [], asBytes "0123456789abcdef0123456789abcdef"⟩] }
    []

/-- The Solana crates on the close. -/
def closeChain : Chain where
  decode text :=
    if text = "close" then .ok closeTransaction else .error "invalid base64"
  serializedSize tx := .ok (1 + 64 * tx.signatures.length + (serializeSmall tx.message).length)
  serialize := serializeSmall
  verify signature key bytes :=
    signature = closeSignature ∧ key = closePayer ∧ bytes = serializeSmall closeTransaction.message
  findProgramAddress _ program := program

def closeExpectations : TransactionExpectations where
  programId := paymentChannelsProgram
  feePayer := closeSponsor
  config := {
    payer := closePayer.display
    payerAuthorizer := closePayer.display
    token := closeSponsor.display
    withdrawDelay := 900
    salt := "7"
    openSlot := 42 }
  channelId := closeChannel
  tokenProgram := tokenProgram
  receiver := closeSponsor
  memo := none
  receiverAuthorizer := closeSponsor
  acceptedVersions := [.v0, .v1]

theorem accepted_authorizes_of_closeTransaction :
    closeChain.decode "close" = .ok closeTransaction ∧ ∃ primary,
      Authorizes closeChain
        (fun key message => key = closePayer ∧
          serializeSmall message = serializeSmall closeTransaction.message)
        .requestClose closeTransaction closeExpectations closePayer primary := by
  have hAccepted : Submission.requestClose.validate closeChain "close" closeExpectations =
      .ok ⟨closeTransaction, closePayer⟩ := by
    decide +kernel
  refine accepted_authorizes ?_ hAccepted
  intro signature key message hVerified
  simp only [closeChain, decide_eq_true_eq] at hVerified
  exact hVerified.2

end PayKit.BatchSettlement
