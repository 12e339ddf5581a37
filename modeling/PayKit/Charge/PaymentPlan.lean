import PayKit.Charge.Builder
import PayKit.Charge.PullVerifier

/-!
# The plan of a payment

What the charge builder builds carries out a plan: the compute budget where a message of the
version has instructions for it, and then for the recipient and for each split the creation of a
token account where it is asked for, the transfer and the memo. A plan knows nothing of how a
message is compiled. `Does` says which instruction carries out a step, and what a build says of
its message is that it carries out the plan of the charge, step by step.
-/

namespace PayKit.Charge

open Control Encoding Machine Solana Tx

inductive PaymentStep where
  | unitLimit (units : ℕ)
  | unitPrice (microLamports : ℕ)
  | transfer (leg : Leg)
  | memo (text : String)
  | creation (owner : Pubkey)
deriving DecidableEq

structure TokenForm where
  mint : Pubkey
  program : Pubkey
  decimals : UInt8

/-- How a payment is made: in native SOL, or in a token. -/
structure PaymentForm where
  signer : Pubkey
  feePayer : Pubkey
  token : Option TokenForm

/-- How a batch of token transfers is made. -/
def TransferBatch.form (batch : TransferBatch) : PaymentForm :=
  ⟨batch.authority, batch.feePayer, some ⟨batch.mint, batch.tokenProgram, batch.decimals⟩⟩

def TransferEntry.leg (entry : TransferEntry) : Leg :=
  ⟨entry.recipient, entry.amount⟩

/-- The steps of one transfer of a batch. -/
def TransferEntry.steps (entry : TransferEntry) : List PaymentStep :=
  (if entry.ataCreationRequired then [.creation entry.recipient] else []) ++
    .transfer entry.leg :: (entry.memo.map .memo).toList

/-- The instructions that declare a budget. -/
def budgetSteps (version : TxVersion) (budget : ComputeBudget) : List PaymentStep :=
  match version with
  | .v0 => [.unitLimit budget.unitLimit, .unitPrice budget.unitPriceMicroLamports]
  | .v1 => []

section

variable (associatedTokenAddress : Pubkey → Pubkey → Pubkey → Pubkey) (form : PaymentForm)

/-- The instruction carries out the step. -/
inductive Does : PaymentStep → Instruction → Prop where
  | unitLimit (units : ℕ) : Does (.unitLimit units) (unitLimitInstruction units)
  | unitPrice (microLamports : ℕ) : Does (.unitPrice microLamports)
      (unitPriceInstruction microLamports)
  | lamports (leg : Leg) (hNative : form.token = none) : Does (.transfer leg)
      (systemTransferIx form.signer leg.recipient leg.amount)
  | tokens (leg : Leg) {token : TokenForm} (hToken : form.token = some token) :
      Does (.transfer leg) (transferCheckedIx token.program
        (associatedTokenAddress form.signer token.program token.mint) token.mint
        (associatedTokenAddress leg.recipient token.program token.mint) form.signer leg.amount
        token.decimals)
  | memo (text : String) : Does (.memo text) (memoIx text)
  | creation (owner : Pubkey) {token : TokenForm} (hToken : form.token = some token) :
      Does (.creation owner) (createAtaIdempotentIx
        (associatedTokenAddress owner token.program token.mint) form.feePayer owner token.mint
        token.program)

end

/-! ### The instructions of a batch -/

section

variable {associatedTokenAddress : Pubkey → Pubkey → Pubkey → Pubkey} {form : PaymentForm}

theorem memoInstructions_eq_ok {memo : Option String} {ixs : List Instruction}
    (hMemo : memoInstructions memo = .ok ixs) :
    ixs = memo.toList.map memoIx ∧ ∀ text, memo = some text → text.utf8ByteSize ≤ maxMemoBytes := by
  cases memo with
  | none =>
      cases hMemo
      simp
  | some text =>
      simp only [memoInstructions, refuseIf_bind_eq_ok] at hMemo
      rcases hMemo with ⟨hSize, hResult⟩
      cases hResult
      refine ⟨rfl, ?_⟩
      intro text' hText
      cases hText
      omega

def FitsMemo (entry : TransferEntry) : Prop :=
  ∀ text, entry.memo = some text → text.utf8ByteSize ≤ maxMemoBytes

theorem does_memos (memo : Option String) :
    List.Forall₂ (Does associatedTokenAddress form) (memo.map .memo).toList
      (memo.toList.map memoIx) := by
  cases memo with
  | none => exact .nil
  | some text => exact .cons (.memo text) .nil

theorem splTransferBatch_does {batch : TransferBatch} {entries : List TransferEntry}
    {ixs : List Instruction}
    (hBatch : buildSplTransferBatchInstructions associatedTokenAddress batch entries = .ok ixs) :
    List.Forall₂ (Does associatedTokenAddress batch.form)
      (entries.flatMap TransferEntry.steps) ixs ∧ ∀ entry ∈ entries, FitsMemo entry := by
  have hToken : batch.form.token = some ⟨batch.mint, batch.tokenProgram, batch.decimals⟩ := rfl
  induction entries generalizing ixs with
  | nil =>
      cases hBatch
      simp
  | cons entry entries hInduction =>
      simp only [buildSplTransferBatchInstructions, bind_eq_ok, pure, Except.pure,
        Except.ok.injEq] at hBatch
      rcases hBatch with ⟨memo, hMemo, rest, hRest, rfl⟩
      rcases memoInstructions_eq_ok hMemo with ⟨rfl, hFits⟩
      rcases hInduction hRest with ⟨hDoes, hEntries⟩
      refine ⟨?_, List.forall_mem_cons.mpr ⟨hFits, hEntries⟩⟩
      rw [List.flatMap_cons]
      apply List.rel_append _ hDoes
      simp only [TransferEntry.steps, TransferBatch.transfer, List.append_assoc]
      apply List.rel_append
      · split
        · exact .cons (.creation entry.recipient hToken) .nil
        · exact .nil
      · exact .cons (.tokens entry.leg hToken) (does_memos entry.memo)

theorem splitEntry_eq_ok {split : Split} {entry : TransferEntry}
    (hEntry : splitEntry split = .ok entry) :
    Pubkey.fromStr split.recipient = .ok entry.recipient ∧
      parseU64 split.amount = some entry.amount ∧
      entry.ataCreationRequired = decide (split.ataCreationRequired = some true) ∧
      entry.memo = split.memo := by
  simp only [splitEntry, clientSplitRecipient, clientSplitAmount, bind_eq_ok, mapError_eq_ok,
    okOr_eq_ok, pure, Except.pure, Except.ok.injEq] at hEntry
  rcases hEntry with ⟨recipient, hRecipient, amount, hAmount, rfl⟩
  exact ⟨hRecipient, hAmount, rfl, rfl⟩

theorem solSplits_does {feePayer signer : Pubkey} {splits : List Split} {ixs : List Instruction}
    (hSplits : buildSolSplits signer splits = .ok ixs)
    (hNoAccount : splits.any (·.ataCreationRequired = some true) = false) :
    ∃ entries, splits.mapM splitEntry = .ok entries ∧
      List.Forall₂ (Does associatedTokenAddress ⟨signer, feePayer, none⟩)
        (entries.flatMap TransferEntry.steps) ixs ∧ ∀ entry ∈ entries, FitsMemo entry := by
  induction splits generalizing ixs with
  | nil =>
      cases hSplits
      exact ⟨[], rfl, .nil, by simp⟩
  | cons split splits hInduction =>
      simp only [buildSolSplits, bind_eq_ok, pure, Except.pure, Except.ok.injEq] at hSplits
      rcases hSplits with ⟨recipient, hRecipient, amount, hAmount, memo, hMemo, rest, hRest, rfl⟩
      rcases memoInstructions_eq_ok hMemo with ⟨rfl, hFits⟩
      simp only [List.any_cons, Bool.or_eq_false_iff, decide_eq_false_iff_not] at hNoAccount
      rcases hNoAccount with ⟨hNone, hOthers⟩
      rcases hInduction hRest hOthers with ⟨entries, hEntries, hDoes, hMemos⟩
      refine ⟨⟨recipient, amount, false, split.memo⟩ :: entries, ?_, ?_,
        List.forall_mem_cons.mpr ⟨hFits, hMemos⟩⟩
      · simp [splitEntry, hRecipient, hAmount, hEntries, hNone, bind, Except.bind, pure,
          Except.pure]
      · rw [List.flatMap_cons]
        apply List.rel_append _ hDoes
        exact .cons (.lamports ⟨recipient, amount⟩ rfl) (does_memos split.memo)

theorem budgeted_does {version : TxVersion} {budget : ComputeBudget} {steps : List PaymentStep}
    {ixs : List Instruction}
    (hDoes : List.Forall₂ (Does associatedTokenAddress form) steps ixs) :
    List.Forall₂ (Does associatedTokenAddress form) (budgetSteps version budget ++ steps)
      (budgeted version budget ixs) := by
  cases version with
  | v0 => exact .cons (.unitLimit _) (.cons (.unitPrice _) hDoes)
  | v1 => exact hDoes

end

/-! ### The plan of a charge -/

structure ChargePlan where
  version : TxVersion
  sponsor : Option Pubkey
  token : Option TokenForm
  primary : Leg
  externalId : Option String
  entries : List TransferEntry

namespace ChargePlan

variable (plan : ChargePlan)

def form (signer : Pubkey) : PaymentForm :=
  ⟨signer, plan.sponsor.getD signer, plan.token⟩

/-- The transfer to the recipient itself, and those of the splits. -/
def allEntries : List TransferEntry :=
  ⟨plan.primary.recipient, plan.primary.amount, false, plan.externalId⟩ :: plan.entries

def steps (budget : ComputeBudget) : List PaymentStep :=
  budgetSteps plan.version budget ++ plan.allEntries.flatMap TransferEntry.steps

end ChargePlan

def ComputeBudgetOptions.budget (options : ComputeBudgetOptions) : ComputeBudget :=
  ⟨options.computeUnitLimit, options.computeUnitPriceMicroLamports,
    maxLoadedAccountsDataSizeBytes⟩

/-- The asset that the client pays in. -/
def IsAssetOf (client : ChargeClient) (currency : String) (details : MethodDetails) :
    Option TokenForm → Prop
  | none => clientMint currency details.network = .ok none
  | some token => ∃ mint, clientMint currency details.network = .ok (some mint) ∧
      Pubkey.fromStr mint = .ok token.mint ∧
      resolveTokenProgram client token.mint details = .ok token.program ∧
      details.decimals = some token.decimals

/-- The amount that the splits leave to the recipient. -/
structure IsPrimaryAmount (total : ℕ) (splits : List Split) (amount : ℕ) : Prop where
  sum : ∃ splitsTotal, checkedSumSplitAmounts splits = some splitsTotal ∧ splitsTotal ≤ total ∧
    amount = total - splitsTotal
  positive : 0 < amount

/-- The prepared message carries out the plan. -/
structure CarriesOut (client : ChargeClient) (signer : Pubkey) (budget : ComputeBudget)
    (plan : ChargePlan) (prepared : PreparedCharge) : Prop where
  message : ∃ ixs message,
    List.Forall₂ (Does client.associatedTokenAddress (plan.form signer)) (plan.steps budget) ixs ∧
    client.compile plan.version (plan.sponsor.getD signer) ixs prepared.blockhash = .ok message ∧
    prepared.transaction.message = ofVersion plan.version budget message
  size : ∃ size, client.serializedSize prepared.transaction = .ok size ∧
    size ≤ plan.version.limits.maxBytes

structure IsPlanOf (client : ChargeClient) (signer : Pubkey) (total : ℕ)
    (currency recipient : String) (details : ChallengeDetails)
    (options : BuildChargeTransactionOptions) (plan : ChargePlan) : Prop where
  count : details.splitList.length ≤ maxSplits
  amount : IsPrimaryAmount total details.splitList plan.primary.amount
  recipient : Pubkey.fromStr recipient = .ok plan.primary.recipient
  externalId : plan.externalId = options.externalId
  sponsor : serverFeePayer details.toMethodDetails signer = .ok plan.sponsor
  asset : IsAssetOf client currency details.toMethodDetails plan.token
  accounts : ∃ mint, clientMint currency details.network = .ok mint ∧
    checkAtaCreation currency mint details.splitList plan.sponsor options = .ok ()
  entries : details.splitList.mapM splitEntry = .ok plan.entries
  memos : ∀ entry ∈ plan.allEntries, FitsMemo entry
  version : negotiate details.transactionVersions options.maxTxVersion = .ok plan.version

section

variable {client : ChargeClient} {signer : Pubkey} {total : ℕ} {currency recipient : String}
  {details : ChallengeDetails} {options : BuildChargeTransactionOptions}
  {prepared : PreparedCharge}

theorem noAccount_of_native {splits : List Split} {sponsor : Option Pubkey}
    (hAccounts : checkAtaCreation currency none splits sponsor options = .ok ()) :
    splits.any (·.ataCreationRequired = some true) = false := by
  by_contra hAny
  rw [Bool.not_eq_false] at hAny
  simp only [checkAtaCreation, hAny, if_true, bind_eq_ok, okOr_eq_ok] at hAccounts
  rcases hAccounts with ⟨mint, hMint, -⟩
  cases hMint

theorem chargeInstructions_does {mint : Option String} {details : MethodDetails}
    {legs : ChargeLegs} {sponsor : Option Pubkey} {ixs : List Instruction}
    (hMint : clientMint currency details.network = .ok mint)
    (hAccounts : checkAtaCreation currency mint legs.splits sponsor options = .ok ())
    (hBuilt : chargeInstructions client signer mint details legs sponsor options = .ok ixs) :
    ∃ token entries, IsAssetOf client currency details token ∧
      legs.splits.mapM splitEntry = .ok entries ∧
      let all := ⟨legs.recipient, legs.primaryAmount, false, legs.externalId⟩ :: entries
      List.Forall₂ (Does client.associatedTokenAddress ⟨signer, sponsor.getD signer, token⟩)
        (all.flatMap TransferEntry.steps) ixs ∧ ∀ entry ∈ all, FitsMemo entry := by
  cases mint with
  | none =>
      simp only [chargeInstructions, buildSolInstructions, bind_eq_ok, pure, Except.pure,
        Except.ok.injEq] at hBuilt
      rcases hBuilt with ⟨memo, hMemo, rest, hRest, rfl⟩
      rcases memoInstructions_eq_ok hMemo with ⟨rfl, hFits⟩
      rcases solSplits_does hRest (noAccount_of_native hAccounts) with
        ⟨entries, hEntries, hDoes, hMemos⟩
      refine ⟨none, entries, hMint, hEntries, ?_, List.forall_mem_cons.mpr ⟨hFits, hMemos⟩⟩
      rw [List.flatMap_cons]
      apply List.rel_append _ hDoes
      exact .cons (.lamports ⟨legs.recipient, legs.primaryAmount⟩ rfl) (does_memos legs.externalId)
  | some spl =>
      simp only [chargeInstructions, buildSplInstructions, bind_eq_ok, mapError_eq_ok,
        refuseIf_eq_ok, okOr_eq_ok] at hBuilt
      rcases hBuilt with ⟨mint, hKey, program, hProgram, -, -, decimals, hDecimals, entries,
        hEntries, hBatch⟩
      rcases splTransferBatch_does hBatch with ⟨hDoes, hMemos⟩
      exact ⟨some ⟨mint, program, decimals⟩, entries, ⟨spl, hMint, hKey, hProgram, hDecimals⟩,
        hEntries, hDoes, hMemos⟩

theorem buildPreparedCharge_eq_ok
    (hBuilt : buildPreparedCharge client signer total currency recipient details options =
      .ok prepared) :
    ∃ plan, IsPlanOf client signer total currency recipient details options plan ∧
      CarriesOut client signer options.computeBudget.budget plan prepared := by
  simp only [buildPreparedCharge, bind_eq_ok, refuseIf_eq_ok, okOr_eq_ok, mapError_eq_ok, pure,
    Except.pure, Except.ok.injEq] at hBuilt
  rcases hBuilt with ⟨-, -, -, -, -, -, -, hCount, splitsTotal, hSum, -, hCovers, -, hPositive,
    recipientKey, hRecipient, sponsor, hSponsor, -, -, mint, hMint, ⟨⟩, hAccounts, ixs, hIxs,
    blockhash, -, version, hVersion, transaction, hTransaction, size, hSize, rfl⟩
  rcases chargeInstructions_does hMint hAccounts hIxs with
    ⟨token, entries, hAsset, hEntries, hDoes, hMemos⟩
  rcases buildUnsignedUnchecked_eq_ok hTransaction with ⟨message, hMessage, rfl⟩
  simp only [checkTransactionSize, bind_eq_ok, mapError_eq_ok, refuseIf_eq_ok, pure, Except.pure,
    Except.ok.injEq] at hSize
  rcases hSize with ⟨measured, hMeasured, -, hLimit, rfl⟩
  have hPositive' : 0 < total - splitsTotal := by omega
  refine ⟨⟨version, sponsor, token, ⟨recipientKey, total - splitsTotal⟩, options.externalId,
    entries⟩, ?_, ?_⟩
  · exact {
      count := by omega
      amount := ⟨⟨splitsTotal, hSum, by omega, rfl⟩, hPositive'⟩
      recipient := hRecipient
      externalId := rfl
      sponsor := hSponsor
      asset := hAsset
      accounts := ⟨mint, hMint, hAccounts⟩
      entries := hEntries
      memos := hMemos
      version := hVersion }
  · exact {
      message := ⟨_, message, budgeted_does hDoes, hMessage, rfl⟩
      size := by
        refine ⟨measured, hMeasured, ?_⟩
        cases version with
        | v0 => exact Nat.le_of_not_lt hLimit
        | v1 => exact Nat.le_of_not_lt hLimit }

end

end PayKit.Charge
