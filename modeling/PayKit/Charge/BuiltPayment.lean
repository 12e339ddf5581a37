import PayKit.Charge.PaymentPlan
import PayKit.Charge.PullSoundness
import PayKit.Tx.CompiledOrder

/-!
# What the client builds pays what the charge owes

The client builds the transaction of a charge, and the server checks one that it is sent. They share
no code, but what the checks of the server mean can be asked of the transaction that the client
built: it pays the legs of the charge, writes its memos and does nothing else. It does so unless the
charge asks for an empty memo, which the client writes and the server does not expect.
-/

namespace PayKit.Charge

open Control Encoding Machine Solana Tx

/-- The memos that a charge asks for. -/
def requestedMemos (request : ChargeRequest) (details : MethodDetails) : List String :=
  request.externalId.toList ++ details.splitList.filterMap (·.memo)

theorem expectedMemos_texts (request : ChargeRequest) (details : MethodDetails) :
    (expectedMemos request.externalId details.splitList).map (·.2) =
      (requestedMemos request details).filter (!·.isEmpty) := by
  rw [expectedMemos, requestedMemos, List.map_append, List.filter_append, List.map_filterMap,
    List.filter_filterMap]
  congr 1
  · cases request.externalId with
    | none => rfl
    | some text => by_cases hEmpty : text = "" <;> simp [hEmpty]
  · refine List.filterMap_congr fun split _ => ?_
    cases split.memo with
    | none => rfl
    | some text => by_cases hEmpty : text = "" <;> simp [hEmpty]

/-! ### Compiled steps -/

def PaymentStep.leg? : PaymentStep → Option Leg
  | .transfer leg => some leg
  | _ => none

def PaymentStep.memo? : PaymentStep → Option String
  | .memo text => some text
  | _ => none

section

variable (associatedTokenAddress : Pubkey → Pubkey → Pubkey → Pubkey)

/-- The payment is made in a token of one of the two programs, by a signer beside the sponsor. -/
structure PaymentForm.Sound (form : PaymentForm) (sponsor : Option Pubkey) : Prop where
  feePayer : form.feePayer = sponsor.getD form.signer
  separate : sponsor ≠ some form.signer
  program : ∀ token, form.token = some token →
    token.program = tokenProgram ∨ token.program = token2022Program

/-- Owners have token accounts of their own. -/
def OwnAccounts : Prop :=
  ∀ owner other program mint, associatedTokenAddress owner program mint =
    associatedTokenAddress other program mint → owner = other

/-- What the instruction of a step is, once it is compiled. -/
def Carried (form : PaymentForm) (sponsor : Option Pubkey) (keys : List Pubkey)
    (compiled : CompiledInstruction) : PaymentStep → Prop
  | .unitLimit _ => programOf keys compiled = some computeBudgetProgram
  | .unitPrice _ => programOf keys compiled = some computeBudgetProgram
  | .transfer leg => ∃ transfer, Funds associatedTokenAddress form.token.isNone keys sponsor
      (form.token.map (·.mint)) leg compiled transfer ∧ transfer.authority = form.signer
  | .memo text => ∀ label, IsMemo keys (label, text) compiled
  | .creation owner => ∃ token, form.token = some token ∧
      CreatesTokenAccount associatedTokenAddress keys form.feePayer token.mint owner
        (some token.program) compiled

end

section

variable {associatedTokenAddress : Pubkey → Pubkey → Pubkey → Pubkey} {form : PaymentForm}
  {sponsor : Option Pubkey} {keys : List Pubkey} {compiled : CompiledInstruction} {leg : Leg}

theorem Carried.lamports (hSound : form.Sound sponsor) (hNative : form.token = none)
    (hFits : leg.amount ≤ u64Max)
    (hRenders : Tx.Renders keys (systemTransferIx form.signer leg.recipient leg.amount) compiled) :
    Carried associatedTokenAddress form sponsor keys compiled (.transfer leg) := by
  have hData : compiled.data = encodeLE 4 2 ++ encodeLE 8 leg.amount := hRenders.data
  have hSource := hRenders.account 0
  have hWidth : leg.amount < 256 ^ 8 := by
    rw [u64Max] at hFits
    omega
  have hSol : IsSolTransfer keys sponsor leg compiled := {
    program := hRenders.program
    length := by simp [hData, length_encodeLE]
    tag := by
      have hField : fromLeBytes ([] ++ encodeLE 4 2 ++ encodeLE 8 leg.amount) 0 (0 + 4) = 2 :=
        fromLeBytes_field [] _ (by decide)
      rwa [List.nil_append, ← hData] at hField
    accounts := by simp [hRenders.length, systemTransferIx]
    source := ⟨form.signer, hSource, hSound.separate⟩
    destination := hRenders.account 1
    amount := by
      have hField := fromLeBytes_field (encodeLE 4 2) [] hWidth
      rwa [List.append_nil, length_encodeLE, ← hData] at hField }
  have hFunded : ∃ transfer, Funds associatedTokenAddress true keys sponsor none leg compiled
      transfer := hSol.funds
  rcases hFunded with ⟨transfer, hFunds⟩
  have hAuthority := hFunds.authority
  rw [transferAuthority, if_pos hSol.program, hSource] at hAuthority
  rw [Carried, hNative]
  exact ⟨transfer, hFunds, (Option.some.inj hAuthority).symm⟩

theorem Carried.tokens {token : TokenForm} (hOwn : OwnAccounts associatedTokenAddress)
    (hSound : form.Sound sponsor) (hToken : form.token = some token) (hFits : leg.amount ≤ u64Max)
    (hRenders : Tx.Renders keys (transferCheckedIx token.program
      (associatedTokenAddress form.signer token.program token.mint) token.mint
      (associatedTokenAddress leg.recipient token.program token.mint) form.signer leg.amount
      token.decimals) compiled) :
    Carried associatedTokenAddress form sponsor keys compiled (.transfer leg) := by
  have hData : compiled.data = [12] ++ encodeLE 8 leg.amount ++ [token.decimals] := hRenders.data
  have hWidth : leg.amount < 256 ^ 8 := by
    rw [u64Max] at hFits
    omega
  have hProgram : programOf keys compiled = some token.program := hRenders.program
  have hAuthority := hRenders.account 3
  have hSpl : IsSplTransfer associatedTokenAddress keys ⟨token.mint, none, none⟩ sponsor leg
      token.program compiled := {
    calls := hProgram
    isToken := hSound.program token hToken
    expectedProgram := nofun
    tag := by
      rw [hData]
      rfl
    length := by simp [hData, length_encodeLE]
    accounts := by simp [hRenders.length, transferCheckedIx]
    amount := by
      rw [hData]
      exact fromLeBytes_field [12] [token.decimals] hWidth
    decimals := nofun
    source := by
      refine ⟨_, hRenders.account 0, fun other hOther hSame => hSound.separate ?_⟩
      rw [hOther, ← hOwn _ _ _ _ hSame]
    mint := hRenders.account 1
    destination := hRenders.account 2
    authority := ⟨form.signer, hAuthority, hSound.separate⟩ }
  rcases hSpl.funds with ⟨transfer, hFunds⟩
  have hSigner := hFunds.authority
  rw [transferAuthority, hProgram,
    if_neg fun hSame => systemProgram_ne_token hSpl.isToken (Option.some.inj hSame),
    if_pos (by simpa using hSpl.isToken), hAuthority] at hSigner
  rw [Carried, hToken]
  exact ⟨transfer, hFunds, (Option.some.inj hSigner).symm⟩

theorem Does.carried {step : PaymentStep} {ix : Instruction}
    (hOwn : OwnAccounts associatedTokenAddress) (hSound : form.Sound sponsor)
    (hFits : ∀ leg, step.leg? = some leg → leg.amount ≤ u64Max)
    (hDoes : Does associatedTokenAddress form step ix) (hRenders : Tx.Renders keys ix compiled) :
    Carried associatedTokenAddress form sponsor keys compiled step := by
  cases hDoes with
  | unitLimit units => exact hRenders.program
  | unitPrice microLamports => exact hRenders.program
  | lamports leg hNative => exact .lamports hSound hNative (hFits leg rfl) hRenders
  | tokens leg hToken => exact .tokens hOwn hSound hToken (hFits leg rfl) hRenders
  | memo text =>
      refine fun label => ⟨hRenders.program, ?_, hRenders.data⟩
      exact List.eq_nil_of_length_eq_zero hRenders.length
  | @creation owner token hToken =>
      refine ⟨token, hToken, ?_⟩
      exact {
        program := hRenders.program
        data := hRenders.data
        accounts := hRenders.length
        payer := hRenders.account 0
        account := ⟨token.program, hRenders.account 5, hSound.program token hToken,
          fun _ hSame => Option.some.inj hSame, hRenders.account 1⟩
        owner := hRenders.account 2
        mint := hRenders.account 3
        system := hRenders.account 4 }

/-- Only the signer and the fee payer sign a step. -/
theorem Does.signer {step : PaymentStep} {ix : Instruction} {account : AccountMeta}
    (hDoes : Does associatedTokenAddress form step ix) (hAccount : account ∈ ix.accounts)
    (hSigner : account.isSigner = true) :
    account.pubkey = form.signer ∨ account.pubkey = form.feePayer := by
  cases hDoes <;> simp [unitLimitInstruction, unitPriceInstruction, systemTransferIx,
    transferCheckedIx, memoIx, createAtaIdempotentIx, AccountMeta.new, AccountMeta.newReadonly]
    at hAccount <;> grind

end

/-! ### The steps of a plan -/

theorem TransferEntry.legs (entry : TransferEntry) :
    entry.steps.filterMap PaymentStep.leg? = [entry.leg] := by
  rcases entry with ⟨recipient, amount, required, memo⟩
  cases required <;> cases memo <;> rfl

theorem TransferEntry.memos (entry : TransferEntry) :
    entry.steps.filterMap PaymentStep.memo? = entry.memo.toList := by
  rcases entry with ⟨recipient, amount, required, memo⟩
  cases required <;> cases memo <;> rfl

theorem TransferEntry.creates {entry : TransferEntry} {owner : Pubkey}
    (hCreates : .creation owner ∈ entry.steps) :
    entry.ataCreationRequired = true ∧ entry.recipient = owner := by
  rcases entry with ⟨recipient, amount, required, memo⟩
  cases required <;> cases memo <;> simp_all [steps]

namespace ChargePlan

variable (plan : ChargePlan) (budget : ComputeBudget)

theorem legs_steps :
    (plan.steps budget).filterMap PaymentStep.leg? = plan.allEntries.map TransferEntry.leg := by
  have hBudget : (budgetSteps plan.version budget).filterMap PaymentStep.leg? = [] := by
    cases plan.version <;> rfl
  rw [steps, List.filterMap_append, hBudget, List.nil_append, List.filterMap_flatMap]
  simp only [TransferEntry.legs]
  exact List.map_eq_flatMap.symm

theorem memos_steps :
    (plan.steps budget).filterMap PaymentStep.memo? = plan.allEntries.filterMap (·.memo) := by
  have hBudget : (budgetSteps plan.version budget).filterMap PaymentStep.memo? = [] := by
    cases plan.version <;> rfl
  rw [steps, List.filterMap_append, hBudget, List.nil_append, List.filterMap_flatMap]
  simp only [TransferEntry.memos]
  exact (List.filterMap_eq_flatMap_toList _ _).symm

theorem creates {owner : Pubkey} (hCreates : .creation owner ∈ plan.steps budget) :
    ∃ entry ∈ plan.entries, entry.ataCreationRequired = true ∧ entry.recipient = owner := by
  rcases List.mem_append.mp hCreates with hBudget | hEntries
  · cases hVersion : plan.version <;> simp [budgetSteps, hVersion] at hBudget
  · rcases List.mem_flatMap.mp hEntries with ⟨entry, hEntry, hStep⟩
    have hRequired := TransferEntry.creates hStep
    rcases List.mem_cons.mp hEntry with rfl | hSplit
    · cases hRequired.1
    · exact ⟨entry, hSplit, hRequired⟩

end ChargePlan

section

variable {client : ChargeClient} {signer : Pubkey} {total : ℕ} {currency recipient : String}
  {details : ChallengeDetails} {options : BuildChargeTransactionOptions} {plan : ChargePlan}

theorem serverFeePayer_eq_ok {details : MethodDetails} {sponsor : Option Pubkey}
    (hSponsor : serverFeePayer details signer = .ok sponsor) :
    sponsor ≠ some signer ∧ (details.feeSponsored → sponsor ≠ none) := by
  rw [serverFeePayer] at hSponsor
  split at hSponsor
  · next hUnsponsored =>
      cases hSponsor
      refine ⟨(Option.some_ne_none signer).symm, fun hSponsored => ?_⟩
      exact absurd hSponsored (by simp [hUnsponsored])
  · simp only [bind_eq_ok, okOr_eq_ok, mapError_eq_ok, refuseIf_eq_ok, pure, Except.pure,
      Except.ok.injEq] at hSponsor
    rcases hSponsor with ⟨text, -, key, -, -, hOther, rfl⟩
    exact ⟨fun hSame => hOther (Option.some.inj hSame), fun _ => Option.some_ne_none key⟩

theorem resolveTokenProgram_eq_ok {mint program : Pubkey} {details : MethodDetails}
    (hProgram : resolveTokenProgram client mint details = .ok program) :
    program = tokenProgram ∨ program = token2022Program := by
  simp only [resolveTokenProgram, bind_eq_ok, refuseIf_eq_ok, pure, Except.pure,
    Except.ok.injEq] at hProgram
  rcases hProgram with ⟨declared, -, -, hText, rfl⟩
  rcases not_and_or.mp hText with hText | hText
  · exact .inl (eq_ofConst_of_display (by decide) (not_not.mp hText))
  · exact .inr (eq_ofConst_of_display (by decide) (not_not.mp hText))

theorem forall₂_of_mapM {splits : List Split} {entries : List TransferEntry}
    (hEntries : splits.mapM splitEntry = .ok entries) :
    List.Forall₂ (fun split entry => splitEntry split = .ok entry) splits entries := by
  induction splits generalizing entries with
  | nil =>
      cases hEntries
      exact .nil
  | cons split splits hInduction =>
      simp only [List.mapM_cons, bind_eq_ok, pure, Except.pure, Except.ok.injEq] at hEntries
      rcases hEntries with ⟨entry, hEntry, rest, hRest, rfl⟩
      exact .cons hEntry (hInduction hRest)

namespace IsPlanOf

variable (hPlan : IsPlanOf client signer total currency recipient details options plan)
include hPlan

theorem sound : (plan.form signer).Sound plan.sponsor where
  feePayer := rfl
  separate := (serverFeePayer_eq_ok hPlan.sponsor).1
  program token hToken := by
    have hAsset := hPlan.asset
    rw [show plan.token = some token from hToken] at hAsset
    rcases hAsset with ⟨mint, -, -, hProgram, -⟩
    exact resolveTokenProgram_eq_ok hProgram

theorem legs : List.Forall₂ IsLegOf details.splitList (plan.entries.map TransferEntry.leg) := by
  rw [List.forall₂_map_right_iff]
  refine (forall₂_of_mapM hPlan.entries).imp fun split entry hEntry => ?_
  rcases splitEntry_eq_ok hEntry with ⟨hRecipient, hAmount, -, -⟩
  exact ⟨hRecipient, hAmount⟩

theorem total_eq :
    total = plan.primary.amount + ((plan.entries.map TransferEntry.leg).map Leg.amount).sum := by
  rcases hPlan.amount.sum with ⟨splitsTotal, hSum, hCovers, hAmount⟩
  have hLegs := checkedSum_legs hPlan.legs hSum
  omega

theorem memos_eq : plan.allEntries.filterMap (·.memo) =
    options.externalId.toList ++ details.splitList.filterMap (·.memo) := by
  have hMemos : plan.entries.map (·.memo) = details.splitList.map (·.memo) := by
    have hEach := (forall₂_of_mapM hPlan.entries).imp fun split entry hEntry =>
      (splitEntry_eq_ok hEntry).2.2.2
    rw [← List.forall₂_eq_eq_eq, List.forall₂_map_left_iff, List.forall₂_map_right_iff]
    exact hEach.flip
  have hSplits : plan.entries.filterMap (·.memo) = details.splitList.filterMap (·.memo) := by
    have hSame := congrArg (List.filterMap id) hMemos
    rw [List.filterMap_map, List.filterMap_map] at hSame
    exact hSame
  rw [ChargePlan.allEntries, ← hSplits, hPlan.externalId]
  cases options.externalId <;> rfl

theorem amount_le (hTotal : total ≤ u64Max) {leg : Leg}
    (hLeg : leg ∈ plan.allEntries.map TransferEntry.leg) : leg.amount ≤ u64Max := by
  have hSum := hPlan.total_eq
  have hPart : leg.amount ≤ plan.primary.amount +
      ((plan.entries.map TransferEntry.leg).map Leg.amount).sum := by
    rcases List.mem_cons.mp hLeg with rfl | hSplit
    · exact Nat.le_add_right _ _
    · have hOne := List.single_le_sum (fun _ _ => Nat.zero_le _) _
        (List.mem_map_of_mem (f := Leg.amount) hSplit)
      omega
  omega

theorem mayCreate {owner : Pubkey} {entry : TransferEntry} (hEntry : entry ∈ plan.entries)
    (hRequired : entry.ataCreationRequired = true ∧ entry.recipient = owner) :
    MayCreate details.toMethodDetails owner := by
  have hEach := forall₂_of_mapM hPlan.entries
  rcases List.mem_iff_get.mp hEntry with ⟨position, rfl⟩
  rcases List.forall₂_iff_get.mp hEach with ⟨hLength, hAt⟩
  have hPosition : position.val < details.splitList.length := by omega
  rcases splitEntry_eq_ok (hAt position hPosition position.isLt) with ⟨hRecipient, -, hFlag, -⟩
  refine ⟨_, List.get_mem _ ⟨position, hPosition⟩, ?_, fun _ => ?_⟩
  · rw [hRecipient, ← hRequired.2]
  · exact of_decide_eq_true (hFlag.symm.trans hRequired.1)

end IsPlanOf


/-! ### The message -/

/-- The compiled instructions carry out the steps of the plan. -/
def CarriedOut (client : ChargeClient) (signer : Pubkey) (plan : ChargePlan)
    (steps : List PaymentStep) (message : Message) : Prop :=
  List.Forall₂ (fun step compiled => step ∈ steps ∧ Carried client.associatedTokenAddress
    (plan.form signer) plan.sponsor message.accountKeys compiled step) steps message.instructions

theorem forall₂_through {First Second Third : Type} {left : First → Second → Prop}
    {right : Second → Third → Prop} {firsts : List First} {seconds : List Second}
    {thirds : List Third} (hLeft : List.Forall₂ left firsts seconds)
    (hRight : List.Forall₂ right seconds thirds) :
    List.Forall₂ (fun first third => first ∈ firsts ∧ ∃ second, left first second ∧
      right second third) firsts thirds := by
  induction hLeft generalizing thirds with
  | nil =>
      cases hRight
      exact .nil
  | cons hHead hTail hInduction =>
      cases hRight with
      | cons hFirst hRest =>
          refine .cons ⟨List.mem_cons_self, _, hHead, hFirst⟩ ((hInduction hRest).imp ?_)
          exact fun _ _ ⟨hMem, hBoth⟩ => ⟨List.mem_cons_of_mem _ hMem, hBoth⟩

theorem carriedOut_of_does {budget : ComputeBudget} {ixs : List Instruction} {message : Message}
    (hPlan : IsPlanOf client signer total currency recipient details options plan)
    (hOwn : OwnAccounts client.associatedTokenAddress) (hTotal : total ≤ u64Max)
    (hDoes : List.Forall₂ (Does client.associatedTokenAddress (plan.form signer))
      (plan.steps budget) ixs)
    (hRenders : List.Forall₂ (Tx.Renders message.accountKeys) ixs message.instructions) :
    CarriedOut client signer plan (plan.steps budget) message := by
  refine (forall₂_through hDoes hRenders).imp ?_
  rintro step compiled ⟨hStep, ix, hIx, hCompiled⟩
  refine ⟨hStep, hIx.carried hOwn hPlan.sound (fun leg hLeg => hPlan.amount_le hTotal ?_) hCompiled⟩
  rw [← ChargePlan.legs_steps plan budget]
  exact List.mem_filterMap.mpr ⟨step, hStep, hLeg⟩

section

variable {steps : List PaymentStep} {message : Message}
  (hCarried : CarriedOut client signer plan steps message)
include hCarried

theorem CarriedOut.transfers :
    List.Forall₂ (Pays client.associatedTokenAddress (plan.token.map (·.mint)))
      (steps.filterMap PaymentStep.leg?)
      (message.instructions.filterMap (transferOf plan.token.isNone message.accountKeys)) := by
  refine List.rel_filterMap ?_ hCarried
  rintro step compiled ⟨-, hStep⟩
  cases step with
  | transfer leg =>
      rcases hStep with ⟨transfer, hFunds, -⟩
      rw [show transferOf plan.token.isNone message.accountKeys compiled = some transfer from
        hFunds.isTransfer]
      exact .some hFunds.pays
  | memo text =>
      rw [transferOf_eq_none (hStep "").program (.inl rfl)]
      exact .none
  | creation owner =>
      rcases hStep with ⟨token, -, hCreates⟩
      rw [transferOf_eq_none hCreates.program (.inr (.inr rfl))]
      exact .none
  | unitLimit _ | unitPrice _ =>
      rw [transferOf_eq_none hStep (.inr (.inl rfl))]
      exact .none

theorem CarriedOut.memos :
    List.Forall₂ (fun text compiled => ∀ label, IsMemo message.accountKeys (label, text) compiled)
      (steps.filterMap PaymentStep.memo?)
      (message.instructions.filter (programOf message.accountKeys · = some memoProgram)) := by
  rw [← List.filterMap_eq_filter]
  refine List.rel_filterMap ?_ hCarried
  rintro step compiled ⟨-, hStep⟩
  have hOther : ∀ {program}, programOf message.accountKeys compiled = some program →
      program ≠ memoProgram →
        Option.guard (programOf message.accountKeys · = some memoProgram) compiled = none := by
    intro program hProgram hNe
    simp [Option.guard, hProgram, hNe]
  cases step with
  | transfer leg =>
      rcases hStep with ⟨transfer, hFunds, -⟩
      rcases transferOf_program hFunds.isTransfer with ⟨program, hProgram, hKind⟩
      rw [hOther hProgram (programs_ne_transfer hKind).1]
      exact .none
  | memo text =>
      rw [show Option.guard _ compiled = some compiled by
        simp [Option.guard, (hStep "").program]]
      exact .some hStep
  | creation owner =>
      rcases hStep with ⟨token, -, hCreates⟩
      rw [hOther hCreates.program memoProgram_ne.2]
      exact .none
  | unitLimit _ | unitPrice _ =>
      rw [hOther hStep memoProgram_ne.1]
      exact .none

/-- Every transfer is funded by the signer. -/
theorem CarriedOut.funded {compiled : CompiledInstruction} {transfer : Transfer}
    (hCompiled : compiled ∈ message.instructions)
    (hTransfer : transferOf plan.token.isNone message.accountKeys compiled = some transfer) :
    transfer.authority = signer ∧ ∀ sponsor, plan.sponsor = some sponsor →
      transfer.authority ≠ sponsor ∧ transfer.source ≠ receives client.associatedTokenAddress
        sponsor transfer.program (plan.token.map (·.mint)) := by
  rcases exists_fits_of_mem hCarried hCompiled with ⟨step, -, hStep⟩
  have hOther : ∀ {program}, programOf message.accountKeys compiled = some program →
      ¬(program = memoProgram ∨ program = computeBudgetProgram ∨ program = ataProgram) := by
    intro program hProgram hKind
    rw [transferOf_eq_none hProgram hKind] at hTransfer
    cases hTransfer
  cases step with
  | transfer leg =>
      rcases hStep with ⟨same, hFunds, hAuthority⟩
      have hSame : same = transfer := Option.some.inj (hFunds.isTransfer.symm.trans hTransfer)
      subst hSame
      exact ⟨hAuthority, hFunds.sponsor⟩
  | memo text => exact absurd (.inl rfl) (hOther (hStep "").program)
  | creation owner =>
      rcases hStep with ⟨token, -, hCreates⟩
      exact absurd (.inr (.inr rfl)) (hOther hCreates.program)
  | unitLimit _ | unitPrice _ => exact absurd (.inr (.inl rfl)) (hOther hStep)

end

theorem resolveStablecoinMint_eq_none {network : Option String} :
    resolveStablecoinMint currency network = none ↔ toUppercase currency = "SOL" := by
  simp only [resolveStablecoinMint]
  split
  · next hSol => simp [hSol]
  · next hOther =>
      simp only [hOther, iff_false]
      repeat' split
      all_goals exact Option.some_ne_none _

/-- The asset of the charge, as the server resolves it. -/
theorem IsPlanOf.isAsset {request : ChargeRequest}
    (hPlan : IsPlanOf client signer total request.currency recipient details options plan) :
    IsAsset request details.toMethodDetails (plan.token.map (·.mint)) ∧
      plan.token.isNone = isNativeSol request := by
  have hAsset := hPlan.asset
  cases hToken : plan.token with
  | none =>
      rw [hToken, IsAssetOf, clientMint, mapError_eq_ok, tryResolveStablecoinMint] at hAsset
      split at hAsset
      · cases hAsset
      · have hNative : isNativeSol request = true :=
          decide_eq_true (resolveStablecoinMint_eq_none.mp (Except.ok.inj hAsset))
        simp [IsAsset, hNative]
  | some token =>
      rw [hToken] at hAsset
      rcases hAsset with ⟨mint, hMint, hKey, -, -⟩
      rw [clientMint, mapError_eq_ok] at hMint
      have hNative : isNativeSol request = false := by
        rw [tryResolveStablecoinMint] at hMint
        split at hMint
        · cases hMint
        · refine decide_eq_false fun hSol => ?_
          rw [resolveStablecoinMint_eq_none.mpr hSol] at hMint
          cases Except.ok.inj hMint
      have hExpected : resolveExpectedMint request.currency details.network = .ok token.mint := by
        simp only [resolveExpectedMint, hMint, parseKey_eq_ok, hKey]
      simp [IsAsset, hNative, hExpected]

theorem CarriedOut.others {budget : ComputeBudget} {message : Message}
    (hPlan : IsPlanOf client signer total currency recipient details options plan)
    (hCarried : CarriedOut client signer plan (plan.steps budget) message)
    (hPayer : message.accountKeys.head? = some (plan.sponsor.getD signer))
    {compiled : CompiledInstruction} (hCompiled : compiled ∈ message.instructions)
    (hNoTransfer : transferOf plan.token.isNone message.accountKeys compiled = none)
    (hNoMemo : programOf message.accountKeys compiled ≠ some memoProgram) :
    IsSupporting client.associatedTokenAddress details.toMethodDetails
      (plan.token.map (·.mint)) message.accountKeys compiled := by
  rcases exists_fits_of_mem hCarried hCompiled with ⟨step, hStep, hDone⟩
  cases step with
  | transfer leg =>
      rcases hDone with ⟨transfer, hFunds, -⟩
      cases hNoTransfer.symm.trans hFunds.isTransfer
  | memo text => exact absurd (hDone "").program hNoMemo
  | creation owner =>
      rcases hDone with ⟨token, hToken, hCreates⟩
      rcases plan.creates budget hStep with ⟨entry, hEntry, hRequired⟩
      exact .creation hPayer (congrArg (Option.map (·.mint)) hToken)
        (hPlan.mayCreate hEntry hRequired) hCreates
  | unitLimit _ | unitPrice _ => exact .budget hDone

theorem forall_of_forall₂ {First Second : Type} {relation : First → Second → Prop}
    {property : Second → Prop} {firsts : List First} {seconds : List Second}
    (hRelated : List.Forall₂ relation firsts seconds)
    (hProperty : ∀ first second, relation first second → property second) :
    ∀ second ∈ seconds, property second := by
  induction hRelated with
  | nil => exact List.forall_mem_nil _
  | cons hHead hTail hInduction =>
      exact List.forall_mem_cons.mpr ⟨hProperty _ _ hHead, hInduction⟩

theorem body_ofVersion (version : TxVersion) (budget : ComputeBudget) (message : Message) :
    (ofVersion version budget message).body = message := by
  cases version <;> rfl

/-- What the client builds for a challenge pays the legs that the charge owes, in its asset, and
does nothing else, exactly when no memo that is asked for is empty. -/
theorem built_paysExactly_iff {request : ChargeRequest} {prepared : PreparedCharge}
    (hCompiles : Compiles client.compile) (hOwn : OwnAccounts client.associatedTokenAddress)
    (hAmount : parseU64 request.amount = some total)
    (hRecipient : request.recipient = some recipient)
    (hExternal : options.externalId = request.externalId)
    (hBuilt : buildPreparedCharge client signer total request.currency recipient details options =
      .ok prepared) :
    ∃ primary legs mint, Owes request details.splitList primary legs ∧
      IsAsset request details.toMethodDetails mint ∧
      (PaysExactly client.associatedTokenAddress prepared.transaction request
          details.toMethodDetails mint (primary :: legs) ↔
        "" ∉ requestedMemos request details.toMethodDetails) := by
  rcases buildPreparedCharge_eq_ok hBuilt with
    ⟨plan, hPlan, ⟨ixs, message, hDoes, hMessage, hTx⟩, -⟩
  have hCompiled := hCompiles _ _ _ _ _ hMessage
  have hCarried := carriedOut_of_does hPlan hOwn (parseU64_le hAmount) hDoes hCompiled.instructions
  rcases hPlan.isAsset with ⟨hAsset, hNative⟩
  have hBody : prepared.transaction.message.body = message := by
    rw [hTx, body_ofVersion]
  have hTransfers := hCarried.transfers
  have hMemos := hCarried.memos
  rw [ChargePlan.legs_steps] at hTransfers
  rw [ChargePlan.memos_steps, hPlan.memos_eq, hExternal] at hMemos
  change List.Forall₂ _ (requestedMemos request details.toMethodDetails) _ at hMemos
  have hTexts := expectedMemos_texts request details.toMethodDetails
  refine ⟨plan.primary, plan.entries.map TransferEntry.leg, plan.token.map (·.mint),
    ⟨⟨recipient, hRecipient, hPlan.recipient⟩, hPlan.legs, ?_⟩, hAsset, ?_⟩
  · rw [hAmount, ← hPlan.total_eq]
  · constructor
    · intro hPays hEmpty
      rcases hPays.memos with ⟨memos, hPerm, hExpected⟩
      have hLength : ((requestedMemos request details.toMethodDetails).filter (!·.isEmpty)).length =
          (requestedMemos request details.toMethodDetails).length := by
        rw [← hTexts, List.length_map, hExpected.length_eq, ← hPerm.length_eq, hMemos.length_eq]
        simp only [VersionedMessage.instructions, VersionedMessage.staticAccountKeys, hBody]
      have hNone := List.length_filter_eq_length_iff.mp hLength "" hEmpty
      simp at hNone
    · intro hFull
      have hKept : (requestedMemos request details.toMethodDetails).filter (!·.isEmpty) =
          requestedMemos request details.toMethodDetails := by
        refine List.filter_eq_self.mpr fun text hText => ?_
        have hSome : text ≠ "" := fun hSame => hFull (hSame ▸ hText)
        simp [hSome]
      rw [← hKept, ← hTexts, List.forall₂_map_left_iff] at hMemos
      have hSigned : ∀ ix ∈ ixs, ∀ account ∈ ix.accounts, account.isSigner = true →
          account.pubkey = signer ∨ account.pubkey = plan.sponsor.getD signer :=
        forall_of_forall₂ hDoes fun _ _ hStep _ hAccount hSigner => hStep.signer hAccount hSigner
      refine ⟨⟨_, .refl _, ?_⟩, ⟨_, .refl _, ?_⟩, ?_, ⟨some signer, ?_, ?_⟩, ?_⟩ <;>
        simp only [VersionedMessage.instructions, VersionedMessage.staticAccountKeys,
          VersionedMessage.header, hBody, ← hNative]
      · exact hTransfers
      · exact hMemos.imp fun memo compiled hMemo => hMemo memo.1
      · exact fun compiled hMem => hCarried.others hPlan hCompiled.payerFirst hMem
      · intro compiled hMem transfer hTransfer
        rw [(hCarried.funded hMem hTransfer).1]
      · intro key hKey
        rcases (hCompiled.signers key).mp hKey with rfl | hSigner
        · exact .inl hCompiled.payerFirst
        · rcases hSigner with ⟨ix, hIx, account, hAccount, hSigner, rfl⟩
          rcases hSigned ix hIx account hAccount hSigner with hSame | hSame
          · exact .inr (congrArg some hSame.symm)
          · rw [hSame]
            exact .inl hCompiled.payerFirst
      · intro hSponsored
        have hSome := (serverFeePayer_eq_ok hPlan.sponsor).2 hSponsored
        rcases Option.ne_none_iff_exists'.mp hSome with ⟨sponsor, hSponsor⟩
        refine ⟨sponsor, ?_, fun compiled hMem transfer hTransfer =>
          (hCarried.funded hMem hTransfer).2 sponsor hSponsor⟩
        rw [hCompiled.payerFirst, hSponsor]
        rfl

end

/-! ### A built transaction -/

def splitClient : ChargeClient where
  compile := compileInOrder
  serializedSize _ := .ok 405
  associatedTokenAddress owner _ _ := owner
  mintOwner _ := .error "no mint"
  resolveBlockhash _ := .ok (List.replicate 32 0)

/-- The challenge of the sponsored charge with one split. -/
def splitChallenge : ChallengeDetails :=
  { sponsoredDetails with
    recentBlockhash := none
    transactionVersions := none
    confidential := none
    channelCharge := false }

theorem built_paysExactly_iff_of_splitChallenge :
    ∃ prepared primary legs mint, buildPreparedCharge splitClient (keyNumbered 2) 1000
        splitCharge.currency (keyNumbered 3).display splitChallenge {} = .ok prepared ∧
      Owes splitCharge splitChallenge.splitList primary legs ∧
      IsAsset splitCharge splitChallenge.toMethodDetails mint ∧
      PaysExactly splitClient.associatedTokenAddress prepared.transaction splitCharge
        splitChallenge.toMethodDetails mint (primary :: legs) := by
  have hBuilds : (buildPreparedCharge splitClient (keyNumbered 2) 1000 splitCharge.currency
      (keyNumbered 3).display splitChallenge {}).isOk = true := by
    decide +kernel
  cases hBuilt : buildPreparedCharge splitClient (keyNumbered 2) 1000 splitCharge.currency
      (keyNumbered 3).display splitChallenge {} with
  | error error => simp [hBuilt, Except.isOk, Except.toBool] at hBuilds
  | ok prepared =>
      rcases built_paysExactly_iff compiles_inOrder (fun _ _ _ _ hSame => hSame) (by decide) rfl rfl
        hBuilt with ⟨primary, legs, mint, hOwes, hAsset, hPays⟩
      exact ⟨prepared, primary, legs, mint, rfl, hOwes, hAsset, hPays.mpr (by decide)⟩

end PayKit.Charge
