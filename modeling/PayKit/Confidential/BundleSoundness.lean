import PayKit.Confidential.BundleLifecycle

/-!
# What a sponsored bundle can do

A bundle that passes the first pass spends the gateway's lamports only on temporary accounts
that come back to it. The first check says of each instruction what it is and who is in charge;
the lifecycle check says what happens to each account over the whole bundle.
-/

namespace PayKit.Confidential

open Charge Control Encoding Machine Solana Tx

section

variable (scope : BundleScope) (keys : List Pubkey) (ix : CompiledInstruction)

/-- An account creation that the gateway funds. -/
structure IsCreation : Prop where
  program : programOf keys ix = some systemProgram
  tag : leAt ix.data 0 4 = some 0
  funder : accountAt keys ix 0 = some scope.gateway
  owner : keyBytesAt ix.data 20 = some zkElgamalProofProgram ∨
    keyBytesAt ix.data 20 = some scope.recordProgram.id
  funding : ∃ lamports space, leAt ix.data 4 12 = some lamports ∧ leAt ix.data 12 20 = some space ∧
    space ≤ maxCtCreateAccountSpace ∧ lamports ≤ maxCtCreateAccountLamports ∧
    lamports ≤ rentExemptCeiling space

def IsProof : Prop :=
  programOf keys ix = some zkElgamalProofProgram

structure IsRecord : Prop where
  program : programOf keys ix = some scope.recordProgram.id
  noNewAuthority : ix.data.head? ≠ some 2

structure IsCappedBudget : Prop where
  program : programOf keys ix = some computeBudgetProgram
  capped : (∃ units, decodeComputeBudgetOp ix = some (.unitLimit units) ∧
      units ≤ maxConfidentialComputeUnitLimit) ∨
    (∃ price, decodeComputeBudgetOp ix = some (.unitPrice price) ∧
      price ≤ maxComputeUnitPriceMicrolamportsFeeSponsored)

structure IsTransfer : Prop where
  program : programOf keys ix = some scope.tokenProgram
  confidential : isConfidentialTransfer ix.data = true
  recipient : accountAt keys ix 2 = some scope.recipientAta

def IsAllowed : Prop :=
  IsCreation scope keys ix ∨ IsProof keys ix ∨ IsRecord scope keys ix ∨ IsCappedBudget keys ix ∨
    IsTransfer scope keys ix

/-- The key that an initialization puts in charge of the account: the one after it. -/
def initializationAuthority : Option Pubkey :=
  if programOf keys ix = some zkElgamalProofProgram ∧ ix.data.length = 5 then accountAt keys ix 2
  else accountAt keys ix 1

/-- Who is in charge of an account that an instruction initializes or closes, and where what
was in it goes. -/
structure InCharge : Prop where
  initialization : ∀ account, eventOf scope keys ix = some (.initialization, account) →
    initializationAuthority keys ix = some scope.gateway
  close : ∀ account, eventOf scope keys ix = some (.close, account) →
    accountAt keys ix 1 = some scope.gateway ∧ accountAt keys ix 2 = some scope.gateway

end

structure SponsoredSigners (scope : BundleScope) (tx : VersionedTransaction) : Prop where
  feePayer : tx.message.staticAccountKeys.head? = some scope.gateway
  required : ∃ further : Option Pubkey,
    ∀ key ∈ tx.message.staticAccountKeys.take tx.message.header.numRequiredSignatures.toNat,
      key = scope.gateway ∨
      (∃ ix ∈ tx.message.instructions,
        eventOf scope tx.message.staticAccountKeys ix = some (.creation, key)) ∨
      (further = some key ∧ ∃ ix ∈ tx.message.instructions,
        IsTransfer scope tx.message.staticAccountKeys ix ∧
          key ∈ namedKeys tx.message.staticAccountKeys ix)
  slots : tx.signatures.length = tx.message.header.numRequiredSignatures.toNat ∧
    tx.signatures.length ≤ tx.message.staticAccountKeys.length
  signed : ∀ slot index, (tx.signatures.zip tx.message.staticAccountKeys)[index]? = some slot →
    if slot.2 = scope.gateway then index = 0 ∧ slot.1 = Signature.default
    else scope.verifySignature tx.message slot.2 slot.1 = true

/-- What the bundle as a whole does. -/
structure SponsoredBundle (scope : BundleScope) (transactions : List VersionedTransaction) :
    Prop where
  signers : ∀ tx ∈ transactions, SponsoredSigners scope tx
  allowed : ∀ step ∈ bundleSteps transactions.zipIdx, IsAllowed scope step.keys step.ix
  transfer : ∃ step, (bundleSteps transactions.zipIdx).filter
      (fun step => programOf step.keys step.ix = some scope.tokenProgram) = [step] ∧
    step.txIndex = transactions.length - 1 ∧ IsTransfer scope step.keys step.ix
  distinct : (createdAccounts scope (bundleSteps transactions.zipIdx)).Nodup
  gateway : scope.gateway ∉ createdAccounts scope (bundleSteps transactions.zipIdx)
  count : (createdAccounts scope (bundleSteps transactions.zipIdx)).length ≤
    maxCtBundleFundedAccounts
  together : (createdLamports (bundleSteps transactions.zipIdx)).sum ≤ maxCtBundleCreateLamports
  lifecycle : ∀ account ∈ createdAccounts scope (bundleSteps transactions.zipIdx), ∃ index,
    occurrences scope .creation account (bundleSteps transactions.zipIdx) = [index] ∧
    occurrences scope .initialization account (bundleSteps transactions.zipIdx) = [index] ∧
    occurrences scope .close account (bundleSteps transactions.zipIdx) =
      [transactions.length - 1]
  others : ∀ account ∉ createdAccounts scope (bundleSteps transactions.zipIdx), ∀ event,
    occurrences scope event account (bundleSteps transactions.zipIdx) = []
  inCharge : ∀ step ∈ bundleSteps transactions.zipIdx, InCharge scope step.keys step.ix

/-! ### One instruction -/

section

variable {scope : BundleScope} {keys : List Pubkey} {ix : CompiledInstruction}

theorem checkCreateAccount_eq_ok (hProgram : programOf keys ix = some systemProgram)
    (hCheck : checkCreateAccount scope keys ix = .ok ()) : IsCreation scope keys ix := by
  simp only [checkCreateAccount, bind_eq_ok, refuseIf_eq_ok, not_not] at hCheck
  rcases hCheck with ⟨-, hTag, -, hFunder, -, hOwner, -, hCaps, hCeiling⟩
  have hOwner : keyBytesAt ix.data 20 = some zkElgamalProofProgram ∨
      keyBytesAt ix.data 20 = some scope.recordProgram.id := by
    by_contra hNone
    exact hOwner (not_or.mp hNone)
  refine ⟨hProgram, hTag, hFunder, hOwner, ?_⟩
  cases hLamports : leAt ix.data 4 12 with
  | none => simp [hLamports] at hCaps
  | some lamports =>
      cases hSpace : leAt ix.data 12 20 with
      | none => simp [hSpace] at hCaps
      | some space =>
          simp only [hLamports, hSpace, Option.all_some, Option.any_some, decide_eq_true_eq, not_or,
            not_lt] at hCaps hCeiling
          exact ⟨lamports, space, rfl, rfl, hCaps.1, hCaps.2, hCeiling⟩

theorem checkBudgetInstruction_eq_ok (hProgram : programOf keys ix = some computeBudgetProgram)
    (hCheck : checkBudgetInstruction ix = .ok ()) : IsCappedBudget keys ix := by
  refine ⟨hProgram, ?_⟩
  simp only [checkBudgetInstruction] at hCheck
  split at hCheck
  next units hOp =>
    simp only [refuseIf_eq_ok, not_lt] at hCheck
    exact Or.inl ⟨units, hOp, hCheck⟩
  next price hOp =>
    simp only [refuseIf_eq_ok, not_lt] at hCheck
    exact Or.inr ⟨price, hOp, hCheck⟩
  next => cases hCheck
  next => cases hCheck

theorem checkTransfer_eq_ok (hProgram : programOf keys ix = some scope.tokenProgram)
    (hCheck : checkTransfer scope keys ix = .ok ()) : IsTransfer scope keys ix := by
  simp only [checkTransfer, bind_eq_ok, refuseIf_eq_ok, not_not, Bool.not_eq_false] at hCheck
  rcases hCheck with ⟨-, hTransfer, hRecipient⟩
  exact ⟨hProgram, hTransfer, hRecipient⟩

theorem checkZkInstruction_eq_ok (hProgram : programOf keys ix = some zkElgamalProofProgram)
    (hCheck : checkZkInstruction scope keys ix = .ok ()) : InCharge scope keys ix := by
  have hNotSystem : zkElgamalProofProgram ≠ systemProgram := by decide
  simp only [checkZkInstruction] at hCheck
  constructor
  case initialization =>
    intro account hEvent
    simp only [eventOf, hProgram, Option.some.injEq, hNotSystem, if_false, if_true] at hEvent
    simp only [initializationAuthority, hProgram, true_and]
    split at hEvent
    next => cases hEvent
    next hAccounts =>
      split at hEvent
      next => simp at hEvent
      next hTag =>
        simp only [hTag, hAccounts, if_false] at hCheck
        by_cases hLength : ix.data.length = 5
        · simpa [hLength] using hCheck
        · simpa [hLength] using hCheck
  case close =>
    intro account hEvent
    simp only [eventOf, hProgram, Option.some.injEq, hNotSystem, if_false, if_true] at hEvent
    split at hEvent
    next => cases hEvent
    next =>
      split at hEvent
      next hTag =>
        simp only [hTag, if_true, refuseIf_eq_ok, not_or, not_not] at hCheck
        exact hCheck
      next => simp at hEvent

theorem checkRecordInstruction_eq_ok (hSystem : programOf keys ix ≠ some systemProgram)
    (hZk : programOf keys ix ≠ some zkElgamalProofProgram)
    (hProgram : programOf keys ix = some scope.recordProgram.id)
    (hCheck : checkRecordInstruction scope keys ix = .ok ()) :
    IsRecord scope keys ix ∧ InCharge scope keys ix := by
  have hEvent : eventOf scope keys ix =
      if ix.data.head? = some 0 then (accountAt keys ix 0).map (.initialization, ·)
      else if ix.data.head? = some 3 then (accountAt keys ix 0).map (.close, ·)
      else none := by
    rw [eventOf, if_neg hSystem, if_neg hZk, if_pos hProgram]
  simp only [checkRecordInstruction] at hCheck
  refine ⟨⟨hProgram, ?_⟩, ?_, ?_⟩
  · intro hTag
    simp [hTag] at hCheck
  · intro account hInitialization
    rw [initializationAuthority, if_neg (fun hBoth => hZk hBoth.1)]
    rw [hEvent] at hInitialization
    split at hInitialization
    next hTag =>
      simp only [hTag, if_true, refuseIf_eq_ok, not_not] at hCheck
      exact hCheck
    next =>
      split at hInitialization
      next => simp at hInitialization
      next => cases hInitialization
  · intro account hClose
    rw [hEvent] at hClose
    split at hClose
    next => simp at hClose
    next =>
      split at hClose
      next hTag =>
        simp only [hTag, Option.some.injEq, show (3 : UInt8) ≠ 0 by decide,
          show (3 : UInt8) ≠ 2 by decide, if_false, if_true, refuseIf_eq_ok, not_or, not_not]
          at hCheck
        exact hCheck
      next => cases hClose

theorem InCharge.of_creation (hProgram : programOf keys ix = some systemProgram) :
    InCharge scope keys ix := by
  constructor <;>
  · intro account hEvent
    simp [eventOf, hProgram] at hEvent

theorem eventOf_eq_none (hSystem : programOf keys ix ≠ some systemProgram)
    (hZk : programOf keys ix ≠ some zkElgamalProofProgram)
    (hRecord : programOf keys ix ≠ some scope.recordProgram.id) : eventOf scope keys ix = none := by
  rw [eventOf, if_neg hSystem, if_neg hZk, if_neg hRecord]

theorem InCharge.of_none (hEvent : eventOf scope keys ix = none) : InCharge scope keys ix := by
  constructor <;>
  · intro account hSome
    rw [hEvent] at hSome
    cases hSome

/-! ### One transaction -/

/-- The token program is none of those that are looked for before it. -/
def TokenApart (scope : BundleScope) : Prop :=
  scope.tokenProgram ≠ systemProgram ∧ scope.tokenProgram ≠ zkElgamalProofProgram ∧
    scope.tokenProgram ≠ scope.recordProgram.id ∧ scope.tokenProgram ≠ computeBudgetProgram

instance : Decidable (TokenApart scope) := by
  unfold TokenApart
  infer_instance

/-- How many of the instructions are of the token program. -/
def tokenInstructions (scope : BundleScope) (keys : List Pubkey) (ixs : List CompiledInstruction) :
    List CompiledInstruction :=
  ixs.filter fun ix => programOf keys ix = some scope.tokenProgram

/-- What the scan of a transaction has found. -/
structure Scanned (scope : BundleScope) (keys : List Pubkey) (ixs : List CompiledInstruction)
    (scan : BundleTxScan) : Prop where
  allowed : ∀ ix ∈ ixs, IsAllowed scope keys ix
  inCharge : ∀ ix ∈ ixs, InCharge scope keys ix
  transfers : TokenApart scope → ∀ ix ∈ tokenInstructions scope keys ixs, IsTransfer scope keys ix
  count : scan.transferCount =
    if TokenApart scope then (tokenInstructions scope keys ixs).length else 0
  created : ∀ account ∈ scan.createdAccounts, ∃ ix ∈ ixs,
    eventOf scope keys ix = some (.creation, account)
  named : ∀ account ∈ scan.transferAccounts, ∃ ix ∈ ixs,
    IsTransfer scope keys ix ∧ account ∈ namedKeys keys ix

variable {ixs : List CompiledInstruction} {scan next : BundleTxScan}

theorem tokenInstructions_append {later : List CompiledInstruction} :
    tokenInstructions scope keys (ixs ++ later) =
      tokenInstructions scope keys ixs ++ tokenInstructions scope keys later := by
  simp only [tokenInstructions, List.filter_append]

theorem tokenInstructions_other (hToken : programOf keys ix ≠ some scope.tokenProgram) :
    tokenInstructions scope keys [ix] = [] := by
  simp [tokenInstructions, hToken]

theorem Scanned.other (hScanned : Scanned scope keys ixs scan) (hAllowed : IsAllowed scope keys ix)
    (hInCharge : InCharge scope keys ix)
    (hToken : TokenApart scope → programOf keys ix ≠ some scope.tokenProgram)
    (hCount : next.transferCount = scan.transferCount)
    (hNamed : next.transferAccounts = scan.transferAccounts)
    (hCreated : ∀ account ∈ next.createdAccounts,
      account ∈ scan.createdAccounts ∨ eventOf scope keys ix = some (.creation, account)) :
    Scanned scope keys (ixs ++ [ix]) next := by
  have hSame : TokenApart scope →
      tokenInstructions scope keys (ixs ++ [ix]) = tokenInstructions scope keys ixs := by
    intro hApart
    rw [tokenInstructions_append, tokenInstructions_other (hToken hApart), List.append_nil]
  constructor
  case allowed =>
    intro other hOther
    rcases List.mem_append.mp hOther with hOther | hOther
    · exact hScanned.allowed _ hOther
    · rw [List.mem_singleton.mp hOther]
      exact hAllowed
  case inCharge =>
    intro other hOther
    rcases List.mem_append.mp hOther with hOther | hOther
    · exact hScanned.inCharge _ hOther
    · rw [List.mem_singleton.mp hOther]
      exact hInCharge
  case transfers =>
    intro hApart
    rw [hSame hApart]
    exact hScanned.transfers hApart
  case count =>
    rw [hCount, hScanned.count]
    split
    next hApart => rw [hSame hApart]
    next => rfl
  case created =>
    intro account hAccount
    rcases hCreated account hAccount with hKnown | hNew
    · rcases hScanned.created _ hKnown with ⟨creation, hMember, hEvent⟩
      exact ⟨creation, List.mem_append_left _ hMember, hEvent⟩
    · exact ⟨ix, List.mem_append_right _ List.mem_cons_self, hNew⟩
  case named =>
    intro account hAccount
    rw [hNamed] at hAccount
    rcases hScanned.named _ hAccount with ⟨transfer, hMember, hTransfer⟩
    exact ⟨transfer, List.mem_append_left _ hMember, hTransfer⟩

theorem Scanned.transfer (hScanned : Scanned scope keys ixs scan)
    (hTransfer : IsTransfer scope keys ix) (hApart : TokenApart scope) :
    Scanned scope keys (ixs ++ [ix])
      { scan with
        transferCount := scan.transferCount + 1
        transferAccounts := namedKeys keys ix ++ scan.transferAccounts } := by
  have hOne : tokenInstructions scope keys [ix] = [ix] := by
    simp [tokenInstructions, hTransfer.program]
  have hEvent : eventOf scope keys ix = none := by
    apply eventOf_eq_none <;> rw [hTransfer.program, ne_eq, Option.some.injEq]
    · exact hApart.1
    · exact hApart.2.1
    · exact hApart.2.2.1
  constructor
  case allowed =>
    intro other hOther
    rcases List.mem_append.mp hOther with hOther | hOther
    · exact hScanned.allowed _ hOther
    · rw [List.mem_singleton.mp hOther]
      exact Or.inr (Or.inr (Or.inr (Or.inr hTransfer)))
  case inCharge =>
    intro other hOther
    rcases List.mem_append.mp hOther with hOther | hOther
    · exact hScanned.inCharge _ hOther
    · rw [List.mem_singleton.mp hOther]
      exact InCharge.of_none hEvent
  case transfers =>
    intro _ other hOther
    rw [tokenInstructions_append, hOne] at hOther
    rcases List.mem_append.mp hOther with hOther | hOther
    · exact hScanned.transfers hApart _ hOther
    · rw [List.mem_singleton.mp hOther]
      exact hTransfer
  case count =>
    rw [tokenInstructions_append, hOne, if_pos hApart]
    simp [hScanned.count, if_pos hApart]
  case created =>
    intro account hAccount
    rcases hScanned.created _ hAccount with ⟨creation, hMember, hEvent⟩
    exact ⟨creation, List.mem_append_left _ hMember, hEvent⟩
  case named =>
    intro account hAccount
    rcases List.mem_append.mp hAccount with hHere | hEarlier
    · exact ⟨ix, List.mem_append_right _ List.mem_cons_self, hTransfer, hHere⟩
    · rcases hScanned.named _ hEarlier with ⟨transfer, hMember, hNamed⟩
      exact ⟨transfer, List.mem_append_left _ hMember, hNamed⟩

theorem Scanned.step (hScanned : Scanned scope keys ixs scan)
    (hStep : scanBundleInstruction scope keys scan ix = .ok next) :
    Scanned scope keys (ixs ++ [ix]) next := by
  simp only [scanBundleInstruction, bundleProgram, bind_eq_ok, okOr_eq_ok] at hStep
  rcases hStep with ⟨program, hProgram, hStep⟩
  have hProgramNe : ∀ other, program ≠ other → programOf keys ix ≠ some other := by
    intro other hOther
    simpa [hProgram] using hOther
  split at hStep
  next hSystem =>
    subst hSystem
    simp only [bind_eq_ok, pure, Except.pure, Except.ok.injEq] at hStep
    rcases hStep with ⟨⟨⟩, hCheck, rfl⟩
    refine hScanned.other (Or.inl (checkCreateAccount_eq_ok hProgram hCheck))
      (InCharge.of_creation hProgram) (fun hApart => hProgramNe _ hApart.1.symm) rfl rfl ?_
    intro account hAccount
    rcases List.mem_append.mp hAccount with hNew | hKnown
    · right
      rw [Option.mem_toList] at hNew
      simp [eventOf, hProgram, Option.mem_def.mp hNew]
    · exact Or.inl hKnown
  next hSystem =>
    split at hStep
    next hZk =>
      subst hZk
      simp only [bind_eq_ok, pure, Except.pure, Except.ok.injEq] at hStep
      rcases hStep with ⟨⟨⟩, hCheck, rfl⟩
      exact hScanned.other (Or.inr (Or.inl hProgram)) (checkZkInstruction_eq_ok hProgram hCheck)
        (fun hApart => hProgramNe _ hApart.2.1.symm) rfl rfl (fun account hKnown => Or.inl hKnown)
    next hZk =>
      split at hStep
      next hRecord =>
        subst hRecord
        simp only [bind_eq_ok, pure, Except.pure, Except.ok.injEq] at hStep
        rcases hStep with ⟨⟨⟩, hCheck, rfl⟩
        have hBoth := checkRecordInstruction_eq_ok (hProgramNe _ hSystem) (hProgramNe _ hZk)
          hProgram hCheck
        exact hScanned.other (Or.inr (Or.inr (Or.inl hBoth.1))) hBoth.2
          (fun hApart => hProgramNe _ hApart.2.2.1.symm) rfl rfl
          (fun account hKnown => Or.inl hKnown)
      next hRecord =>
        have hEvent : eventOf scope keys ix = none :=
          eventOf_eq_none (hProgramNe _ hSystem) (hProgramNe _ hZk) (hProgramNe _ hRecord)
        split at hStep
        next hBudget =>
          subst hBudget
          simp only [bind_eq_ok, pure, Except.pure, Except.ok.injEq] at hStep
          rcases hStep with ⟨⟨⟩, hCheck, rfl⟩
          exact hScanned.other
            (Or.inr (Or.inr (Or.inr (Or.inl (checkBudgetInstruction_eq_ok hProgram hCheck)))))
            (InCharge.of_none hEvent) (fun hApart => hProgramNe _ hApart.2.2.2.symm) rfl rfl
            (fun account hKnown => Or.inl hKnown)
        next hBudget =>
          split at hStep
          next hToken =>
            subst hToken
            simp only [bind_eq_ok, pure, Except.pure, Except.ok.injEq] at hStep
            rcases hStep with ⟨⟨⟩, hCheck, rfl⟩
            exact hScanned.transfer (checkTransfer_eq_ok hProgram hCheck)
              ⟨hSystem, hZk, hRecord, hBudget⟩
          next => cases hStep

theorem Scanned.start : Scanned scope keys [] ⟨0, [], []⟩ := by
  constructor <;> simp [tokenInstructions]

end

section

variable {scope : BundleScope} {scan : BundleTxScan} {signers : List Pubkey} {count : ℕ}

theorem countTransferSigners_zero (hCount : countTransferSigners scan signers = .ok 0) :
    ∀ key ∈ signers, key ∈ scan.createdAccounts := by
  induction signers with
  | nil => simp
  | cons signer signers hInduction =>
      rw [countTransferSigners] at hCount
      split at hCount
      next hCreated =>
        intro key hKey
        rcases List.mem_cons.mp hKey with rfl | hKey
        · exact hCreated
        · exact hInduction hCount key hKey
      next =>
        split at hCount
        next =>
          simp only [bind_eq_ok, pure, Except.pure, Except.ok.injEq] at hCount
          rcases hCount with ⟨rest, -, hRest⟩
          omega
        next => cases hCount

theorem countTransferSigners_le_one (hCount : countTransferSigners scan signers = .ok count)
    (hOne : count ≤ 1) : ∃ further : Option Pubkey, ∀ key ∈ signers,
      key ∈ scan.createdAccounts ∨ (further = some key ∧ key ∈ scan.transferAccounts) := by
  induction signers generalizing count with
  | nil => exact ⟨none, by simp⟩
  | cons signer signers hInduction =>
      rw [countTransferSigners] at hCount
      split at hCount
      next hCreated =>
        rcases hInduction hCount hOne with ⟨further, hFurther⟩
        refine ⟨further, ?_⟩
        intro key hKey
        rcases List.mem_cons.mp hKey with rfl | hKey
        · exact Or.inl hCreated
        · exact hFurther key hKey
      next =>
        split at hCount
        next hNamed =>
          simp only [bind_eq_ok, pure, Except.pure, Except.ok.injEq] at hCount
          rcases hCount with ⟨rest, hRest, hSum⟩
          obtain rfl : rest = 0 := by omega
          refine ⟨some signer, ?_⟩
          intro key hKey
          rcases List.mem_cons.mp hKey with rfl | hKey
          · exact Or.inr ⟨rfl, hNamed⟩
          · exact Or.inl (countTransferSigners_zero hRest key hKey)
        next => cases hCount

variable {tx : VersionedTransaction} {transfers : ℕ}

theorem verifyConfidentialBundleTx_eq_ok
    (hVerified : verifyConfidentialBundleTx scope tx = .ok transfers) :
    tx.message.staticAccountKeys.head? = some scope.gateway ∧
      ∃ scan, Scanned scope tx.message.staticAccountKeys tx.message.instructions scan ∧
        scan.transferCount = transfers ∧
        ∃ further : Option Pubkey, ∀ key ∈ (tx.message.staticAccountKeys.take
            tx.message.header.numRequiredSignatures.toNat).drop 1,
          key ∈ scan.createdAccounts ∨ (further = some key ∧ key ∈ scan.transferAccounts) := by
  simp only [verifyConfidentialBundleTx, bind_eq_ok, mapError_eq_ok, refuseIf_eq_ok, not_not, pure,
    Except.pure, Except.ok.injEq] at hVerified
  rcases hVerified with ⟨-, -, -, -, -, hGateway, scan, hScan, signers, hSigners, -, hOne, hCount⟩
  have hScanned := foldlM_history (Scanned scope tx.message.staticAccountKeys)
    (fun _ _ _ _ hHolds hStep => hHolds.step hStep) [] Scanned.start hScan
  exact ⟨hGateway, scan, hScanned, hCount, countTransferSigners_le_one hSigners (by omega)⟩

theorem requirePresigned_eq_ok (hSigned : requirePresigned scope tx = .ok ()) :
    (tx.signatures.length = tx.message.header.numRequiredSignatures.toNat ∧
      tx.signatures.length ≤ tx.message.staticAccountKeys.length) ∧
    ∀ slot index, (tx.signatures.zip tx.message.staticAccountKeys)[index]? = some slot →
      if slot.2 = scope.gateway then index = 0 ∧ slot.1 = Signature.default
      else scope.verifySignature tx.message slot.2 slot.1 = true := by
  simp only [requirePresigned, bind_eq_ok, refuseIf_eq_ok, not_or, not_not, not_lt] at hSigned
  rcases hSigned with ⟨-, hLengths, hSlots⟩
  refine ⟨⟨hLengths.1, by omega⟩, ?_⟩
  intro slot index hSlot
  have hMember : (slot, index) ∈ (tx.signatures.zip tx.message.staticAccountKeys).zipIdx :=
    List.mem_zipIdx_iff_getElem?.mpr hSlot
  have hCheck := forM_eq_ok hSlots _ hMember
  simp only [checkSlot] at hCheck
  split
  next hGateway =>
    simp only [hGateway, if_true, refuseIf_eq_ok, not_or, not_not] at hCheck
    exact hCheck
  next hGateway =>
    simp only [hGateway, if_false, refuseIf_eq_ok, Bool.not_eq_false] at hCheck
    exact hCheck

/-- One transaction that is admitted. -/
structure Admitted (scope : BundleScope) (tx : VersionedTransaction) : Prop where
  signers : SponsoredSigners scope tx
  allowed : ∀ ix ∈ tx.message.instructions, IsAllowed scope tx.message.staticAccountKeys ix
  inCharge : ∀ ix ∈ tx.message.instructions, InCharge scope tx.message.staticAccountKeys ix
  transfers : TokenApart scope → ∀ ix ∈
    tokenInstructions scope tx.message.staticAccountKeys tx.message.instructions,
    IsTransfer scope tx.message.staticAccountKeys ix

theorem mem_take_of_head {keys : List Pubkey} {required : ℕ} {key first : Pubkey}
    (hFirst : keys.head? = some first) (hKey : key ∈ keys.take required) :
    key = first ∨ key ∈ (keys.take required).drop 1 := by
  cases keys with
  | nil => simp at hFirst
  | cons head keys =>
      simp only [List.head?_cons, Option.some.injEq] at hFirst
      subst hFirst
      cases required with
      | zero => simp at hKey
      | succ required => simpa using hKey

theorem admitTransaction_eq_ok {before after : TransferScan} {index : ℕ}
    (hAdmitted : admitTransaction scope before (tx, index) = .ok after) :
    Admitted scope tx ∧
      ∃ transfers, transfers =
          (if TokenApart scope then (tokenInstructions scope tx.message.staticAccountKeys
            tx.message.instructions).length else 0) ∧
        after = ⟨before.count + transfers, if 0 < transfers then some index else before.tx⟩ := by
  simp only [admitTransaction, bind_eq_ok, mapError_eq_ok, refuseIf_eq_ok, pure, Except.pure,
    Except.ok.injEq] at hAdmitted
  rcases hAdmitted with ⟨transfers, hVerified, ⟨⟩, hSigned, -, -, rfl⟩
  rcases verifyConfidentialBundleTx_eq_ok hVerified with
    ⟨hGateway, scan, hScanned, hCount, further, hFurther⟩
  rcases requirePresigned_eq_ok hSigned with ⟨hSlots, hSignatures⟩
  refine ⟨⟨⟨hGateway, ⟨further, ?_⟩, hSlots, hSignatures⟩, hScanned.allowed, hScanned.inCharge,
    hScanned.transfers⟩, transfers, by rw [← hCount, hScanned.count], rfl⟩
  intro key hKey
  rcases mem_take_of_head hGateway hKey with rfl | hKey
  · exact Or.inl rfl
  · rcases hFurther key hKey with hCreated | ⟨hIs, hNamed⟩
    · exact Or.inr (Or.inl (hScanned.created _ hCreated))
    · exact Or.inr (Or.inr ⟨hIs, hScanned.named _ hNamed⟩)

end

/-! ### The bundle -/

/-- The instructions of the token program in a bundle. -/
def tokenSteps (scope : BundleScope) (transactions : List (VersionedTransaction × ℕ)) :
    List BundleStep :=
  (bundleSteps transactions).filter fun step =>
    programOf step.keys step.ix = some scope.tokenProgram

section

variable {scope : BundleScope} {transactions : List (VersionedTransaction × ℕ)}
  {scan next : TransferScan} {tx : VersionedTransaction × ℕ}

theorem tokenSteps_singleton : tokenSteps scope [tx] =
    (tokenInstructions scope tx.1.message.staticAccountKeys tx.1.message.instructions).map
      (⟨tx.2, tx.1.message.staticAccountKeys, ·⟩) := by
  rw [tokenSteps, bundleSteps, List.flatMap_singleton, List.filter_map, tokenInstructions]
  rfl

/-- What the first pass has found: how many instructions of the token program there are, and the
transaction of the last one. -/
structure Counted (scope : BundleScope) (transactions : List (VersionedTransaction × ℕ))
    (scan : TransferScan) : Prop where
  admitted : ∀ tx ∈ transactions, Admitted scope tx.1
  count : scan.count = if TokenApart scope then (tokenSteps scope transactions).length else 0
  last : TokenApart scope → scan.tx = (tokenSteps scope transactions).getLast?.map (·.txIndex)

theorem Counted.step (hCounted : Counted scope transactions scan)
    (hStep : admitTransaction scope scan tx = .ok next) :
    Counted scope (transactions ++ [tx]) next := by
  rcases admitTransaction_eq_ok hStep with ⟨hAdmitted, transfers, hTransfers, rfl⟩
  have hAppend : tokenSteps scope (transactions ++ [tx]) =
      tokenSteps scope transactions ++ tokenSteps scope [tx] := by
    simp only [tokenSteps, bundleSteps_append, List.filter_append]
  constructor
  case admitted =>
    intro other hOther
    rcases List.mem_append.mp hOther with hOther | hOther
    · exact hCounted.admitted _ hOther
    · rw [List.mem_singleton.mp hOther]
      exact hAdmitted
  case count =>
    rw [hTransfers, hCounted.count, hAppend, tokenSteps_singleton]
    split
    next => simp
    next => rfl
  case last =>
    intro hApart
    rw [if_pos hApart] at hTransfers
    rw [hAppend, tokenSteps_singleton, hTransfers, hCounted.last hApart]
    cases hToken : tokenInstructions scope tx.1.message.staticAccountKeys tx.1.message.instructions with
    | nil => simp
    | cons ix ixs => simp [List.getLast?_append, List.getLast?_cons]

theorem mem_bundleSteps {step : BundleStep} (hStep : step ∈ bundleSteps transactions) :
    ∃ tx ∈ transactions, step.txIndex = tx.2 ∧ step.keys = tx.1.message.staticAccountKeys ∧
      step.ix ∈ tx.1.message.instructions := by
  simp only [bundleSteps, List.mem_flatMap, List.mem_map] at hStep
  rcases hStep with ⟨tx, hTx, ix, hIx, rfl⟩
  exact ⟨tx, hTx, rfl, rfl, hIx⟩

theorem forall_bundleSteps {Holds : List Pubkey → CompiledInstruction → Prop}
    (hHolds : ∀ tx ∈ transactions, ∀ ix ∈ tx.1.message.instructions,
      Holds tx.1.message.staticAccountKeys ix) :
    ∀ step ∈ bundleSteps transactions, Holds step.keys step.ix := by
  intro step hStep
  rcases mem_bundleSteps hStep with ⟨tx, hTx, -, hKeys, hIx⟩
  rw [hKeys]
  exact hHolds tx hTx _ hIx

end

section

variable {scope : BundleScope} {transactions : List VersionedTransaction}

theorem Counted.transfer {scan : TransferScan}
    (hCounted : Counted scope transactions.zipIdx scan) (hOne : scan.count = 1)
    (hLast : scan.tx = some (transactions.length - 1)) :
    ∃ step, tokenSteps scope transactions.zipIdx = [step] ∧
      step.txIndex = transactions.length - 1 ∧ IsTransfer scope step.keys step.ix := by
  have hCount := hCounted.count
  rw [hOne] at hCount
  have hApart : TokenApart scope := by
    by_contra hNot
    rw [if_neg hNot] at hCount
    omega
  rw [if_pos hApart] at hCount
  rcases List.length_eq_one_iff.mp hCount.symm with ⟨step, hStep⟩
  refine ⟨step, hStep, ?_, ?_⟩
  · have hTx := hCounted.last hApart
    rw [hLast, hStep] at hTx
    simpa using hTx.symm
  · have hMember : step ∈ tokenSteps scope transactions.zipIdx := by
      rw [hStep]
      exact List.mem_cons_self
    rw [tokenSteps, List.mem_filter, decide_eq_true_eq] at hMember
    rcases mem_bundleSteps hMember.1 with ⟨tx, hTx, -, hKeys, hIx⟩
    have hAdmitted := hCounted.admitted tx hTx
    rw [hKeys] at hMember ⊢
    apply hAdmitted.transfers hApart
    exact List.mem_filter.mpr ⟨hIx, decide_eq_true hMember.2⟩

/-- A bundle that passes the first pass: who signs, what the instructions are, and that each
temporary account is initialized where it is created and comes back to the gateway in the
last transaction, which is the one with the transfer. -/
theorem verifyBundle_sponsored {accounts : List BundleAccount}
    (hVerified : verifyBundle scope transactions = .ok accounts) :
    SponsoredBundle scope transactions := by
  simp only [verifyBundle, bind_eq_ok, refuseIf_eq_ok, not_not] at hVerified
  rcases hVerified with ⟨scan, hScan, -, hOne, -, hLast, hLifecycle⟩
  have hStart : Counted scope [] ⟨0, none⟩ := by
    constructor <;> simp [tokenSteps, bundleSteps]
  have hCounted := foldlM_history (Counted scope)
    (fun _ _ _ _ hHolds hStep => hHolds.step hStep) [] hStart hScan
  rw [List.nil_append] at hCounted
  rcases verifyConfidentialAccountLifecycle_follows hLifecycle with ⟨state, hFollows, hDone⟩
  constructor
  case signers =>
    intro tx hTx
    rcases List.getElem?_of_mem hTx with ⟨index, hIndex⟩
    exact (hCounted.admitted (tx, index) (List.mem_zipIdx_iff_getElem?.mpr hIndex)).signers
  case allowed => exact forall_bundleSteps fun tx hTx => (hCounted.admitted tx hTx).allowed
  case inCharge => exact forall_bundleSteps fun tx hTx => (hCounted.admitted tx hTx).inCharge
  case transfer => exact hCounted.transfer hOne hLast
  case distinct =>
    rw [← hFollows.accounts]
    exact hFollows.distinct
  case gateway =>
    rw [← hFollows.accounts]
    exact hFollows.gateway
  case count =>
    rw [← hFollows.accounts, List.length_map]
    exact hFollows.count
  case together =>
    rw [hFollows.lamports]
    exact hFollows.capped
  case lifecycle =>
    intro account hAccount
    rw [← hFollows.accounts, ← lookup_isSome_iff_mem, Option.isSome_iff_exists] at hAccount
    rcases hAccount with ⟨found, hFound⟩
    rcases hDone account found hFound with ⟨hInitialized, hClosed⟩
    refine ⟨found.createdIn, hFollows.creations _ _ hFound, ?_, ?_⟩
    · rw [hFollows.initializations _ _ hFound, if_pos hInitialized]
    · rw [hFollows.closes _ _ hFound, if_pos hClosed]
  case others =>
    intro account hAccount event
    rw [← hFollows.accounts, ← lookup_isSome_iff_mem, Bool.not_eq_true,
      Option.isSome_eq_false_iff, Option.isNone_iff_eq_none] at hAccount
    exact hFollows.untouched account hAccount event

end

/-! ### A bundle of two transactions -/

def sampleGateway : Pubkey := .numbered 1

def sampleRecord : Pubkey where
  bytes := [237, 73, 40, 198, 40, 209, 194, 198, 234, 233, 3, 56, 144, 89, 149, 97, 41, 89, 39, 58,
    92, 99, 249, 54, 54, 193, 70, 20, 172, 135, 55, 209]
  length_bytes := rfl

def samplePayer : Pubkey := .ofTwos

def sampleSource : Pubkey := .numbered 4
def sampleMint : Pubkey := .numbered 5
def sampleRecipientAta : Pubkey := .numbered 6
def sampleRecordProgram : Pubkey := .ofConst "recr1L3PCGKLbckBqMNcJhuuyU1zgo8nBhfLVsJNwr5"

/-- The record's Ed25519 signature of its creation. -/
def creationSignature : Signature where
  bytes := [115, 34, 216, 94, 139, 234, 159, 40, 3, 15, 148, 191, 128, 251, 236, 54, 218, 246, 124,
    90, 241, 81, 127, 195, 22, 103, 87, 13, 215, 190, 66, 226, 26, 37, 159, 151, 197, 128, 26, 152,
    240, 148, 199, 170, 32, 143, 6, 206, 240, 43, 110, 131, 18, 229, 235, 139, 22, 237, 12, 63, 8,
    59, 89, 13]
  length_bytes := rfl

/-- The payer's Ed25519 signature of the transfer. -/
def transferSignature : Signature where
  bytes := [216, 234, 215, 34, 183, 64, 243, 64, 231, 100, 155, 229, 0, 47, 153, 126, 213, 19, 105,
    81, 139, 72, 180, 11, 80, 58, 24, 209, 140, 14, 217, 68, 114, 156, 181, 82, 46, 116, 27, 121,
    93, 217, 235, 136, 219, 180, 105, 9, 185, 82, 198, 185, 159, 42, 225, 30, 27, 56, 55, 186, 219,
    83, 195, 4]
  length_bytes := rfl

/-- A record of 133 bytes is created and initialized. -/
def creationMessage : VersionedMessage :=
  .v0
    { header := ⟨2, 0, 2⟩
      accountKeys := [sampleGateway, sampleRecord, systemProgram, sampleRecordProgram]
      recentBlockhash := List.replicate 32 0
      instructions := [
        ⟨2, [0, 1], [0, 0, 0, 0] ++ [240, 183, 27, 0, 0, 0, 0, 0] ++ [133, 0, 0, 0, 0, 0, 0, 0] ++
          sampleRecordProgram.bytes⟩,
        ⟨3, [1, 0], [0]⟩] }
    []

/-- The transfer, and the record closed. -/
def transferMessage : VersionedMessage :=
  .v0
    { header := ⟨2, 1, 3⟩
      accountKeys := [sampleGateway, samplePayer, sampleRecord, sampleSource, sampleRecipientAta,
        sampleMint, token2022Program, sampleRecordProgram]
      recentBlockhash := List.replicate 32 0
      instructions := [⟨6, [3, 5, 4, 1], [27, 7]⟩, ⟨7, [2, 0, 0], [3]⟩] }
    []

def sampleBundle : List VersionedTransaction :=
  [⟨[Signature.default, creationSignature], creationMessage⟩,
    ⟨[Signature.default, transferSignature], transferMessage⟩]

def sampleBundleScope : BundleScope where
  gateway := sampleGateway
  tokenProgram := token2022Program
  recipientAta := sampleRecipientAta
  acceptedVersions := [.v0, .v1]
  recordProgram := ⟨sampleRecordProgram, 33⟩
  serializedSize tx := .ok (39 + 64 * tx.signatures.length +
    32 * tx.message.staticAccountKeys.length +
    (tx.message.instructions.map fun ix => 3 + ix.accounts.length + ix.data.length).sum)
  verifySignature message key signature :=
    (message = creationMessage ∧ key = sampleRecord ∧ signature = creationSignature) ∨
      (message = transferMessage ∧ key = samplePayer ∧ signature = transferSignature)

theorem verifyBundle_sponsored_of_sampleBundle :
    verifyBundle sampleBundleScope sampleBundle = .ok [⟨sampleRecord, .record, 0⟩] ∧
      SponsoredBundle sampleBundleScope sampleBundle := by
  have hVerified : verifyBundle sampleBundleScope sampleBundle =
      .ok [⟨sampleRecord, .record, 0⟩] := by
    decide +kernel
  exact ⟨hVerified, verifyBundle_sponsored hVerified⟩

end PayKit.Confidential
