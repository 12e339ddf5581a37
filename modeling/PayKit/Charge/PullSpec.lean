import PayKit.Charge.PullVerifier

/-!
# What the checks of a pull transaction establish

One lemma for each check of the verifier, saying what its success means for the
instruction or the transaction it looked at. The soundness of the whole verification
is put together from these.
-/

namespace PayKit.Charge

open Control Machine Matching Solana Tx

variable {keys : List Pubkey} {feePayer : Option Pubkey} {ix : CompiledInstruction}

/-! ### Accounts and parsed values -/

@[simp]
theorem programId_eq_ok {program : Pubkey} :
    programId keys ix = .ok program ↔ programOf keys ix = some program :=
  okOr_eq_ok

@[simp]
theorem accountKey_eq_ok {position : ℕ} {label : String} {key : Pubkey} :
    accountKey keys ix position label = .ok key ↔ accountAt keys ix position = some key :=
  okOr_eq_ok

theorem parseKey_eq_ok {text : String} {refusal : String → VerificationError} {key : Pubkey} :
    parseKey text refusal = .ok key ↔ Pubkey.fromStr text = .ok key := by
  simp only [parseKey]
  split <;> rename_i hKey <;> simp [hKey]

theorem parseSplitRecipient_eq_ok {split : Split} {key : Pubkey} :
    parseSplitRecipient split = .ok key ↔ Pubkey.fromStr split.recipient = .ok key :=
  parseKey_eq_ok

theorem parseSplitAmount_eq_ok {split : Split} {amount : ℕ} :
    parseSplitAmount split = .ok amount ↔ parseU64 split.amount = some amount :=
  okOr_eq_ok

theorem envelopeCheck_eq_ok {Result : Type} {check : Except String Result} {result : Result} :
    envelopeCheck check = .ok result ↔ check = .ok result := by
  cases check <;> simp [envelopeCheck, mapError_ok, mapError_error]

/-! ### Transfers -/

/-- The instruction is the System transfer of a leg, and not out of the sponsor's
pocket. -/
structure IsSolTransfer (keys : List Pubkey) (feePayer : Option Pubkey) (leg : Leg)
    (ix : CompiledInstruction) : Prop where
  program : programOf keys ix = some systemProgram
  length : ix.data.length = 12
  tag : fromLeBytes ix.data 0 4 = 2
  accounts : ix.accounts.length = 2
  source : ∃ source, accountAt keys ix 0 = some source ∧ feePayer ≠ some source
  destination : accountAt keys ix 1 = some leg.recipient
  amount : fromLeBytes ix.data 4 12 = leg.amount

theorem inspectSolTransfer_eq_true {leg : Leg}
    (hFits : inspectSolTransfer keys feePayer leg ix = .ok true) :
    IsSolTransfer keys feePayer leg ix := by
  simp only [inspectSolTransfer, bind_eq_ok, programId_eq_ok] at hFits
  rcases hFits with ⟨program, hProgram, hFits⟩
  split at hFits
  · cases hFits
  split at hFits
  · cases hFits
  split at hFits
  · cases hFits
  split at hFits
  · cases hFits
  rename_i hSystem hLength hTag hAccounts
  simp only [bind_eq_ok, accountKey_eq_ok] at hFits
  rcases hFits with ⟨source, hSource, destination, hDestination, hFits⟩
  split at hFits
  · rename_i hLeg
    simp only [refuseIf_bind_eq_ok] at hFits
    exact {
      program := by simpa [not_not.mp hSystem] using hProgram
      length := not_not.mp hLength
      tag := not_not.mp hTag
      accounts := not_not.mp hAccounts
      source := ⟨source, hSource, hFits.1⟩
      destination := by rw [hDestination, hLeg.1]
      amount := hLeg.2 }
  · cases hFits

/-- The instruction is the TransferChecked instruction of a leg, and not out of the
sponsor's pocket. -/
structure IsSplTransfer (associatedTokenAddress : Pubkey → Pubkey → Pubkey → Pubkey)
    (keys : List Pubkey) (expected : TokenTransfer) (feePayer : Option Pubkey) (leg : Leg)
    (program : Pubkey) (ix : CompiledInstruction) : Prop where
  calls : programOf keys ix = some program
  isToken : program = tokenProgram ∨ program = token2022Program
  expectedProgram : ∀ expectedProgram, expected.tokenProgram = some expectedProgram →
    program = expectedProgram
  tag : ix.data.head? = some 12
  length : ix.data.length = 10
  accounts : ix.accounts.length = 4
  amount : fromLeBytes ix.data 1 9 = leg.amount
  decimals : ∀ decimals, expected.decimals = some decimals → ix.data[9]? = some decimals
  source : ∃ source, accountAt keys ix 0 = some source ∧ ∀ sponsor, feePayer = some sponsor →
    source ≠ associatedTokenAddress sponsor program expected.mint
  mint : accountAt keys ix 1 = some expected.mint
  destination : accountAt keys ix 2 =
    some (associatedTokenAddress leg.recipient program expected.mint)
  authority : ∃ authority, accountAt keys ix 3 = some authority ∧ feePayer ≠ some authority

theorem inspectSplTransfer_eq_true
    {associatedTokenAddress : Pubkey → Pubkey → Pubkey → Pubkey} {expected : TokenTransfer}
    {leg : Leg}
    (hFits : inspectSplTransfer associatedTokenAddress keys expected feePayer leg ix = .ok true) :
    ∃ program, IsSplTransfer associatedTokenAddress keys expected feePayer leg program ix := by
  simp only [inspectSplTransfer, bind_eq_ok, programId_eq_ok] at hFits
  rcases hFits with ⟨program, hProgram, hFits⟩
  split at hFits
  · cases hFits
  split at hFits
  · cases hFits
  split at hFits
  · cases hFits
  split at hFits
  · cases hFits
  split at hFits
  · cases hFits
  split at hFits
  · cases hFits
  rename_i hToken hExpected hTag hShape hAmount hDecimals
  simp only [bind_eq_ok, accountKey_eq_ok] at hFits
  rcases hFits with ⟨source, hSource, destination, hDestination, mint, hMint, hFits⟩
  split at hFits
  · cases hFits
  rename_i hSameMint
  simp only [bind_eq_ok, refuseIf_eq_ok, exists_const, accountKey_eq_ok] at hFits
  rcases hFits with ⟨authority, hAuthority, hNotAuthority, hNotSource, hFits⟩
  have hMintEq : mint = expected.mint := not_not.mp hSameMint
  subst hMintEq
  refine ⟨program, ?_⟩
  exact {
    calls := hProgram
    isToken := by
      by_contra hNeither
      exact hToken (not_or.mp hNeither)
    expectedProgram := by
      intro expectedProgram hSome
      by_contra hNe
      exact hExpected (by simp [hSome, hNe])
    tag := not_not.mp hTag
    length := not_not.mp (not_or.mp hShape).1
    accounts := not_not.mp (not_or.mp hShape).2
    amount := not_not.mp hAmount
    decimals := by
      intro decimals hSome
      by_contra hNe
      exact hDecimals (by simp [hSome, hNe])
    source := by
      refine ⟨source, hSource, ?_⟩
      rintro sponsor hSponsor hSame
      exact hNotSource (by simp [hSponsor, hSame])
    mint := hMint
    destination := by
      have hSame : destination = associatedTokenAddress leg.recipient program expected.mint := by
        simpa [pure, Except.pure] using hFits
      rw [hDestination, hSame]
    authority := ⟨authority, hAuthority, hNotAuthority⟩ }

/-! ### Memos -/

/-- The instruction is the memo of a text. -/
structure IsMemo (keys : List Pubkey) (memo : String × String) (ix : CompiledInstruction) :
    Prop where
  program : programOf keys ix = some memoProgram
  accounts : ix.accounts = []
  data : ix.data = asBytes memo.2

theorem inspectMemo_eq_true {label memo : String}
    (hFits : inspectMemo keys memo ix = .ok true) : IsMemo keys (label, memo) ix := by
  simp only [inspectMemo, bind_eq_ok, programId_eq_ok] at hFits
  rcases hFits with ⟨program, hProgram, hFits⟩
  have hMemo : program = memoProgram ∧ ix.accounts = [] ∧ ix.data = asBytes memo := by
    simpa [pure, Except.pure] using hFits
  exact ⟨by rw [hProgram, hMemo.1], hMemo.2.1, hMemo.2.2⟩

/-! ### Searches -/

structure IsLegOf (split : Split) (leg : Leg) : Prop where
  recipient : Pubkey.fromStr split.recipient = .ok leg.recipient
  amount : parseU64 split.amount = some leg.amount

/-- When each search takes a position of its own, so do the searches for all splits. -/
theorem matchSplits_claims {verify : Leg → List ℕ → Except VerificationError (List ℕ)}
    {fits : Leg → CompiledInstruction → Prop} {items : List CompiledInstruction}
    (hVerify : ∀ leg used after, verify leg used = .ok after → Claims fits items used [leg] after)
    {splits : List Split} {used after : List ℕ}
    (hMatched : matchSplits verify splits used = .ok after) :
    ∃ legs, List.Forall₂ IsLegOf splits legs ∧ Claims fits items used legs after := by
  induction splits generalizing used with
  | nil =>
      cases hMatched
      exact ⟨[], .nil, .nil _⟩
  | cons split rest hInduction =>
      simp only [matchSplits, bind_eq_ok, parseSplitRecipient_eq_ok,
        parseSplitAmount_eq_ok] at hMatched
      rcases hMatched with ⟨recipient, hRecipient, amount, hAmount, taken, hTaken, hRest⟩
      rcases hInduction hRest with ⟨legs, hLegs, hClaims⟩
      refine ⟨⟨recipient, amount⟩ :: legs, .cons ⟨hRecipient, hAmount⟩ hLegs, ?_⟩
      cases hVerify _ _ _ hTaken with
      | cons hUnused hItem hFits hNil =>
          cases hNil
          exact .cons hUnused hItem hFits hClaims

theorem takeFirst_claims {Wanted : Type} {inspect : CompiledInstruction →
      Except VerificationError Bool} {missing : VerificationError} {items : List CompiledInstruction}
    {fits : Wanted → CompiledInstruction → Prop} {wanted : Wanted} {used after : List ℕ}
    (hInspect : ∀ ix, inspect ix = .ok true → fits wanted ix)
    (hTaken : takeFirst inspect missing items used = .ok after) :
    Claims fits items used [wanted] after := by
  rcases takeFirst_eq_ok hTaken with ⟨index, ix, hUnused, hItem, hFits, rfl⟩
  exact .cons hUnused hItem (hInspect ix hFits) (.nil _)

theorem verifyMemoInstructions_claims {tx : VersionedTransaction}
    {memos : List (String × String)} {used after : List ℕ}
    (hMatched : verifyMemoInstructions tx keys memos used = .ok after) :
    Claims (IsMemo keys) tx.message.instructions used memos after := by
  induction memos generalizing used with
  | nil =>
      cases hMatched
      exact .nil _
  | cons memo rest hInduction =>
      simp only [verifyMemoInstructions, bind_eq_ok] at hMatched
      rcases hMatched with ⟨-, -, taken, hTaken, hRest⟩
      have hFirst : Claims (IsMemo keys) tx.message.instructions used [memo] taken :=
        takeFirst_claims (fun ix hFits => inspectMemo_eq_true hFits) hTaken
      cases hFirst with
      | cons hUnused hItem hFits hNil =>
          cases hNil
          exact .cons hUnused hItem hFits (hInduction hRest)

/-! ### The other instructions -/

/-- The instruction creates, idempotently, the token account of an owner. -/
structure CreatesTokenAccount (associatedTokenAddress : Pubkey → Pubkey → Pubkey → Pubkey)
    (keys : List Pubkey) (payer mint owner : Pubkey) (expectedProgram : Option Pubkey)
    (ix : CompiledInstruction) : Prop where
  program : programOf keys ix = some ataProgram
  data : ix.data = [1]
  accounts : ix.accounts.length = 6
  payer : accountAt keys ix 0 = some payer
  account : ∃ token, accountAt keys ix 5 = some token ∧
    (token = tokenProgram ∨ token = token2022Program) ∧
    (∀ expected, expectedProgram = some expected → token = expected) ∧
    accountAt keys ix 1 = some (associatedTokenAddress owner token mint)
  owner : accountAt keys ix 2 = some owner
  mint : accountAt keys ix 3 = some mint
  system : accountAt keys ix 4 = some systemProgram

theorem eq_ofConst_of_display {text : String} {key : Pubkey}
    (hParses : (Pubkey.fromStr text).isOk) (hText : key.display = text) :
    key = Pubkey.ofConst text := by
  apply Pubkey.display_injective
  rw [hText, Pubkey.display_ofConst hParses]

theorem validateCreateAta_eq_ok
    {associatedTokenAddress : Pubkey → Pubkey → Pubkey → Pubkey} {expectedMint : Option Pubkey}
    {allowedOwners : List Pubkey} {expectedProgram : Option Pubkey} {payer owner : Pubkey}
    (hProgram : programOf keys ix = some ataProgram)
    (hValid : validateCreateAtaIdempotentInstruction associatedTokenAddress keys expectedMint
      allowedOwners expectedProgram payer ix = .ok owner) :
    owner ∈ allowedOwners ∧ ∃ mint, expectedMint = some mint ∧
      CreatesTokenAccount associatedTokenAddress keys payer mint owner expectedProgram ix := by
  cases expectedMint with
  | none => cases hValid
  | some mint =>
      simp only [validateCreateAtaIdempotentInstruction, bind_eq_ok, refuseIf_eq_ok, exists_const,
        accountKey_eq_ok] at hValid
      rcases hValid with ⟨hData, hAccounts, payer', hPayer, ata, hAta, owner', hOwner, mint',
        hMint, system, hSystem, token, hToken, hSamePayer, hSameMint, hAllowed, hSystemText,
        hTokenText, hExpected, hAddress, hResult⟩
      cases hResult
      have hPayerEq : payer' = payer := not_not.mp hSamePayer
      have hMintEq : mint' = mint := not_not.mp hSameMint
      subst hPayerEq hMintEq
      refine ⟨not_not.mp hAllowed, mint', rfl, ?_⟩
      exact {
        program := hProgram
        data := not_not.mp hData
        accounts := not_not.mp hAccounts
        payer := hPayer
        account := by
          refine ⟨token, hToken, ?_, ?_, by rw [hAta, not_not.mp hAddress]⟩
          · rcases not_and_or.mp hTokenText with hText | hText
            · exact .inl (eq_ofConst_of_display (by decide) (not_not.mp hText))
            · exact .inr (eq_ofConst_of_display (by decide) (not_not.mp hText))
          · intro expected hSome
            by_contra hNe
            exact hExpected (by simp [hSome, hNe])
        owner := hOwner
        mint := hMint
        system := by
          rw [hSystem, eq_ofConst_of_display (by decide) (not_not.mp hSystemText)]
          rfl }

/-- An instruction of the allow-list that no search took. -/
inductive IsOther (associatedTokenAddress : Pubkey → Pubkey → Pubkey → Pubkey)
    (keys : List Pubkey) (allowlist : Allowlist) (payer : Pubkey) (ix : CompiledInstruction) :
    Prop where
  | budget (hProgram : programOf keys ix = some computeBudgetProgram)
  | creation {mint owner : Pubkey} (hMint : allowlist.mint = some mint)
      (hOwner : owner ∈ allowlist.ataPolicy.allowedOwners)
      (hCreates : CreatesTokenAccount associatedTokenAddress keys payer mint owner
        allowlist.tokenProgram ix)

theorem validateInstruction_other
    {associatedTokenAddress : Pubkey → Pubkey → Pubkey → Pubkey} {matched : List ℕ}
    {allowlist : Allowlist} {payer : Pubkey} {index : ℕ} {created : Option Pubkey}
    (hUnmatched : index ∉ matched)
    (hValid : validateInstruction associatedTokenAddress keys matched allowlist payer index ix =
      .ok created) :
    IsOther associatedTokenAddress keys allowlist payer ix := by
  simp only [validateInstruction, bind_eq_ok, programId_eq_ok] at hValid
  rcases hValid with ⟨program, hProgram, hValid⟩
  split at hValid
  · rename_i hBudget
    exact .budget (by rw [hProgram, hBudget])
  split at hValid
  · simp [hUnmatched, refuseIf, bind, Except.bind] at hValid
  split at hValid
  · simp [hUnmatched, refuseIf, bind, Except.bind] at hValid
  split at hValid
  · simp [hUnmatched, refuseIf, bind, Except.bind] at hValid
  split at hValid
  · rename_i hAta
    simp only [bind_eq_ok] at hValid
    rcases hValid with ⟨owner, hOwner, -⟩
    rcases validateCreateAta_eq_ok (by rw [hProgram, hAta]) hOwner with
      ⟨hAllowed, mint, hMint, hCreates⟩
    exact .creation hMint hAllowed hCreates
  · cases hValid

theorem validateInstructions_each
    {associatedTokenAddress : Pubkey → Pubkey → Pubkey → Pubkey} {matched : List ℕ}
    {allowlist : Allowlist} {payer : Pubkey} {start : ℕ} {instructions : List CompiledInstruction}
    {created : List Pubkey}
    (hValid : validateInstructions associatedTokenAddress keys matched allowlist payer start
      instructions = .ok created) :
    ∀ index ix, instructions[index]? = some ix → ∃ owner,
      validateInstruction associatedTokenAddress keys matched allowlist payer (start + index) ix =
        .ok owner ∧ ∀ created' ∈ owner, created' ∈ created := by
  induction instructions generalizing start created with
  | nil => simp
  | cons first rest hInduction =>
      simp only [validateInstructions, bind_eq_ok] at hValid
      rcases hValid with ⟨owner, hOwner, owners, hOwners, hCreated⟩
      cases hCreated
      intro index ix hItem
      cases index with
      | zero =>
          simp only [List.getElem?_cons_zero, Option.some.injEq] at hItem
          subst hItem
          refine ⟨owner, hOwner, ?_⟩
          intro created' hMem
          exact List.mem_append_left _ (Option.mem_toList.mpr hMem)
      | succ index =>
          rw [List.getElem?_cons_succ] at hItem
          rcases hInduction hOwners index ix hItem with ⟨owner', hOwner', hMem'⟩
          have hPosition : start + (index + 1) = start + 1 + index := by omega
          refine ⟨owner', by rw [hPosition, hOwner'], ?_⟩
          intro created' hMem
          exact List.mem_append_right _ (hMem' created' hMem)

theorem validateInstructionAllowlist_others
    {associatedTokenAddress : Pubkey → Pubkey → Pubkey → Pubkey} {tx : VersionedTransaction}
    {matched : List ℕ} {allowlist : Allowlist}
    (hValid : validateInstructionAllowlist associatedTokenAddress tx keys matched allowlist =
      .ok ()) :
    ∃ txFeePayer, tx.message.staticAccountKeys.head? = some txFeePayer ∧
      ∀ ix ∈ unclaimed tx.message.instructions matched,
        IsOther associatedTokenAddress keys allowlist (allowlist.feePayer.getD txFeePayer) ix := by
  simp only [validateInstructionAllowlist] at hValid
  split at hValid
  · cases hValid
  · rename_i txFeePayer hPayer
    simp only [bind_eq_ok] at hValid
    rcases hValid with ⟨created, hCreated, -⟩
    refine ⟨txFeePayer, hPayer, ?_⟩
    intro ix hIx
    rcases mem_unclaimed hIx with ⟨index, hItem, hUnmatched⟩
    rcases validateInstructions_each hCreated index ix hItem with ⟨owner, hOwner, -⟩
    exact validateInstruction_other (by simpa using hUnmatched) hOwner

/-! ### Signers -/

theorem sharedAuthority_eq_ok {authorities : List Pubkey} {funder : Option Pubkey}
    (hShared : sharedAuthority authorities = .ok funder) :
    ∀ authority ∈ authorities, funder = some authority := by
  have hFold : ∀ {authorities : List Pubkey} {start funder : Option Pubkey},
      authorities.foldlM
        (fun funder authority => do
          refuseIf (funder.any (· ≠ authority))
            (VerificationError.invalidPayload
              "Payment transfers must share one funding authority")
          return some authority) start = .ok funder →
      (∀ authority, start = some authority → funder = some authority) ∧
        ∀ authority ∈ authorities, funder = some authority := by
    intro authorities
    induction authorities with
    | nil =>
        intro start funder hFold
        cases hFold
        simp
    | cons first rest hInduction =>
        intro start funder hFold
        rw [List.foldlM_cons, bind_eq_ok] at hFold
        rcases hFold with ⟨next, hNext, hFold⟩
        rw [refuseIf_bind_eq_ok] at hNext
        rcases hNext with ⟨hSame, hNext⟩
        cases hNext
        rcases hInduction hFold with ⟨hStart, hRest⟩
        have hFirst : funder = some first := hStart first rfl
        refine ⟨?_, ?_⟩
        · intro authority hSome
          simp only [hSome, Option.any_some, decide_eq_true_eq, not_not] at hSame
          rw [hFirst, hSame]
        · intro authority hMem
          rcases List.mem_cons.mp hMem with rfl | hMem
          · exact hFirst
          · exact hRest authority hMem
  exact (hFold hShared).2

theorem verifyRequiredSigners_eq_ok {tx : VersionedTransaction} {matched : List ℕ}
    (hSigners : verifyRequiredSigners tx keys matched = .ok ()) :
    ∃ funder : Option Pubkey,
      (∀ ix ∈ claimed tx.message.instructions matched, ∀ authority,
        transferAuthority keys ix = some authority → funder = some authority) ∧
      ∀ signer ∈ keys.take tx.message.header.numRequiredSignatures.toNat,
        keys.head? = some signer ∨ funder = some signer := by
  simp only [verifyRequiredSigners, bind_eq_ok, refuseIf_eq_ok] at hSigners
  rcases hSigners with ⟨funder, hShared, hAllowed⟩
  refine ⟨funder, ?_, ?_⟩
  · intro ix hIx authority hAuthority
    apply sharedAuthority_eq_ok hShared
    exact List.mem_filterMap.mpr ⟨ix, hIx, hAuthority⟩
  · intro signer hSigner
    by_contra hNeither
    rw [not_or] at hNeither
    apply hAllowed
    rw [List.any_eq_true]
    refine ⟨signer, hSigner, ?_⟩
    simp only [decide_eq_true_eq, List.mem_append, Option.mem_toList, not_or]
    exact hNeither

end PayKit.Charge
