import PayKit.Charge.PullSpec

/-!
# A pull transaction pays what the charge asks for

A transaction that passes the pull verifier moves the asset of the charge in exactly
the transfers the charge asks for, and does nothing else: whatever the order of its
instructions, however the splits repeat recipients and amounts, and whatever a
hostile client adds.

The transfers are read from the transaction by `transferOf`, which looks at the
program, the kind of the instruction and its amount, and ignores trailing data and
accounts: it misses no transfer that the verifier's stricter layouts skip.
-/

namespace PayKit.Charge

open Control Machine Matching Solana Tx

/-! ### What a transaction should do -/

/-- A transfer, as an instruction writes it. -/
structure Transfer where
  program : Pubkey
  source : Pubkey
  destination : Pubkey
  authority : Pubkey
  /-- The token's mint; none for native SOL. -/
  mint : Option Pubkey
  amount : ℕ

/-- The System transfer an instruction is. -/
def systemTransfer (keys : List Pubkey) (ix : CompiledInstruction) : Option Transfer :=
  if programOf keys ix = some systemProgram ∧ 12 ≤ ix.data.length ∧
      fromLeBytes ix.data 0 4 = 2 then do
    let source ← accountAt keys ix 0
    let destination ← accountAt keys ix 1
    some ⟨systemProgram, source, destination, source, none, fromLeBytes ix.data 4 12⟩
  else
    none

def isTokenProgram (program : Pubkey) : Bool :=
  program = tokenProgram ∨ program = token2022Program

/-- The TransferChecked instruction an instruction is. -/
def transferChecked (keys : List Pubkey) (ix : CompiledInstruction) : Option Transfer := do
  let program ← programOf keys ix
  if isTokenProgram program ∧ 10 ≤ ix.data.length ∧ ix.data.head? = some 12 then
    let source ← accountAt keys ix 0
    let mint ← accountAt keys ix 1
    let destination ← accountAt keys ix 2
    let authority ← accountAt keys ix 3
    some ⟨program, source, destination, authority, some mint, fromLeBytes ix.data 1 9⟩
  else
    none

/-- The transfer of the charge's asset that an instruction is. -/
def transferOf (native : Bool) (keys : List Pubkey) (ix : CompiledInstruction) :
    Option Transfer :=
  if native then systemTransfer keys ix else transferChecked keys ix

/-- What a charge owes: the primary transfer and one for each split, which together
are the charged amount. -/
structure Owes (request : ChargeRequest) (splits : List Split) (primary : Leg)
    (legs : List Leg) : Prop where
  recipient : ∃ text, request.recipient = some text ∧ Pubkey.fromStr text = .ok primary.recipient
  splits : List.Forall₂ IsLegOf splits legs
  amount : parseU64 request.amount = some (primary.amount + (legs.map Leg.amount).sum)

/-- The mint of the charge's asset. -/
def IsAsset (request : ChargeRequest) (details : MethodDetails) (mint : Option Pubkey) : Prop :=
  if isNativeSol request then mint = none
  else ∃ key, resolveExpectedMint request.currency details.network = .ok key ∧ mint = some key

/-- An owner whose token account the transaction may create: a split's recipient,
and on the sponsor's account only where the split requires it. -/
def MayCreate (details : MethodDetails) (owner : Pubkey) : Prop :=
  ∃ split ∈ details.splitList, Pubkey.fromStr split.recipient = .ok owner ∧
    (details.feeSponsored → split.ataCreationRequired = some true)

section

variable (associatedTokenAddress : Pubkey → Pubkey → Pubkey → Pubkey)

/-- Where an owner receives the asset, under the program of a transfer. -/
def receives (owner program : Pubkey) (mint : Option Pubkey) : Pubkey :=
  match mint with
  | none => owner
  | some mint => associatedTokenAddress owner program mint

structure Pays (mint : Option Pubkey) (leg : Leg) (transfer : Transfer) : Prop where
  amount : transfer.amount = leg.amount
  asset : transfer.mint = mint
  destination : transfer.destination =
    receives associatedTokenAddress leg.recipient transfer.program mint

/-- The instruction only sets the compute budget, or creates an allowed token account
that the fee payer pays for. -/
inductive IsSupporting (details : MethodDetails) (mint : Option Pubkey) (keys : List Pubkey)
    (ix : CompiledInstruction) : Prop where
  | budget (hProgram : programOf keys ix = some computeBudgetProgram)
  | creation {feePayer token owner : Pubkey} {expectedProgram : Option Pubkey}
      (hFeePayer : keys.head? = some feePayer) (hMint : mint = some token)
      (hOwner : MayCreate details owner)
      (hCreates : CreatesTokenAccount associatedTokenAddress keys feePayer token owner
        expectedProgram ix)

/-- The transaction pays the legs and does nothing else. -/
structure PaysExactly (tx : VersionedTransaction) (request : ChargeRequest)
    (details : MethodDetails) (mint : Option Pubkey) (legs : List Leg) : Prop where
  /-- The transfers are, in some order, one for each leg. -/
  transfers : ∃ transfers,
    (tx.message.instructions.filterMap
      (transferOf (isNativeSol request) tx.message.staticAccountKeys)).Perm transfers ∧
    List.Forall₂ (Pays associatedTokenAddress mint) legs transfers
  /-- The memos are, in some order, the expected ones. -/
  memos : ∃ memos,
    (tx.message.instructions.filter
      (programOf tx.message.staticAccountKeys · = some memoProgram)).Perm memos ∧
    List.Forall₂ (IsMemo tx.message.staticAccountKeys)
      (expectedMemos request.externalId details.splitList) memos
  others : ∀ ix ∈ tx.message.instructions,
    transferOf (isNativeSol request) tx.message.staticAccountKeys ix = none →
    programOf tx.message.staticAccountKeys ix ≠ some memoProgram →
    IsSupporting associatedTokenAddress details mint tx.message.staticAccountKeys ix
  /-- One authority funds the transfers, and only it and the fee payer sign. -/
  signers : ∃ authority : Option Pubkey,
    (∀ ix ∈ tx.message.instructions, ∀ transfer,
      transferOf (isNativeSol request) tx.message.staticAccountKeys ix = some transfer →
      authority = some transfer.authority) ∧
    ∀ signer ∈ tx.message.staticAccountKeys.take tx.message.header.numRequiredSignatures.toNat,
      tx.message.staticAccountKeys.head? = some signer ∨ authority = some signer
  /-- A sponsor pays no transfer. -/
  sponsor : details.feeSponsored → ∃ sponsor,
    tx.message.staticAccountKeys.head? = some sponsor ∧
    ∀ ix ∈ tx.message.instructions, ∀ transfer,
      transferOf (isNativeSol request) tx.message.staticAccountKeys ix = some transfer →
      transfer.authority ≠ sponsor ∧
      transfer.source ≠ receives associatedTokenAddress sponsor transfer.program mint

end

/-! ### Programs -/

theorem programs_ne_transfer {program : Pubkey}
    (hProgram : program = systemProgram ∨ program = tokenProgram ∨ program = token2022Program) :
    program ≠ memoProgram ∧ program ≠ computeBudgetProgram ∧ program ≠ ataProgram := by
  have hNodup := programs_nodup
  simp only [List.nodup_cons, List.mem_cons, List.not_mem_nil, or_false, not_or] at hNodup
  rcases hNodup with ⟨⟨-, hTokenAta, hTokenBudget, hTokenMemo, -⟩,
    ⟨hToken2022Ata, hToken2022Budget, hToken2022Memo, -⟩, ⟨-, -, hAtaSystem⟩,
    ⟨-, hBudgetSystem⟩, hMemoSystem, -⟩
  rcases hProgram with rfl | rfl | rfl
  · exact ⟨Ne.symm hMemoSystem, Ne.symm hBudgetSystem, Ne.symm hAtaSystem⟩
  · exact ⟨hTokenMemo, hTokenBudget, hTokenAta⟩
  · exact ⟨hToken2022Memo, hToken2022Budget, hToken2022Ata⟩

theorem memoProgram_ne :
    computeBudgetProgram ≠ memoProgram ∧ ataProgram ≠ memoProgram := by
  have hNodup := programs_nodup
  simp only [List.nodup_cons, List.mem_cons, List.not_mem_nil, or_false, not_or] at hNodup
  rcases hNodup with ⟨-, -, ⟨-, hAtaMemo, -⟩, ⟨hBudgetMemo, -⟩, -⟩
  exact ⟨hBudgetMemo, hAtaMemo⟩

theorem systemProgram_ne_token {program : Pubkey}
    (hProgram : program = tokenProgram ∨ program = token2022Program) :
    program ≠ systemProgram := by
  have hNodup := programs_nodup
  simp only [List.nodup_cons, List.mem_cons, List.not_mem_nil, or_false, not_or] at hNodup
  rcases hNodup with ⟨⟨-, -, -, -, hToken⟩, ⟨-, -, -, hToken2022⟩, -⟩
  rcases hProgram with rfl | rfl
  · exact hToken
  · exact hToken2022

variable {keys : List Pubkey} {ix : CompiledInstruction} {native : Bool}

theorem transferOf_program {transfer : Transfer}
    (hTransfer : transferOf native keys ix = some transfer) :
    ∃ program, programOf keys ix = some program ∧
      (program = systemProgram ∨ program = tokenProgram ∨ program = token2022Program) := by
  cases native with
  | true =>
      simp only [transferOf, if_true, systemTransfer] at hTransfer
      split at hTransfer
      · rename_i hSystem
        exact ⟨systemProgram, hSystem.1, .inl rfl⟩
      · cases hTransfer
  | false =>
      simp only [transferOf, Bool.false_eq_true, if_false, transferChecked, Option.bind_eq_bind,
        Option.bind_eq_some_iff] at hTransfer
      rcases hTransfer with ⟨program, hProgram, hTransfer⟩
      split at hTransfer
      · rename_i hToken
        exact ⟨program, hProgram, .inr (by simpa [isTokenProgram] using hToken.1)⟩
      · cases hTransfer

theorem transferOf_eq_none {program : Pubkey} (hProgram : programOf keys ix = some program)
    (hOther : program = memoProgram ∨ program = computeBudgetProgram ∨ program = ataProgram) :
    transferOf native keys ix = none := by
  by_contra hSome
  rcases Option.ne_none_iff_exists'.mp hSome with ⟨transfer, hTransfer⟩
  rcases transferOf_program hTransfer with ⟨program', hProgram', hKind⟩
  have hSame : program' = program := by
    rw [hProgram] at hProgram'
    exact (Option.some.inj hProgram').symm
  subst hSame
  rcases programs_ne_transfer hKind with ⟨hMemo, hBudget, hAta⟩
  rcases hOther with rfl | rfl | rfl
  · exact hMemo rfl
  · exact hBudget rfl
  · exact hAta rfl

/-! ### What an accepted search found -/

section

variable {associatedTokenAddress : Pubkey → Pubkey → Pubkey → Pubkey}
  {feePayer : Option Pubkey} {leg : Leg}

/-- The instruction is a transfer that pays a leg from the pocket of its authority,
which is not the sponsor's. -/
structure Funds (associatedTokenAddress : Pubkey → Pubkey → Pubkey → Pubkey) (native : Bool)
    (keys : List Pubkey) (feePayer mint : Option Pubkey) (leg : Leg) (ix : CompiledInstruction)
    (transfer : Transfer) : Prop where
  isTransfer : transferOf native keys ix = some transfer
  pays : Pays associatedTokenAddress mint leg transfer
  authority : transferAuthority keys ix = some transfer.authority
  sponsor : ∀ sponsor, feePayer = some sponsor → transfer.authority ≠ sponsor ∧
    transfer.source ≠ receives associatedTokenAddress sponsor transfer.program mint

theorem IsSolTransfer.funds (hSol : IsSolTransfer keys feePayer leg ix) :
    ∃ transfer, Funds associatedTokenAddress true keys feePayer none leg ix transfer := by
  rcases hSol.source with ⟨source, hSource, hSponsor⟩
  refine ⟨⟨systemProgram, source, leg.recipient, source, none, leg.amount⟩, ?_⟩
  exact {
    isTransfer := by
      have hLength : 12 ≤ ix.data.length := hSol.length.ge
      simp [transferOf, systemTransfer, hSol.program, hLength, hSol.tag, hSource,
        hSol.destination, hSol.amount]
    pays := ⟨rfl, rfl, rfl⟩
    authority := by simp [transferAuthority, hSol.program, hSource]
    sponsor := by
      intro sponsor hSome
      have hNe : source ≠ sponsor := by
        rintro rfl
        exact hSponsor hSome
      exact ⟨hNe, hNe⟩ }

theorem IsSplTransfer.funds {expected : TokenTransfer} {program : Pubkey}
    (hSpl : IsSplTransfer associatedTokenAddress keys expected feePayer leg program ix) :
    ∃ transfer, Funds associatedTokenAddress false keys feePayer (some expected.mint) leg ix
      transfer := by
  rcases hSpl.source with ⟨source, hSource, hNotSource⟩
  rcases hSpl.authority with ⟨authority, hAuthority, hNotAuthority⟩
  refine ⟨⟨program, source, associatedTokenAddress leg.recipient program expected.mint, authority,
    some expected.mint, leg.amount⟩, ?_⟩
  exact {
    isTransfer := by
      have hLength : 10 ≤ ix.data.length := hSpl.length.ge
      have hToken : isTokenProgram program = true := by simpa [isTokenProgram] using hSpl.isToken
      simp [transferOf, transferChecked, hSpl.calls, hToken, hLength, hSpl.tag, hSource,
        hSpl.mint, hSpl.destination, hAuthority, hSpl.amount]
    pays := ⟨rfl, rfl, rfl⟩
    authority := by
      have hNotSystem : program ≠ systemProgram := systemProgram_ne_token hSpl.isToken
      simp [transferAuthority, hSpl.calls, hNotSystem, hSpl.isToken, hAuthority]
    sponsor := by
      intro sponsor hSome
      refine ⟨?_, hNotSource sponsor hSome⟩
      rintro rfl
      exact hNotAuthority hSome }

theorem exists_transfers {mint : Option Pubkey} {legs : List Leg}
    {instructions : List CompiledInstruction}
    (hFunds : List.Forall₂ (fun leg ix => ∃ transfer,
      Funds associatedTokenAddress native keys feePayer mint leg ix transfer) legs instructions) :
    List.Forall₂ (Pays associatedTokenAddress mint) legs
      (instructions.filterMap (transferOf native keys)) := by
  induction hFunds with
  | nil => exact .nil
  | cons hHead hTail hInduction =>
      rcases hHead with ⟨transfer, hTransfer⟩
      rw [List.filterMap_cons_some hTransfer.isTransfer]
      exact .cons hTransfer.pays hInduction

/-- What the two searches, the allow-list and the signer check leave of a
transaction. -/
def Checked (associatedTokenAddress : Pubkey → Pubkey → Pubkey → Pubkey)
    (tx : VersionedTransaction) (fits : Leg → CompiledInstruction → Prop) (legs : List Leg)
    (memos : List (String × String)) (allowlist : Allowlist) : Prop :=
  ∃ transfers matched,
    Claims fits tx.message.instructions [] legs transfers ∧
    Claims (IsMemo tx.message.staticAccountKeys) tx.message.instructions transfers memos
      matched ∧
    validateInstructionAllowlist associatedTokenAddress tx tx.message.staticAccountKeys matched
      allowlist = .ok () ∧
    verifyRequiredSigners tx tx.message.staticAccountKeys matched = .ok ()

theorem checked_partition {tx : VersionedTransaction} {fits : Leg → CompiledInstruction → Prop}
    {legs : List Leg} {memos : List (String × String)} {allowlist : Allowlist}
    (hChecked : Checked associatedTokenAddress tx fits legs memos allowlist) :
    ∃ (transfers texts others : List CompiledInstruction) (txFeePayer : Pubkey)
      (funder : Option Pubkey),
      tx.message.instructions.Perm (transfers ++ texts ++ others) ∧
      List.Forall₂ fits legs transfers ∧
      List.Forall₂ (IsMemo tx.message.staticAccountKeys) memos texts ∧
      tx.message.staticAccountKeys.head? = some txFeePayer ∧
      (∀ ix ∈ others, IsOther associatedTokenAddress tx.message.staticAccountKeys allowlist
        (allowlist.feePayer.getD txFeePayer) ix) ∧
      (∀ ix ∈ transfers, ∀ authority,
        transferAuthority tx.message.staticAccountKeys ix = some authority →
        funder = some authority) ∧
      ∀ signer ∈ tx.message.staticAccountKeys.take tx.message.header.numRequiredSignatures.toNat,
        tx.message.staticAccountKeys.head? = some signer ∨ funder = some signer := by
  rcases hChecked with ⟨taken, matched, hTransfers, hMemos, hAllowed, hSigners⟩
  rcases hTransfers.exists_indexes with ⟨transferIndexes, hTaken, hLegs, hTakenNodup⟩
  rcases hMemos.exists_indexes with ⟨memoIndexes, hMatched, hTexts, hMatchedNodup⟩
  rcases validateInstructionAllowlist_others hAllowed with ⟨txFeePayer, hHead, hOthers⟩
  rcases verifyRequiredSigners_eq_ok hSigners with ⟨funder, hFunder, hSigned⟩
  have hNodup : matched.Nodup := hMatchedNodup (hTakenNodup List.nodup_nil)
  have hSplit : claimed tx.message.instructions matched =
      claimed tx.message.instructions transferIndexes ++
        claimed tx.message.instructions memoIndexes := by
    rw [hMatched, hTaken, List.nil_append, claimed_append]
  refine ⟨claimed tx.message.instructions transferIndexes,
    claimed tx.message.instructions memoIndexes, unclaimed tx.message.instructions matched,
    txFeePayer, funder, ?_, forall₂_claimed hLegs, forall₂_claimed hTexts, hHead, hOthers, ?_,
    hSigned⟩
  · rw [← hSplit]
    exact Matching.partition tx.message.instructions hNodup
  · intro ix hIx
    apply hFunder
    rw [hSplit]
    exact List.mem_append_left _ hIx

/-- The sponsor of a charge is the transaction's fee payer. -/
structure IsSponsor (tx : VersionedTransaction) (details : MethodDetails)
    (feePayer : Option Pubkey) : Prop where
  sponsored : details.feeSponsored → feePayer ≠ none
  feePays : ∀ sponsor, feePayer = some sponsor →
    tx.message.staticAccountKeys.head? = some sponsor

theorem IsOther.supporting {details : MethodDetails} {mint : Option Pubkey}
    {allowlist : Allowlist} {payer : Pubkey}
    (hOther : IsOther associatedTokenAddress keys allowlist payer ix)
    (hPayer : keys.head? = some payer) (hMint : allowlist.mint = mint)
    (hOwners : ∀ owner ∈ allowlist.ataPolicy.allowedOwners, MayCreate details owner) :
    IsSupporting associatedTokenAddress details mint keys ix := by
  cases hOther with
  | budget hProgram => exact .budget hProgram
  | creation hToken hOwner hCreates =>
      exact .creation hPayer (hMint.symm.trans hToken) (hOwners _ hOwner) hCreates

theorem transferOf_memo {memo : String × String} (hMemo : IsMemo keys memo ix) :
    transferOf native keys ix = none :=
  transferOf_eq_none hMemo.program (.inl rfl)

theorem transferOf_other {allowlist : Allowlist} {payer : Pubkey}
    (hOther : IsOther associatedTokenAddress keys allowlist payer ix) :
    transferOf native keys ix = none := by
  cases hOther with
  | budget hProgram => exact transferOf_eq_none hProgram (.inr (.inl rfl))
  | creation _ _ hCreates => exact transferOf_eq_none hCreates.program (.inr (.inr rfl))

theorem memoProgram_other {allowlist : Allowlist} {payer : Pubkey}
    (hOther : IsOther associatedTokenAddress keys allowlist payer ix) :
    programOf keys ix ≠ some memoProgram := by
  intro hMemo
  cases hOther with
  | budget hProgram => exact memoProgram_ne.1 (Option.some.inj (hProgram.symm.trans hMemo))
  | creation _ _ hCreates =>
      exact memoProgram_ne.2 (Option.some.inj (hCreates.program.symm.trans hMemo))

theorem exists_fits_of_mem {Wanted : Type} {fits : Wanted → CompiledInstruction → Prop}
    {wanted : List Wanted} {instructions : List CompiledInstruction}
    (hFits : List.Forall₂ fits wanted instructions) (hMem : ix ∈ instructions) :
    ∃ one, fits one ix := by
  induction hFits with
  | nil => cases hMem
  | cons hHead hTail hInduction =>
      rcases List.mem_cons.mp hMem with rfl | hMem
      · exact ⟨_, hHead⟩
      · exact hInduction hMem

theorem paysExactly_of_checked {tx : VersionedTransaction} {request : ChargeRequest}
    {details : MethodDetails} {mint : Option Pubkey} {legs : List Leg} {allowlist : Allowlist}
    {fits : Leg → CompiledInstruction → Prop}
    (hFits : ∀ leg ix, fits leg ix → ∃ transfer, Funds associatedTokenAddress
      (isNativeSol request) tx.message.staticAccountKeys feePayer mint leg ix transfer)
    (hChecked : Checked associatedTokenAddress tx fits legs
      (expectedMemos request.externalId details.splitList) allowlist)
    (hSponsor : IsSponsor tx details feePayer) (hFeePayer : allowlist.feePayer = feePayer)
    (hMint : allowlist.mint = mint)
    (hOwners : ∀ owner ∈ allowlist.ataPolicy.allowedOwners, MayCreate details owner) :
    PaysExactly associatedTokenAddress tx request details mint legs := by
  rcases checked_partition hChecked with ⟨transfers, texts, others, txFeePayer, funder, hPerm,
    hFitting, hTexts, hHead, hOthers, hFunder, hSigned⟩
  have hTransfers := hFitting.imp hFits
  have hPayer : allowlist.feePayer.getD txFeePayer = txFeePayer := by
    rw [hFeePayer]
    cases hCase : feePayer with
    | none => rfl
    | some sponsor =>
        have hSame := hSponsor.feePays sponsor hCase
        rw [hHead] at hSame
        exact (Option.some.inj hSame).symm
  rw [hPayer] at hOthers
  have hNoText : ∀ ix ∈ texts,
      transferOf (isNativeSol request) tx.message.staticAccountKeys ix = none := by
    intro ix hIx
    rcases exists_fits_of_mem hTexts hIx with ⟨memo, hMemo⟩
    exact transferOf_memo hMemo
  have hNoOther : ∀ ix ∈ others,
      transferOf (isNativeSol request) tx.message.staticAccountKeys ix = none := by
    intro ix hIx
    exact transferOf_other (hOthers ix hIx)
  have hOnlyTransfers : ∀ ix ∈ tx.message.instructions, ∀ transfer,
      transferOf (isNativeSol request) tx.message.staticAccountKeys ix = some transfer →
      ∃ leg, Funds associatedTokenAddress (isNativeSol request) tx.message.staticAccountKeys
        feePayer mint leg ix transfer ∧ ix ∈ transfers := by
    intro ix hIx transfer hTransfer
    have hMem : ix ∈ transfers := by
      have hMember := hPerm.mem_iff.mp hIx
      simp only [List.mem_append] at hMember
      rcases hMember with (hMember | hMember) | hMember
      · exact hMember
      · simp [hNoText ix hMember] at hTransfer
      · simp [hNoOther ix hMember] at hTransfer
    rcases exists_fits_of_mem hTransfers hMem with ⟨leg, transfer', hFunds⟩
    have hSame := hFunds.isTransfer
    rw [hTransfer] at hSame
    cases hSame
    exact ⟨leg, hFunds, hMem⟩
  exact {
    transfers := by
      refine ⟨_, ?_, exists_transfers hTransfers⟩
      have hDecoded := hPerm.filterMap
        (transferOf (isNativeSol request) tx.message.staticAccountKeys)
      rw [List.filterMap_append, List.filterMap_append,
        List.filterMap_eq_nil_iff.mpr hNoText, List.filterMap_eq_nil_iff.mpr hNoOther,
        List.append_nil, List.append_nil] at hDecoded
      exact hDecoded
    memos := by
      refine ⟨texts, ?_, hTexts⟩
      let isMemo (ix : CompiledInstruction) : Bool :=
        programOf tx.message.staticAccountKeys ix = some memoProgram
      have hNoTransfer : transfers.filter isMemo = [] := by
        rw [List.filter_eq_nil_iff]
        intro ix hIx hMemo
        rcases exists_fits_of_mem hTransfers hIx with ⟨leg, transfer, hFunds⟩
        have hNone : transferOf (isNativeSol request) tx.message.staticAccountKeys ix = none :=
          transferOf_eq_none (by simpa [isMemo] using hMemo) (.inl rfl)
        rw [hFunds.isTransfer] at hNone
        cases hNone
      have hAllTexts : texts.filter isMemo = texts := by
        rw [List.filter_eq_self]
        intro ix hIx
        rcases exists_fits_of_mem hTexts hIx with ⟨memo, hMemo⟩
        simpa [isMemo] using hMemo.program
      have hNoOthers : others.filter isMemo = [] := by
        rw [List.filter_eq_nil_iff]
        intro ix hIx
        simpa [isMemo] using memoProgram_other (hOthers ix hIx)
      have hFiltered := hPerm.filter isMemo
      rw [List.filter_append, List.filter_append, hNoTransfer, hAllTexts, hNoOthers,
        List.nil_append, List.append_nil] at hFiltered
      exact hFiltered
    others := by
      intro ix hIx hNone hNotMemo
      have hMember := hPerm.mem_iff.mp hIx
      simp only [List.mem_append] at hMember
      rcases hMember with (hMember | hMember) | hMember
      · rcases exists_fits_of_mem hTransfers hMember with ⟨leg, transfer, hFunds⟩
        rw [hFunds.isTransfer] at hNone
        cases hNone
      · rcases exists_fits_of_mem hTexts hMember with ⟨memo, hMemo⟩
        exact absurd hMemo.program hNotMemo
      · exact (hOthers ix hMember).supporting hHead hMint hOwners
    signers := by
      refine ⟨funder, ?_, hSigned⟩
      intro ix hIx transfer hTransfer
      rcases hOnlyTransfers ix hIx transfer hTransfer with ⟨leg, hFunds, hMem⟩
      exact hFunder ix hMem _ hFunds.authority
    sponsor := by
      intro hSponsored
      rcases Option.ne_none_iff_exists'.mp (hSponsor.sponsored hSponsored) with
        ⟨sponsor, hSome⟩
      refine ⟨sponsor, hSponsor.feePays sponsor hSome, ?_⟩
      intro ix hIx transfer hTransfer
      rcases hOnlyTransfers ix hIx transfer hTransfer with ⟨leg, hFunds, -⟩
      exact hFunds.sponsor sponsor hSome }

end

/-! ### The whole verification -/

theorem expectedFeePayer_isSponsor {tx : VersionedTransaction} {details : MethodDetails}
    {feePayer : Option Pubkey} (hFeePayer : expectedFeePayer tx details = .ok feePayer) :
    IsSponsor tx details feePayer ∧ (¬details.feeSponsored → feePayer = none) := by
  simp only [expectedFeePayer] at hFeePayer
  split at hFeePayer
  · rename_i hSponsored
    split at hFeePayer
    · cases hFeePayer
    · simp only [bind_eq_ok] at hFeePayer
      rcases hFeePayer with ⟨key, -, hFeePayer⟩
      split at hFeePayer
      · cases hFeePayer
      · rename_i txFeePayer hHead
        simp only [refuseIf_bind_eq_ok] at hFeePayer
        rcases hFeePayer with ⟨hSame, hResult⟩
        cases hResult
        have hEq : txFeePayer = key := not_not.mp hSame
        subst hEq
        refine ⟨⟨by simp, ?_⟩, fun hNot => absurd hSponsored hNot⟩
        intro sponsor hSome
        rw [hHead, hSome]
  · rename_i hNot
    cases hFeePayer
    exact ⟨⟨fun hSponsored => absurd hSponsored hNot, by simp⟩, fun _ => rfl⟩

theorem expectedAtaCreationPolicy_allowed {details : MethodDetails} {feePayer : Option Pubkey}
    {policy : AtaCreationPolicy}
    (hPolicy : expectedAtaCreationPolicy details.splitList feePayer = .ok policy)
    (hSponsored : details.feeSponsored → feePayer ≠ none) :
    ∀ owner ∈ policy.allowedOwners, MayCreate details owner := by
  simp only [expectedAtaCreationPolicy, bind_eq_ok] at hPolicy
  rcases hPolicy with ⟨owners, hOwners, hPolicy⟩
  cases hPolicy
  simp only
  have hParsed : List.Forall₂ (fun split owner => Pubkey.fromStr split.recipient = .ok owner)
      details.splitList owners := by
    generalize details.splitList = splits at hOwners
    induction splits generalizing owners with
    | nil =>
        cases hOwners
        exact .nil
    | cons split rest hInduction =>
        simp only [List.mapM_cons, bind_eq_ok, parseSplitRecipient_eq_ok] at hOwners
        rcases hOwners with ⟨owner, hOwner, owners', hRest, hResult⟩
        cases hResult
        exact .cons hOwner (hInduction owners' hRest)
  intro owner hOwner
  split at hOwner
  · simp only [List.mem_filterMap] at hOwner
    rcases hOwner with ⟨⟨split, owner'⟩, hEntry, hRequired⟩
    split at hRequired
    · rename_i hTrue
      cases hRequired
      exact ⟨split, (List.of_mem_zip hEntry).1, (List.forall₂_iff_zip.mp hParsed).2 hEntry,
        fun _ => hTrue⟩
    · cases hRequired
  · rename_i hNone
    rcases List.forall₂_iff_get.mp hParsed with ⟨hLength, hEach⟩
    rcases List.mem_iff_get.mp hOwner with ⟨position, rfl⟩
    refine ⟨details.splitList.get ⟨position, by omega⟩, List.get_mem _ _,
      hEach position (by omega) position.isLt, ?_⟩
    intro hSponsor
    exact absurd (by simpa using hNone) (hSponsored hSponsor)

theorem checkedSum_legs {splits : List Split} {legs : List Leg} {start total : ℕ}
    (hLegs : List.Forall₂ IsLegOf splits legs)
    (hSum : splits.foldlM
      (fun total split => checkedAdd total ((parseU64 split.amount).getD 0)) start = some total) :
    total = start + (legs.map Leg.amount).sum := by
  induction hLegs generalizing start with
  | nil =>
      cases hSum
      simp
  | cons hHead hTail hInduction =>
      rw [List.foldlM_cons, Option.bind_eq_bind, Option.bind_eq_some_iff] at hSum
      rcases hSum with ⟨next, hNext, hSum⟩
      have hTotal := hInduction hSum
      rw [hHead.amount] at hNext
      have hNextEq := add_eq_of_checkedAdd hNext
      simp only [Option.getD_some] at hNextEq
      simp only [List.map_cons, List.sum_cons]
      omega

theorem primaryAmount_owes {request : ChargeRequest} {splits : List Split} {legs : List Leg}
    {amount : ℕ} (hAmount : primaryAmount request splits = .ok amount)
    (hLegs : List.Forall₂ IsLegOf splits legs) :
    parseU64 request.amount = some (amount + (legs.map Leg.amount).sum) := by
  simp only [primaryAmount, bind_eq_ok, okOr_eq_ok, refuseIf_eq_ok, exists_const] at hAmount
  rcases hAmount with ⟨total, hTotal, splitsTotal, hSplits, hCovers, -, hResult⟩
  cases hResult
  have hSum := checkedSum_legs hLegs hSplits
  rw [hTotal]
  congr 1
  omega

theorem requestRecipient_eq_ok {request : ChargeRequest} {recipient : Pubkey}
    (hRecipient : requestRecipient request = .ok recipient) :
    ∃ text, request.recipient = some text ∧ Pubkey.fromStr text = .ok recipient := by
  simp only [requestRecipient] at hRecipient
  split at hRecipient
  · cases hRecipient
  · rename_i text hText
    exact ⟨text, hText, parseKey_eq_ok.mp hRecipient⟩

section

variable {associatedTokenAddress : Pubkey → Pubkey → Pubkey → Pubkey}
  {tx : VersionedTransaction} {payment : Payment}

theorem verifyNativePayment_checked
    (hVerified : verifyNativePayment associatedTokenAddress tx payment = .ok ()) :
    ∃ legs, List.Forall₂ IsLegOf payment.splits legs ∧
      Checked associatedTokenAddress tx
        (IsSolTransfer tx.message.staticAccountKeys payment.feePayer) (payment.primary :: legs)
        (expectedMemos payment.externalId payment.splits)
        ⟨none, payment.ataPolicy, none, payment.feePayer⟩ := by
  simp only [verifyNativePayment, bind_eq_ok] at hVerified
  rcases hVerified with
    ⟨first, hFirst, transfers, hTransfers, matched, hMemos, _, hAllowed, hSigners⟩
  have hVerify : ∀ leg used after,
      verifySolTransferInstructions tx tx.message.staticAccountKeys payment.feePayer leg used =
        .ok after →
      Claims (IsSolTransfer tx.message.staticAccountKeys payment.feePayer)
        tx.message.instructions used [leg] after := by
    intro leg used after hTaken
    exact takeFirst_claims (fun ix hFits => inspectSolTransfer_eq_true hFits) hTaken
  rcases matchSplits_claims hVerify hTransfers with ⟨legs, hLegs, hClaims⟩
  refine ⟨legs, hLegs, transfers, matched, ?_, verifyMemoInstructions_claims hMemos, hAllowed,
    hSigners⟩
  cases hVerify _ _ _ hFirst with
  | cons hUnused hItem hFits hNil =>
      cases hNil
      exact .cons hUnused hItem hFits hClaims

theorem verifyTokenPayment_checked {request : ChargeRequest} {details : MethodDetails}
    (hVerified : verifyTokenPayment associatedTokenAddress tx request details payment = .ok ()) :
    ∃ mint legs tokenProgram,
      resolveExpectedMint request.currency details.network = .ok mint ∧
      expectedTokenProgram details = .ok tokenProgram ∧
      List.Forall₂ IsLegOf payment.splits legs ∧
      Checked associatedTokenAddress tx
        (fun leg ix => ∃ program, IsSplTransfer associatedTokenAddress
          tx.message.staticAccountKeys ⟨mint, tokenProgram, details.decimals⟩ payment.feePayer leg
          program ix)
        (payment.primary :: legs) (expectedMemos payment.externalId payment.splits)
        ⟨some mint, payment.ataPolicy, tokenProgram, payment.feePayer⟩ := by
  simp only [verifyTokenPayment, bind_eq_ok, refuseIf_eq_ok, exists_const] at hVerified
  rcases hVerified with ⟨mint, hMint, -, tokenProgram, hProgram, first, hFirst, transfers, hTransfers,
    matched, hMemos, _, hAllowed, hSigners⟩
  have hVerify : ∀ leg used after,
      verifySplTransferInstructions associatedTokenAddress tx tx.message.staticAccountKeys
        ⟨mint, tokenProgram, details.decimals⟩ payment.feePayer leg used = .ok after →
      Claims (fun leg ix => ∃ program, IsSplTransfer associatedTokenAddress
          tx.message.staticAccountKeys ⟨mint, tokenProgram, details.decimals⟩ payment.feePayer leg
          program ix)
        tx.message.instructions used [leg] after := by
    intro leg used after hTaken
    exact takeFirst_claims (fun ix hFits => inspectSplTransfer_eq_true hFits) hTaken
  rcases matchSplits_claims hVerify hTransfers with ⟨legs, hLegs, hClaims⟩
  refine ⟨mint, legs, tokenProgram, hMint, hProgram, hLegs, transfers, matched, ?_,
    verifyMemoInstructions_claims hMemos, hAllowed, hSigners⟩
  cases hVerify _ _ _ hFirst with
  | cons hUnused hItem hFits hNil =>
      cases hNil
      exact .cons hUnused hItem hFits hClaims

/-- An accepted pull transaction makes exactly the transfers its charge asks for, and
every other instruction only supports them. -/
theorem accepted_paysExactly {serializedSize : VersionedTransaction → Except String ℕ}
    {request : ChargeRequest} {details : MethodDetails} {acceptedVersions : List TxVersion}
    (hAccepted : verifyVersionedTransactionPreBroadcast serializedSize associatedTokenAddress tx
      request details acceptedVersions = .ok ()) :
    ∃ primary legs mint, Owes request details.splitList primary legs ∧
      IsAsset request details mint ∧
      PaysExactly associatedTokenAddress tx request details mint (primary :: legs) := by
  simp only [verifyVersionedTransactionPreBroadcast, bind_eq_ok, envelopeCheck_eq_ok,
    refuseIf_eq_ok, exists_const] at hAccepted
  rcases hAccepted with ⟨version, -, budget, -, -, amount, hAmount, recipient, hRecipient, feePayer,
    hFeePayer, -, policy, hPolicy, _, hPayment, -⟩
  rcases expectedFeePayer_isSponsor hFeePayer with ⟨hSponsor, -⟩
  have hOwners := expectedAtaCreationPolicy_allowed hPolicy hSponsor.sponsored
  cases hNative : isNativeSol request with
  | true =>
      rw [hNative, if_pos rfl] at hPayment
      rcases verifyNativePayment_checked hPayment with ⟨legs, hLegs, hChecked⟩
      refine ⟨⟨recipient, amount⟩, legs, none,
        ⟨requestRecipient_eq_ok hRecipient, hLegs, primaryAmount_owes hAmount hLegs⟩,
        by simp [IsAsset, hNative], ?_⟩
      refine paysExactly_of_checked (fun leg ix hSol => ?_) hChecked hSponsor rfl rfl hOwners
      rw [hNative]
      exact hSol.funds
  | false =>
      rw [hNative, if_neg (by simp)] at hPayment
      rcases verifyTokenPayment_checked hPayment with
        ⟨mint, legs, tokenProgram, hMint, -, hLegs, hChecked⟩
      refine ⟨⟨recipient, amount⟩, legs, some mint,
        ⟨requestRecipient_eq_ok hRecipient, hLegs, primaryAmount_owes hAmount hLegs⟩,
        by simp [IsAsset, hNative, hMint], ?_⟩
      refine paysExactly_of_checked (fun leg ix hSpl => ?_) hChecked hSponsor rfl rfl hOwners
      rcases hSpl with ⟨program, hSpl⟩
      rw [hNative]
      exact hSpl.funds

end

/-! ### An accepted transaction -/

/-- The key whose bytes are zeros and then the given one. -/
def keyNumbered (number : UInt8) : Pubkey :=
  .numbered number

/-- A charge of 1,000 lamports, of which a split gets 100 with a memo. -/
def splitCharge : ChargeRequest where
  amount := "1000"
  currency := "sol"
  recipient := some (keyNumbered 3).display
  externalId := none

def sponsoredDetails : MethodDetails where
  network := none
  decimals := none
  tokenProgram := none
  feePayer := some true
  feePayerKey := some (keyNumbered 1).display
  splits := some [⟨(keyNumbered 4).display, "100", none, some "order-7"⟩]

/-- The charge's transaction: the split is paid first. -/
def splitTransaction : VersionedTransaction where
  signatures := List.replicate 2 Signature.default
  message := .v0
    { header := ⟨2, 0, 2⟩
      accountKeys := [keyNumbered 1, keyNumbered 2, keyNumbered 3, keyNumbered 4, systemProgram,
        memoProgram]
      recentBlockhash := List.replicate 32 0
      instructions := [
        ⟨4, [1, 3], [2, 0, 0, 0, 100, 0, 0, 0, 0, 0, 0, 0]⟩,
        ⟨5, [], asBytes "order-7"⟩,
        ⟨4, [1, 2], [2, 0, 0, 0, 132, 3, 0, 0, 0, 0, 0, 0]⟩] }
    []

theorem accepted_paysExactly_of_splitTransaction :
    ∃ primary legs mint, Owes splitCharge sponsoredDetails.splitList primary legs ∧
      IsAsset splitCharge sponsoredDetails mint ∧
      PaysExactly (fun owner _ _ => owner) splitTransaction splitCharge sponsoredDetails mint
        (primary :: legs) := by
  have hAccepted : verifyVersionedTransactionPreBroadcast (fun _ => .ok 404)
      (fun owner _ _ => owner) splitTransaction splitCharge sponsoredDetails [.v0] = .ok () := by
    decide
  exact accepted_paysExactly hAccepted

end PayKit.Charge
