import PayKit.Charge.PullSoundness
import PayKit.Charge.PushVerifier

/-!
# The pull and the push verifier agree

A transaction that the pull verifier accepts, once it is on the chain and rendered by
a node, passes the checks of the push verifier. Both search for the same transfers in
the same order, and on an accepted transaction their looks at one instruction have
the same outcome: every instruction is one the pull verifier has identified, and of
those the rendering has the fields the push verifier reads. So both take the same
positions, and the allow-lists are asked about the same instructions.

`Renders` is what the agreement needs of the node: the documented fields of the four
kinds of parsed instruction with their exact values, and the program of every
instruction.
-/

namespace PayKit.Charge

open Control Encoding Machine Matching Solana Tx

/-! ### Renderings -/

/-- The rendering is parsed, as an instruction of a type with the given fields. -/
def ParsedAs (image : Json) (type : String) (info : List (String × Json)) : Prop :=
  ∃ parsed, image.get? "parsed" = some (.object parsed) ∧
    parsed.lookup "type" = some (.text type) ∧ parsed.lookup "info" = some (.object info)

def KeyField (info : List (String × Json)) (field : String) (key : Option Pubkey) : Prop :=
  ∀ known, key = some known → info.lookup field = some (.text known.display)

/-- The node's rendering of an instruction. -/
structure Renders (keys : List Pubkey) (ix : CompiledInstruction) (image : Json) : Prop where
  programId : ∀ program, programOf keys ix = some program →
    image.get? "programId" = some (.text program.display)
  transfer : programOf keys ix = some systemProgram → ix.data.length = 12 →
    fromLeBytes ix.data 0 4 = 2 → ix.accounts.length = 2 →
    ∃ info, ParsedAs image "transfer" info ∧
      KeyField info "source" (accountAt keys ix 0) ∧
      KeyField info "destination" (accountAt keys ix 1) ∧
      info.lookup "lamports" = some (.unsigned (fromLeBytes ix.data 4 12))
  transferChecked : (programOf keys ix).any isTokenProgram → ix.data.length = 10 →
    ix.data.head? = some 12 → ix.accounts.length = 4 →
    ∃ info tokenAmount, ParsedAs image "transferChecked" info ∧
      KeyField info "source" (accountAt keys ix 0) ∧
      KeyField info "mint" (accountAt keys ix 1) ∧
      KeyField info "destination" (accountAt keys ix 2) ∧
      KeyField info "authority" (accountAt keys ix 3) ∧
      info.lookup "tokenAmount" = some (.object tokenAmount) ∧
      tokenAmount.lookup "amount" = some (.text (fromLeBytes ix.data 1 9).repr)
  memo : ∀ text : String, programOf keys ix = some memoProgram → ix.data = asBytes text →
    image.get? "parsed" = some (.text text)
  createIdempotent : programOf keys ix = some ataProgram → ix.data = [1] →
    ix.accounts.length = 6 →
    ∃ info, ParsedAs image "createIdempotent" info ∧
      KeyField info "source" (accountAt keys ix 0) ∧
      KeyField info "account" (accountAt keys ix 1) ∧
      KeyField info "wallet" (accountAt keys ix 2) ∧
      KeyField info "mint" (accountAt keys ix 3) ∧
      KeyField info "systemProgram" (accountAt keys ix 4) ∧
      KeyField info "tokenProgram" (accountAt keys ix 5)

/-- The node's rendering of a transaction without inner instructions. -/
structure RendersTransaction (tx : VersionedTransaction) (transaction : Json)
    (txMeta : Option Json) : Prop where
  instructions : ∃ message images, transaction.get? "message" = some message ∧
    message.get? "instructions" = some (.array images) ∧
    List.Forall₂ (Renders tx.message.staticAccountKeys) tx.message.instructions images
  noInner : ∀ value inner, txMeta = some value → value.get? "innerInstructions" = some inner →
    inner = .null ∨ inner = .array []

variable {keys : List Pubkey} {ix : CompiledInstruction} {image : Json}

theorem ParsedAs.info {type : String} {info : List (String × Json)}
    (hParsed : ParsedAs image type info) : parsedInfo image type = some info := by
  rcases hParsed with ⟨parsed, hObject, hType, hInfo⟩
  simp [parsedInfo, hObject, Json.asObject, stringMember, hType, Json.asStr, hInfo]

theorem KeyField.stringMember {info : List (String × Json)} {field : String} {key : Pubkey}
    {account : Option Pubkey} (hField : KeyField info field account) (hKey : account = some key) :
    stringMember info field = some key.display := by
  simp [Charge.stringMember, hField key hKey, Json.asStr]

theorem Renders.parsedProgramId {program : Pubkey} (hRendered : Renders keys ix image)
    (hProgram : programOf keys ix = some program) :
    parsedProgramId image = some program.display := by
  simp [Charge.parsedProgramId, hRendered.programId program hProgram, Json.asStr]

/-! ### Programs by key and by text -/

theorem display_programs :
    systemProgram.display = programs.systemProgram ∧
    tokenProgram.display = programs.tokenProgram ∧
    token2022Program.display = programs.token2022Program ∧
    memoProgram.display = programs.memoProgram ∧
    computeBudgetProgram.display = programs.computeBudgetProgram ∧
    ataProgram.display = programs.associatedTokenProgram := by
  refine ⟨?_, ?_, ?_, ?_, ?_, ?_⟩ <;> exact Pubkey.display_ofConst (by decide)

theorem display_eq_iff {program constant : Pubkey} {text : String}
    (hConstant : constant.display = text) : program.display = text ↔ program = constant := by
  constructor
  · intro hText
    exact Pubkey.display_injective (hText.trans hConstant.symm)
  · rintro rfl
    exact hConstant

theorem fromLeBytes_le {bytes : List UInt8} {start : ℕ} :
    fromLeBytes bytes start (start + 8) ≤ u64Max := by
  have hLess := decodeLE_lt (slice bytes start (start + 8))
  have hLength : (slice bytes start (start + 8)).length ≤ 8 := by
    simp only [slice, List.length_drop, List.length_take]
    omega
  have hPower : 256 ^ (slice bytes start (start + 8)).length ≤ 256 ^ 8 :=
    Nat.pow_le_pow_right (by decide) hLength
  simp only [fromLeBytes, u64Max]
  omega

/-! ### Looks at one instruction -/

/-- An instruction that the pull verifier has identified: the transfer of some leg, an
expected memo, or another allowed one. -/
inductive Identified (associatedTokenAddress : Pubkey → Pubkey → Pubkey → Pubkey)
    (fits : Leg → CompiledInstruction → Prop) (keys : List Pubkey) (allowlist : Allowlist)
    (payer : Pubkey) (ix : CompiledInstruction) : Prop where
  | transfer {leg : Leg} (hFits : fits leg ix)
  | memo {memo : String × String} (hMemo : IsMemo keys memo ix)
  | other (hOther : IsOther associatedTokenAddress keys allowlist payer ix)

variable {associatedTokenAddress : Pubkey → Pubkey → Pubkey → Pubkey}

theorem checked_identified {tx : VersionedTransaction} {fits : Leg → CompiledInstruction → Prop}
    {legs : List Leg} {memos : List (String × String)} {allowlist : Allowlist}
    (hChecked : Checked associatedTokenAddress tx fits legs memos allowlist) :
    ∃ payer, ∀ ix ∈ tx.message.instructions, Identified associatedTokenAddress fits
      tx.message.staticAccountKeys allowlist payer ix := by
  rcases checked_partition hChecked with ⟨transfers, texts, others, txFeePayer, -, hPerm,
    hFits, hTexts, -, hOthers, -, -⟩
  refine ⟨allowlist.feePayer.getD txFeePayer, fun ix hIx => ?_⟩
  have hMember := hPerm.mem_iff.mp hIx
  simp only [List.mem_append] at hMember
  rcases hMember with (hMember | hMember) | hMember
  · rcases exists_fits_of_mem hFits hMember with ⟨leg, hLeg⟩
    exact .transfer hLeg
  · rcases exists_fits_of_mem hTexts hMember with ⟨memo, hMemo⟩
    exact .memo hMemo
  · exact .other (hOthers ix hMember)

theorem wrapper_program {fits : Leg → CompiledInstruction → Prop} {allowlist : Allowlist}
    {payer : Pubkey}
    (hIdentified : Identified associatedTokenAddress fits keys allowlist payer ix) :
    (∃ leg, fits leg ix) ∨ ∃ program, programOf keys ix = some program ∧
      program ≠ systemProgram ∧ program ≠ tokenProgram ∧ program ≠ token2022Program := by
  cases hIdentified with
  | transfer hFits => exact .inl ⟨_, hFits⟩
  | memo hMemo =>
      refine .inr ⟨_, hMemo.program, ?_, ?_, ?_⟩
      · exact Ne.symm (programs_ne_transfer (.inl rfl)).1
      · exact Ne.symm (programs_ne_transfer (.inr (.inl rfl))).1
      · exact Ne.symm (programs_ne_transfer (.inr (.inr rfl))).1
  | other hOther =>
      cases hOther with
      | budget hProgram =>
          refine .inr ⟨_, hProgram, ?_, ?_, ?_⟩
          · exact Ne.symm (programs_ne_transfer (.inl rfl)).2.1
          · exact Ne.symm (programs_ne_transfer (.inr (.inl rfl))).2.1
          · exact Ne.symm (programs_ne_transfer (.inr (.inr rfl))).2.1
      | creation _ _ hCreates =>
          refine .inr ⟨_, hCreates.program, ?_, ?_, ?_⟩
          · exact Ne.symm (programs_ne_transfer (.inl rfl)).2.2
          · exact Ne.symm (programs_ne_transfer (.inr (.inl rfl))).2.2
          · exact Ne.symm (programs_ne_transfer (.inr (.inr rfl))).2.2

theorem inspectSolTransfer_agrees {allowlist : Allowlist} {payer : Pubkey} {leg : Leg}
    (hRendered : Renders keys ix image)
    (hIdentified : Identified associatedTokenAddress (IsSolTransfer keys none) keys allowlist
      payer ix) :
    ∀ verdict, inspectSolTransfer keys none leg ix = .ok verdict →
      inspectParsedSolTransfer none leg.recipient.display leg.amount image = .ok verdict := by
  intro verdict hVerdict
  rcases wrapper_program hIdentified with ⟨leg', hSol⟩ | ⟨program, hProgram, hNotSystem, -, -⟩
  · rcases hSol.source with ⟨source, hSource, -⟩
    rcases hRendered.transfer hSol.program hSol.length hSol.tag hSol.accounts with
      ⟨info, hParsed, hSourceField, hDestinationField, hLamports⟩
    have hPull : inspectSolTransfer keys none leg ix =
        .ok (leg'.recipient = leg.recipient ∧ leg'.amount = leg.amount) := by
      simp only [inspectSolTransfer, programId, hSol.program, okOr, accountKey, hSource,
        hSol.destination, hSol.length, hSol.tag, hSol.accounts, hSol.amount, bind, Except.bind,
        ne_eq, not_true_eq_false, if_false]
      by_cases hLeg : leg'.recipient = leg.recipient ∧ leg'.amount = leg.amount
      · rw [if_pos hLeg, decide_eq_true hLeg]
        rfl
      · rw [if_neg hLeg, decide_eq_false hLeg]
        rfl
    have hPush : inspectParsedSolTransfer none leg.recipient.display leg.amount image =
        .ok (leg'.recipient = leg.recipient ∧ leg'.amount = leg.amount) := by
      have hProgramText := hRendered.parsedProgramId hSol.program
      rw [display_programs.1] at hProgramText
      have hSame : leg'.recipient.display = leg.recipient.display ↔
          leg'.recipient = leg.recipient :=
        ⟨Pubkey.display_injective, fun hSame => by rw [hSame]⟩
      simp only [inspectParsedSolTransfer, hProgramText, ne_eq, not_true_eq_false, if_false,
        hParsed.info, hDestinationField.stringMember hSol.destination,
        hSourceField.stringMember hSource, hLamports, Option.bind_some, Json.asU64,
        Option.getD_some, hSol.amount, hSame]
      by_cases hLeg : leg'.recipient = leg.recipient ∧ leg'.amount = leg.amount
      · rw [if_pos hLeg, decide_eq_true hLeg]
        rfl
      · rw [if_neg hLeg, decide_eq_false hLeg]
    rw [hPull] at hVerdict
    rw [hPush, hVerdict]
  · have hPull : inspectSolTransfer keys none leg ix = .ok false := by
      simp [inspectSolTransfer, programId, hProgram, okOr, bind, Except.bind, hNotSystem, pure,
        Except.pure]
    have hPush : inspectParsedSolTransfer none leg.recipient.display leg.amount image =
        .ok false := by
      have hText : program.display ≠ programs.systemProgram := by
        rwa [ne_eq, display_eq_iff display_programs.1]
      simp [inspectParsedSolTransfer, hRendered.parsedProgramId hProgram, hText]
    rw [hPull] at hVerdict
    rw [hPush, hVerdict]

theorem inspectSplTransfer_agrees {allowlist : Allowlist} {payer : Pubkey} {leg : Leg}
    {expected : TokenTransfer} {program' : Pubkey} (hExpected : expected.tokenProgram = some program')
    (hRendered : Renders keys ix image)
    (hIdentified : Identified associatedTokenAddress (fun leg ix => ∃ program,
      IsSplTransfer associatedTokenAddress keys expected none leg program ix) keys allowlist
      payer ix) :
    ∀ verdict, inspectSplTransfer associatedTokenAddress keys expected none leg ix = .ok verdict →
      inspectParsedSplTransfer associatedTokenAddress expected.mint.display
        (some program'.display) none leg.recipient.display leg.amount image = .ok verdict := by
  intro verdict hVerdict
  rcases wrapper_program hIdentified with
    ⟨leg', program, hSpl⟩ | ⟨program, hProgram, -, hNotToken, hNotToken2022⟩
  · rcases hSpl.source with ⟨source, hSource, -⟩
    rcases hSpl.authority with ⟨authority, hAuthority, -⟩
    have hKind : (programOf keys ix).any isTokenProgram := by
      simpa [hSpl.calls, isTokenProgram] using hSpl.isToken
    rcases hRendered.transferChecked hKind hSpl.length hSpl.tag hSpl.accounts with
      ⟨info, tokenAmount, hParsed, hSourceField, hMintField, hDestinationField, hAuthorityField,
        hTokenAmount, hAmount⟩
    have hSameProgram : program = program' := hSpl.expectedProgram program' hExpected
    subst hSameProgram
    have hDecimals : expected.decimals.any (ix.data[9]? ≠ some ·) = false := by
      cases hCase : expected.decimals with
      | none => rfl
      | some decimals => simp [hSpl.decimals decimals hCase]
    have hAmountText : parseU64 (fromLeBytes ix.data 1 9).repr = some leg'.amount := by
      rw [parseU64_repr fromLeBytes_le, hSpl.amount]
    have hPull : inspectSplTransfer associatedTokenAddress keys expected none leg ix =
        .ok (leg'.amount = leg.amount ∧
          associatedTokenAddress leg'.recipient program expected.mint =
            associatedTokenAddress leg.recipient program expected.mint) := by
      have hToken : ¬(program ≠ tokenProgram ∧ program ≠ token2022Program) := by
        rcases hSpl.isToken with rfl | rfl <;> simp
      simp only [inspectSplTransfer, programId, hSpl.calls, okOr, bind, Except.bind, hToken,
        if_false, hExpected, Option.any_some, ne_eq, not_true_eq_false, decide_false,
        Bool.false_eq_true, hSpl.tag, hSpl.length, hSpl.accounts, or_self, hSpl.amount, hDecimals,
        accountKey, hSource, hSpl.destination, hSpl.mint, hAuthority, refuseIf, reduceCtorEq,
        Option.any_none, pure, Except.pure]
      split <;> simp_all
    have hPush : inspectParsedSplTransfer associatedTokenAddress expected.mint.display
        (some program.display) none leg.recipient.display leg.amount image =
        .ok (leg'.amount = leg.amount ∧
          associatedTokenAddress leg'.recipient program expected.mint =
            associatedTokenAddress leg.recipient program expected.mint) := by
      have hToken : ¬(program.display ≠ programs.tokenProgram ∧
          program.display ≠ programs.token2022Program) := by
        rcases hSpl.isToken with rfl | rfl
        · simp [display_programs.2.1]
        · simp [display_programs.2.2.1]
      have hAmountField : (Json.object tokenAmount).get? "amount" =
          some (.text (fromLeBytes ix.data 1 9).repr) := by
        simp [Json.get?, Json.asObject, hAmount]
      have hOwner : verifyAtaOwner associatedTokenAddress
          (associatedTokenAddress leg'.recipient program expected.mint).display
          leg.recipient.display expected.mint.display program.display =
          decide (associatedTokenAddress leg'.recipient program expected.mint =
            associatedTokenAddress leg.recipient program expected.mint) := by
        simp [verifyAtaOwner, Pubkey.fromStr_display, eq_comm]
      simp only [inspectParsedSplTransfer, hRendered.programId program hSpl.calls,
        Option.bind_some, Json.asStr, Option.getD_some, hToken, if_false, Option.any_some, ne_eq,
        not_true_eq_false, decide_false, Bool.false_eq_true, hParsed.info, hTokenAmount,
        hAmountField, hAmountText, hDestinationField.stringMember hSpl.destination,
        hSourceField.stringMember hSource, hAuthorityField.stringMember hAuthority,
        hMintField.stringMember hSpl.mint, hOwner, true_and, decide_eq_true_eq, refuseIf,
        reduceCtorEq, Option.any_none, bind, Except.bind, pure, Except.pure]
      by_cases hAmountEq : leg'.amount = leg.amount
      · by_cases hAta : associatedTokenAddress leg'.recipient program expected.mint =
            associatedTokenAddress leg.recipient program expected.mint
        · simp [hAmountEq, hAta]
        · simp [hAmountEq, hAta]
      · simp [hAmountEq]
    rw [hPull] at hVerdict
    rw [hPush, hVerdict]
  · have hPull : inspectSplTransfer associatedTokenAddress keys expected none leg ix =
        .ok false := by
      simp [inspectSplTransfer, programId, hProgram, okOr, bind, Except.bind, hNotToken,
        hNotToken2022, pure, Except.pure]
    have hPush : inspectParsedSplTransfer associatedTokenAddress expected.mint.display
        (some program'.display) none leg.recipient.display leg.amount image = .ok false := by
      have hText : program.display ≠ programs.tokenProgram := by
        rwa [ne_eq, display_eq_iff display_programs.2.1]
      have hText2022 : program.display ≠ programs.token2022Program := by
        rwa [ne_eq, display_eq_iff display_programs.2.2.1]
      simp [inspectParsedSplTransfer, hRendered.programId program hProgram, Json.asStr, hText,
        hText2022]
    rw [hPull] at hVerdict
    rw [hPush, hVerdict]

theorem inspectMemo_agrees {fits : Leg → CompiledInstruction → Prop} {allowlist : Allowlist}
    {payer : Pubkey} {memo : String}
    (hFits : ∀ leg ix, fits leg ix → programOf keys ix ≠ some memoProgram ∧
      ∃ program, programOf keys ix = some program)
    (hRendered : Renders keys ix image)
    (hIdentified : Identified associatedTokenAddress fits keys allowlist payer ix) :
    ∀ verdict, inspectMemo keys memo ix = .ok verdict →
      inspectParsedMemo memo image = .ok verdict := by
  intro verdict hVerdict
  have hCases : (∃ text, IsMemo keys text ix) ∨ ∃ program, programOf keys ix = some program ∧
      program ≠ memoProgram := by
    cases hIdentified with
    | transfer hLeg =>
        rcases hFits _ _ hLeg with ⟨hNotMemo, program, hProgram⟩
        refine .inr ⟨program, hProgram, ?_⟩
        rintro rfl
        exact hNotMemo hProgram
    | memo hMemo => exact .inl ⟨_, hMemo⟩
    | other hOther =>
        cases hOther with
        | budget hProgram => exact .inr ⟨_, hProgram, memoProgram_ne.1⟩
        | creation _ _ hCreates => exact .inr ⟨_, hCreates.program, memoProgram_ne.2⟩
  rcases hCases with ⟨text, hMemo⟩ | ⟨program, hProgram, hNotMemo⟩
  · have hBytes : asBytes text.2 = asBytes memo ↔ text.2 = memo :=
      ⟨asBytes_injective, fun hSame => by rw [hSame]⟩
    have hPull : inspectMemo keys memo ix = .ok (text.2 = memo) := by
      simp [inspectMemo, programId, hMemo.program, okOr, bind, Except.bind, hMemo.accounts,
        hMemo.data, hBytes, pure, Except.pure]
    have hPush : inspectParsedMemo memo image = .ok (text.2 = memo) := by
      simp [inspectParsedMemo, hRendered.parsedProgramId hMemo.program, display_programs.2.2.2.1,
        parsedMemoText, hRendered.memo text.2 hMemo.program hMemo.data]
    rw [hPull] at hVerdict
    rw [hPush, hVerdict]
  · have hPull : inspectMemo keys memo ix = .ok false := by
      simp [inspectMemo, programId, hProgram, okOr, bind, Except.bind, hNotMemo, pure, Except.pure]
    have hPush : inspectParsedMemo memo image = .ok false := by
      have hText : program.display ≠ programs.memoProgram := by
        rwa [ne_eq, display_eq_iff display_programs.2.2.2.1]
      simp [inspectParsedMemo, hRendered.parsedProgramId hProgram, hText]
    rw [hPull] at hVerdict
    rw [hPush, hVerdict]

/-! ### Searches -/

theorem findSplits_agrees {verify : Leg → List ℕ → Except VerificationError (List ℕ)}
    {find : String → ℕ → List ℕ → Except VerificationError (List ℕ)} {missing : String}
    (hAgree : ∀ leg used after, verify leg used = .ok after →
      find leg.recipient.display leg.amount used = .ok after)
    {splits : List Split} {used after : List ℕ}
    (hMatched : matchSplits verify splits used = .ok after) :
    findSplits find missing splits used = .ok after := by
  induction splits generalizing used with
  | nil => exact hMatched
  | cons split rest hInduction =>
      simp only [matchSplits, bind_eq_ok, parseSplitRecipient_eq_ok] at hMatched
      rcases hMatched with ⟨recipient, hRecipient, amount, hAmount, taken, hTaken, hRest⟩
      have hFound := hAgree _ _ _ hTaken
      rw [Pubkey.display_of_fromStr hRecipient] at hFound
      simp only [findSplits, bind_eq_ok]
      exact ⟨amount, hAmount, taken, by simp [hFound, mapError_ok], hInduction hRest⟩

theorem verifyParsedMemoInstructions_agrees {tx : VersionedTransaction} {images : List Json}
    (hAgree : ∀ memo, List.Forall₂ (fun ix image => ∀ verdict,
      inspectMemo keys memo ix = .ok verdict → inspectParsedMemo memo image = .ok verdict)
      tx.message.instructions images)
    {memos : List (String × String)} {used after : List ℕ}
    (hMatched : verifyMemoInstructions tx keys memos used = .ok after) :
    verifyParsedMemoInstructions images memos used = .ok after := by
  induction memos generalizing used with
  | nil => exact hMatched
  | cons memo rest hInduction =>
      simp only [verifyMemoInstructions, bind_eq_ok] at hMatched
      rcases hMatched with ⟨_, hLength, taken, hTaken, hRest⟩
      simp only [verifyParsedMemoInstructions, bind_eq_ok]
      exact ⟨_, hLength, taken, takeFirst_congr (hAgree memo.2) hTaken, hInduction hRest⟩

/-! ### The allow-list -/

/-- The allow-list of the push verifier for an unsponsored charge. -/
def Allowlist.parsed (allowlist : Allowlist) : ParsedAllowlist where
  mint := allowlist.mint.map Pubkey.display
  allowedOwners := allowlist.ataPolicy.allowedOwners.map Pubkey.display
  requiredOwners := allowlist.ataPolicy.requiredOwners.map Pubkey.display
  tokenProgram := allowlist.tokenProgram.map Pubkey.display
  ataPayer := none

theorem validateParsedAtaCreation_agrees {allowlist : Allowlist} {payer mint owner : Pubkey}
    (hRendered : Renders keys ix image) (hMint : allowlist.mint = some mint)
    (hOwner : owner ∈ allowlist.ataPolicy.allowedOwners)
    (hCreates : CreatesTokenAccount associatedTokenAddress keys payer mint owner
      allowlist.tokenProgram ix) :
    validateParsedAtaCreationInstruction associatedTokenAddress allowlist.parsed image =
      .ok owner.display := by
  rcases hRendered.createIdempotent hCreates.program hCreates.data hCreates.accounts with
    ⟨info, ⟨parsed, hParsed, hType, hInfo⟩, hSource, hAccount, hWallet, hMintField, -, hProgramField⟩
  rcases hCreates.account with ⟨token, hToken, hKind, hExpected, hAta⟩
  have hPayer := hSource.stringMember hCreates.payer
  have hAtaText := hAccount.stringMember hAta
  have hOwnerText := hWallet.stringMember hCreates.owner
  have hMintText := hMintField.stringMember hCreates.mint
  have hTokenText := hProgramField.stringMember hToken
  simp only [validateParsedAtaCreationInstruction, bind_eq_ok, okOr_eq_ok, refuseIf_eq_ok,
    exists_const]
  refine ⟨mint.display, by simp [Allowlist.parsed, hMint], parsed,
    by simp [hParsed, Json.asObject], ?_, info, by simp [hInfo, Json.asObject], payer.display,
    by simp [stringField, hPayer], (associatedTokenAddress owner token mint).display,
    by simp [stringField, hAtaText], owner.display, by simp [stringField, hOwnerText],
    mint.display, by simp [stringField, hMintText], token.display,
    by simp [stringField, hTokenText], by simp [Allowlist.parsed], by simp, ?_, ?_, ?_, ?_, rfl⟩
  · simp [stringMember, hType, Json.asStr]
  · rcases hKind with rfl | rfl
    · simp [display_programs.2.1]
    · simp [display_programs.2.2.1]
  · cases hCase : allowlist.tokenProgram with
    | none => simp [Allowlist.parsed, hCase]
    | some expected => simp [Allowlist.parsed, hCase, hExpected expected hCase]
  · simp [verifyAtaOwner, Pubkey.fromStr_display]
  · simp only [Allowlist.parsed, not_not]
    exact List.mem_map_of_mem hOwner

theorem validateParsedInstruction_agrees {allowlist : Allowlist} {payer : Pubkey}
    {matched : List ℕ} {index : ℕ} {created : Option Pubkey} (hRendered : Renders keys ix image)
    (hValid : validateInstruction associatedTokenAddress keys matched allowlist payer index ix =
      .ok created) :
    validateParsedInstruction associatedTokenAddress matched allowlist.parsed index image =
      .ok (created.map Pubkey.display) := by
  rcases display_programs with ⟨hSystem, hToken, hToken2022, hMemo, hBudget, hAta⟩
  simp only [validateInstruction, bind_eq_ok, programId_eq_ok] at hValid
  rcases hValid with ⟨program, hProgram, hValid⟩
  simp only [validateParsedInstruction, hRendered.parsedProgramId hProgram, Option.some.injEq,
    display_eq_iff hSystem, display_eq_iff hToken, display_eq_iff hToken2022, display_eq_iff hMemo,
    display_eq_iff hBudget, display_eq_iff hAta]
  split at hValid
  · rename_i hCase
    simp only [bind_eq_ok] at hValid
    rcases hValid with ⟨_, -, hCreated⟩
    cases hCreated
    simp [hCase]
  rename_i hNotBudget
  rw [if_neg hNotBudget]
  split at hValid
  · rename_i hCase
    simp only [bind_eq_ok, refuseIf_eq_ok, exists_const] at hValid
    rcases hValid with ⟨hMatched, hCreated⟩
    cases hCreated
    simp [hCase, refuseIf, not_not.mp hMatched, bind, Except.bind, pure, Except.pure]
  rename_i hNotMemo
  rw [if_neg hNotMemo]
  split at hValid
  · rename_i hCase
    simp only [bind_eq_ok, refuseIf_eq_ok, exists_const] at hValid
    rcases hValid with ⟨hMatched, hCreated⟩
    cases hCreated
    simp [hCase, refuseIf, not_not.mp hMatched, bind, Except.bind, pure, Except.pure]
  rename_i hNotSystem
  rw [if_neg hNotSystem]
  split at hValid
  · rename_i hCase
    simp only [bind_eq_ok, refuseIf_eq_ok, exists_const] at hValid
    rcases hValid with ⟨hMatched, hCreated⟩
    cases hCreated
    simp [hCase, refuseIf, not_not.mp hMatched, bind, Except.bind, pure, Except.pure]
  rename_i hNotToken
  rw [if_neg hNotToken]
  split at hValid
  · rename_i hCase
    simp only [bind_eq_ok] at hValid
    rcases hValid with ⟨owner, hOwner, hCreated⟩
    cases hCreated
    rcases validateCreateAta_eq_ok (by rw [hProgram, hCase]) hOwner with
      ⟨hAllowed, mint, hMint, hCreates⟩
    rw [if_pos hCase, validateParsedAtaCreation_agrees hRendered hMint hAllowed hCreates]
    rfl
  · cases hValid

theorem validateParsedInstructions_agrees {allowlist : Allowlist} {payer : Pubkey}
    {matched : List ℕ} {instructions : List CompiledInstruction} {images : List Json}
    (hRendered : List.Forall₂ (Renders keys) instructions images) {start : ℕ}
    {created : List Pubkey}
    (hValid : validateInstructions associatedTokenAddress keys matched allowlist payer start
      instructions = .ok created) :
    validateParsedInstructions associatedTokenAddress matched allowlist.parsed start images =
      .ok (created.map Pubkey.display) := by
  induction hRendered generalizing start created with
  | nil =>
      cases hValid
      rfl
  | cons hHead hTail hInduction =>
      simp only [validateInstructions, bind_eq_ok] at hValid
      rcases hValid with ⟨owner, hOwner, owners, hOwners, hCreated⟩
      cases hCreated
      simp only [validateParsedInstructions, bind_eq_ok]
      refine ⟨_, validateParsedInstruction_agrees hHead hOwner, _, hInduction hOwners, ?_⟩
      cases owner <;> simp [pure, Except.pure]

theorem validateParsedInstructionAllowlist_agrees {tx : VersionedTransaction}
    {allowlist : Allowlist} {matched : List ℕ} {images : List Json}
    (hRendered : List.Forall₂ (Renders keys) tx.message.instructions images)
    (hValid : validateInstructionAllowlist associatedTokenAddress tx keys matched allowlist =
      .ok ()) :
    validateParsedInstructionAllowlist associatedTokenAddress images matched allowlist.parsed =
      .ok () := by
  simp only [validateInstructionAllowlist] at hValid
  split at hValid
  · cases hValid
  simp only [bind_eq_ok] at hValid
  rcases hValid with ⟨created, hCreated, hValid⟩
  simp only [validateParsedInstructionAllowlist, bind_eq_ok]
  refine ⟨_, validateParsedInstructions_agrees hRendered hCreated, ?_⟩
  split at hValid
  · cases hValid
  · rename_i hNoneMissing
    have hParsedMissing : (allowlist.parsed.requiredOwners.find?
        fun owner => decide (owner ∉ created.map Pubkey.display)) = none := by
      rw [List.find?_eq_none] at hNoneMissing ⊢
      intro text hText
      rcases List.mem_map.mp hText with ⟨owner, hOwner, rfl⟩
      have hCreatedOwner : owner ∈ created := by simpa using hNoneMissing owner hOwner
      simpa using ⟨owner, hCreatedOwner, rfl⟩
    rw [hParsedMissing]

/-! ### The whole verification -/

theorem RendersTransaction.extracted {tx : VersionedTransaction} {transaction : Json}
    {txMeta : Option Json} (hRendered : RendersTransaction tx transaction txMeta) :
    List.Forall₂ (Renders tx.message.staticAccountKeys) tx.message.instructions
      (extractParsedInstructions transaction txMeta) := by
  rcases hRendered.instructions with ⟨message, images, hMessage, hImages, hEach⟩
  have hInner : (((txMeta.bind (·.get? "innerInstructions")).bind Json.asArray).getD []) = [] := by
    cases hMeta : txMeta with
    | none => rfl
    | some value =>
        cases hGroups : value.get? "innerInstructions" with
        | none => simp [hGroups]
        | some inner =>
            rcases hRendered.noInner value inner hMeta hGroups with rfl | rfl
            · simp [hGroups, Json.asArray]
            · simp [hGroups, Json.asArray]
  simp only [extractParsedInstructions, hMessage, hImages, Option.bind_some, Json.asArray,
    Option.getD_some, hInner, List.flatMap_nil, List.append_nil]
  exact hEach

theorem expectedTokenProgram_eq_some {details : MethodDetails} {text : String}
    {program : Option Pubkey} (hText : details.tokenProgram = some text)
    (hProgram : expectedTokenProgram details = .ok program) :
    ∃ key, program = some key ∧ key.display = text := by
  simp only [expectedTokenProgram, hText, bind_eq_ok, parseKey_eq_ok] at hProgram
  rcases hProgram with ⟨_, -, key, hKey, hResult⟩
  cases hResult
  exact ⟨key, rfl, Pubkey.display_of_fromStr hKey⟩

section

variable {tx : VersionedTransaction} {payment : Payment} {images : List Json}

theorem nativePayment_agrees (hFeePayer : payment.feePayer = none)
    (hRendered : List.Forall₂ (Renders tx.message.staticAccountKeys) tx.message.instructions
      images)
    (hVerified : verifyNativePayment associatedTokenAddress tx payment = .ok ()) :
    ∃ transfers matched,
      verifySolTransfers images payment.primary.recipient.display payment.primary.amount
        payment.splits none = .ok transfers ∧
      verifyParsedMemoInstructions images (expectedMemos payment.externalId payment.splits)
        transfers = .ok matched ∧
      validateParsedInstructionAllowlist associatedTokenAddress images matched
        (Allowlist.parsed ⟨none, payment.ataPolicy, none, payment.feePayer⟩) = .ok () := by
  rcases verifyNativePayment_checked hVerified with ⟨legs, -, hChecked⟩
  rcases checked_identified hChecked with ⟨payer, hIdentified⟩
  rw [hFeePayer] at hIdentified
  have hEach := (List.forall₂_and_left tx.message.instructions images).mpr
    ⟨hIdentified, hRendered⟩
  simp only [verifyNativePayment, bind_eq_ok] at hVerified
  rcases hVerified with ⟨first, hFirst, transfers, hTransfers, matched, hMemos, _, hAllowed, -⟩
  have hFind : ∀ leg used after,
      verifySolTransferInstructions tx tx.message.staticAccountKeys payment.feePayer leg used =
        .ok after →
      findSolTransfer images none leg.recipient.display leg.amount used = .ok after := by
    intro leg used after hTaken
    rw [hFeePayer] at hTaken
    refine takeFirst_congr (hEach.imp fun ix image hBoth => ?_) hTaken
    exact inspectSolTransfer_agrees hBoth.2 hBoth.1
  refine ⟨transfers, matched, ?_, ?_, validateParsedInstructionAllowlist_agrees hRendered hAllowed⟩
  · simp only [verifySolTransfers, bind_eq_ok]
    exact ⟨first, hFind _ _ _ hFirst, findSplits_agrees hFind hTransfers⟩
  · refine verifyParsedMemoInstructions_agrees (fun memo => ?_) hMemos
    refine hEach.imp fun ix image hBoth => inspectMemo_agrees ?_ hBoth.2 hBoth.1
    intro leg ix hSol
    refine ⟨?_, _, hSol.program⟩
    rw [hSol.program]
    exact fun hSame => (programs_ne_transfer (.inl rfl)).1 (Option.some.inj hSame)

theorem tokenPayment_agrees {request : ChargeRequest} {details : MethodDetails}
    {tokenProgramText : String} (hTokenProgram : details.tokenProgram = some tokenProgramText)
    (hFeePayer : payment.feePayer = none)
    (hRendered : List.Forall₂ (Renders tx.message.staticAccountKeys) tx.message.instructions
      images)
    (hVerified : verifyTokenPayment associatedTokenAddress tx request details payment = .ok ()) :
    ∃ mint tokenProgram transfers matched,
      resolveExpectedMint request.currency details.network = .ok mint ∧
      ¬(payment.ataPolicy.requiredOwners ≠ [] ∧ ¬(Pubkey.fromStr request.currency).isOk) ∧
      tokenProgram.display = tokenProgramText ∧
      verifySplTransfers associatedTokenAddress images payment.primary.recipient.display
        mint.display payment.primary.amount payment.splits (some tokenProgramText) none =
        .ok transfers ∧
      verifyParsedMemoInstructions images (expectedMemos payment.externalId payment.splits)
        transfers = .ok matched ∧
      validateParsedInstructionAllowlist associatedTokenAddress images matched
        (Allowlist.parsed ⟨some mint, payment.ataPolicy, some tokenProgram, payment.feePayer⟩) =
        .ok () := by
  rcases verifyTokenPayment_checked hVerified with
    ⟨mint, legs, program, hMint, hProgram, -, hChecked⟩
  rcases checked_identified hChecked with ⟨payer, hIdentified⟩
  rw [hFeePayer] at hIdentified
  have hEach := (List.forall₂_and_left tx.message.instructions images).mpr
    ⟨hIdentified, hRendered⟩
  simp only [verifyTokenPayment, bind_eq_ok, refuseIf_eq_ok, exists_const, hMint, hProgram,
    Except.ok.injEq] at hVerified
  rcases hVerified with ⟨_, rfl, hCurrency, _, rfl, first, hFirst, transfers, hTransfers, matched,
    hMemos, _, hAllowed, -⟩
  rcases expectedTokenProgram_eq_some hTokenProgram hProgram with ⟨key, rfl, rfl⟩
  have hFind : ∀ leg used after,
      verifySplTransferInstructions associatedTokenAddress tx tx.message.staticAccountKeys
        ⟨mint, some key, details.decimals⟩ payment.feePayer leg used = .ok after →
      findSplTransfer associatedTokenAddress images mint.display (some key.display) none
        leg.recipient.display leg.amount used = .ok after := by
    intro leg used after hTaken
    rw [hFeePayer] at hTaken
    refine takeFirst_congr (hEach.imp fun ix image hBoth => ?_) hTaken
    exact inspectSplTransfer_agrees rfl hBoth.2 hBoth.1
  refine ⟨mint, key, transfers, matched, hMint, hCurrency, rfl, ?_, ?_,
    validateParsedInstructionAllowlist_agrees hRendered hAllowed⟩
  · simp only [verifySplTransfers, bind_eq_ok]
    exact ⟨first, hFind _ _ _ hFirst, findSplits_agrees hFind hTransfers⟩
  · refine verifyParsedMemoInstructions_agrees (fun memo => ?_) hMemos
    refine hEach.imp fun ix image hBoth => inspectMemo_agrees ?_ hBoth.2 hBoth.1
    rintro leg ix ⟨program, hSpl⟩
    refine ⟨?_, _, hSpl.calls⟩
    rw [hSpl.calls]
    exact fun hSame => (programs_ne_transfer (.inr hSpl.isToken)).1 (Option.some.inj hSame)

end

/-- What the pull verifier accepts, the push verifier accepts once it is on the
chain. -/
theorem accepted_pull_accepted_push
    {serializedSize : VersionedTransaction → Except String ℕ} {tx : VersionedTransaction}
    {request : ChargeRequest} {details : MethodDetails} {acceptedVersions : List TxVersion}
    {tokenProgramText : String} {resolvedTokenProgram : Option String} {transaction : Json}
    {txMeta : Option Json}
    (hTokenProgram : details.tokenProgram = some tokenProgramText)
    (hUnsponsored : details.feeSponsored = false)
    (hAccepted : verifyVersionedTransactionPreBroadcast serializedSize associatedTokenAddress tx
      request details acceptedVersions = .ok ())
    (hRendered : RendersTransaction tx transaction txMeta) :
    verifyParsedTransaction associatedTokenAddress resolvedTokenProgram transaction txMeta request
      details = .ok () := by
  simp only [verifyVersionedTransactionPreBroadcast, bind_eq_ok, envelopeCheck_eq_ok,
    refuseIf_eq_ok, exists_const] at hAccepted
  rcases hAccepted with ⟨version, -, budget, -, -, amount, hAmount, recipient, hRecipient, feePayer,
    hFeePayer, hNoCreation, policy, hPolicy, _, hPayment, -⟩
  rcases requestRecipient_eq_ok hRecipient with ⟨text, hText, hParsed⟩
  have hNoPayer : feePayer = none :=
    (expectedFeePayer_isSponsor hFeePayer).2 (by simp [hUnsponsored])
  subst hNoPayer
  have hExtracted := hRendered.extracted
  simp only [verifyParsedTransaction, hUnsponsored, Bool.false_eq_true, if_false, bind_eq_ok,
    okOr_eq_ok]
  refine ⟨amount, hAmount, text, hText, none, rfl, recipient, parseKey_eq_ok.mpr hParsed, policy,
    hPolicy, ?_⟩
  cases hNative : isNativeSol request with
  | true =>
      rw [hNative, if_pos rfl] at hPayment
      rcases nativePayment_agrees rfl hExtracted hPayment with
        ⟨transfers, matched, hTransfers, hMemos, hAllowed⟩
      simp only [if_true, bind_eq_ok, refuseIf_eq_ok, exists_const]
      rw [← Pubkey.display_of_fromStr hParsed]
      exact ⟨fun hCreation => hNoCreation ⟨hNative, hCreation⟩, transfers, hTransfers, matched,
        hMemos, hAllowed⟩
  | false =>
      rw [hNative, if_neg (by simp)] at hPayment
      rcases tokenPayment_agrees hTokenProgram rfl hExtracted hPayment with
        ⟨mint, tokenProgram, transfers, matched, hMint, hCurrency, hProgram, hTransfers, hMemos,
          hAllowed⟩
      simp only [Bool.false_eq_true, if_false, bind_eq_ok, refuseIf_eq_ok, exists_const,
        okOr_eq_ok]
      rw [← Pubkey.display_of_fromStr hParsed]
      refine ⟨mint, hMint, ?_, tokenProgramText, by simp [hTokenProgram], transfers, hTransfers,
        matched, hMemos, ?_⟩
      · simpa using hCurrency
      · rw [← hProgram]
        exact hAllowed

/-! ### A transaction both accept -/

/-- The rendering of a System transfer. -/
def transferImage (source destination : Pubkey) (lamports : ℕ) : Json :=
  .object [("program", .text "system"), ("programId", .text programs.systemProgram),
    ("parsed", .object [("type", .text "transfer"),
      ("info", .object [("source", .text source.display),
        ("destination", .text destination.display), ("lamports", .unsigned lamports)])])]

def memoImage (text : String) : Json :=
  .object [("program", .text "spl-memo"), ("programId", .text programs.memoProgram),
    ("parsed", .text text)]

theorem renders_transferImage {source destination : Pubkey} {lamports : ℕ}
    (hProgram : programOf keys ix = some systemProgram) (hSource : accountAt keys ix 0 = some source)
    (hDestination : accountAt keys ix 1 = some destination)
    (hLamports : fromLeBytes ix.data 4 12 = lamports) :
    Renders keys ix (transferImage source destination lamports) := by
  have hKind := @programs_ne_transfer systemProgram (.inl rfl)
  refine ⟨?_, ?_, ?_, ?_, ?_⟩
  · intro program hSame
    rw [hProgram] at hSame
    cases hSame
    rw [display_programs.1]
    rfl
  · intro _ _ _ _
    refine ⟨_, ⟨_, rfl, rfl, rfl⟩, ?_, ?_, ?_⟩
    · intro known hKnown
      rw [hSource] at hKnown
      cases hKnown
      rfl
    · intro known hKnown
      rw [hDestination] at hKnown
      cases hKnown
      rfl
    · rw [hLamports]
      rfl
  · intro hToken
    rw [hProgram] at hToken
    exact absurd rfl (systemProgram_ne_token (by simpa [isTokenProgram] using hToken))
  · intro text hMemo
    rw [hProgram] at hMemo
    exact absurd (Option.some.inj hMemo) hKind.1
  · intro hAta
    rw [hProgram] at hAta
    exact absurd (Option.some.inj hAta) hKind.2.2

theorem renders_memoImage {text : String} (hProgram : programOf keys ix = some memoProgram)
    (hData : ix.data = asBytes text) : Renders keys ix (memoImage text) := by
  refine ⟨?_, ?_, ?_, ?_, ?_⟩
  · intro program hSame
    rw [hProgram] at hSame
    cases hSame
    rw [display_programs.2.2.2.1]
    rfl
  · intro hSystem
    rw [hProgram] at hSystem
    exact absurd (Option.some.inj hSystem).symm (programs_ne_transfer (.inl rfl)).1
  · intro hToken
    rw [hProgram] at hToken
    have hKind : memoProgram = tokenProgram ∨ memoProgram = token2022Program := by
      simpa [isTokenProgram] using hToken
    exact absurd rfl (programs_ne_transfer (.inr hKind)).1
  · intro text' _ hText'
    rw [hData] at hText'
    rw [← asBytes_injective hText']
    rfl
  · intro hAta
    rw [hProgram] at hAta
    exact absurd (Option.some.inj hAta).symm memoProgram_ne.2

def unsponsoredDetails : MethodDetails where
  network := none
  decimals := none
  tokenProgram := some programs.tokenProgram
  feePayer := none
  feePayerKey := none
  splits := some [⟨(keyNumbered 4).display, "100", none, some "order-7"⟩]

def unsponsoredInstructions : List CompiledInstruction := [
  ⟨3, [0, 2], [2, 0, 0, 0, 100, 0, 0, 0, 0, 0, 0, 0]⟩,
  ⟨4, [], asBytes "order-7"⟩,
  ⟨3, [0, 1], [2, 0, 0, 0, 132, 3, 0, 0, 0, 0, 0, 0]⟩]

/-- The transaction of a payer without a sponsor: the split is paid first. -/
def unsponsoredTransaction : VersionedTransaction where
  signatures := [Signature.default]
  message := .v0
    { header := ⟨1, 0, 2⟩
      accountKeys := [keyNumbered 2, keyNumbered 3, keyNumbered 4, systemProgram, memoProgram]
      recentBlockhash := List.replicate 32 0
      instructions := unsponsoredInstructions }
    []

def unsponsoredImage : Json :=
  .object [("message", .object [("instructions", .array [
    transferImage (keyNumbered 2) (keyNumbered 4) 100,
    memoImage "order-7",
    transferImage (keyNumbered 2) (keyNumbered 3) 900])])]

theorem renders_unsponsoredTransaction :
    RendersTransaction unsponsoredTransaction unsponsoredImage none where
  instructions := by
    refine ⟨_, _, rfl, rfl, .cons ?_ (.cons ?_ (.cons ?_ .nil))⟩
    · exact renders_transferImage rfl rfl rfl (by decide)
    · exact renders_memoImage rfl rfl
    · exact renders_transferImage rfl rfl rfl (by decide)
  noInner := by simp

theorem accepted_pull_accepted_push_of_unsponsoredTransaction :
    verifyParsedTransaction (fun owner _ _ => owner) (some programs.tokenProgram) unsponsoredImage
      none splitCharge unsponsoredDetails = .ok () := by
  have hAccepted : verifyVersionedTransactionPreBroadcast (fun _ => .ok 308)
      (fun owner _ _ => owner) unsponsoredTransaction splitCharge unsponsoredDetails [.v0] =
        .ok () := by
    decide
  exact accepted_pull_accepted_push rfl rfl hAccepted renders_unsponsoredTransaction

end PayKit.Charge
