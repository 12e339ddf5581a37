import PayKit.Subscription.ActivationBuilder
import PayKit.Subscription.ActivationScope
import PayKit.Tx.CompiledOrder

/-!
# The activation a client builds is accepted

The instructions of a built activation are of the kinds that the server's scan looks for, each
once and in the order it asks for, and the message is signed by the keys that it counts. The
client takes the fee payer from the challenge, and the challenge takes it from the explicit
key of the configuration where there is one. The scope check takes it from the signer where there
is one. With two different keys in the configuration no activation passes both.
-/

namespace PayKit.Subscription

open Charge Control Encoding Machine Solana Tx

namespace ActivationScope

/-! ### What the scan accepts -/

section

variable {scope : ActivationScope} {kinds later : List ActivationKind} {kind : ActivationKind}
  {scan : ActivationScan} {ix : CompiledInstruction} {index : ℕ}

theorem isSome_of_kinds {seen : Option ℕ}
    (hSeen : ∀ index, seen = some index ↔ kinds[index]? = some kind) :
    seen.isSome = true ↔ kind ∈ kinds := by
  rw [Option.isSome_iff_exists, List.mem_iff_getElem?]
  exact exists_congr hSeen

theorem Scanned.saw_iff (hScanned : scope.Scanned kinds scan) :
    scan.saw kind = true ↔ kind ∈ kinds := by
  cases kind with
  | computeLimit => exact hScanned.computeLimit
  | computePrice => exact hScanned.computePrice
  | memo => exact hScanned.memo
  | ataCreation => exact isSome_of_kinds hScanned.ata
  | subscribe => exact isSome_of_kinds hScanned.subscribe
  | transfer => exact isSome_of_kinds hScanned.transfer

theorem fromLeBytes_tagged {tag : UInt8} {width number : ℕ} (hFits : number < 256 ^ width) :
    fromLeBytes ([tag] ++ encodeLE width number) 1 (1 + width) = number := by
  have hField := fromLeBytes_field [tag] [] hFits
  rwa [List.append_nil, List.length_singleton] at hField

/-- An instruction of a kind, where a payer among its accounts is the sponsor. -/
def Fits (scope : ActivationScope) (kind : ActivationKind) (ix : CompiledInstruction) : Prop :=
  scope.IsKind kind ix ∧ (ix.accounts.length = 9 → scope.sponsor ≠ none)

theorem scanSubscribe_of (hSubscribe : scope.IsSubscribe ix)
    (hSponsor : ix.accounts.length = 9 → scope.sponsor ≠ none)
    (hUnseen : scan.subscribe.isSome = false) :
    scope.scanSubscribe index ix scan = .ok (scan.note index .subscribe) := by
  have hPayer : scope.payerOk ix = true := by
    rcases hSubscribe.count with hCount | ⟨hCount, hAccount⟩
    · simp [payerOk, hCount]
    · simp [payerOk, hCount, hAccount, hSponsor hCount]
  simp [scanSubscribe, hUnseen, hPayer, hSubscribe.subscriber, hSubscribe.plan,
    hSubscribe.delegation, hSubscribe.authority, hSubscribe.system, hSubscribe.self,
    ActivationScan.note, refuseIf, bind, Except.bind, pure, Except.pure]

theorem account_of_table {table : List Pubkey}
    (hTable : ix.accounts.map (keyAt scope.keys) = table.map some) (position : ℕ) :
    scope.account ix position = table[position]? := by
  have hPosition := congrArg (·[position]?) hTable
  simp only [List.getElem?_map] at hPosition
  rw [account, accountAt]
  cases hIndex : ix.accounts[position]? with
  | none =>
      rw [hIndex, Option.map_none] at hPosition
      simpa using hPosition.symm
  | some index =>
      rw [hIndex, Option.map_some] at hPosition
      cases hKey : table[position]? with
      | none => simp [hKey] at hPosition
      | some key => simpa [hKey] using hPosition

theorem scanTransfer_of (hTransfer : scope.IsTransfer ix) (hUnseen : scan.transfer.isSome = false) :
    scope.scanTransfer index ix scan = .ok (scan.note index .transfer) := by
  rcases hTransfer.transfers with ⟨recipient, amount, hRecipient, hAmount, hTable, hData⟩
  have hCount : ix.accounts.length = 10 := by
    have hLengths := congrArg List.length hTable
    simpa [transferAccounts] using hLengths
  have hLength : ix.data.length = 73 := by
    simp [hData, length_encodeLE, scope.subscriber.length_bytes, scope.mint.length_bytes]
  have hFields : fromLeBytes ix.data 1 9 = amount ∧ slice ix.data 9 41 = scope.subscriber.bytes ∧
      slice ix.data 41 73 = scope.mint.bytes := by
    refine ⟨?_, ?_, ?_⟩
    · have hField := fromLeBytes_field [instructionTransferSubscription]
        (scope.subscriber.bytes ++ scope.mint.bytes)
        (show amount < 256 ^ 8 by have := parseU64_le hAmount; simp only [u64Max] at this; omega)
      rw [hData]
      simpa using hField
    · have hField := slice_field ([instructionTransferSubscription] ++ encodeLE 8 amount)
        scope.subscriber.bytes scope.mint.bytes
      rw [hData]
      simpa [length_encodeLE, scope.subscriber.length_bytes] using hField
    · have hField := slice_field ([instructionTransferSubscription] ++ encodeLE 8 amount ++
        scope.subscriber.bytes) scope.mint.bytes []
      rw [hData]
      simpa [length_encodeLE, scope.subscriber.length_bytes, scope.mint.length_bytes] using hField
  simp only [scanTransfer, bind_eq_ok, refuseIf_eq_ok, okOr_eq_ok, parsePubkey, mapError_eq_ok,
    exists_const]
  refine ⟨by simp [hUnseen], by simp [hCount, hLength], recipient, hRecipient, ?_, amount, hAmount,
    by simp [hFields], rfl⟩
  simp [account_of_table hTable]

theorem scanInstruction_of (hSeparate : scope.Separate) (hFits : scope.Fits kind ix)
    (hUnseen : scan.saw kind = false) :
    scope.scanInstruction index ix scan = .ok (scan.note index kind) := by
  rcases hSeparate with ⟨hBudget, hMemo, hAta⟩
  rcases hFits with ⟨hKind, hSponsor⟩
  cases kind with
  | computeLimit =>
      rcases hKind with ⟨hProgram, units, hCap, hData⟩
      have hUnits : fromLeBytes ix.data 1 5 = units := by
        have hWidth : units < 256 ^ 4 := by
          simp only [maxUnits] at hCap
          omega
        rw [hData]
        exact fromLeBytes_tagged hWidth
      have hHead : ix.data.head? = some 2 ∧ ix.data.length = 5 := by
        simp [hData, length_encodeLE]
      have hUnlimited : scan.sawComputeLimit = false := hUnseen
      simp only [scanInstruction, hProgram, if_true, scanComputeBudget, hHead, and_self, hUnits,
        hUnlimited, refuseIf]
      simp [not_lt.mpr hCap, ActivationScan.note, bind, Except.bind, pure, Except.pure]
  | computePrice =>
      rcases hKind with ⟨hProgram, price, hCap, hData⟩
      have hFits : price < 256 ^ 8 := by
        simp only [maxPrice] at hCap
        split at hCap <;> omega
      have hPrice : fromLeBytes ix.data 1 9 = price := by
        rw [hData]
        exact fromLeBytes_tagged hFits
      have hHead : ix.data.head? = some 3 ∧ ix.data.length = 9 := by
        simp [hData, length_encodeLE]
      have hUnpriced : scan.sawComputePrice = false := hUnseen
      simp only [scanInstruction, hProgram, if_true, scanComputeBudget, hHead, hPrice, hUnpriced,
        refuseIf]
      simp [not_lt.mpr hCap, ActivationScan.note, bind, Except.bind, pure, Except.pure]
  | memo =>
      rcases hKind with ⟨hProgram, hText⟩
      have hNone : scan.sawMemo = false := hUnseen
      have hOther : memoProgram ≠ computeBudgetProgram := by decide
      simp [scanInstruction, hProgram, hOther, scanMemo, hNone, hText, refuseIf, bind, Except.bind,
        pure, Except.pure, ActivationScan.note]
  | ataCreation =>
      have hNone : scan.ata.isSome = false := hUnseen
      have hOther : ataProgram ≠ computeBudgetProgram ∧ ataProgram ≠ memoProgram := by decide
      simp [scanInstruction, hKind.program, hOther, scanAtaCreation, hNone, hKind.idempotent,
        hKind.count, hKind.owner, hKind.mint, hKind.system, hKind.token, refuseIf, bind,
        Except.bind, pure, Except.pure, ActivationScan.note]
  | subscribe =>
      have hDiscriminator : instructionSubscribe ≠ instructionInitializeSubscriptionAuthority := by
        decide
      simp only [scanInstruction, hKind.program, hBudget, hMemo, hAta, if_false, if_true,
        scanSubscription, hKind.discriminator, hDiscriminator]
      exact scanSubscribe_of hKind hSponsor hUnseen
  | transfer =>
      have hHead : ix.data.head? = some instructionTransferSubscription := by
        rcases hKind.transfers with ⟨recipient, amount, -, -, -, hData⟩
        simp [hData]
      have hDiscriminator :
          instructionTransferSubscription ≠ instructionInitializeSubscriptionAuthority ∧
          instructionTransferSubscription ≠ instructionSubscribe := by
        decide
      simp only [scanInstruction, hKind.program, hBudget, hMemo, hAta, if_false, if_true,
        scanSubscription, hHead, hDiscriminator]
      exact scanTransfer_of hKind hUnseen

theorem scanInstructions_of {instructions : List CompiledInstruction} (hSeparate : scope.Separate)
    (hFits : List.Forall₂ scope.Fits later instructions) (hScanned : scope.Scanned kinds scan)
    (hNodup : (kinds ++ later).Nodup) :
    ∃ final, scope.scanInstructions kinds.length instructions scan = .ok final ∧
      scope.Scanned (kinds ++ later) final := by
  induction hFits generalizing kinds scan with
  | nil => exact ⟨scan, rfl, by simpa using hScanned⟩
  | @cons kind ix later rest hFits hRest hInduction =>
      have hFresh : kind ∉ kinds := by
        intro hMem
        exact (List.nodup_append.mp hNodup).2.2 kind hMem kind List.mem_cons_self rfl
      have hUnseen : scan.saw kind = false := by
        rw [← Bool.not_eq_true, hScanned.saw_iff]
        exact hFresh
      have hNoted := hScanned.note hUnseen fun _ => hSeparate
      rw [List.append_cons] at hNodup
      rcases hInduction hNoted hNodup with ⟨final, hScan, hFinal⟩
      refine ⟨final, ?_, by simpa using hFinal⟩
      rw [List.length_append, List.length_singleton] at hScan
      rw [scanInstructions, scanInstruction_of hSeparate hFits hUnseen]
      exact hScan

end

end ActivationScope

/-! ### The kinds of a built activation -/

def budgetKinds : TxVersion → List ActivationKind
  | .v0 => [.computeLimit, .computePrice]
  | .v1 => []

/-- The kinds of the instructions that a client builds. -/
def activationKinds (version : TxVersion) (externalId : Option String) : List ActivationKind :=
  budgetKinds version ++
    ([.ataCreation, .subscribe, .transfer] ++ (externalId.map fun _ => .memo).toList)

theorem nodup_activationKinds {version : TxVersion} {externalId : Option String} :
    (activationKinds version externalId).Nodup := by
  cases version <;> cases externalId <;> simp [activationKinds, budgetKinds]

theorem checkScan_of {scope : ActivationScope} {version : TxVersion} {externalId : Option String}
    {scan : ActivationScan} (hScanned : scope.Scanned (activationKinds version externalId) scan) :
    checkScan externalId scan = .ok () := by
  have hAta : scan.ata = some (budgetKinds version).length :=
    (hScanned.ata _).mpr (by cases version <;> rfl)
  have hSubscribe : scan.subscribe = some ((budgetKinds version).length + 1) :=
    (hScanned.subscribe _).mpr (by cases version <;> rfl)
  have hTransfer : scan.transfer = some ((budgetKinds version).length + 2) :=
    (hScanned.transfer _).mpr (by cases version <;> rfl)
  have hMemo : scan.sawMemo = externalId.isSome := by
    rw [Bool.eq_iff_iff, hScanned.memo]
    cases version <;> cases externalId <;> simp [activationKinds, budgetKinds]
  simp [checkScan, hAta, hSubscribe, hTransfer, hMemo, okOr, refuseIf, bind, Except.bind]

/-! ### The instructions of a built activation -/

/-- The scope is what the plan's terms say. -/
structure ActivationScope.Describes (scope : ActivationScope) (client : ActivationClient)
    (signer : Pubkey) (terms : SubscriptionTerms) : Prop where
  programId : scope.programId = terms.subscriptionProgram
  mint : scope.mint = terms.mint
  tokenProgram : scope.tokenProgram = terms.tokenProgram.programId
  puller : scope.puller = terms.puller
  planPda : scope.planPda = terms.planAddress
  subscriber : scope.subscriber = signer
  expectedSubscription : scope.expectedSubscription =
    findSubscriptionPda client.findProgramAddress terms.planAddress signer
      terms.subscriptionProgram
  expectedAuthority : scope.expectedAuthority =
    findSubscriptionAuthorityPda client.findProgramAddress signer terms.mint
      terms.subscriptionProgram
  sponsor : scope.sponsor = terms.feePayer.sponsor
  findProgramAddress : scope.findProgramAddress = client.findProgramAddress
  recipient : Pubkey.fromStr scope.request.recipient = .ok terms.recipient
  amount : parseU64 scope.request.amount = some terms.amount.value
  externalId : scope.request.externalId = terms.externalId

section

variable {scope : ActivationScope} {client : ActivationClient} {subscriber : Pubkey}
  {plan : VerifiedPlan} {initId : ℤ} {ix : CompiledInstruction}

theorem fromUTF8?_asBytes (text : String) :
    String.fromUTF8? ⟨(asBytes text).toArray⟩ = some text := by
  have hBytes : (⟨(asBytes text).toArray⟩ : ByteArray) = text.toByteArray := by
    simp [asBytes]
  rw [hBytes, String.fromUTF8?, dif_pos text.isValidUTF8]
  rfl

theorem fits_unitLimit (hRenders : Tx.Renders scope.keys (unitLimitInstruction 400000) ix) :
    scope.Fits .computeLimit ix :=
  ⟨⟨hRenders.program, 400000, Nat.le_refl _, hRenders.data⟩, by simp [hRenders.length,
    unitLimitInstruction]⟩

theorem fits_unitPrice (hRenders : Tx.Renders scope.keys (unitPriceInstruction 1) ix) :
    scope.Fits .computePrice ix := by
  have hCap : 1 ≤ scope.maxPrice := by
    rw [ActivationScope.maxPrice]
    split <;> omega
  exact ⟨⟨hRenders.program, 1, hCap, hRenders.data⟩, by simp [hRenders.length,
    unitPriceInstruction]⟩

theorem fits_memo (hDescribes : scope.Describes client subscriber plan.terms) {text : String}
    (hText : plan.terms.externalId = some text)
    (hRenders : Tx.Renders scope.keys (memoIx text) ix) :
    scope.Fits .memo ix := by
  refine ⟨⟨hRenders.program, ?_⟩, by simp [hRenders.length, memoIx]⟩
  rw [hDescribes.externalId, hText, hRenders.data]
  exact (fromUTF8?_asBytes text).symm

theorem fits_ata (hDescribes : scope.Describes client subscriber plan.terms)
    (hRenders : Tx.Renders scope.keys (ataInstruction client subscriber plan) ix) :
    scope.Fits .ataCreation ix := by
  have hAccount := hRenders.account
  have hLength : ix.accounts.length = 6 := hRenders.length
  refine ⟨⟨hRenders.program, hRenders.data, hLength, ?_, ?_, ?_, ?_⟩, by simp [hLength]⟩
  · rw [hDescribes.subscriber]
    exact hAccount 2
  · rw [hDescribes.mint]
    exact hAccount 3
  · exact hAccount 4
  · rw [hDescribes.tokenProgram]
    exact hAccount 5

theorem fits_subscribe (hDescribes : scope.Describes client subscriber plan.terms)
    (hRenders : Tx.Renders scope.keys (subscribeInstruction client subscriber plan initId) ix) :
    scope.Fits .subscribe ix := by
  have hAccount := hRenders.account
  have hPayer : ∀ payer, plan.terms.feePayer.sponsor = payer →
      (ix.accounts.length = 8 ∨ (ix.accounts.length = 9 ∧ scope.account ix 8 = scope.sponsor)) ∧
      (ix.accounts.length = 9 → scope.sponsor ≠ none) := by
    intro payer hPayer
    have hLength := hRenders.length
    have hLast := hAccount 8
    simp only [subscribeInstruction, buildSubscribeIx, hPayer] at hLength hLast
    cases payer with
    | none =>
        have hEight : ix.accounts.length = 8 := hLength
        exact ⟨.inl hEight, by simp [hEight]⟩
    | some payer =>
        rw [hDescribes.sponsor, hPayer]
        exact ⟨.inr ⟨hLength, hLast⟩, by simp⟩
  refine ⟨⟨?_, ?_, (hPayer _ rfl).1, ?_, ?_, ?_, ?_, ?_, ?_⟩, (hPayer _ rfl).2⟩
  · rw [hDescribes.programId]
    exact hRenders.program
  · rw [hRenders.data]
    rfl
  · rw [hDescribes.subscriber]
    exact hAccount 0
  · rw [hDescribes.planPda]
    exact hAccount 2
  · rw [hDescribes.expectedSubscription]
    exact hAccount 3
  · rw [hDescribes.expectedAuthority]
    exact hAccount 4
  · exact hAccount 5
  · rw [hDescribes.programId]
    exact hAccount 7

theorem fits_transfer (hDescribes : scope.Describes client subscriber plan.terms)
    (hRenders : Tx.Renders scope.keys (transferInstruction client subscriber plan) ix) :
    scope.Fits .transfer ix := by
  have hLength : ix.accounts.length = 10 := hRenders.length
  refine ⟨⟨?_, plan.terms.recipient, plan.terms.amount.value, hDescribes.recipient,
    hDescribes.amount, ?_, ?_⟩, by simp [hLength]⟩
  · rw [hDescribes.programId]
    exact hRenders.program
  · rw [hRenders.accounts]
    simp [transferInstruction, buildTransferSubscriptionIx, ActivationScope.transferAccounts,
      AccountMeta.new, AccountMeta.newReadonly, hDescribes.expectedSubscription, hDescribes.planPda,
      hDescribes.expectedAuthority, hDescribes.findProgramAddress, hDescribes.subscriber,
      hDescribes.tokenProgram, hDescribes.mint, hDescribes.puller, hDescribes.programId]
  · rw [hRenders.data, hDescribes.subscriber, hDescribes.mint]
    rfl

theorem forall₂_fits {version : TxVersion} {instructions : List CompiledInstruction}
    {budget : ComputeBudget} (hLimit : budget.unitLimit = 400000)
    (hPrice : budget.unitPriceMicroLamports = 1)
    (hDescribes : scope.Describes client subscriber plan.terms)
    (hRendered : List.Forall₂ (Tx.Renders scope.keys)
      (budgeted version budget (activationInstructions client subscriber plan initId))
      instructions) :
    List.Forall₂ scope.Fits (activationKinds version plan.terms.externalId) instructions := by
  have hMemo : ∀ rest, List.Forall₂ (Tx.Renders scope.keys)
      (plan.terms.externalId.map memoIx).toList rest →
      List.Forall₂ scope.Fits (plan.terms.externalId.map fun _ => .memo).toList rest := by
    intro rest hRest
    cases hText : plan.terms.externalId with
    | none =>
        rw [hText] at hRest
        cases hRest
        exact .nil
    | some text =>
        rw [hText] at hRest
        rcases hRest with _ | ⟨hRenders, hNil⟩
        cases hNil
        exact .cons (fits_memo hDescribes hText hRenders) .nil
  have hBody : ∀ rest, List.Forall₂ (Tx.Renders scope.keys)
      (activationInstructions client subscriber plan initId) rest →
      List.Forall₂ scope.Fits (activationKinds .v1 plan.terms.externalId) rest := by
    intro rest hRest
    rcases hRest with _ | ⟨hAta, _ | ⟨hSubscribe, _ | ⟨hTransfer, hRest⟩⟩⟩
    exact .cons (fits_ata hDescribes hAta) (.cons (fits_subscribe hDescribes hSubscribe)
      (.cons (fits_transfer hDescribes hTransfer) (hMemo _ hRest)))
  cases version with
  | v0 =>
      simp only [budgeted, ComputeBudget.instructions, hLimit, hPrice, List.cons_append,
        List.nil_append] at hRendered
      rcases hRendered with _ | ⟨hUnits, _ | ⟨hUnitPrice, hRest⟩⟩
      exact .cons (fits_unitLimit hUnits) (.cons (fits_unitPrice hUnitPrice) (hBody _ hRest))
  | v1 => exact hBody _ hRendered

theorem signs_activation {version : TxVersion} {budget : ComputeBudget} {key : Pubkey} :
    (key = plan.terms.feePayer.sponsor.getD subscriber ∨
      IsSigner (budgeted version budget (activationInstructions client subscriber plan initId)) key)
      ↔ key = plan.terms.feePayer.sponsor.getD subscriber ∨ key = subscriber ∨
        key = plan.terms.puller := by
  have hBody : IsSigner (activationInstructions client subscriber plan initId) key ↔
      plan.terms.feePayer.sponsor.getD subscriber = key ∨ subscriber = key ∨
        plan.terms.feePayer.sponsor = some key ∨ plan.terms.puller = key := by
    cases hText : plan.terms.externalId <;> cases hSponsor : plan.terms.feePayer.sponsor <;>
      simp [IsSigner, activationInstructions, ataInstruction, subscribeInstruction,
        transferInstruction, buildCreateIdempotentAtaIx, buildSubscribeIx,
        buildTransferSubscriptionIx, memoIx, AccountMeta.new, AccountMeta.newReadonly, hText,
        hSponsor] <;> tauto
  have hBudgeted : IsSigner
      (budgeted version budget (activationInstructions client subscriber plan initId)) key ↔
      IsSigner (activationInstructions client subscriber plan initId) key := by
    cases version <;>
      simp [IsSigner, budgeted, ComputeBudget.instructions, unitLimitInstruction,
        unitPriceInstruction]
  rw [hBudgeted, hBody]
  cases hSponsor : plan.terms.feePayer.sponsor with
  | none =>
      simp only [Option.getD_none, eq_comm (a := key)]
      tauto
  | some sponsor =>
      simp only [Option.getD_some, Option.some.injEq, eq_comm (a := key)]
      tauto

end

/-! ### The signers of a built activation -/

theorem dedupKeys_sublist {keys : List Pubkey} : (dedupKeys keys).Sublist keys := by
  fun_induction dedupKeys keys with
  | case1 second rest hInduction => exact hInduction.cons _
  | case2 first second rest hDifferent hInduction => exact hInduction.cons_cons _
  | case3 keys hShort => exact List.Sublist.refl _

section

variable {tx : VersionedTransaction} {config : SubscriptionConfig}
  {feePayer subscriber puller : Pubkey}

theorem checkActivationSigners_of (hFirst : tx.message.staticAccountKeys.head? = some feePayer)
    (hUnsponsored : config.feePayer = false → feePayer = subscriber)
    (hSigned : SignedBy tx feePayer subscriber puller) :
    checkActivationSigners tx config subscriber puller = .ok () := by
  have hSorted : (sortKeys [feePayer, subscriber, puller]).Pairwise keyBefore :=
    List.pairwise_insertionSort keyBefore _
  have hSame : sortKeys (tx.message.staticAccountKeys.take
      tx.message.header.numRequiredSignatures.toNat) =
      dedupKeys (sortKeys [feePayer, subscriber, puller]) := by
    refine List.Perm.eq_of_pairwise (fun _ _ _ _ => keyBefore_antisymm)
      (List.pairwise_insertionSort keyBefore _) (hSorted.sublist dedupKeys_sublist) ?_
    refine (List.perm_insertionSort keyBefore _).trans ?_
    rw [List.perm_ext_iff_of_nodup hSigned.once (nodup_dedupKeys hSorted)]
    intro key
    rw [hSigned.exactly, mem_dedupKeys, sortKeys, List.mem_insertionSort]
    simp
  have hPaid : ¬(config.feePayer = false ∧ feePayer ≠ subscriber) := by
    rintro ⟨hNone, hOther⟩
    exact hOther (hUnsponsored hNone)
  simp [checkActivationSigners, hFirst, hSame, hPaid, hSigned.signatures, okOr, refuseIf, bind,
    Except.bind]

theorem find_subscriber (hFirst : tx.message.staticAccountKeys.head? = some feePayer)
    (hSigned : SignedBy tx feePayer subscriber puller) (hPayer : subscriber ≠ feePayer)
    (hPuller : subscriber ≠ puller) :
    (((tx.message.staticAccountKeys.take
        tx.message.header.numRequiredSignatures.toNat).drop 1).find?
      fun key => key ≠ puller ∧ key ≠ feePayer) = some subscriber := by
  have hSubscriber := (hSigned.exactly subscriber).mpr (.inr (.inl rfl))
  have hRest : subscriber ∈ (tx.message.staticAccountKeys.take
      tx.message.header.numRequiredSignatures.toNat).drop 1 := by
    cases hKeys : tx.message.staticAccountKeys with
    | nil => simp [hKeys] at hFirst
    | cons first rest =>
        rw [hKeys, List.head?_cons, Option.some.injEq] at hFirst
        cases hRequired : tx.message.header.numRequiredSignatures.toNat with
        | zero => simp [hRequired] at hSubscriber
        | succ required =>
            rw [hKeys, hRequired, List.take_succ_cons, List.mem_cons] at hSubscriber
            rcases hSubscriber with hSame | hLater
            · exact absurd (hSame.trans hFirst) hPayer
            · simpa using hLater
  cases hFound : ((tx.message.staticAccountKeys.take
      tx.message.header.numRequiredSignatures.toNat).drop 1).find?
      fun key => key ≠ puller ∧ key ≠ feePayer with
  | none =>
      have hNone := List.find?_eq_none.mp hFound subscriber hRest
      simp [hPuller, hPayer] at hNone
  | some key =>
      have hOther := List.find?_some hFound
      rw [decide_eq_true_eq] at hOther
      have hMember := List.mem_of_mem_drop (List.mem_of_find?_eq_some hFound)
      have hKey := (hSigned.exactly key).mp hMember
      rcases hKey with rfl | rfl | rfl
      · exact absurd rfl hOther.2
      · rfl
      · exact absurd rfl hOther.1

end

/-! ### The terms of a challenge -/

theorem parsePositiveInteger_eq_ok {value field : String} {number : NonZeroU64}
    (hParsed : parsePositiveInteger value field = .ok number) :
    parseU64 value = some number.value := by
  simp only [parsePositiveInteger, refuseIf_bind_eq_ok] at hParsed
  rcases hParsed with ⟨-, -, -, hNumber⟩
  split at hNumber
  next => cases hNumber
  next parsed hValue =>
    split at hNumber
    next =>
      cases hNumber
      exact hValue
    next => cases hNumber

theorem clientPubkey_eq_ok {value field : String} {key : Pubkey} :
    clientPubkey value field = .ok key ↔ Pubkey.fromStr value = .ok key :=
  mapError_eq_ok

theorem tokenProgram_eq_ok {value : String} {program : SubscriptionTokenProgram}
    (hParsed : SubscriptionTokenProgram.parse value = .ok program) :
    Pubkey.fromStr value = .ok program.programId := by
  simp only [SubscriptionTokenProgram.parse, bind_eq_ok, clientPubkey_eq_ok] at hParsed
  rcases hParsed with ⟨key, hKey, hProgram⟩
  split at hProgram
  next hToken =>
    cases hProgram
    rw [hKey, hToken]
    rfl
  next =>
    split at hProgram
    next hToken =>
      cases hProgram
      rw [hKey, hToken]
      rfl
    next => cases hProgram

/-- The key that a challenge names as the fee payer's. -/
def SubscriptionConfig.challengedPayer (config : SubscriptionConfig) : Option String :=
  config.feePayerPubkey.or (config.feePayerSigner.map Pubkey.display)

/-- The terms are what the server's configuration says. -/
structure ActivationServer.Issues (server : ActivationServer) (externalId : Option String)
    (terms : SubscriptionTerms) : Prop where
  amount : parseU64 server.amountBaseUnits = some terms.amount.value
  recipient : Pubkey.fromStr server.recipient = .ok terms.recipient
  externalId : terms.externalId = externalId
  mint : Pubkey.fromStr server.config.mint = .ok terms.mint
  tokenProgram : Pubkey.fromStr server.config.tokenProgram = .ok terms.tokenProgram.programId
  puller : Pubkey.fromStr server.config.puller = .ok terms.puller
  planAddress : Pubkey.fromStr server.config.planId = .ok terms.planAddress
  subscriptionProgram : Pubkey.fromStr server.programId = .ok terms.subscriptionProgram
  versions : advertisedVersions terms.transactionVersions = server.acceptedVersions
  unsponsored : server.config.feePayer = false → terms.feePayer = .subscriber
  sponsored : server.config.feePayer = true → ∃ text key,
    server.config.challengedPayer = some text ∧ Pubkey.fromStr text = .ok key ∧
      terms.feePayer = .server key

theorem advertisedVersions_advertised {accepted : List TxVersion} :
    advertisedVersions (advertised accepted) = accepted := by
  rw [advertised, advertisedVersions]
  split
  next hDefault => rw [hDefault, Option.getD_none]
  next => rw [Option.getD_some]

theorem issues_of_parsed {parseHash : String → Except String (List UInt8)}
    {server : ActivationServer} {externalId hash : Option String} {terms : SubscriptionTerms}
    (hTerms : SubscriptionTerms.parse parseHash (server.request externalId hash) = .ok terms) :
    server.Issues externalId terms := by
  simp only [SubscriptionTerms.parse, ActivationServer.request, bind_eq_ok, okOr_eq_ok,
    clientPubkey_eq_ok, Option.some.injEq, exists_eq_left', refuseIf_eq_ok, pure, Except.pure,
    Except.ok.injEq] at hTerms
  rcases hTerms with ⟨amount, hAmount, hours, -, recipient, hRecipient, -, -, mint, hMint, -, -, -, -,
    feePayer, hPayer, blockhash, -, planAddress, hPlan, tokenProgram, hToken, puller,
    hPuller, program, hProgram, rfl⟩
  exact {
    amount := parsePositiveInteger_eq_ok hAmount
    recipient := hRecipient
    externalId := rfl
    mint := hMint
    tokenProgram := tokenProgram_eq_ok hToken
    puller := hPuller
    planAddress := hPlan
    subscriptionProgram := hProgram
    versions := advertisedVersions_advertised
    unsponsored := by
      intro hNone
      rw [SubscriptionMethodDetails.payer, hNone] at hPayer
      cases hPayer
      rfl
    sponsored := by
      intro hSponsored
      simp only [SubscriptionMethodDetails.payer, hSponsored, if_true, bind_eq_ok, okOr_eq_ok,
        clientPubkey_eq_ok, pure, Except.pure, Except.ok.injEq] at hPayer
      rcases hPayer with ⟨text, hText, key, hKey, rfl⟩
      exact ⟨text, key, hText, hKey, rfl⟩ }

/-! ### The build -/

/-- The size of a transaction is one of its message and of how many signatures it has. -/
def SizedByShape (serializedSize : VersionedTransaction → Except String ℕ) : Prop :=
  ∀ left right : VersionedTransaction, left.message = right.message →
    left.signatures.length = right.signatures.length → serializedSize left = serializedSize right

theorem signVersionedTransactionSlot_eq_ok {signer : TransactionSigner}
    {tx signed : VersionedTransaction}
    (hSigned : signVersionedTransactionSlot signer tx = .ok signed) :
    signed.message = tx.message ∧ signed.signatures.length = tx.signatures.length := by
  simp only [signVersionedTransactionSlot, bind_eq_ok, refuseIf_eq_ok, okOr_eq_ok, mapError_eq_ok,
    pure, Except.pure, Except.ok.injEq] at hSigned
  rcases hSigned with ⟨index, -, -, -, -, -, signature, -, rfl⟩
  exact ⟨rfl, List.length_set⟩

theorem checkLimits_eq {serializedSize : VersionedTransaction → Except String ℕ}
    (hSize : SizedByShape serializedSize) {left right : VersionedTransaction} {version : TxVersion}
    (hMessage : left.message = right.message)
    (hLength : left.signatures.length = right.signatures.length) :
    checkLimits serializedSize left version = checkLimits serializedSize right version := by
  rw [checkLimits, checkLimits, hSize left right hMessage hLength, hMessage]

/-- The budget of a build with the default options. -/
def activationBudget : ComputeBudget :=
  ⟨400000, 1, maxLoadedAccountsDataSizeBytes⟩

/-- The instructions of an activation, compiled for a fee payer into a message of a version. -/
structure BuiltActivation (client : ActivationClient) (subscriber : Pubkey) (plan : VerifiedPlan)
    (tx : VersionedTransaction) (version : TxVersion) (initId : ℤ) (message : Message) : Prop where
  negotiated : version ∈ advertisedVersions plan.terms.transactionVersions
  compiled : CompiledFrom (plan.terms.feePayer.sponsor.getD subscriber)
    (budgeted version activationBudget (activationInstructions client subscriber plan initId))
    message
  carried : tx.message = ofVersion version activationBudget message
  signatures : tx.signatures.length = message.header.numRequiredSignatures.toNat
  limits : ∃ size, checkLimits client.serializedSize tx version = .ok size

theorem buildSubscriptionActivationTransaction_eq_ok {client : ActivationClient}
    {signer : TransactionSigner} {plan : VerifiedPlan}
    {options : BuildSubscriptionActivationOptions} {tx : VersionedTransaction}
    (hCompiles : Compiles client.compile) (hSize : SizedByShape client.serializedSize)
    (hLimit : options.computeUnitLimit = none) (hPrice : options.computeUnitPrice = none)
    (hBuilt : buildSubscriptionActivationTransaction client signer plan options = .ok tx) :
    ∃ version initId message,
      BuiltActivation client signer.pubkey plan tx version initId message := by
  simp only [buildSubscriptionActivationTransaction, hLimit, hPrice, Option.getD_none, bind_eq_ok,
    mapError_eq_ok, buildUnsigned, pure, Except.pure, Except.ok.injEq] at hBuilt
  rcases hBuilt with ⟨blockhash, -, initId, -, version, hVersion, unsigned,
    ⟨unchecked, hUnchecked, size, hLimits, rfl⟩, hSigned⟩
  rcases buildUnsignedUnchecked_eq_ok hUnchecked with ⟨message, hMessage, rfl⟩
  rcases signVersionedTransactionSlot_eq_ok hSigned with ⟨hSame, hLength⟩
  exact ⟨version, initId, message, {
    negotiated := negotiate_mem hVersion
    compiled := hCompiles _ _ _ _ _ hMessage
    carried := hSame
    signatures := by rw [hLength, List.length_replicate]
    limits := ⟨size, by rw [checkLimits_eq hSize hSame hLength, hLimits]⟩ }⟩

/-! ### What a built activation passes -/

/-- The configuration does not name two different fee payers. -/
def SubscriptionConfig.NamesOnePayer (config : SubscriptionConfig) : Prop :=
  config.feePayer = true → ∀ text key, config.feePayerPubkey = some text →
    config.feePayerSigner = some key → Pubkey.fromStr text = .ok key

/-- The program is none of the programs beside the subscriptions program. -/
def IsSeparate (program : Pubkey) : Prop :=
  program ≠ computeBudgetProgram ∧ program ≠ memoProgram ∧ program ≠ ataProgram

section

variable {client : ActivationClient} {server : ActivationServer} {plan : VerifiedPlan}
  {subscriber : Pubkey} {tx : VersionedTransaction} {version : TxVersion} {initId : ℤ}
  {message : Message} {externalId hash : Option String}

/-- The fee payer of an activation. -/
def VerifiedPlan.payer (plan : VerifiedPlan) (subscriber : Pubkey) : Pubkey :=
  plan.terms.feePayer.sponsor.getD subscriber

/-- The scope of the server's check, in the terms of the challenge. -/
def ActivationServer.scope (server : ActivationServer) (client : ActivationClient)
    (tx : VersionedTransaction) (request : SubscriptionRequest) (terms : SubscriptionTerms)
    (subscriber : Pubkey) : ActivationScope :=
  activationScope client.findProgramAddress tx request server.config terms.subscriptionProgram
    terms.mint terms.tokenProgram.programId terms.puller terms.planAddress subscriber

theorem IsSeparate.scope {request : SubscriptionRequest} {terms : SubscriptionTerms}
    (hSeparate : IsSeparate terms.subscriptionProgram) :
    (server.scope client tx request terms subscriber).Separate :=
  hSeparate

theorem BuiltActivation.body
    (hBuilt : BuiltActivation client subscriber plan tx version initId message) :
    tx.message.body = message := by
  rw [hBuilt.carried]
  cases version <;> rfl

theorem BuiltActivation.of_message
    (hBuilt : BuiltActivation client subscriber plan tx version initId message) :
    TxVersion.of tx.message = version := by
  rw [hBuilt.carried]
  cases version <;> rfl

theorem BuiltActivation.head
    (hBuilt : BuiltActivation client subscriber plan tx version initId message) :
    tx.message.staticAccountKeys.head? = some (plan.payer subscriber) := by
  rw [VersionedMessage.staticAccountKeys, hBuilt.body]
  exact hBuilt.compiled.payerFirst

theorem BuiltActivation.signedBy
    (hBuilt : BuiltActivation client subscriber plan tx version initId message) :
    SignedBy tx (plan.payer subscriber) subscriber plan.terms.puller := by
  have hBody := hBuilt.body
  refine ⟨?_, ?_, ?_⟩
  · rw [VersionedMessage.staticAccountKeys, hBody]
    exact hBuilt.compiled.distinct.sublist (List.take_sublist _ _)
  · intro key
    rw [VersionedMessage.staticAccountKeys, VersionedMessage.header, hBody,
      hBuilt.compiled.signers]
    exact signs_activation
  · rw [VersionedMessage.header, hBody]
    exact hBuilt.signatures

theorem BuiltActivation.describes
    (hBuilt : BuiltActivation client subscriber plan tx version initId message)
    (hIssues : server.Issues externalId plan.terms) (hash : Option String) :
    (server.scope client tx (server.request externalId hash).toSubscriptionRequest plan.terms
      subscriber).Describes client subscriber plan.terms where
  programId := rfl
  mint := rfl
  tokenProgram := rfl
  puller := rfl
  planPda := rfl
  subscriber := rfl
  expectedSubscription := rfl
  expectedAuthority := rfl
  sponsor := by
    simp only [ActivationServer.scope, activationScope, hBuilt.head]
    cases hSponsored : server.config.feePayer with
    | false => simp [hIssues.unsponsored hSponsored, ActivationFeePayer.sponsor]
    | true =>
        rcases hIssues.sponsored hSponsored with ⟨text, key, -, -, hPayer⟩
        simp [VerifiedPlan.payer, hPayer, ActivationFeePayer.sponsor]
  findProgramAddress := rfl
  recipient := hIssues.recipient
  amount := hIssues.amount
  externalId := hIssues.externalId.symm

theorem BuiltActivation.fits
    (hBuilt : BuiltActivation client subscriber plan tx version initId message)
    (hIssues : server.Issues externalId plan.terms) (hash : Option String) :
    List.Forall₂ (server.scope client tx (server.request externalId hash).toSubscriptionRequest
      plan.terms subscriber).Fits (activationKinds version plan.terms.externalId)
      tx.message.instructions := by
  have hRendered := hBuilt.compiled.instructions
  rw [← hBuilt.body] at hRendered
  exact forall₂_fits rfl rfl (hBuilt.describes hIssues hash) hRendered

theorem BuiltActivation.passesEnvelope
    (hBuilt : BuiltActivation client subscriber plan tx version initId message)
    (hIssues : server.Issues externalId plan.terms) :
    checkEnvelope client.serializedSize tx server.acceptedVersions = .ok version := by
  rcases hBuilt.limits with ⟨size, hLimits⟩
  have hAccepted : version ∈ server.acceptedVersions := by
    rw [← hIssues.versions]
    exact hBuilt.negotiated
  have hStatic : requireStaticAccounts tx.message = .ok () := by
    rw [hBuilt.carried]
    cases version <;> rfl
  simp [checkEnvelope, hBuilt.of_message, hAccepted, hStatic, hLimits, refuseIf, bind,
    Except.bind, pure, Except.pure]

theorem ActivationScope.Fits.not_computeBudget {scope : ActivationScope} {kind : ActivationKind}
    {ix : CompiledInstruction} (hSeparate : scope.Separate) (hFits : scope.Fits kind ix)
    (hKind : kind ∉ budgetKinds .v0) :
    DeclaredBudget.isComputeBudget scope.keys ix = false := by
  have hProgram : ∃ program, programOf scope.keys ix = some program ∧
      program ≠ computeBudgetProgram := by
    rcases hFits with ⟨hIs, -⟩
    cases kind with
    | computeLimit => simp [budgetKinds] at hKind
    | computePrice => simp [budgetKinds] at hKind
    | memo => exact ⟨memoProgram, hIs.1, by decide⟩
    | ataCreation => exact ⟨ataProgram, hIs.program, by decide⟩
    | subscribe => exact ⟨scope.programId, hIs.program, hSeparate.1⟩
    | transfer => exact ⟨scope.programId, hIs.program, hSeparate.1⟩
  rcases hProgram with ⟨program, hProgram, hOther⟩
  simp [DeclaredBudget.isComputeBudget, hProgram, hOther]

theorem no_computeBudget {scope : ActivationScope} {kinds : List ActivationKind}
    {instructions : List CompiledInstruction} (hSeparate : scope.Separate)
    (hFits : List.Forall₂ scope.Fits kinds instructions)
    (hKinds : ∀ kind ∈ kinds, kind ∉ budgetKinds .v0) :
    instructions.any (DeclaredBudget.isComputeBudget scope.keys) = false := by
  induction hFits with
  | nil => rfl
  | cons hFits _ hInduction =>
      rw [List.forall_mem_cons] at hKinds
      rw [List.any_cons, hFits.not_computeBudget hSeparate hKinds.1, hInduction hKinds.2]
      rfl

theorem BuiltActivation.passesCaps
    (hBuilt : BuiltActivation client subscriber plan tx version initId message)
    (hIssues : server.Issues externalId plan.terms)
    (hSeparate : IsSeparate plan.terms.subscriptionProgram) {maxPrice : ℕ} (hCap : 3 ≤ maxPrice) :
    ∃ declared, checkV1BudgetCaps tx.message 400000 maxPrice = .ok declared := by
  have hFits := hBuilt.fits hIssues none
  have hBody := hBuilt.body
  rw [hBuilt.carried]
  cases version with
  | v0 => exact ⟨none, rfl⟩
  | v1 =>
      have hNone : message.instructions.any
          (DeclaredBudget.isComputeBudget message.accountKeys) = false := by
        rw [← hBody]
        refine no_computeBudget hSeparate.scope hFits ?_
        cases plan.terms.externalId <;> simp [activationKinds, budgetKinds]
      have hDeclared : DeclaredBudget.of (ofVersion .v1 activationBudget message) = .ok
          { unitLimit := some 400000
            unitPriceMicroLamports := some 3
            loadedAccountsDataSizeLimit := some maxLoadedAccountsDataSizeBytes
            instructionIndexes := [] } := by
        simp [ofVersion, DeclaredBudget.of, hNone, activationBudget, ComputeBudget.v1Config,
          ComputeBudget.priorityFeeLamports, DeclaredBudget.unitPrice, u64Max, refuseIf, bind,
          Except.bind]
      have hVersion : TxVersion.of (ofVersion .v1 activationBudget message) = .v1 := rfl
      simp only [checkV1BudgetCaps, checkV1BudgetCapsWith, hVersion, hDeclared,
        checkDeclaredCaps, LoadedDataLimitRule.accepts, bind_eq_ok, refuseIf_eq_ok, pure,
        Except.pure, exists_const]
      simp [hCap]

theorem checkSponsor_of {keys : List Pubkey} {feePayer : Pubkey}
    (hFirst : keys.head? = some feePayer) (hOne : server.config.NamesOnePayer)
    (hPayer : server.config.feePayer = true → ∃ text,
      server.config.challengedPayer = some text ∧ Pubkey.fromStr text = .ok feePayer) :
    checkSponsor keys server.config = .ok () := by
  rw [checkSponsor]
  split
  next hSponsored =>
    rcases hPayer hSponsored with ⟨text, hText, hKey⟩
    have hConfigured : server.config.feePayerSigner.or (server.config.feePayerPubkey.bind
        fun text => (parsePubkey text "fee_payer_key").toOption) = some feePayer := by
      rw [SubscriptionConfig.challengedPayer] at hText
      cases hSigner : server.config.feePayerSigner with
      | none =>
          rw [hSigner, Option.map_none, Option.or_none] at hText
          simp [hText, parsePubkey, hKey, mapError_ok, Except.toOption]
      | some signer =>
          rw [Option.some_or, Option.some.injEq]
          cases hPubkey : server.config.feePayerPubkey with
          | none =>
              rw [hPubkey, hSigner, Option.none_or, Option.map_some, Option.some.injEq] at hText
              rw [← hText, Pubkey.fromStr_display, Except.ok.injEq] at hKey
              exact hKey
          | some explicit =>
              rw [hPubkey, Option.some_or, Option.some.injEq] at hText
              have hSame := hOne hSponsored explicit signer hPubkey hSigner
              rw [hText, hKey, Except.ok.injEq] at hSame
              exact hSame.symm
    simp [hConfigured, hFirst, okOr, refuseIf, bind, Except.bind]
  next => rfl

theorem BuiltActivation.extracts
    (hBuilt : BuiltActivation client subscriber plan tx version initId message)
    (hIssues : server.Issues externalId plan.terms)
    (hPayer : plan.terms.feePayer.sponsor ≠ some subscriber)
    (hPuller : subscriber ≠ plan.terms.puller) :
    extractSubscriberFromTx tx server.config = .ok subscriber := by
  have hHead := hBuilt.head
  have hSigned := hBuilt.signedBy
  have hParsed : parsePubkey server.config.puller "puller" = .ok plan.terms.puller := by
    rw [parsePubkey, hIssues.puller]
    rfl
  cases hSponsored : server.config.feePayer with
  | false =>
      have hFirst : plan.payer subscriber = subscriber := by
        rw [VerifiedPlan.payer, hIssues.unsponsored hSponsored]
        rfl
      rw [hFirst] at hHead
      simp [extractSubscriberFromTx, hHead, hParsed, expectedSponsor, hSponsored, hPuller, okOr,
        refuseIf, bind, Except.bind, pure, Except.pure]
  | true =>
      rcases hIssues.sponsored hSponsored with ⟨text, key, hText, hKey, hFeePayer⟩
      have hFirst : plan.payer subscriber = key := by
        rw [VerifiedPlan.payer, hFeePayer]
        rfl
      have hOther : subscriber ≠ key := by
        rintro rfl
        exact hPayer (by rw [hFeePayer]; rfl)
      rw [SubscriptionConfig.challengedPayer] at hText
      have hExpected : expectedSponsor server.config = .ok (some key) := by
        simp [expectedSponsor, hSponsored, hText, parsePubkey, hKey, mapError_ok, Except.map]
      rw [hFirst] at hHead hSigned
      have hFound := find_subscriber hHead hSigned hOther hPuller
      simp only [extractSubscriberFromTx, hHead, hParsed, hExpected, hSponsored, bind_eq_ok,
        okOr_eq_ok, refuseIf_eq_ok, exists_const]
      refine ⟨key, rfl, plan.terms.puller, rfl, some key, rfl, by simp, ?_⟩
      simp only [bind_eq_ok, refuseIf_eq_ok, okOr_eq_ok, exists_const]
      exact ⟨by simp, hFound⟩

theorem BuiltActivation.accepted
    (hBuilt : BuiltActivation client subscriber plan tx version initId message)
    (hIssues : server.Issues externalId plan.terms)
    (hPayer : plan.terms.feePayer.sponsor ≠ some subscriber)
    (hPuller : subscriber ≠ plan.terms.puller) (hOne : server.config.NamesOnePayer)
    (hSeparate : IsSeparate plan.terms.subscriptionProgram) :
    server.checkActivation client.serializedSize client.findProgramAddress tx
      (server.request externalId hash).toSubscriptionRequest = .ok subscriber := by
  have hCaps : ∃ declared, checkV1BudgetCaps tx.message 400000
      (if server.config.feePayer then 10000 else 5000000) = .ok declared :=
    hBuilt.passesCaps hIssues hSeparate (by split <;> omega)
  rcases hCaps with ⟨declared, hCaps⟩
  have hSponsor : checkSponsor tx.message.staticAccountKeys server.config = .ok () := by
    refine checkSponsor_of hBuilt.head hOne ?_
    intro hSponsored
    rcases hIssues.sponsored hSponsored with ⟨text, key, hText, hKey, hFeePayer⟩
    refine ⟨text, hText, ?_⟩
    rw [hKey, VerifiedPlan.payer, hFeePayer]
    rfl
  rcases ActivationScope.scanInstructions_of hSeparate.scope (hBuilt.fits hIssues hash)
    ActivationScope.scanned_nil nodup_activationKinds with ⟨final, hScan, hScanned⟩
  have hFound : checkScan (server.request externalId hash).externalId final = .ok () := by
    rw [show (server.request externalId hash).externalId = plan.terms.externalId from
      hIssues.externalId.symm]
    exact checkScan_of hScanned
  have hSigners :
      checkActivationSigners tx server.config subscriber plan.terms.puller = .ok () := by
    refine checkActivationSigners_of hBuilt.head ?_ hBuilt.signedBy
    intro hUnsponsored
    rw [VerifiedPlan.payer, hIssues.unsponsored hUnsponsored]
    rfl
  have hScope : validateActivationScope client.findProgramAddress tx
      (server.request externalId hash).toSubscriptionRequest server.programId subscriber
      server.config = .ok () := by
    simp only [validateActivationScope, parsePubkey, hIssues.subscriptionProgram, hIssues.mint,
      hIssues.tokenProgram, hIssues.puller, hIssues.planAddress, hSponsor]
    simp only [mapError_ok, bind, Except.bind]
    rw [show (activationScope _ _ _ _ _ _ _ _ _ _).scanInstructions 0 _ _ = _ from hScan]
    simp only [hFound, hSigners]
  simp [ActivationServer.checkActivation, hBuilt.passesEnvelope hIssues, hCaps, hScope,
    hBuilt.extracts hIssues hPayer hPuller, mapError_ok, bind, Except.bind, pure,
    Except.pure]

theorem BuiltActivation.conditions
    (hBuilt : BuiltActivation client subscriber plan tx version initId message)
    (hIssues : server.Issues externalId plan.terms)
    (hAccepted : server.checkActivation client.serializedSize client.findProgramAddress tx
      (server.request externalId hash).toSubscriptionRequest = .ok subscriber) :
    server.config.NamesOnePayer ∧ IsSeparate plan.terms.subscriptionProgram := by
  simp only [ActivationServer.checkActivation, bind_eq_ok, validateActivationScope, parsePubkey,
    mapError_eq_ok, hIssues.subscriptionProgram, hIssues.mint, hIssues.tokenProgram,
    hIssues.puller, hIssues.planAddress, Except.ok.injEq, exists_eq_left', pure, Except.pure]
    at hAccepted
  rcases hAccepted with ⟨-, -, -, -, found, -, -, ⟨_, hSponsor, scan, hScan, _, hChecked, -⟩, rfl⟩
  constructor
  · intro hSponsored text key hPubkey hSigner
    rcases hIssues.sponsored hSponsored with ⟨named, payer, hNamed, hPayer, hFeePayer⟩
    rw [SubscriptionConfig.challengedPayer, hPubkey, Option.some_or, Option.some.injEq] at hNamed
    have hFirst := (checkSponsor_eq_ok hBuilt.head hSponsored hSponsor).1 key hSigner
    rw [VerifiedPlan.payer, hFeePayer] at hFirst
    rw [hNamed, hPayer]
    exact congrArg Except.ok hFirst
  · rcases ActivationScope.scanInstructions_eq_ok ActivationScope.scanned_nil hScan with
      ⟨kinds, hKinds, hScanned⟩
    simp only [checkScan, bind_eq_ok, okOr_eq_ok] at hChecked
    rcases hChecked with ⟨index, hSubscribe, -⟩
    have hMember := List.mem_of_getElem? ((hScanned.subscribe index).mp hSubscribe)
    exact hScanned.separate .subscribe hMember rfl

end

/-- The activation that a client builds for a challenge is accepted, with the client as its
subscriber, exactly when the configuration does not name two different fee payers and the
subscriptions program is separate. -/
theorem activation_accepted_iff {client : ActivationClient} {server : ActivationServer}
    {parseHash : String → Except String (List UInt8)} {externalId hash : Option String}
    {plan : VerifiedPlan} {signer : TransactionSigner}
    {options : BuildSubscriptionActivationOptions} {tx : VersionedTransaction}
    (hCompiles : Compiles client.compile) (hSize : SizedByShape client.serializedSize)
    (hTerms : SubscriptionTerms.parse parseHash (server.request externalId hash) = .ok plan.terms)
    (hPayer : plan.terms.feePayer.sponsor ≠ some signer.pubkey)
    (hPuller : signer.pubkey ≠ plan.terms.puller)
    (hLimit : options.computeUnitLimit = none) (hPrice : options.computeUnitPrice = none)
    (hBuilt : buildSubscriptionActivationTransaction client signer plan options = .ok tx) :
    server.checkActivation client.serializedSize client.findProgramAddress tx
        (server.request externalId hash).toSubscriptionRequest = .ok signer.pubkey ↔
      server.config.NamesOnePayer ∧ IsSeparate plan.terms.subscriptionProgram := by
  have hIssues := issues_of_parsed hTerms
  rcases buildSubscriptionActivationTransaction_eq_ok hCompiles hSize hLimit hPrice hBuilt with
    ⟨version, initId, message, hActivation⟩
  constructor
  · exact hActivation.conditions hIssues
  · rintro ⟨hOne, hSeparate⟩
    exact hActivation.accepted hIssues hPayer hPuller hOne hSeparate

/-! ### A plan of 1,000 every 30 days -/

/-- The bytes of a transaction with short lists. -/
def wireSize (tx : VersionedTransaction) : ℕ :=
  let message := tx.message.body
  1 + 64 * tx.signatures.length + 4 + 1 + 32 * message.accountKeys.length + 32 + 1 +
    (message.instructions.map fun ix => 3 + ix.accounts.length + ix.data.length).sum + 1

def activationClient : ActivationClient where
  compile := compileInOrder
  serializedSize tx := .ok (wireSize tx)
  findProgramAddress := activationAddress
  latestBlockhash := .ok (List.replicate 32 0)
  authorityInitId := .ok 1

theorem sizedByShape_activationClient : SizedByShape activationClient.serializedSize := by
  intro left right hMessage hLength
  simp only [activationClient, wireSize, hMessage, hLength]

/-- A server with an explicit fee payer beside its signer. -/
def activationServer (explicit : Option String) : ActivationServer where
  config := { activationConfig with feePayerPubkey := explicit }
  programId := subscriptionsProgramId
  acceptedVersions := [.v0, .v1]
  recipient := "11111111111111111111111111111115"
  amountBaseUnits := "1000"
  periodUnit := .day
  periodCount := 30
  decimals := 6
  network := "mainnet"

def activationTerms (feePayer : Pubkey) : SubscriptionTerms where
  amount := ⟨1000, by omega, by simp only [u64Max]; omega⟩
  mint := usdcMint
  periodHours := 720
  recipient := smallKey 4
  externalId := some "order-7"
  planAddress := smallKey 5
  tokenProgram := .token
  decimals := 6
  puller := smallKey 3
  subscriptionProgram := .ofConst subscriptionsProgramId
  network := "mainnet"
  feePayer := .server feePayer
  recentBlockhash := none
  transactionVersions := some [.v0, .v1]

def activationPlan (feePayer : Pubkey) : VerifiedPlan where
  terms := activationTerms feePayer
  owner := smallKey 3
  planId := 7
  bump := 255
  createdAt := 0

def activationSigner : TransactionSigner where
  pubkey := smallKey 2
  sign _ := .ok Signature.default

theorem activationTerms_parsed :
    SubscriptionTerms.parse (fun _ => .ok [])
      ((activationServer none).request (some "order-7") none) =
      .ok (activationTerms (smallKey 1)) := by
  decide +kernel

theorem activation_accepted_iff_of_activationPlan :
    ∃ tx, buildSubscriptionActivationTransaction activationClient activationSigner
        (activationPlan (smallKey 1)) {} = .ok tx ∧
      ((activationServer none).checkActivation activationClient.serializedSize
          activationClient.findProgramAddress tx
          ((activationServer none).request (some "order-7") none).toSubscriptionRequest =
          .ok (smallKey 2) ↔
        (activationServer none).config.NamesOnePayer ∧
          IsSeparate (.ofConst subscriptionsProgramId)) := by
  have hBuilds : (buildSubscriptionActivationTransaction activationClient activationSigner
      (activationPlan (smallKey 1)) {}).isOk = true := by
    decide +kernel
  cases hBuilt : buildSubscriptionActivationTransaction activationClient activationSigner
      (activationPlan (smallKey 1)) {} with
  | error error => simp [hBuilt, Except.isOk, Except.toBool] at hBuilds
  | ok tx =>
      exact ⟨tx, rfl, activation_accepted_iff compiles_inOrder
        sizedByShape_activationClient activationTerms_parsed (by decide) (by decide) rfl rfl hBuilt⟩

/-- With an explicit fee payer beside the signer, no sponsored activation is accepted. -/
theorem two_fee_payers_refused :
    ¬∀ (client : ActivationClient) (server : ActivationServer)
      (parseHash : String → Except String (List UInt8)) (externalId hash : Option String)
      (plan : VerifiedPlan) (signer : TransactionSigner) (tx : VersionedTransaction),
      Compiles client.compile → SizedByShape client.serializedSize →
      SubscriptionTerms.parse parseHash (server.request externalId hash) = .ok plan.terms →
      plan.terms.feePayer.sponsor ≠ some signer.pubkey → signer.pubkey ≠ plan.terms.puller →
      buildSubscriptionActivationTransaction client signer plan {} = .ok tx →
      server.checkActivation client.serializedSize client.findProgramAddress tx
        (server.request externalId hash).toSubscriptionRequest = .ok signer.pubkey := by
  intro hAll
  let explicit := "11111111111111111111111111111117"
  have hTerms : SubscriptionTerms.parse (fun _ => .ok [])
      ((activationServer (some explicit)).request (some "order-7") none) =
      .ok (activationTerms (smallKey 6)) := by
    decide +kernel
  have hBuilds : (buildSubscriptionActivationTransaction activationClient activationSigner
      (activationPlan (smallKey 6)) {}).isOk = true := by
    decide +kernel
  cases hBuilt : buildSubscriptionActivationTransaction activationClient activationSigner
      (activationPlan (smallKey 6)) {} with
  | error error => simp [hBuilt, Except.isOk, Except.toBool] at hBuilds
  | ok tx =>
      have hAccepted := hAll activationClient (activationServer (some explicit)) _ _ _
        (activationPlan (smallKey 6)) activationSigner tx compiles_inOrder
        sizedByShape_activationClient hTerms (by decide) (by decide) hBuilt
      rcases buildSubscriptionActivationTransaction_eq_ok compiles_inOrder
        sizedByShape_activationClient rfl rfl hBuilt with ⟨version, initId, message, hActivation⟩
      have hOne := (hActivation.conditions (issues_of_parsed hTerms) hAccepted).1
      have hSame := hOne rfl explicit (smallKey 1) rfl rfl
      revert hSame
      decide +kernel

end PayKit.Subscription
