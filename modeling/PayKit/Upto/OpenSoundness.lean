import PayKit.BatchSettlement.SponsorPolicy
import PayKit.Upto.Open

/-!
# What an `upto` sponsor's signature authorizes

Every open that `prepareOpen` accepts, whatever its keys, header and instructions, is
one canonical `open` of the authorized channel in bounded wrapping, and gives no key a
privilege beyond the roles of the open. No input makes the checks index out of range or
subtract below zero.

The wrapping is policed against the message's first key, which pays its fee. The checks
here leave open whether that key is the sponsor's or the payer's: both sign, and the
sponsor's co-signature is only given to a message whose first key it is.
-/

namespace PayKit.Upto

open BatchSettlement (Chain IsAnnotation IsCappedBudget accounts_eq_table closePayer closeSponsor
  openDiscriminator paymentChannelsProgram programIn_eq_ok pubkeyOfBytes rentSysvar
  scanChannelTxLayout_eq_ok scanPrefix_capped scanSuffix_eq_ok scan_eq_ok serializeSmall
  wrapperPrograms)
open Control Encoding Machine PaymentChannel Solana Tx X402

/-! ### Checks that cannot fault -/

def Faultless {Result : Type} (check : Except Failure Result) : Prop :=
  check ≠ .error .fault

section

variable {First Second : Type}

theorem faultless_of_checked (check : Except Error First) : Faultless (faultless check) := by
  cases check <;> simp [Faultless, faultless, mapError_ok, mapError_error]

theorem faultless_ok (value : First) : Faultless (.ok value) := by
  simp [Faultless]

theorem faultless_refuse (reason : String) : Faultless (refuse reason : Except Failure First) := by
  simp [Faultless, refuse]

theorem Faultless.bind {first : Except Failure First} {rest : First → Except Failure Second}
    (hFirst : Faultless first) (hRest : ∀ value, first = .ok value → Faultless (rest value)) :
    Faultless (first >>= rest) := by
  cases first with
  | ok value => exact hRest value rfl
  | error failure =>
      intro hFault
      exact hFirst (congrArg Except.error (Except.error.inj hFault))

theorem faultless_eq_ok {check : Except Error First} {value : First} :
    faultless check = .ok value ↔ check = .ok value :=
  mapError_eq_ok

end

/-! ### Privileges -/

/-- The counts of a header are within the keys. -/
structure InRange (keys : List Pubkey) (header : MessageHeader) : Prop where
  signers : header.numRequiredSignatures.toNat ≤ keys.length
  readonlySigned : header.numReadonlySignedAccounts.toNat ≤ header.numRequiredSignatures.toNat
  readonlyUnsigned : header.numRequiredSignatures.toNat +
    header.numReadonlyUnsignedAccounts.toNat ≤ keys.length

/-- The message lets the key at the position be written to. -/
def WritableAt (keys : List Pubkey) (header : MessageHeader) (index : ℕ) : Prop :=
  if index < header.numRequiredSignatures.toNat then
    index + header.numReadonlySignedAccounts.toNat < header.numRequiredSignatures.toNat
  else
    index + header.numReadonlyUnsignedAccounts.toNat < keys.length

instance (keys : List Pubkey) (header : MessageHeader) (index : ℕ) :
    Decidable (WritableAt keys header index) :=
  inferInstanceAs (Decidable (ite _ _ _))

section

variable {keys : List Pubkey} {header : MessageHeader} {ix : CompiledInstruction}
  {positions roles : List ℕ}

theorem minus_eq {left right : ℕ} (hOrder : right ≤ left) :
    minus left right = .ok (left - right) :=
  if_pos hOrder

theorem isWritable_eq (hRange : InRange keys header) (index : ℕ) :
    isWritable keys header index = .ok (decide (WritableAt keys header index)) := by
  have hSigned := hRange.readonlySigned
  have hUnsigned := hRange.readonlyUnsigned
  simp only [isWritable, WritableAt, minus_eq hSigned, minus_eq (Nat.le_of_add_left_le hUnsigned)]
  split
  · have hSame : (index < header.numRequiredSignatures.toNat -
        header.numReadonlySignedAccounts.toNat) =
        (index + header.numReadonlySignedAccounts.toNat < header.numRequiredSignatures.toNat) := by
      rw [eq_iff_iff]
      omega
    simp [bind, Except.bind, pure, Except.pure, hSame]
  · have hSame : (index < keys.length - header.numReadonlyUnsignedAccounts.toNat) =
        (index + header.numReadonlyUnsignedAccounts.toNat < keys.length) := by
      rw [eq_iff_iff]
      omega
    simp [bind, Except.bind, pure, Except.pure, hSame]

theorem accountIndex_eq_ok {position index : ℕ} :
    accountIndex ix position = .ok index ↔ (ix.accounts[position]?).map UInt8.toNat = some index := by
  simp only [accountIndex]
  cases ix.accounts[position]? <;> simp

theorem accountIndex_faultless {position : ℕ} (hPosition : position < ix.accounts.length) :
    Faultless (accountIndex ix position) := by
  simp [Faultless, accountIndex, List.getElem?_eq_getElem hPosition]

theorem checkSigners_eq_ok {payer feePayer : Pubkey} {signers : List Pubkey} {value : Unit}
    (hChecked : checkSigners payer feePayer signers = .ok value) :
    ∀ key ∈ signers, key = payer ∨ key = feePayer := by
  induction signers with
  | nil => simp
  | cons key rest hInduction =>
      simp only [checkSigners] at hChecked
      split at hChecked
      · cases hChecked
      · rename_i hExpected
        intro other hMem
        rcases List.mem_cons.mp hMem with rfl | hMem
        · tauto
        · exact hInduction hChecked other hMem

theorem checkSigners_faultless {payer feePayer : Pubkey} {signers : List Pubkey} :
    Faultless (checkSigners payer feePayer signers) := by
  induction signers with
  | nil => exact faultless_ok ()
  | cons key rest hInduction =>
      simp only [checkSigners]
      split
      · exact faultless_refuse _
      · exact hInduction

theorem checkSignerPositions_eq_ok {value : Unit}
    (hChecked : checkSignerPositions header ix positions = .ok value) :
    ∀ position ∈ positions, ∃ index, (ix.accounts[position]?).map UInt8.toNat = some index ∧
      index < header.numRequiredSignatures.toNat := by
  induction positions with
  | nil => simp
  | cons position rest hInduction =>
      simp only [checkSignerPositions, bind_eq_ok, accountIndex_eq_ok] at hChecked
      rcases hChecked with ⟨index, hIndex, hChecked⟩
      split at hChecked
      · rename_i hSigner
        intro other hMem
        rcases List.mem_cons.mp hMem with rfl | hMem
        · exact ⟨index, hIndex, hSigner⟩
        · exact hInduction hChecked other hMem
      · cases hChecked

theorem checkSignerPositions_faultless
    (hPositions : ∀ position ∈ positions, position < ix.accounts.length) :
    Faultless (checkSignerPositions header ix positions) := by
  induction positions with
  | nil => exact faultless_ok ()
  | cons position rest hInduction =>
      rw [List.forall_mem_cons] at hPositions
      refine (accountIndex_faultless hPositions.1).bind fun index hIndex => ?_
      split
      · exact hInduction hPositions.2
      · exact faultless_refuse _

theorem checkWritablePositions_eq_ok {value : Unit} (hRange : InRange keys header)
    (hChecked : checkWritablePositions keys header ix positions = .ok value) :
    ∀ position ∈ positions, ∃ index, (ix.accounts[position]?).map UInt8.toNat = some index ∧
      WritableAt keys header index := by
  induction positions with
  | nil => simp
  | cons position rest hInduction =>
      simp only [checkWritablePositions, bind_eq_ok, accountIndex_eq_ok, isWritable_eq hRange,
        Except.ok.injEq] at hChecked
      rcases hChecked with ⟨index, hIndex, _, rfl, hChecked⟩
      split at hChecked
      · rename_i hWritable
        intro other hMem
        rcases List.mem_cons.mp hMem with rfl | hMem
        · exact ⟨index, hIndex, of_decide_eq_true hWritable⟩
        · exact hInduction hChecked other hMem
      · cases hChecked

theorem checkWritablePositions_faultless (hRange : InRange keys header)
    (hPositions : ∀ position ∈ positions, position < ix.accounts.length) :
    Faultless (checkWritablePositions keys header ix positions) := by
  induction positions with
  | nil => exact faultless_ok ()
  | cons position rest hInduction =>
      rw [List.forall_mem_cons] at hPositions
      refine (accountIndex_faultless hPositions.1).bind fun index hIndex => ?_
      rw [isWritable_eq hRange]
      refine (faultless_ok _).bind fun writable hWritable => ?_
      split
      · exact hInduction hPositions.2
      · exact faultless_refuse _

theorem mem_accountIndexes (hIndexes : accountIndexes ix positions = .ok roles) (index : ℕ) :
    index ∈ roles ↔ ∃ position ∈ positions,
      (ix.accounts[position]?).map UInt8.toNat = some index := by
  induction positions generalizing roles with
  | nil =>
      cases hIndexes
      simp
  | cons position rest hInduction =>
      simp only [accountIndexes, bind_eq_ok, accountIndex_eq_ok] at hIndexes
      rcases hIndexes with ⟨first, hFirst, later, hLater, hRoles⟩
      cases hRoles
      simp only [List.mem_cons, hInduction hLater, exists_eq_or_imp, hFirst, Option.some.injEq]
      rw [eq_comm]

theorem accountIndexes_faultless
    (hPositions : ∀ position ∈ positions, position < ix.accounts.length) :
    Faultless (accountIndexes ix positions) := by
  induction positions with
  | nil => exact faultless_ok []
  | cons position rest hInduction =>
      rw [List.forall_mem_cons] at hPositions
      refine (accountIndex_faultless hPositions.1).bind fun index hIndex => ?_
      exact (hInduction hPositions.2).bind fun indexes hIndexes => faultless_ok _

theorem findOutside_eq (hRange : InRange keys header) (indexes : List ℕ) :
    findOutside keys header roles indexes =
      .ok (indexes.find? fun index => WritableAt keys header index ∧ index ∉ roles) := by
  induction indexes with
  | nil => rfl
  | cons index rest hInduction =>
      simp only [findOutside, isWritable_eq hRange, bind, Except.bind, hInduction,
        decide_eq_true_eq, List.find?_cons]
      by_cases hOutside : WritableAt keys header index ∧ index ∉ roles
      · simp [hOutside, pure, Except.pure]
      · simp [hOutside]

theorem checkNoneOutside_eq_ok {value : Unit} (hRange : InRange keys header)
    (hChecked : checkNoneOutside keys header roles = .ok value) :
    ∀ index < keys.length, WritableAt keys header index → index ∈ roles := by
  simp only [checkNoneOutside, findOutside_eq hRange, bind, Except.bind] at hChecked
  split at hChecked
  · rename_i hNone
    rw [List.find?_eq_none] at hNone
    intro index hIndex hWritable
    have hInside := hNone index (List.mem_range.mpr hIndex)
    simpa [hWritable] using hInside
  · split at hChecked <;> cases hChecked

theorem checkNoneOutside_faultless (hRange : InRange keys header) :
    Faultless (checkNoneOutside keys header roles) := by
  simp only [checkNoneOutside, findOutside_eq hRange]
  refine (faultless_ok _).bind fun outside hOutside => ?_
  cases outside with
  | none => exact faultless_ok ()
  | some index =>
      have hIndex : index < keys.length := by
        have hFound := List.mem_of_find?_eq_some (Except.ok.inj hOutside)
        exact List.mem_range.mp hFound
      simp only [List.getElem?_eq_getElem hIndex]
      exact faultless_refuse _

end

section

variable {tx : VersionedTransaction} {ix : CompiledInstruction} {payer feePayer : Pubkey}

/-- The open's signers, and nothing writable but its roles. -/
structure Privileges (tx : VersionedTransaction) (ix : CompiledInstruction)
    (payer feePayer : Pubkey) : Prop where
  signers : ∀ key, key ∈ tx.message.staticAccountKeys.take
    tx.message.header.numRequiredSignatures.toNat ↔ key = payer ∨ key = feePayer
  writable : ∀ index < tx.message.staticAccountKeys.length,
    WritableAt tx.message.staticAccountKeys tx.message.header index ↔
      ∃ position ∈ openWritablePositions,
        (ix.accounts[position]?).map UInt8.toNat = some index

theorem openSignerPositions_lt : ∀ position ∈ openSignerPositions, position < openAccountCount := by
  decide

theorem openWritablePositions_lt :
    ∀ position ∈ openWritablePositions, position < openAccountCount := by
  decide

theorem inRange_of_not_outside
    (hCounts : ¬(tx.message.staticAccountKeys.length < tx.message.header.numRequiredSignatures.toNat ∨
      tx.message.header.numRequiredSignatures.toNat <
        tx.message.header.numReadonlySignedAccounts.toNat ∨
      tx.message.staticAccountKeys.length - tx.message.header.numRequiredSignatures.toNat <
        tx.message.header.numReadonlyUnsignedAccounts.toNat)) :
    InRange tx.message.staticAccountKeys tx.message.header := by
  constructor <;> omega

theorem leading_eq {keys : List Pubkey} {count : ℕ} (hCount : count ≤ keys.length) :
    leading keys count = .ok (keys.take count) :=
  if_pos hCount

theorem checkOpenPrivileges_faultless (hCount : ix.accounts.length = openAccountCount) :
    Faultless (checkOpenPrivileges tx ix payer feePayer) := by
  simp only [checkOpenPrivileges]
  split
  · exact faultless_refuse _
  rename_i hCounts
  have hRange := inRange_of_not_outside hCounts
  rw [leading_eq hRange.signers]
  refine (faultless_ok _).bind fun signers _ => ?_
  refine checkSigners_faultless.bind fun _ _ => ?_
  refine (checkSignerPositions_faultless ?_).bind fun _ _ => ?_
  · rw [hCount]
    exact openSignerPositions_lt
  refine (checkWritablePositions_faultless hRange ?_).bind fun _ _ => ?_
  · rw [hCount]
    exact openWritablePositions_lt
  refine (accountIndexes_faultless ?_).bind fun roles _ => ?_
  · rw [hCount]
    exact openWritablePositions_lt
  exact checkNoneOutside_faultless hRange

theorem checkOpenPrivileges_eq_ok {value : Unit}
    (hPayer : accountAt tx.message.staticAccountKeys ix 0 = some payer)
    (hFeePayer : accountAt tx.message.staticAccountKeys ix 1 = some feePayer)
    (hChecked : checkOpenPrivileges tx ix payer feePayer = .ok value) :
    Privileges tx ix payer feePayer := by
  simp only [checkOpenPrivileges] at hChecked
  split at hChecked
  · cases hChecked
  rename_i hCounts
  have hRange := inRange_of_not_outside hCounts
  simp only [leading_eq hRange.signers, bind_eq_ok, Except.ok.injEq] at hChecked
  rcases hChecked with ⟨_, rfl, _, hSigners, _, hSignerRoles, _, hWritableRoles, roles, hRoles, hNone⟩
  have hSigns : ∀ position key, position ∈ openSignerPositions →
      accountAt tx.message.staticAccountKeys ix position = some key →
      key ∈ tx.message.staticAccountKeys.take
        tx.message.header.numRequiredSignatures.toNat := by
    intro position key hPosition hKey
    rcases checkSignerPositions_eq_ok hSignerRoles position hPosition with ⟨index, hIndex, hSigned⟩
    simp only [accountAt, keyAt, Option.bind_eq_some_iff] at hKey
    rcases hKey with ⟨byte, hByte, hKey⟩
    simp only [hByte, Option.map_some, Option.some.injEq] at hIndex
    rw [hIndex] at hKey
    exact List.mem_take_iff_getElem.mpr
      ⟨index, by rw [List.getElem?_eq_some_iff] at hKey; omega, (List.getElem?_eq_some_iff.mp hKey).2⟩
  exact {
    signers := by
      intro key
      refine ⟨checkSigners_eq_ok hSigners key, ?_⟩
      rintro (rfl | rfl)
      · exact hSigns 0 _ (by decide) hPayer
      · exact hSigns 1 _ (by decide) hFeePayer
    writable := by
      intro index hIndex
      refine ⟨fun hWritable => ?_, ?_⟩
      · exact (mem_accountIndexes hRoles index).mp
          (checkNoneOutside_eq_ok hRange hNone index hIndex hWritable)
      · rintro ⟨position, hPosition, hRole⟩
        rcases checkWritablePositions_eq_ok hRange hWritableRoles position hPosition with
          ⟨role, hSame, hWritable⟩
        rwa [Option.some.inj (hRole.symm.trans hSame)] }

end

/-! ### The wrapping -/

section

variable {keys : List Pubkey} {feePayer : Pubkey} {label memo : String}

theorem memoText_eq_ok {data : List UInt8} {text : String}
    (hText : memoText label data = .ok text) : data = asBytes text := by
  simp only [memoText, refuseIf_bind_eq_ok, okOr_eq_ok, String.fromUTF8?] at hText
  rcases hText with ⟨-, hText⟩
  split at hText
  · rw [← Option.some.inj hText]
    simp [asBytes, String.fromUTF8]
  · cases hText

theorem checkExpectedMemo_eq_ok {data : List UInt8} {value : Unit}
    (hChecked : checkExpectedMemo label (some memo) data = .ok value) : data = asBytes memo := by
  simp only [checkExpectedMemo, bind_eq_ok, refuseIf_eq_ok, not_not] at hChecked
  rcases hChecked with ⟨text, hText, rfl⟩
  exact memoText_eq_ok hText

theorem lighthouseProgram_ne_memo : lighthouseProgram ≠ memoProgram := by
  have hParses : ∀ text ∈ [programs.memoProgram, "L2TExMFKdjpN9kozasaurPirfHy9P8sbXoAN1qA3S95"],
      (Pubkey.fromStr text).isOk := by
    decide
  simp only [List.forall_mem_cons] at hParses
  exact Pubkey.ofConst_ne hParses.2.1 hParses.1 (by decide)

/-- An instruction of the suffix under a declared memo is that memo, the first, or none. -/
theorem scanSuffixInstruction_required {ix : CompiledInstruction} {counts next : SuffixCounts}
    (hNext : scanSuffixInstruction keys feePayer label (.required (some memo)) ix counts =
      .ok next) :
    (programOf keys ix ≠ some memoProgram ∧ next.memo = counts.memo) ∨
    (programOf keys ix = some memoProgram ∧ next.memo = counts.memo + 1 ∧ next.memo ≤ 1 ∧
      ix.data = asBytes memo) := by
  simp only [scanSuffixInstruction, bind_eq_ok, programIn_eq_ok] at hNext
  rcases hNext with ⟨_, -, program, hProgram, hNext⟩
  split at hNext
  · rename_i hLighthouse
    simp only [bind_eq_ok] at hNext
    rcases hNext with ⟨_, -, _, -, hResult⟩
    cases hResult
    refine .inl ⟨?_, rfl⟩
    rw [hProgram, hLighthouse]
    exact fun hSame => lighthouseProgram_ne_memo (Option.some.inj hSame)
  split at hNext
  · rename_i hMemo
    simp only [bind_eq_ok, scanMemo, checkMemoData, refuseIf_eq_ok] at hNext
    rcases hNext with ⟨_, -, _, hFirst, _, hData, hResult⟩
    cases hResult
    exact .inr ⟨by rw [hProgram, hMemo], rfl, not_lt.mp hFirst, checkExpectedMemo_eq_ok hData⟩
  · cases hNext

theorem scanSuffix_required {suffix : List CompiledInstruction} {counts result : SuffixCounts}
    (hScan : scanSuffix keys feePayer label (.required (some memo)) suffix counts = .ok result) :
    result.memo = counts.memo +
      (suffix.filter fun ix => programOf keys ix = some memoProgram).length ∧
    (counts.memo ≤ 1 → result.memo ≤ 1) ∧
    ∀ ix ∈ suffix, programOf keys ix = some memoProgram → ix.data = asBytes memo := by
  induction suffix generalizing counts with
  | nil =>
      cases hScan
      simp
  | cons ix rest hInduction =>
      simp only [scanSuffix, bind_eq_ok] at hScan
      rcases hScan with ⟨next, hNext, hScan⟩
      rcases hInduction hScan with ⟨hCount, hAtMost, hEach⟩
      rcases scanSuffixInstruction_required hNext with
        ⟨hOther, hSame⟩ | ⟨hMemo, hMore, hFirst, hData⟩
      · refine ⟨?_, fun hCounts => hAtMost (by omega), ?_⟩
        · simp only [hCount, hSame, List.filter_cons, hOther, decide_false, Bool.false_eq_true,
            if_false]
        · simp only [List.forall_mem_cons]
          exact ⟨fun hMemo => absurd hMemo hOther, hEach⟩
      · refine ⟨?_, fun hCounts => hAtMost hFirst, ?_⟩
        · simp only [hCount, hMore, List.filter_cons, hMemo, decide_true, if_true,
            List.length_cons]
          omega
        · simp only [List.forall_mem_cons]
          exact ⟨fun _ => hData, hEach⟩

end

/-- The open in its wrapping, where no wrapper names the key that pays the fee. -/
structure OpenLayout (tx : VersionedTransaction) (programId : Pubkey) (memo : Option String)
    (primary : CompiledInstruction) : Prop where
  split : ∃ feePayer before after, tx.message.staticAccountKeys.head? = some feePayer ∧
    tx.message.instructions = before ++ primary :: after ∧
    (∀ ix ∈ before, IsCappedBudget tx.message.staticAccountKeys feePayer ix) ∧
    (∀ ix ∈ after, IsAnnotation tx.message.staticAccountKeys feePayer ix) ∧
    ∀ text, memo = some text → ∃ declared, declared.data = asBytes text ∧
      (after.filter fun ix => programOf tx.message.staticAccountKeys ix = some memoProgram) =
        [declared]
  program : programOf tx.message.staticAccountKeys primary = some programId
  discriminator : primary.data.head? = some openDiscriminator
  /-- Exactly one instruction calls the payment-channels program. -/
  only : programId ∉ wrapperPrograms →
    (tx.message.instructions.filter fun ix =>
      programOf tx.message.staticAccountKeys ix = some programId) = [primary]
  /-- The budget the scan found is in instructions of the message. -/
  budgeted : ∀ declared, DeclaredBudget.of tx.message = .ok declared →
    declared.instructionIndexes.length ≤ tx.message.instructions.length

theorem budgeted_instructions {message : VersionedMessage} {declared : DeclaredBudget}
    (hDeclared : DeclaredBudget.of message = .ok declared) :
    declared.instructionIndexes.length ≤ message.instructions.length := by
  have hScanned : ∀ keys, DeclaredBudget.scan keys 0 message.instructions {} = .ok declared →
      declared.instructionIndexes.length ≤ message.instructions.length := by
    intro keys hScan
    rcases scan_eq_ok hScan with ⟨-, -, hCount⟩
    simp only [List.length_nil] at hCount
    omega
  cases message with
  | legacy body => exact hScanned _ hDeclared
  | v0 body lookups => exact hScanned _ hDeclared
  | v1 body config =>
      simp only [DeclaredBudget.of, refuseIf_bind_eq_ok] at hDeclared
      rcases hDeclared with ⟨-, hDeclared⟩
      split at hDeclared
      · cases hDeclared
      · cases hDeclared
        simp

theorem findCanonicalOpenInstruction_eq_ok {tx : VersionedTransaction} {programId : Pubkey}
    {memo : Option String} {primary : CompiledInstruction}
    (hFound : findCanonicalOpenInstruction tx programId memo = .ok primary) :
    OpenLayout tx programId memo primary := by
  simp only [findCanonicalOpenInstruction, mapError_eq_ok] at hFound
  have hScan := hFound
  simp only [scanChannelTxLayout, bind_eq_ok, okOr_eq_ok] at hScan
  rcases hScan with ⟨feePayer, hFeePayer, rest, hPrefix, hScan⟩
  have hLayout := scanChannelTxLayout_eq_ok hFeePayer hFound
  rcases scanPrefix_capped hPrefix with ⟨before, hSplit, hBefore⟩
  cases rest with
  | nil => cases hScan
  | cons first suffix =>
      simp only [bind_eq_ok, refuseIf_eq_ok, exists_const] at hScan
      rcases hScan with ⟨_, -, -, -, counts, hSuffix, hMemos, -, _, -, hResult⟩
      cases hResult
      refine {
        split := ⟨feePayer, before, suffix, hFeePayer, hSplit, hBefore, scanSuffix_eq_ok hSuffix, ?_⟩
        program := hLayout.program
        discriminator := hLayout.discriminator
        only := hLayout.only
        budgeted := fun declared => budgeted_instructions }
      rintro text rfl
      rcases scanSuffix_required hSuffix with ⟨hCount, hAtMost, hEach⟩
      have hOne : (suffix.filter fun ix =>
          programOf tx.message.staticAccountKeys ix = some memoProgram).length = 1 := by
        have hSome : counts.memo ≠ 0 := fun hNone => hMemos ⟨hNone, rfl⟩
        have hFirst : counts.memo ≤ 1 := hAtMost (by decide)
        simp only [Nat.zero_add] at hCount
        omega
      rcases List.length_eq_one_iff.mp hOne with ⟨declared, hDeclared⟩
      have hMem : declared ∈ suffix.filter fun ix =>
          programOf tx.message.staticAccountKeys ix = some memoProgram := by
        simp [hDeclared]
      rw [List.mem_filter, decide_eq_true_eq] at hMem
      exact ⟨declared, hEach declared hMem.1 hMem.2, hDeclared⟩

/-! ### The arguments -/

/-- The Borsh bytes of a distribution's entries. -/
def encodeRecipients (recipients : List Distribution) : List UInt8 :=
  recipients.flatMap fun entry => entry.recipient.bytes ++ encodeLE 2 entry.bps

/-- The Borsh bytes of the arguments of an open. -/
def encodeOpenArgs (args : OpenArgs) : List UInt8 :=
  encodeLE 8 args.salt ++ encodeLE 8 args.deposit ++ encodeLE 4 args.gracePeriod ++
    encodeLE 8 args.openSlot ++ encodeLE 4 args.recipients.length ++
    encodeRecipients args.recipients

theorem pubkeyOfBytes_eq_some {bytes : List UInt8} {key : Pubkey}
    (hKey : pubkeyOfBytes bytes = some key) : key.bytes = bytes := by
  simp only [pubkeyOfBytes] at hKey
  split at hKey
  · cases hKey
    rfl
  · cases hKey

theorem decodeRecipients_eq_ok {count : ℕ} {bytes : List UInt8}
    {decoded : List Distribution × List UInt8}
    (hDecoded : decodeRecipients count bytes = .ok decoded) :
    decoded.1.length = count ∧ bytes = encodeRecipients decoded.1 ++ decoded.2 := by
  induction count generalizing bytes decoded with
  | zero =>
      cases hDecoded
      exact ⟨rfl, rfl⟩
  | succ count hInduction =>
      simp only [decodeRecipients, bind_eq_ok, refuseIf_eq_ok, okOr_eq_ok, exists_const,
        not_lt] at hDecoded
      rcases hDecoded with ⟨hLength, recipient, hRecipient, rest, hRest, hResult⟩
      cases hResult
      rcases hInduction hRest with ⟨hCount, hBytes⟩
      have hShare := @encodeLE_fromLeBytes bytes 32 34 hLength
      refine ⟨by simp [hCount], ?_⟩
      calc bytes = bytes.take 32 ++ slice bytes 32 34 ++ bytes.drop 34 := by
            rw [take_append_slice (by omega), List.take_append_drop]
        _ = recipient.bytes ++ encodeLE 2 (fromLeBytes bytes 32 34) ++
              (encodeRecipients rest.1 ++ rest.2) := by
            rw [pubkeyOfBytes_eq_some hRecipient, hBytes, hShare]
        _ = encodeRecipients (⟨recipient, fromLeBytes bytes 32 34⟩ :: rest.1) ++ rest.2 := by
            simp [encodeRecipients, List.append_assoc]

theorem decodeOpenArgs_eq_ok {bytes : List UInt8} {args : OpenArgs}
    (hDecoded : decodeOpenArgs bytes = .ok args) : bytes = encodeOpenArgs args := by
  simp only [decodeOpenArgs, bind_eq_ok, refuseIf_eq_ok, exists_const, not_lt, not_not] at hDecoded
  rcases hDecoded with ⟨hLength, decoded, hRecipients, hAll, hResult⟩
  cases hResult
  rcases decodeRecipients_eq_ok hRecipients with ⟨hCount, hBytes⟩
  have hField : ∀ start stop, stop ≤ 32 →
      encodeLE (stop - start) (fromLeBytes bytes start stop) = slice bytes start stop :=
    fun start stop hStop => encodeLE_fromLeBytes (by omega)
  have hSalt := hField 0 8 (by omega)
  have hDeposit := hField 8 16 (by omega)
  have hGrace := hField 16 20 (by omega)
  have hSlot := hField 20 28 (by omega)
  have hEntries := hField 28 32 (by omega)
  simp only [encodeOpenArgs, hCount]
  rw [hAll, List.append_nil] at hBytes
  simp only [Nat.sub_zero] at hSalt
  rw [hSalt, hDeposit, hGrace, hSlot, hEntries, ← hBytes]
  have hStart : slice bytes 0 8 = bytes.take 8 := by simp [slice]
  rw [hStart, take_append_slice (by omega), take_append_slice (by omega),
    take_append_slice (by omega), take_append_slice (by omega), List.take_append_drop]

section

variable {chain : Chain} {tx : VersionedTransaction} {expected : OpenExpectations}
  {args : OpenArgs} {ix : CompiledInstruction}

theorem expectValue_eq_ok {want : Option ℕ} {actual : ℕ} {reason : ℕ → String} {value : Unit} :
    expectValue want actual reason = .ok value ↔ ∀ number ∈ want, number = actual := by
  cases want <;> simp [expectValue]

/-- The arguments are the expected ones. -/
structure Expected (chain : Chain) (expected : OpenExpectations) (args : OpenArgs) : Prop where
  recipients : ∀ recipients ∈ expected.recipients, args.recipients = recipients
  nonce : ∀ nonce ∈ expected.payloadNonce, nonce = args.salt
  openSlot : ∀ openSlot ∈ expected.payloadOpenSlot, openSlot = args.openSlot
  gracePeriod : ∀ gracePeriod ∈ expected.gracePeriod, gracePeriod = args.gracePeriod
  channel : chain.findChannelPda expected.payer expected.payee expected.mint
    expected.authorizedSigner args.salt args.openSlot expected.programId = expected.channelId
  deposit : ∀ maxAmount ∈ expected.maxAmount, maxAmount = args.deposit

theorem checkOpenArgs_eq_ok {value : Unit} (hChecked : checkOpenArgs chain expected args = .ok value) :
    Expected chain expected args := by
  simp only [checkOpenArgs, bind_eq_ok, faultless_eq_ok, checkRecipients, refuseIf_eq_ok,
    expectValue_eq_ok, not_not, exists_const] at hChecked
  rcases hChecked with ⟨hRecipients, hNonce, hOpenSlot, hGrace, hChannel, hDeposit, -⟩
  exact {
    recipients := by
      intro recipients hExpected
      simpa [Option.mem_def.mp hExpected] using hRecipients
    nonce := hNonce
    openSlot := hOpenSlot
    gracePeriod := hGrace
    channel := hChannel
    deposit := hDeposit }

theorem checkOpenSlotWindow_faultless {recentSlot : Option ℕ} {openSlot : ℕ} :
    Faultless (checkOpenSlotWindow recentSlot openSlot) := by
  cases recentSlot with
  | none => exact faultless_ok ()
  | some recentSlot =>
      simp only [checkOpenSlotWindow]
      split
      · exact faultless_refuse _
      · rename_i hNotAhead
        rw [minus_eq (not_lt.mp hNotAhead)]
        refine (faultless_ok _).bind fun age _ => ?_
        split
        · exact faultless_refuse _
        · exact faultless_ok ()

theorem checkOpenArgs_faultless : Faultless (checkOpenArgs chain expected args) := by
  refine (faultless_of_checked _).bind fun _ _ => ?_
  refine (faultless_of_checked _).bind fun _ _ => ?_
  refine (faultless_of_checked _).bind fun _ _ => ?_
  refine (faultless_of_checked _).bind fun _ _ => ?_
  refine (faultless_of_checked _).bind fun _ _ => ?_
  refine (faultless_of_checked _).bind fun _ _ => ?_
  exact checkOpenSlotWindow_faultless

/-- An accepted open: its layout, its accounts, its privileges and its arguments. -/
structure ValidOpen (chain : Chain) (tx : VersionedTransaction) (expected : OpenExpectations)
    (primary : CompiledInstruction) (args : OpenArgs) : Prop where
  layout : OpenLayout tx expected.programId expected.memo primary
  accounts : primary.accounts.map (keyAt tx.message.staticAccountKeys) =
    (openAccounts chain expected).map fun entry => some entry.2
  privileges : Privileges tx primary expected.payer expected.rentPayer
  decoded : decodeOpenArgs (primary.data.drop 1) = .ok args
  data : primary.data = openDiscriminator :: encodeOpenArgs args
  expected : Expected chain expected args

theorem accountAt_of_accounts {keys table : List Pubkey} {position : ℕ}
    (hAccounts : ix.accounts.map (keyAt keys) = table.map some) :
    accountAt keys ix position = table[position]? := by
  have hAt := congrArg (·[position]?) hAccounts
  simp only [List.getElem?_map] at hAt
  simp only [accountAt]
  cases hAccount : ix.accounts[position]? with
  | none =>
      rw [hAccount] at hAt
      cases hEntry : table[position]? with
      | none => rfl
      | some key => simp [hEntry] at hAt
  | some account =>
      rw [hAccount] at hAt
      cases hEntry : table[position]? with
      | none => simp [hEntry] at hAt
      | some key => simpa [hEntry] using hAt

theorem validateOpenInstruction_eq_ok {value : Unit}
    (hAccepted : validateOpenInstruction chain tx expected = .ok value) :
    ∃ primary args, ValidOpen chain tx expected primary args := by
  simp only [validateOpenInstruction, bind_eq_ok, faultless_eq_ok, mapError_eq_ok, refuseIf_eq_ok,
    not_not, exists_const] at hAccepted
  rcases hAccepted with ⟨_, -, _, -, _, -, primary, hFound, hCount, _, hAccounts, _, hPrivileges, args,
    hArgs, hExpected⟩
  have hLayout := findCanonicalOpenInstruction_eq_ok hFound
  have hTable := accounts_eq_table hCount hAccounts
  have hKeys : primary.accounts.map (keyAt tx.message.staticAccountKeys) =
      ((openAccounts chain expected).map Prod.snd).map some := by
    rw [hTable, List.map_map]
    rfl
  simp only [openArgsOf, refuseIf_bind_eq_ok, mapError_eq_ok] at hArgs
  rcases hArgs with ⟨-, hDecoded⟩
  exact ⟨primary, args, {
    layout := hLayout
    accounts := hTable
    privileges := checkOpenPrivileges_eq_ok (accountAt_of_accounts hKeys)
      (accountAt_of_accounts hKeys) hPrivileges
    decoded := hDecoded
    data := by
      rw [← decodeOpenArgs_eq_ok hDecoded, ← List.singleton_append,
        ← take_one_of_head? hLayout.discriminator, List.take_append_drop]
    expected := checkOpenArgs_eq_ok hExpected }⟩

theorem validateOpenInstruction_faultless : Faultless (validateOpenInstruction chain tx expected) := by
  refine (faultless_of_checked _).bind fun _ _ => ?_
  refine (faultless_of_checked _).bind fun _ _ => ?_
  refine (faultless_of_checked _).bind fun _ _ => ?_
  refine (faultless_of_checked _).bind fun primary _ => ?_
  refine (faultless_of_checked _).bind fun _ hCount => ?_
  refine (faultless_of_checked _).bind fun _ _ => ?_
  rw [faultless_eq_ok, refuseIf_eq_ok, not_not] at hCount
  refine (checkOpenPrivileges_faultless hCount).bind fun _ _ => ?_
  refine (faultless_of_checked _).bind fun args _ => ?_
  exact checkOpenArgs_faultless

end

/-! ### What the sponsor signs -/

/-- The accounts of the open of a prepared authorization. -/
def PreparedOpen.accounts (server : UptoServer) (prepared : PreparedOpen) : List Pubkey := [
  prepared.payer, server.feePayer, server.feePayer, prepared.expectedMint,
  server.receiverAuthorizer, prepared.channelId,
  server.chain.findAssociatedTokenAddress prepared.payer prepared.expectedMint
    prepared.tokenProgram,
  server.chain.findAssociatedTokenAddress prepared.channelId prepared.expectedMint
    prepared.tokenProgram,
  prepared.tokenProgram, systemProgram, rentSysvar, ataProgram,
  server.chain.findEventAuthorityPda prepared.programId, prepared.programId]

/-- The arguments of the open of a prepared authorization. -/
def PreparedOpen.args (server : UptoServer) (payload : UptoPayload) (prepared : PreparedOpen) :
    OpenArgs where
  salt := payload.nonce
  deposit := prepared.max
  gracePeriod := server.withdrawDelay
  openSlot := payload.openSlot
  recipients := prepared.expectedDistribution

/-- All that the sponsor's signature of an open authorizes. -/
structure Authorizes (server : UptoServer) (Signed : Pubkey → VersionedMessage → Prop)
    (payload : UptoPayload) (prepared : PreparedOpen) (primary : CompiledInstruction) : Prop where
  layout : OpenLayout prepared.tx prepared.programId prepared.requirements.extra.memo primary
  accounts : primary.accounts.map (keyAt prepared.tx.message.staticAccountKeys) =
    (prepared.accounts server).map some
  decoded : decodeOpenArgs (primary.data.drop 1) = .ok (prepared.args server payload)
  data : primary.data = openDiscriminator :: encodeOpenArgs (prepared.args server payload)
  distribution : server.distribution = .ok prepared.expectedDistribution
  channel : prepared.channelId = server.chain.findChannelPda prepared.payer server.feePayer
    prepared.expectedMint server.receiverAuthorizer payload.nonce payload.openSlot
    prepared.programId
  authorized : payload.maxAmountOf = .ok prepared.max
  advertised : prepared.requirements.maxAmountOf = .ok prepared.max
  privileges : Privileges prepared.tx primary prepared.payer server.feePayer
  signed : Signed prepared.payer prepared.tx.message

section

variable {server : UptoServer} {Signed : Pubkey → VersionedMessage → Prop}
  {inFlight : Pubkey → Bool} {readings : OpenReadings} {header : String}
  {offered : List UptoRequirements} {now : ℤ}

theorem verifyPayerSignature_eq_ok {chain : Chain} {tx : VersionedTransaction} {payer : Pubkey}
    {value : Unit}
    (hUnforgeable : ∀ signature key message,
      chain.verify signature key (chain.serialize message) = true → Signed key message)
    (hVerified : verifyPayerSignature chain tx payer = .ok value) : Signed payer tx.message := by
  simp only [verifyPayerSignature] at hVerified
  split at hVerified
  · cases hVerified
  · rw [refuseIf_eq_ok, not_not, Option.any_eq_true] at hVerified
    rcases hVerified with ⟨signature, -, hVerified⟩
    exact hUnforgeable signature payer tx.message hVerified

theorem verifyUptoPayload_eq_ok {payload : UptoPayload} {requirements : UptoRequirements}
    {receiverAuthorizer : String} {maxLifetime max : ℕ} {value : Unit}
    (hSigned : payload.maxAmountOf = .ok max)
    (hVerified : verifyUptoPayload payload requirements receiverAuthorizer maxLifetime now =
      .ok value) : requirements.maxAmountOf = .ok max := by
  simp only [verifyUptoPayload, bind_eq_ok, refuseIf_eq_ok, exists_const, not_not] at hVerified
  rcases hVerified with ⟨advertised, hAdvertised, signed, hOther, rfl, -⟩
  rw [hAdvertised, ← hOther, hSigned]

theorem prepareOpen_faultless :
    Faultless (prepareOpen server inFlight readings header offered now) := by
  refine (faultless_of_checked _).bind fun envelope _ => ?_
  refine (faultless_of_checked _).bind fun requirements _ => ?_
  refine (faultless_of_checked _).bind fun _ _ => ?_
  refine (faultless_of_checked _).bind fun _ _ => ?_
  refine (faultless_of_checked _).bind fun programId _ => ?_
  refine (faultless_of_checked _).bind fun expectedMint _ => ?_
  refine (faultless_of_checked _).bind fun tokenProgramText _ => ?_
  refine (faultless_of_checked _).bind fun tokenProgram _ => ?_
  refine (faultless_of_checked _).bind fun expectedDistribution _ => ?_
  refine (faultless_of_checked _).bind fun channelId _ => ?_
  refine (faultless_of_checked _).bind fun payer _ => ?_
  refine (faultless_of_checked _).bind fun max _ => ?_
  refine (faultless_of_checked _).bind fun _ _ => ?_
  refine (faultless_of_checked _).bind fun transaction _ => ?_
  refine (faultless_of_checked _).bind fun tx _ => ?_
  refine (faultless_of_checked _).bind fun _ _ => ?_
  refine validateOpenInstruction_faultless.bind fun _ _ => ?_
  refine (faultless_of_checked _).bind fun _ _ => ?_
  exact faultless_ok _

/-- No input faults the checks, and an open they accept is the authorized one in bounded
wrapping, with the payer's signature and no privilege beyond its roles. -/
theorem prepared_authorizes
    (hUnforgeable : ∀ signature key message,
      server.chain.verify signature key (server.chain.serialize message) = true →
        Signed key message) :
    prepareOpen server inFlight readings header offered now ≠ .error .fault ∧
    ∀ prepared, prepareOpen server inFlight readings header offered now = .ok prepared →
      ∃ envelope transaction primary, server.parsePaymentSignature header = .ok envelope ∧
        prepared.requirements ∈ offered ∧
        Pubkey.fromStr envelope.payload.«from» = .ok prepared.payer ∧
        Pubkey.fromStr envelope.payload.channelId = .ok prepared.channelId ∧
        envelope.payload.openTransaction = some transaction ∧
        server.chain.decode transaction = .ok prepared.tx ∧
        Authorizes server Signed envelope.payload prepared primary := by
  refine ⟨prepareOpen_faultless, ?_⟩
  intro prepared hPrepared
  simp only [prepareOpen, bind_eq_ok, faultless_eq_ok, mapError_eq_ok, okOr_eq_ok, parseKey,
    refuseIf_eq_ok, exists_const] at hPrepared
  rcases hPrepared with ⟨envelope, hEnvelope, requirements, hMatched, _, hPayload, _, -, programId, -,
    expectedMint, -, _, -, tokenProgram, -, distribution, hDistribution, channelId, hChannelId,
    payer, hPayer, max, hMax, -, transaction, hTransaction, tx, hDecoded, _, -, _, hValid, _,
    hSigned, hResult⟩
  cases hResult
  rcases validateOpenInstruction_eq_ok hValid with ⟨primary, args, hOpen⟩
  have hExpected := hOpen.expected
  have hArgs : args = PreparedOpen.args server envelope.payload ⟨tx, requirements, payer, channelId,
      max, expectedMint, tokenProgram, programId, server.feePayer, distribution,
      envelope.payload.expiresAt⟩ := by
    rcases args with ⟨salt, deposit, gracePeriod, openSlot, recipients⟩
    have hRecipients := hExpected.recipients _ rfl
    have hNonce := hExpected.nonce _ rfl
    have hOpenSlot := hExpected.openSlot _ rfl
    have hGrace := hExpected.gracePeriod _ rfl
    have hDeposit := hExpected.deposit _ rfl
    simp_all [PreparedOpen.args]
  have hOffered : requirements ∈ offered := by
    simp only [matchOfferedRequirement, bind_eq_ok, mapError_eq_ok, okOr_eq_ok] at hMatched
    rcases hMatched with ⟨accepted, -, hFound⟩
    exact List.mem_of_find?_eq_some hFound
  refine ⟨envelope, transaction, primary, hEnvelope, hOffered, hPayer, hChannelId, hTransaction,
    hDecoded, ?_⟩
  exact {
    layout := hOpen.layout
    accounts := by
      rw [hOpen.accounts]
      rfl
    decoded := by rw [hOpen.decoded, hArgs]
    data := by rw [hOpen.data, hArgs]
    distribution := hDistribution
    channel := by
      rw [hArgs] at hExpected
      exact hExpected.channel.symm
    authorized := hMax
    advertised := verifyUptoPayload_eq_ok hMax hPayload
    privileges := hOpen.privileges
    signed := verifyPayerSignature_eq_ok hUnforgeable hSigned }

end

/-! ### An open whose first key is the payer's -/

def openMint : Pubkey := .ofConst "EPjFWdd5AufqSSqeM2qN1xzybapC8G4wEGGkZwyTDt1v"

/-- The channel of the payer and the sponsor for the mint. -/
def openedChannel : Pubkey where
  bytes := [251, 171, 60, 189, 186, 162, 86, 90, 117, 44, 10, 247, 139, 92, 72, 58, 113, 235, 192,
    235, 142, 22, 76, 9, 182, 36, 30, 215, 150, 127, 244, 51]
  length_bytes := rfl

def payersTokens : Pubkey := BatchSettlement.payerTokenAccount

def channelsTokens : Pubkey where
  bytes := [19, 233, 22, 24, 166, 102, 42, 226, 28, 99, 165, 221, 155, 57, 98, 115, 230, 218, 150,
    42, 137, 44, 174, 32, 101, 94, 120, 12, 63, 34, 129, 82]
  length_bytes := rfl

/-- The event authority of the payment-channels program. -/
def openEventAuthority : Pubkey where
  bytes := [90, 84, 13, 123, 107, 30, 43, 43, 181, 23, 82, 25, 201, 163, 240, 96, 16, 146, 65, 202,
    140, 79, 23, 12, 193, 202, 45, 72, 238, 234, 249, 208]
  length_bytes := rfl

/-- The payer's Ed25519 signature of the open. -/
def openSignature : Signature where
  bytes := [55, 18, 117, 50, 163, 25, 138, 220, 10, 127, 181, 154, 218, 228, 31, 146, 94, 243, 81,
    136, 193, 6, 183, 3, 1, 135, 231, 136, 5, 218, 57, 96, 183, 89, 46, 36, 92, 46, 185, 32, 156,
    139, 212, 105, 61, 249, 101, 162, 77, 253, 72, 82, 13, 31, 168, 99, 9, 136, 38, 61, 242, 111,
    92, 14]
  length_bytes := rfl

/-- An open of 1,000 that the payer pays the fee of. The route's memo names the sponsor. -/
def payerFirstOpen : VersionedTransaction where
  signatures := [openSignature, Signature.default]
  message := .v0
    { header := ⟨2, 0, 8⟩
      accountKeys := [closePayer, closeSponsor, openedChannel, payersTokens, channelsTokens,
        openMint, tokenProgram, systemProgram, rentSysvar, ataProgram, openEventAuthority,
        paymentChannelsProgram, memoProgram]
      recentBlockhash := List.replicate 32 0
      instructions := [
        ⟨11, [0, 1, 1, 5, 1, 2, 3, 4, 6, 7, 8, 9, 10, 11],
          [1, 7, 0, 0, 0, 0, 0, 0, 0, 232, 3, 0, 0, 0, 0, 0, 0, 132, 3, 0, 0, 42, 0, 0, 0, 0, 0, 0,
            0, 1, 0, 0, 0] ++ closeSponsor.bytes ++ [16, 39]⟩,
        ⟨12, [1], asBytes "orders"⟩] }
    []

def openChain : Chain where
  decode text :=
    if text = "open" then .ok payerFirstOpen else .error "invalid base64"
  serializedSize tx := .ok (1 + 64 * tx.signatures.length + (serializeSmall tx.message).length)
  serialize := serializeSmall
  verify signature key bytes :=
    signature = openSignature ∧ key = closePayer ∧ bytes = serializeSmall payerFirstOpen.message
  findProgramAddress seeds program :=
    match seeds with
    | [_] => openEventAuthority
    | [owner, _, _] => if owner = closePayer.bytes then payersTokens else channelsTokens
    | _ => if program = paymentChannelsProgram then openedChannel else program

def openRequirements : UptoRequirements where
  scheme := uptoScheme
  network := "solana:5eykt4UsFv8P8NJdTREpY1vzqKqZKvdp"
  amount := "1000"
  asset := "EPjFWdd5AufqSSqeM2qN1xzybapC8G4wEGGkZwyTDt1v"
  payTo := closeSponsor.display
  maxTimeoutSeconds := 60
  extra := {
    tokenProgram := some programs.tokenProgram
    feePayer := closeSponsor.display
    receiverAuthorizer := closeSponsor.display
    transactionVersions := none
    withdrawDelay := 900
    recentBlockhash := none
    lastValidBlockHeight := none
    recentSlot := none
    validAfter := none
    memo := some "orders" }

def openEnvelope : UptoSignatureEnvelope where
  accepted := .object [("scheme", .text uptoScheme), ("network", .text openRequirements.network)]
  payload := {
    «from» := "9hSR6S7WPtxmTojgo6GG3k4yDPecgJY292j7xrsUGWBu"
    maxAmount := "1000"
    expiresAt := 1030
    validAfter := 0
    nonce := 7
    channelId := "HwQmxw9AkFU7icMhDyYQAGGq1Pxqky8uevKbFcqohT8N"
    deposit := "1000"
    authorizedSigner := closeSponsor.display
    openSlot := 42
    openTransaction := some "open" }

def openServer : UptoServer where
  chain := openChain
  programIdOverride := none
  defaultProgramId := paymentChannelsProgram
  feePayer := closeSponsor
  receiverAuthorizer := closeSponsor
  beneficiary := none
  withdrawDelay := 900
  maxChannelLifetime := 3600
  acceptedVersions := [.v0]
  parseEnvelope text := if text = "header" then .ok openEnvelope else .error "invalid base64"
  readRequirements _ := .ok openRequirements

/-- The outcome of the open, when the channel is absent. -/
def payerFirstOutcome : Except Failure PreparedOpen :=
  prepareOpen openServer (fun _ => false) ⟨.ok false, some 50⟩ "header" [openRequirements] 1000

/-- Every open that the run prepares is authorized, and there is one. -/
theorem prepared_authorizes_of_payerFirstOpen :
    payerFirstOutcome ≠ .error .fault ∧
    ∀ prepared, payerFirstOutcome = .ok prepared →
      ∃ envelope transaction primary, openServer.parsePaymentSignature "header" = .ok envelope ∧
        prepared.requirements ∈ [openRequirements] ∧
        Pubkey.fromStr envelope.payload.«from» = .ok prepared.payer ∧
        Pubkey.fromStr envelope.payload.channelId = .ok prepared.channelId ∧
        envelope.payload.openTransaction = some transaction ∧
        openServer.chain.decode transaction = .ok prepared.tx ∧
        Authorizes openServer
          (fun key message => key = closePayer ∧
            serializeSmall message = serializeSmall payerFirstOpen.message)
          envelope.payload prepared primary := by
  refine prepared_authorizes ?_
  intro signature key message hVerified
  simp only [openServer, openChain, decide_eq_true_eq] at hVerified
  exact hVerified.2

/-- The open is accepted although its memo names the sponsor, who signs it. -/
theorem payerFirstOpen_memo_names_sponsor :
    ∃ prepared, payerFirstOutcome = .ok prepared ∧
      prepared.tx.message.instructions.any (fun ix =>
        programOf prepared.tx.message.staticAccountKeys ix = some memoProgram ∧
          namesFeePayer prepared.tx.message.staticAccountKeys openServer.feePayer ix) = true := by
  have hAccepted : (payerFirstOutcome.toOption.any fun prepared =>
      prepared.tx.message.instructions.any fun ix =>
        programOf prepared.tx.message.staticAccountKeys ix = some memoProgram ∧
          namesFeePayer prepared.tx.message.staticAccountKeys openServer.feePayer ix) = true := by
    decide +kernel
  cases hOutcome : payerFirstOutcome with
  | error failure => simp [hOutcome, Except.toOption] at hAccepted
  | ok prepared => exact ⟨prepared, rfl, by simpa [hOutcome, Except.toOption] using hAccepted⟩

end PayKit.Upto
