import Mathlib.Data.List.Sort
import PayKit.Tx.Compile

/-!
# The order of a compiled message

A compiler that orders keys the way the Solana crates document it: the fee payer, then the
writable and the readonly signers, then the writable and the readonly keys that do not sign, each
group by its bytes. It keeps what `Compiles` asks of a compiler, and concrete transactions are
compiled with it.
-/

namespace PayKit.Tx

open Control Encoding Machine Solana

/-- The accounts of some instructions, with their programs. -/
def mentions (ixs : List Instruction) : List AccountMeta :=
  ixs.flatMap fun ix => .newReadonly ix.programId false :: ix.accounts

def signs (ixs : List Instruction) (key : Pubkey) : Bool :=
  (mentions ixs).any fun account => account.pubkey = key ∧ account.isSigner

def writes (ixs : List Instruction) (key : Pubkey) : Bool :=
  (mentions ixs).any fun account => account.pubkey = key ∧ account.isWritable

section

variable (payer : Pubkey) (ixs : List Instruction)

/-- The keys beside the fee payer, by their bytes. -/
def orderedKeys : List Pubkey :=
  (((mentions ixs).map AccountMeta.pubkey).dedup.filter (· ≠ payer)).insertionSort
    fun left right => left.bytes ≤ right.bytes

def keysWith (signer writable : Bool) : List Pubkey :=
  (orderedKeys payer ixs).filter fun key => signs ixs key = signer ∧ writes ixs key = writable

def signerKeys : List Pubkey :=
  payer :: (keysWith payer ixs true true ++ keysWith payer ixs true false)

def otherKeys : List Pubkey :=
  keysWith payer ixs false true ++ keysWith payer ixs false false

def compiledKeys : List Pubkey :=
  signerKeys payer ixs ++ otherKeys payer ixs

end

/-- An instruction over the positions of its keys. -/
def compileInstruction (keys : List Pubkey) (ix : Instruction) : CompiledInstruction where
  programIdIndex := UInt8.ofNat (keys.idxOf ix.programId)
  accounts := ix.accounts.map fun account => UInt8.ofNat (keys.idxOf account.pubkey)
  data := ix.data

def compileInOrder : MessageCompiler := fun _ payer ixs blockhash => do
  let keys := compiledKeys payer ixs
  refuseIf (256 < keys.length) "account index overflowed during compilation"
  let signers := (signerKeys payer ixs).length
  refuseIf (255 < signers) "account index overflowed during compilation"
  return {
    header := ⟨UInt8.ofNat signers, UInt8.ofNat (keysWith payer ixs true false).length,
      UInt8.ofNat (keysWith payer ixs false false).length⟩
    accountKeys := keys
    recentBlockhash := blockhash
    instructions := ixs.map (compileInstruction keys) }

section

variable {payer key : Pubkey} {ixs : List Instruction} {ix : Instruction} {signer writable : Bool}

theorem mem_orderedKeys :
    key ∈ orderedKeys payer ixs ↔ key ≠ payer ∧ ∃ account ∈ mentions ixs, account.pubkey = key := by
  simp [orderedKeys, and_comm]

theorem nodup_orderedKeys : (orderedKeys payer ixs).Nodup := by
  rw [orderedKeys, (List.perm_insertionSort _ _).nodup_iff]
  exact (List.nodup_dedup _).filter _

theorem mem_keysWith : key ∈ keysWith payer ixs signer writable ↔
    key ∈ orderedKeys payer ixs ∧ signs ixs key = signer ∧ writes ixs key = writable := by
  simp [keysWith]

theorem mem_mentions {account : AccountMeta} : account ∈ mentions ixs ↔
    ∃ ix ∈ ixs, account = .newReadonly ix.programId false ∨ account ∈ ix.accounts := by
  simp [mentions]

theorem isSigner_iff : IsSigner ixs key ↔ signs ixs key = true := by
  simp only [IsSigner, signs, List.any_eq_true, mem_mentions, decide_eq_true_eq]
  constructor
  · rintro ⟨ix, hIx, account, hAccount, hSigns, hKey⟩
    exact ⟨account, ⟨ix, hIx, .inr hAccount⟩, hKey, hSigns⟩
  · rintro ⟨account, ⟨ix, hIx, rfl | hAccount⟩, hKey, hSigns⟩
    · cases hSigns
    · exact ⟨ix, hIx, account, hAccount, hSigns, hKey⟩

theorem mem_orderedKeys_of_signs (hOther : key ≠ payer) (hSigns : signs ixs key = true) :
    key ∈ orderedKeys payer ixs := by
  simp only [signs, List.any_eq_true, decide_eq_true_eq] at hSigns
  rcases hSigns with ⟨account, hAccount, hKey, -⟩
  exact mem_orderedKeys.mpr ⟨hOther, account, hAccount, hKey⟩

theorem mem_signerKeys :
    key ∈ signerKeys payer ixs ↔ key = payer ∨ IsSigner ixs key := by
  rw [isSigner_iff, signerKeys, List.mem_cons, List.mem_append, mem_keysWith, mem_keysWith]
  constructor
  · rintro (rfl | ⟨-, hSigns, -⟩ | ⟨-, hSigns, -⟩)
    · exact .inl rfl
    · exact .inr hSigns
    · exact .inr hSigns
  · rintro (rfl | hSigns)
    · exact .inl rfl
    · by_cases hPayer : key = payer
      · exact .inl hPayer
      have hOrdered := mem_orderedKeys_of_signs hPayer hSigns
      cases hWrites : writes ixs key with
      | true => exact .inr (.inl ⟨hOrdered, hSigns, rfl⟩)
      | false => exact .inr (.inr ⟨hOrdered, hSigns, rfl⟩)

theorem mem_compiledKeys :
    key ∈ compiledKeys payer ixs ↔
      key = payer ∨ ∃ account ∈ mentions ixs, account.pubkey = key := by
  rw [compiledKeys, List.mem_append, mem_signerKeys, otherKeys, List.mem_append, mem_keysWith,
    mem_keysWith, isSigner_iff]
  constructor
  · rintro ((rfl | hSigns) | ⟨hOrdered, -⟩ | ⟨hOrdered, -⟩)
    · exact .inl rfl
    · by_cases hPayer : key = payer
      · exact .inl hPayer
      · exact .inr (mem_orderedKeys.mp (mem_orderedKeys_of_signs hPayer hSigns)).2
    · exact .inr (mem_orderedKeys.mp hOrdered).2
    · exact .inr (mem_orderedKeys.mp hOrdered).2
  · rintro (rfl | hMentioned)
    · exact .inl (.inl rfl)
    · by_cases hPayer : key = payer
      · exact .inl (.inl hPayer)
      have hOrdered : key ∈ orderedKeys payer ixs := mem_orderedKeys.mpr ⟨hPayer, hMentioned⟩
      cases hSigns : signs ixs key with
      | true => exact .inl (.inr rfl)
      | false =>
          cases hWrites : writes ixs key with
          | true => exact .inr (.inl ⟨hOrdered, rfl, rfl⟩)
          | false => exact .inr (.inr ⟨hOrdered, rfl, rfl⟩)

theorem nodup_keysWith : (keysWith payer ixs signer writable).Nodup :=
  nodup_orderedKeys.filter _

theorem nodup_compiledKeys : (compiledKeys payer ixs).Nodup := by
  have hPayer : ∀ {signer writable}, payer ∉ keysWith payer ixs signer writable := by
    intro signer writable hMem
    exact (mem_orderedKeys.mp (mem_keysWith.mp hMem).1).1 rfl
  simp only [compiledKeys, signerKeys, otherKeys, List.cons_append, List.nodup_cons,
    List.nodup_append, List.mem_append, not_or, nodup_keysWith, true_and]
  refine ⟨⟨⟨hPayer, hPayer⟩, hPayer, hPayer⟩, ?_, ?_, ?_⟩
  · rintro left hLeft right hRight rfl
    have hWrites := (mem_keysWith.mp hLeft).2.2.symm.trans (mem_keysWith.mp hRight).2.2
    cases hWrites
  · rintro left hLeft right hRight rfl
    have hWrites := (mem_keysWith.mp hLeft).2.2.symm.trans (mem_keysWith.mp hRight).2.2
    cases hWrites
  · rintro left hLeft right hRight rfl
    have hSigns : signs ixs left = true := by
      rcases hLeft with hLeft | hLeft <;> exact (mem_keysWith.mp hLeft).2.1
    have hSilent : signs ixs left = false := by
      rcases hRight with hRight | hRight <;> exact (mem_keysWith.mp hRight).2.1
    rw [hSigns] at hSilent
    cases hSilent

theorem keyAt_idxOf {keys : List Pubkey} (hKey : key ∈ keys) (hLength : keys.length ≤ 256) :
    keyAt keys (UInt8.ofNat (keys.idxOf key)) = some key := by
  have hIndex := List.idxOf_lt_length_of_mem hKey
  rw [keyAt, UInt8.toNat_ofNat_of_lt' (by simp only [UInt8.size]; omega),
    List.getElem?_eq_getElem hIndex, List.getElem_idxOf hIndex]

theorem renders_compileInstruction {keys : List Pubkey} (hProgram : ix.programId ∈ keys)
    (hAccounts : ∀ account ∈ ix.accounts, account.pubkey ∈ keys) (hLength : keys.length ≤ 256) :
    Renders keys ix (compileInstruction keys ix) where
  program := keyAt_idxOf hProgram hLength
  accounts := by
    simp only [compileInstruction, List.map_map]
    refine List.map_congr_left ?_
    intro account hAccount
    exact keyAt_idxOf (hAccounts account hAccount) hLength
  data := rfl

end

theorem compiles_inOrder : Compiles compileInOrder := by
  intro version payer ixs blockhash message hMessage
  simp only [compileInOrder, bind_eq_ok, refuseIf_eq_ok, exists_const, not_lt, pure, Except.pure,
    Except.ok.injEq] at hMessage
  rcases hMessage with ⟨hKeys, hSigners, rfl⟩
  have hRequired : (UInt8.ofNat (signerKeys payer ixs).length).toNat =
      (signerKeys payer ixs).length :=
    UInt8.toNat_ofNat_of_lt' (by simp only [UInt8.size]; omega)
  have hMentioned : ∀ ix ∈ ixs, ix.programId ∈ compiledKeys payer ixs ∧
      ∀ account ∈ ix.accounts, account.pubkey ∈ compiledKeys payer ixs := by
    intro ix hIx
    refine ⟨mem_compiledKeys.mpr (.inr ⟨_, mem_mentions.mpr ⟨ix, hIx, .inl rfl⟩, rfl⟩), ?_⟩
    intro account hAccount
    exact mem_compiledKeys.mpr (.inr ⟨account, mem_mentions.mpr ⟨ix, hIx, .inr hAccount⟩, rfl⟩)
  exact {
    payerFirst := rfl
    distinct := nodup_compiledKeys
    named := by
      intro key hKey
      rcases mem_compiledKeys.mp hKey with rfl | ⟨account, hAccount, rfl⟩
      · exact .inl rfl
      rcases mem_mentions.mp hAccount with ⟨ix, hIx, rfl | hMember⟩
      · exact .inr ⟨ix, hIx, .inl rfl⟩
      · exact .inr ⟨ix, hIx, .inr ⟨account, hMember, rfl⟩⟩
    required := by
      rw [hRequired]
      simp only [compiledKeys, List.length_append]
      omega
    signers := by
      intro key
      rw [hRequired, compiledKeys, List.take_left, mem_signerKeys]
    instructions := by
      rw [List.forall₂_map_right_iff, List.forall₂_same]
      intro ix hIx
      rcases hMentioned ix hIx with ⟨hProgram, hAccounts⟩
      exact renders_compileInstruction hProgram hAccounts hKeys }

end PayKit.Tx
