import PayKit.Tx.Policy

/-!
# Building transactions

`core/tx/build.rs` and the budget instructions of `core/tx/budget.rs`: instructions are compiled
into an unsigned transaction of a version, which carries the compute budget the way that version
does. The compilation of a message belongs to the Solana crates and is a parameter. What its
users rely on is `CompiledFrom`: the fee payer comes first, no key comes twice, a key signs when
some instruction has it sign, and every instruction names the keys that it was given.
-/

namespace PayKit.Tx

open Control Encoding Machine Solana

structure AccountMeta where
  pubkey : Pubkey
  isSigner : Bool
  isWritable : Bool
deriving DecidableEq

namespace AccountMeta

def new (pubkey : Pubkey) (isSigner : Bool) : AccountMeta :=
  ⟨pubkey, isSigner, true⟩

def newReadonly (pubkey : Pubkey) (isSigner : Bool) : AccountMeta :=
  ⟨pubkey, isSigner, false⟩

end AccountMeta

structure Instruction where
  programId : Pubkey
  accounts : List AccountMeta
  data : List UInt8
deriving DecidableEq

/-! ### The compute budget -/

def unitLimitInstruction (units : ℕ) : Instruction :=
  ⟨computeBudgetProgram, [], setUnitLimitTag :: encodeLE 4 units⟩

def unitPriceInstruction (microLamports : ℕ) : Instruction :=
  ⟨computeBudgetProgram, [], setUnitPriceTag :: encodeLE 8 microLamports⟩

def ComputeBudget.instructions (budget : ComputeBudget) : List Instruction :=
  [unitLimitInstruction budget.unitLimit, unitPriceInstruction budget.unitPriceMicroLamports]

def ComputeBudget.v1Config (budget : ComputeBudget) : TransactionConfig where
  priorityFee := some budget.priorityFeeLamports
  computeUnitLimit := some budget.unitLimit
  loadedAccountsDataSizeLimit := some budget.loadedAccountsDataSizeLimit
  heapSize := none

/-! ### Compilation -/

/-- The compilation of instructions for a fee payer and a blockhash. -/
abbrev MessageCompiler : Type :=
  TxVersion → Pubkey → List Instruction → List UInt8 → Except String Message

/-- The compiled instruction calls the same program with the same accounts and data. -/
structure Renders (keys : List Pubkey) (ix : Instruction) (compiled : CompiledInstruction) :
    Prop where
  program : programOf keys compiled = some ix.programId
  accounts : compiled.accounts.map (keyAt keys) = ix.accounts.map fun account =>
    some account.pubkey
  data : compiled.data = ix.data

/-- A key that some instruction has sign. -/
def IsSigner (ixs : List Instruction) (key : Pubkey) : Prop :=
  ∃ ix ∈ ixs, ∃ account ∈ ix.accounts, account.isSigner = true ∧ account.pubkey = key

/-- What a compiled message keeps of its instructions. -/
structure CompiledFrom (payer : Pubkey) (ixs : List Instruction) (message : Message) : Prop where
  payerFirst : message.accountKeys.head? = some payer
  distinct : message.accountKeys.Nodup
  named : ∀ key ∈ message.accountKeys, key = payer ∨
    ∃ ix ∈ ixs, key = ix.programId ∨ ∃ account ∈ ix.accounts, account.pubkey = key
  required : message.header.numRequiredSignatures.toNat ≤ message.accountKeys.length
  signers : ∀ key, key ∈ message.accountKeys.take message.header.numRequiredSignatures.toNat ↔
    key = payer ∨ IsSigner ixs key
  instructions : List.Forall₂ (Renders message.accountKeys) ixs message.instructions

def Compiles (compile : MessageCompiler) : Prop :=
  ∀ version payer ixs blockhash message, compile version payer ixs blockhash = .ok message →
    CompiledFrom payer ixs message

section

variable (compile : MessageCompiler)

/-- The message of a version, with its compute budget. -/
def compileMessage (version : TxVersion) (feePayer : Pubkey) (ixs : List Instruction)
    (blockhash : List UInt8) (budget : Option ComputeBudget) : Except String VersionedMessage :=
  match version with
  | .v0 => do
      let message ← (compile .v0 feePayer ((budget.map (·.instructions)).getD [] ++ ixs)
        blockhash).mapError ("failed to compile v0 message: " ++ ·)
      return .v0 message []
  | .v1 => do
      let message ← (compile .v1 feePayer ixs blockhash).mapError
        ("failed to compile v1 message: " ++ ·)
      return .v1 message (budget.getD (ComputeBudget.runtimeDefault ixs.length)).v1Config

def buildUnsignedUnchecked (version : TxVersion) (feePayer : Pubkey) (ixs : List Instruction)
    (blockhash : List UInt8) (budget : Option ComputeBudget) :
    Except String VersionedTransaction := do
  let message ← compileMessage compile version feePayer ixs blockhash budget
  return ⟨List.replicate message.header.numRequiredSignatures.toNat Signature.default, message⟩

/-- `build_unsigned`: within the limits of the version. -/
def buildUnsigned (serializedSize : VersionedTransaction → Except String ℕ) (version : TxVersion)
    (feePayer : Pubkey) (ixs : List Instruction) (blockhash : List UInt8)
    (budget : Option ComputeBudget) : Except String VersionedTransaction := do
  let tx ← buildUnsignedUnchecked compile version feePayer ixs blockhash budget
  let _ ← checkLimits serializedSize tx version
  return tx

end

/-! ### The version -/

def highestVersion (versions : List TxVersion) : Option TxVersion :=
  if .v1 ∈ versions then some .v1 else if .v0 ∈ versions then some .v0 else none

def TxVersion.atMost (version max : TxVersion) : Bool :=
  version = .v0 ∨ max = .v1

/-- `accepted_versions`. -/
def advertisedVersions (advertised : Option (List TxVersion)) : List TxVersion :=
  advertised.getD [.v0]

/-- `negotiate`: the version a client builds. -/
def negotiate (advertised : Option (List TxVersion)) (maxSignable : Option TxVersion) :
    Except String TxVersion := do
  let accepted := advertisedVersions advertised
  refuseIf accepted.isEmpty
    "the counterparty advertises no transaction version (transactionVersions is empty)"
  okOr (highestVersion (accepted.filter fun version => maxSignable.all version.atMost))
    (s!"the server accepts transaction versions [{displayVersions accepted}] but the signer " ++
      "signs up to version " ++ (maxSignable.map TxVersion.display).getD "")

theorem negotiate_mem {advertised : Option (List TxVersion)} {maxSignable : Option TxVersion}
    {version : TxVersion} (hVersion : negotiate advertised maxSignable = .ok version) :
    version ∈ advertisedVersions advertised := by
  simp only [negotiate, bind_eq_ok, refuseIf_eq_ok, okOr_eq_ok] at hVersion
  rcases hVersion with ⟨-, -, hHighest⟩
  simp only [highestVersion] at hHighest
  split at hHighest
  next hMember =>
    cases hHighest
    exact List.mem_of_mem_filter hMember
  next =>
    split at hHighest
    next hMember =>
      cases hHighest
      exact List.mem_of_mem_filter hMember
    next => cases hHighest

/-! ### Compiled instructions -/

section

variable {keys : List Pubkey} {ix : Instruction} {compiled : CompiledInstruction}

theorem Renders.length (hRenders : Renders keys ix compiled) :
    compiled.accounts.length = ix.accounts.length := by
  have hLengths := congrArg List.length hRenders.accounts
  simpa using hLengths

theorem Renders.account (hRenders : Renders keys ix compiled) (position : ℕ) :
    accountAt keys compiled position = ix.accounts[position]?.map AccountMeta.pubkey := by
  have hPosition := congrArg (·[position]?) hRenders.accounts
  simp only [List.getElem?_map] at hPosition
  rw [accountAt]
  cases hCompiled : compiled.accounts[position]? with
  | none =>
      cases hAccount : ix.accounts[position]? with
      | none => rfl
      | some account => simp [hCompiled, hAccount] at hPosition
  | some index =>
      cases hAccount : ix.accounts[position]? with
      | none => simp [hCompiled, hAccount] at hPosition
      | some account =>
          simp only [hCompiled, hAccount, Option.map_some, Option.some.injEq] at hPosition
          simp [hPosition]

end

section

variable {compile : MessageCompiler} {version : TxVersion} {feePayer : Pubkey}
  {ixs : List Instruction} {blockhash : List UInt8} {budget : ComputeBudget}
  {tx : VersionedTransaction}

/-- The instructions of a message of a version. -/
def budgeted (version : TxVersion) (budget : ComputeBudget) (ixs : List Instruction) :
    List Instruction :=
  match version with
  | .v0 => budget.instructions ++ ixs
  | .v1 => ixs

/-- The message that carries a budget the way its version does. -/
def ofVersion (version : TxVersion) (budget : ComputeBudget) (message : Message) :
    VersionedMessage :=
  match version with
  | .v0 => .v0 message []
  | .v1 => .v1 message budget.v1Config

/-- What is built: the compiled instructions, with the budget before them or in the config. -/
theorem buildUnsignedUnchecked_eq_ok
    (hBuilt : buildUnsignedUnchecked compile version feePayer ixs blockhash (some budget) =
      .ok tx) :
    ∃ message, compile version feePayer (budgeted version budget ixs) blockhash = .ok message ∧
      tx = ⟨List.replicate message.header.numRequiredSignatures.toNat Signature.default,
        ofVersion version budget message⟩ := by
  simp only [buildUnsignedUnchecked, bind_eq_ok, pure, Except.pure, Except.ok.injEq] at hBuilt
  rcases hBuilt with ⟨versioned, hMessage, rfl⟩
  cases version with
  | v0 =>
      simp only [compileMessage, bind_eq_ok, mapError_eq_ok, pure, Except.pure, Except.ok.injEq]
        at hMessage
      rcases hMessage with ⟨message, hCompiled, rfl⟩
      exact ⟨message, hCompiled, rfl⟩
  | v1 =>
      simp only [compileMessage, bind_eq_ok, mapError_eq_ok, pure, Except.pure, Except.ok.injEq]
        at hMessage
      rcases hMessage with ⟨message, hCompiled, rfl⟩
      exact ⟨message, hCompiled, rfl⟩

end

end PayKit.Tx
