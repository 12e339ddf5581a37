import PayKit.BatchSettlement.TransactionPolicy
import PayKit.Control.Faulting

/-!
# The hooks of a V2 channel

`core/payment_channel/v2.rs`: a channel has four slots for hooks, each disabled or with a program,
an entry point, up to four accounts and up to 32 bytes of data. The account of the channel holds
them in windows of a fixed size, padded with zeros, behind a hash of the windows; the `open`
instruction carries them one after the other, without padding.

Reading and writing at a position outside of the bytes is a fault.
-/

namespace PayKit.PaymentChannel

open Control Encoding Faulting Machine Solana Tx
open BatchSettlement (parsePubkey pubkeyOfBytes)

def paymentChannelsProgramId : String := "CHNLxBtXw7VPqd5GMcbtVoEbn4ehyaSoiHj56Ao5sWkJ"
def channelAccountSize : ℕ := 1121
def hookDescriptorSize : ℕ := 206
def maxHookAccounts : ℕ := 4
def maxStaticData : ℕ := 32

structure HookAccount where
  address : String
  writable : Bool
deriving DecidableEq

/-- The eight bytes that select a hook of a program. -/
structure Entrypoint where
  bytes : List UInt8
  length_bytes : bytes.length = 8
deriving DecidableEq

structure HookDescriptor where
  programId : String
  entrypoint : Entrypoint
  accounts : List HookAccount
  staticData : List UInt8
deriving DecidableEq

structure ChannelHooks where
  preFund : Option HookDescriptor
  postFund : Option HookDescriptor
  preDistribute : Option HookDescriptor
  postDistribute : Option HookDescriptor
deriving DecidableEq

def invalid (message : String) : String :=
  "payment-channel ABI: " ++ message

/-- `u8::from` of a flag. -/
def flagByte (flag : Bool) : UInt8 :=
  if flag then 1 else 0

namespace ChannelHooks

def slots (hooks : ChannelHooks) : List (Option HookDescriptor) :=
  [hooks.preFund, hooks.postFund, hooks.preDistribute, hooks.postDistribute]

end ChannelHooks

/-! ### Which hooks are valid -/

/-- The accounts of a hook: none twice, and none its program. -/
def validateAccounts (program : Pubkey) :
    List Pubkey → List HookAccount → Except String Unit
  | _, [] => .ok ()
  | seen, account :: accounts => do
      let address ← parsePubkey account.address
      refuseIf (address ∈ seen ∨ address = program)
        (invalid "duplicate or target-aliasing hook account")
      validateAccounts program (address :: seen) accounts

def HookDescriptor.validate (hook : HookDescriptor) : Except String Unit := do
  let program ← parsePubkey hook.programId
  let own ← parsePubkey paymentChannelsProgramId
  refuseIf (program = default ∨ program = own)
    (invalid "enabled hook has zero or self target program")
  refuseIf (maxHookAccounts < hook.accounts.length ∨ maxStaticData < hook.staticData.length)
    (invalid "hook exceeds account or static-data bounds")
  validateAccounts program [] hook.accounts

def ChannelHooks.validate (hooks : ChannelHooks) : Except String Unit :=
  hooks.slots.forM fun
    | none => .ok ()
    | some hook => hook.validate

/-! ### The suffix of `open` -/

def HookAccount.encode (account : HookAccount) : Except String (List UInt8) := do
  let address ← parsePubkey account.address
  return address.bytes ++ [flagByte account.writable]

def encodeAccounts : List HookAccount → Except String (List UInt8)
  | [] => .ok []
  | account :: accounts => do
      let bytes ← account.encode
      let rest ← encodeAccounts accounts
      return bytes ++ rest

/-- An enabled slot of the suffix, behind its tag. -/
def HookDescriptor.encodeCompact (hook : HookDescriptor) : Except String (List UInt8) := do
  let program ← parsePubkey hook.programId
  let accounts ← encodeAccounts hook.accounts
  return program.bytes ++ hook.entrypoint.bytes ++ [UInt8.ofNat hook.accounts.length] ++
    [UInt8.ofNat hook.staticData.length] ++ hook.staticData ++ accounts

def encodeSlots : List (Option HookDescriptor) → Except String (List UInt8)
  | [] => .ok []
  | none :: slots => do
      let rest ← encodeSlots slots
      return flagByte false :: rest
  | some hook :: slots => do
      let bytes ← hook.encodeCompact
      let rest ← encodeSlots slots
      return flagByte true :: bytes ++ rest

def ChannelHooks.encodeOpenSuffix (hooks : ChannelHooks) : Except String (List UInt8) := do
  hooks.validate
  encodeSlots hooks.slots

/-! ### The windows of the account -/

/-- `out[start..][..bytes.len()].copy_from_slice(bytes)`. -/
def overwrite (out : List UInt8) (start : ℕ) (bytes : List UInt8) : Faulting String (List UInt8) :=
  orFault (if start + bytes.length ≤ out.length then
      some (out.take start ++ bytes ++ out.drop (start + bytes.length))
    else none)

def writeAccounts : ℕ → List HookAccount → List UInt8 → Faulting String (List UInt8)
  | _, [], out => .ok out
  | position, account :: accounts, out => do
      let offset := 74 + position * 33
      let address ← faultless (parsePubkey account.address)
      let out ← overwrite out offset address.bytes
      let out ← overwrite out (offset + 32) [flagByte account.writable]
      writeAccounts (position + 1) accounts out

/-- The window of an enabled slot, written over zeros. -/
def HookDescriptor.writeWindow (hook : HookDescriptor) (out : List UInt8) :
    Faulting String (List UInt8) := do
  let program ← faultless (parsePubkey hook.programId)
  let out ← overwrite out 0 program.bytes
  let out ← overwrite out 32 hook.entrypoint.bytes
  let out ← overwrite out 40 [UInt8.ofNat hook.accounts.length]
  let out ← overwrite out 41 [UInt8.ofNat hook.staticData.length]
  let out ← overwrite out 42 hook.staticData
  writeAccounts 0 hook.accounts out

def writeSlots : ℕ → List (Option HookDescriptor) → List UInt8 → Faulting String (List UInt8)
  | _, [], bytes => .ok bytes
  | position, none :: slots, bytes => writeSlots (position + 1) slots bytes
  | position, some hook :: slots, bytes => do
      let start := position * hookDescriptorSize
      let out ← range bytes start (start + hookDescriptorSize)
      let out ← hook.writeWindow out
      let bytes ← overwrite bytes start out
      writeSlots (position + 1) slots bytes

def ChannelHooks.encodeFixed (hooks : ChannelHooks) : Faulting String (List UInt8) := do
  faultless hooks.validate
  writeSlots 0 hooks.slots (List.replicate (4 * hookDescriptorSize) 0)

/-! ### Reading the account -/

structure SettlementWatermarks where
  settled : ℕ
  payoutWatermark : ℕ
deriving DecidableEq

/-- The account of a channel, as V1 has it. -/
structure ChannelAccount where
  discriminator : UInt8
  version : UInt8
  bump : UInt8
  status : UInt8
  salt : ℕ
  deposit : ℕ
  settlement : SettlementWatermarks
  closureStartedAt : ℤ
  payerWithdrawnAt : ℤ
  gracePeriod : ℕ
  distributionHash : List UInt8
  payer : Pubkey
  payee : Pubkey
  authorizedSigner : Pubkey
  mint : Pubkey
  rentPayer : Pubkey
  openSlot : ℕ
deriving DecidableEq

def ChannelAccount.fromBytes (data : List UInt8) : Option ChannelAccount := do
  return {
    discriminator := ← data[0]?
    version := ← data[1]?
    bump := ← data[2]?
    status := ← data[3]?
    salt := fromLeBytes data 4 12
    deposit := fromLeBytes data 12 20
    settlement :=
      { settled := fromLeBytes data 20 28
        payoutWatermark := fromLeBytes data 28 36 }
    closureStartedAt := asI64 (fromLeBytes data 36 44)
    payerWithdrawnAt := asI64 (fromLeBytes data 44 52)
    gracePeriod := fromLeBytes data 52 56
    distributionHash := slice data 56 88
    payer := ← pubkeyOfBytes (slice data 88 120)
    payee := ← pubkeyOfBytes (slice data 120 152)
    authorizedSigner := ← pubkeyOfBytes (slice data 152 184)
    mint := ← pubkeyOfBytes (slice data 184 216)
    rentPayer := ← pubkeyOfBytes (slice data 216 248)
    openSlot := ← if 256 ≤ data.length then some (fromLeBytes data 248 256) else none }

structure ChannelState where
  channel : ChannelAccount
  hooks : ChannelHooks
  guard : UInt8
  operationSequence : ℕ
  configHash : List UInt8
deriving DecidableEq

def decodeBase (data : List UInt8) (version : UInt8) : Faulting String ChannelAccount := do
  faultless (refuseIf (data.length ≠ 256) (invalid "invalid channel length, version, or status"))
  let discriminator ← index data 0
  let actual ← index data 1
  let status ← index data 3
  faultless (refuseIf (discriminator ≠ 1 ∨ actual ≠ version ∨ 3 < status)
    (invalid "invalid channel length, version, or status"))
  faultless (okOr (ChannelAccount.fromBytes data) (invalid "invalid channel account"))

/-- `Pubkey::new_from_array(bytes.try_into().unwrap())`. -/
def keyOfArray (bytes : List UInt8) : Faulting String Pubkey :=
  orFault (pubkeyOfBytes bytes)

/-- So many accounts of a window, from a position on. -/
def readAccounts (raw : List UInt8) : ℕ → ℕ → Faulting String (List HookAccount)
  | _, 0 => .ok []
  | position, count + 1 => do
      let offset := 74 + position * 33
      let flag ← index raw (offset + 32)
      faultless (refuseIf (1 < flag) (invalid "invalid hook writable flag"))
      let bytes ← range raw offset (offset + 32)
      let address ← keyOfArray bytes
      let rest ← readAccounts raw (position + 1) count
      return ⟨address.display, flag = 1⟩ :: rest

def entrypointOfBytes (bytes : List UInt8) : Option Entrypoint :=
  if hLength : bytes.length = 8 then some ⟨bytes, hLength⟩ else none

/-- A window whose program is not zero. -/
def readHook (raw program : List UInt8) : Faulting String HookDescriptor := do
  let countByte ← index raw 40
  let lengthByte ← index raw 41
  let count := countByte.toNat
  let length := lengthByte.toNat
  faultless (refuseIf (maxHookAccounts < count ∨ maxStaticData < length)
    (invalid "invalid hook bounds"))
  let dataPadding ← range raw (42 + length) 74
  faultless (refuseIf (dataPadding.any (· ≠ 0)) (invalid "noncanonical hook padding"))
  let accountPadding ← range raw (74 + count * 33) raw.length
  faultless (refuseIf (accountPadding.any (· ≠ 0)) (invalid "noncanonical hook padding"))
  let accounts ← readAccounts raw 0 count
  let programId ← keyOfArray program
  let entry ← range raw 32 40
  let entrypoint ← orFault (entrypointOfBytes entry)
  let staticData ← range raw 42 (42 + length)
  return ⟨programId.display, entrypoint, accounts, staticData⟩

/-- A window: a zero program says that the slot is disabled. -/
def readWindow (raw : List UInt8) : Faulting String (Option HookDescriptor) := do
  let program ← range raw 0 32
  if program = List.replicate 32 0 then
    faultless (refuseIf (raw.any (· ≠ 0)) (invalid "disabled hook has nonzero payload"))
    return none
  else
    let hook ← readHook raw program
    return some hook

/-- `&data[297 + index * HOOK_DESCRIPTOR_SIZE..][..HOOK_DESCRIPTOR_SIZE]`, read. -/
def readSlot (data : List UInt8) (position : ℕ) : Faulting String (Option HookDescriptor) := do
  let start := 297 + position * hookDescriptorSize
  let raw ← range data start (start + hookDescriptorSize)
  readWindow raw

section

variable (sha256 : List UInt8 → List UInt8)

def ChannelHooks.configHash (hooks : ChannelHooks) : Faulting String (List UInt8) := do
  let bytes ← hooks.encodeFixed
  return sha256 bytes

def decodeChannel (data : List UInt8) : Faulting String ChannelState := do
  faultless (refuseIf (data.length ≠ channelAccountSize) (invalid "invalid V2 channel length"))
  let base ← range data 0 256
  let channel ← decodeBase base 2
  let guardByte ← index data 256
  faultless (refuseIf (guardByte ≠ 0) (invalid "channel callback guard is active"))
  let preFund ← readSlot data 0
  let postFund ← readSlot data 1
  let preDistribute ← readSlot data 2
  let postDistribute ← readSlot data 3
  let hooks : ChannelHooks := ⟨preFund, postFund, preDistribute, postDistribute⟩
  faultless hooks.validate
  let expected ← hooks.configHash sha256
  let configHash ← range data 265 297
  faultless (refuseIf (expected ≠ configHash) (invalid "hook configuration hash mismatch"))
  let operationSequence ← range data 257 265
  return {
    channel := channel
    hooks := hooks
    guard := 0
    operationSequence := decodeLE operationSequence
    configHash := configHash }

end

end PayKit.PaymentChannel
