import PayKit.Control.Refusal
import PayKit.Encoding.Bytes
import PayKit.Solana.Pubkey

/-!
# Transactions

Decoded Solana transactions, as the verifiers of `core/tx` and of the payment
protocols read them. An instruction names its program and its accounts by their
positions among the message's static keys. Version 1 carries its compute budget in
the message; version 0 may resolve more accounts through lookup tables, which no
verifier accepts.

The wire format of a transaction and the bytes its signatures cover belong to the
Solana crates and are parameters where they are used.
-/

namespace PayKit.Tx

open Solana Control Encoding

/-- An instruction over the positions of its accounts among the message's keys. -/
structure CompiledInstruction where
  programIdIndex : UInt8
  accounts : List UInt8
  data : List UInt8
deriving DecidableEq

structure MessageHeader where
  numRequiredSignatures : UInt8
  numReadonlySignedAccounts : UInt8
  numReadonlyUnsignedAccounts : UInt8
deriving DecidableEq

structure MessageAddressTableLookup where
  accountKey : Pubkey
  writableIndexes : List UInt8
  readonlyIndexes : List UInt8
deriving DecidableEq

/-- The compute budget in a version-1 message. -/
structure TransactionConfig where
  priorityFee : Option ℕ
  computeUnitLimit : Option ℕ
  loadedAccountsDataSizeLimit : Option ℕ
  heapSize : Option ℕ
deriving DecidableEq

/-- What the messages of every version have. -/
structure Message where
  header : MessageHeader
  accountKeys : List Pubkey
  recentBlockhash : List UInt8
  instructions : List CompiledInstruction
deriving DecidableEq

inductive VersionedMessage where
  | legacy (message : Message)
  | v0 (message : Message) (addressTableLookups : List MessageAddressTableLookup)
  | v1 (message : Message) (config : TransactionConfig)
deriving DecidableEq

namespace VersionedMessage

def body : VersionedMessage → Message
  | legacy message => message
  | v0 message _ => message
  | v1 message _ => message

def header (message : VersionedMessage) : MessageHeader :=
  message.body.header

def staticAccountKeys (message : VersionedMessage) : List Pubkey :=
  message.body.accountKeys

def instructions (message : VersionedMessage) : List CompiledInstruction :=
  message.body.instructions

def addressTableLookups : VersionedMessage → Option (List MessageAddressTableLookup)
  | legacy _ => none
  | v0 _ lookups => some lookups
  | v1 _ _ => none

end VersionedMessage

structure Signature where
  bytes : List UInt8
  length_bytes : bytes.length = 64
deriving DecidableEq

/-- A signature that is not there yet. -/
def Signature.default : Signature :=
  ⟨List.replicate 64 0, rfl⟩

structure VersionedTransaction where
  signatures : List Signature
  message : VersionedMessage
deriving DecidableEq

/-- The key at a position among the message's keys. -/
def keyAt (keys : List Pubkey) (index : UInt8) : Option Pubkey :=
  keys[index.toNat]?

/-- The key of an instruction's account, by the account's position in the
instruction. -/
def accountAt (keys : List Pubkey) (ix : CompiledInstruction) (position : ℕ) : Option Pubkey :=
  ix.accounts[position]?.bind (keyAt keys)

def programOf (keys : List Pubkey) (ix : CompiledInstruction) : Option Pubkey :=
  keyAt keys ix.programIdIndex

/-- The little-endian number in the bytes of a range, as `from_le_bytes` of a
slice. -/
def fromLeBytes (bytes : List UInt8) (start stop : ℕ) : ℕ :=
  decodeLE (slice bytes start stop)

theorem encodeLE_fromLeBytes {bytes : List UInt8} {start stop : ℕ} (hStop : stop ≤ bytes.length) :
    encodeLE (stop - start) (fromLeBytes bytes start stop) = slice bytes start stop :=
  (slice_eq_encodeLE hStop).symm

theorem fromLeBytes_field {width number : ℕ} (before after : List UInt8)
    (hFits : number < 256 ^ width) :
    fromLeBytes (before ++ encodeLE width number ++ after) before.length
      (before.length + width) = number := by
  have hField := slice_field before (encodeLE width number) after
  rw [length_encodeLE] at hField
  rw [fromLeBytes, hField, decodeLE_encodeLE hFits]

def asBytes (text : String) : List UInt8 :=
  text.toUTF8.data.toList

theorem asBytes_injective {left right : String} (hSame : asBytes left = asBytes right) :
    left = right := by
  apply String.toByteArray_inj.mp
  rw [← String.toUTF8_eq_toByteArray, ← String.toUTF8_eq_toByteArray, ByteArray.ext_iff,
    ← Array.toList_inj]
  exact hSame

/-- A transaction message version the kit builds and accepts. -/
inductive TxVersion where
  | v0
  | v1
deriving DecidableEq, Repr

namespace TxVersion

def display : TxVersion → String
  | v0 => "0"
  | v1 => "1"

/-- `TxVersion::of`: a legacy message is policed as version 0. -/
def of : VersionedMessage → TxVersion
  | .legacy _ => v0
  | .v0 _ _ => v0
  | .v1 _ _ => v1

end TxVersion

structure TxLimits where
  maxBytes : ℕ
  maxStaticAccounts : ℕ
  maxInstructions : Option ℕ
  maxSignatures : Option ℕ

def TxVersion.limits : TxVersion → TxLimits
  | .v0 =>
      { maxBytes := 1280 - 40 - 8, maxStaticAccounts := 64, maxInstructions := none,
        maxSignatures := none }
  | .v1 =>
      { maxBytes := 4096, maxStaticAccounts := 64, maxInstructions := some 64,
        maxSignatures := some 12 }

/-- The accepted versions as error texts list them. -/
def displayVersions (accepted : List TxVersion) : String :=
  ", ".intercalate (accepted.map TxVersion.display)

end PayKit.Tx
