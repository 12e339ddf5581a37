import PayKit.Arithmetic.Decimal
import PayKit.Charge.Request
import PayKit.Control.Refusal
import PayKit.Encoding.JsonText
import PayKit.Encoding.JsonValue
import PayKit.Tx.Message
import PayKit.X402.Error

/-!
# Payment requirements of the `exact` scheme

`PaymentRequirements` of `x402/protocol/schemes/exact/types.rs`, with the JSON that it is read
from and written to, and the tables of networks and currencies beside it. A requirement that is
read from a canonical offer keeps the object it was read from, and is written as that object.
Any other requirement is written from its fields.
-/

namespace PayKit.X402

open Charge Control Encoding Machine Tx
open Json (Value Map)

/-! ### Networks -/

def exactScheme : String := "exact"
def solanaNetwork : String := "solana"
def solanaMainnet : String := "solana:5eykt4UsFv8P8NJdTREpY1vzqKqZKvdp"
def solanaDevnet : String := "solana:EtWTRABZaYq6iMfeYKouRu166VU2xqa1"
def solanaTestnet : String := "solana:4uhcVJyU9pJkvQyS88uRDiswHXSCkY3z"

def caip2NetworkForCluster (cluster : String) : String :=
  if cluster ∈ [solanaMainnet, solanaNetwork, "mainnet", "mainnet-beta"] then solanaMainnet
  else if cluster ∈ [solanaTestnet, "testnet", "solana-testnet"] then solanaTestnet
  else if cluster ∈ ["devnet", "localnet"] then solanaDevnet
  else if cluster ∈ [solanaDevnet, "solana-devnet"] then solanaDevnet
  else solanaMainnet

def clusterForCaip2Network (network : String) : Option String :=
  if network ∈ [solanaNetwork, "mainnet", "mainnet-beta", "solana:mainnet"] then
    some "mainnet-beta"
  else if network ∈ ["solana-devnet", "devnet", "localnet", "solana:devnet"] then some "devnet"
  else if network ∈ ["solana-testnet", "testnet", "solana:testnet"] then some "testnet"
  else if network = solanaMainnet then some "mainnet-beta"
  else if network = solanaDevnet then some "devnet"
  else if network = solanaTestnet then some "testnet"
  else none

def normalizeNetworkIdentifier (network : String) : String :=
  if network ∈ [solanaNetwork, "mainnet", "mainnet-beta"] then solanaMainnet
  else if network ∈ ["solana-devnet", "devnet", "localnet"] then solanaDevnet
  else if network ∈ ["solana-testnet", "testnet"] then solanaTestnet
  else network

/-! ### Currencies -/

def isNativeSol (currency : String) : Bool :=
  eqIgnoreAsciiCase currency "SOL"

theorem isNativeSol_eq (currency : String) :
    isNativeSol currency = decide (currency.toList.map Char.toLower = "sol".toList) := by
  rw [isNativeSol, eqIgnoreAsciiCase]
  congr 1
  rw [← String.toList_inj, toList_toLower, toList_toLower]
  rfl

/-- The address of a mint that differs between clusters. -/
def perCluster (cluster : Option String) (devnet testnet mainnet : String) : String :=
  if cluster ∈ [some solanaDevnet, some "devnet", some "localnet"] then devnet
  else if cluster ∈ [some solanaTestnet, some "testnet"] then testnet
  else mainnet

/-- The clusters that `USDtest` exists on. -/
def isDevnet (cluster : Option String) : Bool :=
  cluster ∈ [some solanaDevnet, some "devnet", some "solana-devnet"]

/-- `resolve_stablecoin_mint`: none for native SOL. -/
def resolveStablecoinMint (currency : String) (cluster : Option String) : Option String :=
  let symbol := toUppercase currency
  if isNativeSol currency then none
  else if symbol = "USDC" then
    some (perCluster cluster mints.usdcDevnet mints.usdcTestnet mints.usdcMainnet)
  else if symbol = "USDTEST" ∧ isDevnet cluster then some mints.usdtestDevnet
  else if symbol = "USDT" then some mints.usdtMainnet
  else if symbol = "USDG" then
    some (perCluster cluster mints.usdgDevnet mints.usdgTestnet mints.usdgMainnet)
  else if symbol = "PYUSD" then
    some (perCluster cluster mints.pyusdDevnet mints.pyusdTestnet mints.pyusdMainnet)
  else if symbol = "CASH" then some mints.cashMainnet
  else some currency

/-! ### Fields of JSON objects -/

def stringField (object : Map) (key : String) : Option String :=
  (object.get? key).bind fun value => value.1.asStr

def u64Field (object : Map) (key : String) : Option ℕ :=
  (object.get? key).bind fun value => value.1.asU64

def u8Field (object : Map) (key : String) : Option UInt8 :=
  ((u64Field object key).filter (· < 256)).map Nat.toUInt8

def boolField (object : Map) (key : String) : Option Bool :=
  (object.get? key).bind fun value => value.1.asBool

/-- `Value::get` of a key. -/
def memberOf (value : Value) (key : String) : Option Value :=
  value.asMap.bind (·.get? key)

def ofU64 (value : ℕ) : Value :=
  ⟨.unsigned value, trivial⟩

/-! ### Requirements -/

structure ResourceInfo where
  url : String
  description : Option String
  mimeType : Option String
deriving DecidableEq

structure PaymentRequirements where
  network : String
  cluster : Option String
  recipient : String
  amount : String
  currency : String
  decimals : Option UInt8
  tokenProgram : Option String
  resource : String
  description : Option String
  maxAge : Option ℕ
  recentBlockhash : Option String
  feePayer : Option Bool
  feePayerKey : Option String
  transactionVersions : Option (List TxVersion)
  extra : Option Value
  /-- The object of a canonical offer that the requirement was read from. -/
  accepted : Option Value
  resourceInfo : Option ResourceInfo

def defaultMaxTimeoutSeconds : ℕ := 300

/-- The number that a version is written as. -/
def versionNumber : TxVersion → ℕ
  | .v0 => 0
  | .v1 => 1

/-- The value of a list of versions. -/
def ofVersions (versions : List TxVersion) : Value :=
  ⟨.array (versions.map fun version => .unsigned (versionNumber version)), by
    apply Json.orderedItems_iff.mpr
    intro item hItem
    rcases List.mem_map.mp hItem with ⟨version, -, rfl⟩
    trivial⟩

/-- `entry(key).or_insert(value)`, where there is a value. -/
def orInsert (object : Map) (key : String) (value : Option Value) : Map :=
  match value with
  | some value => if (object.get? key).isSome then object else object.insert key value
  | none => object

namespace PaymentRequirements

variable (requirements : PaymentRequirements)

def isExactScheme : Bool :=
  match requirements.accepted.bind (memberOf · "scheme") with
  | some scheme => scheme.1.asStr = some exactScheme
  | none => true

def canonicalExtraValue : Map :=
  let extra := (requirements.extra.bind Value.asMap).getD Map.empty
  let extra := orInsert extra "feePayer" (requirements.feePayerKey.map Value.ofText)
  let extra := orInsert extra "recentBlockhash" (requirements.recentBlockhash.map Value.ofText)
  let extra := orInsert extra "tokenProgram" (requirements.tokenProgram.map Value.ofText)
  let extra := orInsert extra "decimals" (requirements.decimals.map fun d => ofU64 d.toNat)
  orInsert extra "transactionVersions" (requirements.transactionVersions.map ofVersions)

/-- The object that a requirement is written as when it keeps none. -/
def canonicalOffer : Map :=
  Map.empty.insert "scheme" (.ofText "exact")
    |>.insert "network" (.ofText requirements.network)
    |>.insert "amount" (.ofText requirements.amount)
    |>.insert "asset" (.ofText requirements.currency)
    |>.insert "payTo" (.ofText requirements.recipient)
    |>.insert "maxTimeoutSeconds" (ofU64 (requirements.maxAge.getD defaultMaxTimeoutSeconds))
    |>.insert "extra" (.ofMap requirements.canonicalExtraValue)

/-- `to_accepted_value`, which is what a requirement is written as. -/
def toAcceptedValue : Value :=
  requirements.accepted.getD (.ofMap requirements.canonicalOffer)

end PaymentRequirements

/-! ### Reading a requirement -/

/-- One entry of `extra.transactionVersions`. -/
def buildableTransactionVersion (entry : Value) : Except String TxVersion :=
  match entry.1.asU64 with
  | some 0 => .ok .v0
  | some 1 => .ok .v1
  | _ => .error ("unsupported_transaction_version: extra.transactionVersions entries must be " ++
      "the integers 0 or 1 (got " ++ String.ofList entry.1.render ++ ")")

def buildableTransactionVersions (value : Value) : Except String (List TxVersion) := do
  let entries ← okOr value.asItems
    "unsupported_transaction_version: extra.transactionVersions must be an array"
  entries.mapM buildableTransactionVersion

/-- The cluster that an offer names, or that its network stands for. -/
def offeredCluster (object : Map) (rawNetwork : String) : Option String :=
  (stringField object "cluster").or
    ((clusterForCaip2Network (normalizeNetworkIdentifier rawNetwork)).map fun cluster =>
      if "solana:".toList.isPrefixOf rawNetwork.toList then rawNetwork else cluster)

/-- The object of an offer that is canonical, or that names another scheme. -/
def keptOffer (object : Map) : Option Value :=
  let declaresOtherScheme := (object.get? "scheme").any fun scheme =>
    scheme.1.asStr ≠ some exactScheme
  let isCanonical := (object.get? "amount").isSome ∧ (object.get? "asset").isSome ∧
    (object.get? "payTo").isSome
  if declaresOtherScheme ∨ isCanonical then some (.ofMap object) else none

/-- The deserialization of a requirement. -/
def PaymentRequirements.ofValue (value : Value) : Except String PaymentRequirements := do
  let object ← okOr value.asMap "payment requirement must be an object"
  let rawNetwork ← okOr (stringField object "network") "payment requirement is missing network"
  let extra := object.get? "extra"
  let extraObject := extra.bind Value.asMap
  let feePayerKey := extraObject.bind (stringField · "feePayer")
  let transactionVersions ←
    (extraObject.bind (·.get? "transactionVersions")).mapM buildableTransactionVersions
  return {
    network := normalizeNetworkIdentifier rawNetwork
    cluster := offeredCluster object rawNetwork
    recipient := (stringField object "payTo").getD ""
    amount := ((stringField object "amount").or (stringField object "maxAmountRequired")).getD ""
    currency := (stringField object "asset").getD "SOL"
    decimals := extraObject.bind (u8Field · "decimals")
    tokenProgram := extraObject.bind (stringField · "tokenProgram")
    resource := (stringField object "resource").getD ""
    description := stringField object "description"
    maxAge := (u64Field object "maxTimeoutSeconds").or (u64Field object "maxAge")
    recentBlockhash := extraObject.bind (stringField · "recentBlockhash")
    feePayer := (boolField object "feePayer").or (feePayerKey.map fun _ => true)
    feePayerKey
    transactionVersions
    extra
    accepted := keptOffer object
    resourceInfo := none }

end PayKit.X402
