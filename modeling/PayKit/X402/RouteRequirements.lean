import PayKit.Arithmetic.Units
import PayKit.Encoding.JsonEdit
import PayKit.Subscription.ActivationBuilder
import PayKit.X402.Requirements

/-!
# The requirements of a route

`exact_requirements_for_option` of `x402/server/exact.rs` builds the requirements that a route
offers, and builds them again to verify a payment. What it builds keeps no object and names its
network by the genesis hash, and its versions can be read back.
-/

namespace PayKit.X402

open Charge Control Encoding Solana Tx
open Json (Value Map)

/-! ### Token programs -/

def stablecoinSymbol (currencyOrMint : String) : Option String :=
  let upper := toUppercase currencyOrMint
  if isNativeSol currencyOrMint then none
  else if upper ∈ ["USDC", "USDTEST", "USDT", "USDG", "PYUSD", "CASH"] then some upper
  else if currencyOrMint ∈ [mints.usdcMainnet, mints.usdcDevnet] then some "USDC"
  else if currencyOrMint = mints.usdtestDevnet then some "USDTEST"
  else if currencyOrMint = mints.usdtMainnet then some "USDT"
  else if currencyOrMint ∈ [mints.usdgMainnet, mints.usdgDevnet] then some "USDG"
  else if currencyOrMint ∈ [mints.pyusdMainnet, mints.pyusdDevnet] then some "PYUSD"
  else if currencyOrMint = mints.cashMainnet then some "CASH"
  else none

def stablecoinUsesToken2022 (currencyOrMint : String) : Bool :=
  [some "USDTEST", some "USDG", some "PYUSD", some "CASH"].contains
    (stablecoinSymbol currencyOrMint)

def defaultTokenProgramForCurrency (currency : String) (cluster : Option String) : String :=
  let mint := (resolveStablecoinMint currency cluster).getD currency
  if stablecoinUsesToken2022 mint then programs.token2022Program else programs.tokenProgram

/-! ### The server -/

structure CurrencyConfig where
  currency : String
  decimals : UInt8
  tokenProgram : Option String

/-- `Config`, whose list of currencies is not empty. -/
structure Config where
  recipient : String
  primaryCurrency : CurrencyConfig
  otherCurrencies : List CurrencyConfig
  network : String
  resource : String
  description : Option String
  maxAge : Option ℕ
  feePayerKey : Option String

structure ExactOptions where
  description : Option String
  resource : Option String
  maxAge : Option ℕ
  memo : Option String

structure PaymentOption where
  amount : String
  currency : Option String
  decimals : Option UInt8
  tokenProgram : Option String
  extra : ExactOptions

/-- `X402`, without its connections. -/
structure ExactServer where
  config : Config
  acceptedVersions : List TxVersion
  advertisedVersions : Option (List TxVersion)

structure PaymentConfig where
  recipient : String
  cluster : String
  currency : String
  decimals : Option UInt8
  tokenProgram : Option String
  amount : String
  resource : String
  description : Option String
  maxAge : Option ℕ

def PaymentConfig.toRequirements (config : PaymentConfig) : PaymentRequirements where
  network := caip2NetworkForCluster config.cluster
  cluster := some config.cluster
  recipient := config.recipient
  amount := config.amount
  currency := config.currency
  decimals := config.decimals
  tokenProgram := config.tokenProgram.or
    (let default := defaultTokenProgramForCurrency config.currency (some config.cluster)
    if default ≠ programs.tokenProgram then some default else none)
  resource := config.resource
  description := config.description
  maxAge := config.maxAge
  recentBlockhash := none
  feePayer := none
  feePayerKey := none
  transactionVersions := none
  extra := none
  accepted := none
  resourceInfo := some ⟨config.resource, config.description, none⟩

namespace ExactServer

variable (server : ExactServer)

def exactRequirementsForOption (option : PaymentOption) : Except Error PaymentRequirements := do
  let primary := server.config.primaryCurrency
  let decimals := option.decimals.getD primary.decimals
  let baseUnits ← (Units.parseUnits option.amount decimals.toNat).mapError Error.other
  let paymentConfig : PaymentConfig :=
    { recipient := server.config.recipient
      cluster := server.config.network
      currency := option.currency.getD primary.currency
      decimals := some decimals
      tokenProgram := option.tokenProgram.or
        (if option.currency.isSome then none else primary.tokenProgram)
      amount := baseUnits
      resource := option.extra.resource.getD server.config.resource
      description := option.extra.description.or server.config.description
      maxAge := option.extra.maxAge.or server.config.maxAge }
  let requirements := paymentConfig.toRequirements
  return { requirements with
    feePayer := server.config.feePayerKey.map fun _ => true
    feePayerKey := server.config.feePayerKey
    transactionVersions := server.advertisedVersions.or
      (Subscription.advertised server.acceptedVersions)
    extra := option.extra.memo.map fun memo => .ofMap (Map.empty.insert "memo" (.ofText memo)) }

def exactRequirementsForCurrency (currency : CurrencyConfig) (amount : String)
    (options : ExactOptions) : Except Error PaymentRequirements :=
  server.exactRequirementsForOption
    { amount
      currency := some currency.currency
      decimals := some currency.decimals
      tokenProgram := currency.tokenProgram
      extra := options }

end ExactServer

/-! ### What is built -/

/-- A requirement that some server has built for some option. -/
def IsRoute (requirements : PaymentRequirements) : Prop :=
  ∃ (server : ExactServer) (option : PaymentOption),
    server.exactRequirementsForOption option = .ok requirements

/-- What the matching of an offer relies on. -/
structure Rebuilt (requirements : PaymentRequirements) : Prop where
  unkept : requirements.accepted = none
  normalized : normalizeNetworkIdentifier requirements.network = requirements.network
  readable : ∀ value, requirements.canonicalExtraValue.get? "transactionVersions" = some value →
    ∃ versions, buildableTransactionVersions value = .ok versions

theorem normalize_caip2NetworkForCluster (cluster : String) :
    normalizeNetworkIdentifier (caip2NetworkForCluster cluster) =
      caip2NetworkForCluster cluster := by
  unfold caip2NetworkForCluster
  split_ifs <;> decide

theorem buildableTransactionVersion_number {entry : Value} {version : TxVersion}
    (hEntry : entry.1 = .unsigned (versionNumber version)) :
    buildableTransactionVersion entry = .ok version := by
  rw [buildableTransactionVersion, hEntry]
  cases version <;> rfl

theorem buildableTransactionVersions_ofVersions (versions : List TxVersion) :
    buildableTransactionVersions (ofVersions versions) = .ok versions := by
  have hEntries : ∀ entries : List Value, entries.map Subtype.val =
      versions.map (fun version => Json.unsigned (versionNumber version)) →
      entries.mapM buildableTransactionVersion = .ok versions := by
    induction versions with
    | nil =>
        intro entries hNone
        rw [List.map_eq_nil_iff.mp hNone]
        rfl
    | cons version rest hInduction =>
        intro entries hWritten
        rcases List.map_eq_cons_iff.mp hWritten with ⟨entry, others, rfl, hEntry, hOthers⟩
        rw [List.mapM_cons, buildableTransactionVersion_number hEntry, hInduction others hOthers]
        rfl
  have hItems : ∃ items, (ofVersions versions).asItems = some items ∧
      items.map Subtype.val =
        versions.map (fun version => Json.unsigned (versionNumber version)) := by
    refine ⟨_, rfl, ?_⟩
    rw [List.map_map]
    exact List.attach_map_subtype_val _
  rcases hItems with ⟨items, hItems, hWritten⟩
  rw [buildableTransactionVersions, hItems]
  exact hEntries items hWritten

theorem get?_orInsert_of_ne {map : Map} {key name : String} {value : Option Value}
    (hOther : name ≠ key) : (orInsert map key value).get? name = map.get? name := by
  unfold orInsert
  split
  · split
    · rfl
    · rw [Map.get?_insert, if_neg hOther]
  · rfl

theorem get?_orInsert_of_absent {map : Map} {key : String} {value : Option Value}
    (hAbsent : map.get? key = none) : (orInsert map key value).get? key = value := by
  cases value with
  | none => exact hAbsent
  | some value =>
      simp only [orInsert, hAbsent, Option.isSome_none, Bool.false_eq_true, if_false,
        Map.get?_insert, if_true]

theorem IsRoute.rebuilt {requirements : PaymentRequirements} (hRoute : IsRoute requirements) :
    Rebuilt requirements := by
  rcases hRoute with ⟨server, option, hBuilt⟩
  rcases bind_eq_ok.mp hBuilt with ⟨baseUnits, -, hReturned⟩
  obtain rfl := (Except.ok.inj hReturned).symm
  refine ⟨rfl, normalize_caip2NetworkForCluster _, ?_⟩
  intro value hValue
  have hAbsent : ((option.extra.memo.map fun memo =>
      Value.ofMap (Map.empty.insert "memo" (.ofText memo))).bind Value.asMap |>.getD
        Map.empty).get? "transactionVersions" = none := by
    cases option.extra.memo with
    | none => rfl
    | some memo => simp
  rw [PaymentRequirements.canonicalExtraValue, get?_orInsert_of_absent] at hValue
  · rcases Option.map_eq_some_iff.mp hValue with ⟨versions, -, rfl⟩
    exact ⟨versions, buildableTransactionVersions_ofVersions versions⟩
  · rw [get?_orInsert_of_ne (by decide), get?_orInsert_of_ne (by decide),
      get?_orInsert_of_ne (by decide), get?_orInsert_of_ne (by decide)]
    exact hAbsent

end PayKit.X402
