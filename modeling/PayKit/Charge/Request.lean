import PayKit.Arithmetic.Decimal
import PayKit.Charge.VerificationError
import PayKit.Control.Refusal
import PayKit.Solana.Pubkey

/-!
# Charge requests

What a charge asks for: `ChargeRequest` of `mpp/protocol/intents/charge.rs`, with the
method details and splits of `mpp/protocol/solana.rs`. Both verifiers read the
primary amount, the mint, the expected memos and the allowed token accounts from
here. The fields neither of them reads are left out.
-/

namespace PayKit.Charge

open Control Machine Solana

/-- An additional transfer in the same asset. -/
structure Split where
  recipient : String
  amount : String
  ataCreationRequired : Option Bool
  memo : Option String

/-- The method details of a charge on this chain. -/
structure MethodDetails where
  network : Option String
  decimals : Option UInt8
  tokenProgram : Option String
  /-- If true, the server pays the transaction fees. -/
  feePayer : Option Bool
  feePayerKey : Option String
  splits : Option (List Split)

structure ChargeRequest where
  amount : String
  currency : String
  recipient : Option String
  externalId : Option String

def MethodDetails.feeSponsored (details : MethodDetails) : Bool :=
  details.feePayer.getD false

def MethodDetails.splitList (details : MethodDetails) : List Split :=
  details.splits.getD []

def maxSplits : ℕ := 8

def maxMemoBytes : ℕ := 566

/-- `checked_sum_split_amounts`: an amount that does not parse counts as zero. -/
def checkedSumSplitAmounts (splits : List Split) : Option ℕ :=
  splits.foldlM (fun total split => checkedAdd total ((parseU64 split.amount).getD 0)) 0

/-! ### Currencies -/

/-- The characters whose upper case is written with ASCII letters, beside the ASCII
letters themselves. -/
def asciiUppercase : List (Char × String) :=
  [('ſ', "S"), ('ı', "I"), ('ß', "SS"), ('ﬀ', "FF"), ('ﬁ', "FI"), ('ﬂ', "FL"), ('ﬃ', "FFI"),
    ('ﬄ', "FFL"), ('ﬅ', "ST"), ('ﬆ', "ST")]

/-- `str::to_uppercase`, up to characters whose upper case is not ASCII: the result
equals an ASCII text when the source's does. -/
def toUppercase (text : String) : String :=
  String.ofList <| text.toList.flatMap fun char =>
    match asciiUppercase.lookup char with
    | some upper => upper.toList
    | none => [char.toUpper]

def eqIgnoreAsciiCase (left right : String) : Bool :=
  left.toLower = right.toLower

theorem toList_toLower (text : String) : text.toLower.toList = text.toList.map Char.toLower :=
  String.toList_map

namespace mints

def usdcMainnet : String := "EPjFWdd5AufqSSqeM2qN1xzybapC8G4wEGGkZwyTDt1v"
def usdcDevnet : String := "4zMMC9srt5Ri5X14GAgXhaHii3GnPAEERYPJgZJDncDU"
def usdcTestnet : String := usdcDevnet
def usdtestDevnet : String := "6MJyWHwFpPsaTEuYarEz49ngtsSKPYn6yHqtJUW2a9St"
def usdtMainnet : String := "Es9vMFrzaCERmJfrF4H2FYD4KCoNkY11McCe8BenwNYB"
def usdgMainnet : String := "2u1tszSeqZ3qBWF3uNGPFc8TzMk2tdiwknnRMWGWjGWH"
def usdgDevnet : String := "4F6PM96JJxngmHnZLBh9n58RH4aTVNWvDs2nuwrT5BP7"
def usdgTestnet : String := usdgDevnet
def pyusdMainnet : String := "2b1kV6DkPAnxd5ixfnxCpjxmKwqjjaYmCZfHsFu24GXo"
def pyusdDevnet : String := "CXk2AMBfi3TwaEL2468s6zP8xq9NxTXjp9gjMgzeUynM"
def pyusdTestnet : String := pyusdDevnet
def cashMainnet : String := "CASHx9KJUStyftLFWGvEVf59SGeG9sh5FfcnZMVPCASH"
def usdptMainnet : String := "HVWf8JmLoHs99Lw8Psf3fyqAtA4crWxCPkrmSdNjhNH3"

end mints

def networkDevnet : String := "devnet"
def defaultNetwork : String := "mainnet"

/-- The address of a mint that differs between networks. -/
def perNetwork (network : Option String) (devnet testnet mainnet : String) : String :=
  if network = some networkDevnet then devnet
  else if network = some "testnet" then testnet
  else mainnet

/-- `resolve_stablecoin_mint`: none for native SOL. -/
def resolveStablecoinMint (currency : String) (network : Option String) : Option String :=
  let symbol := toUppercase currency
  if symbol = "SOL" then none
  else if symbol = "USDC" then
    some (perNetwork network mints.usdcDevnet mints.usdcTestnet mints.usdcMainnet)
  else if symbol = "USDTEST" ∧ network = some networkDevnet then some mints.usdtestDevnet
  else if symbol = "USDT" then some mints.usdtMainnet
  else if symbol = "USDG" then
    some (perNetwork network mints.usdgDevnet mints.usdgTestnet mints.usdgMainnet)
  else if symbol = "PYUSD" then
    some (perNetwork network mints.pyusdDevnet mints.pyusdTestnet mints.pyusdMainnet)
  else if symbol = "CASH" then some mints.cashMainnet
  else if symbol = "USDPT" then some mints.usdptMainnet
  else some currency

/-- `try_resolve_stablecoin_mint`: `USDtest` exists on devnet only. -/
def tryResolveStablecoinMint (currency : String) (network : Option String) :
    Except String (Option String) :=
  let isUsdtest := eqIgnoreAsciiCase currency "USDtest" ∨ currency = mints.usdtestDevnet
  if isUsdtest ∧ network ≠ some networkDevnet then
    .error ("Invalid configuration: USDtest is devnet-only; set network to `devnet` (got `" ++
      network.getD defaultNetwork ++ "`)")
  else
    .ok (resolveStablecoinMint currency network)

def isNativeSol (request : ChargeRequest) : Bool :=
  toUppercase request.currency = "SOL"

/-- Parse a key, refusing with the given error about its text. -/
def parseKey (text : String) (refusal : String → VerificationError) :
    Except VerificationError Pubkey :=
  match Pubkey.fromStr text with
  | .ok key => .ok key
  | .error error => .error (refusal error.display)

def resolveExpectedMint (currency : String) (network : Option String) :
    Except VerificationError Pubkey :=
  match tryResolveStablecoinMint currency network with
  | .error error => .error (.invalidPayload error)
  | .ok none => .error (.invalidPayload "SOL does not use an SPL mint")
  | .ok (some mint) =>
      parseKey mint fun error => .invalidPayload s!"Invalid currency/mint: {error}"

/-! ### What a charge expects of a transaction -/

/-- `expected_memos`, with the label of each. -/
def expectedMemos (externalId : Option String) (splits : List Split) : List (String × String) :=
  ((externalId.filter (!·.isEmpty)).map ("externalId", ·)).toList ++
    splits.filterMap fun split => (split.memo.filter (!·.isEmpty)).map ("split", ·)

/-- The owners whose token accounts a payment transaction may or must create. -/
structure AtaCreationPolicy where
  allowedOwners : List Pubkey
  requiredOwners : List Pubkey

def parseSplitRecipient (split : Split) : Except VerificationError Pubkey :=
  parseKey split.recipient fun error => .invalidRecipient s!"Invalid split recipient: {error}"

/-- The amount the recipient itself is paid: the total less what the splits are. -/
def primaryAmount (request : ChargeRequest) (splits : List Split) :
    Except VerificationError ℕ := do
  let total ← okOr (parseU64 request.amount)
    (.invalidAmount ("Invalid amount: " ++ request.amount))
  let splitsTotal ← okOr (checkedSumSplitAmounts splits)
    (.invalidAmount "Split amounts overflow u64")
  refuseIf (total < splitsTotal) (.invalidAmount "Split amounts exceed total amount")
  refuseIf (total - splitsTotal = 0) (.invalidAmount "Primary amount is zero after splits")
  return total - splitsTotal

def parseSplitAmount (split : Split) : Except VerificationError ℕ :=
  okOr (parseU64 split.amount) (.invalidAmount "Invalid split amount")

/-- `expected_ata_creation_policy`: a sponsor pays only for the token accounts the
charge requires. -/
def expectedAtaCreationPolicy (splits : List Split) (feePayer : Option Pubkey) :
    Except VerificationError AtaCreationPolicy := do
  let owners ← splits.mapM parseSplitRecipient
  let required := (splits.zip owners).filterMap fun entry =>
    if entry.1.ataCreationRequired = some true then some entry.2 else none
  return {
    allowedOwners := if feePayer.isSome then required else owners
    requiredOwners := required }

end PayKit.Charge
