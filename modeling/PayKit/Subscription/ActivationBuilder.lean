import PayKit.Charge.Builder
import PayKit.Subscription.Activation

/-!
# Building a subscription activation

The client's side of a subscription: the terms that it reads from a challenge
(`protocol/intents/subscription.rs`), and the activation transaction that it builds for a plan it
has checked against them (`mpp/client/subscription.rs`, with the instruction layouts of
`mpp/program/subscriptions.rs`). The server's side is what it puts in a challenge under its
configuration, and the checks of `prepare_credential` on the transaction.

A plan keeps what the client read from the account on the chain. Its checks against the terms only
decide whether there is a plan to build for, and nothing here depends on them. Reading the texts
of a challenge back from its JSON form gives what was written.
-/

namespace PayKit.Subscription

open Charge Control Encoding Machine Solana Tx

/-! ### The terms of a subscription -/

inductive SubscriptionPeriodUnit where
  | day
  | week
deriving DecidableEq

namespace SubscriptionPeriodUnit

def display : SubscriptionPeriodUnit → String
  | day => "day"
  | week => "week"

/-- The most units of a billing period. -/
def maxCount : SubscriptionPeriodUnit → ℕ
  | day => 365
  | week => 52

def hours : SubscriptionPeriodUnit → ℕ
  | day => 24
  | week => 168

def toPeriodHours (unit : SubscriptionPeriodUnit) (periodCount : ℕ) : Except MppError ℕ := do
  refuseIf (periodCount = 0) (.other "periodCount must be a positive integer")
  refuseIf (unit.maxCount < periodCount)
    (.other (s!"periodCount={periodCount} for periodUnit=\"" ++ unit.display ++
      s!"\" exceeds {unit.maxCount}"))
  return periodCount * unit.hours

end SubscriptionPeriodUnit

structure SubscriptionMethodDetails where
  planAddress : String
  mint : String
  tokenProgram : String
  decimals : Option UInt8
  puller : String
  subscriptionProgram : Option String
  network : Option String
  feePayer : Bool
  feePayerKey : Option String
  transactionVersions : Option (List TxVersion)
  recentBlockhash : Option String

/-- A request with what only the client reads. -/
structure ChallengedRequest extends SubscriptionRequest where
  currency : String
  periodUnit : SubscriptionPeriodUnit
  periodCount : String
  methodDetails : Option SubscriptionMethodDetails

@[ext] structure NonZeroU64 where
  value : ℕ
  positive : 0 < value
  fits : value ≤ u64Max

instance : DecidableEq NonZeroU64 := fun left right =>
  decidable_of_iff (left.value = right.value) NonZeroU64.ext_iff.symm

/-- A positive base-10 integer without sign and leading zero. -/
def parsePositiveInteger (value field : String) : Except MppError NonZeroU64 := do
  let invalid (why : String) : MppError := .other ("Invalid " ++ field ++ " " ++ value.quote ++
    ": " ++ why)
  refuseIf (value = "") (invalid "empty")
  refuseIf (¬ value.toList.all Char.isDigit) (invalid
    "must be a base-10 integer with no sign, decimal point, exponent or whitespace")
  refuseIf (value.toList.head? = some '0') (invalid "must be positive with no leading zero")
  match hParsed : parseU64 value with
  | none => .error (invalid "out of range")
  | some parsed =>
      if hPositive : 0 < parsed then .ok ⟨parsed, hPositive, parseU64_le hParsed⟩
      else .error (invalid "must be positive")

/-- `BillingPeriod::parse`: the hours of the period. -/
def parseBillingPeriod (unit : SubscriptionPeriodUnit) (count : String) : Except MppError ℕ := do
  let count ← parsePositiveInteger count "periodCount"
  let hours ← unit.toPeriodHours count.value
  refuseIf (hours = 0 ∨ 8760 < hours) (.other s!"period_hours {hours} out of [1, 8760] range")
  return hours

inductive SubscriptionTokenProgram where
  | token
  | token2022
deriving DecidableEq

/-- `parse_pubkey`, as the client reports it. -/
def clientPubkey (value field : String) : Except MppError Pubkey :=
  (Pubkey.fromStr value).mapError fun error =>
    .other ("Invalid " ++ field ++ " pubkey: " ++ error.display)

namespace SubscriptionTokenProgram

def programId : SubscriptionTokenProgram → Pubkey
  | token => Solana.tokenProgram
  | token2022 => token2022Program

def parse (value : String) : Except MppError SubscriptionTokenProgram := do
  let program ← clientPubkey value "tokenProgram"
  if program = Solana.tokenProgram then return token
  else if program = token2022Program then return token2022
  else .error (.other ("methodDetails.tokenProgram " ++ value ++
    " is neither SPL Token nor Token-2022"))

end SubscriptionTokenProgram

/-- Who pays the activation transaction's fees. -/
inductive ActivationFeePayer where
  | subscriber
  | server (key : Pubkey)
deriving DecidableEq

/-- `methodDetails.validate`: the required fields are there. -/
def SubscriptionMethodDetails.validate (details : SubscriptionMethodDetails) :
    Except MppError Unit := do
  refuseIf (details.planAddress = "") (.other "methodDetails.planAddress is required")
  refuseIf (details.mint = "") (.other "methodDetails.mint is required")
  refuseIf (details.tokenProgram = "") (.other "methodDetails.tokenProgram is required")
  refuseIf (details.puller = "") (.other "methodDetails.puller is required")
  refuseIf (details.decimals = none) (.other "methodDetails.decimals is required")
  refuseIf (details.subscriptionProgram.all (· = ""))
    (.other "methodDetails.subscriptionProgram is required")
  refuseIf (details.feePayer ∧ details.feePayerKey = none)
    (.other "methodDetails.feePayerKey is required when feePayer is true")

/-- A subscription request that passed every check. -/
structure SubscriptionTerms where
  amount : NonZeroU64
  mint : Pubkey
  periodHours : ℕ
  recipient : Pubkey
  externalId : Option String
  planAddress : Pubkey
  tokenProgram : SubscriptionTokenProgram
  decimals : UInt8
  puller : Pubkey
  subscriptionProgram : Pubkey
  network : String
  feePayer : ActivationFeePayer
  recentBlockhash : Option (List UInt8)
  transactionVersions : Option (List TxVersion)
deriving DecidableEq

/-- Who pays the fees under some details. -/
def SubscriptionMethodDetails.payer (details : SubscriptionMethodDetails) :
    Except MppError ActivationFeePayer :=
  if details.feePayer then do
    let text ← okOr details.feePayerKey
      (.other "methodDetails.feePayerKey is required when feePayer is true")
    let key ← clientPubkey text "feePayerKey"
    return .server key
  else .ok .subscriber

def SubscriptionTerms.parse (parseHash : String → Except String (List UInt8))
    (request : ChallengedRequest) : Except MppError SubscriptionTerms := do
  let amount ← parsePositiveInteger request.amount "amount"
  let periodHours ← parseBillingPeriod request.periodUnit request.periodCount
  let recipient ← clientPubkey request.recipient "recipient"
  let details ← okOr request.methodDetails
    (.other "Subscription request is missing methodDetails")
  details.validate
  let mint ← clientPubkey details.mint "methodDetails.mint"
  let currency ← clientPubkey request.currency "currency"
  refuseIf (currency ≠ mint) (.other "Subscription currency must match methodDetails.mint")
  let decimals ← okOr details.decimals (MppError.other "methodDetails.decimals is required")
  let feePayer ← details.payer
  let recentBlockhash ← details.recentBlockhash.mapM fun text =>
    (parseHash text).mapError fun error => MppError.other ("Invalid recentBlockhash: " ++ error)
  let planAddress ← clientPubkey details.planAddress "planAddress"
  let tokenProgram ← SubscriptionTokenProgram.parse details.tokenProgram
  let puller ← clientPubkey details.puller "puller"
  let subscriptionProgram ←
    clientPubkey (details.subscriptionProgram.getD "") "subscriptionProgram"
  return {
    amount, mint, periodHours, recipient
    externalId := request.externalId
    planAddress, tokenProgram, decimals, puller, subscriptionProgram
    network := details.network.getD "mainnet"
    feePayer, recentBlockhash
    transactionVersions := details.transactionVersions }

/-! ### The server's challenge -/

/-- `core::tx::advertised`: nothing is advertised when only version 0 is accepted. -/
def advertised (accepted : List TxVersion) : Option (List TxVersion) :=
  if accepted = [.v0] then none else some accepted

/-- `SubscriptionServer` as far as a challenge and its activation are concerned: its
configuration with the fields that a challenge carries. -/
structure ActivationServer where
  config : SubscriptionConfig
  programId : String
  acceptedVersions : List TxVersion
  recipient : String
  amountBaseUnits : String
  periodUnit : SubscriptionPeriodUnit
  periodCount : ℕ
  decimals : UInt8
  network : String

/-- The request of `subscription_challenge`, with an external id of the host and the blockhash
that was fetched for it. -/
def ActivationServer.request (server : ActivationServer) (externalId : Option String)
    (recentBlockhash : Option String) : ChallengedRequest where
  amount := server.amountBaseUnits
  recipient := server.recipient
  externalId := externalId
  currency := server.config.mint
  periodUnit := server.periodUnit
  periodCount := server.periodCount.repr
  methodDetails := some
    { planAddress := server.config.planId
      mint := server.config.mint
      tokenProgram := server.config.tokenProgram
      decimals := some server.decimals
      puller := server.config.puller
      subscriptionProgram := some server.programId
      network := some server.network
      feePayer := server.config.feePayer
      feePayerKey :=
        if server.config.feePayer then
          server.config.feePayerPubkey.or (server.config.feePayerSigner.map Pubkey.display)
        else none
      transactionVersions := advertised server.acceptedVersions
      recentBlockhash := recentBlockhash }

/-- The checks of `prepare_credential` on an activation transaction, with the subscriber. -/
def ActivationServer.checkActivation (server : ActivationServer)
    (serializedSize : VersionedTransaction → Except String ℕ)
    (findProgramAddress : List (List UInt8) → Pubkey → Pubkey) (tx : VersionedTransaction)
    (request : SubscriptionRequest) : Except VerificationError Pubkey := do
  let _ ← (checkEnvelope serializedSize tx server.acceptedVersions).mapError .invalidPayload
  let _ ← (checkV1BudgetCaps tx.message 400000
    (if server.config.feePayer then 10000 else 5000000)).mapError .invalidPayload
  let subscriber ← extractSubscriberFromTx tx server.config
  validateActivationScope findProgramAddress tx request server.programId subscriber server.config
  return subscriber

/-! ### The instructions -/

def buildCreateIdempotentAtaIx (funder ata wallet mint tokenProgram : Pubkey) : Instruction where
  programId := ataProgram
  accounts := [.new funder true, .new ata false, .newReadonly wallet false,
    .newReadonly mint false, .newReadonly systemProgram false, .newReadonly tokenProgram false]
  data := [1]

structure SubscribeAccounts where
  subscriber : Pubkey
  merchant : Pubkey
  planPda : Pubkey
  subscriptionPda : Pubkey
  subscriptionAuthorityPda : Pubkey
  eventAuthority : Pubkey
  payer : Option Pubkey

structure SubscribeData where
  planId : ℕ
  planBump : UInt8
  expectedMint : Pubkey
  expectedAmount : ℕ
  expectedPeriodHours : ℕ
  expectedCreatedAt : ℤ
  expectedSubscriptionAuthorityInitId : ℤ

/-- A signed number on eight bytes, in two's complement. -/
def encodeI64 (value : ℤ) : List UInt8 :=
  encodeLE 8 (value % 2 ^ 64).toNat

def SubscribeData.encode (data : SubscribeData) : List UInt8 :=
  encodeLE 8 data.planId ++ [data.planBump] ++ data.expectedMint.bytes ++
    encodeLE 8 data.expectedAmount ++ encodeLE 8 data.expectedPeriodHours ++
    encodeI64 data.expectedCreatedAt ++ encodeI64 data.expectedSubscriptionAuthorityInitId

/-- `build_subscribe_ix`. The payer is a ninth account when there is one. -/
def buildSubscribeIx (programId : Pubkey) (accounts : SubscribeAccounts) (data : SubscribeData) :
    Instruction where
  programId := programId
  accounts := [.new accounts.subscriber true, .newReadonly accounts.merchant false,
    .newReadonly accounts.planPda false, .new accounts.subscriptionPda false,
    .newReadonly accounts.subscriptionAuthorityPda false, .newReadonly systemProgram false,
    .newReadonly accounts.eventAuthority false, .newReadonly programId false] ++
    (accounts.payer.map fun payer => AccountMeta.new payer true).toList
  data := instructionSubscribe :: data.encode

structure TransferSubscriptionAccounts where
  subscriptionPda : Pubkey
  planPda : Pubkey
  subscriptionAuthority : Pubkey
  delegatorAta : Pubkey
  receiverAta : Pubkey
  /-- The puller. -/
  caller : Pubkey
  tokenMint : Pubkey
  tokenProgram : Pubkey
  eventAuthority : Pubkey

structure TransferData where
  amount : ℕ
  delegator : Pubkey
  mint : Pubkey

def buildTransferSubscriptionIx (programId : Pubkey) (accounts : TransferSubscriptionAccounts)
    (data : TransferData) : Instruction where
  programId := programId
  accounts := [.new accounts.subscriptionPda false, .newReadonly accounts.planPda false,
    .newReadonly accounts.subscriptionAuthority false, .new accounts.delegatorAta false,
    .new accounts.receiverAta false, .newReadonly accounts.caller true,
    .newReadonly accounts.tokenMint false, .newReadonly accounts.tokenProgram false,
    .newReadonly accounts.eventAuthority false, .newReadonly programId false]
  data := [instructionTransferSubscription] ++ encodeLE 8 data.amount ++ data.delegator.bytes ++
    data.mint.bytes

/-! ### The activation -/

/-- The plan that a challenge names, read and checked against its terms. -/
structure VerifiedPlan where
  terms : SubscriptionTerms
  owner : Pubkey
  planId : ℕ
  bump : UInt8
  createdAt : ℤ

structure BuildSubscriptionActivationOptions where
  maxTxVersion : Option TxVersion := none
  computeUnitLimit : Option ℕ := none
  computeUnitPrice : Option ℕ := none
  subscriptionAuthorityInitId : Option ℤ := none

/-- What a signer puts into its slot of a transaction. -/
structure TransactionSigner where
  pubkey : Pubkey
  sign : VersionedTransaction → Except String Signature

def signVersionedTransactionSlot (signer : TransactionSigner) (tx : VersionedTransaction) :
    Except String VersionedTransaction := do
  let index ← okOr (tx.message.staticAccountKeys.findIdx? (· = signer.pubkey))
    "signer not found in transaction accounts"
  let required := tx.message.header.numRequiredSignatures.toNat
  refuseIf (required ≤ index) "signer is not a required transaction signer"
  refuseIf (tx.signatures.length ≠ required)
    s!"transaction has {tx.signatures.length} signature slots but requires {required}"
  let signature ← (signer.sign tx).mapError ("transaction signing failed: " ++ ·)
  return { tx with signatures := tx.signatures.set index signature }

structure ActivationClient where
  compile : MessageCompiler
  serializedSize : VersionedTransaction → Except String ℕ
  findProgramAddress : List (List UInt8) → Pubkey → Pubkey
  /-- The latest blockhash. -/
  latestBlockhash : Except MppError (List UInt8)
  /-- `ensure_subscription_authority_init_id`. -/
  authorityInitId : Except MppError ℤ

/-- The server's key, when it pays the fees. -/
def ActivationFeePayer.sponsor : ActivationFeePayer → Option Pubkey
  | subscriber => none
  | server key => some key

section

variable (client : ActivationClient) (subscriber : Pubkey) (plan : VerifiedPlan)

/-- The creation of the subscriber's token account. -/
def ataInstruction : Instruction :=
  let terms := plan.terms
  buildCreateIdempotentAtaIx (terms.feePayer.sponsor.getD subscriber)
    (findAssociatedTokenAddress client.findProgramAddress subscriber
      terms.tokenProgram.programId terms.mint)
    subscriber terms.mint terms.tokenProgram.programId

def subscribeInstruction (initId : ℤ) : Instruction :=
  let terms := plan.terms
  let programId := terms.subscriptionProgram
  buildSubscribeIx programId
    { subscriber
      merchant := plan.owner
      planPda := terms.planAddress
      subscriptionPda :=
        findSubscriptionPda client.findProgramAddress terms.planAddress subscriber programId
      subscriptionAuthorityPda :=
        findSubscriptionAuthorityPda client.findProgramAddress subscriber terms.mint programId
      eventAuthority := findEventAuthorityPda client.findProgramAddress programId
      payer := terms.feePayer.sponsor }
    { planId := plan.planId
      planBump := plan.bump
      expectedMint := terms.mint
      expectedAmount := terms.amount.value
      expectedPeriodHours := terms.periodHours
      expectedCreatedAt := plan.createdAt
      expectedSubscriptionAuthorityInitId := initId }

def transferInstruction : Instruction :=
  let terms := plan.terms
  let programId := terms.subscriptionProgram
  let tokenProgram := terms.tokenProgram.programId
  buildTransferSubscriptionIx programId
    { subscriptionPda :=
        findSubscriptionPda client.findProgramAddress terms.planAddress subscriber programId
      planPda := terms.planAddress
      subscriptionAuthority :=
        findSubscriptionAuthorityPda client.findProgramAddress subscriber terms.mint programId
      delegatorAta := findAssociatedTokenAddress client.findProgramAddress subscriber
        tokenProgram terms.mint
      receiverAta := findAssociatedTokenAddress client.findProgramAddress terms.recipient
        tokenProgram terms.mint
      caller := terms.puller
      tokenMint := terms.mint
      tokenProgram
      eventAuthority := findEventAuthorityPda client.findProgramAddress programId }
    { amount := terms.amount.value, delegator := subscriber, mint := terms.mint }

/-- The instructions of an activation, without a compute budget. -/
def activationInstructions (initId : ℤ) : List Instruction :=
  [ataInstruction client subscriber plan, subscribeInstruction client subscriber plan initId,
    transferInstruction client subscriber plan] ++
    (plan.terms.externalId.map memoIx).toList

end

/-- The blockhash that the challenge carries, or else the latest. -/
def activationBlockhash (client : ActivationClient) (terms : SubscriptionTerms) :
    Except MppError (List UInt8) :=
  match terms.recentBlockhash with
  | some hash => .ok hash
  | none => client.latestBlockhash

def activationInitId (client : ActivationClient) (options : BuildSubscriptionActivationOptions) :
    Except MppError ℤ :=
  match options.subscriptionAuthorityInitId with
  | some initId => .ok initId
  | none => client.authorityInitId

/-- `build_subscription_activation_transaction_with_options`, up to the encoding of the
transaction. -/
def buildSubscriptionActivationTransaction (client : ActivationClient)
    (signer : TransactionSigner) (plan : VerifiedPlan)
    (options : BuildSubscriptionActivationOptions) : Except MppError VersionedTransaction := do
  let budget : ComputeBudget :=
    ⟨options.computeUnitLimit.getD 400000, options.computeUnitPrice.getD 1,
      maxLoadedAccountsDataSizeBytes⟩
  let blockhash ← activationBlockhash client plan.terms
  let initId ← activationInitId client options
  let version ← (negotiate plan.terms.transactionVersions options.maxTxVersion).mapError
    MppError.other
  let tx ← (buildUnsigned client.compile client.serializedSize version
    (plan.terms.feePayer.sponsor.getD signer.pubkey)
    (activationInstructions client signer.pubkey plan initId) blockhash (some budget)).mapError
      MppError.other
  (signVersionedTransactionSlot signer tx).mapError fun error =>
    .other ("Subscriber signature failed: " ++ error)

end PayKit.Subscription
