import PayKit.Arithmetic.Decimal
import PayKit.Charge.VerificationError
import PayKit.Tx.Message

/-!
# Which activations a subscription server accepts

`extract_subscriber_from_tx` and `validate_activation_scope` of
`mpp/server/subscription.rs`. The second is one pass over the instructions, whose flags
and positions are the fields of `ActivationScan`, and a few checks of what the pass has
found.

The derivation of program addresses belongs to the Solana crates and is a parameter.
-/

namespace PayKit.Subscription

open Charge Control Encoding Machine Solana Tx

/-! ### The configuration and the request -/

structure SubscriptionConfig where
  planId : String
  mint : String
  tokenProgram : String
  puller : String
  feePayer : Bool
  /-- The key of the fee-payer signer. -/
  feePayerSigner : Option Pubkey
  feePayerPubkey : Option String

structure SubscriptionRequest where
  amount : String
  recipient : String
  externalId : Option String

/-- `parse_pubkey` of `mpp/program/subscriptions.rs`, as a verifier reports it. -/
def parsePubkey (text field : String) : Except VerificationError Pubkey :=
  (Pubkey.fromStr text).mapError fun error =>
    .new ("Invalid " ++ field ++ " pubkey: " ++ error.display)

def refuse {Result : Type} (message : String) : Except VerificationError Result :=
  .error (.invalidPayload message)

/-! ### The subscriber -/

/-- The fee payer's key, when the server sponsors fees. The explicit key comes first. -/
def expectedSponsor (config : SubscriptionConfig) : Except VerificationError (Option Pubkey) :=
  if config.feePayer then
    match config.feePayerPubkey.or (config.feePayerSigner.map Pubkey.display) with
    | some text => (parsePubkey text "fee_payer_key").map some
    | none => .ok none
  else .ok none

def extractSubscriberFromTx (tx : VersionedTransaction) (config : SubscriptionConfig) :
    Except VerificationError Pubkey := do
  let keys := tx.message.staticAccountKeys
  let first ← okOr keys.head? (.invalidPayload "VersionedTransaction has no account keys")
  let puller ← parsePubkey config.puller "puller"
  let sponsor ← expectedSponsor config
  refuseIf (config.feePayer ∧ sponsor = none)
    (.invalidPayload "fee_payer=true requires a configured fee-payer pubkey" : VerificationError)
  match sponsor with
  | some feePayer => do
      refuseIf (first ≠ feePayer)
        (.invalidPayload ("Activation transaction fee payer must be " ++ feePayer.display) :
          VerificationError)
      let required := tx.message.header.numRequiredSignatures.toNat
      okOr (((keys.take required).drop 1).find? fun key => key ≠ puller ∧ key ≠ feePayer)
        (.invalidPayload "Could not identify subscriber among transaction signers")
  | none => do
      refuseIf (first = puller)
        (.invalidPayload "Subscriber cannot equal the server puller" : VerificationError)
      return first

/-! ### Program addresses -/

section

variable (findProgramAddress : List (List UInt8) → Pubkey → Pubkey)

def findSubscriptionAuthorityPda (subscriber mint programId : Pubkey) : Pubkey :=
  findProgramAddress [asBytes "SubscriptionAuthority", subscriber.bytes, mint.bytes] programId

def findEventAuthorityPda (programId : Pubkey) : Pubkey :=
  findProgramAddress [asBytes "event_authority"] programId

def findSubscriptionPda (planPda subscriber programId : Pubkey) : Pubkey :=
  findProgramAddress [asBytes "subscription", planPda.bytes, subscriber.bytes] programId

/-- The associated token account of an owner. -/
def findAssociatedTokenAddress (owner tokenProgram mint : Pubkey) : Pubkey :=
  findProgramAddress [owner.bytes, tokenProgram.bytes, mint.bytes] ataProgram

end

/-! ### The scan of the instructions -/

def instructionInitializeSubscriptionAuthority : UInt8 := 0
def instructionTransferSubscription : UInt8 := 10
def instructionSubscribe : UInt8 := 11

/-- What the instructions are compared with. -/
structure ActivationScope where
  keys : List Pubkey
  feePayer : Bool
  programId : Pubkey
  mint : Pubkey
  tokenProgram : Pubkey
  puller : Pubkey
  planPda : Pubkey
  subscriber : Pubkey
  expectedSubscription : Pubkey
  expectedAuthority : Pubkey
  sponsor : Option Pubkey
  request : SubscriptionRequest
  findProgramAddress : List (List UInt8) → Pubkey → Pubkey

/-- What the instructions so far have been. -/
structure ActivationScan where
  subscribe : Option ℕ := none
  transfer : Option ℕ := none
  ata : Option ℕ := none
  sawMemo : Bool := false
  sawComputeLimit : Bool := false
  sawComputePrice : Bool := false

namespace ActivationScope

variable (scope : ActivationScope)

/-- The highest unit limit of an activation. -/
def maxUnits : ℕ := 400000

/-- The highest unit price, which is lower when the server pays it. -/
def maxPrice : ℕ :=
  if scope.feePayer then 10000 else 5000000

/-- The account at a position of an instruction. -/
def account (ix : CompiledInstruction) (position : ℕ) : Option Pubkey :=
  accountAt scope.keys ix position

def scanComputeBudget (ix : CompiledInstruction) (scan : ActivationScan) :
    Except VerificationError ActivationScan :=
  if ix.data.head? = some 2 ∧ ix.data.length = 5 then do
    refuseIf scan.sawComputeLimit
      (.invalidPayload "Activation tx contains multiple compute-unit-limit instructions" :
        VerificationError)
    refuseIf (maxUnits < fromLeBytes ix.data 1 5)
      (.invalidPayload "Activation compute unit limit exceeds 400000" : VerificationError)
    return { scan with sawComputeLimit := true }
  else if ix.data.head? = some 3 ∧ ix.data.length = 9 then do
    refuseIf scan.sawComputePrice
      (.invalidPayload "Activation tx contains multiple compute-unit-price instructions" :
        VerificationError)
    refuseIf (scope.maxPrice < fromLeBytes ix.data 1 9)
      (.invalidPayload "Activation compute unit price exceeds cap" : VerificationError)
    return { scan with sawComputePrice := true }
  else refuse "Unsupported compute-budget instruction in activation tx"

def scanMemo (ix : CompiledInstruction) (scan : ActivationScan) :
    Except VerificationError ActivationScan := do
  refuseIf (scan.sawMemo ∨ scope.request.externalId ≠ String.fromUTF8? ⟨ix.data.toArray⟩)
    (.invalidPayload "Activation memo does not match challenge externalId" : VerificationError)
  return { scan with sawMemo := true }

/-- The creation of the subscriber's token account. -/
def scanAtaCreation (index : ℕ) (ix : CompiledInstruction) (scan : ActivationScan) :
    Except VerificationError ActivationScan := do
  refuseIf (scan.ata.isSome ∨ ix.data ≠ [1] ∨ ix.accounts.length ≠ 6)
    (.invalidPayload "Only one idempotent subscriber ATA creation is allowed in activation tx" :
      VerificationError)
  refuseIf (scope.account ix 2 ≠ some scope.subscriber ∨ scope.account ix 3 ≠ some scope.mint ∨
      scope.account ix 4 ≠ some systemProgram ∨ scope.account ix 5 ≠ some scope.tokenProgram)
    (.invalidPayload "ATA creation does not match the activation subscriber and mint" :
      VerificationError)
  return { scan with ata := some index }

/-- The optional ninth account of `subscribe` is the sponsor. -/
def payerOk (ix : CompiledInstruction) : Bool :=
  ix.accounts.length = 8 ∨
    (ix.accounts.length = 9 ∧ scope.sponsor ≠ none ∧ scope.account ix 8 = scope.sponsor)

def scanSubscribe (index : ℕ) (ix : CompiledInstruction) (scan : ActivationScan) :
    Except VerificationError ActivationScan := do
  refuseIf scan.subscribe.isSome
    (.invalidPayload "Activation tx contains multiple subscribe instructions" : VerificationError)
  refuseIf (scope.payerOk ix = false ∨ scope.account ix 0 ≠ some scope.subscriber ∨
      scope.account ix 2 ≠ some scope.planPda ∨
      scope.account ix 3 ≠ some scope.expectedSubscription ∨
      scope.account ix 4 ≠ some scope.expectedAuthority ∨
      scope.account ix 5 ≠ some systemProgram ∨ scope.account ix 7 ≠ some scope.programId)
    (.invalidPayload "subscribe accounts do not match the challenged activation" :
      VerificationError)
  return { scan with subscribe := some index }

/-- The accounts of the transfer to a recipient. -/
def transferAccounts (recipient : Pubkey) : List Pubkey := [
  scope.expectedSubscription, scope.planPda, scope.expectedAuthority,
  findAssociatedTokenAddress scope.findProgramAddress scope.subscriber scope.tokenProgram
    scope.mint,
  findAssociatedTokenAddress scope.findProgramAddress recipient scope.tokenProgram scope.mint,
  scope.puller, scope.mint, scope.tokenProgram,
  findEventAuthorityPda scope.findProgramAddress scope.programId, scope.programId]

def scanTransfer (index : ℕ) (ix : CompiledInstruction) (scan : ActivationScan) :
    Except VerificationError ActivationScan := do
  refuseIf scan.transfer.isSome
    (.invalidPayload "Activation tx contains multiple transfer_subscription instructions" :
      VerificationError)
  refuseIf (ix.accounts.length ≠ 10 ∨ ix.data.length ≠ 73)
    (.invalidPayload "transfer_subscription does not match the Codama v0.5 schema" :
      VerificationError)
  let recipient ← parsePubkey scope.request.recipient "recipient"
  refuseIf ((List.range 10).any fun position =>
      scope.account ix position ≠ (scope.transferAccounts recipient)[position]?)
    (.invalidPayload "transfer_subscription accounts do not match the challenged activation" :
      VerificationError)
  let expectedAmount ← okOr (parseU64 scope.request.amount)
    (.invalidPayload "Challenge amount must be a u64")
  refuseIf (fromLeBytes ix.data 1 9 ≠ expectedAmount ∨
      slice ix.data 9 41 ≠ scope.subscriber.bytes ∨ slice ix.data 41 73 ≠ scope.mint.bytes)
    (.invalidPayload "transfer_subscription data does not match the challenged activation" :
      VerificationError)
  return { scan with transfer := some index }

/-- An instruction of the subscriptions program. -/
def scanSubscription (index : ℕ) (ix : CompiledInstruction) (scan : ActivationScan) :
    Except VerificationError ActivationScan :=
  match ix.data.head? with
  | none => refuse "Activation tx contains an empty subscriptions-program instruction"
  | some discriminator =>
      if discriminator = instructionInitializeSubscriptionAuthority then
        refuse "initialize_subscription_authority is not allowed in an activation tx"
      else if discriminator = instructionSubscribe then scope.scanSubscribe index ix scan
      else if discriminator = instructionTransferSubscription then
        scope.scanTransfer index ix scan
      else refuse s!"Unsupported subscriptions instruction {discriminator} in activation tx"

def scanInstruction (index : ℕ) (ix : CompiledInstruction) (scan : ActivationScan) :
    Except VerificationError ActivationScan :=
  match programOf scope.keys ix with
  | none => refuse "Activation instruction has an invalid program index"
  | some program =>
      if program = computeBudgetProgram then scope.scanComputeBudget ix scan
      else if program = memoProgram then scope.scanMemo ix scan
      else if program = ataProgram then scope.scanAtaCreation index ix scan
      else if program = scope.programId then scope.scanSubscription index ix scan
      else refuse ("Unsupported program " ++ program.display ++ " in activation tx")

/-- The instructions from a position on. -/
def scanInstructions :
    ℕ → List CompiledInstruction → ActivationScan → Except VerificationError ActivationScan
  | _, [], scan => .ok scan
  | index, ix :: rest, scan => do
      let next ← scope.scanInstruction index ix scan
      scanInstructions (index + 1) rest next

end ActivationScope

/-! ### The scope of an activation -/

/-- The order of keys, by their bytes. -/
def keyBefore (left right : Pubkey) : Prop :=
  left.bytes ≤ right.bytes

instance : DecidableRel keyBefore := fun left right =>
  inferInstanceAs (Decidable (left.bytes ≤ right.bytes))

/-- `slice::sort` of keys. -/
def sortKeys (keys : List Pubkey) : List Pubkey :=
  keys.insertionSort keyBefore

/-- `Vec::dedup`: one key of each run of equal keys. -/
def dedupKeys : List Pubkey → List Pubkey
  | first :: second :: rest =>
      if first = second then dedupKeys (second :: rest) else first :: dedupKeys (second :: rest)
  | keys => keys

/-- The first key is the fee payer, when the server sponsors fees. The signer's key comes
first here. -/
def checkSponsor (keys : List Pubkey) (config : SubscriptionConfig) :
    Except VerificationError Unit :=
  if config.feePayer then do
    let configured := config.feePayerSigner.or
      (config.feePayerPubkey.bind fun text => (parsePubkey text "fee_payer_key").toOption)
    let expected ← okOr configured
      (.invalidPayload "fee_payer=true requires a configured fee-payer pubkey")
    refuseIf (keys.head? ≠ some expected)
      (.invalidPayload ("Activation transaction fee payer must be " ++ expected.display) :
        VerificationError)
  else .ok ()

def checkScan (externalId : Option String) (scan : ActivationScan) :
    Except VerificationError Unit := do
  let subscribe ← okOr scan.subscribe
    (.invalidPayload "Activation tx is missing subscribe instruction")
  let transfer ← okOr scan.transfer
    (.invalidPayload "Activation tx is missing transfer_subscription instruction")
  refuseIf (transfer < subscribe)
    (.invalidPayload "subscribe must precede transfer_subscription in activation tx" :
      VerificationError)
  refuseIf (scan.ata.any (subscribe < ·))
    (.invalidPayload "Activation setup instructions must precede subscribe" : VerificationError)
  refuseIf (externalId.isSome ≠ scan.sawMemo)
    (.invalidPayload "Activation transaction memo does not match challenge externalId" :
      VerificationError)

/-- The required signers are the fee payer, the subscriber and the puller. -/
def checkActivationSigners (tx : VersionedTransaction) (config : SubscriptionConfig)
    (subscriber puller : Pubkey) : Except VerificationError Unit := do
  let keys := tx.message.staticAccountKeys
  let feePayer ← okOr keys.head?
    (.invalidPayload "VersionedTransaction has no account keys")
  refuseIf (config.feePayer = false ∧ feePayer ≠ subscriber)
    (.invalidPayload "Activation transaction fee payer must be the subscriber" :
      VerificationError)
  let required := tx.message.header.numRequiredSignatures.toNat
  refuseIf (sortKeys (keys.take required) ≠ dedupKeys (sortKeys [feePayer, subscriber, puller]) ∨
      tx.signatures.length ≠ required)
    (.invalidPayload ("Activation transaction signers must be exactly the fee payer, " ++
      "subscriber and puller") : VerificationError)

/-- What the instructions of a transaction are compared with. -/
def activationScope (findProgramAddress : List (List UInt8) → Pubkey → Pubkey)
    (tx : VersionedTransaction) (request : SubscriptionRequest) (config : SubscriptionConfig)
    (programId mint tokenProgram puller planPda subscriber : Pubkey) : ActivationScope where
  keys := tx.message.staticAccountKeys
  feePayer := config.feePayer
  programId := programId
  mint := mint
  tokenProgram := tokenProgram
  puller := puller
  planPda := planPda
  subscriber := subscriber
  expectedSubscription := findSubscriptionPda findProgramAddress planPda subscriber programId
  expectedAuthority := findSubscriptionAuthorityPda findProgramAddress subscriber mint programId
  sponsor := tx.message.staticAccountKeys.head?.filter fun _ => config.feePayer
  request := request
  findProgramAddress := findProgramAddress

def validateActivationScope (findProgramAddress : List (List UInt8) → Pubkey → Pubkey)
    (tx : VersionedTransaction) (request : SubscriptionRequest) (programIdText : String)
    (subscriber : Pubkey) (config : SubscriptionConfig) : Except VerificationError Unit := do
  let programId ← parsePubkey programIdText "program_id"
  checkSponsor tx.message.staticAccountKeys config
  let mint ← parsePubkey config.mint "mint"
  let tokenProgram ← parsePubkey config.tokenProgram "token_program"
  let puller ← parsePubkey config.puller "puller"
  let planPda ← parsePubkey config.planId "plan_id"
  let scope := activationScope findProgramAddress tx request config programId mint tokenProgram
    puller planPda subscriber
  let scan ← scope.scanInstructions 0 tx.message.instructions {}
  checkScan request.externalId scan
  checkActivationSigners tx config subscriber puller

end PayKit.Subscription
