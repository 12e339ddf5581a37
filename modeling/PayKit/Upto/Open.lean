import PayKit.BatchSettlement.TransactionPolicy
import PayKit.Encoding.Json
import PayKit.X402.Error

/-!
# Which opens an `upto` sponsor co-signs

`verify_upto_payload` of the `upto` scheme, and `prepare_open` of `x402/server/upto.rs`
with the validation of the client's open: every check that runs before the sponsor
co-signs and broadcasts it.

The checks index into the instruction and subtract counts of the message header. Where
such an operation would be out of range or below zero the result is a fault.

The header's base64 and JSON belong to their crates and are parameters of the server.
-/

namespace PayKit.Upto

open BatchSettlement (Chain expectAccounts openDiscriminator openSlotWindow pubkeyOfBytes
  rentSysvar)
open Control Encoding Machine PaymentChannel Solana Tx X402

/-! ### The wire types -/

structure UptoExtra where
  tokenProgram : Option String
  feePayer : String
  receiverAuthorizer : String
  transactionVersions : Option (List TxVersion)
  withdrawDelay : ℕ
  recentBlockhash : Option String
  lastValidBlockHeight : Option String
  recentSlot : Option ℕ
  validAfter : Option ℤ
  memo : Option String
deriving DecidableEq

structure UptoRequirements where
  scheme : String
  network : String
  amount : String
  asset : String
  payTo : String
  maxTimeoutSeconds : ℕ
  extra : UptoExtra
deriving DecidableEq

/-- `UptoRequirements::max_amount`. -/
def UptoRequirements.maxAmountOf (requirements : UptoRequirements) : Except Error ℕ :=
  okOr (parseU64 requirements.amount) (.other ("invalid upto amount: " ++ requirements.amount))

structure UptoPayload where
  «from» : String
  maxAmount : String
  expiresAt : ℤ
  validAfter : ℤ
  nonce : ℕ
  channelId : String
  deposit : String
  authorizedSigner : String
  openSlot : ℕ
  openTransaction : Option String

namespace UptoPayload

variable (payload : UptoPayload)

/-- `UptoPayload::max_amount`. -/
def maxAmountOf : Except Error ℕ :=
  okOr (parseU64 payload.maxAmount) (.other ("invalid upto maxAmount: " ++ payload.maxAmount))

/-- `UptoPayload::deposit`. -/
def depositOf : Except Error ℕ :=
  okOr (parseU64 payload.deposit) (.other ("invalid upto deposit: " ++ payload.deposit))

end UptoPayload

structure UptoSignatureEnvelope where
  accepted : Json
  payload : UptoPayload

def uptoScheme : String := "upto"

/-! ### The payload -/

def errChannelLifetimeExceeded : String := "invalid_upto_svm_payload_channel_lifetime_exceeded"
def errExpiresAtMismatch : String := "invalid_upto_svm_payload_expires_at_mismatch"
def errSettlementExceedsAmount : String := "invalid_upto_svm_payload_settlement_exceeds_amount"
def errChannelAlreadyOpen : String := "invalid_upto_svm_channel_already_open"
def expiresAtClockSkewSeconds : ℤ := 60

/-- Seconds as a signed value, stopping at the largest. -/
def signedSeconds (seconds : ℕ) : ℤ :=
  min seconds i64Max

def verifyUptoLifetime (payload : UptoPayload) (requirements : UptoRequirements)
    (maxLifetime : ℕ) (now : ℤ) : Except Error Unit := do
  refuseIf (maxLifetime < requirements.maxTimeoutSeconds)
    (.other (errChannelLifetimeExceeded ++ s!": maxTimeoutSeconds " ++
      s!"{requirements.maxTimeoutSeconds} exceeds maxChannelLifetimeSecs {maxLifetime}") : Error)
  let remaining := saturatingAddI64 payload.expiresAt (-now)
  refuseIf (saturatingAddI64 (signedSeconds maxLifetime) expiresAtClockSkewSeconds < remaining)
    (.other (errChannelLifetimeExceeded ++ s!": expiresAt is {remaining}s away, over " ++
      s!"maxChannelLifetimeSecs {maxLifetime}") : Error)
  let windowEnd := saturatingAddI64
    (saturatingAddI64 now (signedSeconds requirements.maxTimeoutSeconds)) expiresAtClockSkewSeconds
  refuseIf (windowEnd < payload.expiresAt)
    (.other (errExpiresAtMismatch ++ s!": expiresAt {payload.expiresAt} is later than now + " ++
      s!"maxTimeoutSeconds ({requirements.maxTimeoutSeconds}) plus " ++
      s!"{expiresAtClockSkewSeconds}s skew") : Error)

def verifyUptoPayload (payload : UptoPayload) (requirements : UptoRequirements)
    (receiverAuthorizer : String) (maxLifetime : ℕ) (now : ℤ) : Except Error Unit := do
  let max ← requirements.maxAmountOf
  let signedMax ← payload.maxAmountOf
  refuseIf (signedMax ≠ max) (.amountMismatch max.repr signedMax.repr : Error)
  let deposit ← payload.depositOf
  refuseIf (deposit ≠ max)
    (.other (s!"channel deposit {deposit} != authorized maximum {max}: the deposit is the " ++
      "enforced ceiling and `topUp` can raise it, so it must equal the authorized amount " ++
      "exactly, not merely cover it") : Error)
  refuseIf (now < payload.validAfter)
    (.other s!"authorization not yet active (validAfter {payload.validAfter} > now {now})" : Error)
  refuseIf (payload.expiresAt = 0 ∨ payload.expiresAt ≤ now)
    (.other s!"authorization expired (expiresAt {payload.expiresAt} < now {now})" : Error)
  verifyUptoLifetime payload requirements maxLifetime now
  refuseIf (payload.authorizedSigner ≠ receiverAuthorizer)
    (.other "voucher authorized_signer must be the advertised receiver authorizer" : Error)

def assertSettlementWithinCeiling (actual max : ℕ) : Except Error Unit :=
  refuseIf (max < actual) (.other errSettlementExceedsAmount)

/-! ### The open instruction -/

/-- How a check before the co-signature fails. -/
inductive Failure where
  | refused (error : Error)
  /-- An index out of range, or a subtraction below zero. -/
  | fault
deriving DecidableEq

def faultless {Result : Type} (check : Except Error Result) : Except Failure Result :=
  check.mapError .refused

def refuse {Result : Type} (reason : String) : Except Failure Result :=
  .error (.refused (.other reason))

/-- A recipient of a channel's payouts, with its share in basis points. -/
structure Distribution where
  recipient : Pubkey
  bps : ℕ
deriving DecidableEq

structure OpenArgs where
  salt : ℕ
  deposit : ℕ
  gracePeriod : ℕ
  openSlot : ℕ
  recipients : List Distribution
deriving DecidableEq

/-- The entries of a Borsh vector, and the bytes after them. -/
def decodeRecipients : ℕ → List UInt8 → Except String (List Distribution × List UInt8)
  | 0, bytes => .ok ([], bytes)
  | count + 1, bytes => do
      refuseIf (bytes.length < 34) "Unexpected length of input"
      let recipient ← okOr (pubkeyOfBytes (bytes.take 32)) "Unexpected length of input"
      let rest ← decodeRecipients count (bytes.drop 34)
      return (⟨recipient, fromLeBytes bytes 32 34⟩ :: rest.1, rest.2)

/-- `OpenArgs::try_from_slice`: Borsh, of all the bytes. -/
def decodeOpenArgs (bytes : List UInt8) : Except String OpenArgs := do
  refuseIf (bytes.length < 32) "Unexpected length of input"
  let decoded ← decodeRecipients (fromLeBytes bytes 28 32) (bytes.drop 32)
  refuseIf (decoded.2 ≠ []) "Not all bytes read"
  return {
    salt := fromLeBytes bytes 0 8
    deposit := fromLeBytes bytes 8 16
    gracePeriod := fromLeBytes bytes 16 20
    openSlot := fromLeBytes bytes 20 28
    recipients := decoded.1 }

/-- What an open is validated against. A value that is not there is not checked. -/
structure OpenExpectations where
  acceptedVersions : List TxVersion
  programId : Pubkey
  rentPayer : Pubkey
  authorizedSigner : Pubkey
  payer : Pubkey
  payee : Pubkey
  mint : Pubkey
  tokenProgram : Pubkey
  channelId : Pubkey
  maxAmount : Option ℕ
  gracePeriod : Option ℕ
  payloadNonce : Option ℕ
  payloadOpenSlot : Option ℕ
  recentSlot : Option ℕ
  memo : Option String
  recipients : Option (List Distribution)

def openAccountCount : ℕ := 14
def openWritablePositions : List ℕ := [0, 1, 5, 6, 7]
def openSignerPositions : List ℕ := [0, 1]

/-- The accounts of the canonical `open`, with their roles. -/
def openAccounts (chain : Chain) (expected : OpenExpectations) : List (String × Pubkey) := [
  ("payer", expected.payer),
  ("rent_payer", expected.rentPayer),
  ("payee", expected.payee),
  ("mint", expected.mint),
  ("authorized_signer", expected.authorizedSigner),
  ("channel", expected.channelId),
  ("payer_token_account",
    chain.findAssociatedTokenAddress expected.payer expected.mint expected.tokenProgram),
  ("channel_token_account",
    chain.findAssociatedTokenAddress expected.channelId expected.mint expected.tokenProgram),
  ("token_program", expected.tokenProgram),
  ("system_program", systemProgram),
  ("rent_sysvar", rentSysvar),
  ("associated_token_program", ataProgram),
  ("event_authority", chain.findEventAuthorityPda expected.programId),
  ("self_program", expected.programId)]

/-- The policy for memos: a declared memo is required. -/
def memoPolicy (expectedMemo : Option String) : MemoPolicy :=
  match expectedMemo with
  | some memo => .required (some memo)
  | none => .optional

def findCanonicalOpenInstruction (tx : VersionedTransaction) (programId : Pubkey)
    (expectedMemo : Option String) : Except Error CompiledInstruction :=
  (scanChannelTxLayout tx programId openDiscriminator "open" (memoPolicy expectedMemo)).mapError
    .other

/-! ### Operations that may fault -/

/-- `ix.accounts[position]`. -/
def accountIndex (ix : CompiledInstruction) (position : ℕ) : Except Failure ℕ :=
  match ix.accounts[position]? with
  | some index => .ok index.toNat
  | none => .error .fault

/-- `&keys[..count]`. -/
def leading (keys : List Pubkey) (count : ℕ) : Except Failure (List Pubkey) :=
  if count ≤ keys.length then .ok (keys.take count) else .error .fault

/-- `left - right`. -/
def minus (left right : ℕ) : Except Failure ℕ :=
  if right ≤ left then .ok (left - right) else .error .fault

/-! ### Signers and privileges -/

section

variable (keys : List Pubkey) (header : MessageHeader)

/-- `is_writable` of `check_open_privileges`. -/
def isWritable (index : ℕ) : Except Failure Bool :=
  let signed := header.numRequiredSignatures.toNat
  if index < signed then do
    let writableSigned ← minus signed header.numReadonlySignedAccounts.toNat
    return index < writableSigned
  else do
    let writableUnsigned ← minus keys.length header.numReadonlyUnsignedAccounts.toNat
    return index < writableUnsigned

/-- Each required signer is the payer or the fee payer. -/
def checkSigners (payer feePayer : Pubkey) : List Pubkey → Except Failure Unit
  | [] => .ok ()
  | key :: rest =>
      if key ≠ payer ∧ key ≠ feePayer then
        refuse (s!"open requires an unexpected signer {key.display}: the required signers must " ++
          "be exactly payload.from and extra.feePayer")
      else checkSigners payer feePayer rest

def checkSignerPositions (ix : CompiledInstruction) : List ℕ → Except Failure Unit
  | [] => .ok ()
  | position :: rest => do
      let index ← accountIndex ix position
      if index < header.numRequiredSignatures.toNat then checkSignerPositions ix rest
      else refuse s!"open instruction account #{position} must be a signer"

def checkWritablePositions (ix : CompiledInstruction) : List ℕ → Except Failure Unit
  | [] => .ok ()
  | position :: rest => do
      let index ← accountIndex ix position
      let writable ← isWritable keys header index
      if writable then checkWritablePositions ix rest
      else refuse s!"open instruction account #{position} must be writable"

def accountIndexes (ix : CompiledInstruction) : List ℕ → Except Failure (List ℕ)
  | [] => .ok []
  | position :: rest => do
      let index ← accountIndex ix position
      let indexes ← accountIndexes ix rest
      return index :: indexes

/-- The first of the positions that is writable and none of the roles. -/
def findOutside (roles : List ℕ) : List ℕ → Except Failure (Option ℕ)
  | [] => .ok none
  | index :: rest => do
      let writable ← isWritable keys header index
      if writable ∧ index ∉ roles then return some index else findOutside roles rest

def checkNoneOutside (roles : List ℕ) : Except Failure Unit := do
  let outside ← findOutside keys header roles (List.range keys.length)
  match outside with
  | none => .ok ()
  | some index =>
      match keys[index]? with
      | some key => refuse ("open instruction leaves " ++ key.display ++
          " writable outside the open's writable roles")
      | none => .error .fault

end

def checkOpenPrivileges (tx : VersionedTransaction) (ix : CompiledInstruction)
    (payer feePayer : Pubkey) : Except Failure Unit :=
  let keys := tx.message.staticAccountKeys
  let header := tx.message.header
  let signed := header.numRequiredSignatures.toNat
  -- The last subtraction is only reached when the first count is in range.
  if keys.length < signed ∨ signed < header.numReadonlySignedAccounts.toNat ∨
      keys.length - signed < header.numReadonlyUnsignedAccounts.toNat then
    refuse "invalid open transaction header: signer counts exceed the account keys"
  else do
    let signers ← leading keys signed
    checkSigners payer feePayer signers
    checkSignerPositions header ix openSignerPositions
    checkWritablePositions keys header ix openWritablePositions
    let roles ← accountIndexes ix openWritablePositions
    checkNoneOutside keys header roles

def verifyPayerSignature (chain : Chain) (tx : VersionedTransaction) (payer : Pubkey) :
    Except Error Unit :=
  let signed := tx.message.header.numRequiredSignatures.toNat
  let keys := tx.message.staticAccountKeys
  match (keys.take (min signed keys.length)).findIdx? (· = payer) with
  | none => .error (.other "invalid payload: payload.from does not sign the open")
  | some index =>
      refuseIf (¬tx.signatures[index]?.any (chain.verify · payer (chain.serialize tx.message)))
        (.other ("invalid payload: the payload.from signature on the open is missing or " ++
          "invalid"))

/-! ### The arguments -/

/-- A value against the expected one, when there is one. -/
def expectValue (expected : Option ℕ) (actual : ℕ) (reason : ℕ → String) : Except Error Unit :=
  match expected with
  | none => .ok ()
  | some expected => refuseIf (expected ≠ actual) (.other (reason expected))

def checkRecipients (expected : Option (List Distribution)) (args : OpenArgs) :
    Except Error Unit :=
  refuseIf (expected.any (args.recipients ≠ ·))
    (.other "open distribution does not match the expected recipient split")

/-- The freshness window of the open slot. -/
def checkOpenSlotWindow (recentSlot : Option ℕ) (openSlot : ℕ) : Except Failure Unit :=
  match recentSlot with
  | none => .ok ()
  | some recentSlot =>
      if recentSlot < openSlot then
        refuse s!"open openSlot {openSlot} is ahead of the challenged recentSlot {recentSlot}"
      else do
        let age ← minus recentSlot openSlot
        if openSlotWindow < age then
          refuse (s!"open openSlot {openSlot} is outside the {openSlotWindow}-slot freshness " ++
            s!"window of the challenged recentSlot {recentSlot}")
        else .ok ()

/-- What `validate_open_instruction` checks of the arguments. -/
def checkOpenArgs (chain : Chain) (expected : OpenExpectations) (args : OpenArgs) :
    Except Failure Unit := do
  faultless (checkRecipients expected.recipients args)
  faultless (expectValue expected.payloadNonce args.salt fun nonce =>
    s!"open salt {args.salt} does not match payload nonce {nonce}")
  faultless (expectValue expected.payloadOpenSlot args.openSlot fun openSlot =>
    s!"open slot {args.openSlot} does not match payload openSlot {openSlot}")
  faultless (expectValue expected.gracePeriod args.gracePeriod fun gracePeriod =>
    s!"open withdraw delay {args.gracePeriod} must equal the advertised withdrawDelay " ++
      s!"{gracePeriod}")
  let derived := chain.findChannelPda expected.payer expected.payee expected.mint
    expected.authorizedSigner args.salt args.openSlot expected.programId
  faultless (refuseIf (derived ≠ expected.channelId) (.other ("open channel PDA " ++
    expected.channelId.display ++ " != derived " ++ derived.display)))
  faultless (expectValue expected.maxAmount args.deposit fun maxAmount =>
    s!"open deposit {args.deposit} must equal the authorized maximum {maxAmount}")
  checkOpenSlotWindow expected.recentSlot args.openSlot

/-- The arguments of the instruction, without its discriminator. -/
def openArgsOf (ix : CompiledInstruction) : Except Error OpenArgs := do
  refuseIf (ix.data = []) (.other "open instruction data is empty" : Error)
  (decodeOpenArgs (ix.data.drop 1)).mapError fun error =>
    .other ("open instruction args are malformed: " ++ error)

def validateOpenInstruction (chain : Chain) (tx : VersionedTransaction)
    (expected : OpenExpectations) : Except Failure Unit := do
  let _ ← faultless ((Tx.checkEnvelope chain.serializedSize tx
    expected.acceptedVersions).mapError .other)
  let _ ← faultless ((checkV1BudgetCapsWith tx.message openMaxComputeUnitLimit
    maxComputeUnitPriceMicrolamports .present).mapError .other)
  faultless ((rejectV1HeapRequest tx.message).mapError .other)
  let ix ← faultless (findCanonicalOpenInstruction tx expected.programId expected.memo)
  faultless (refuseIf (ix.accounts.length ≠ openAccountCount)
    (.other (s!"open instruction has {ix.accounts.length} accounts; it must have exactly " ++
      s!"{openAccountCount} and no remaining accounts")))
  faultless ((expectAccounts tx.message.staticAccountKeys ix "open transaction" 0
    (openAccounts chain expected)).mapError fun error => .other error.detail)
  checkOpenPrivileges tx ix expected.payer expected.rentPayer
  let args ← faultless (openArgsOf ix)
  checkOpenArgs chain expected args

/-! ### `prepare_open` -/

structure UptoServer where
  chain : Chain
  programIdOverride : Option String
  defaultProgramId : Pubkey
  feePayer : Pubkey
  receiverAuthorizer : Pubkey
  beneficiary : Option String
  withdrawDelay : ℕ
  maxChannelLifetime : ℕ
  acceptedVersions : List TxVersion
  /-- The base64 and the JSON of a header. -/
  parseEnvelope : String → Except String UptoSignatureEnvelope
  /-- `serde_json::from_value` of the requirements that a client accepted. -/
  readRequirements : Json → Except String UptoRequirements

/-- What the chain answers while an open is prepared. -/
structure OpenReadings where
  channelExists : Except String Bool
  challengedSlot : Option ℕ

structure PreparedOpen where
  tx : VersionedTransaction
  requirements : UptoRequirements
  payer : Pubkey
  channelId : Pubkey
  max : ℕ
  expectedMint : Pubkey
  tokenProgram : Pubkey
  programId : Pubkey
  expectedPayee : Pubkey
  expectedDistribution : List Distribution
  expiresAt : ℤ

def parseKey (text reason : String) : Except Error Pubkey :=
  (Pubkey.fromStr text).mapError fun error => .other (reason ++ error.display)

namespace UptoServer

variable (server : UptoServer)

def programId : Except Error Pubkey :=
  match server.programIdOverride with
  | some value => parseKey value "invalid programId: "
  | none => .ok server.defaultProgramId

def payTo : String :=
  server.beneficiary.getD server.receiverAuthorizer.display

/-- `distribution`: all of it to `payTo`. -/
def distribution : Except Error (List Distribution) := do
  let recipient ← parseKey server.payTo "invalid recipient: "
  return [⟨recipient, BatchSettlement.fullShareBps⟩]

def parsePaymentSignature (header : String) : Except Error UptoSignatureEnvelope := do
  let envelope ← (server.parseEnvelope header).mapError .invalidPaymentRequired
  let scheme := ((envelope.accepted.get? "scheme").bind Json.asStr).getD ""
  refuseIf (scheme ≠ uptoScheme) (.invalidPayloadType scheme : Error)
  return envelope

end UptoServer

/-- `strip_upto_blockhash_hints`, of requirements. -/
def UptoRequirements.stripHints (requirements : UptoRequirements) : UptoRequirements :=
  { requirements with
    extra := { requirements.extra with
      recentBlockhash := none
      lastValidBlockHeight := none
      recentSlot := none } }

/-- `match_offered_requirement`. Two requirements have the same JSON when they are
the same. -/
def matchOfferedRequirement (server : UptoServer) (offered : List UptoRequirements)
    (accepted : Json) : Except Error UptoRequirements := do
  let acceptedRequirements ← (server.readRequirements accepted).mapError fun error =>
    .invalidPaymentRequired ("invalid accepted requirement: " ++ error)
  okOr (offered.find? (·.stripHints = acceptedRequirements.stripHints))
    (.other "credential's accepted does not match any offered currency option")

/-- The `Debug` form of an optional text. -/
def debugOption : Option String → String
  | none => "None"
  | some text => "Some(" ++ text.quote ++ ")"

/-- The network that the client accepted is the offered one. -/
def checkNetwork (accepted : Json) (requirements : UptoRequirements) : Except Error Unit :=
  let claimed := (accepted.get? "network").bind Json.asStr
  refuseIf (claimed ≠ some requirements.network)
    (.other ("network mismatch: payload " ++ debugOption claimed ++ ", expected " ++
      requirements.network))

def ensureChannelAbsent (readings : OpenReadings) (channelId : Pubkey) : Except Error Unit := do
  let found ← readings.channelExists.mapError fun error =>
    .rpc ("channel account read failed: " ++ error)
  refuseIf found (.other (errChannelAlreadyOpen ++ ": channel " ++ channelId.display ++
    " already exists; deposit settle must open it"))

/-- `prepare_open`, with the channels that are in flight. -/
def prepareOpen (server : UptoServer) (inFlight : Pubkey → Bool) (readings : OpenReadings)
    (header : String) (offered : List UptoRequirements) (now : ℤ) :
    Except Failure PreparedOpen := do
  let envelope ← faultless (server.parsePaymentSignature header)
  let payload := envelope.payload
  let requirements ← faultless (matchOfferedRequirement server offered envelope.accepted)
  faultless (verifyUptoPayload payload requirements server.receiverAuthorizer.display
    server.maxChannelLifetime now)
  faultless (checkNetwork envelope.accepted requirements)
  let programId ← faultless server.programId
  let expectedMint ← faultless (parseKey requirements.asset "invalid matched asset mint: ")
  let tokenProgramText ← faultless (okOr requirements.extra.tokenProgram
    (.other "matched requirement missing token program"))
  let tokenProgram ← faultless (parseKey tokenProgramText "invalid matched token program: ")
  let expectedDistribution ← faultless server.distribution
  let channelId ← faultless (parseKey payload.channelId "invalid channelId: ")
  let payer ← faultless (parseKey payload.«from» "invalid payer: ")
  let max ← faultless payload.maxAmountOf
  faultless (refuseIf (inFlight channelId)
    (.other "channel is already being processed (concurrent request)"))
  let transaction ← faultless (okOr payload.openTransaction
    (.other "payment-channel asset transfer method requires openTransaction (pull)"))
  let tx ← faultless ((server.chain.decode transaction).mapError .other)
  faultless (ensureChannelAbsent readings channelId)
  validateOpenInstruction server.chain tx {
    acceptedVersions := server.acceptedVersions
    programId := programId
    rentPayer := server.feePayer
    authorizedSigner := server.receiverAuthorizer
    payer := payer
    payee := server.feePayer
    mint := expectedMint
    tokenProgram := tokenProgram
    channelId := channelId
    maxAmount := some max
    gracePeriod := some server.withdrawDelay
    payloadNonce := some payload.nonce
    payloadOpenSlot := some payload.openSlot
    recentSlot := readings.challengedSlot
    memo := requirements.extra.memo
    recipients := some expectedDistribution }
  faultless (verifyPayerSignature server.chain tx payer)
  return ⟨tx, requirements, payer, channelId, max, expectedMint, tokenProgram, programId,
    server.feePayer, expectedDistribution, payload.expiresAt⟩

end PayKit.Upto
