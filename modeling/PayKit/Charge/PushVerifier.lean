import PayKit.Charge.Request
import PayKit.Encoding.Json
import PayKit.Matching.FirstMatch

/-!
# Verifying a push transaction

The checks of `Mpp::verify_on_chain` of `mpp/server/charge.rs` on a transaction the
client has sent itself, as the RPC node renders it in JSON with its known
instructions parsed. The policy is the one of the pull verifier, over texts instead
of keys and over named fields instead of positions.

`transaction` and `meta` are the values of the node's answer; its version, its
on-chain error and its age are checked before.
-/

namespace PayKit.Charge

open Control Encoding Machine Matching Solana

def stringMember (members : List (String × Json)) (key : String) : Option String :=
  (members.lookup key).bind Json.asStr

/-- `string_field`: the first of the fields that is a text. -/
def stringField (members : List (String × Json)) (keys : List String) : Option String :=
  keys.findSome? (stringMember members)

/-- The programs the node names by an alias. -/
def programAlias : String → Option String
  | "system" => some programs.systemProgram
  | "compute-budget" => some programs.computeBudgetProgram
  | "spl-memo" => some programs.memoProgram
  | "spl-associated-token-account" => some programs.associatedTokenProgram
  | _ => none

def parsedProgramId (ix : Json) : Option String :=
  match (ix.get? "programId").bind Json.asStr with
  | some program => some program
  | none => ((ix.get? "program").bind Json.asStr).bind programAlias

/-- The fields of a parsed instruction of the given type. -/
def parsedInfo (ix : Json) (type : String) : Option (List (String × Json)) :=
  ((ix.get? "parsed").bind Json.asObject).bind fun parsed =>
    if stringMember parsed "type" = some type then (parsed.lookup "info").bind Json.asObject
    else none

/-! ### Matching the expected instructions -/

/-- Whether a parsed instruction is the System transfer of an amount to a recipient. -/
def inspectParsedSolTransfer (feePayer : Option String) (recipient : String) (amount : ℕ)
    (ix : Json) : Except VerificationError Bool :=
  if parsedProgramId ix ≠ some programs.systemProgram then .ok false
  else
    match parsedInfo ix "transfer" with
    | none => .ok false
    | some info =>
        let destination := (stringMember info "destination").getD ""
        let source := (stringMember info "source").getD ""
        let lamports := ((info.lookup "lamports").bind Json.asU64).getD 0
        if destination = recipient ∧ lamports = amount then do
          refuseIf (feePayer = some source)
            (.invalidPayload "Fee payer cannot fund the SOL payment transfer")
          return true
        else .ok false

def findSolTransfer (instructions : List Json) (feePayer : Option String) (recipient : String)
    (amount : ℕ) (matched : List ℕ) : Except VerificationError (List ℕ) :=
  takeFirst (inspectParsedSolTransfer feePayer recipient amount)
    (.invalidAmount s!"No matching SOL transfer of {amount} lamports to {recipient}")
    instructions matched

section

variable (associatedTokenAddress : Pubkey → Pubkey → Pubkey → Pubkey)

def verifyAtaOwner (ataAddress expectedOwner mint tokenProgram : String) : Bool :=
  match Pubkey.fromStr expectedOwner, Pubkey.fromStr mint, Pubkey.fromStr tokenProgram,
      Pubkey.fromStr ataAddress with
  | .ok owner, .ok mint, .ok program, .ok ata => associatedTokenAddress owner program mint = ata
  | _, _, _, _ => false

/-- Whether the source is the sponsor's own token account. -/
def isSponsorAccount (feePayer mint program source : String) : Bool :=
  match Pubkey.fromStr feePayer, Pubkey.fromStr mint, Pubkey.fromStr program with
  | .ok feePayer, .ok mint, .ok program =>
      source = (associatedTokenAddress feePayer program mint).display
  | _, _, _ => false

/-- Whether a parsed instruction is the TransferChecked instruction of an amount to a
recipient. -/
def inspectParsedSplTransfer (expectedMint : String) (expectedTokenProgram feePayer : Option String)
    (recipient : String) (amount : ℕ) (ix : Json) : Except VerificationError Bool :=
  let program := ((ix.get? "programId").bind Json.asStr).getD ""
  if program ≠ programs.tokenProgram ∧ program ≠ programs.token2022Program then .ok false
  else if expectedTokenProgram.any (program ≠ ·) then .ok false
  else
    match parsedInfo ix "transferChecked" with
    | none => .ok false
    | some info =>
        let tokenAmount :=
          (((info.lookup "tokenAmount").bind (·.get? "amount")).bind Json.asStr).bind parseU64
        if tokenAmount.getD 0 ≠ amount then .ok false
        else
          let destination := (stringMember info "destination").getD ""
          let source := (stringMember info "source").getD ""
          let authority := (stringMember info "authority").getD ""
          let mint := (stringMember info "mint").getD ""
          if mint = expectedMint ∧
              verifyAtaOwner associatedTokenAddress destination recipient mint program then do
            refuseIf (feePayer = some authority)
              (.invalidPayload "Fee payer cannot authorize the SPL payment transfer")
            refuseIf (feePayer.any
                (isSponsorAccount associatedTokenAddress · mint program source))
              (.invalidPayload "Fee payer token account cannot fund the SPL payment transfer")
            return true
          else .ok false

def findSplTransfer (instructions : List Json) (expectedMint : String)
    (expectedTokenProgram feePayer : Option String) (recipient : String) (amount : ℕ)
    (matched : List ℕ) : Except VerificationError (List ℕ) :=
  takeFirst (inspectParsedSplTransfer associatedTokenAddress expectedMint expectedTokenProgram
      feePayer recipient amount)
    (.invalidAmount s!"No matching SPL transferChecked of {amount} to {recipient}")
    instructions matched

end

/-- Find the transfer of each split in turn. -/
def findSplits (find : String → ℕ → List ℕ → Except VerificationError (List ℕ))
    (missing : String) : List Split → List ℕ → Except VerificationError (List ℕ)
  | [], matched => .ok matched
  | split :: rest, matched => do
      let amount ← parseSplitAmount split
      let matched ← (find split.recipient amount matched).mapError fun _ =>
        VerificationError.invalidAmount (missing ++ split.recipient)
      findSplits find missing rest matched

def verifySolTransfers (instructions : List Json) (recipient : String) (primaryAmount : ℕ)
    (splits : List Split) (feePayer : Option String) : Except VerificationError (List ℕ) := do
  let matched ← findSolTransfer instructions feePayer recipient primaryAmount []
  findSplits (findSolTransfer instructions feePayer) "Missing split transfer to " splits matched

def verifySplTransfers (associatedTokenAddress : Pubkey → Pubkey → Pubkey → Pubkey)
    (instructions : List Json) (recipient mint : String) (primaryAmount : ℕ)
    (splits : List Split) (expectedTokenProgram feePayer : Option String) :
    Except VerificationError (List ℕ) := do
  let find := findSplTransfer associatedTokenAddress instructions mint expectedTokenProgram feePayer
  let matched ← find recipient primaryAmount []
  findSplits find "Missing split SPL transfer to " splits matched

def parsedMemoText (ix : Json) : Option String :=
  match ix.get? "parsed" with
  | some (.text memo) => some memo
  | some (.object parsed) =>
      ((parsed.lookup "info").bind Json.asObject).bind (stringField · ["memo", "data"])
  | _ => none

def inspectParsedMemo (memo : String) (ix : Json) : Except VerificationError Bool :=
  .ok (parsedProgramId ix = some programs.memoProgram ∧ parsedMemoText ix = some memo)

/-- `verify_parsed_memo_instructions`, over the expected memos with their labels. -/
def verifyParsedMemoInstructions (instructions : List Json) :
    List (String × String) → List ℕ → Except VerificationError (List ℕ)
  | [], matched => .ok matched
  | (label, memo) :: rest, matched => do
      refuseIf (maxMemoBytes < memo.utf8ByteSize)
        (.invalidPayload s!"memo cannot exceed {maxMemoBytes} bytes")
      let matched ← takeFirst (inspectParsedMemo memo)
        (.invalidPayload s!"No memo instruction found for {label} memo \"{memo}\"")
        instructions matched
      verifyParsedMemoInstructions instructions rest matched

/-! ### The other instructions -/

/-- What the other parsed instructions of a payment are checked against. -/
structure ParsedAllowlist where
  mint : Option String
  allowedOwners : List String
  requiredOwners : List String
  tokenProgram : Option String
  ataPayer : Option String

section

variable (associatedTokenAddress : Pubkey → Pubkey → Pubkey → Pubkey)

/-- `validate_parsed_ata_creation_instruction`: the owner of the account created. -/
def validateParsedAtaCreationInstruction (allowlist : ParsedAllowlist) (ix : Json) :
    Except VerificationError String := do
  let expectedMint ← okOr allowlist.mint
    (.invalidPayload "ATA creation is not allowed for native SOL payments")
  let parsed ← okOr ((ix.get? "parsed").bind Json.asObject)
    (.invalidPayload "ATA creation instruction is missing parsed data")
  refuseIf (stringMember parsed "type" ≠ some "createIdempotent")
    (.invalidPayload "Only idempotent ATA creation is allowed")
  let info ← okOr ((parsed.lookup "info").bind Json.asObject)
    (.invalidPayload "ATA creation parsed instruction is missing info")
  let payer ← okOr (stringField info ["source", "payer"])
    (.invalidPayload "ATA creation parsed instruction is missing payer")
  let ata ← okOr (stringField info ["account", "associatedAccount", "associatedTokenAddress"])
    (.invalidPayload "ATA creation parsed instruction is missing account")
  let owner ← okOr (stringField info ["wallet", "owner"])
    (.invalidPayload "ATA creation parsed instruction is missing owner")
  let mint ← okOr (stringField info ["mint"])
    (.invalidPayload "ATA creation parsed instruction is missing mint")
  let tokenProgram ← okOr ((stringField info ["tokenProgram"]).or allowlist.tokenProgram)
    (.invalidPayload "ATA creation parsed instruction is missing token program")
  refuseIf (allowlist.ataPayer.any (payer ≠ ·))
    (.invalidPayload "ATA payer must match the transaction fee payer")
  refuseIf (mint ≠ expectedMint)
    (.invalidPayload "ATA creation mint does not match the charge currency")
  refuseIf (tokenProgram ≠ programs.tokenProgram ∧ tokenProgram ≠ programs.token2022Program)
    (.invalidPayload "ATA creation uses an unsupported token program")
  refuseIf (allowlist.tokenProgram.any (tokenProgram ≠ ·))
    (.invalidPayload "ATA creation token program does not match methodDetails.tokenProgram")
  refuseIf (¬verifyAtaOwner associatedTokenAddress ata owner mint tokenProgram)
    (.invalidPayload "ATA creation address does not match owner/mint/token program")
  refuseIf (owner ∉ allowlist.allowedOwners)
    (.invalidPayload "ATA creation owner is not authorized by the challenge")
  return owner

/-- One instruction of the allow-list: the owner of the token account it creates. -/
def validateParsedInstruction (matched : List ℕ) (allowlist : ParsedAllowlist) (index : ℕ)
    (ix : Json) : Except VerificationError (Option String) :=
  let program := parsedProgramId ix
  if program = some programs.computeBudgetProgram then .ok none
  else if program = some programs.memoProgram then do
    refuseIf (index ∉ matched)
      (.invalidPayload "Unexpected Memo Program instruction in payment transaction")
    return none
  else if program = some programs.systemProgram then do
    refuseIf (index ∉ matched)
      (.invalidPayload "Unexpected System Program instruction in payment transaction")
    return none
  else if program = some programs.tokenProgram ∨ program = some programs.token2022Program then do
    refuseIf (index ∉ matched)
      (.invalidPayload "Unexpected Token Program instruction in payment transaction")
    return none
  else if program = some programs.associatedTokenProgram then do
    let owner ← validateParsedAtaCreationInstruction associatedTokenAddress allowlist ix
    return some owner
  else
    .error (.invalidPayload
      ("Unexpected program instruction in payment transaction: " ++ program.getD "unknown"))

/-- The owners of the token accounts created, from the instruction at `index` on. -/
def validateParsedInstructions (matched : List ℕ) (allowlist : ParsedAllowlist) :
    ℕ → List Json → Except VerificationError (List String)
  | _, [] => .ok []
  | index, ix :: rest => do
      let owner ← validateParsedInstruction associatedTokenAddress matched allowlist index ix
      let owners ← validateParsedInstructions matched allowlist (index + 1) rest
      return owner.toList ++ owners

def validateParsedInstructionAllowlist (instructions : List Json) (matched : List ℕ)
    (allowlist : ParsedAllowlist) : Except VerificationError Unit := do
  let created ← validateParsedInstructions associatedTokenAddress matched allowlist 0 instructions
  match allowlist.requiredOwners.find? (· ∉ created) with
  | some owner => .error (.invalidPayload
      ("Missing required ATA creation instruction for split recipient " ++ owner))
  | none => .ok ()

end

/-! ### The whole verification -/

/-- `extract_parsed_instructions`: the instructions of the message and the inner
ones. -/
def extractParsedInstructions (transaction : Json) (txMeta : Option Json) : List Json :=
  let outer := ((transaction.get? "message").bind (·.get? "instructions")).bind Json.asArray
  let groups := (txMeta.bind (·.get? "innerInstructions")).bind Json.asArray
  outer.getD [] ++
    (groups.getD []).flatMap fun group =>
      ((group.get? "instructions").bind Json.asArray).getD []

section

variable (associatedTokenAddress : Pubkey → Pubkey → Pubkey → Pubkey)

/-- The checks of `verify_on_chain` on the rendered transaction, with the token
program the server resolved for its own currency. -/
def verifyParsedTransaction (resolvedTokenProgram : Option String) (transaction : Json)
    (txMeta : Option Json) (request : ChargeRequest) (details : MethodDetails) :
    Except VerificationError Unit := do
  let splits := details.splitList
  let amount ← primaryAmount request splits
  let recipient ← okOr request.recipient
    (.invalidRecipient "No recipient in charge request")
  let instructions := extractParsedInstructions transaction txMeta
  let ataPayer := if details.feeSponsored then details.feePayerKey else none
  let feePayer ←
    (match ataPayer with
    | none => .ok none
    | some text => (parseKey text fun error =>
        .invalidPayload s!"Invalid fee payer: {error}").map some)
  let _ ← parseKey recipient fun error => .invalidRecipient s!"Invalid recipient: {error}"
  let policy ← expectedAtaCreationPolicy splits feePayer
  let allowedOwners := policy.allowedOwners.map Pubkey.display
  let requiredOwners := policy.requiredOwners.map Pubkey.display
  let memos := expectedMemos request.externalId splits
  if isNativeSol request then
    refuseIf (splits.any (·.ataCreationRequired = some true))
      (.invalidPayload "ataCreationRequired requires an SPL token charge")
    let matched ← verifySolTransfers instructions recipient amount splits ataPayer
    let matched ← verifyParsedMemoInstructions instructions memos matched
    validateParsedInstructionAllowlist associatedTokenAddress instructions matched
      ⟨none, allowedOwners, requiredOwners, none, ataPayer⟩
  else
    let mint ← resolveExpectedMint request.currency details.network
    refuseIf (requiredOwners ≠ [] ∧ ¬(Pubkey.fromStr request.currency).isOk)
      (.invalidPayload "ataCreationRequired requires currency to be an SPL token mint address")
    let tokenProgram ← okOr (details.tokenProgram.or resolvedTokenProgram)
      (.invalidPayload
        "Missing tokenProgram and server has no resolved token program for this currency")
    let matched ← verifySplTransfers associatedTokenAddress instructions recipient mint.display
      amount splits (some tokenProgram) ataPayer
    let matched ← verifyParsedMemoInstructions instructions memos matched
    validateParsedInstructionAllowlist associatedTokenAddress instructions matched
      ⟨some mint.display, allowedOwners, requiredOwners, some tokenProgram, ataPayer⟩

end

end PayKit.Charge
