import PayKit.Login.Authenticate
import PayKit.Login.SignedText
import PayKit.Login.Siwx

/-!
# What a signed login message means

A payload is signed as a text, and nothing keeps line breaks out of the fields of the text. So a
request identifier or a resource may hold the fields of another payload, whose statement holds
those of the first one. Payloads without line breaks in the fields that are free have different
texts.
-/

namespace PayKit.Login

open Challenge Control Encoding Machine Solana Subscription X402

def Single (text : String) : Prop :=
  OneLine text.toList

instance : DecidablePred Single := fun text =>
  inferInstanceAs (Decidable (OneLine text.toList))

/-! ### The `authenticate` intent -/

def field (label value : String) : List Char :=
  label.toList ++ value.toList

/-- The canonical message of a payload by its fields. -/
def AuthenticatePayload.text (p : AuthenticatePayload) : SignedText where
  first := (p.domain ++ " wants you to authenticate with MPP:").toList
  address := p.address.toList
  statement := (filled p.statement).map String.toList
  required := [field "URI: " p.uri, field "Version: " p.version, field "Network: " p.network,
    field "Nonce: " p.nonce, field "Issued At: " p.issuedAt]
  expirationTime := (filled (some p.expirationTime)).map String.toList
  notBefore := (filled p.notBefore).map String.toList
  requestId := (filled p.requestId).map String.toList
  resources := p.resources.map String.toList

theorem toList_optionalLine (label : String) (value : Option String) :
    (optionalLine label value).toList =
      (labelled label.toList (value.map String.toList)).flatMap ('\n' :: ·) := by
  cases value with
  | none => rfl
  | some value => simp [optionalLine, labelled]

theorem toList_resourceLines (resources : List String) :
    (resourceLines resources).toList =
      (SignedText.resourceTexts (resources.map String.toList)).flatMap ('\n' :: ·) := by
  unfold resourceLines SignedText.resourceTexts
  by_cases hNone : resources = []
  · simp [hNone]
  · rw [if_neg hNone, if_neg (by simpa using hNone)]
    simp [String.toList_join, List.flatMap_map, Function.comp_def]

theorem toList_statementBlock (statement : Option String) :
    (statementBlock statement).toList =
      (((statement.map String.toList).map ([·, []])).getD []).flatMap ('\n' :: ·) := by
  cases statement with
  | none => rfl
  | some statement => simp [statementBlock]

theorem toList_formatCanonicalMessage (p : AuthenticatePayload) :
    (formatCanonicalMessage p).toList = p.text.chars := by
  have hBreak : "\n".toList = ['\n'] := rfl
  have hHeader : " wants you to authenticate with MPP:\n".toList =
      " wants you to authenticate with MPP:".toList ++ ['\n'] := by
    decide
  simp only [formatCanonicalMessage, String.toList_append, toList_optionalLine,
    toList_resourceLines, toList_statementBlock, hBreak, hHeader]
  simp only [AuthenticatePayload.text, SignedText.chars, SignedText.rest, SignedText.freeTexts,
    joined, field, String.toList_append, List.flatMap_append, List.flatMap_cons,
    List.append_assoc, List.cons_append, List.nil_append]
  rfl

/-- Every field other than the statement is on one line. -/
structure AuthenticatePayload.SingleLines (p : AuthenticatePayload) : Prop where
  domain : Single p.domain
  uri : Single p.uri
  version : Single p.version
  network : Single p.network
  issuedAt : Single p.issuedAt
  expirationTime : Single p.expirationTime
  notBefore : ∀ value ∈ p.notBefore, Single value
  requestId : ∀ value ∈ p.requestId, Single value
  resources : ∀ value ∈ p.resources, Single value

/-- The payload passes every check of `verify_at` on its fields, for some server. -/
def AuthenticatePayload.Passes (primitives : LoginPrimitives) (p : AuthenticatePayload) : Prop :=
  ∃ config server request nowSecs address,
    AuthenticateServer.new primitives config = .ok server ∧
      server.checkFields primitives request p nowSecs = .ok address

theorem oneLine_field {label value : String} (hLabel : OneLine label.toList)
    (hValue : Single value) : OneLine (field label value) :=
  SignedText.oneLine_append hLabel hValue

theorem field_injective (label : String) : Function.Injective (field label) :=
  fun _ _ hSame => String.toList_inj.mp (List.append_cancel_left hSame)

theorem field_ne_nil {label value : String} (hLabel : label.toList ≠ []) : field label value ≠ [] :=
  fun hNil => hLabel (List.append_eq_nil_iff.mp hNil).1

theorem single_of_fromStr {text : String} {key : Pubkey} (hKey : Pubkey.fromStr text = .ok key) :
    Single text := by
  intro hBreak
  unfold Pubkey.fromStr at hKey
  split at hKey
  · cases hKey
  · have hNone (chars : List Char) (hMem : '\n' ∈ chars) : chars.mapM base58Digit = none := by
      induction chars with
      | nil => cases hMem
      | cons char chars hInduction =>
          rw [List.mapM_cons]
          rcases List.mem_cons.mp hMem with rfl | hRest
          · rfl
          · rw [hInduction hRest]
            cases base58Digit char <;> rfl
    rw [hNone _ hBreak] at hKey
    cases hKey

theorem AuthenticatePayload.Passes.facts {primitives : LoginPrimitives} {p : AuthenticatePayload}
    (hPasses : p.Passes primitives) :
    Single p.nonce ∧ Single p.address ∧ p.expirationTime ≠ "" := by
  rcases hPasses with ⟨config, server, request, nowSecs, address, -, hChecks⟩
  simp only [AuthenticateServer.checkFields, bind_eq_ok, refuseIf_eq_ok, not_not] at hChecks
  rcases hChecks with ⟨_, -, _, -, _, hWindow, _, hNonce, hResources⟩
  refine ⟨?_, ?_, ?_⟩
  · intro hBreak
    rw [hNonce] at hBreak
    have hChar := mem_alphabet_of_mem_base64urlChars (by
      simpa [AuthenticateServer.computeNonce, base64urlEncode] using hBreak)
    revert hChar
    decide
  · simp only [AuthenticateServer.checkResources, bind_eq_ok, mapError_eq_ok] at hResources
    rcases hResources with ⟨key, hKey, -⟩
    exact single_of_fromStr hKey
  · simp only [AuthenticateServer.checkWindow, bind_eq_ok, mapError_eq_ok] at hWindow
    rcases hWindow with ⟨secs, hParsed, -⟩
    exact ne_empty_of_parsed hParsed

theorem filled_subset {text : Option String} {value : List Char}
    (hValue : value ∈ (filled text).map String.toList) : ∃ given ∈ text, given.toList = value := by
  rcases Option.mem_map.mp hValue with ⟨given, hGiven, rfl⟩
  exact ⟨given, (Option.filter_eq_some_iff.mp hGiven).1, rfl⟩

theorem AuthenticatePayload.wellFormed_text {p : AuthenticatePayload} (hLines : p.SingleLines)
    (hNonce : Single p.nonce) (hAddress : Single p.address) : p.text.WellFormed where
  first := by
    simp only [AuthenticatePayload.text, String.toList_append]
    exact SignedText.oneLine_append hLines.domain (by decide)
  address := hAddress
  required := by
    simp only [AuthenticatePayload.text, List.forall_mem_cons]
    exact ⟨⟨oneLine_field (by decide) hLines.uri, field_ne_nil (by decide)⟩,
      ⟨oneLine_field (by decide) hLines.version, field_ne_nil (by decide)⟩,
      ⟨oneLine_field (by decide) hLines.network, field_ne_nil (by decide)⟩,
      ⟨oneLine_field (by decide) hNonce, field_ne_nil (by decide)⟩,
      ⟨oneLine_field (by decide) hLines.issuedAt, field_ne_nil (by decide)⟩, by simp⟩
  several := by simp [AuthenticatePayload.text]
  expirationTime := by
    intro value hValue
    rcases filled_subset hValue with ⟨given, hGiven, rfl⟩
    rw [← Option.some.inj hGiven]
    exact hLines.expirationTime
  notBefore := by
    intro value hValue
    rcases filled_subset hValue with ⟨given, hGiven, rfl⟩
    exact hLines.notBefore given hGiven

theorem AuthenticatePayload.plainEnd_text {p : AuthenticatePayload} (hLines : p.SingleLines) :
    p.text.PlainEnd where
  requestId := by
    intro value hValue
    rcases filled_subset hValue with ⟨given, hGiven, rfl⟩
    exact hLines.requestId given hGiven
  resources := by
    intro value hValue
    rcases List.mem_map.mp hValue with ⟨given, hGiven, rfl⟩
    exact hLines.resources given hGiven

structure SameRequest (left right : AuthenticatePayload) : Prop where
  domain : left.domain = right.domain
  address : left.address = right.address
  uri : left.uri = right.uri
  version : left.version = right.version
  network : left.network = right.network
  nonce : left.nonce = right.nonce
  issuedAt : left.issuedAt = right.issuedAt
  expirationTime : left.expirationTime = right.expirationTime
  resources : ∀ resource, resource ∈ left.resources ↔ resource ∈ right.resources

theorem sameRequest_of_message {primitives : LoginPrimitives} {left right : AuthenticatePayload}
    (hLeft : left.Passes primitives) (hRight : right.Passes primitives)
    (hLeftLines : left.SingleLines) (hRightLines : right.SingleLines)
    (hSame : formatCanonicalMessage left = formatCanonicalMessage right) :
    SameRequest left right := by
  rcases hLeft.facts with ⟨hLeftNonce, hLeftAddress, hLeftExpires⟩
  rcases hRight.facts with ⟨hRightNonce, hRightAddress, hRightExpires⟩
  have hChars := congrArg String.toList hSame
  rw [toList_formatCanonicalMessage, toList_formatCanonicalMessage] at hChars
  rcases SignedText.resources_of_chars (left.wellFormed_text hLeftLines hLeftNonce hLeftAddress)
    (right.wellFormed_text hRightLines hRightNonce hRightAddress) rfl hChars
    (left.plainEnd_text hLeftLines) (right.plainEnd_text hRightLines) with ⟨hFields, hResources⟩
  have hRequired := hFields.required
  simp only [AuthenticatePayload.text, List.cons.injEq, and_true] at hRequired
  rcases hRequired with ⟨hUri, hVersion, hNetwork, hNonce, hIssuedAt⟩
  have hFirst := hFields.first
  simp only [AuthenticatePayload.text, String.toList_append,
    List.append_cancel_right_eq] at hFirst
  have hExpires := hFields.expirationTime
  simp only [AuthenticatePayload.text, filled, Option.filter_some, decide_eq_true_eq,
    if_pos hLeftExpires, if_pos hRightExpires, Option.map_some, Option.some.injEq] at hExpires
  have hSameResources : left.resources = right.resources :=
    List.map_injective_iff.mpr (fun _ _ => String.toList_inj.mp) hResources
  exact
    { domain := String.toList_inj.mp hFirst
      address := String.toList_inj.mp hFields.address
      uri := field_injective _ hUri
      version := field_injective _ hVersion
      network := field_injective _ hNetwork
      nonce := field_injective _ hNonce
      issuedAt := field_injective _ hIssuedAt
      expirationTime := String.toList_inj.mp hExpires
      resources := fun resource => by rw [hSameResources] }

/-! ### Sign-in messages -/

/-- The fields of a sign-in payload that come before its free text are on one line each. -/
structure SiwxPayload.SingleFields (payload : SiwxPayload) : Prop where
  address : Single payload.address
  uri : Single payload.uri
  version : Single payload.version
  chainId : Single payload.chainId
  nonce : Single payload.nonce
  issuedAt : Single payload.issuedAt
  expirationTime : ∀ value ∈ payload.expirationTime, Single value
  notBefore : ∀ value ∈ payload.notBefore, Single value

/-- The statement has no line break. -/
def SiwxPayload.SingleStatement (payload : SiwxPayload) : Prop :=
  ∀ value ∈ payload.statement, Single value

/-- The request identifier and the resources have no line break. -/
def SiwxPayload.SingleEnd (payload : SiwxPayload) : Prop :=
  (∀ value ∈ payload.requestId, Single value) ∧
    ∀ resources ∈ payload.resources, ∀ value ∈ resources, Single value

/-- The sign-in message of a payload by its fields. -/
def SiwxPayload.text (payload : SiwxPayload) (chainReference : String) : SignedText where
  first := (payload.domain ++ " wants you to sign in with your Solana account:").toList
  address := payload.address.toList
  statement := payload.statement.map String.toList
  required := [field "URI: " payload.uri, field "Version: " payload.version,
    field "Chain ID: " chainReference, field "Nonce: " payload.nonce,
    field "Issued At: " payload.issuedAt]
  expirationTime := payload.expirationTime.map String.toList
  notBefore := payload.notBefore.map String.toList
  requestId := payload.requestId.map String.toList
  resources := (payload.resources.getD []).map String.toList

theorem map_fieldLine (label : String) (value : Option String) :
    (fieldLine label value).map String.toList =
      labelled label.toList (value.map String.toList) := by
  cases value with
  | none => rfl
  | some value => simp [fieldLine, labelled]

theorem map_siwsResourceLines (resources : Option (List String)) :
    (siwsResourceLines resources).map String.toList =
      SignedText.resourceTexts ((resources.getD []).map String.toList) := by
  cases resources with
  | none => rfl
  | some resources =>
      simp only [siwsResourceLines, SignedText.resourceTexts, Option.getD_some, List.map_eq_nil_iff]
      split
      · rfl
      · simp [Function.comp_def]

theorem map_siwsStatementLines (statement : Option String) :
    (siwsStatementLines statement).map String.toList =
      ((statement.map String.toList).map ([·, []])).getD [] := by
  cases statement <;> rfl

theorem formatSiwsMessage_of_reference {payload : SiwxPayload} {reference : String}
    (hReference : extractSolanaChainReference payload.chainId = .ok reference) :
    ∃ message, formatSiwsMessage payload = .ok message ∧
      message.toList = (payload.text reference).chars := by
  refine ⟨_, by rw [formatSiwsMessage, hReference]; rfl, ?_⟩
  rw [String.toList_intercalate, show "\n".toList = ['\n'] from rfl, List.map_cons,
    intercalate_eq_joined]
  simp only [siwsLines, List.map_append, map_fieldLine, map_siwsResourceLines,
    map_siwsStatementLines]
  simp only [SiwxPayload.text, SignedText.chars, SignedText.rest, SignedText.freeTexts, field,
    List.map_cons, List.map_nil, String.toList_append, List.append_assoc]
  rfl

theorem reference_of_compatible {payload : SiwxPayload}
    (hCompatible : isCompatibleSolanaPayload payload = true) :
    ∃ reference, extractSolanaChainReference payload.chainId = .ok reference ∧
      payload.chainId.toList = solanaChainPrefix.toList ++ reference.toList := by
  simp only [isCompatibleSolanaPayload, decide_eq_true_eq] at hCompatible
  rcases hCompatible with ⟨⟨rest, hRest⟩, -⟩
  refine ⟨String.ofList rest, ?_, ?_⟩
  · simp [extractSolanaChainReference, stripPrefix, ← hRest, okOr]
  · rw [← hRest, String.toList_ofList]

def HostsAreLines (parseUrl : String → Except String Url) : Prop :=
  ∀ text url, parseUrl text = .ok url → ∀ host ∈ url.host, Single host

theorem single_domain {parseUrl : String → Except String Url} {payload : SiwxPayload}
    (hHosts : HostsAreLines parseUrl) (hPasses : payload.Passes parseUrl) :
    Single payload.domain := by
  rcases hPasses with ⟨-, uri, options, hValid⟩
  simp only [validateSiwxMessage, bind_eq_ok, mapError_eq_ok, refuseIf_eq_ok, not_not] at hValid
  rcases hValid with ⟨url, hUrl, _, -, _, hDomain, -⟩
  rw [hDomain]
  cases hHost : url.host with
  | none => decide
  | some host => exact hHosts uri url hUrl host hHost

theorem SiwxPayload.wellFormed_text {payload : SiwxPayload} {reference : String}
    (hDomain : Single payload.domain) (hReference : Single reference)
    (hFields : payload.SingleFields) : (payload.text reference).WellFormed where
  first := by
    simp only [SiwxPayload.text, String.toList_append]
    exact SignedText.oneLine_append hDomain (by decide)
  address := hFields.address
  required := by
    simp only [SiwxPayload.text, List.forall_mem_cons]
    exact ⟨⟨oneLine_field (by decide) hFields.uri, field_ne_nil (by decide)⟩,
      ⟨oneLine_field (by decide) hFields.version, field_ne_nil (by decide)⟩,
      ⟨oneLine_field (by decide) hReference, field_ne_nil (by decide)⟩,
      ⟨oneLine_field (by decide) hFields.nonce, field_ne_nil (by decide)⟩,
      ⟨oneLine_field (by decide) hFields.issuedAt, field_ne_nil (by decide)⟩, by simp⟩
  several := by simp [SiwxPayload.text]
  expirationTime := by
    intro value hValue
    rcases Option.mem_map.mp hValue with ⟨given, hGiven, rfl⟩
    exact hFields.expirationTime given hGiven
  notBefore := by
    intro value hValue
    rcases Option.mem_map.mp hValue with ⟨given, hGiven, rfl⟩
    exact hFields.notBefore given hGiven

theorem SiwxPayload.plainStatement_text {payload : SiwxPayload} {reference : String}
    (hStatement : payload.SingleStatement) : (payload.text reference).PlainStatement := by
  intro value hValue
  rcases Option.mem_map.mp hValue with ⟨given, hGiven, rfl⟩
  exact hStatement given hGiven

theorem SiwxPayload.plainEnd_text {payload : SiwxPayload} {reference : String}
    (hEnd : payload.SingleEnd) : (payload.text reference).PlainEnd where
  requestId := by
    intro value hValue
    rcases Option.mem_map.mp hValue with ⟨given, hGiven, rfl⟩
    exact hEnd.1 given hGiven
  resources := by
    intro value hValue
    rcases List.mem_map.mp hValue with ⟨given, hGiven, rfl⟩
    cases hResources : payload.resources with
    | none => simp [hResources] at hGiven
    | some resources =>
        rw [hResources, Option.getD_some] at hGiven
        exact hEnd.2 resources hResources given hGiven

/-- Two sign-in payloads ask for the same. -/
structure SameSignIn (left right : SiwxPayload) : Prop where
  domain : left.domain = right.domain
  address : left.address = right.address
  uri : left.uri = right.uri
  chainId : left.chainId = right.chainId
  nonce : left.nonce = right.nonce
  issuedAt : left.issuedAt = right.issuedAt
  expirationTime : left.expirationTime = right.expirationTime
  notBefore : left.notBefore = right.notBefore

theorem sameSignIn_of_message {parseUrl : String → Except String Url} {left right : SiwxPayload}
    (hHosts : HostsAreLines parseUrl) (hLeft : left.Passes parseUrl)
    (hRight : right.Passes parseUrl) (hLeftFields : left.SingleFields)
    (hRightFields : right.SingleFields) (hLeftApart : left.SingleStatement ∨ right.SingleEnd)
    (hRightApart : right.SingleStatement ∨ left.SingleEnd)
    (hSame : formatSiwsMessage left = formatSiwsMessage right) : SameSignIn left right := by
  rcases reference_of_compatible hLeft.1 with ⟨leftReference, hLeftReference, hLeftChain⟩
  rcases reference_of_compatible hRight.1 with ⟨rightReference, hRightReference, hRightChain⟩
  rcases formatSiwsMessage_of_reference hLeftReference with ⟨message, hMessage, hLeftChars⟩
  rcases formatSiwsMessage_of_reference hRightReference with ⟨other, hOther, hRightChars⟩
  obtain rfl : message = other := Except.ok.inj (hMessage.symm.trans (hSame.trans hOther))
  have hLeftSingle : Single leftReference := fun hBreak =>
    hLeftFields.chainId (hLeftChain ▸ List.mem_append_right _ hBreak)
  have hRightSingle : Single rightReference := fun hBreak =>
    hRightFields.chainId (hRightChain ▸ List.mem_append_right _ hBreak)
  rcases SignedText.sameFields_of_chars
    (SiwxPayload.wellFormed_text (single_domain hHosts hLeft) hLeftSingle hLeftFields)
    (SiwxPayload.wellFormed_text (single_domain hHosts hRight) hRightSingle hRightFields) rfl
    (hLeftChars.symm.trans hRightChars)
    (hLeftApart.imp SiwxPayload.plainStatement_text SiwxPayload.plainEnd_text)
    (hRightApart.imp SiwxPayload.plainStatement_text SiwxPayload.plainEnd_text) with
    ⟨hFields, -⟩
  have hRequired := hFields.required
  simp only [SiwxPayload.text, List.cons.injEq, and_true] at hRequired
  rcases hRequired with ⟨hUri, -, hChain, hNonce, hIssuedAt⟩
  have hFirst := hFields.first
  simp only [SiwxPayload.text, String.toList_append, List.append_cancel_right_eq] at hFirst
  have hTexts : Function.Injective (Option.map String.toList) :=
    Option.map_injective fun _ _ => String.toList_inj.mp
  have hReference := field_injective _ hChain
  exact
    { domain := String.toList_inj.mp hFirst
      address := String.toList_inj.mp hFields.address
      uri := field_injective _ hUri
      chainId := String.toList_inj.mp (by rw [hLeftChain, hRightChain, hReference])
      nonce := field_injective _ hNonce
      issuedAt := field_injective _ hIssuedAt
      expirationTime := hTexts hFields.expirationTime
      notBefore := hTexts hFields.notBefore }

/-! ### One meaning -/

/-- Messages of payloads that keep line breaks out of their fields have one meaning. -/
theorem one_meaning_of_lines (primitives : LoginPrimitives)
    (parseUrl : String → Except String Url) (hHosts : HostsAreLines parseUrl) :
    (∀ left right : AuthenticatePayload, left.Passes primitives → right.Passes primitives →
      left.SingleLines → right.SingleLines →
        formatCanonicalMessage left = formatCanonicalMessage right → SameRequest left right) ∧
      ∀ left right : SiwxPayload, left.Passes parseUrl → right.Passes parseUrl →
        left.SingleFields → right.SingleFields →
          (left.SingleStatement ∨ right.SingleEnd) → (right.SingleStatement ∨ left.SingleEnd) →
            formatSiwsMessage left = formatSiwsMessage right → SameSignIn left right :=
  ⟨fun _ _ => sameRequest_of_message, fun _ _ => sameSignIn_of_message hHosts⟩

/-! Two servers of one operator that share a secret, a realm and a plan. -/

/-- The authentication code and the address are those of the challenge and the signer below. -/
def sharedPrimitives : LoginPrimitives where
  hmac _ _ := [236, 162, 183, 203, 162, 24, 70, 51, 253, 148, 202, 2, 183, 135, 236, 176, 32, 20,
    139, 195, 75, 35, 4, 76, 25, 201, 38, 131, 80, 65, 6, 144]
  findProgramAddress _ _ := ⟨[141, 237, 18, 110, 87, 153, 207, 61, 96, 191, 101, 55, 137, 111, 3,
    8, 42, 152, 94, 245, 133, 16, 156, 134, 190, 18, 69, 140, 152, 23, 241, 44], rfl⟩
  parseRfc3339 text := .error text
  decodeRequest text := .error text
  verifySignature _ _ _ := .ok ()

def sharedConfig (path : String) : AuthenticateConfig where
  domain := "api.example.com"
  uri := "https://api.example.com/" ++ path
  planId := "Amp9FrnEX17tVeZ7QnHX1Hh4TynhH4sXLRSde797vdKR"
  planCreatedAt := 1780000000
  periodHours := 720
  network := "mainnet"
  programId := none
  challengeBindingSecret := "test-secret"
  realm := "api.example.com"
  subscriptionExpires := none
  statement := none

def sharedServer (path : String) : AuthenticateServer where
  config := sharedConfig path
  programId := subscriptionsProgramId
  challengeBindingSecret := "test-secret"
  realm := "api.example.com"
  subscriptionExpiresSecs := none

/-- The fields of a message for one path, up to its request identifier. -/
def sharedFields (path : String) : String :=
  "URI: https://api.example.com/" ++ path ++ "\nVersion: 1\nNetwork: mainnet\n" ++
    "Nonce: 7KK3y6IYRjM\nIssued At: 2026-05-29T22:25:22Z\nExpiration Time: 2026-06-27T20:26:40Z"

/-- A login for one path, with a statement and a request identifier. -/
def sharedLogin (path : String) (statement requestId : Option String) : AuthenticatePayload where
  domain := "api.example.com"
  uri := "https://api.example.com/" ++ path
  address := "GmaDrppBC7P5ARKV8g3djiwP89vz1jLK23V2GBjuAEGB"
  version := "1"
  network := "mainnet"
  nonce := "7KK3y6IYRjM"
  issuedAt := "2026-05-29T22:25:22Z"
  expirationTime := "2026-06-27T20:26:40Z"
  notBefore := none
  statement
  requestId
  resources := ["solana-subscription:AZ29stm3ZEAwxHaSyhwJrj1y9UyiR34uDqTnnYKhUQSF"]
  signatureType := signatureTypeEd25519
  signatureScheme := none
  signature := ""

def loginNow : ℤ := 1780093522

def loginSigner : Pubkey :=
  ⟨[234, 74, 108, 99, 226, 156, 82, 10, 190, 245, 80, 123, 19, 46, 197, 249, 149, 71, 118, 174, 190,
    190, 123, 146, 66, 30, 234, 105, 20, 70, 210, 44], rfl⟩

/-- The request that a server issues at the time of the logins. -/
def sharedRequest (path : String) : AuthenticateRequest where
  domain := "api.example.com"
  uri := "https://api.example.com/" ++ path
  version := siwmppVersion
  nonce := "7KK3y6IYRjM"
  issuedAt := "2026-05-29T22:25:22Z"
  expirationTime := "2026-06-27T20:26:40Z"
  notBefore := none
  statement := none
  requestId := none
  resources := []

/-- A login for one path that carries the fields of the other one in its statement. -/
def loginWithStatement : AuthenticatePayload :=
  sharedLogin "v1" (some (sharedFields "admin" ++ "\nRequest ID: 1")) none

/-- A login for the other path that carries the fields of the first one in its identifier. -/
def loginWithIdentifier : AuthenticatePayload :=
  sharedLogin "admin" none (some ("1\n\n" ++ sharedFields "v1"))

/-- A sign-in for one resource, with a statement and a request identifier. -/
def sharedSignIn (path nonce : String) (statement requestId : Option String) : SiwxPayload where
  domain := "api.example.com"
  address := "GmaDrppBC7P5ARKV8g3djiwP89vz1jLK23V2GBjuAEGB"
  uri := "https://api.example.com/" ++ path
  statement
  version := "1"
  chainId := "solana:5eykt4UsFv8P8NJdTREpY1vzqKqZKvdp"
  nonce
  issuedAt := "2026-04-27T00:00:00Z"
  expirationTime := none
  notBefore := none
  requestId
  resources := none
  signatureType := siwxSignatureTypeEd25519
  signatureScheme := none
  signature := ""

def signInFields (path nonce : String) : String :=
  "URI: https://api.example.com/" ++ path ++
    "\nVersion: 1\nChain ID: 5eykt4UsFv8P8NJdTREpY1vzqKqZKvdp\nNonce: " ++ nonce ++
      "\nIssued At: 2026-04-27T00:00:00Z"

def signInWithStatement : SiwxPayload :=
  sharedSignIn "v1" "n-1" (some (signInFields "admin" "n-2" ++ "\nRequest ID: 1")) none

def signInWithIdentifier : SiwxPayload :=
  sharedSignIn "admin" "n-2" none (some ("1\n\n" ++ signInFields "v1" "n-1"))

/-- The parts of a URL of the host below. -/
def parseSharedUrl (_ : String) : Except String Url :=
  .ok ⟨some "api.example.com", "https://api.example.com"⟩

def signInOptions (nonce : String) : SiwxMessageValidationOptions :=
  ⟨1777248000000000000, 300000000000, some nonce⟩

theorem hostsAreLines_parseSharedUrl : HostsAreLines parseSharedUrl := by
  rintro text url ⟨⟩ host ⟨⟩
  decide

theorem sharedLogin_passes {path : String} (hPath : path = "v1" ∨ path = "admin")
    (statement requestId : Option String) :
    (sharedLogin path statement requestId).Passes sharedPrimitives := by
  refine ⟨sharedConfig path, sharedServer path, sharedRequest path, loginNow, loginSigner, ?_, ?_⟩
  · rcases hPath with rfl | rfl <;> decide
  · have hPlain : (sharedServer path).checkFields sharedPrimitives (sharedRequest path)
        (sharedLogin path none none) loginNow = .ok loginSigner := by
      rcases hPath with rfl | rfl <;> decide
    exact hPlain

theorem sharedSignIn_passes {path nonce : String} (hPath : path = "v1" ∨ path = "admin")
    (hNonce : nonce = "n-1" ∨ nonce = "n-2") (statement requestId : Option String) :
    (sharedSignIn path nonce statement requestId).Passes parseSharedUrl := by
  have hCompatible :
      isCompatibleSolanaPayload (sharedSignIn "v1" "n-1" none none) = true := by decide
  refine ⟨hCompatible, "https://api.example.com/" ++ path, signInOptions nonce, ?_⟩
  have hPlain : validateSiwxMessage parseSharedUrl (sharedSignIn path nonce none none)
      ("https://api.example.com/" ++ path) (signInOptions nonce) = .ok () := by
    rcases hPath with rfl | rfl <;> rcases hNonce with rfl | rfl <;> decide
  exact hPlain

/-- Two logins at different resources are one signed message, and so are two sign-ins. -/
theorem one_message_for_two_requests :
    (loginWithStatement.Passes sharedPrimitives ∧ loginWithIdentifier.Passes sharedPrimitives ∧
      formatCanonicalMessage loginWithStatement = formatCanonicalMessage loginWithIdentifier ∧
        loginWithStatement.uri ≠ loginWithIdentifier.uri) ∧
      signInWithStatement.Passes parseSharedUrl ∧ signInWithIdentifier.Passes parseSharedUrl ∧
        formatSiwsMessage signInWithStatement = formatSiwsMessage signInWithIdentifier ∧
          signInWithStatement.uri ≠ signInWithIdentifier.uri ∧
            signInWithStatement.nonce ≠ signInWithIdentifier.nonce :=
  ⟨⟨sharedLogin_passes (.inl rfl) _ _, sharedLogin_passes (.inr rfl) _ _, by decide +kernel,
      by decide⟩,
    sharedSignIn_passes (.inl rfl) (.inl rfl) _ _, sharedSignIn_passes (.inr rfl) (.inr rfl) _ _,
    by decide +kernel, by decide +kernel, by decide +kernel⟩

/-- The plain logins at the two resources are different messages. -/
theorem one_meaning_of_lines_of_twoPaths :
    formatCanonicalMessage (sharedLogin "v1" none none) ≠
        formatCanonicalMessage (sharedLogin "admin" none none) ∧
      formatSiwsMessage (sharedSignIn "v1" "n-1" none none) ≠
        formatSiwsMessage (sharedSignIn "admin" "n-2" none none) := by
  have hMeaning := one_meaning_of_lines sharedPrimitives parseSharedUrl
    hostsAreLines_parseSharedUrl
  have hUri : "https://api.example.com/v1" ≠ "https://api.example.com/admin" := by decide
  constructor
  · intro hSame
    refine hUri (hMeaning.1 _ _ (sharedLogin_passes (.inl rfl) none none)
      (sharedLogin_passes (.inr rfl) none none) ?_ ?_ hSame).uri
    · constructor <;> decide
    · constructor <;> decide
  · intro hSame
    refine hUri (hMeaning.2 _ _ (sharedSignIn_passes (.inl rfl) (.inl rfl) none none)
      (sharedSignIn_passes (.inr rfl) (.inr rfl) none none) ?_ ?_ (.inl nofun) (.inl nofun)
      hSame).uri
    · constructor <;> decide
    · constructor <;> decide

end PayKit.Login
