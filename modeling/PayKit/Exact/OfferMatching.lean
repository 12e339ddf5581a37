import PayKit.X402.RouteRequirements

/-!
# Matching the offer that a credential accepts

`find_matching_requirement` of `x402/server/exact.rs` looks for the requirement of a route whose
offer a credential carries, and `verify_envelope_payload` compares the two once more. Both
compare JSON. The hints for a transaction's blockhash are taken out of both sides, and three keys
of `extra` are taken out of the route's side where the credential leaves them out.
-/

namespace PayKit.Exact

open Control Encoding X402
open Json (Value Map)

/-! ### The comparison -/

def blockhashHints : List String := ["recentBlockhash", "lastValidBlockHeight"]

def nonSpecExtraHints : List String := ["decimals", "tokenProgram", "transactionVersions"]

def stripBlockhashHints (value : Value) : Value :=
  match value.asMap with
  | some object => .ofMap ((object.remove "recentBlockhash").update "extra"
      (·.removeAll blockhashHints))
  | none => value

/-- The keys that a credential does not carry in its `extra`. -/
def notEchoed (echoed : Option Map) : List String :=
  nonSpecExtraHints.filter fun key => ¬echoed.any fun echoed => (echoed.get? key).isSome

def dropHintsNotEchoed (route accepted : Value) : Value :=
  let echoed := (memberOf accepted "extra").bind Value.asMap
  match route.asMap with
  | some object => .ofMap (object.update "extra" (·.removeAll (notEchoed echoed)))
  | none => route

/-- The offer of a requirement is the accepted one, whose hints are already taken out. -/
def matchesOffer (requirement : PaymentRequirements) (acceptedJson : Value) : Bool :=
  Json.same
    (dropHintsNotEchoed (stripBlockhashHints requirement.toAcceptedValue) acceptedJson).1
    acceptedJson.1

/-! ### The server -/

/-- `PaymentSignatureEnvelope`, as far as the matching reads it. -/
structure PaymentSignatureEnvelope where
  x402Version : ℕ
  accepted : Option Value

def x402VersionV1 : ℕ := 1
def x402VersionV2 : ℕ := 2

/-- `find_matching_requirement` for an envelope of the second version. -/
def findMatchingOffer (available : List PaymentRequirements) (accepted : Option Value) :
    Except Error PaymentRequirements := do
  let accepted ← okOr accepted (.invalidPaymentRequired "v2 envelope missing accepted")
  let acceptedRequirements ← (PaymentRequirements.ofValue accepted).mapError
    Error.invalidPaymentRequired
  let acceptedJson := stripBlockhashHints acceptedRequirements.toAcceptedValue
  okOr (available.find? (matchesOffer · acceptedJson)) .acceptedMismatch

def findMatchingRequirement (available : List PaymentRequirements)
    (envelope : PaymentSignatureEnvelope) : Except Error PaymentRequirements :=
  if envelope.x402Version = x402VersionV2 then findMatchingOffer available envelope.accepted
  else if envelope.x402Version = x402VersionV1 then
    okOr available.head? (.other "at least one payment option is required")
  else .error (.invalidPaymentRequired
    ("Unsupported x402 version: " ++ envelope.x402Version.repr))

/-- The comparison of `verify_envelope_payload`. -/
def checkAccepted (requirements : PaymentRequirements) (accepted : Value) :
    Except Error Unit := do
  let acceptedRequirements ← (PaymentRequirements.ofValue accepted).mapError
    Error.invalidPaymentRequired
  refuseIf (acceptedRequirements.network ≠ requirements.network)
    (.other ("Network mismatch: expected " ++ requirements.network ++ ", got " ++
      acceptedRequirements.network) : Error)
  refuseIf (acceptedRequirements.amount ≠ requirements.amount)
    (.other ("Amount mismatch: expected " ++ requirements.amount ++ ", got " ++
      acceptedRequirements.amount) : Error)
  refuseIf (acceptedRequirements.recipient ≠ requirements.recipient)
    (.other "Recipient mismatch: credential claims a different recipient" : Error)
  refuseIf (acceptedRequirements.currency ≠ requirements.currency)
    (.other ("Currency mismatch: expected " ++ requirements.currency ++ ", got " ++
      acceptedRequirements.currency) : Error)
  refuseIf (matchesOffer requirements
      (stripBlockhashHints acceptedRequirements.toAcceptedValue) = false)
    (.other ("Credential's accepted requirements do not structurally match this route's " ++
      "expected requirements") : Error)

/-! ### What a match binds -/

/-- The members of the `extra` of an offer, which has none when it is not an object. -/
def extraOf (accepted : Value) : Map :=
  ((memberOf accepted "extra").bind Value.asMap).getD Map.empty

/-- An accepted offer has the terms of a requirement. -/
structure BindsTerms (accepted : Value) (parsed requirements : PaymentRequirements) : Prop where
  network : parsed.network = requirements.network
  amount : parsed.amount = requirements.amount
  asset : parsed.currency = requirements.currency
  payTo : parsed.recipient = requirements.recipient
  maxTimeoutSeconds : parsed.maxAge.getD defaultMaxTimeoutSeconds =
    requirements.maxAge.getD defaultMaxTimeoutSeconds
  extra : ∀ key ∉ blockhashHints,
    (extraOf accepted).get? key = requirements.canonicalExtraValue.get? key ∨
      (key ∈ nonSpecExtraHints ∧ (extraOf accepted).get? key = none)

/-! ### What a client does to an offer -/

/-- The hints that a client adds to an offer, and the keys that it leaves out of its `extra`. -/
structure OfferEdit where
  topBlockhash : Option Value
  recentBlockhash : Option Value
  lastValidBlockHeight : Option Value
  omitted : List String
  hOmitted : ∀ key ∈ omitted, key ∈ nonSpecExtraHints

def insertHint (map : Map) (key : String) (hint : Option Value) : Map :=
  match hint with
  | some hint => map.insert key hint
  | none => map

namespace OfferEdit

variable (edit : OfferEdit)

def extra (extra : Map) : Map :=
  insertHint (insertHint (extra.removeAll edit.omitted) "recentBlockhash" edit.recentBlockhash)
    "lastValidBlockHeight" edit.lastValidBlockHeight

def offer (offer : Map) : Map :=
  insertHint (offer.update "extra" edit.extra) "recentBlockhash" edit.topBlockhash

end OfferEdit

/-- Two requirements differ at most in hints and in what an edited offer leaves out. -/
structure AgreeOnOffer (offer : Value) (requirements matched : PaymentRequirements) : Prop where
  network : matched.network = requirements.network
  amount : matched.amount = requirements.amount
  asset : matched.currency = requirements.currency
  payTo : matched.recipient = requirements.recipient
  maxTimeoutSeconds : matched.maxAge.getD defaultMaxTimeoutSeconds =
    requirements.maxAge.getD defaultMaxTimeoutSeconds
  extra : ∀ key ∉ blockhashHints, (key ∈ nonSpecExtraHints → (extraOf offer).get? key ≠ none) →
    matched.canonicalExtraValue.get? key = requirements.canonicalExtraValue.get? key

section

variable {requirements parsed matched : PaymentRequirements} {accepted value : Value}
  {available : List PaymentRequirements} {edit : OfferEdit} {object map : Map}
  {key : String} {found : Option Value}

/-! ### Reading an offer -/

/-- A requirement that is read from an object. -/
structure ReadFrom (object : Map) (parsed : PaymentRequirements) : Prop where
  network : (stringField object "network").map normalizeNetworkIdentifier = some parsed.network
  amount : parsed.amount =
    ((stringField object "amount").or (stringField object "maxAmountRequired")).getD ""
  currency : parsed.currency = (stringField object "asset").getD "SOL"
  recipient : parsed.recipient = (stringField object "payTo").getD ""
  maxAge : parsed.maxAge = (u64Field object "maxTimeoutSeconds").or (u64Field object "maxAge")
  extra : parsed.extra = object.get? "extra"
  feePayerKey : parsed.feePayerKey = (object.inner "extra").bind (stringField · "feePayer")
  recentBlockhash : parsed.recentBlockhash =
    (object.inner "extra").bind (stringField · "recentBlockhash")
  tokenProgram : parsed.tokenProgram = (object.inner "extra").bind (stringField · "tokenProgram")
  decimals : parsed.decimals = (object.inner "extra").bind (u8Field · "decimals")
  versions : ((object.inner "extra").bind (·.get? "transactionVersions")).mapM
    buildableTransactionVersions = .ok parsed.transactionVersions
  accepted : parsed.accepted = keptOffer object

theorem ofValue_eq_ok (hParsed : PaymentRequirements.ofValue value = .ok parsed) :
    ∃ object, value = .ofMap object ∧ ReadFrom object parsed := by
  simp only [PaymentRequirements.ofValue, bind_eq_ok, okOr_eq_ok] at hParsed
  rcases hParsed with ⟨object, hObject, rawNetwork, hNetwork, versions, hVersions, hReturned⟩
  cases hReturned
  refine ⟨object, Value.asMap_eq_some.mp hObject, ?_, rfl, rfl, rfl, rfl, rfl, rfl, rfl, rfl, rfl,
    hVersions, rfl⟩
  rw [hNetwork]
  rfl

theorem orInsert_of_present (hPresent : found.isSome → (map.get? key).isSome) :
    orInsert map key found = map := by
  cases found with
  | none => rfl
  | some value => exact if_pos (hPresent rfl)

theorem isSome_of_stringField {name : String} (hField : (stringField map name).isSome) :
    (map.get? name).isSome :=
  Option.isSome_of_isSome_bind hField

theorem isSome_of_u8Field {name : String} (hField : (u8Field map name).isSome) :
    (map.get? name).isSome := by
  cases hValue : map.get? name with
  | some value => rfl
  | none => simp [u8Field, u64Field, hValue] at hField

theorem canonicalExtraValue_of_read (hRead : ReadFrom object parsed) :
    parsed.canonicalExtraValue = (object.inner "extra").getD Map.empty := by
  have hBase : parsed.extra.bind Value.asMap = object.inner "extra" := by
    rw [hRead.extra]
    rfl
  have hVersions := hRead.versions
  simp only [PaymentRequirements.canonicalExtraValue, hBase, hRead.feePayerKey,
    hRead.recentBlockhash, hRead.tokenProgram, hRead.decimals]
  cases hExtra : object.inner "extra" with
  | none =>
      rw [hExtra] at hVersions
      have hNone : parsed.transactionVersions = none := (Except.ok.inj hVersions).symm
      rw [hNone]
      rfl
  | some extra =>
      rw [hExtra] at hVersions
      have hText : ∀ name, orInsert extra name ((stringField extra name).map Value.ofText) =
          extra := by
        intro name
        apply orInsert_of_present
        rw [Option.isSome_map]
        exact isSome_of_stringField
      have hDecimals : orInsert extra "decimals"
          ((u8Field extra "decimals").map fun decimals => ofU64 decimals.toNat) = extra := by
        apply orInsert_of_present
        rw [Option.isSome_map]
        exact isSome_of_u8Field
      have hTransactionVersions : orInsert extra "transactionVersions"
          (parsed.transactionVersions.map ofVersions) = extra := by
        apply orInsert_of_present
        rw [Option.isSome_map]
        intro hSome
        cases hFound : extra.get? "transactionVersions" with
        | some value => rfl
        | none =>
            rw [Option.bind_some, hFound] at hVersions
            rw [(Except.ok.inj hVersions).symm] at hSome
            simp at hSome
      simp only [Option.bind_some, Option.getD_some]
      rw [hText, hText, hText, hDecimals, hTransactionVersions]

theorem ofU64_injective : Function.Injective ofU64 := by
  intro left right hSame
  exact Json.unsigned.inj (congrArg Subtype.val hSame)

/-- The members of an offer that is written from the fields of a requirement. -/
structure CanonicalMembers (requirements : PaymentRequirements) (map : Map) : Prop where
  scheme : map.get? "scheme" = some (.ofText exactScheme)
  network : map.get? "network" = some (.ofText requirements.network)
  amount : map.get? "amount" = some (.ofText requirements.amount)
  asset : map.get? "asset" = some (.ofText requirements.currency)
  payTo : map.get? "payTo" = some (.ofText requirements.recipient)
  maxTimeoutSeconds : map.get? "maxTimeoutSeconds" =
    some (ofU64 (requirements.maxAge.getD defaultMaxTimeoutSeconds))
  extra : map.inner "extra" = some requirements.canonicalExtraValue

theorem canonicalMembers_canonicalOffer (requirements : PaymentRequirements) :
    CanonicalMembers requirements requirements.canonicalOffer := by
  unfold PaymentRequirements.canonicalOffer
  constructor
  all_goals simp [Map.inner, exactScheme]

/-- The object that a parsed requirement is written as has the terms that were read. -/
structure WrittenAs (object map : Map) (parsed : PaymentRequirements) : Prop where
  network : ∀ network, map.get? "network" = some (.ofText network) →
    normalizeNetworkIdentifier network = network → parsed.network = network
  amount : ∀ amount, map.get? "amount" = some (.ofText amount) → parsed.amount = amount
  asset : ∀ asset, map.get? "asset" = some (.ofText asset) → parsed.currency = asset
  payTo : ∀ payTo, map.get? "payTo" = some (.ofText payTo) → parsed.recipient = payTo
  maxTimeoutSeconds : ∀ seconds, map.get? "maxTimeoutSeconds" = some (ofU64 seconds) →
    parsed.maxAge.getD defaultMaxTimeoutSeconds = seconds
  extra : ∀ extra, map.inner "extra" = some extra →
    (object.inner "extra").getD Map.empty = extra

theorem writtenAs_read (hRead : ReadFrom object parsed) : WrittenAs object object parsed := by
  have hText : ∀ {name text}, object.get? name = some (.ofText text) →
      stringField object name = some text := by
    intro name text hFound
    rw [stringField, hFound]
    rfl
  constructor
  · intro network hNetwork hNormalized
    have hRaw := hRead.network
    rw [hText hNetwork, Option.map_some, hNormalized] at hRaw
    exact (Option.some.inj hRaw).symm
  · intro amount hAmount
    rw [hRead.amount, hText hAmount]
    rfl
  · intro asset hAsset
    rw [hRead.currency, hText hAsset]
    rfl
  · intro payTo hPayTo
    rw [hRead.recipient, hText hPayTo]
    rfl
  · intro seconds hSeconds
    rw [hRead.maxAge, u64Field, hSeconds]
    rfl
  · intro extra hExtra
    rw [hExtra]
    rfl

theorem writtenAs_canonicalOffer (hRead : ReadFrom object parsed) :
    WrittenAs object parsed.canonicalOffer parsed := by
  have hMembers := canonicalMembers_canonicalOffer parsed
  constructor
  · intro network hNetwork _
    exact Value.ofText_injective (Option.some.inj (hMembers.network.symm.trans hNetwork))
  · intro amount hAmount
    exact Value.ofText_injective (Option.some.inj (hMembers.amount.symm.trans hAmount))
  · intro asset hAsset
    exact Value.ofText_injective (Option.some.inj (hMembers.asset.symm.trans hAsset))
  · intro payTo hPayTo
    exact Value.ofText_injective (Option.some.inj (hMembers.payTo.symm.trans hPayTo))
  · intro seconds hSeconds
    exact ofU64_injective (Option.some.inj (hMembers.maxTimeoutSeconds.symm.trans hSeconds))
  · intro extra hExtra
    rw [← canonicalExtraValue_of_read hRead]
    exact Option.some.inj (hMembers.extra.symm.trans hExtra)

theorem toAcceptedValue_of_read (hRead : ReadFrom object parsed) :
    ∃ map, parsed.toAcceptedValue = .ofMap map ∧ WrittenAs object map parsed := by
  unfold PaymentRequirements.toAcceptedValue
  rw [hRead.accepted, keptOffer]
  split
  · exact ⟨object, rfl, writtenAs_read hRead⟩
  · exact ⟨parsed.canonicalOffer, rfl, writtenAs_canonicalOffer hRead⟩

/-! ### The two sides -/

/-- An offer without its hints for a blockhash. -/
def strippedMap (map : Map) : Map :=
  (map.remove "recentBlockhash").update "extra" (·.removeAll blockhashHints)

/-- The offer of a route, for a credential that is already without its hints. -/
def routeSide (requirements : PaymentRequirements) (accepted : Map) : Map :=
  (strippedMap requirements.canonicalOffer).update "extra"
    (·.removeAll (notEchoed (accepted.inner "extra")))

theorem stripBlockhashHints_ofMap (map : Map) :
    stripBlockhashHints (.ofMap map) = .ofMap (strippedMap map) :=
  rfl

theorem matchesOffer_iff (hUnkept : requirements.accepted = none) :
    matchesOffer requirements (.ofMap map) = true ↔ routeSide requirements map = map := by
  have hOffer : requirements.toAcceptedValue = .ofMap requirements.canonicalOffer := by
    rw [PaymentRequirements.toAcceptedValue, hUnkept]
    rfl
  have hRoute : dropHintsNotEchoed (stripBlockhashHints requirements.toAcceptedValue)
      (.ofMap map) = .ofMap (routeSide requirements map) := by
    rw [hOffer]
    rfl
  rw [matchesOffer, hRoute, Json.same_iff, Value.ofMap_injective.eq_iff]

theorem get?_strippedMap {name : String} (hHint : name ≠ "recentBlockhash")
    (hExtra : name ≠ "extra") : (strippedMap map).get? name = map.get? name := by
  rw [strippedMap, Map.get?_update_of_ne hExtra, Map.get?_remove, if_neg hHint]

theorem inner_strippedMap :
    (strippedMap map).inner "extra" = (map.inner "extra").map (·.removeAll blockhashHints) := by
  rw [strippedMap, Map.inner_update, Map.inner_remove_of_ne (by decide)]

theorem get?_routeSide {name : String} (hHint : name ≠ "recentBlockhash")
    (hExtra : name ≠ "extra") :
    (routeSide requirements map).get? name = requirements.canonicalOffer.get? name := by
  rw [routeSide, Map.get?_update_of_ne hExtra, get?_strippedMap hHint hExtra]

theorem inner_routeSide :
    (routeSide requirements map).inner "extra" =
      some ((requirements.canonicalExtraValue.removeAll blockhashHints).removeAll
        (notEchoed (map.inner "extra"))) := by
  rw [routeSide, Map.inner_update, inner_strippedMap,
    (canonicalMembers_canonicalOffer requirements).extra]
  rfl

theorem mem_notEchoed {echoed : Map} :
    key ∈ notEchoed (some echoed) ↔ key ∈ nonSpecExtraHints ∧ echoed.get? key = none := by
  simp [notEchoed]

theorem get?_routeExtra {extra echoed : Map} (hKey : key ∉ blockhashHints)
    (hSame : (extra.removeAll blockhashHints).removeAll (notEchoed (some echoed)) = echoed) :
    echoed.get? key = extra.get? key ∨ (key ∈ nonSpecExtraHints ∧ echoed.get? key = none) := by
  by_cases hDropped : key ∈ notEchoed (some echoed)
  · exact .inr (mem_notEchoed.mp hDropped)
  · left
    conv_lhs => rw [← hSame]
    rw [Map.get?_removeAll, if_neg hDropped, Map.get?_removeAll, if_neg hKey]

theorem bindsTerms_of_match (hRebuilt : Rebuilt requirements)
    (hParsed : PaymentRequirements.ofValue accepted = .ok parsed)
    (hMatch : matchesOffer requirements (stripBlockhashHints parsed.toAcceptedValue) = true) :
    BindsTerms accepted parsed requirements := by
  rcases ofValue_eq_ok hParsed with ⟨object, rfl, hRead⟩
  rcases toAcceptedValue_of_read hRead with ⟨map, hMap, hWritten⟩
  rw [hMap, stripBlockhashHints_ofMap, matchesOffer_iff hRebuilt.unkept] at hMatch
  have hMembers := canonicalMembers_canonicalOffer requirements
  have hTerm : ∀ name, name ≠ "recentBlockhash" → name ≠ "extra" →
      map.get? name = requirements.canonicalOffer.get? name := by
    intro name hHint hExtra
    rw [← get?_strippedMap hHint hExtra, ← hMatch, get?_routeSide hHint hExtra]
  have hInner := congrArg (Map.inner · "extra") hMatch
  simp only [inner_routeSide, inner_strippedMap] at hInner
  rcases Option.map_eq_some_iff.mp hInner.symm with ⟨extra, hExtra, hSame⟩
  rw [hExtra, Option.map_some] at hSame
  constructor
  · exact hWritten.network _ ((hTerm _ (by decide) (by decide)).trans hMembers.network)
      hRebuilt.normalized
  · exact hWritten.amount _ ((hTerm _ (by decide) (by decide)).trans hMembers.amount)
  · exact hWritten.asset _ ((hTerm _ (by decide) (by decide)).trans hMembers.asset)
  · exact hWritten.payTo _ ((hTerm _ (by decide) (by decide)).trans hMembers.payTo)
  · exact hWritten.maxTimeoutSeconds _
      ((hTerm _ (by decide) (by decide)).trans hMembers.maxTimeoutSeconds)
  · intro key hKey
    have hAccepted : extraOf (.ofMap object) = extra := hWritten.extra extra hExtra
    have hMember := get?_routeExtra hKey hSame.symm
    rw [Map.get?_removeAll, if_neg hKey] at hMember
    rw [hAccepted]
    exact hMember

/-! ### Edited offers -/

theorem get?_insertHint {name : String} {hint : Option Value} (hOther : name ≠ key) :
    (insertHint map key hint).get? name = map.get? name := by
  cases hint with
  | none => rfl
  | some hint => rw [insertHint, Map.get?_insert, if_neg hOther]

theorem get?_editedExtra {extra : Map} (hKey : key ∉ blockhashHints) :
    (edit.extra extra).get? key = if key ∈ edit.omitted then none else extra.get? key := by
  have hHints : key ≠ "lastValidBlockHeight" ∧ key ≠ "recentBlockhash" := by
    simp only [blockhashHints, List.mem_cons, List.not_mem_nil, or_false, not_or] at hKey
    exact hKey.symm
  rw [OfferEdit.extra, get?_insertHint hHints.1, get?_insertHint hHints.2, Map.get?_removeAll]

theorem get?_editedOffer {name : String} (hHint : name ≠ "recentBlockhash")
    (hExtra : name ≠ "extra") : (edit.offer map).get? name = map.get? name := by
  rw [OfferEdit.offer, get?_insertHint hHint, Map.get?_update_of_ne hExtra]

theorem inner_editedOffer :
    (edit.offer map).inner "extra" = (map.inner "extra").map edit.extra := by
  have hOffer : (edit.offer map).inner "extra" = (map.update "extra" edit.extra).inner "extra" := by
    rw [Map.inner, OfferEdit.offer, get?_insertHint (by decide)]
    rfl
  rw [hOffer, Map.inner_update]

theorem routeExtra_editedExtra (extra : Map) :
    (extra.removeAll blockhashHints).removeAll
        (notEchoed (some ((edit.extra extra).removeAll blockhashHints))) =
      (edit.extra extra).removeAll blockhashHints := by
  apply Map.ext
  intro key
  by_cases hHint : key ∈ blockhashHints
  · simp [hHint]
  · simp only [Map.get?_removeAll, mem_notEchoed, hHint, if_false, get?_editedExtra hHint]
    by_cases hOmitted : key ∈ edit.omitted
    · simp [hOmitted, edit.hOmitted key hOmitted]
    · simp only [hOmitted, if_false]
      split
      · rename_i hAbsent
        exact hAbsent.2.symm
      · rfl

theorem routeSide_editedOffer :
    routeSide requirements (strippedMap (edit.offer requirements.canonicalOffer)) =
      strippedMap (edit.offer requirements.canonicalOffer) := by
  have hMembers := canonicalMembers_canonicalOffer requirements
  apply Map.ext
  intro name
  by_cases hExtra : name = "extra"
  · subst hExtra
    have hInner : (edit.offer requirements.canonicalOffer).inner "extra" =
        some (edit.extra requirements.canonicalExtraValue) := by
      rw [inner_editedOffer, hMembers.extra]
      rfl
    have hStripped : (strippedMap (edit.offer requirements.canonicalOffer)).inner "extra" =
        some ((edit.extra requirements.canonicalExtraValue).removeAll blockhashHints) := by
      rw [inner_strippedMap, hInner, Option.map_some]
    have hRoute : (routeSide requirements
        (strippedMap (edit.offer requirements.canonicalOffer))).inner "extra" =
        some ((edit.extra requirements.canonicalExtraValue).removeAll blockhashHints) := by
      rw [inner_routeSide, hStripped, routeExtra_editedExtra]
    rw [Map.get?_of_inner hRoute, Map.get?_of_inner hStripped]
  · by_cases hHint : name = "recentBlockhash"
    · subst hHint
      have hGone : ∀ other : Map, (strippedMap other).get? "recentBlockhash" = none := by
        intro other
        rw [strippedMap, Map.get?_update_of_ne (by decide), Map.get?_remove, if_pos rfl]
      rw [routeSide, Map.get?_update_of_ne (by decide), hGone, hGone]
    · rw [get?_routeSide hHint hExtra, get?_strippedMap hHint hExtra, get?_editedOffer hHint hExtra]

theorem ofValue_ofMap {rawNetwork : String} {versions : Option (List Tx.TxVersion)}
    (hNetwork : stringField object "network" = some rawNetwork)
    (hVersions : ((object.inner "extra").bind (·.get? "transactionVersions")).mapM
      buildableTransactionVersions = .ok versions) :
    ∃ parsed, PaymentRequirements.ofValue (.ofMap object) = .ok parsed ∧
      parsed.accepted = keptOffer object := by
  have hOk : ∃ parsed, PaymentRequirements.ofValue (.ofMap object) = .ok parsed :=
    ⟨_, bind_eq_ok.mpr ⟨object, rfl, bind_eq_ok.mpr ⟨rawNetwork, okOr_eq_ok.mpr hNetwork,
      bind_eq_ok.mpr ⟨versions, hVersions, rfl⟩⟩⟩⟩
  rcases hOk with ⟨parsed, hParsed⟩
  rcases ofValue_eq_ok hParsed with ⟨other, hSame, hRead⟩
  obtain rfl := Value.ofMap_injective hSame
  exact ⟨parsed, hParsed, hRead.accepted⟩

theorem ofValue_editedOffer (hRebuilt : Rebuilt requirements) :
    ∃ parsed, PaymentRequirements.ofValue (.ofMap (edit.offer requirements.canonicalOffer)) =
        .ok parsed ∧
      parsed.toAcceptedValue = .ofMap (edit.offer requirements.canonicalOffer) := by
  have hMembers := canonicalMembers_canonicalOffer requirements
  have hTerm : ∀ name, name ≠ "recentBlockhash" → name ≠ "extra" →
      (edit.offer requirements.canonicalOffer).get? name =
        requirements.canonicalOffer.get? name := fun name => get?_editedOffer
  have hNetwork : stringField (edit.offer requirements.canonicalOffer) "network" =
      some requirements.network := by
    rw [stringField, hTerm _ (by decide) (by decide), hMembers.network]
    rfl
  have hVersions : ∃ versions,
      (((edit.offer requirements.canonicalOffer).inner "extra").bind
        (·.get? "transactionVersions")).mapM buildableTransactionVersions = .ok versions := by
    rw [inner_editedOffer, hMembers.extra, Option.map_some, Option.bind_some,
      get?_editedExtra (by decide)]
    cases hFound : if "transactionVersions" ∈ edit.omitted then none
      else requirements.canonicalExtraValue.get? "transactionVersions" with
    | none => exact ⟨none, rfl⟩
    | some value =>
        split at hFound
        · exact nomatch hFound
        · rcases hRebuilt.readable value hFound with ⟨versions, hVersions⟩
          refine ⟨some versions, ?_⟩
          rw [Option.mapM_some, hVersions]
          rfl
  have hKept : keptOffer (edit.offer requirements.canonicalOffer) =
      some (.ofMap (edit.offer requirements.canonicalOffer)) := by
    apply if_pos
    right
    rw [hTerm _ (by decide) (by decide), hTerm _ (by decide) (by decide),
      hTerm _ (by decide) (by decide), hMembers.amount, hMembers.asset, hMembers.payTo]
    exact ⟨rfl, rfl, rfl⟩
  rcases hVersions with ⟨versions, hVersions⟩
  rcases ofValue_ofMap hNetwork hVersions with ⟨parsed, hParsed, hAccepted⟩
  refine ⟨parsed, hParsed, ?_⟩
  rw [PaymentRequirements.toAcceptedValue, hAccepted, hKept]
  rfl

theorem findMatchingRequirement_eq_ok
    (hFound : findMatchingRequirement available ⟨x402VersionV2, some accepted⟩ = .ok matched) :
    matched ∈ available ∧ ∃ parsed, PaymentRequirements.ofValue accepted = .ok parsed ∧
      matchesOffer matched (stripBlockhashHints parsed.toAcceptedValue) = true := by
  simp only [findMatchingRequirement, findMatchingOffer, if_true, bind_eq_ok, okOr_eq_ok,
    mapError_eq_ok] at hFound
  rcases hFound with ⟨_, ⟨⟩, parsed, hParsed, hMatched⟩
  have hMatches := List.find?_some hMatched
  exact ⟨List.mem_of_find?_eq_some hMatched, parsed, hParsed, hMatches⟩

theorem matches_of_checkAccepted (hChecked : checkAccepted requirements accepted = .ok ()) :
    ∃ parsed, PaymentRequirements.ofValue accepted = .ok parsed ∧
      matchesOffer requirements (stripBlockhashHints parsed.toAcceptedValue) = true := by
  simp only [checkAccepted, bind_eq_ok, mapError_eq_ok, refuseIf_eq_ok, exists_const] at hChecked
  rcases hChecked with ⟨parsed, hParsed, -, -, -, -, hMatch⟩
  exact ⟨parsed, hParsed, Bool.not_eq_false _ ▸ hMatch⟩

theorem checkAccepted_of_binds (hParsed : PaymentRequirements.ofValue accepted = .ok parsed)
    (hMatch : matchesOffer requirements (stripBlockhashHints parsed.toAcceptedValue) = true)
    (hBinds : BindsTerms accepted parsed requirements) :
    checkAccepted requirements accepted = .ok () := by
  simp only [checkAccepted, bind_eq_ok, mapError_eq_ok, refuseIf_eq_ok, exists_const]
  exact ⟨parsed, hParsed, not_not.mpr hBinds.network, not_not.mpr hBinds.amount,
    not_not.mpr hBinds.payTo, not_not.mpr hBinds.asset, by rw [hMatch]; exact Bool.noConfusion⟩

theorem agreeOnOffer_of_binds (hOffer : BindsTerms accepted parsed requirements)
    (hMatched : BindsTerms accepted parsed matched) :
    AgreeOnOffer accepted requirements matched := by
  refine ⟨hMatched.network.symm.trans hOffer.network, hMatched.amount.symm.trans hOffer.amount,
    hMatched.asset.symm.trans hOffer.asset, hMatched.payTo.symm.trans hOffer.payTo,
    hMatched.maxTimeoutSeconds.symm.trans hOffer.maxTimeoutSeconds, ?_⟩
  intro key hKey hCarried
  rcases hMatched.extra key hKey with hMatched | ⟨hHint, hAbsent⟩
  · rcases hOffer.extra key hKey with hOffer | ⟨hHint, hAbsent⟩
    · exact hMatched.symm.trans hOffer
    · exact absurd hAbsent (hCarried hHint)
  · exact absurd hAbsent (hCarried hHint)

/-- An offer that is found, or that is compared, binds every term of the requirement. An offer of
a requirement is found after the edits of a client, and what is found for it agrees with the
requirement on everything that the edited offer carries. -/
theorem offer_matching_binds_terms (hRoutes : ∀ offered ∈ available, IsRoute offered) :
    (∀ accepted matched,
      findMatchingRequirement available ⟨x402VersionV2, some accepted⟩ = .ok matched →
        matched ∈ available ∧ ∃ parsed, PaymentRequirements.ofValue accepted = .ok parsed ∧
          BindsTerms accepted parsed matched) ∧
      (∀ accepted, ∀ offered ∈ available, checkAccepted offered accepted = .ok () →
        ∃ parsed, PaymentRequirements.ofValue accepted = .ok parsed ∧
          BindsTerms accepted parsed offered) ∧
      ∀ offered ∈ available, offered.toAcceptedValue = .ofMap offered.canonicalOffer ∧
        ∀ edit : OfferEdit, ∃ matched,
          findMatchingRequirement available
              ⟨x402VersionV2, some (.ofMap (edit.offer offered.canonicalOffer))⟩ = .ok matched ∧
            checkAccepted matched (.ofMap (edit.offer offered.canonicalOffer)) = .ok () ∧
            AgreeOnOffer (.ofMap (edit.offer offered.canonicalOffer)) offered matched := by
  refine ⟨?_, ?_, ?_⟩
  · intro accepted matched hFound
    rcases findMatchingRequirement_eq_ok hFound with ⟨hMem, parsed, hParsed, hMatch⟩
    exact ⟨hMem, parsed, hParsed, bindsTerms_of_match (hRoutes matched hMem).rebuilt hParsed hMatch⟩
  · intro accepted offered hOffered hChecked
    rcases matches_of_checkAccepted hChecked with ⟨parsed, hParsed, hMatch⟩
    exact ⟨parsed, hParsed, bindsTerms_of_match (hRoutes offered hOffered).rebuilt hParsed hMatch⟩
  · intro offered hOffered
    have hRebuilt := (hRoutes offered hOffered).rebuilt
    refine ⟨by rw [PaymentRequirements.toAcceptedValue, hRebuilt.unkept]; rfl, ?_⟩
    intro edit
    have hParsed : ∃ parsed, PaymentRequirements.ofValue
          (.ofMap (edit.offer offered.canonicalOffer)) = .ok parsed ∧
        parsed.toAcceptedValue = .ofMap (edit.offer offered.canonicalOffer) :=
      ofValue_editedOffer hRebuilt
    rcases hParsed with ⟨parsed, hParsed, hWritten⟩
    have hOwn : matchesOffer offered (stripBlockhashHints parsed.toAcceptedValue) = true := by
      rw [hWritten, stripBlockhashHints_ofMap, matchesOffer_iff hRebuilt.unkept]
      exact routeSide_editedOffer
    have hSome : (available.find? (matchesOffer ·
        (stripBlockhashHints parsed.toAcceptedValue))).isSome :=
      List.find?_isSome.mpr ⟨offered, hOffered, hOwn⟩
    rcases Option.isSome_iff_exists.mp hSome with ⟨matched, hMatched⟩
    have hRoute := hRoutes matched (List.mem_of_find?_eq_some hMatched)
    have hMatch := List.find?_some hMatched
    have hBinds := bindsTerms_of_match hRoute.rebuilt hParsed hMatch
    refine ⟨matched, ?_, checkAccepted_of_binds hParsed hMatch hBinds,
      agreeOnOffer_of_binds (bindsTerms_of_match hRebuilt hParsed hOwn) hBinds⟩
    simp only [findMatchingRequirement, findMatchingOffer, if_true, bind_eq_ok, okOr_eq_ok,
      mapError_eq_ok]
    exact ⟨_, rfl, parsed, hParsed, hMatched⟩

end

/-! ### One route -/

def usdcServer : ExactServer where
  config :=
    { recipient := "CXhrFZJLKqjzmP3sjYLcF4dTeXWKCy9e2SXXZ2Yo6MPY"
      primaryCurrency := ⟨"USDC", 6, some Solana.programs.tokenProgram⟩
      otherCurrencies := []
      network := "devnet"
      resource := "/quote"
      description := none
      maxAge := some 60
      feePayerKey := some "GmaDrppBC7P5ARKV8g3djiwP89vz1jLK23V2GBjuAEGB" }
  acceptedVersions := [.v0, .v1]
  advertisedVersions := none

def quoteOption : PaymentOption where
  amount := "0.10"
  currency := none
  decimals := none
  tokenProgram := none
  extra := ⟨none, none, none, some "quote"⟩

def quoteRequirement : PaymentRequirements where
  network := solanaDevnet
  cluster := some "devnet"
  recipient := "CXhrFZJLKqjzmP3sjYLcF4dTeXWKCy9e2SXXZ2Yo6MPY"
  amount := "100000"
  currency := "USDC"
  decimals := some 6
  tokenProgram := some Solana.programs.tokenProgram
  resource := "/quote"
  description := none
  maxAge := some 60
  recentBlockhash := none
  feePayer := some true
  feePayerKey := some "GmaDrppBC7P5ARKV8g3djiwP89vz1jLK23V2GBjuAEGB"
  transactionVersions := some [.v0, .v1]
  extra := some (.ofMap (Map.empty.insert "memo" (.ofText "quote")))
  accepted := none
  resourceInfo := some ⟨"/quote", none, none⟩

/-- A client that leaves out two of the keys, and echoes the blockhash of the challenge. -/
def specShapedEdit : OfferEdit where
  topBlockhash := none
  recentBlockhash := some (.ofText "EkSnNWid2cvwEVnVx9aBqawnmiCNiDgp3gUdkDPTKN1N")
  lastValidBlockHeight := some (.ofText "1234")
  omitted := ["decimals", "tokenProgram"]
  hOmitted := by decide

theorem isRoute_quoteRequirement : IsRoute quoteRequirement :=
  ⟨usdcServer, quoteOption, rfl⟩

theorem offer_matching_binds_terms_quote :
    ∃ matched, findMatchingRequirement [quoteRequirement]
        ⟨x402VersionV2, some (.ofMap (specShapedEdit.offer quoteRequirement.canonicalOffer))⟩ =
          .ok matched ∧ matched.amount = "100000" := by
  have hRoutes : ∀ offered ∈ [quoteRequirement], IsRoute offered := by
    rintro offered hOffered
    rw [List.mem_singleton.mp hOffered]
    exact isRoute_quoteRequirement
  rcases ((offer_matching_binds_terms hRoutes).2.2 quoteRequirement List.mem_cons_self).2
    specShapedEdit with ⟨matched, hFound, -, hAgree⟩
  exact ⟨matched, hFound, hAgree.amount⟩

end PayKit.Exact
