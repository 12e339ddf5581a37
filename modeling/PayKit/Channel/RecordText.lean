import PayKit.Channel.State
import PayKit.Encoding.JsonText

/-!
# The text of a channel record

`RedisChannelStore::encode`: a record as the JSON object that serde writes for it, the fields in
the order of their declaration and after them the members of `extra`. A field that is not there
is null, or left out where the record's type says so. Only the settlement responses of committed
deliveries and `extra` hold JSON that the program did not put together itself.
-/

namespace PayKit.Channel

open Encoding

/-! ### Fields -/

def jsonInt (value : ℤ) : Json :=
  if 0 ≤ value then .unsigned value.toNat else .negative value

def jsonOption {Value : Type} (toJson : Value → Json) : Option Value → Json
  | none => .null
  | some value => toJson value

/-- A field that is skipped when it is not there. -/
def skippedField {Value : Type} (key : String) (toJson : Value → Json) :
    Option Value → List (String × Json)
  | none => []
  | some value => [(key, toJson value)]

def jsonList {Value : Type} (toJson : Value → Json) (values : List Value) : Json :=
  .array (values.map toJson)

/-! ### Records -/

def PendingDelivery.toJson (delivery : PendingDelivery) : Json :=
  .object <| [("deliveryId", .text delivery.deliveryId), ("amount", .unsigned delivery.amount),
    ("sequence", .unsigned delivery.sequence), ("expiresAt", jsonInt delivery.expiresAt)] ++
    skippedField "requestFingerprint" .text delivery.requestFingerprint ++
    [("handlerSucceeded", .bool delivery.handlerSucceeded)]

def PendingSetup.toJson (setup : PendingSetup) : Json :=
  .object [("payerSignature", .text setup.payerSignature), ("deposit", .unsigned setup.deposit),
    ("opensChannel", .bool setup.opensChannel), ("expiresAt", jsonInt setup.expiresAt)]

def ChannelLifecycle.toJson (lifecycle : ChannelLifecycle) : Json :=
  .object [("owner", .text lifecycle.owner), ("closeAfter", .unsigned lifecycle.closeAfter)]

def ProcessedUse.toJson (use : ProcessedUse) : Json :=
  .object <| [("challenge_id", .text use.challengeId),
    ("idempotency_key", .text use.idempotencyKey), ("cumulative", .unsigned use.cumulative),
    ("voucher_signature", .text use.voucherSignature)] ++
    skippedField "amount" .unsigned use.amount

section

-- the base64 text of a cached body
variable (encodeBody : List UInt8 → String)

def headersField (headers : List (String × String)) : List (String × Json) :=
  if headers = [] then []
  else [("headers", jsonList (fun header => .array [.text header.1, .text header.2]) headers)]

def CachedUpstreamResponse.toJson (response : CachedUpstreamResponse) : Json :=
  .object <| [("status", .unsigned response.status)] ++
    skippedField "contentType" .text response.contentType ++ headersField response.headers ++
    [("body", .text (encodeBody response.body))]

def CommittedDelivery.toJson (delivery : CommittedDelivery) : Json :=
  .object <| [("deliveryId", .text delivery.deliveryId), ("amount", .unsigned delivery.amount),
    ("cumulative", .unsigned delivery.cumulative),
    ("voucherSignature", .text delivery.voucherSignature)] ++
    skippedField "requestFingerprint" .text delivery.requestFingerprint ++
    skippedField "settlementResponse" id delivery.settlementResponse ++
    [("retainUntil", jsonInt delivery.retainUntil)] ++
    skippedField "cachedResponse" (CachedUpstreamResponse.toJson encodeBody)
      delivery.cachedResponse

namespace ChannelState

variable (state : ChannelState)

/-- The fields before `sealed`. -/
def earlierFields : List (String × Json) :=
  [("channel_id", .text state.channelId), ("authorized_signer", .text state.authorizedSigner),
    ("deposit", .unsigned state.deposit), ("cumulative", .unsigned state.cumulative)]

/-- The fields after `sealed`, up to the deliveries. -/
def termsFields : List (String × Json) :=
  [("highest_voucher_signature", jsonOption .text state.highestVoucherSignature),
    ("highest_voucher_expires_at", jsonOption jsonInt state.highestVoucherExpiresAt),
    ("close_requested_at", jsonOption .unsigned state.closeRequestedAt)] ++
    skippedField "final_cumulative" .unsigned state.finalCumulative ++
    [("open_slot", jsonOption .unsigned state.openSlot), ("payer", .text state.payer),
      ("rent_payer", .text state.rentPayer),
      ("opening_challenge_id", .text state.openingChallengeId),
      ("authentication", jsonOption .text state.authentication),
      ("voucher_signer", .text state.voucherSigner),
      ("idle_timeout_seconds", jsonOption .unsigned state.idleTimeoutSeconds),
      ("last_activity_at", .unsigned state.lastActivityAt),
      ("spent_amount", .unsigned state.spentAmount),
      ("settled_on_chain", .unsigned state.settledOnChain),
      ("distributed_on_chain", .unsigned state.distributedOnChain)]

def deliveryFields : List (String × Json) :=
  [("processed_uses", jsonList ProcessedUse.toJson state.processedUses),
    ("processed_topup_signatures", jsonList .text state.processedTopupSignatures),
    ("next_delivery_sequence", .unsigned state.nextDeliverySequence),
    ("pending_deliveries", jsonList PendingDelivery.toJson state.pendingDeliveries),
    ("committed_deliveries",
      jsonList (CommittedDelivery.toJson encodeBody) state.committedDeliveries)]

def bookkeepingFields : List (String × Json) :=
  [("pending_setup", jsonOption PendingSetup.toJson state.pendingSetup),
    ("onchain_checked_at", .unsigned state.onchainCheckedAt),
    ("lifecycle", jsonOption ChannelLifecycle.toJson state.lifecycle),
    ("schema_version", .unsigned state.schemaVersion)]

def laterFields : List (String × Json) :=
  state.termsFields ++ state.deliveryFields encodeBody ++ state.bookkeepingFields ++ state.extra

def toJson : Json :=
  .object (state.earlierFields ++ ("sealed", .bool state.sealed) :: state.laterFields encodeBody)

def encode : String :=
  String.ofList (state.toJson encodeBody).render

end ChannelState

end

/-! ### Members that look like the seal -/

/-- Some member named `sealed`, or by a name that ends in a quote and `sealed`, is true in JSON
that the record holds for others. -/
def HasForeignSeal (state : ChannelState) : Prop :=
  Json.hasMember "sealed" true (.object state.extra) = true ∨
    ∃ delivery ∈ state.committedDeliveries, ∃ response,
      delivery.settlementResponse = some response ∧
        Json.hasMember "sealed" true response = true

section

variable {name : String} {value : Bool} {encodeBody : List UInt8 → String}

@[simp]
theorem hasMember_int (number : ℤ) : (jsonInt number).hasMember name value = false := by
  simp only [jsonInt]
  split <;> rfl

theorem hasMember_option {Value : Type} {toJson : Value → Json} (option : Option Value)
    (hValue : ∀ value', (toJson value').hasMember name value = false) :
    (jsonOption toJson option).hasMember name value = false := by
  cases option with
  | none => rfl
  | some value' => exact hValue value'

@[simp]
theorem hasMember_optionText (option : Option String) :
    (jsonOption Json.text option).hasMember name value = false :=
  hasMember_option option fun _ => rfl

@[simp]
theorem hasMember_optionUnsigned (option : Option ℕ) :
    (jsonOption Json.unsigned option).hasMember name value = false :=
  hasMember_option option fun _ => rfl

theorem hasMemberItems_map {Value : Type} (toJson : Value → Json) (values : List Value) :
    Json.hasMemberItems name value (values.map toJson) =
      values.any fun value' => (toJson value').hasMember name value := by
  induction values with
  | nil => rfl
  | cons first rest hInduction =>
      rw [List.map_cons, Json.hasMemberItems, hInduction, List.any_cons]

theorem hasMember_list {Value : Type} {toJson : Value → Json} (values : List Value)
    (hValue : ∀ value', (toJson value').hasMember name value = false) :
    (jsonList toJson values).hasMember name value = false := by
  rw [jsonList, Json.hasMember, hasMemberItems_map]
  simp [hValue]

@[simp]
theorem hasMember_listText (values : List String) :
    (jsonList Json.text values).hasMember name value = false :=
  hasMember_list values fun _ => rfl

theorem hasMemberMembers_append (left right : List (String × Json)) :
    Json.hasMemberMembers name value (left ++ right) =
      (Json.hasMemberMembers name value left || Json.hasMemberMembers name value right) := by
  induction left with
  | nil => rfl
  | cons member rest hInduction =>
      rcases member with ⟨key, json⟩
      rw [List.cons_append, Json.hasMemberMembers, Json.hasMemberMembers, hInduction]
      simp only [Bool.or_assoc]

theorem hasMemberMembers_skipped {Value : Type} {key : String} {toJson : Value → Json}
    (option : Option Value) (hKey : ¬EndsInKey key name) :
    Json.hasMemberMembers name value (skippedField key toJson option) =
      (jsonOption toJson option).hasMember name value := by
  cases option with
  | none => rfl
  | some value' => simp [skippedField, Json.hasMemberMembers, jsonOption, hKey]

end

end PayKit.Channel
