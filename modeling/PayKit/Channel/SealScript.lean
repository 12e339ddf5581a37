import PayKit.Channel.RecordText

/-!
# Sealing a record by its text

`mark_sealed_atomic` and `mark_finalized_atomic` of the Redis channel store run a script that
edits the text of a record: it looks for the text of a member `sealed` that is true, and if there
is none it replaces the first such member that is false. The first member of that text is the
record's own, since only strings and numbers come before it. But a member in the JSON that the
record holds for others is found as well when it is true, and then the script reports success and
leaves the record as it is.
-/

namespace PayKit.Channel

open Encoding Store

/-- A value of Redis, with the seconds until it expires if it does. -/
structure RedisValue where
  text : String
  expiry : Option ℕ

inductive ScriptResult where
  | missing
  | malformed
  | done
deriving DecidableEq

def sealedTrue : List Char :=
  Json.memberText "sealed" true

def sealedFalse : List Char :=
  Json.memberText "sealed" false

/-- The text with the first `"sealed":false` replaced. -/
def sealText (text : String) : Option String :=
  (findPlain sealedFalse text.toList).map fun split =>
    String.ofList (split.1 ++ sealedTrue ++ split.2)

/-- The script of `mark_sealed_atomic`. -/
def markSealedScript : Option RedisValue → ScriptResult × Option RedisValue
  | none => (.missing, none)
  | some current =>
      if (findPlain sealedTrue current.text.toList).isSome then (.done, some current)
      else
        match sealText current.text with
        | none => (.malformed, some current)
        | some updated => (.done, some { current with text := updated })

/-- The script of `mark_finalized_atomic`. -/
def markFinalizedScript (retention : ℕ) :
    Option RedisValue → ScriptResult × Option RedisValue
  | none => (.missing, none)
  | some current =>
      if (findPlain sealedTrue current.text.toList).isSome then
        -- Only a missing expiry is set.
        (.done, some { current with expiry := some (current.expiry.getD retention) })
      else
        match sealText current.text with
        | none => (.malformed, some current)
        | some updated => (.done, some ⟨updated, some retention⟩)

def ScriptResult.outcome : ScriptResult → Except StoreError Unit
  | .done => .ok ()
  | .missing => .error (.internal "Channel not found")
  | .malformed => .error (.serialization "Channel record is missing its sealed field")

def markSealedAtomic (stored : Option RedisValue) : Except StoreError Unit × Option RedisValue :=
  ((markSealedScript stored).1.outcome, (markSealedScript stored).2)

def markFinalizedAtomic (retention : ℕ) (stored : Option RedisValue) :
    Except StoreError Unit × Option RedisValue :=
  ((markFinalizedScript retention stored).1.outcome, (markFinalizedScript retention stored).2)

/-! ### The text of a record -/

section

variable {encodeBody : List UInt8 → String} {state : ChannelState}

theorem plainName_sealed : PlainName "sealed".toList := by
  simp [PlainName, escapeChar]

theorem earlier_noMember (value : Bool) :
    Json.hasMemberMembers "sealed" value state.earlierFields = false := by
  simp +decide [ChannelState.earlierFields, Json.hasMemberMembers, Json.hasMember, Json.isLiteral]

theorem terms_noMember : Json.hasMemberMembers "sealed" true state.termsFields = false := by
  rw [ChannelState.termsFields, hasMemberMembers_append, hasMemberMembers_append,
    hasMemberMembers_skipped _ (by decide)]
  simp +decide [Json.hasMemberMembers, Json.hasMember, Json.isLiteral, hasMember_option]

theorem bookkeeping_noMember :
    Json.hasMemberMembers "sealed" true state.bookkeepingFields = false := by
  simp +decide [ChannelState.bookkeepingFields, Json.hasMemberMembers, Json.hasMember,
    Json.isLiteral, hasMember_option, PendingSetup.toJson, ChannelLifecycle.toJson]

theorem processedUse_noMember (use : ProcessedUse) :
    use.toJson.hasMember "sealed" true = false := by
  rw [ProcessedUse.toJson, Json.hasMember, hasMemberMembers_append,
    hasMemberMembers_skipped _ (by decide)]
  simp +decide [Json.hasMemberMembers, Json.hasMember, Json.isLiteral]

theorem pendingDelivery_noMember (delivery : PendingDelivery) :
    delivery.toJson.hasMember "sealed" true = false := by
  rw [PendingDelivery.toJson, Json.hasMember, hasMemberMembers_append, hasMemberMembers_append,
    hasMemberMembers_skipped _ (by decide)]
  simp +decide [Json.hasMemberMembers, Json.hasMember, Json.isLiteral]

theorem cachedResponse_noMember (response : CachedUpstreamResponse) :
    (response.toJson encodeBody).hasMember "sealed" true = false := by
  rw [CachedUpstreamResponse.toJson, Json.hasMember, hasMemberMembers_append,
    hasMemberMembers_append, hasMemberMembers_append, hasMemberMembers_skipped _ (by decide)]
  have hHeaders : Json.hasMemberMembers "sealed" true (headersField response.headers) = false := by
    simp only [headersField]
    split
    · rfl
    · simp +decide [Json.hasMemberMembers, Json.isLiteral, hasMember_list, Json.hasMemberItems,
        Json.hasMember]
  simp +decide [Json.hasMemberMembers, Json.hasMember, Json.isLiteral, hHeaders]

theorem committedDelivery_member (delivery : CommittedDelivery) :
    (delivery.toJson encodeBody).hasMember "sealed" true =
      (jsonOption id delivery.settlementResponse).hasMember "sealed" true := by
  rw [CommittedDelivery.toJson, Json.hasMember, hasMemberMembers_append, hasMemberMembers_append,
    hasMemberMembers_append, hasMemberMembers_append, hasMemberMembers_skipped _ (by decide),
    hasMemberMembers_skipped _ (by decide), hasMemberMembers_skipped _ (by decide)]
  simp +decide [Json.hasMemberMembers, Json.hasMember, Json.isLiteral, hasMember_option,
    cachedResponse_noMember]

theorem deliveries_member :
    Json.hasMemberMembers "sealed" true (state.deliveryFields encodeBody) =
      state.committedDeliveries.any fun delivery =>
        (jsonOption id delivery.settlementResponse).hasMember "sealed" true := by
  have hCommitted : (jsonList (CommittedDelivery.toJson encodeBody)
      state.committedDeliveries).hasMember "sealed" true =
        state.committedDeliveries.any fun delivery =>
          (jsonOption id delivery.settlementResponse).hasMember "sealed" true := by
    rw [jsonList, Json.hasMember, hasMemberItems_map]
    simp only [committedDelivery_member]
  simp +decide [ChannelState.deliveryFields, Json.hasMemberMembers, Json.hasMember,
    Json.isLiteral, hasMember_list, processedUse_noMember, pendingDelivery_noMember, hCommitted]

theorem record_member :
    (state.toJson encodeBody).hasMember "sealed" true = true ↔
      state.sealed = true ∨ HasForeignSeal state := by
  have hSealed : EndsInKey "sealed" "sealed" := .inl rfl
  have hForeign : (state.committedDeliveries.any fun delivery =>
        (jsonOption id delivery.settlementResponse).hasMember "sealed" true) = true ↔
      ∃ delivery ∈ state.committedDeliveries, ∃ response,
        delivery.settlementResponse = some response ∧
          Json.hasMember "sealed" true response = true := by
    rw [List.any_eq_true]
    constructor
    · rintro ⟨delivery, hDelivery, hMember⟩
      cases hResponse : delivery.settlementResponse with
      | none => simp [hResponse, jsonOption, Json.hasMember] at hMember
      | some response =>
          rw [hResponse] at hMember
          exact ⟨delivery, hDelivery, response, hResponse, hMember⟩
    · rintro ⟨delivery, hDelivery, response, hResponse, hMember⟩
      refine ⟨delivery, hDelivery, ?_⟩
      rw [hResponse]
      exact hMember
  rw [ChannelState.toJson, Json.hasMember, hasMemberMembers_append, earlier_noMember,
    Json.hasMemberMembers, ChannelState.laterFields, hasMemberMembers_append,
    hasMemberMembers_append, hasMemberMembers_append, terms_noMember, bookkeeping_noMember,
    deliveries_member]
  simp only [Bool.false_or, Bool.or_false, Bool.or_eq_true, HasForeignSeal, Json.hasMember,
    Json.isLiteral, hSealed, decide_true, Bool.true_and, decide_eq_true_eq, hForeign]
  exact or_congr_right or_comm

/-! ### The place of the seal -/

def textBefore (state : ChannelState) : List Char :=
  '{' :: (Json.renderPrefix [] state.earlierFields ++ [','])

theorem toList_encode :
    (state.encode encodeBody).toList =
      textBefore state ++ (Json.memberText "sealed" state.sealed ++
        Json.renderMembers [','] (state.laterFields encodeBody)) := by
  have hQuoted : quoted "sealed" = '"' :: ("sealed".toList ++ ['"']) := by decide
  have hMember : quoted "sealed" ++ ':' :: Json.literal state.sealed =
      Json.memberText "sealed" state.sealed := by
    rw [hQuoted, Json.memberText]
    simp
  have hNonempty : state.earlierFields ≠ [] := by simp [ChannelState.earlierFields]
  rw [ChannelState.encode, String.toList_ofList, ChannelState.toJson, Json.render,
    Json.renderMembers_append hNonempty, Json.renderMembers, Json.render, ← hMember, textBefore]
  simp

theorem noStart_textBefore (value : Bool) (after : List Char) :
    NoStart (Json.memberText "sealed" value) (textBefore state) after := by
  have hNumbers : Json.NumbersPrintMembers state.earlierFields := by
    simp [ChannelState.earlierFields, Json.NumbersPrintMembers, Json.NumbersPrint]
  have hComma : Json.NumbersPrintMembers state.earlierFields →
      NoStart (Json.memberText "sealed" value) (Json.renderPrefix [] state.earlierFields)
        (',' :: after) := by
    intro hFields
    exact Json.noStart_renderPrefix plainName_sealed hFields (by simp)
      (Json.closed_cons (by decide) _) (earlier_noMember value)
  have hBrace : NoStart (Json.memberText "sealed" value) ['{']
      (Json.renderPrefix [] state.earlierFields ++ [','] ++ after) :=
    noStart_of_not_mem (by decide)
  have hSeparator : NoStart (Json.memberText "sealed" value) [','] after :=
    noStart_of_not_mem (by decide)
  rw [textBefore, ← List.singleton_append, noStart_append, noStart_append]
  exact ⟨hBrace, hComma hNumbers, hSeparator⟩

theorem finds_sealedTrue_iff (hNumbers : (state.toJson encodeBody).NumbersPrint) :
    (findPlain sealedTrue (state.encode encodeBody).toList).isSome = true ↔
      state.sealed = true ∨ HasForeignSeal state := by
  have hNone : findPlain sealedTrue (state.encode encodeBody).toList = none ↔
      (state.toJson encodeBody).hasMember "sealed" true = false := by
    rw [findPlain_eq_none (by decide), ChannelState.encode, String.toList_ofList]
    exact Json.noStart_render_iff plainName_sealed [] _ hNumbers (by simp [Closed])
  rw [← record_member, ← Option.ne_none_iff_isSome, ne_eq, hNone,
    Bool.not_eq_false]

theorem sealText_encode (hOpen : state.sealed = false) :
    sealText (state.encode encodeBody) =
      some ({ state with sealed := true }.encode encodeBody) := by
  have hSealed : ({ state with sealed := true }.encode encodeBody).toList =
      textBefore state ++ (sealedTrue ++
        Json.renderMembers [','] (state.laterFields encodeBody)) :=
    toList_encode
  have hFalse : Json.memberText "sealed" state.sealed = sealedFalse := by
    rw [hOpen]
    rfl
  have hNoStart : NoStart sealedFalse (textBefore state)
      (sealedFalse ++ Json.renderMembers [','] (state.laterFields encodeBody)) :=
    noStart_textBefore false _
  rw [sealText, toList_encode, hFalse, findPlain_append hNoStart, findPlain_prefix (by decide),
    Option.map_some, Option.map_some, List.append_nil, List.append_assoc, ← hSealed,
    String.ofList_toList]

end

/-! ### The claim's structural update -/

section

variable (encodeBody : List UInt8 → String) (decode : String → Except StoreError ChannelState)

/-- The record is read back from its text. -/
def ReadsBack (state : ChannelState) : Prop :=
  decode (state.encode encodeBody) = .ok state

/-- An update of the stored text succeeds, and what is stored then decodes to the sealed record. -/
def SealsTo (state : ChannelState)
    (updated : Except StoreError Unit × Option RedisValue) : Prop :=
  ∃ value, updated = (.ok (), some value) ∧ decode value.text = .ok { state with sealed := true }

variable {encodeBody decode} {state : ChannelState}

theorem not_sealsTo_same (hReads : ReadsBack encodeBody decode state)
    (hOpen : state.sealed = false) (expiry : Option ℕ) :
    ¬SealsTo decode state (.ok (), some ⟨state.encode encodeBody, expiry⟩) := by
  rintro ⟨value, hUpdated, hDecoded⟩
  cases hUpdated
  rw [hReads, Except.ok.injEq] at hDecoded
  have hSealed := congrArg ChannelState.sealed hDecoded
  rw [hOpen] at hSealed
  cases hSealed

/-- What the two scripts make of the text of a record: they differ in the expiry only. -/
theorem scripts_encode (hNumbers : (state.toJson encodeBody).NumbersPrint) (expiry : Option ℕ)
    (retention : ℕ) :
    let sealed := state.sealed = true ∨ HasForeignSeal state
    (sealed →
      markSealedAtomic (some ⟨state.encode encodeBody, expiry⟩) =
        (.ok (), some ⟨state.encode encodeBody, expiry⟩) ∧
      markFinalizedAtomic retention (some ⟨state.encode encodeBody, expiry⟩) =
        (.ok (), some ⟨state.encode encodeBody, some (expiry.getD retention)⟩)) ∧
    (¬sealed →
      markSealedAtomic (some ⟨state.encode encodeBody, expiry⟩) =
        (.ok (), some ⟨{ state with sealed := true }.encode encodeBody, expiry⟩) ∧
      markFinalizedAtomic retention (some ⟨state.encode encodeBody, expiry⟩) =
        (.ok (), some ⟨{ state with sealed := true }.encode encodeBody, some retention⟩)) := by
  have hFinds := finds_sealedTrue_iff hNumbers
  refine ⟨?_, ?_⟩
  · intro hSealed
    have hFound := hFinds.mpr hSealed
    simp [markSealedAtomic, markSealedScript, markFinalizedAtomic, markFinalizedScript, hFound,
      ScriptResult.outcome]
  · intro hNot
    have hOpen : state.sealed = false := by
      rw [← Bool.not_eq_true]
      exact fun hSealed => hNot (.inl hSealed)
    have hFound : ¬(findPlain sealedTrue (state.encode encodeBody).toList).isSome = true := by
      rw [hFinds]
      exact hNot
    simp [markSealedAtomic, markSealedScript, markFinalizedAtomic, markFinalizedScript, hFound,
      sealText_encode hOpen, ScriptResult.outcome]

end

/-! ### Two records -/

section

/-- A codec that knows a record and the same record sealed. -/
def decodeEither (state : ChannelState) (text : String) : Except StoreError ChannelState :=
  if text = state.encode (fun _ => "") then .ok state
  else if text = { state with sealed := true }.encode (fun _ => "") then
    .ok { state with sealed := true }
  else .error (.serialization text)

theorem numbersPrint_openedChannel :
    (openedChannel.toJson fun _ => "").NumbersPrint := by
  simp [openedChannel, ChannelState.toJson, ChannelState.earlierFields, ChannelState.laterFields,
    ChannelState.termsFields, ChannelState.deliveryFields, ChannelState.bookkeepingFields,
    jsonOption, jsonList, skippedField, Json.NumbersPrint, Json.NumbersPrintMembers,
    Json.NumbersPrintItems]

/-- A record whose committed delivery keeps a response with a member `sealed`. -/
def respondedChannel : ChannelState :=
  { openedChannel with
    committedDeliveries := [⟨"delivery", 1, 1, "signature", none,
      some (.object [("sealed", .bool true)]), 0, none⟩] }

end

end PayKit.Channel
