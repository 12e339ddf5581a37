import PayKit.Mcp.Request

/-!
# What the digest of an MCP operation binds

Two requests are the same operation when they agree on their method, on their parameters and on
the metadata in either of its places, apart from the credential, the progress token and the
difference between an absent object and an empty one. The digest is taken of the method and of
the parameters, so requests with one digest can differ in the metadata at their root, and only
there unless the parameters are a literal `null`.
-/

namespace PayKit.Mcp

open Control Encoding
open Json (Value Map rounded)

/-- The members of an object, of which an absent one has none. -/
def membersOf (value : Option Value) : Option Map :=
  match value with
  | some value => value.asMap
  | none => some .empty

section

variable (double : Json → String)

/-- The values are the same up to their numbers. -/
def SameValue (left right : Option Value) : Prop :=
  left.map (fun value => rounded double value.1) = right.map fun value => rounded double value.1

/-- The values are objects with members that are the same, or are the same values. -/
def SameApart (sameMember : String → Option Value → Option Value → Prop)
    (left right : Option Value) : Prop :=
  match membersOf left, membersOf right with
  | some leftMap, some rightMap => ∀ key, sameMember key (leftMap.get? key) (rightMap.get? key)
  | none, none => SameValue double left right
  | _, _ => False

/-- The metadata of a request that may change when it is sent again. -/
def retryKeys : List String :=
  [credentialMetaKey, "progressToken"]

/-- The application metadata is the same. -/
def SameMetadata : Option Value → Option Value → Prop :=
  SameApart double fun key left right => key ∈ retryKeys ∨ SameValue double left right

def SameParams : Option Value → Option Value → Prop :=
  SameApart double fun key left right =>
    if key = "_meta" then SameMetadata double left right else SameValue double left right

/-- The metadata at the roots of two requests is the same. -/
def SameRoot (left right : Request) : Prop :=
  SameMetadata double (left.metadata.map .ofMap) (right.metadata.map .ofMap)

structure SameOperation (left right : Request) : Prop where
  method : left.method = right.method
  params : SameParams double left.params right.params
  root : SameRoot double left right

end

/-- The parameters are the literal `null`. -/
def Request.NullParams (request : Request) : Prop :=
  request.params = some .null

/-! ### Values without some of their members -/

/-- The value without the members that are taken out of an object, and nothing for an object
that has no members left. -/
def without (strip : Map → Map) (value : Option Value) : Option Value :=
  match value.bind Value.asMap with
  | none => value
  | some map => if (strip map).isEmpty then none else some (.ofMap (strip map))

/-- The metadata without the credential and the progress token. -/
def applicationMetadata (metadata : Map) : Map :=
  (metadata.remove credentialMetaKey).remove "progressToken"

variable {double : Json → String} {strip : Map → Map} {left right : Option Value}
  {first second params : Map} {key : String} {request other : Request}

theorem operationParams_eq (request : Request) :
    request.operationParams = without removeRetryMetadata request.params :=
  rfl

theorem get?_removeRetryMetadata :
    (removeRetryMetadata params).get? key =
      if key = "_meta" then without applicationMetadata (params.get? "_meta")
      else params.get? key := by
  cases hMeta : (params.get? "_meta").bind Value.asMap with
  | none =>
      have hRemoved : removeRetryMetadata params = params := by
        simp only [removeRetryMetadata, hMeta]
      have hWithout : without applicationMetadata (params.get? "_meta") = params.get? "_meta" := by
        simp only [without, hMeta]
      rw [hRemoved, hWithout]
      split
      · rename_i hKey
        rw [hKey]
      · rfl
  | some metadata =>
      simp only [removeRetryMetadata, without, hMeta, applicationMetadata]
      by_cases hEmpty : ((metadata.remove credentialMetaKey).remove "progressToken").isEmpty = true
      · simp only [hEmpty, if_true, Map.get?_remove]
      · simp only [hEmpty, Bool.false_eq_true, if_false, Map.get?_insert]

theorem removeRetryMetadata_empty : removeRetryMetadata .empty = .empty := by
  apply Map.ext
  intro key
  rw [get?_removeRetryMetadata]
  split
  · rw [Map.get?_empty, Map.get?_empty]
    rfl
  · rfl

theorem applicationMetadata_empty : applicationMetadata .empty = .empty :=
  rfl

theorem sameMembers_of_sameValue (key : String)
    (hSame : SameValue double (some (.ofMap first)) (some (.ofMap second))) :
    SameValue double (first.get? key) (second.get? key) := by
  have hRounded : Json.roundedMembers double first.1 = Json.roundedMembers double second.1 := by
    have hObject := Option.some.inj hSame
    simpa only [Value.ofMap, rounded, Json.object.injEq] using hObject
  have hLookup := congrArg (List.lookup key) hRounded
  rw [Json.lookup_roundedMembers, Json.lookup_roundedMembers, ← Map.val_get?, ← Map.val_get?,
    Option.map_map, Option.map_map] at hLookup
  exact hLookup

theorem members_without (hEmpty : strip .empty = .empty) {map : Map}
    (hMembers : membersOf left = some map) :
    without strip left = if (strip map).isEmpty then none else some (.ofMap (strip map)) := by
  cases left with
  | none =>
      cases hMembers
      simp only [without, Option.bind_none, hEmpty]
      rfl
  | some value =>
      have hMap : value.asMap = some map := hMembers
      simp only [without, Option.bind_some, hMap]

theorem without_ofMap (map : Map) : without strip (some (.ofMap map)) =
    if (strip map).isEmpty then none else some (.ofMap (strip map)) :=
  rfl

theorem without_of_noMembers (hMembers : membersOf left = none) : without strip left = left := by
  cases left with
  | none => cases hMembers
  | some value =>
      have hMap : value.asMap = none := hMembers
      simp only [without, Option.bind_some, hMap]

theorem not_sameValue_ofMap {value : Value} (hMembers : value.asMap = none) {map : Map} :
    ¬SameValue double (some (.ofMap map)) (some value) := by
  intro hSame
  have hObject := Option.some.inj hSame
  simp only [Value.ofMap, rounded] at hObject
  rcases Json.rounded_eq_object.mp hObject.symm with ⟨members, hValue, -⟩
  rcases value with ⟨json, hOrdered⟩
  cases hValue
  cases hMembers

theorem SameValue.symm (hSame : SameValue double left right) : SameValue double right left :=
  Eq.symm hSame

theorem not_sameValue_without (hEmpty : strip .empty = .empty) {map : Map}
    (hLeft : membersOf left = some map) (hRight : membersOf right = none) :
    ¬SameValue double (without strip left) (without strip right) := by
  rw [members_without hEmpty hLeft, without_of_noMembers hRight]
  cases right with
  | none => cases hRight
  | some value =>
      split
      · intro hSame
        cases hSame
      · exact not_sameValue_ofMap hRight

theorem sameMembers_of_without (hEmpty : strip .empty = .empty)
    (hLeft : membersOf left = some first) (hRight : membersOf right = some second)
    (hSame : SameValue double (without strip left) (without strip right)) :
    SameValue double ((strip first).get? key) ((strip second).get? key) := by
  rw [members_without hEmpty hLeft, members_without hEmpty hRight] at hSame
  split at hSame <;> split at hSame
  · rename_i hFirst hSecond
    rw [Map.isEmpty_iff.mp hFirst, Map.isEmpty_iff.mp hSecond]
    rfl
  · cases hSame
  · cases hSame
  · exact sameMembers_of_sameValue _ hSame

theorem sameApart_of_without {sameMember : String → Option Value → Option Value → Prop}
    (hEmpty : strip .empty = .empty)
    (hMembers : ∀ first second key,
      (∀ key, SameValue double ((strip first).get? key) ((strip second).get? key)) →
        sameMember key (first.get? key) (second.get? key))
    (hSame : SameValue double (without strip left) (without strip right)) :
    SameApart double sameMember left right := by
  unfold SameApart
  cases hLeft : membersOf left with
  | none =>
      cases hRight : membersOf right with
      | none => rwa [without_of_noMembers hLeft, without_of_noMembers hRight] at hSame
      | some second => exact not_sameValue_without hEmpty hRight hLeft hSame.symm
  | some first =>
      cases hRight : membersOf right with
      | none => exact not_sameValue_without hEmpty hLeft hRight hSame
      | some second =>
          intro key
          exact hMembers first second key fun key =>
            sameMembers_of_without hEmpty hLeft hRight hSame

theorem sameMetadata_of_without
    (hSame : SameValue double (without applicationMetadata left)
      (without applicationMetadata right)) : SameMetadata double left right := by
  apply sameApart_of_without applicationMetadata_empty ?_ hSame
  intro first second key hMembers
  by_cases hKey : key ∈ retryKeys
  · exact .inl hKey
  · right
    simp only [retryKeys, List.mem_cons, List.not_mem_nil, or_false, not_or] at hKey
    simpa [applicationMetadata, hKey] using hMembers key

theorem sameParams_of_without
    (hSame : SameValue double (without removeRetryMetadata left)
      (without removeRetryMetadata right)) : SameParams double left right := by
  apply sameApart_of_without removeRetryMetadata_empty ?_ hSame
  intro first second key hMembers
  have hKey := hMembers key
  rw [get?_removeRetryMetadata, get?_removeRetryMetadata] at hKey
  split
  · rename_i hMeta
    rw [if_pos hMeta, if_pos hMeta] at hKey
    rw [hMeta]
    exact sameMetadata_of_without hKey
  · rename_i hMeta
    rwa [if_neg hMeta, if_neg hMeta] at hKey

/-! ### Equal digests -/

/-- Canonical JSON tells values apart up to their numbers, and the hash tells texts apart. -/
structure Codec.Ideal (codec : Codec) (double : Json → String) : Prop where
  canonical : ∀ left right text, codec.canonicalize left = .ok text →
    codec.canonicalize right = .ok text → rounded double left.1 = rounded double right.1
  collisionFree : Function.Injective codec.sha256

variable {codec : Codec} {digest : String}

theorem operation_of_digest (hIdeal : codec.Ideal double)
    (hLeft : request.operationDigest codec = .ok digest)
    (hRight : other.operationDigest codec = .ok digest) :
    rounded double request.operation.1 = rounded double other.operation.1 := by
  simp only [Request.operationDigest, bind_eq_ok, mapError_eq_ok, pure, Except.pure,
    Except.ok.injEq] at hLeft hRight
  rcases hLeft with ⟨text, hText, rfl⟩
  rcases hRight with ⟨otherText, hOtherText, hDigest⟩
  have hSame : codec.sha256 otherText = codec.sha256 text :=
    base64urlEncode_injective (String.append_right_inj _ |>.mp hDigest)
  rw [hIdeal.collisionFree hSame] at hOtherText
  exact hIdeal.canonical _ _ text hText hOtherText

theorem fields_of_operation
    (hSame : rounded double request.operation.1 = rounded double other.operation.1) :
    request.method = other.method ∧
      rounded double (request.operationParams.getD .null).1 =
        rounded double (other.operationParams.getD .null).1 := by
  have hObjects : SameValue double (some request.operation) (some other.operation) :=
    congrArg some hSame
  constructor
  · have hMethod := sameMembers_of_sameValue "method" hObjects
    simpa [SameValue, Value.ofText, rounded] using hMethod
  · have hParams := sameMembers_of_sameValue "params" hObjects
    simpa [SameValue] using hParams

theorem operationParams_eq_null :
    request.operationParams = some .null ↔ request.NullParams := by
  unfold Request.NullParams Request.operationParams
  cases hMap : request.params.bind Value.asMap with
  | none => rfl
  | some map =>
      constructor
      · intro hNull
        simp only at hNull
        split at hNull
        · cases hNull
        · cases congrArg (Option.map Subtype.val) hNull
      · intro hNull
        rw [hNull] at hMap
        cases hMap

theorem eq_null_of_rounded {value : Value}
    (hRounded : rounded double value.1 = rounded double Value.null.1) : value = .null := by
  apply Subtype.ext
  exact Json.rounded_eq_null.mp hRounded

theorem sameValue_of_getD
    (hNull : left = some .null ↔ right = some .null)
    (hSame : rounded double (left.getD .null).1 = rounded double (right.getD .null).1) :
    SameValue double left right := by
  cases left with
  | none =>
      cases right with
      | none => rfl
      | some value => exact absurd (hNull.mpr (congrArg some (eq_null_of_rounded hSame.symm))) nofun
  | some value =>
      cases right with
      | none => exact absurd (hNull.mp (congrArg some (eq_null_of_rounded hSame))) nofun
      | some other => exact congrArg some hSame

theorem sameParams_null (hParams : SameParams double left right) (hNull : left = some .null) :
    right = some .null := by
  rw [hNull] at hParams
  cases right with
  | none => cases hParams
  | some value =>
      cases hMap : value.asMap with
      | none =>
          simp only [SameParams, SameApart, membersOf, hMap] at hParams
          rw [eq_null_of_rounded (Option.some.inj hParams).symm]
      | some map =>
          simp only [SameParams, SameApart, membersOf, hMap] at hParams
          cases hParams

theorem SameApart.symm {sameMember : String → Option Value → Option Value → Prop}
    (hMember : ∀ key left right, sameMember key left right → sameMember key right left)
    (hSame : SameApart double sameMember left right) :
    SameApart double sameMember right left := by
  unfold SameApart at hSame ⊢
  cases hLeft : membersOf left with
  | none =>
      cases hRight : membersOf right with
      | none =>
          simp only [hLeft, hRight] at hSame ⊢
          exact hSame.symm
      | some second => simp only [hLeft, hRight] at hSame
  | some first =>
      cases hRight : membersOf right with
      | none => simp only [hLeft, hRight] at hSame
      | some second =>
          simp only [hLeft, hRight] at hSame ⊢
          exact fun key => hMember _ _ _ (hSame key)

theorem SameParams.symm (hParams : SameParams double left right) :
    SameParams double right left := by
  apply SameApart.symm ?_ hParams
  intro key left right hMember
  split at hMember
  · rename_i hKey
    rw [if_pos hKey]
    exact SameApart.symm (fun _ _ _ hSame => hSame.imp_right SameValue.symm) hMember
  · rename_i hKey
    rw [if_neg hKey]
    exact hMember.symm

/-- Requests with one digest are the same operation exactly when the metadata at their roots is
the same and neither alone has a literal `null` for its parameters. -/
theorem sameOperation_iff (hIdeal : codec.Ideal double)
    (hLeft : request.operationDigest codec = .ok digest)
    (hRight : other.operationDigest codec = .ok digest) :
    SameOperation double request other ↔
      SameRoot double request other ∧ (request.NullParams ↔ other.NullParams) := by
  rcases fields_of_operation (operation_of_digest hIdeal hLeft hRight) with ⟨hMethod, hParams⟩
  constructor
  · intro hSame
    exact ⟨hSame.root, sameParams_null hSame.params, sameParams_null hSame.params.symm⟩
  · rintro ⟨hRoot, hNull⟩
    refine ⟨hMethod, ?_, hRoot⟩
    apply sameParams_of_without
    apply sameValue_of_getD ?_ hParams
    rw [operationParams_eq_null, operationParams_eq_null]
    exact hNull

end PayKit.Mcp
