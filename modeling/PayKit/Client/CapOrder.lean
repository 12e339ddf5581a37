import PayKit.Client.Permissions
import PayKit.Control.Precedence

/-!
# The order of the caps

The permissions of a client document one order in which its caps resolve, from the
most specific to the least: the cap an origin override puts on the asset, the cap it
puts on stablecoins, the cap of a permission of the asset, and the cap on stablecoins.
A cap that is not set leaves the decision to the next one.

`authorize` follows this order with one exception. Where it reaches the permissions of
the asset, it takes the first that is listed and stops there, also when that permission
has no cap: what comes later in the order, which for a stablecoin is the global cap,
is then not looked at.
-/

namespace PayKit.Client

open Charge Control Machine Solana

namespace ClientPermissions

/-! ### What the documentation says -/

/-- The first cap set among permissions of the asset. -/
def assetCap (permissions : List AssetPermission) (network : SolanaNetwork) (mint : Pubkey) :
    Option ℕ :=
  permissions.findSome? fun permission =>
    if permission.matches? network mint then permission.maxAmountPerPayment else none

/-- A cap that applies to known stablecoins only. -/
def forStablecoins (knownAsset : Bool) (setting : Setting UsdAmount) : Setting ℕ :=
  if knownAsset then setting.map (Option.map (·.microUsd)) else none

/-- The documented order of the caps. -/
def documentedOrder (permissions : ClientPermissions) (origin : String) (network : SolanaNetwork)
    (mint : Pubkey) (knownAsset : Bool) : List (Setting ℕ) :=
  let originOverride := permissions.originOverrides origin
  [(originOverride.bind fun entry => assetCap entry.assetCaps network mint).map some,
    forStablecoins knownAsset (originOverride.bind (·.maxAmountPerPayment)),
    (assetCap permissions.allowedAssets network mint).map some,
    forStablecoins knownAsset (permissions.maxAmountPerPayment.map some)]

/-- The cap in force according to the documented order. -/
def documentedCap (permissions : ClientPermissions) (origin : String) (network : SolanaNetwork)
    (mint : Pubkey) (knownAsset : Bool) : Option ℕ :=
  resolve (permissions.documentedOrder origin network mint knownAsset)

/-- Everything but the amount is allowed: `origin` is the normalized origin of the payment
and `mint` the key of its asset. A payment names its primary recipient first, so one that
names nobody has no destination to allow. -/
structure Admits (parseUrl : String → Option Url) (permissions : ClientPermissions)
    (candidate : PaymentCandidate) (origin : String) (mint : Pubkey) : Prop where
  normalized : normalizeOrigin parseUrl candidate.origin = .ok origin
  origin_allowed : permissions.allowedOrigins.allows origin = true
  network_allowed : candidate.network ∈ permissions.allowedNetworks
  destinations : candidate.destinations ≠ []
  recipients_allowed : ∀ destination ∈ candidate.destinations,
    permissions.allowedRecipients.allows destination.recipient = true
  adds_up : (candidate.destinations.map (·.amount)).sum = candidate.amount
  fits : candidate.amount ≤ u64Max
  parsed : Pubkey.fromStr candidate.mint = .ok mint
  asset_allowed : permissions.allowAnyAsset = true ∨ isKnownStablecoinMint candidate.mint = true ∨
    ∃ permission ∈ permissions.allowedAssets, permission.matches? candidate.network mint = true

/-- What the documentation permits. -/
def Documented (parseUrl : String → Option Url) (permissions : ClientPermissions)
    (candidate : PaymentCandidate) : Prop :=
  ∃ origin mint, permissions.Admits parseUrl candidate origin mint ∧
    Within (permissions.documentedCap origin candidate.network mint
      (isKnownStablecoinMint candidate.mint)) candidate.amount

/-- No cap of the payment's origin decides, and the first permission that is listed for the
asset has no cap. -/
structure HidesCaps (permissions : ClientPermissions) (origin : String) (network : SolanaNetwork)
    (mint : Pubkey) (knownAsset : Bool) : Prop where
  no_origin_asset_cap : originAssetCap (permissions.originOverrides origin) network mint = none
  no_origin_cap : knownAsset = true →
    (permissions.originOverrides origin).bind (·.maxAmountPerPayment) = none
  uncapped : ∃ permission,
    assetPermission permissions.allowedAssets network mint = some permission ∧
      permission.maxAmountPerPayment = none

/-! ### Caps of assets -/

theorem assetCap_of_none {permissions : List AssetPermission} {network : SolanaNetwork}
    {mint : Pubkey} (hNone : assetPermission permissions network mint = none) :
    assetCap permissions network mint = none := by
  simp only [assetPermission, List.find?_eq_none] at hNone
  simp only [assetCap, List.findSome?_eq_none_iff]
  intro permission hMem
  rw [if_neg (hNone permission hMem)]

theorem assetCap_of_capped {permissions : List AssetPermission} {network : SolanaNetwork}
    {mint : Pubkey} {permission : AssetPermission} {cap : ℕ}
    (hFirst : assetPermission permissions network mint = some permission)
    (hCap : permission.maxAmountPerPayment = some cap) :
    assetCap permissions network mint = some cap := by
  induction permissions with
  | nil => cases hFirst
  | cons head permissions hInduction =>
      simp only [assetPermission, List.find?_cons] at hFirst
      simp only [assetCap, List.findSome?_cons]
      cases hMatches : head.matches? network mint with
      | true =>
          simp only [hMatches, Option.some.injEq] at hFirst
          simp [hFirst, hCap]
      | false =>
          simp only [hMatches] at hFirst
          simpa [assetCap] using hInduction hFirst

theorem originAssetCap_eq (originOverride : Option OriginPermissionOverride)
    (network : SolanaNetwork) (mint : Pubkey) :
    originAssetCap originOverride network mint =
      originOverride.bind fun entry => assetCap entry.assetCaps network mint := by
  cases originOverride with
  | none => rfl
  | some entry =>
      cases hFirst : assetPermission entry.assetCaps network mint with
      | none => simp [originAssetCap, hFirst, assetCap_of_none hFirst]
      | some permission =>
          have hCapped := entry.assetCaps_capped permission (List.mem_of_find?_eq_some hFirst)
          rcases Option.isSome_iff_exists.mp hCapped with ⟨cap, hCap⟩
          simp [originAssetCap, hFirst, hCap, assetCap_of_capped hFirst hCap]

/-! ### The cap in force -/

theorem cap_eq_documentedCap {permissions : ClientPermissions} {origin : String}
    {network : SolanaNetwork} {mint : Pubkey} {knownAsset : Bool}
    (hShown : ¬permissions.HidesCaps origin network mint knownAsset) :
    permissions.cap origin network mint knownAsset =
      permissions.documentedCap origin network mint knownAsset := by
  simp only [cap, documentedCap, documentedOrder, ← originAssetCap_eq]
  cases hOriginAsset : originAssetCap (permissions.originOverrides origin) network mint with
  | some cap => simp
  | none =>
      cases hOrigin : (permissions.originOverrides origin).bind (·.maxAmountPerPayment) with
      | some cap =>
          cases knownAsset with
          | true => simp [forStablecoins]
          | false =>
              cases hGlobal : assetPermission permissions.allowedAssets network mint with
              | none => simp [forStablecoins, assetCap_of_none hGlobal]
              | some permission =>
                  cases hCap : permission.maxAmountPerPayment with
                  | none => exact absurd ⟨hOriginAsset, nofun, permission, hGlobal, hCap⟩ hShown
                  | some cap => simp [forStablecoins, hCap, assetCap_of_capped hGlobal hCap]
      | none =>
          cases hGlobal : assetPermission permissions.allowedAssets network mint with
          | none =>
              cases knownAsset <;> cases hCap : permissions.maxAmountPerPayment <;>
                simp [forStablecoins, assetCap_of_none hGlobal]
          | some permission =>
              cases hCap : permission.maxAmountPerPayment with
              | none =>
                  exact absurd ⟨hOriginAsset, fun _ => hOrigin, permission, hGlobal, hCap⟩ hShown
              | some cap =>
                  cases knownAsset <;>
                    simp [forStablecoins, hCap, assetCap_of_capped hGlobal hCap]

theorem cap_of_hidesCaps {permissions : ClientPermissions} {origin : String}
    {network : SolanaNetwork} {mint : Pubkey} {knownAsset : Bool}
    (hHides : permissions.HidesCaps origin network mint knownAsset) :
    permissions.cap origin network mint knownAsset = none := by
  rcases hHides with ⟨hOriginAsset, hOrigin, permission, hGlobal, hCap⟩
  cases knownAsset with
  | true => simp [cap, hOriginAsset, hOrigin rfl, hGlobal, hCap]
  | false => simp [cap, hOriginAsset, hGlobal, hCap]

/-! ### Accepted payments -/

theorem foldlM_checkedAdd {destinations : List PaymentDestination} {start amount : ℕ}
    (hStart : start ≤ u64Max) :
    destinations.foldlM (fun total destination => checkedAdd total destination.amount) start =
        some amount ↔
      start + (destinations.map (·.amount)).sum = amount ∧ amount ≤ u64Max := by
  induction destinations generalizing start with
  | nil =>
      simp only [List.foldlM_nil, Option.pure_def, Option.some.injEq, List.map_nil, List.sum_nil]
      omega
  | cons destination destinations hInduction =>
      simp only [List.foldlM_cons, Option.bind_eq_bind, Option.bind_eq_some_iff, checkedAdd_eq_some,
        List.map_cons, List.sum_cons]
      constructor
      · rintro ⟨total, ⟨rfl, hTotal⟩, hRest⟩
        have hSum := (hInduction hTotal).mp hRest
        omega
      · rintro ⟨hSum, hAmount⟩
        have hTotal : start + destination.amount ≤ u64Max := by omega
        exact ⟨_, ⟨rfl, hTotal⟩, (hInduction hTotal).mpr (by omega)⟩

theorem paid_eq_some {destinations : List PaymentDestination} {amount : ℕ} :
    paid destinations = some amount ↔
      (destinations.map (·.amount)).sum = amount ∧ amount ≤ u64Max := by
  rw [paid, foldlM_checkedAdd (Nat.zero_le _), Nat.zero_add]

theorem authorizeRecipients_eq_ok {permissions : ClientPermissions}
    {destinations : List PaymentDestination} {value : Unit} :
    authorizeRecipients permissions destinations = .ok value ↔
      ∀ destination ∈ destinations,
        permissions.allowedRecipients.allows destination.recipient = true := by
  simp only [authorizeRecipients]
  split
  · rename_i destination hFind
    have hDenied := List.find?_some hFind
    simp only [Bool.not_eq_true'] at hDenied
    simp only [reduceCtorEq, false_iff, not_forall]
    exact ⟨destination, List.mem_of_find?_eq_some hFind, by simp [hDenied]⟩
  · rename_i hFind
    simpa using hFind

theorem authorizeAmount_eq_ok {cap : Option ℕ} {amount : ℕ} {origin : String} {value : Unit} :
    authorizeAmount cap amount origin = .ok value ↔ Within cap amount := by
  cases cap <;> simp [authorizeAmount]

theorem asset_allowed_iff {permissions : ClientPermissions} {network : SolanaNetwork}
    {mint : Pubkey} {knownAsset : Bool} :
    ¬(permissions.allowAnyAsset = false ∧ knownAsset = false ∧
        assetPermission permissions.allowedAssets network mint = none) ↔
      permissions.allowAnyAsset = true ∨ knownAsset = true ∨
        ∃ permission ∈ permissions.allowedAssets, permission.matches? network mint = true := by
  cases permissions.allowAnyAsset <;> cases knownAsset <;>
    simp [assetPermission, List.find?_eq_none]

theorem authorize_eq_ok {parseUrl : String → Option Url} {permissions : ClientPermissions}
    {candidate : PaymentCandidate} (hNetworks : permissions.allowedNetworks ≠ ∅) :
    (∃ payment, permissions.authorize parseUrl candidate = .ok payment) ↔
      ∃ origin mint, permissions.Admits parseUrl candidate origin mint ∧
        Within (permissions.cap origin candidate.network mint
          (isKnownStablecoinMint candidate.mint)) candidate.amount := by
  simp only [authorize, bind_eq_ok, mapError_eq_ok, refuseIf_eq_ok, exists_const,
    authorizeAmount_eq_ok, authorizeRecipients_eq_ok, asset_allowed_iff, paid_eq_some, not_not,
    Bool.not_eq_false, List.isEmpty_iff, pure, Except.pure, Except.ok.injEq]
  constructor
  · rintro ⟨payment, origin, hOrigin, hAllowed, hNetwork, hNamed, ⟨hSum, hFits⟩, hRecipients, mint,
      hMint, hAsset, hWithin, -⟩
    have hMember : candidate.network ∈ permissions.allowedNetworks := by
      simpa [hNetworks] using hNetwork
    exact ⟨origin, mint, ⟨hOrigin, hAllowed, hMember, hNamed, hRecipients, hSum, hFits, hMint,
      hAsset⟩, hWithin⟩
  · rintro ⟨origin, mint, hAdmits, hWithin⟩
    exact ⟨_, origin, hAdmits.normalized, hAdmits.origin_allowed,
      fun hDenied => hDenied.2 hAdmits.network_allowed, hAdmits.destinations,
      ⟨hAdmits.adds_up, hAdmits.fits⟩, hAdmits.recipients_allowed, mint, hAdmits.parsed,
      hAdmits.asset_allowed, hWithin, rfl⟩

end ClientPermissions

/-! ### Built permissions -/

namespace ClientPermissionsBuilder

theorem call_allowedNetworks {parseUrl : String → Option Url}
    {builder called : ClientPermissionsBuilder} {next : Call}
    (hNetworks : builder.allowedNetworks ≠ ∅) (hCall : call parseUrl builder next = .ok called) :
    called.allowedNetworks ≠ ∅ := by
  cases next with
  | allowOrigin origin =>
      simp only [call, allowOrigin, bind_eq_ok, pure, Except.pure, Except.ok.injEq] at hCall
      rcases hCall with ⟨-, -, rfl⟩
      exact hNetworks
  | allowNetwork network =>
      cases hCall
      exact Finset.insert_ne_empty network builder.allowedNetworks
  | onlyNetwork network =>
      cases hCall
      exact Finset.singleton_ne_empty network
  | allowAnyOrigin => cases hCall; exact hNetworks
  | allowRecipient recipient => cases hCall; exact hNetworks
  | allowAnyRecipient => cases hCall; exact hNetworks
  | maxAmountPerPayment cap => cases hCall; exact hNetworks
  | withoutAmountCap => cases hCall; exact hNetworks
  | allowAnyAsset => cases hCall; exact hNetworks
  | allowAsset permission => cases hCall; exact hNetworks
  | overrideOrigin permission => cases hCall; exact hNetworks

theorem callAll_allowedNetworks {parseUrl : String → Option Url}
    {builder called : ClientPermissionsBuilder} {calls : List Call}
    (hNetworks : builder.allowedNetworks ≠ ∅)
    (hCalls : callAll parseUrl builder calls = .ok called) : called.allowedNetworks ≠ ∅ := by
  induction calls generalizing builder with
  | nil =>
      cases hCalls
      exact hNetworks
  | cons next calls hInduction =>
      simp only [callAll, List.foldlM_cons, bind_eq_ok] at hCalls
      rcases hCalls with ⟨between, hNext, hRest⟩
      exact hInduction (call_allowedNetworks hNetworks hNext) hRest

theorem call_allowedOrigins {parseUrl : String → Option Url}
    {left right leftCalled rightCalled : ClientPermissionsBuilder} {next : Call}
    (hOrigins : left.allowedOrigins = right.allowedOrigins)
    (hLeft : call parseUrl left next = .ok leftCalled)
    (hRight : call parseUrl right next = .ok rightCalled) :
    leftCalled.allowedOrigins = rightCalled.allowedOrigins := by
  cases next with
  | allowOrigin origin =>
      simp only [call, allowOrigin, bind_eq_ok, pure, Except.pure, Except.ok.injEq] at hLeft hRight
      rcases hLeft with ⟨normalized, hNormalized, rfl⟩
      rcases hRight with ⟨_, hSame, rfl⟩
      rw [hNormalized] at hSame
      cases hSame
      simp only [hOrigins]
  | allowAnyOrigin => cases hLeft; cases hRight; rfl
  | allowRecipient recipient => cases hLeft; cases hRight; exact hOrigins
  | allowAnyRecipient => cases hLeft; cases hRight; exact hOrigins
  | allowNetwork network => cases hLeft; cases hRight; exact hOrigins
  | onlyNetwork network => cases hLeft; cases hRight; exact hOrigins
  | maxAmountPerPayment cap => cases hLeft; cases hRight; exact hOrigins
  | withoutAmountCap => cases hLeft; cases hRight; exact hOrigins
  | allowAnyAsset => cases hLeft; cases hRight; exact hOrigins
  | allowAsset permission => cases hLeft; cases hRight; exact hOrigins
  | overrideOrigin permission => cases hLeft; cases hRight; exact hOrigins

theorem callAll_allowedOrigins {parseUrl : String → Option Url}
    {left right leftCalled rightCalled : ClientPermissionsBuilder} {calls : List Call}
    (hOrigins : left.allowedOrigins = right.allowedOrigins)
    (hLeft : callAll parseUrl left calls = .ok leftCalled)
    (hRight : callAll parseUrl right calls = .ok rightCalled) :
    leftCalled.allowedOrigins = rightCalled.allowedOrigins := by
  induction calls generalizing left right with
  | nil =>
      cases hLeft
      cases hRight
      exact hOrigins
  | cons next calls hInduction =>
      simp only [callAll, List.foldlM_cons, bind_eq_ok] at hLeft hRight
      rcases hLeft with ⟨leftBetween, hLeftNext, hLeftRest⟩
      rcases hRight with ⟨rightBetween, hRightNext, hRightRest⟩
      exact hInduction (call_allowedOrigins hOrigins hLeftNext hRightNext) hLeftRest hRightRest

/-- A call that overrides an origin leaves the allowed origins as they are, wherever it
stands in the chain. -/
theorem callAll_overrideOrigin {parseUrl : String → Option Url}
    {builder called overridden : ClientPermissionsBuilder} {before after : List Call}
    {permission : OriginPermissionOverride}
    (hCalls : callAll parseUrl builder (before ++ after) = .ok called)
    (hOverridden : callAll parseUrl builder (before ++ .overrideOrigin permission :: after) =
      .ok overridden) :
    overridden.allowedOrigins = called.allowedOrigins := by
  simp only [callAll, List.foldlM_append, List.foldlM_cons, bind_eq_ok] at hCalls hOverridden
  rcases hCalls with ⟨between, hBefore, hAfter⟩
  rcases hOverridden with ⟨_, hSame, inserted, hInserted, hOverridden⟩
  rw [hBefore] at hSame
  cases hSame
  cases hInserted
  have hOrigins : (overrideOrigin between permission).allowedOrigins = between.allowedOrigins := rfl
  exact callAll_allowedOrigins hOrigins hOverridden hAfter

theorem build_eq_ok {builder : ClientPermissionsBuilder} {permissions : ClientPermissions} :
    build builder = .ok permissions ↔
      builder.allowedOrigins.isEmptyList = false ∧ builder = permissions := by
  simp only [build]
  split <;> rename_i hEmpty <;> simp [hEmpty]

end ClientPermissionsBuilder

open ClientPermissionsBuilder

/-- The permissions a chain of calls builds. -/
def Built (parseUrl : String → Option Url) (calls : List Call) (permissions : ClientPermissions) :
    Prop :=
  (callAll parseUrl ClientPermissions.builder calls >>= build) = .ok permissions

theorem Built.callAll {parseUrl : String → Option Url} {calls : List Call}
    {permissions : ClientPermissions} (hBuilt : Built parseUrl calls permissions) :
    callAll parseUrl ClientPermissions.builder calls = .ok permissions := by
  simp only [Built, bind_eq_ok, build_eq_ok] at hBuilt
  rcases hBuilt with ⟨builder, hCalls, -, rfl⟩
  exact hCalls

theorem Built.allowedNetworks {parseUrl : String → Option Url} {calls : List Call}
    {permissions : ClientPermissions} (hBuilt : Built parseUrl calls permissions) :
    permissions.allowedNetworks ≠ ∅ :=
  callAll_allowedNetworks (Finset.singleton_ne_empty SolanaNetwork.mainnet) hBuilt.callAll

/-- What the documentation promises of the permissions that a chain of calls builds and of
a payment: the payment is authorized when it is allowed and within the cap in force, and
an override of an origin, wherever it is added, does not admit a payment from an origin
that was not allowed. -/
structure FollowsDocumentation (parseUrl : String → Option Url) (calls : List Call)
    (permissions : ClientPermissions) (candidate : PaymentCandidate) : Prop where
  authorized : (∃ payment, permissions.authorize parseUrl candidate = .ok payment) ↔
    permissions.Documented parseUrl candidate
  overridden : ∀ before after override overridden, calls = before ++ after →
    Built parseUrl (before ++ .overrideOrigin override :: after) overridden →
    (∃ payment, overridden.authorize parseUrl candidate = .ok payment) →
    ∃ origin, normalizeOrigin parseUrl candidate.origin = .ok origin ∧
      permissions.allowedOrigins.allows origin = true

/-- The payment is allowed, the first permission of its asset hides the caps that come
later in the order, and the amount exceeds one of these. -/
def ExceedsHiddenCap (parseUrl : String → Option Url) (permissions : ClientPermissions)
    (candidate : PaymentCandidate) : Prop :=
  ∃ origin mint, permissions.Admits parseUrl candidate origin mint ∧
    permissions.HidesCaps origin candidate.network mint (isKnownStablecoinMint candidate.mint) ∧
    ∃ cap, permissions.documentedCap origin candidate.network mint
      (isKnownStablecoinMint candidate.mint) = some cap ∧ cap < candidate.amount

theorem overridden_origin_allowed {parseUrl : String → Option Url} {before after : List Call}
    {permissions overridden : ClientPermissions} {override : OriginPermissionOverride}
    {candidate : PaymentCandidate} (hBuilt : Built parseUrl (before ++ after) permissions)
    (hOverridden : Built parseUrl (before ++ .overrideOrigin override :: after) overridden)
    (hAuthorized : ∃ payment, overridden.authorize parseUrl candidate = .ok payment) :
    ∃ origin, normalizeOrigin parseUrl candidate.origin = .ok origin ∧
      permissions.allowedOrigins.allows origin = true := by
  have hOrigins := callAll_overrideOrigin hBuilt.callAll hOverridden.callAll
  rcases (ClientPermissions.authorize_eq_ok hOverridden.allowedNetworks).mp hAuthorized with
    ⟨origin, mint, hAdmits, -⟩
  refine ⟨origin, hAdmits.normalized, ?_⟩
  rw [← hOrigins]
  exact hAdmits.origin_allowed

theorem not_follows_of_exceedsHiddenCap {parseUrl : String → Option Url} {calls : List Call}
    {permissions : ClientPermissions} {candidate : PaymentCandidate}
    (hBuilt : Built parseUrl calls permissions)
    (hExceeds : ExceedsHiddenCap parseUrl permissions candidate) :
    ¬FollowsDocumentation parseUrl calls permissions candidate := by
  intro hFollows
  rcases hExceeds with ⟨origin, mint, hAdmits, hHides, cap, hCap, hExceeds⟩
  have hAuthorized : ∃ payment, permissions.authorize parseUrl candidate = .ok payment := by
    rw [ClientPermissions.authorize_eq_ok hBuilt.allowedNetworks]
    refine ⟨origin, mint, hAdmits, ?_⟩
    rw [ClientPermissions.cap_of_hidesCaps hHides]
    exact within_none candidate.amount
  -- The origin and the key of a payment are determined, so the documented cap is this one.
  rcases hFollows.authorized.mp hAuthorized with ⟨origin', mint', hAdmits', hWithin⟩
  have hOrigin : origin' = origin :=
    Except.ok.inj (hAdmits'.normalized.symm.trans hAdmits.normalized)
  have hMint : mint' = mint := Except.ok.inj (hAdmits'.parsed.symm.trans hAdmits.parsed)
  rw [hOrigin, hMint, hCap, within_some] at hWithin
  omega

theorem authorize_iff_documented {parseUrl : String → Option Url} {permissions : ClientPermissions}
    {candidate : PaymentCandidate} (hNetworks : permissions.allowedNetworks ≠ ∅)
    (hShown : ¬ExceedsHiddenCap parseUrl permissions candidate) :
    (∃ payment, permissions.authorize parseUrl candidate = .ok payment) ↔
      permissions.Documented parseUrl candidate := by
  rw [ClientPermissions.authorize_eq_ok hNetworks]
  refine exists_congr fun origin => exists_congr fun mint => and_congr_right fun hAdmits => ?_
  by_cases hHides : permissions.HidesCaps origin candidate.network mint
      (isKnownStablecoinMint candidate.mint)
  · rw [ClientPermissions.cap_of_hidesCaps hHides]
    refine iff_of_true (within_none candidate.amount) ?_
    by_contra hExceeds
    rcases not_within.mp hExceeds with ⟨cap, hCap, hLess⟩
    exact hShown ⟨origin, mint, hAdmits, hHides, cap, hCap, hLess⟩
  · rw [ClientPermissions.cap_eq_documentedCap hHides]

/-- The permissions decide as documented exactly when the amount does not exceed a hidden cap. -/
theorem authorize_follows_documentation_iff {parseUrl : String → Option Url} {calls : List Call}
    {permissions : ClientPermissions} (hBuilt : Built parseUrl calls permissions)
    (candidate : PaymentCandidate) :
    FollowsDocumentation parseUrl calls permissions candidate ↔
      ¬ExceedsHiddenCap parseUrl permissions candidate := by
  constructor
  · intro hFollows hExceeds
    exact not_follows_of_exceedsHiddenCap hBuilt hExceeds hFollows
  · intro hShown
    refine ⟨authorize_iff_documented hBuilt.allowedNetworks hShown, ?_⟩
    rintro before after override overridden rfl hOverridden hAuthorized
    exact overridden_origin_allowed hBuilt hOverridden hAuthorized

/-! ### A permission without a cap -/

/-- A parser that reads one origin. -/
def readOrigin (text : String) : Option Url :=
  if text = "https://api.example.com" then
    some ⟨"https", false, "", none, "https://api.example.com"⟩
  else none

def usdcKey : Pubkey :=
  ⟨[198, 250, 122, 243, 190, 219, 173, 58, 61, 101, 243, 106, 171, 201, 116, 49, 177, 187, 228, 194,
    210, 246, 224, 228, 124, 166, 2, 3, 69, 47, 93, 97], rfl⟩

set_option maxRecDepth 10000 in
theorem display_usdcKey : usdcKey.display = mints.usdcMainnet := by
  decide

theorem fromStr_usdcMainnet : Pubkey.fromStr mints.usdcMainnet = .ok usdcKey := by
  rw [← display_usdcKey]
  exact Pubkey.fromStr_display usdcKey

/-- The permission of USDC without a cap. -/
def usdcPermission : AssetPermission :=
  ⟨.mainnet, usdcKey, none, AssetPermission.cap_pos_none⟩

theorem new_usdc : AssetPermission.new .mainnet "USDC" = .ok usdcPermission := by
  have hMint : resolveStablecoinMint "USDC" (some SolanaNetwork.mainnet.asStr) =
      some mints.usdcMainnet := by decide
  simp only [AssetPermission.new, AssetPermission.assetMint, hMint, Option.getD_some,
    fromStr_usdcMainnet]
  rfl

/-- The permissions of `builder().allow_asset(AssetPermission::new(Mainnet, "USDC"))`. -/
def usdcPermitted : ClientPermissions :=
  allowAsset ClientPermissions.builder usdcPermission

/-- A payment of `amount` in USDC to one recipient. -/
def usdcPayment (amount : ℕ) : PaymentCandidate where
  origin := "https://api.example.com"
  network := .mainnet
  mint := mints.usdcMainnet
  amount := amount
  destinations := [⟨usdcKey, amount⟩]

theorem usdcPermitted_built :
    Built readOrigin [.allowAsset usdcPermission] usdcPermitted := by
  simp only [Built, bind_eq_ok, build_eq_ok]
  exact ⟨usdcPermitted, rfl, rfl, rfl⟩

theorem isKnownStablecoinMint_usdcMainnet : isKnownStablecoinMint mints.usdcMainnet = true := by
  decide

theorem documentedCap_usdcPermitted (origin : String) :
    usdcPermitted.documentedCap origin .mainnet usdcKey true = some 1000000 := by
  rfl

theorem usdcPermitted_admits {amount : ℕ} (hFits : amount ≤ u64Max) :
    usdcPermitted.Admits readOrigin (usdcPayment amount) "https://api.example.com" usdcKey where
  normalized := rfl
  origin_allowed := rfl
  network_allowed := Finset.mem_singleton_self _
  destinations := nofun
  recipients_allowed := by simp [usdcPermitted, allowAsset, ClientPermissions.builder,
    Allowlist.allows]
  adds_up := by simp [usdcPayment]
  fits := hFits
  parsed := fromStr_usdcMainnet
  asset_allowed := .inr (.inl isKnownStablecoinMint_usdcMainnet)

/-- A payment of one dollar is decided as documented. -/
theorem authorize_follows_documentation_usdc :
    FollowsDocumentation readOrigin [.allowAsset usdcPermission] usdcPermitted
      (usdcPayment 1000000) := by
  rw [authorize_follows_documentation_iff usdcPermitted_built]
  rintro ⟨origin, mint, hAdmits, -, cap, hCap, hExceeds⟩
  have hMint : mint = usdcKey := Except.ok.inj (hAdmits.parsed.symm.trans fromStr_usdcMainnet)
  have hKnown : isKnownStablecoinMint (usdcPayment 1000000).mint = true :=
    isKnownStablecoinMint_usdcMainnet
  have hOneDollar := documentedCap_usdcPermitted origin
  rw [hMint, hKnown] at hCap
  cases hOneDollar.symm.trans hCap
  exact absurd hExceeds (lt_irrefl _)

/-- Two dollars are authorized although the global cap is one. -/
theorem authorize_above_globalCap :
    AssetPermission.new .mainnet "USDC" = .ok usdcPermission ∧
      Built readOrigin [.allowAsset usdcPermission] usdcPermitted ∧
      ¬FollowsDocumentation readOrigin [.allowAsset usdcPermission] usdcPermitted
        (usdcPayment 2000000) := by
  have hKnown : isKnownStablecoinMint (usdcPayment 2000000).mint = true :=
    isKnownStablecoinMint_usdcMainnet
  have hFits : 2000000 ≤ u64Max := by decide
  refine ⟨new_usdc, usdcPermitted_built, not_follows_of_exceedsHiddenCap usdcPermitted_built
    ⟨_, usdcKey, usdcPermitted_admits hFits, ?_, 1000000, ?_, ?_⟩⟩
  · refine ⟨rfl, fun _ => rfl, usdcPermission, ?_, rfl⟩
    rfl
  · rw [hKnown]
    exact documentedCap_usdcPermitted _
  · show 1000000 < 2000000
    decide

end PayKit.Client
