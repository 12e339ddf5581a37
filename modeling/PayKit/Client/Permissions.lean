import Mathlib.Data.Finset.Insert
import Mathlib.Logic.Function.Basic
import PayKit.Arithmetic.Machine
import PayKit.Charge.Builder
import PayKit.Control.Refusal

/-!
# Client permissions

A paying client checks every automatic payment against its permissions before it
builds or signs anything. The permissions are made by a builder whose calls may be
repeated in any order; some calls take values that have builders of their own, and
these are kept here as structures that carry what their constructors check: a cap
is positive, and every asset an origin override lists has a cap.

Parsing a URL is the work of a library, so it is a parameter. Sets of the source are
finite sets here, and the overrides, a map from origins, a function.
-/

namespace PayKit.Client

open Charge Control Machine Solana

/-! ### Values of the configuration -/

inductive SolanaNetwork where
  | mainnet
  | devnet
  | localnet
deriving DecidableEq, Repr

def SolanaNetwork.asStr : SolanaNetwork → String
  | .mainnet => "mainnet"
  | .devnet => "devnet"
  | .localnet => "localnet"

/-- `PermissionConfigError`, as far as building permissions returns it. -/
inductive PermissionConfigError where
  | invalidUsdAmount (text : String)
  | invalidAtomicCap
  | invalidAsset (asset : String)
  | invalidOrigin (origin : String)
  | emptyOriginAllowlist
deriving DecidableEq, Repr

/-- What is read off a parsed `Url`; `origin` is the ASCII serialization of its origin. -/
structure Url where
  scheme : String
  cannotBeABase : Bool
  username : String
  password : Option String
  origin : String

def normalizeOrigin (parseUrl : String → Option Url) (value : String) :
    Except PermissionConfigError String := do
  let url ← okOr (parseUrl value) (.invalidOrigin value)
  refuseIf ((url.scheme ≠ "http" ∧ url.scheme ≠ "https") ∨ url.cannotBeABase = true ∨
      url.username ≠ "" ∨ url.password.isSome = true) (.invalidOrigin value)
  return url.origin

/-- `UsdAmount`: a limit in micro-dollars. -/
structure UsdAmount where
  microUsd : ℕ
  microUsd_pos : 0 < microUsd
deriving DecidableEq

def UsdAmount.fromMicroUsd (value : ℕ) : Except PermissionConfigError UsdAmount :=
  if hPositive : 0 < value then .ok ⟨value, hPositive⟩
  else .error (.invalidUsdAmount "USD limits must be greater than zero")

/-- `DEFAULT_MAX_AMOUNT_MICRO_USD`. -/
def defaultMaxAmount : UsdAmount :=
  ⟨1000000, by decide⟩

structure AssetPermission where
  network : SolanaNetwork
  mint : Pubkey
  maxAmountPerPayment : Option ℕ
  cap_pos : ∀ cap ∈ maxAmountPerPayment, 0 < cap

namespace AssetPermission

theorem cap_pos_none : ∀ cap ∈ (none : Option ℕ), 0 < cap := by
  simp

/-- The key an asset is named by: the mint of a symbol on the network, or the text itself. -/
def assetMint (network : SolanaNetwork) (asset : String) : Except PermissionConfigError Pubkey :=
  (Pubkey.fromStr ((resolveStablecoinMint asset (some network.asStr)).getD asset)).mapError
    fun _ => .invalidAsset asset

def new (network : SolanaNetwork) (asset : String) :
    Except PermissionConfigError AssetPermission := do
  let mint ← assetMint network asset
  return ⟨network, mint, none, cap_pos_none⟩

def withCap (network : SolanaNetwork) (asset : String) (maxAmountPerPayment : ℕ) :
    Except PermissionConfigError AssetPermission :=
  if hPositive : 0 < maxAmountPerPayment then do
    let mint ← assetMint network asset
    return ⟨network, mint, some maxAmountPerPayment, by simpa using hPositive⟩
  else .error .invalidAtomicCap

def matches? (permission : AssetPermission) (network : SolanaNetwork) (mint : Pubkey) : Bool :=
  permission.network = network ∧ permission.mint = mint

end AssetPermission

/-- `OriginPermissionOverride`. The USD cap has three states: not overridden, overridden by
no cap, and overridden by a cap. -/
structure OriginPermissionOverride where
  origin : String
  maxAmountPerPayment : Option (Option UsdAmount)
  assetCaps : List AssetPermission
  assetCaps_capped : ∀ permission ∈ assetCaps, permission.maxAmountPerPayment.isSome

/-- The builder of an override has the fields of the override; its origin is still the text
that was given. -/
abbrev OriginPermissionOverrideBuilder : Type := OriginPermissionOverride

def OriginPermissionOverride.builder (origin : String) : OriginPermissionOverrideBuilder :=
  ⟨origin, none, [], by simp⟩

namespace OriginPermissionOverrideBuilder

def maxAmountPerPayment (builder : OriginPermissionOverrideBuilder) (cap : UsdAmount) :
    OriginPermissionOverrideBuilder :=
  { builder with maxAmountPerPayment := some (some cap) }

def withoutAmountCap (builder : OriginPermissionOverrideBuilder) :
    OriginPermissionOverrideBuilder :=
  { builder with maxAmountPerPayment := some none }

def assetCap (builder : OriginPermissionOverrideBuilder) (network : SolanaNetwork) (asset : String)
    (cap : ℕ) : Except PermissionConfigError OriginPermissionOverrideBuilder :=
  if hPositive : 0 < cap then do
    let mint ← AssetPermission.assetMint network asset
    return { builder with
      assetCaps := builder.assetCaps ++ [⟨network, mint, some cap, by simpa using hPositive⟩]
      assetCaps_capped := by
        intro permission hMem
        rcases List.mem_append.mp hMem with hOld | hNew
        · exact builder.assetCaps_capped permission hOld
        · rw [List.mem_singleton.mp hNew]
          rfl }
  else .error .invalidAtomicCap

def build (parseUrl : String → Option Url) (builder : OriginPermissionOverrideBuilder) :
    Except PermissionConfigError OriginPermissionOverride := do
  let origin ← normalizeOrigin parseUrl builder.origin
  return { builder with origin := origin }

end OriginPermissionOverrideBuilder

/-- What may take part in a payment: anything, or only what is listed. -/
inductive Allowlist (Item : Type) where
  | any
  | only (items : Finset Item)

namespace Allowlist

variable {Item : Type} [DecidableEq Item]

/-- Add to the list; the first addition turns an allowlist of everything into a list. -/
def allow (item : Item) : Allowlist Item → Allowlist Item
  | .any => .only {item}
  | .only items => .only (insert item items)

/-- Whether the allowlist is a list without items. -/
def isEmptyList : Allowlist Item → Bool
  | .any => false
  | .only items => items = ∅

/-- Whether the allowlist admits the item. -/
def allows (item : Item) : Allowlist Item → Bool
  | .any => true
  | .only items => item ∈ items

end Allowlist

abbrev AllowedOrigins : Type := Allowlist String

abbrev AllowedRecipients : Type := Allowlist Pubkey

structure ClientPermissions where
  allowedOrigins : AllowedOrigins
  allowedRecipients : AllowedRecipients
  allowedNetworks : Finset SolanaNetwork
  maxAmountPerPayment : Option UsdAmount
  allowAnyAsset : Bool
  allowedAssets : List AssetPermission
  originOverrides : String → Option OriginPermissionOverride

/-! ### The builder -/

/-- The builder of permissions has the fields of the permissions. -/
abbrev ClientPermissionsBuilder : Type := ClientPermissions

def ClientPermissions.builder : ClientPermissionsBuilder where
  allowedOrigins := .any
  allowedRecipients := .any
  allowedNetworks := {.mainnet}
  maxAmountPerPayment := some defaultMaxAmount
  allowAnyAsset := false
  allowedAssets := []
  originOverrides := fun _ => none

namespace ClientPermissionsBuilder

def allowOrigin (parseUrl : String → Option Url) (builder : ClientPermissionsBuilder)
    (origin : String) : Except PermissionConfigError ClientPermissionsBuilder := do
  let origin ← normalizeOrigin parseUrl origin
  return { builder with allowedOrigins := builder.allowedOrigins.allow origin }

def allowAnyOrigin (builder : ClientPermissionsBuilder) : ClientPermissionsBuilder :=
  { builder with allowedOrigins := .any }

def allowRecipient (builder : ClientPermissionsBuilder) (recipient : Pubkey) :
    ClientPermissionsBuilder :=
  { builder with allowedRecipients := builder.allowedRecipients.allow recipient }

def allowAnyRecipient (builder : ClientPermissionsBuilder) : ClientPermissionsBuilder :=
  { builder with allowedRecipients := .any }

def allowNetwork (builder : ClientPermissionsBuilder) (network : SolanaNetwork) :
    ClientPermissionsBuilder :=
  { builder with allowedNetworks := insert network builder.allowedNetworks }

def onlyNetwork (builder : ClientPermissionsBuilder) (network : SolanaNetwork) :
    ClientPermissionsBuilder :=
  { builder with allowedNetworks := {network} }

def maxAmountPerPayment (builder : ClientPermissionsBuilder) (cap : UsdAmount) :
    ClientPermissionsBuilder :=
  { builder with maxAmountPerPayment := some cap }

def withoutAmountCap (builder : ClientPermissionsBuilder) : ClientPermissionsBuilder :=
  { builder with maxAmountPerPayment := none }

def allowAnyAsset (builder : ClientPermissionsBuilder) : ClientPermissionsBuilder :=
  { builder with allowAnyAsset := true }

def allowAsset (builder : ClientPermissionsBuilder) (permission : AssetPermission) :
    ClientPermissionsBuilder :=
  { builder with allowedAssets := builder.allowedAssets ++ [permission] }

def overrideOrigin (builder : ClientPermissionsBuilder) (permission : OriginPermissionOverride) :
    ClientPermissionsBuilder :=
  { builder with originOverrides :=
      Function.update builder.originOverrides permission.origin (some permission) }

def build (builder : ClientPermissionsBuilder) : Except PermissionConfigError ClientPermissions :=
  if builder.allowedOrigins.isEmptyList then .error .emptyOriginAllowlist else .ok builder

inductive Call where
  | allowOrigin (origin : String)
  | allowAnyOrigin
  | allowRecipient (recipient : Pubkey)
  | allowAnyRecipient
  | allowNetwork (network : SolanaNetwork)
  | onlyNetwork (network : SolanaNetwork)
  | maxAmountPerPayment (cap : UsdAmount)
  | withoutAmountCap
  | allowAnyAsset
  | allowAsset (permission : AssetPermission)
  | overrideOrigin (permission : OriginPermissionOverride)

def call (parseUrl : String → Option Url) (builder : ClientPermissionsBuilder) :
    Call → Except PermissionConfigError ClientPermissionsBuilder
  | .allowOrigin origin => allowOrigin parseUrl builder origin
  | .allowAnyOrigin => .ok (allowAnyOrigin builder)
  | .allowRecipient recipient => .ok (allowRecipient builder recipient)
  | .allowAnyRecipient => .ok (allowAnyRecipient builder)
  | .allowNetwork network => .ok (allowNetwork builder network)
  | .onlyNetwork network => .ok (onlyNetwork builder network)
  | .maxAmountPerPayment cap => .ok (maxAmountPerPayment builder cap)
  | .withoutAmountCap => .ok (withoutAmountCap builder)
  | .allowAnyAsset => .ok (allowAnyAsset builder)
  | .allowAsset permission => .ok (allowAsset builder permission)
  | .overrideOrigin permission => .ok (overrideOrigin builder permission)

/-- Calls in a chain, each on the builder the one before it returned. -/
def callAll (parseUrl : String → Option Url) (builder : ClientPermissionsBuilder)
    (calls : List Call) : Except PermissionConfigError ClientPermissionsBuilder :=
  calls.foldlM (call parseUrl) builder

end ClientPermissionsBuilder

/-! ### Authorizing a payment -/

structure PaymentDestination where
  recipient : Pubkey
  amount : ℕ

structure PaymentCandidate where
  origin : String
  network : SolanaNetwork
  mint : String
  amount : ℕ
  destinations : List PaymentDestination

structure AuthorizedPayment where
  maxAmountAtomic : Option ℕ

inductive PermissionDeniedCode where
  | originNotAllowed
  | networkNotAllowed
  | assetNotAllowed
  | amountExceedsLimit
  | recipientNotAllowed
  | invalidChallengeTerms
deriving DecidableEq, Repr

structure PermissionRejection where
  code : PermissionDeniedCode
  message : String
  actual : Option ℕ
  limit : Option ℕ
deriving DecidableEq, Repr

def PermissionRejection.new (code : PermissionDeniedCode) (message : String) :
    PermissionRejection :=
  ⟨code, message, none, none⟩

def PermissionRejection.invalidTerms (message : String) : PermissionRejection :=
  .new .invalidChallengeTerms message

/-- The total of the destinations, when it fits. -/
def paid (destinations : List PaymentDestination) : Option ℕ :=
  destinations.foldlM (fun total destination => checkedAdd total destination.amount) 0

namespace ClientPermissions

/-- The permission of an asset: the first that is listed for it. -/
def assetPermission (permissions : List AssetPermission) (network : SolanaNetwork)
    (mint : Pubkey) : Option AssetPermission :=
  permissions.find? (·.matches? network mint)

/-- The cap the override of the payment's origin puts on the asset. -/
def originAssetCap (originOverride : Option OriginPermissionOverride) (network : SolanaNetwork)
    (mint : Pubkey) : Option ℕ := do
  let entry ← originOverride
  let permission ← assetPermission entry.assetCaps network mint
  permission.maxAmountPerPayment

/-- The cap `authorize` checks the amount against. -/
def cap (permissions : ClientPermissions) (origin : String) (network : SolanaNetwork)
    (mint : Pubkey) (knownAsset : Bool) : Option ℕ :=
  let originOverride := permissions.originOverrides origin
  let globalAsset := assetPermission permissions.allowedAssets network mint
  match originAssetCap originOverride network mint with
  | some cap => some cap
  | none =>
      if knownAsset then
        match originOverride.bind (·.maxAmountPerPayment) with
        | some cap => cap.map (·.microUsd)
        | none =>
            match globalAsset with
            | some permission => permission.maxAmountPerPayment
            | none => permissions.maxAmountPerPayment.map (·.microUsd)
      else globalAsset.bind (·.maxAmountPerPayment)

/-- A recipient outside the allowlist is refused, the first such recipient by name. -/
def authorizeRecipients (permissions : ClientPermissions)
    (destinations : List PaymentDestination) : Except PermissionRejection Unit :=
  match destinations.find? fun destination =>
      !permissions.allowedRecipients.allows destination.recipient with
  | some destination =>
      .error (.new .recipientNotAllowed
        s!"recipient {destination.recipient.display} is not allowed")
  | none => .ok ()

/-- The amount is checked against the cap, if there is one. -/
def authorizeAmount (cap : Option ℕ) (amount : ℕ) (origin : String) :
    Except PermissionRejection Unit :=
  match cap with
  | some cap =>
      refuseIf (cap < amount)
        ⟨.amountExceedsLimit, s!"payment amount {amount} exceeds cap {cap} for {origin}",
          some amount, some cap⟩
  | none => .ok ()

def authorize (parseUrl : String → Option Url) (permissions : ClientPermissions)
    (candidate : PaymentCandidate) : Except PermissionRejection AuthorizedPayment := do
  let origin ← (normalizeOrigin parseUrl candidate.origin).mapError
    fun _ => .invalidTerms "invalid response origin"
  refuseIf (permissions.allowedOrigins.allows origin = false)
    (.new .originNotAllowed s!"origin {origin} is not allowed")
  -- An empty set of networks, which only unrestricted permissions have, admits every network.
  refuseIf (permissions.allowedNetworks ≠ ∅ ∧ candidate.network ∉ permissions.allowedNetworks)
    (.new .networkNotAllowed s!"network {candidate.network.asStr} is not allowed")
  refuseIf (candidate.destinations.isEmpty = true) (.invalidTerms "payment names no recipient")
  refuseIf (paid candidate.destinations ≠ some candidate.amount)
    (.invalidTerms "payment destinations do not add up to the payment amount")
  authorizeRecipients permissions candidate.destinations
  let mint ← (Pubkey.fromStr candidate.mint).mapError
    fun _ => .invalidTerms "challenge asset is not a valid Solana mint"
  let knownAsset := isKnownStablecoinMint candidate.mint
  refuseIf (permissions.allowAnyAsset = false ∧ knownAsset = false ∧
      assetPermission permissions.allowedAssets candidate.network mint = none)
    (.new .assetNotAllowed
      s!"asset {candidate.mint} is not allowed on {candidate.network.asStr}")
  let cap := permissions.cap origin candidate.network mint knownAsset
  authorizeAmount cap candidate.amount origin
  return ⟨cap⟩

end ClientPermissions

end PayKit.Client
