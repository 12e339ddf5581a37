import PayKit.Matching.Preference
import PayKit.X402.Requirements

/-!
# Which offer a client pays

`select_requirement` of `x402/client/exact/payment.rs` picks one of the offers of a server, and
`build_payment` refuses to pay an offer of another scheme, of an amount that is no number, or of a
cluster that is not the one of its network. The selection looks at none of these. It also reads
the network of an offer with another table than the builder.
-/

namespace PayKit.Exact

open Control Machine Matching X402

/-! ### The selection -/

structure ChallengeSelection where
  network : Option String
  currencies : Option (List String)

/-- `amount` of `select_requirement`. -/
def offeredAmount (requirement : PaymentRequirements) : ℕ :=
  (parseU64 requirement.amount).getD u64Max

def networkMatches (requirement : PaymentRequirements) (preferred : String) : Bool :=
  requirement.network = preferred ∨
    (preferred = solanaMainnet ∧ requirement.network = solanaNetwork) ∨
    requirement.cluster.map caip2NetworkForCluster = some preferred

def currenciesMatch (offered accepted : String) (cluster : Option String) : Bool :=
  (resolveStablecoinMint offered cluster).getD offered =
    (resolveStablecoinMint accepted cluster).getD accepted

/-- An offer in a currency that a client accepts. -/
def acceptsCurrency (accepted : String) (requirement : PaymentRequirements) : Bool :=
  currenciesMatch requirement.currency accepted requirement.cluster

def ChallengeSelection.preferredNetwork (selection : ChallengeSelection) : String :=
  (selection.network.map caip2NetworkForCluster).getD solanaMainnet

/-- The offers on a Solana network. -/
def solanaAccepts (accepts : List PaymentRequirements) : List PaymentRequirements :=
  accepts.filter fun requirement => (clusterForCaip2Network requirement.network).isSome

def onPreferredNetwork (accepts : List PaymentRequirements) (selection : ChallengeSelection) :
    List PaymentRequirements :=
  (solanaAccepts accepts).filter (networkMatches · selection.preferredNetwork)

def selectRequirement (accepts : List PaymentRequirements) (selection : ChallengeSelection) :
    Option PaymentRequirements :=
  match selection.currencies with
  | some currencies => currencies.findSome? fun accepted =>
      (onPreferredNetwork accepts selection).find? (acceptsCurrency accepted)
  | none =>
      let cheapest := (onPreferredNetwork accepts selection).argmin offeredAmount
      if selection.network.isSome then cheapest
      else cheapest.or ((solanaAccepts accepts).argmin offeredAmount)

/-! ### The builder -/

def signingCluster (requirements : PaymentRequirements) : Except Error String := do
  let network ← okOr (clusterForCaip2Network requirements.network)
    (.other ("Unsupported x402 network: " ++ requirements.network))
  match requirements.cluster with
  | some cluster =>
      refuseIf (clusterForCaip2Network cluster ≠ some network)
        (.other ("x402 cluster `" ++ cluster ++ "` does not match network " ++
          requirements.network) : Error)
  | none => pure ()
  return network

/-- The checks of `build_payment` on the scheme, the amount and the network of an offer. -/
def buildPaymentChecks (requirements : PaymentRequirements) : Except Error (ℕ × String) := do
  refuseIf (requirements.isExactScheme = false)
    (.invalidPayloadType "refusing to sign a non-exact offer as an exact payment" : Error)
  let amount ← okOr (parseU64 requirements.amount)
    (.other ("Invalid amount: " ++ requirements.amount))
  let cluster ← signingCluster requirements
  return (amount, cluster)

/-- The builder does not refuse the scheme, the amount or the network. -/
def Payable (requirements : PaymentRequirements) : Prop :=
  ∃ amount cluster, buildPaymentChecks requirements = .ok (amount, cluster)

/-! ### What a client wants -/

def SameNetwork (pin network : String) : Prop :=
  ∃ cluster, clusterForCaip2Network pin = some cluster ∧
    clusterForCaip2Network network = some cluster

namespace ChallengeSelection

variable (selection : ChallengeSelection) (accepts : List PaymentRequirements)

/-- A client looks at the offers on the network that it is pinned to. Without a pin these are the
offers on mainnet, and every Solana offer where there are none and no currencies are asked for. -/
def InScope (offer : PaymentRequirements) : Prop :=
  match selection.network with
  | some pin => SameNetwork pin offer.network
  | none => SameNetwork solanaMainnet offer.network ∨
      (selection.currencies = none ∧
        (∀ other ∈ accepts, ¬SameNetwork solanaMainnet other.network) ∧
        (clusterForCaip2Network offer.network).isSome)

/-- An offer in one of the currencies, if there are any. -/
def wanted (offer : PaymentRequirements) : Bool :=
  match selection.currencies with
  | some currencies => wished acceptsCurrency currencies offer
  | none => true

/-- The place of the first currency that an offer is in, or its amount. -/
def rank (offer : PaymentRequirements) : ℕ :=
  match selection.currencies with
  | some currencies => wishIndex acceptsCurrency currencies offer
  | none => offeredAmount offer

/-- An offer that no other offer in the scope of the client ranks before. -/
structure IsBest (offer : PaymentRequirements) : Prop where
  wanted : selection.wanted offer = true
  least : ∀ other ∈ accepts, selection.InScope accepts other → selection.wanted other = true →
    selection.rank offer ≤ selection.rank other

/-- The best offer is picked, and one that can be paid where the best ones include one. -/
structure PicksBest (picked : Option PaymentRequirements) : Prop where
  offered : ∀ offer, picked = some offer → offer ∈ accepts
  onNetwork : ∀ offer, picked = some offer → ∀ pin, selection.network = some pin →
    SameNetwork pin offer.network
  best : ∀ offer, picked = some offer → selection.IsBest accepts offer
  payable : ∀ offer ∈ accepts, selection.InScope accepts offer → selection.IsBest accepts offer →
    Payable offer → ∃ other, picked = some other ∧ Payable other

/-! ### Where the selection goes wrong -/

/-- The offers that the tables of the selection let through. -/
def considered : List PaymentRequirements :=
  if selection.network = none ∧ selection.currencies = none ∧
      onPreferredNetwork accepts selection = [] then
    solanaAccepts accepts
  else onPreferredNetwork accepts selection

/-- The first of the best-ranked offers that are let through. -/
def First (offer : PaymentRequirements) : Prop :=
  Leads selection.rank ((selection.considered accepts).filter selection.wanted) offer

/-- The tables of the selection and the checks of the builder part ways. -/
inductive Misselects : Prop where
  /-- The first offer is not on the network. -/
  | strays (first : PaymentRequirements) (pin : String) (hFirst : selection.First accepts first)
      (hPin : selection.network = some pin) (hOther : ¬SameNetwork pin first.network)
  /-- An offer on the network that is not let through ranks before the first one. -/
  | outranked (first missed : PaymentRequirements) (hFirst : selection.First accepts first)
      (hMissed : missed ∈ accepts) (hScope : selection.InScope accepts missed)
      (hHeld : missed ∉ selection.considered accepts) (hWanted : selection.wanted missed = true)
      (hRank : selection.rank missed < selection.rank first)
  /-- The first offer cannot be paid, and one of the best can. -/
  | unpayable (first other : PaymentRequirements) (hFirst : selection.First accepts first)
      (hRefused : ¬Payable first) (hOther : other ∈ accepts)
      (hScope : selection.InScope accepts other) (hBest : selection.IsBest accepts other)
      (hPayable : Payable other)
  /-- No wanted offer is let through, and one of the best can be paid. -/
  | overlooked (missed : PaymentRequirements)
      (hNone : ∀ offer ∈ selection.considered accepts, selection.wanted offer = false)
      (hMissed : missed ∈ accepts) (hScope : selection.InScope accepts missed)
      (hBest : selection.IsBest accepts missed) (hPayable : Payable missed)

end ChallengeSelection

section

variable {accepts : List PaymentRequirements} {selection : ChallengeSelection}
  {offer : PaymentRequirements}

theorem mem_of_considered (hOffer : offer ∈ selection.considered accepts) : offer ∈ accepts := by
  unfold ChallengeSelection.considered at hOffer
  split at hOffer
  · exact List.mem_of_mem_filter hOffer
  · exact List.mem_of_mem_filter (List.mem_of_mem_filter hOffer)

theorem rank_of_currencies {currencies : List String}
    (hCurrencies : selection.currencies = some currencies) :
    selection.rank = wishIndex acceptsCurrency currencies ∧
      selection.wanted = wished acceptsCurrency currencies := by
  constructor
  · funext offer
    rw [ChallengeSelection.rank, hCurrencies]
  · funext offer
    rw [ChallengeSelection.wanted, hCurrencies]

theorem rank_of_none (hCurrencies : selection.currencies = none) :
    selection.rank = offeredAmount ∧ selection.wanted = fun _ => true := by
  constructor
  · funext offer
    rw [ChallengeSelection.rank, hCurrencies]
  · funext offer
    rw [ChallengeSelection.wanted, hCurrencies]

theorem selectRequirement_eq_some :
    selectRequirement accepts selection = some offer ↔ selection.First accepts offer := by
  cases hCurrencies : selection.currencies with
  | some currencies =>
      have hConsidered : selection.considered accepts = onPreferredNetwork accepts selection :=
        if_neg fun hNone => nomatch hNone.2.1.symm.trans hCurrencies
      rcases rank_of_currencies hCurrencies with ⟨hRank, hWanted⟩
      rw [selectRequirement, ChallengeSelection.First, hCurrencies, hConsidered, hRank, hWanted]
      exact findSome?_eq_some
  | none =>
      rcases rank_of_none hCurrencies with ⟨hRank, hWanted⟩
      simp only [selectRequirement, ChallengeSelection.First, ChallengeSelection.considered,
        hRank, hWanted, hCurrencies, List.filter_true]
      rw [← argmin_eq_some]
      cases hNetwork : selection.network with
      | some pin => simp
      | none =>
          simp only [Option.isSome_none, Bool.false_eq_true, if_false, true_and]
          split
          · rename_i hNone
            rw [hNone, List.argmin_nil, Option.none_or]
          · rename_i hSome
            have hLeads : ∃ first, Leads offeredAmount (onPreferredNetwork accepts selection)
                first := exists_leads hSome
            rcases hLeads with ⟨first, hFirst⟩
            rw [argmin_eq_some.mpr hFirst, Option.some_or]

end

/-! ### Two schemes in one list -/

/-- A mainnet offer of USDC under a scheme. -/
def listedOffer (scheme : String) : Encoding.Json.Value :=
  .ofMap <| Encoding.Json.Map.empty.insert "scheme" (.ofText scheme)
    |>.insert "network" (.ofText solanaMainnet)
    |>.insert "amount" (.ofText "1000")
    |>.insert "asset" (.ofText Charge.mints.usdcMainnet)
    |>.insert "payTo" (.ofText "CXhrFZJLKqjzmP3sjYLcF4dTeXWKCy9e2SXXZ2Yo6MPY")
    |>.insert "maxTimeoutSeconds" (ofU64 60)

def listedRequirement (scheme : String) : PaymentRequirements where
  network := solanaMainnet
  cluster := some solanaMainnet
  recipient := "CXhrFZJLKqjzmP3sjYLcF4dTeXWKCy9e2SXXZ2Yo6MPY"
  amount := "1000"
  currency := Charge.mints.usdcMainnet
  decimals := none
  tokenProgram := none
  resource := ""
  description := none
  maxAge := some 60
  recentBlockhash := none
  feePayer := none
  feePayerKey := none
  transactionVersions := none
  extra := none
  accepted := some (listedOffer scheme)
  resourceInfo := none

def wantsUsdc : ChallengeSelection where
  network := some "mainnet"
  currencies := some ["USDC"]

theorem currenciesMatch_usdc :
    currenciesMatch Charge.mints.usdcMainnet "USDC" (some solanaMainnet) = true := by
  have hMint : isNativeSol Charge.mints.usdcMainnet = false := by
    rw [isNativeSol_eq]
    decide
  have hSymbol : isNativeSol "USDC" = false := by
    rw [isNativeSol_eq]
    decide
  simp only [currenciesMatch, resolveStablecoinMint, hMint, hSymbol]
  decide

theorem acceptsCurrency_listed (scheme : String) :
    acceptsCurrency "USDC" (listedRequirement scheme) = true :=
  currenciesMatch_usdc

end PayKit.Exact
