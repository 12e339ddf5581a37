import Mathlib.Data.List.Forall2
import Mathlib.Data.List.Sort
import PayKit.Subscription.Activation

/-!
# What an accepted activation does

Every instruction of an accepted activation is of one of six kinds, no two are of the same
kind, and the kinds stand in the order of the scheme: a token account is created before
the subscription, and the subscription comes before the transfer. The scan keeps this of
the instructions it has passed (`Scanned`), whatever they are.
-/

namespace PayKit.Subscription

open Charge Control Encoding Machine Solana Tx

/-- The kinds of instruction of an activation. -/
inductive ActivationKind where
  | computeLimit
  | computePrice
  | memo
  | ataCreation
  | subscribe
  | transfer
deriving DecidableEq

/-- The kind is an instruction of the subscriptions program. -/
def ActivationKind.isSubscription : ActivationKind → Bool
  | subscribe => true
  | transfer => true
  | _ => false

namespace ActivationScope

variable (scope : ActivationScope)

/-- The instruction subscribes the subscriber to the plan. -/
structure IsSubscribe (ix : CompiledInstruction) : Prop where
  program : programOf scope.keys ix = some scope.programId
  discriminator : ix.data.head? = some instructionSubscribe
  count : ix.accounts.length = 8 ∨ (ix.accounts.length = 9 ∧ scope.account ix 8 = scope.sponsor)
  subscriber : scope.account ix 0 = some scope.subscriber
  plan : scope.account ix 2 = some scope.planPda
  delegation : scope.account ix 3 = some scope.expectedSubscription
  authority : scope.account ix 4 = some scope.expectedAuthority
  system : scope.account ix 5 = some systemProgram
  self : scope.account ix 7 = some scope.programId

/-- The instruction transfers the amount of the request to the recipient. -/
structure IsTransfer (ix : CompiledInstruction) : Prop where
  program : programOf scope.keys ix = some scope.programId
  transfers : ∃ recipient amount, Pubkey.fromStr scope.request.recipient = .ok recipient ∧
    parseU64 scope.request.amount = some amount ∧
    ix.accounts.map (keyAt scope.keys) = (scope.transferAccounts recipient).map some ∧
    ix.data = [instructionTransferSubscription] ++ encodeLE 8 amount ++ scope.subscriber.bytes ++
      scope.mint.bytes

/-- The instruction creates the subscriber's token account for the mint. -/
structure IsAtaCreation (ix : CompiledInstruction) : Prop where
  program : programOf scope.keys ix = some ataProgram
  idempotent : ix.data = [1]
  count : ix.accounts.length = 6
  owner : scope.account ix 2 = some scope.subscriber
  mint : scope.account ix 3 = some scope.mint
  system : scope.account ix 4 = some systemProgram
  token : scope.account ix 5 = some scope.tokenProgram

/-- The instruction is of the kind. -/
def IsKind : ActivationKind → CompiledInstruction → Prop
  | .computeLimit, ix => programOf scope.keys ix = some computeBudgetProgram ∧
      ∃ units ≤ maxUnits, ix.data = [2] ++ encodeLE 4 units
  | .computePrice, ix => programOf scope.keys ix = some computeBudgetProgram ∧
      ∃ price ≤ scope.maxPrice, ix.data = [3] ++ encodeLE 8 price
  | .memo, ix => programOf scope.keys ix = some memoProgram ∧
      scope.request.externalId = String.fromUTF8? ⟨ix.data.toArray⟩
  | .ataCreation, ix => scope.IsAtaCreation ix
  | .subscribe, ix => scope.IsSubscribe ix
  | .transfer, ix => scope.IsTransfer ix

/-- The subscriptions program is none of the programs beside it. -/
def Separate : Prop :=
  scope.programId ≠ computeBudgetProgram ∧ scope.programId ≠ memoProgram ∧
    scope.programId ≠ ataProgram

end ActivationScope

namespace ActivationScan

variable (scan : ActivationScan)

/-- The scan has passed an instruction of the kind. -/
def saw : ActivationKind → Bool
  | .computeLimit => scan.sawComputeLimit
  | .computePrice => scan.sawComputePrice
  | .memo => scan.sawMemo
  | .ataCreation => scan.ata.isSome
  | .subscribe => scan.subscribe.isSome
  | .transfer => scan.transfer.isSome

/-- The scan after an instruction of the kind at a position. -/
def note (index : ℕ) : ActivationKind → ActivationScan
  | .computeLimit => { scan with sawComputeLimit := true }
  | .computePrice => { scan with sawComputePrice := true }
  | .memo => { scan with sawMemo := true }
  | .ataCreation => { scan with ata := some index }
  | .subscribe => { scan with subscribe := some index }
  | .transfer => { scan with transfer := some index }

end ActivationScan

namespace ActivationScope

variable (scope : ActivationScope)

/-- What the scan remembers of the kinds it has passed. -/
structure Scanned (kinds : List ActivationKind) (scan : ActivationScan) : Prop where
  nodup : kinds.Nodup
  subscribe : ∀ index, scan.subscribe = some index ↔ kinds[index]? = some .subscribe
  transfer : ∀ index, scan.transfer = some index ↔ kinds[index]? = some .transfer
  ata : ∀ index, scan.ata = some index ↔ kinds[index]? = some .ataCreation
  memo : scan.sawMemo = true ↔ .memo ∈ kinds
  computeLimit : scan.sawComputeLimit = true ↔ .computeLimit ∈ kinds
  computePrice : scan.sawComputePrice = true ↔ .computePrice ∈ kinds
  separate : ∀ kind ∈ kinds, kind.isSubscription = true → scope.Separate

variable {scope} {kinds : List ActivationKind} {scan next : ActivationScan}
  {ix : CompiledInstruction}

theorem scanned_nil : scope.Scanned [] {} where
  nodup := List.nodup_nil
  subscribe := by simp
  transfer := by simp
  ata := by simp
  memo := by simp
  computeLimit := by simp
  computePrice := by simp
  separate := by simp

/-- A kind is at a position after one more, when it was there or is the one more. -/
theorem getElem?_concat_eq {kind last : ActivationKind} {index : ℕ} :
    (kinds ++ [last])[index]? = some kind ↔
      kinds[index]? = some kind ∨ (index = kinds.length ∧ last = kind) := by
  rw [List.getElem?_append]
  split
  · rename_i hIndex
    constructor
    · exact .inl
    · rintro (hKind | ⟨rfl, -⟩)
      · exact hKind
      · omega
  · rename_i hIndex
    rw [List.getElem?_eq_none (not_lt.mp hIndex), List.getElem?_singleton]
    by_cases hLast : index = kinds.length
    · simp [hLast]
    · have hPositive : index - kinds.length ≠ 0 := by omega
      simp [hLast, hPositive]

theorem not_mem_of_unseen {kind : ActivationKind} {seen : Option ℕ}
    (hSeen : ∀ index, seen = some index ↔ kinds[index]? = some kind) (hUnseen : ¬seen.isSome) :
    kind ∉ kinds := by
  intro hMem
  rcases List.getElem?_of_mem hMem with ⟨index, hIndex⟩
  rw [(hSeen index).mpr hIndex] at hUnseen
  exact hUnseen rfl

theorem Scanned.not_mem {kind : ActivationKind} (hScanned : scope.Scanned kinds scan)
    (hUnseen : scan.saw kind = false) : kind ∉ kinds := by
  cases kind with
  | computeLimit => simpa [ActivationScan.saw, ← hScanned.computeLimit] using hUnseen
  | computePrice => simpa [ActivationScan.saw, ← hScanned.computePrice] using hUnseen
  | memo => simpa [ActivationScan.saw, ← hScanned.memo] using hUnseen
  | ataCreation => exact not_mem_of_unseen hScanned.ata (by simpa [ActivationScan.saw] using hUnseen)
  | subscribe =>
      exact not_mem_of_unseen hScanned.subscribe (by simpa [ActivationScan.saw] using hUnseen)
  | transfer =>
      exact not_mem_of_unseen hScanned.transfer (by simpa [ActivationScan.saw] using hUnseen)

theorem noted_iff {kind : ActivationKind} {position : ℕ} (hFresh : kind ∉ kinds) :
    some kinds.length = some position ↔ (kinds ++ [kind])[position]? = some kind := by
  rw [getElem?_concat_eq, Option.some.injEq]
  constructor
  · rintro rfl
    exact .inr ⟨rfl, rfl⟩
  · rintro (hEarlier | ⟨rfl, -⟩)
    · exact absurd (List.mem_of_getElem? hEarlier) hFresh
    · rfl

theorem kept_iff {kind other : ActivationKind} {seen : Option ℕ} (hOther : other ≠ kind)
    (hSeen : ∀ index, seen = some index ↔ kinds[index]? = some kind) (index : ℕ) :
    seen = some index ↔ (kinds ++ [other])[index]? = some kind := by
  rw [getElem?_concat_eq, hSeen]
  simp [hOther]

theorem Scanned.note {kind : ActivationKind} (hScanned : scope.Scanned kinds scan)
    (hUnseen : scan.saw kind = false) (hSeparate : kind.isSubscription = true → scope.Separate) :
    scope.Scanned (kinds ++ [kind]) (scan.note kinds.length kind) := by
  have hFresh := hScanned.not_mem hUnseen
  have hNodup : (kinds ++ [kind]).Nodup := by
    rw [List.nodup_append]
    refine ⟨hScanned.nodup, List.nodup_singleton kind, ?_⟩
    intro earlier hEarlier last hLast hSame
    rw [List.mem_singleton] at hLast
    exact hFresh (by rwa [← hLast, ← hSame])
  have hEach : ∀ other ∈ kinds ++ [kind], other.isSubscription = true → scope.Separate := by
    intro other hMem
    rcases List.mem_append.mp hMem with hMem | hMem
    · exact hScanned.separate other hMem
    · rw [List.mem_singleton.mp hMem]
      exact hSeparate
  have hSubscribe := hScanned.subscribe
  have hTransfer := hScanned.transfer
  have hAta := hScanned.ata
  have hMemo := hScanned.memo
  have hLimit := hScanned.computeLimit
  have hPrice := hScanned.computePrice
  cases kind with
  | computeLimit =>
      exact ⟨hNodup, kept_iff (by simp) hSubscribe, kept_iff (by simp) hTransfer,
        kept_iff (by simp) hAta, by simp [ActivationScan.note, hMemo],
        by simp [ActivationScan.note], by simp [ActivationScan.note, hPrice], hEach⟩
  | computePrice =>
      exact ⟨hNodup, kept_iff (by simp) hSubscribe, kept_iff (by simp) hTransfer,
        kept_iff (by simp) hAta, by simp [ActivationScan.note, hMemo],
        by simp [ActivationScan.note, hLimit], by simp [ActivationScan.note], hEach⟩
  | memo =>
      exact ⟨hNodup, kept_iff (by simp) hSubscribe, kept_iff (by simp) hTransfer,
        kept_iff (by simp) hAta, by simp [ActivationScan.note],
        by simp [ActivationScan.note, hLimit], by simp [ActivationScan.note, hPrice], hEach⟩
  | ataCreation =>
      exact ⟨hNodup, kept_iff (by simp) hSubscribe, kept_iff (by simp) hTransfer,
        fun _ => noted_iff hFresh, by simp [ActivationScan.note, hMemo],
        by simp [ActivationScan.note, hLimit], by simp [ActivationScan.note, hPrice], hEach⟩
  | subscribe =>
      exact ⟨hNodup, fun _ => noted_iff hFresh, kept_iff (by simp) hTransfer,
        kept_iff (by simp) hAta, by simp [ActivationScan.note, hMemo],
        by simp [ActivationScan.note, hLimit], by simp [ActivationScan.note, hPrice], hEach⟩
  | transfer =>
      exact ⟨hNodup, kept_iff (by simp) hSubscribe, fun _ => noted_iff hFresh,
        kept_iff (by simp) hAta, by simp [ActivationScan.note, hMemo],
        by simp [ActivationScan.note, hLimit], by simp [ActivationScan.note, hPrice], hEach⟩

/-! ### One instruction -/

theorem data_of_field {data : List UInt8} {tag : UInt8} {stop : ℕ} (hTag : data.head? = some tag)
    (hLength : data.length = stop) (hStop : 1 ≤ stop) :
    data = [tag] ++ encodeLE (stop - 1) (fromLeBytes data 1 stop) := by
  rw [encodeLE_fromLeBytes (by omega), ← take_one_of_head? hTag, take_append_slice hStop,
    ← hLength, List.take_length]

theorem scanComputeBudget_eq_ok (hProgram : programOf scope.keys ix = some computeBudgetProgram)
    (hNext : scope.scanComputeBudget ix scan = .ok next) :
    ∃ kind, scope.IsKind kind ix ∧ scan.saw kind = false ∧ (∀ index, next = scan.note index kind) ∧
      kind.isSubscription = false := by
  simp only [scanComputeBudget] at hNext
  split at hNext
  · rename_i hLimit
    simp only [bind_eq_ok, refuseIf_eq_ok, exists_const, not_lt] at hNext
    rcases hNext with ⟨hUnseen, hCap, hResult⟩
    cases hResult
    exact ⟨.computeLimit, ⟨hProgram, _, hCap, data_of_field hLimit.1 hLimit.2 (by omega)⟩,
      by simpa [ActivationScan.saw] using hUnseen, fun _ => rfl, rfl⟩
  split at hNext
  · rename_i hPrice
    simp only [bind_eq_ok, refuseIf_eq_ok, exists_const, not_lt] at hNext
    rcases hNext with ⟨hUnseen, hCap, hResult⟩
    cases hResult
    exact ⟨.computePrice, ⟨hProgram, _, hCap, data_of_field hPrice.1 hPrice.2 (by omega)⟩,
      by simpa [ActivationScan.saw] using hUnseen, fun _ => rfl, rfl⟩
  · cases hNext

theorem scanMemo_eq_ok (hProgram : programOf scope.keys ix = some memoProgram)
    (hNext : scope.scanMemo ix scan = .ok next) :
    scope.IsKind .memo ix ∧ scan.saw .memo = false ∧ ∀ index, next = scan.note index .memo := by
  simp only [scanMemo, bind_eq_ok, refuseIf_eq_ok, exists_const, not_or, not_not] at hNext
  rcases hNext with ⟨⟨hUnseen, hText⟩, hResult⟩
  cases hResult
  exact ⟨⟨hProgram, hText⟩, by simpa [ActivationScan.saw] using hUnseen, fun _ => rfl⟩

theorem scanAtaCreation_eq_ok {index : ℕ} (hProgram : programOf scope.keys ix = some ataProgram)
    (hNext : scope.scanAtaCreation index ix scan = .ok next) :
    scope.IsAtaCreation ix ∧ scan.saw .ataCreation = false ∧
      next = scan.note index .ataCreation := by
  simp only [scanAtaCreation, bind_eq_ok, refuseIf_eq_ok, exists_const, not_or, not_not] at hNext
  rcases hNext with ⟨⟨hUnseen, hData, hCount⟩, ⟨hOwner, hMint, hSystem, hToken⟩, hResult⟩
  cases hResult
  exact ⟨⟨hProgram, hData, hCount, hOwner, hMint, hSystem, hToken⟩, by simpa [ActivationScan.saw] using hUnseen, rfl⟩

theorem scanSubscribe_eq_ok {index : ℕ} (hProgram : programOf scope.keys ix = some scope.programId)
    (hDiscriminator : ix.data.head? = some instructionSubscribe)
    (hNext : scope.scanSubscribe index ix scan = .ok next) :
    scope.IsSubscribe ix ∧ scan.saw .subscribe = false ∧ next = scan.note index .subscribe := by
  simp only [scanSubscribe, bind_eq_ok, refuseIf_eq_ok, exists_const, not_or, not_not] at hNext
  rcases hNext with ⟨hUnseen, ⟨hCount, hSubscriber, hPlan, hDelegation, hAuthority, hSystem, hSelf⟩,
    hResult⟩
  cases hResult
  have hAccounts : ix.accounts.length = 8 ∨
      (ix.accounts.length = 9 ∧ scope.account ix 8 = scope.sponsor) := by
    simp only [payerOk, Bool.decide_or, Bool.decide_and, Bool.or_eq_false_iff,
      Bool.and_eq_false_iff, decide_eq_false_iff_not] at hCount
    tauto
  exact ⟨⟨hProgram, hDiscriminator, hAccounts, hSubscriber, hPlan, hDelegation, hAuthority, hSystem,
    hSelf⟩, by simpa [ActivationScan.saw] using hUnseen, rfl⟩

theorem accounts_eq {table : List Pubkey} (hLength : ix.accounts.length = table.length)
    (hEach : ∀ position < table.length, scope.account ix position = table[position]?) :
    ix.accounts.map (keyAt scope.keys) = table.map some := by
  apply List.ext_getElem
  · simpa using hLength
  intro position hLeft hRight
  have hPosition : position < table.length := by simpa using hRight
  have hBound : position < ix.accounts.length := by omega
  have hAccount := hEach position hPosition
  simp only [account, accountAt, List.getElem?_eq_getElem hBound, Option.bind_some,
    List.getElem?_eq_getElem hPosition] at hAccount
  simpa using hAccount

theorem scanTransfer_eq_ok {index : ℕ} (hProgram : programOf scope.keys ix = some scope.programId)
    (hDiscriminator : ix.data.head? = some instructionTransferSubscription)
    (hNext : scope.scanTransfer index ix scan = .ok next) :
    scope.IsTransfer ix ∧ scan.saw .transfer = false ∧ next = scan.note index .transfer := by
  simp only [scanTransfer, bind_eq_ok, refuseIf_eq_ok, okOr_eq_ok, parsePubkey, mapError_eq_ok,
    exists_const, not_or, not_not, Bool.not_eq_true, List.any_eq_false, List.mem_range,
    decide_eq_true_eq] at hNext
  rcases hNext with ⟨hUnseen, ⟨hCount, hLength⟩, recipient, hRecipient, hAccounts, amount, hAmount,
    ⟨hTransferred, hDelegator, hMint⟩, hResult⟩
  cases hResult
  have hData : ix.data = [instructionTransferSubscription] ++ encodeLE 8 amount ++
      scope.subscriber.bytes ++ scope.mint.bytes := by
    have hField := @encodeLE_fromLeBytes ix.data 1 9 (by omega)
    rw [← hTransferred, ← hDelegator, ← hMint, show 8 = 9 - 1 from rfl, hField,
      ← take_one_of_head? hDiscriminator, take_append_slice (by omega),
      take_append_slice (by omega), take_append_slice (by omega), ← hLength, List.take_length]
  exact ⟨⟨hProgram, recipient, amount, hRecipient, hAmount, accounts_eq hCount hAccounts, hData⟩,
    by simpa [ActivationScan.saw] using hUnseen, rfl⟩

theorem scanInstruction_eq_ok {index : ℕ}
    (hNext : scope.scanInstruction index ix scan = .ok next) :
    ∃ kind, scope.IsKind kind ix ∧ scan.saw kind = false ∧ next = scan.note index kind ∧
      (kind.isSubscription = true → scope.Separate) := by
  simp only [scanInstruction] at hNext
  split at hNext
  · cases hNext
  rename_i program hProgram
  split at hNext
  · rename_i hBudget
    rcases scanComputeBudget_eq_ok (by rw [hProgram, hBudget]) hNext with
      ⟨kind, hKind, hUnseen, hNoted, hOther⟩
    exact ⟨kind, hKind, hUnseen, hNoted index, fun hSubscription => by simp [hOther] at hSubscription⟩
  rename_i hNotBudget
  split at hNext
  · rename_i hMemo
    rcases scanMemo_eq_ok (by rw [hProgram, hMemo]) hNext with ⟨hKind, hUnseen, hNoted⟩
    exact ⟨.memo, hKind, hUnseen, hNoted index, by simp [ActivationKind.isSubscription]⟩
  rename_i hNotMemo
  split at hNext
  · rename_i hAta
    rcases scanAtaCreation_eq_ok (by rw [hProgram, hAta]) hNext with ⟨hKind, hUnseen, hNoted⟩
    exact ⟨.ataCreation, hKind, hUnseen, hNoted, by simp [ActivationKind.isSubscription]⟩
  rename_i hNotAta
  split at hNext
  · rename_i hSelf
    subst hSelf
    have hSeparate : scope.Separate := ⟨hNotBudget, hNotMemo, hNotAta⟩
    simp only [scanSubscription] at hNext
    split at hNext
    · cases hNext
    rename_i discriminator hDiscriminator
    split at hNext
    · cases hNext
    split at hNext
    · rename_i hSubscribe
      rcases scanSubscribe_eq_ok hProgram (by rw [hDiscriminator, hSubscribe]) hNext with
        ⟨hKind, hUnseen, hNoted⟩
      exact ⟨.subscribe, hKind, hUnseen, hNoted, fun _ => hSeparate⟩
    split at hNext
    · rename_i hTransfer
      rcases scanTransfer_eq_ok hProgram (by rw [hDiscriminator, hTransfer]) hNext with
        ⟨hKind, hUnseen, hNoted⟩
      exact ⟨.transfer, hKind, hUnseen, hNoted, fun _ => hSeparate⟩
    · cases hNext
  · cases hNext

theorem scanInstructions_eq_ok {instructions : List CompiledInstruction}
    {final : ActivationScan} (hScanned : scope.Scanned kinds scan)
    (hScan : scope.scanInstructions kinds.length instructions scan = .ok final) :
    ∃ later, List.Forall₂ scope.IsKind later instructions ∧
      scope.Scanned (kinds ++ later) final := by
  induction instructions generalizing kinds scan with
  | nil =>
      cases hScan
      exact ⟨[], .nil, by simpa using hScanned⟩
  | cons ix rest hInduction =>
      simp only [scanInstructions, bind_eq_ok] at hScan
      rcases hScan with ⟨next, hNext, hScan⟩
      rcases scanInstruction_eq_ok hNext with ⟨kind, hKind, hUnseen, rfl, hSeparate⟩
      have hNoted := hScanned.note hUnseen hSeparate
      rw [show kinds.length + 1 = (kinds ++ [kind]).length by simp] at hScan
      rcases hInduction hNoted hScan with ⟨later, hLater, hFinal⟩
      exact ⟨kind :: later, .cons hKind hLater, by simpa using hFinal⟩

/-! ### The kinds of a whole activation -/

/-- Two kinds that are seen once, in this order, are all that a filter for them leaves. -/
theorem filter_subscription {first second : ℕ} (hNodup : kinds.Nodup) (hOrder : first < second)
    (hFirst : kinds[first]? = some .subscribe) (hSecond : kinds[second]? = some .transfer) :
    kinds.filter ActivationKind.isSubscription = [.subscribe, .transfer] := by
  have hNone : ∀ (part : List ActivationKind), .subscribe ∉ part → .transfer ∉ part →
      part.filter ActivationKind.isSubscription = [] := by
    intro part hSubscribe hTransfer
    rw [List.filter_eq_nil_iff]
    intro kind hMem hKind
    cases kind with
    | subscribe => exact hSubscribe hMem
    | transfer => exact hTransfer hMem
    | computeLimit => cases hKind
    | computePrice => cases hKind
    | memo => cases hKind
    | ataCreation => cases hKind
  rcases List.getElem?_eq_some_iff.mp hFirst with ⟨hFirstBound, hFirst⟩
  have hSplit : kinds = kinds.take first ++ .subscribe :: kinds.drop (first + 1) := by
    rw [← hFirst, ← List.drop_eq_getElem_cons hFirstBound, List.take_append_drop]
  have hTransfer : .transfer ∈ kinds.drop (first + 1) := by
    apply List.mem_of_getElem? (i := second - (first + 1))
    rw [List.getElem?_drop, show first + 1 + (second - (first + 1)) = second by omega, hSecond]
  rcases List.append_of_mem hTransfer with ⟨between, after, hRest⟩
  rw [hRest] at hSplit
  rw [hSplit, List.nodup_append, List.nodup_cons, List.nodup_append, List.nodup_cons] at hNodup
  rcases hNodup with ⟨-, ⟨hSubscribe, -, ⟨hLast, -⟩, hBetween⟩, hBefore⟩
  simp only [List.mem_append, List.mem_cons, not_or] at hSubscribe
  rw [hSplit, List.filter_append, List.filter_cons, List.filter_append, List.filter_cons,
    hNone (kinds.take first) (fun hMem => hBefore _ hMem _ (by simp) rfl)
      (fun hMem => hBefore _ hMem .transfer (by simp) rfl),
    hNone between hSubscribe.1 (fun hMem => hBetween _ hMem .transfer (by simp) rfl),
    hNone after hSubscribe.2.2 hLast]
  rfl

theorem IsKind.program_iff {kind : ActivationKind} (hSeparate : scope.Separate)
    (hKind : scope.IsKind kind ix) :
    kind.isSubscription = true ↔ programOf scope.keys ix = some scope.programId := by
  rcases hSeparate with ⟨hBudget, hMemo, hAta⟩
  have hOther : ∀ program, programOf scope.keys ix = some program → scope.programId ≠ program →
      programOf scope.keys ix ≠ some scope.programId := by
    intro program hProgram hDifferent hSame
    rw [hProgram, Option.some.injEq] at hSame
    exact hDifferent hSame.symm
  cases kind with
  | computeLimit => simpa [ActivationKind.isSubscription] using hOther _ hKind.1 hBudget
  | computePrice => simpa [ActivationKind.isSubscription] using hOther _ hKind.1 hBudget
  | memo => simpa [ActivationKind.isSubscription] using hOther _ hKind.1 hMemo
  | ataCreation => simpa [ActivationKind.isSubscription] using hOther _ hKind.program hAta
  | subscribe => simpa [ActivationKind.isSubscription] using hKind.program
  | transfer => simpa [ActivationKind.isSubscription] using hKind.program

/-- The instructions are a subscription and then its transfer, wrapped as the scheme allows. -/
structure Activates (scope : ActivationScope) (instructions : List CompiledInstruction) : Prop where
  /-- All that calls the subscriptions program. -/
  payment : ∃ subscribe transfer,
    (instructions.filter fun ix => programOf scope.keys ix = some scope.programId) =
      [subscribe, transfer] ∧
    scope.IsSubscribe subscribe ∧ scope.IsTransfer transfer
  /-- Every instruction, at most one of each kind. -/
  kinds : ∃ kinds : List ActivationKind, List.Forall₂ scope.IsKind kinds instructions ∧
    kinds.Nodup ∧
    (∀ before after : ℕ, kinds[before]? = some .ataCreation →
      kinds[after]? = some .subscribe → before < after) ∧
    (.memo ∈ kinds ↔ scope.request.externalId.isSome = true)

theorem Scanned.activates {instructions : List CompiledInstruction} {value : Unit}
    (hKinds : List.Forall₂ scope.IsKind kinds instructions) (hScanned : scope.Scanned kinds scan)
    (hChecked : checkScan scope.request.externalId scan = .ok value) :
    scope.Activates instructions := by
  simp only [checkScan, bind_eq_ok, okOr_eq_ok, refuseIf_eq_ok, exists_const, not_lt, not_not,
    ne_eq, Bool.not_eq_true] at hChecked
  rcases hChecked with ⟨subscribe, hSubscribe, transfer, hTransfer, hOrder, hAta, hMemo⟩
  have hFirst := (hScanned.subscribe subscribe).mp hSubscribe
  have hSecond := (hScanned.transfer transfer).mp hTransfer
  have hBefore : subscribe < transfer := by
    rcases Nat.lt_or_eq_of_le hOrder with hLess | rfl
    · exact hLess
    · simp [hFirst] at hSecond
  have hSeparate := hScanned.separate .subscribe (List.mem_of_getElem? hFirst) rfl
  refine ⟨?_, kinds, hKinds, hScanned.nodup, ?_, ?_⟩
  · have hFilter : List.Forall₂ scope.IsKind (kinds.filter ActivationKind.isSubscription)
        (instructions.filter fun ix => programOf scope.keys ix = some scope.programId) := by
      refine List.rel_filter ?_ hKinds
      intro kind ix hKind
      simpa using hKind.program_iff hSeparate
    rw [filter_subscription hScanned.nodup hBefore hFirst hSecond] at hFilter
    rcases List.forall₂_cons_left_iff.mp hFilter with ⟨first, rest, hIsSubscribe, hRest, hAll⟩
    rcases List.forall₂_cons_left_iff.mp hRest with ⟨second, none, hIsTransfer, hNone, rfl⟩
    rw [List.forall₂_nil_left_iff.mp hNone] at hAll
    exact ⟨first, second, hAll, hIsSubscribe, hIsTransfer⟩
  · intro before after hCreation hSubscription
    have hAfter := (hScanned.subscribe after).mpr hSubscription
    have hSame : after = subscribe := Option.some.inj (hAfter.symm.trans hSubscribe)
    have hRemembered := (hScanned.ata before).mpr hCreation
    simp only [hRemembered, Option.any_some, decide_eq_false_iff_not, not_lt] at hAta
    rcases Nat.lt_or_eq_of_le hAta with hLess | rfl
    · omega
    · simp [hFirst] at hCreation
  · rw [← hScanned.memo, hMemo]

end ActivationScope

/-! ### The signers -/

instance : Std.Total keyBefore where
  total left right := List.le_total left.bytes right.bytes

instance : IsTrans Pubkey keyBefore where
  trans _ _ _ := List.le_trans

theorem keyBefore_antisymm {left right : Pubkey} (hLeft : keyBefore left right)
    (hRight : keyBefore right left) : left = right := by
  have hBytes := List.le_antisymm hLeft hRight
  cases left
  cases right
  simpa using hBytes

theorem mem_dedupKeys {keys : List Pubkey} {key : Pubkey} : key ∈ dedupKeys keys ↔ key ∈ keys := by
  fun_induction dedupKeys keys with
  | case1 second rest hInduction =>
      rw [hInduction]
      simp
  | case2 first second rest hDifferent hInduction =>
      rw [List.mem_cons, List.mem_cons, hInduction]
  | case3 keys hShort => rfl

theorem nodup_dedupKeys {keys : List Pubkey} (hSorted : keys.Pairwise keyBefore) :
    (dedupKeys keys).Nodup := by
  fun_induction dedupKeys keys with
  | case1 second rest hInduction => exact hInduction (List.pairwise_cons.mp hSorted).2
  | case2 first second rest hDifferent hInduction =>
      rcases List.pairwise_cons.mp hSorted with ⟨hFirst, hRest⟩
      rw [List.nodup_cons]
      refine ⟨?_, hInduction hRest⟩
      intro hMem
      rw [mem_dedupKeys, List.mem_cons] at hMem
      rcases hMem with hSame | hLater
      · exact hDifferent hSame
      · have hBelow := (List.pairwise_cons.mp hRest).1 first hLater
        exact hDifferent (keyBefore_antisymm (hFirst second (by simp)) hBelow)
  | case3 keys hShort =>
      match keys, hShort with
      | [], _ => exact List.nodup_nil
      | [key], _ => exact List.nodup_singleton key
      | first :: second :: rest, hShort => exact absurd rfl (hShort first second rest)

/-- Each of the three keys signs, once, and no one else. -/
structure SignedBy (tx : VersionedTransaction) (feePayer subscriber puller : Pubkey) : Prop where
  once : (tx.message.staticAccountKeys.take
    tx.message.header.numRequiredSignatures.toNat).Nodup
  exactly : ∀ key, key ∈ tx.message.staticAccountKeys.take
    tx.message.header.numRequiredSignatures.toNat ↔
      key = feePayer ∨ key = subscriber ∨ key = puller
  signatures : tx.signatures.length = tx.message.header.numRequiredSignatures.toNat

theorem checkActivationSigners_eq_ok {tx : VersionedTransaction} {config : SubscriptionConfig}
    {subscriber puller : Pubkey} {value : Unit}
    (hChecked : checkActivationSigners tx config subscriber puller = .ok value) :
    ∃ feePayer, tx.message.staticAccountKeys.head? = some feePayer ∧
      (config.feePayer = false → feePayer = subscriber) ∧
      SignedBy tx feePayer subscriber puller := by
  simp only [checkActivationSigners, bind_eq_ok, okOr_eq_ok, refuseIf_eq_ok, exists_const, not_or,
    not_and, not_not] at hChecked
  rcases hChecked with ⟨feePayer, hFirst, hUnsponsored, hSigners, hSignatures⟩
  have hPerm := List.perm_insertionSort keyBefore
    (tx.message.staticAccountKeys.take tx.message.header.numRequiredSignatures.toNat)
  have hSorted := List.pairwise_insertionSort keyBefore [feePayer, subscriber, puller]
  refine ⟨feePayer, hFirst, hUnsponsored, ?_, ?_, hSignatures⟩
  · rw [← hPerm.nodup_iff, show List.insertionSort keyBefore _ = _ from hSigners]
    exact nodup_dedupKeys hSorted
  · intro key
    rw [← hPerm.mem_iff, show List.insertionSort keyBefore _ = _ from hSigners, mem_dedupKeys,
      sortKeys, List.mem_insertionSort]
    simp

/-- The first key is the configured sponsor's, or else the subscriber's. -/
structure PaidBy (config : SubscriptionConfig) (feePayer subscriber : Pubkey) : Prop where
  signer : config.feePayer = true → ∀ key, config.feePayerSigner = some key → feePayer = key
  pubkey : config.feePayer = true → ∀ text, config.feePayerPubkey = some text →
    Pubkey.fromStr text = .ok feePayer
  configured : config.feePayer = true →
    config.feePayerSigner.isSome = true ∨ config.feePayerPubkey.isSome = true
  subscriber : config.feePayer = false → feePayer = subscriber

section

variable {findProgramAddress : List (List UInt8) → Pubkey → Pubkey} {tx : VersionedTransaction}
  {request : SubscriptionRequest} {programIdText : String} {config : SubscriptionConfig}
  {subscriber : Pubkey}

theorem checkSponsor_eq_ok {keys : List Pubkey} {feePayer : Pubkey} {value : Unit}
    (hFirst : keys.head? = some feePayer) (hSponsored : config.feePayer = true)
    (hChecked : checkSponsor keys config = .ok value) :
    (∀ key, config.feePayerSigner = some key → feePayer = key) ∧
    (config.feePayerSigner.isSome = true ∨ config.feePayerPubkey.isSome = true) := by
  simp only [checkSponsor, hSponsored, if_true, bind_eq_ok, okOr_eq_ok, refuseIf_eq_ok, not_not,
    hFirst, Option.some.injEq] at hChecked
  rcases hChecked with ⟨expected, hExpected, rfl⟩
  constructor
  · rintro key hSigner
    simpa [hSigner, eq_comm] using hExpected
  · cases hSigner : config.feePayerSigner with
    | some key => exact .inl rfl
    | none =>
        cases hPubkey : config.feePayerPubkey with
        | some text => exact .inr rfl
        | none => simp [hSigner, hPubkey] at hExpected

theorem extractSubscriber_eq_ok (hExtracted : extractSubscriberFromTx tx config = .ok subscriber) :
    ∃ first puller, tx.message.staticAccountKeys.head? = some first ∧
      Pubkey.fromStr config.puller = .ok puller ∧ subscriber ≠ puller ∧
      (config.feePayer = true → ∀ text, config.feePayerPubkey = some text →
        Pubkey.fromStr text = .ok first) := by
  simp only [extractSubscriberFromTx, bind_eq_ok, okOr_eq_ok, parsePubkey, mapError_eq_ok,
    refuseIf_eq_ok, exists_const] at hExtracted
  rcases hExtracted with ⟨first, hFirst, puller, hPuller, sponsor, hSponsor, hConfigured, hKey⟩
  refine ⟨first, puller, hFirst, hPuller, ?_⟩
  cases sponsor with
  | none =>
      simp only [bind_eq_ok, refuseIf_eq_ok, exists_const] at hKey
      rcases hKey with ⟨hDistinct, hResult⟩
      cases hResult
      refine ⟨hDistinct, fun hSponsored => absurd ⟨hSponsored, rfl⟩ hConfigured⟩
  | some feePayer =>
      simp only [bind_eq_ok, refuseIf_eq_ok, exists_const, not_not, okOr_eq_ok] at hKey
      rcases hKey with ⟨rfl, hFound⟩
      have hOther := List.find?_some hFound
      refine ⟨(of_decide_eq_true hOther).1, fun hSponsored text hText => ?_⟩
      simp only [expectedSponsor, hSponsored, if_true, hText, Option.some_or] at hSponsor
      simp only [parsePubkey] at hSponsor
      cases hParsed : Pubkey.fromStr text with
      | error error => simp [hParsed, Except.map, mapError_error] at hSponsor
      | ok key =>
          simp only [hParsed, Except.map, mapError_ok, Except.ok.injEq,
            Option.some.injEq] at hSponsor
          rw [hSponsor]

/-- An accepted activation subscribes its subscriber to the plan and transfers the amount to
the recipient, and does nothing else that the subscriptions program could do. -/
theorem accepted_activates {value : Unit}
    (hExtracted : extractSubscriberFromTx tx config = .ok subscriber)
    (hAccepted : validateActivationScope findProgramAddress tx request programIdText subscriber
      config = .ok value) :
    ∃ programId mint tokenProgram puller planPda feePayer,
      Pubkey.fromStr programIdText = .ok programId ∧ Pubkey.fromStr config.mint = .ok mint ∧
      Pubkey.fromStr config.tokenProgram = .ok tokenProgram ∧
      Pubkey.fromStr config.puller = .ok puller ∧ Pubkey.fromStr config.planId = .ok planPda ∧
      (activationScope findProgramAddress tx request config programId mint tokenProgram puller
        planPda subscriber).Activates tx.message.instructions ∧
      tx.message.staticAccountKeys.head? = some feePayer ∧ PaidBy config feePayer subscriber ∧
      subscriber ≠ puller ∧ SignedBy tx feePayer subscriber puller := by
  simp only [validateActivationScope, bind_eq_ok, parsePubkey, mapError_eq_ok] at hAccepted
  rcases hAccepted with ⟨programId, hProgramId, _, hSponsor, mint, hMint, tokenProgram, hTokenProgram,
    puller, hPuller, planPda, hPlan, scan, hScan, _, hFound, hSigners⟩
  rcases checkActivationSigners_eq_ok hSigners with ⟨feePayer, hFirst, hUnsponsored, hSigned⟩
  rcases extractSubscriber_eq_ok hExtracted with ⟨first, other, hSame, hOther, hDistinct, hPubkey⟩
  rw [hFirst, Option.some.injEq] at hSame
  rw [hPuller, Except.ok.injEq] at hOther
  subst hSame hOther
  rcases ActivationScope.scanInstructions_eq_ok ActivationScope.scanned_nil hScan with
    ⟨kinds, hKinds, hScanned⟩
  have hPaid : PaidBy config feePayer subscriber := {
    signer := fun hSponsored => (checkSponsor_eq_ok hFirst hSponsored hSponsor).1
    pubkey := hPubkey
    configured := fun hSponsored => (checkSponsor_eq_ok hFirst hSponsored hSponsor).2
    subscriber := hUnsponsored }
  exact ⟨programId, mint, tokenProgram, puller, planPda, feePayer, hProgramId, hMint, hTokenProgram,
    hPuller, hPlan, hScanned.activates hKinds hFound, hFirst, hPaid, hDistinct, hSigned⟩

end

/-! ### A sponsored activation -/

def smallKey (last : UInt8) : Pubkey := .numbered last

def usdcMint : Pubkey := .ofConst "EPjFWdd5AufqSSqeM2qN1xzybapC8G4wEGGkZwyTDt1v"

def subscriptionsProgramId : String := "De1egAFMkMWZSN5rYXRj9CAdheBamobVNubTsi9avR44"

/-- The delegation of the subscriber to the plan. -/
def delegationKey : Pubkey where
  bytes := [178, 158, 73, 12, 196, 112, 62, 93, 214, 184, 120, 65, 227, 202, 59, 153, 93, 7, 106,
    14, 242, 252, 250, 155, 186, 186, 168, 127, 66, 218, 192, 181]
  length_bytes := rfl

/-- The subscriber's authority for the mint. -/
def authorityKey : Pubkey where
  bytes := [173, 196, 100, 232, 230, 107, 236, 253, 162, 254, 183, 33, 112, 236, 24, 136, 72, 146,
    68, 211, 98, 254, 135, 95, 188, 252, 32, 4, 177, 73, 72, 148]
  length_bytes := rfl

/-- The event authority of the subscriptions program. -/
def eventAuthorityKey : Pubkey where
  bytes := [34, 4, 94, 73, 227, 218, 54, 181, 109, 225, 123, 209, 104, 180, 90, 162, 33, 179, 16,
    222, 133, 189, 168, 171, 161, 94, 129, 176, 15, 186, 133, 130]
  length_bytes := rfl

/-- The subscriber's token account. -/
def subscriberTokens : Pubkey where
  bytes := [27, 211, 9, 107, 212, 204, 181, 2, 39, 76, 5, 20, 222, 254, 216, 79, 162, 171, 201, 95,
    242, 240, 149, 89, 243, 232, 254, 175, 51, 128, 130, 117]
  length_bytes := rfl

def recipientTokens : Pubkey where
  bytes := [212, 111, 95, 77, 251, 234, 160, 79, 182, 87, 135, 121, 204, 74, 193, 13, 18, 141, 110,
    99, 246, 98, 143, 244, 172, 187, 26, 59, 116, 188, 65, 242]
  length_bytes := rfl

/-- The program addresses of the activation. -/
def activationAddress (seeds : List (List UInt8)) (program : Pubkey) : Pubkey :=
  match seeds with
  | [_] => eventAuthorityKey
  | [first, second, _] =>
      if first = asBytes "subscription" then delegationKey
      else if first = asBytes "SubscriptionAuthority" then authorityKey
      else if first = (smallKey 2).bytes then subscriberTokens
      else if second = tokenProgram.bytes then recipientTokens
      else program
  | _ => program

def activationConfig : SubscriptionConfig where
  planId := "11111111111111111111111111111116"
  mint := "EPjFWdd5AufqSSqeM2qN1xzybapC8G4wEGGkZwyTDt1v"
  tokenProgram := programs.tokenProgram
  puller := "11111111111111111111111111111114"
  feePayer := true
  feePayerSigner := some (smallKey 1)
  feePayerPubkey := none

def activationRequest : SubscriptionRequest where
  amount := "1000"
  recipient := "11111111111111111111111111111115"
  externalId := some "order-7"

/-- A unit limit, the subscriber's token account, the subscription, its transfer of 1,000 and
the memo. -/
def activationTransaction : VersionedTransaction where
  signatures := List.replicate 3 Signature.default
  message := .v0
    { header := ⟨3, 0, 10⟩
      accountKeys := [smallKey 1, smallKey 2, smallKey 3, delegationKey, subscriberTokens,
        recipientTokens, smallKey 5, authorityKey, usdcMint, tokenProgram, systemProgram,
        eventAuthorityKey, .ofConst subscriptionsProgramId, ataProgram, memoProgram,
        computeBudgetProgram]
      recentBlockhash := List.replicate 32 0
      instructions := [
        ⟨15, [], [2, 64, 13, 3, 0]⟩,
        ⟨13, [0, 4, 1, 8, 10, 9], [1]⟩,
        ⟨12, [1, 2, 6, 3, 7, 10, 11, 12], [11]⟩,
        ⟨12, [3, 6, 7, 4, 5, 2, 8, 9, 11, 12],
          [10, 232, 3, 0, 0, 0, 0, 0, 0] ++ (smallKey 2).bytes ++ usdcMint.bytes⟩,
        ⟨14, [], asBytes "order-7"⟩] }
    []

theorem accepted_activates_of_activationTransaction :
    ∃ programId mint tokenProgram puller planPda feePayer,
      Pubkey.fromStr subscriptionsProgramId = .ok programId ∧
      Pubkey.fromStr activationConfig.mint = .ok mint ∧
      Pubkey.fromStr activationConfig.tokenProgram = .ok tokenProgram ∧
      Pubkey.fromStr activationConfig.puller = .ok puller ∧
      Pubkey.fromStr activationConfig.planId = .ok planPda ∧
      (activationScope activationAddress activationTransaction activationRequest activationConfig
        programId mint tokenProgram puller planPda (smallKey 2)).Activates
        activationTransaction.message.instructions ∧
      activationTransaction.message.staticAccountKeys.head? = some feePayer ∧
      PaidBy activationConfig feePayer (smallKey 2) ∧ smallKey 2 ≠ puller ∧
      SignedBy activationTransaction feePayer (smallKey 2) puller := by
  have hExtracted : extractSubscriberFromTx activationTransaction activationConfig =
      .ok (smallKey 2) := by
    decide
  have hAccepted : validateActivationScope activationAddress activationTransaction
      activationRequest subscriptionsProgramId (smallKey 2) activationConfig = .ok () := by
    decide
  exact accepted_activates hExtracted hAccepted

end PayKit.Subscription
