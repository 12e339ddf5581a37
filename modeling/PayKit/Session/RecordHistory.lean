import PayKit.Session.RecordLedger

/-!
# Histories of a session record

What every move keeps holds of every record of a history, and what a move never takes back
relates every record to all earlier ones. The totals that requests were charged are recovered
from the history alone.
-/

namespace PayKit.Session

open Accounting Channel Concurrency Control Machine Store

variable {Scope : Type} {server : RequestServer Scope} {known later : Knowledge}
  {channelId : String} {records earlier : List Held} {held newest : Held}

theorem RecordHistory.all (hHistory : RecordHistory server known channelId records)
    (holds : ChannelState → Prop)
    (hReserved : ∀ record, server.Reserved channelId record → holds record)
    (hKept : ∀ time before after, RecordMove server known channelId time before after →
      holds before → holds after) :
    ∀ held ∈ records, holds held.record := by
  induction hHistory with
  | empty => simp
  | reserved hNew => simpa using hReserved _ hNew
  | wrote hHistory hMove hInduction =>
      intro held hMem
      rcases List.mem_cons.mp hMem with rfl | hOld
      · exact hKept _ _ _ hMove (hInduction _ List.mem_cons_self)
      · exact hInduction held hOld

theorem RecordMove.mono {time : ℕ} {before after : ChannelState} (hLe : known.Le later)
    (hMove : RecordMove server known channelId time before after) :
    RecordMove server later channelId time before after := by
  cases hMove with
  | aside hSame => exact .aside hSame
  | voucher hAdmits hRises hWithin hAmount hSigned =>
      exact .voucher hAdmits hRises hWithin hAmount hSigned
  | operator hAdmits hWithin hSigned hTotal hAsked hRecorded =>
      refine .operator hAdmits hWithin hSigned hTotal ?_ hRecorded
      exact fun total hAmount => hLe.asked _ _ _ _ (hAsked total hAmount)
  | commit hFunded hUnsealed hUnfixed hPays hWithin hSigned =>
      exact .commit hFunded hUnsealed hUnfixed hPays hWithin hSigned
  | close hOpened hOwes hRises hWithin hCarried =>
      exact .close hOpened hOwes hRises hWithin hCarried
  | topUp hOpened hUnknown hFinalized =>
      exact .topUp hOpened hUnknown (hLe.finalized _ _ _ hFinalized)
  | observed hFunded hRenewed hSaw hPaid =>
      exact .observed hFunded hRenewed (fun hShown => hLe.sawOpen _ _ (hSaw hShown))
        (hLe.paid _ _ hPaid)
  | settled hFunded hPaid => exact .settled hFunded (hLe.paid _ _ hPaid)
  | markSealed hFunded => exact .markSealed hFunded
  | activated hLanded hPaid =>
      exact .activated (hLe.landed _ _ hLanded) (hLe.paid _ _ hPaid)
  | retired => exact .retired

theorem RecordHistory.mono (hLe : known.Le later)
    (hHistory : RecordHistory server known channelId records) :
    RecordHistory server later channelId records := by
  induction hHistory with
  | empty => exact .empty
  | reserved hNew => exact .reserved hNew
  | wrote hHistory hMove hInduction => exact .wrote hInduction (hMove.mono hLe)

theorem RecordHistory.tail (hHistory : RecordHistory server known channelId (newest :: records)) :
    RecordHistory server known channelId records := by
  cases hHistory with
  | reserved hNew => exact .empty
  | wrote hHistory hMove => exact hHistory

theorem RecordHistory.suffix
    (hHistory : RecordHistory server known channelId (earlier ++ records)) :
    RecordHistory server known channelId records := by
  induction earlier with
  | nil => exact hHistory
  | cons newest earlier hInduction => exact hInduction hHistory.tail

theorem RecordHistory.move {previous : Held}
    (hHistory : RecordHistory server known channelId (earlier ++ newest :: previous :: records)) :
    RecordMove server known channelId newest.time previous.record newest.record := by
  cases hHistory.suffix with
  | wrote hHistory hMove => exact hMove

/-! ### What every record keeps -/

theorem RequestServer.Reserved.sound {record : ChannelState}
    (hReserved : server.Reserved channelId record) : Sound (accountOf record) := by
  rw [hReserved.account]
  exact ⟨le_rfl, Nat.zero_le _, fun _ => ⟨rfl, rfl, rfl, rfl, rfl, rfl⟩,
    fun _ hAmount => nomatch hAmount⟩

theorem RecordHistory.sound (hHistory : RecordHistory server known channelId records) :
    ∀ held ∈ records, Sound (accountOf held.record) :=
  hHistory.all (fun record => Sound (accountOf record)) (fun _ hReserved => hReserved.sound)
    fun _ _ _ hMove hSound => (hMove.account hSound).sound hSound

theorem RecordHistory.proven (hHistory : RecordHistory server known channelId records) :
    ∀ held ∈ records, server.Proven channelId held.record := by
  refine hHistory.all (server.Proven channelId) ?_ fun _ _ _ hMove => hMove.proven
  intro record hReserved hUnsettled
  have hZero : record.cumulative = 0 := congrArg Account.authorized hReserved.account
  omega

theorem RecordHistory.deposited (hHistory : RecordHistory server known channelId records) :
    ∀ held ∈ records, Deposited known channelId held.record := by
  refine hHistory.all (Deposited known channelId) ?_ fun _ _ _ hMove => hMove.deposited
  intro record hReserved
  have hZero : record.deposit = 0 := congrArg Account.deposit hReserved.account
  refine ⟨hReserved.topUps ▸ List.nodup_nil, fun _ => ⟨hReserved.topUps, hZero⟩, 0, [], .inl rfl,
    hZero, hReserved.topUps ▸ .nil⟩

theorem RecordHistory.paid (hHistory : RecordHistory server known channelId records) :
    ∀ held ∈ records, held.record.settledOnChain = 0 ∨
      known.paid channelId held.record.settledOnChain := by
  refine hHistory.all (fun record => record.settledOnChain = 0 ∨
    known.paid channelId record.settledOnChain)
    (fun record hReserved => .inl (congrArg Account.settled hReserved.account)) ?_
  intro time before after hMove hBefore
  rcases hMove.paid with hSame | hPaid
  · exact hSame ▸ hBefore
  · exact .inr hPaid

structure RequestServer.Owns (server : RequestServer Scope) (channelId : String)
    (record : ChannelState) : Prop where
  channelId : record.channelId = channelId
  voucherSigner : record.voucherSigner = server.voucherSigner
  authorizedSigner : server.voucherSigner = operatorSigner →
    record.authorizedSigner = server.operator

theorem RecordHistory.owned (hHistory : RecordHistory server known channelId records) :
    ∀ held ∈ records, server.Owns channelId held.record := by
  refine hHistory.all (server.Owns channelId)
    (fun record hReserved => ⟨hReserved.channelId, hReserved.voucherSigner,
      hReserved.authorizedSigner⟩) ?_
  intro time before after hMove hOwned
  have hTerms := hMove.terms
  refine ⟨hTerms.channelId.trans hOwned.channelId, hTerms.voucherSigner.trans hOwned.voucherSigner,
    fun hOperator => hTerms.authorizedSigner.trans (hOwned.authorizedSigner hOperator)⟩

theorem RecordHistory.asked (hHistory : RecordHistory server known channelId records) :
    ∀ held ∈ records, ∀ entry ∈ held.record.processedUses, ∃ total, entry.amount = some total ∧
      known.asked channelId entry.challengeId entry.idempotencyKey total := by
  refine hHistory.all (fun record => ∀ entry ∈ record.processedUses, ∃ total,
    entry.amount = some total ∧
      known.asked channelId entry.challengeId entry.idempotencyKey total) ?_ ?_
  · intro record hReserved entry hMem
    simp [hReserved.uses] at hMem
  · intro time before after hMove hAsked entry hMem
    rcases hMove.uses with hSame | ⟨charged, delta, hUses, hTotal, -, hKnown⟩
    · exact hAsked entry (hSame ▸ hMem)
    · rw [hUses] at hMem
      rcases mem_recordUse hMem with hOld | rfl
      · exact hAsked entry hOld
      · exact ⟨_, hTotal, hKnown⟩

/-! ### What is never taken back -/

/-- What a record keeps of an earlier one. -/
structure Follows (before after : ChannelState) : Prop where
  account : Later (accountOf before) (accountOf after)
  terms : SameTerms before after
  observedSlot : before.onchainObservedSlot ≤ after.onchainObservedSlot
  topUps : before.processedTopupSignatures ⊆ after.processedTopupSignatures

theorem SameTerms.refl (state : ChannelState) : SameTerms state state :=
  ⟨rfl, rfl, rfl, rfl, rfl, rfl⟩

theorem SameTerms.trans {before middle after : ChannelState} (hFirst : SameTerms before middle)
    (hSecond : SameTerms middle after) : SameTerms before after :=
  ⟨hSecond.1.trans hFirst.1, hSecond.2.trans hFirst.2, hSecond.3.trans hFirst.3,
    hSecond.4.trans hFirst.4, hSecond.5.trans hFirst.5, hSecond.6.trans hFirst.6⟩

theorem Follows.refl (state : ChannelState) : Follows state state :=
  ⟨.refl _, .refl _, le_rfl, fun _ hMem => hMem⟩

theorem Follows.trans {before middle after : ChannelState} (hFirst : Follows before middle)
    (hSecond : Follows middle after) : Follows before after :=
  ⟨hFirst.account.trans hSecond.account, hFirst.terms.trans hSecond.terms,
    hFirst.observedSlot.trans hSecond.observedSlot,
    fun _ hMem => hSecond.topUps (hFirst.topUps hMem)⟩

theorem RecordMove.topUps {time : ℕ} {before after : ChannelState}
    (hMove : RecordMove server known channelId time before after) :
    before.processedTopupSignatures ⊆ after.processedTopupSignatures := by
  cases hMove with
  | aside hSame => exact hSame.topUps ▸ fun _ hMem => hMem
  | topUp hOpened hUnknown hFinalized => exact fun _ hMem => List.mem_append_left _ hMem
  | observed hFunded hRenewed hSaw hPaid =>
      exact (renewed_of_fresh hRenewed).topUps ▸ fun _ hMem => hMem
  | activated hLanded hPaid =>
      cases hSetup : opensChannel before with
      | true =>
          rw [activated_of_pending hSetup]
          exact fun _ hMem => hMem
      | false =>
          rw [activated_of_funded hSetup]
          exact fun _ hMem => hMem
  | _ => exact fun _ hMem => hMem

theorem RecordMove.follows {time : ℕ} {before after : ChannelState}
    (hMove : RecordMove server known channelId time before after)
    (hSound : Sound (accountOf before)) : Follows before after :=
  ⟨(hMove.account hSound).later hSound, hMove.terms, hMove.observedSlot, hMove.topUps⟩

theorem RecordHistory.follows
    (hHistory : RecordHistory server known channelId (newest :: records)) :
    ∀ held ∈ newest :: records, Follows held.record newest.record := by
  generalize hAll : newest :: records = all at hHistory
  induction hHistory generalizing newest records with
  | empty => cases hAll
  | reserved hNew =>
      cases hAll
      simpa using Follows.refl _
  | @wrote time record previous before hHistory hMove hInduction =>
      cases hAll
      intro held hMem
      rcases List.mem_cons.mp hMem with rfl | hOld
      · exact .refl _
      · have hSound := hHistory.sound previous List.mem_cons_self
        exact (hInduction rfl held hOld).trans (hMove.follows hSound)

theorem RecordHistory.pairwise (hHistory : RecordHistory server known channelId records) :
    records.Pairwise fun newer older => Follows older.record newer.record := by
  induction records with
  | nil => exact .nil
  | cons newest records hInduction =>
      refine .cons ?_ (hInduction hHistory.tail)
      exact fun held hMem => hHistory.follows held (List.mem_cons_of_mem _ hMem)

/-! ### The last look at the chain -/

/-- A record that takes charges was last read at a time at which a read showed the channel open,
or at which its confirmed open was recorded. -/
theorem RecordHistory.seen (hHistory : RecordHistory server known channelId (newest :: records))
    (hOpened : (accountOf newest.record).Opened)
    (hLive : sessionOpenIsTerminal newest.record = false) :
    known.sawOpen channelId newest.record.onchainObservedAt ∨
      (∃ held ∈ newest :: records, held.time = newest.record.onchainObservedAt) ∧
        ∃ deposit, known.landed channelId deposit := by
  generalize hAll : newest :: records = all at hHistory
  induction hHistory generalizing newest records with
  | empty => cases hAll
  | reserved hNew =>
      cases hAll
      have hFunded := accountOf_funded.mp hOpened.funded
      rw [hNew.pending] at hFunded
      cases hFunded
  | @wrote time record previous before hHistory hMove hInduction =>
      cases hAll
      rcases hMove.seen hOpened hLive with ⟨hFunded, hLiveBefore, hSame⟩ | hSaw | ⟨hTime, hLanded⟩
      · have hSound := hHistory.sound previous List.mem_cons_self
        have hBefore := (hMove.follows hSound).account.opened (accountOf_funded.mpr hFunded) hOpened
        rw [hSame]
        rcases hInduction hBefore hLiveBefore rfl with hSaw | ⟨⟨held, hMem, hTime⟩, hLanded⟩
        · exact .inl hSaw
        · exact .inr ⟨⟨held, List.mem_cons_of_mem _ hMem, hTime⟩, hLanded⟩
      · exact .inl hSaw
      · exact .inr ⟨⟨_, List.mem_cons_self, hTime.symm⟩, hLanded⟩

/-! ### What a request was charged in all -/

/-- A record was written to charge the request of this key. -/
def charges (key : String) (newer older : ChannelState) : Bool :=
  newer.processedUses ≠ older.processedUses ∧
    newer.processedUses.getLast?.map ProcessedUse.idempotencyKey = some key

/-- The sum of all charges of a request. -/
def chargedFor (key : String) : List Held → ℕ
  | newer :: older :: earlier =>
      (if charges key newer.record older.record then
        newer.record.spentAmount - older.record.spentAmount else 0) +
        chargedFor key (older :: earlier)
  | _ => 0

theorem RecordHistory.chargedFor_eq (key : String)
    (hHistory : RecordHistory server known channelId (newest :: records))
    (hFits : ∀ held ∈ newest :: records, held.record.processedUses.length < maxProcessedUses) :
    chargedFor key (newest :: records) = totalFor newest.record.processedUses key := by
  generalize hAll : newest :: records = all at hHistory hFits
  induction hHistory generalizing newest records with
  | empty => cases hAll
  | reserved hNew =>
      cases hAll
      simp [chargedFor, totalFor, hNew.uses]
  | @wrote time record previous before hHistory hMove hInduction =>
      cases hAll
      have hPrevious := hInduction rfl fun held hMem => hFits held (List.mem_cons_of_mem _ hMem)
      have hRecord := hFits _ List.mem_cons_self
      rw [chargedFor, hPrevious]
      rcases hMove.uses with hSame | ⟨entry, delta, hUses, hTotal, hSpent, -⟩
      · have hQuiet : charges key record previous.record = false := by
          simp [charges, hSame]
        simp [hQuiet, hSame]
      · rw [hUses] at hRecord
        simp only [hUses, totalFor_recordUse hRecord]
        by_cases hKey : key = entry.idempotencyKey
        · subst hKey
          by_cases hChanged : recordUse previous.record.processedUses entry =
              previous.record.processedUses
          · -- An entry that changes nothing adds nothing.
            have hAgain : totalFor (recordUse previous.record.processedUses entry)
                entry.idempotencyKey = _ := totalFor_recordUse hRecord
            rw [hChanged, if_pos rfl, hTotal] at hAgain
            have hQuiet : charges entry.idempotencyKey record previous.record = false := by
              simp [charges, hUses, hChanged]
            simp only [hQuiet, hTotal, Option.getD_some] at hAgain ⊢
            simpa using hAgain
          · have hCharged : charges entry.idempotencyKey record previous.record = true := by
              simp [charges, hUses, hChanged, getLast?_recordUse]
            simp only [hCharged, if_true, hTotal, Option.getD_some, hSpent]
            omega
        · have hQuiet : charges key record previous.record = false := by
            simp [charges, hUses, getLast?_recordUse, Ne.symm hKey]
          simp [hQuiet, hKey]

end PayKit.Session
