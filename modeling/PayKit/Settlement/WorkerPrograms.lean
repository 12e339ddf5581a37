import PayKit.Settlement.WorkerWarrants

/-!
# The programs of the settlement worker do their duty

One theorem for each program of the worker: which units it may find at its desk, in what state, and
in what state it leaves them.
-/

namespace PayKit.Settlement

open Concurrency Control Tx

variable {worker : SettlementWorker} {owned carries : List Submitted} {past : WorkerPast}
  {unit : Submitted}

/-- At a desk with such units and such a past, the program has a right to all its calls. -/
abbrev SettlementWorker.Does (worker : SettlementWorker) {Result : Type}
    (owned : List Submitted) (past : WorkerPast) (program : Program WorkerCall WorkerReply Result)
    (finish : Result → WorkerDesk → Prop) : Prop :=
  Follows worker.crew (WorkerCall.ownership worker).rules finish ⟨owned, past⟩ program

def WorkerCall.Quiet : WorkerCall → Prop
  | .send _ _ => False
  | .reply _ _ => False
  | _ => True

theorem WorkerCall.Quiet.warranted {call : WorkerCall} (hQuiet : call.Quiet) :
    call.Warranted worker past := by
  cases call with
  | send carries tx => exact hQuiet.elim
  | reply unit outcome => exact hQuiet.elim
  | _ => exact trivial

theorem WorkerCall.Quiet.own {call : WorkerCall} (hQuiet : call.Quiet) :
    ∀ unit ∈ call.concerns, unit ∈ owned := by
  cases call with
  | send carries tx => exact hQuiet.elim
  | reply unit outcome => exact hQuiet.elim
  | _ => exact fun unit hUnit => absurd hUnit List.not_mem_nil

theorem Since.quiet {sent replied : List Submitted} {middle : WorkerPast}
    {exchange : Exchange WorkerCall WorkerReply} (hQuiet : exchange.call.Quiet)
    (hSince : Since sent replied past middle) : Since sent replied past (exchange :: middle) := by
  rcases exchange with ⟨call, reply⟩
  cases call with
  | send carries tx => exact hQuiet.elim
  | reply unit outcome => exact hQuiet.elim
  | _ => exact hSince.cons (fun _ => rfl) fun _ => rfl

namespace SettlementWorker

theorem Does.request {Result : Type} {call : WorkerCall}
    {rest : WorkerReply call → Program WorkerCall WorkerReply Result}
    {finish : Result → WorkerDesk → Prop} (hStarts : worker.crew.starts call = [])
    (hQuiet : call.Quiet)
    (hRest : ∀ reply, worker.Does owned (⟨call, reply⟩ :: past) (rest reply) finish) :
    worker.Does owned past (Program.request call >>= rest) finish :=
  Ownership.follows_request hStarts hQuiet.warranted hQuiet.own hRest

theorem Does.await {First Result : Type} {call : WorkerCall}
    {outcome : WorkerReply call → Except String First}
    {rest : First → Fallible String WorkerCall WorkerReply Result}
    {finish : Except String Result → WorkerDesk → Prop} (hStarts : worker.crew.starts call = [])
    (hQuiet : call.Quiet)
    (hOk : ∀ reply value, outcome reply = .ok value →
      worker.Does owned (⟨call, reply⟩ :: past) (rest value).run finish)
    (hError : ∀ reply error, outcome reply = .error error →
      finish (.error error) ⟨owned, ⟨call, reply⟩ :: past⟩) :
    worker.Does owned past (Fallible.await call outcome >>= rest).run finish :=
  Ownership.follows_await hStarts hQuiet.warranted hQuiet.own hOk hError

/-! ### Sending -/

theorem signVersionedTransactionSlot_does (tx : VersionedTransaction) :
    worker.Does owned past (worker.signVersionedTransactionSlot tx).run fun outcome desk =>
      desk.owned = owned ∧ Since [] [] past desk.past ∧
        ∀ signed, outcome = .ok signed → signed.message = tx.message := by
  refine Follows.ofExcept_bind (fun index _ => ?_) fun error _ => ⟨rfl, .refl _, nofun⟩
  refine Follows.ofExcept_bind (fun _ _ => ?_) fun error _ => ⟨rfl, .refl _, nofun⟩
  refine Follows.ofExcept_bind (fun _ _ => ?_) fun error _ => ⟨rfl, .refl _, nofun⟩
  refine Does.await rfl trivial (fun reply signature _ => ?_) fun reply error _ =>
    ⟨rfl, (Since.refl past).quiet trivial, nofun⟩
  refine ⟨rfl, (Since.refl past).quiet trivial, ?_⟩
  rintro signed hSigned
  cases hSigned
  rfl

/-- What an attempt to send leaves behind. -/
structure Attempted (worker : SettlementWorker) (carries : List Submitted) (past later : WorkerPast)
    (outcome : SettlementResult) : Prop where
  since : Since carries [] past later
  sent : ∀ signature, outcome = .ok signature →
    ∃ tx, ∀ unit ∈ carries, sends unit later = ⟨carries, tx, .ok signature⟩ :: sends unit past
  unsent : ∀ error, outcome = .error error → Unsent worker later carries error

theorem Attempted.of_error {later : WorkerPast} {error : String}
    (hSince : Since carries [] past later) (hUnsent : Unsent worker later carries error) :
    Attempted worker carries past later (.error error) where
  since := hSince
  sent := nofun
  unsent := by
    rintro other hOther
    cases hOther
    exact hUnsent

theorem signAndSend_does (hOwned : ∀ unit ∈ carries, unit ∈ owned)
    (hMaySend : ∀ later, Since [] [] past later → MaySend worker later carries) :
    worker.Does owned past (worker.signAndSend carries).run fun outcome desk =>
      desk.owned = owned ∧ Attempted worker carries past desk.past outcome := by
  have hNone : ∀ {later : WorkerPast}, Since [] [] past later → Since carries [] past later :=
    fun hSince => hSince.mono (by simp) (by simp)
  refine Does.await rfl trivial (fun reply blockhash hReply => ?_) fun reply error hReply => ?_
  · have hFirst : Since [] [] past (⟨.latestBlockhash, reply⟩ :: past) :=
      (Since.refl past).quiet trivial
    have hBlockhash : reply = .ok blockhash := hReply
    subst hBlockhash
    refine Follows.ofExcept_bind (fun tx hTx => ?_) fun error hError => ?_
    · rw [mapError_eq_ok] at hTx
      refine Follows.fallible_bind (?_ : worker.Does _ _ _ fun outcome desk =>
        desk.owned = owned ∧ Since [] [] past desk.past ∧
          (∀ signed, outcome = .ok signed → BuiltFrom worker desk.past carries signed) ∧
          ∀ error, outcome = .error error → Unsent worker desk.past carries error) ?_ ?_
      · refine (signVersionedTransactionSlot_does tx).bind fun outcome desk hSlot => ?_
        rcases hSlot with ⟨hSame, hSince, hMessage⟩
        refine ⟨hSame, hFirst.trans hSince, ?_, ?_⟩
        · intro signed hSigned
          rw [mapError_eq_ok] at hSigned
          exact ⟨blockhash, tx, hSince.suffix.mem List.mem_cons_self, hTx, hMessage signed hSigned⟩
        · intro error hError
          cases outcome with
          | ok signed => cases hError
          | error reason =>
              cases hError
              exact .signing reason
      · rintro signed ⟨atDesk, now⟩ ⟨rfl, hSince, hBuilt, -⟩
        refine Ownership.follows_request rfl ⟨hBuilt signed rfl, hMaySend now hSince⟩ hOwned
          fun reply => ⟨rfl, ?_⟩
        cases reply with
        | error error =>
            exact Attempted.of_error ((hNone hSince).trans (.send signed _))
              (.send List.mem_cons_self)
        | ok signature =>
            refine ⟨(hNone hSince).trans (.send signed _), ?_, nofun⟩
            rintro other hOther
            cases hOther
            refine ⟨signed, fun unit hUnit => ?_⟩
            refine (sends_send signed (.ok signature) hUnit).trans ?_
            rw [hSince.sends unit (by simp)]
      · rintro error desk ⟨hSame, hSince, -, hUnsent⟩
        exact ⟨hSame, .of_error (hNone hSince) (hUnsent error rfl)⟩
    · refine ⟨rfl, .of_error (hNone hFirst) ?_⟩
      cases hBuild : worker.unsigned (flat carries) blockhash with
      | ok tx =>
          rw [hBuild] at hError
          cases hError
      | error reason =>
          rw [hBuild] at hError
          cases hError
          exact .build hBuild
  · have hError : reply = .error error := hReply
    subst hError
    have hFirst : Since [] [] past (⟨.latestBlockhash, .error error⟩ :: past) :=
      (Since.refl past).quiet trivial
    exact ⟨rfl, .of_error (hNone hFirst) (.blockhash List.mem_cons_self)⟩

/-! ### Confirming -/

/-- What the polls of a signature have shown. -/
inductive Polled (signature : String) (past : WorkerPast) : Except ConfirmFailure String → Prop
  | confirmed (hReported : Reported past signature .confirmed) :
      Polled signature past (.ok signature)
  | failed {error : String} (hReported : Reported past signature (.failed error)) :
      Polled signature past (.error (.onChain (onChainMessage signature error)))
  | unconfirmed : Polled signature past (.error (.unconfirmed (unconfirmedMessage signature)))

theorem confirmSettlement_does (signature : String) (attempts : ℕ) (past : WorkerPast) :
    worker.Does owned past (confirmSettlement signature attempts) fun verdict desk =>
      desk.owned = owned ∧ Since [] [] past desk.past ∧ Polled signature desk.past verdict := by
  induction attempts generalizing past with
  | zero => exact ⟨rfl, .refl _, .unconfirmed⟩
  | succ attempts hInduction =>
      refine Does.request rfl trivial fun verdict => ?_
      have hFirst : Since [] [] past (⟨.confirm signature, verdict⟩ :: past) :=
        (Since.refl past).quiet trivial
      have hAgain : ∀ reply : WorkerReply (.sleep 400), worker.Does owned
          (⟨.sleep 400, reply⟩ :: ⟨.confirm signature, verdict⟩ :: past)
          (confirmSettlement signature attempts) fun verdict desk =>
            desk.owned = owned ∧ Since [] [] past desk.past ∧
              Polled signature desk.past verdict := by
        intro reply
        refine (hInduction _).weaken ?_
        rintro result desk ⟨hSame, hSince, hPolled⟩
        have hPaused : Since [] [] past
            (⟨.sleep 400, reply⟩ :: ⟨.confirm signature, verdict⟩ :: past) := hFirst.quiet trivial
        exact ⟨hSame, hPaused.trans hSince, hPolled⟩
      match verdict with
      | .ok .confirmed => exact ⟨rfl, hFirst, .confirmed List.mem_cons_self⟩
      | .ok (.failed error) => exact ⟨rfl, hFirst, .failed List.mem_cons_self⟩
      | .ok .pending => exact Does.request rfl trivial hAgain
      | .error error => exact Does.request rfl trivial hAgain

theorem settleAlone_does (hOwned : unit ∈ owned) (hFailed : FailedPacked past unit) :
    worker.Does owned past (worker.settleAlone unit) fun outcome desk =>
      desk.owned = owned ∧ Since [unit] [] past desk.past ∧
        Explained worker desk.past unit outcome := by
  refine Does.request rfl trivial fun _ => ?_
  have hAcquired : Since [unit] [] past (⟨.acquire, ()⟩ :: past) := (Since.refl past).quiet trivial
  have hStill : FailedPacked (⟨.acquire, ()⟩ :: past) unit :=
    hFailed.since hAcquired.suffix.subset (List.filterMap_cons_none rfl)
  refine (signAndSend_does (by simpa using hOwned) fun later hLater =>
    .alone (hStill.since hLater.suffix.subset (hLater.sends unit (by simp)))).bind ?_
  rintro sent ⟨atDesk, now⟩ ⟨rfl, hAttempted⟩
  refine Does.request rfl trivial fun _ => ?_
  have hSince : Since [unit] [] past (⟨.release, ()⟩ :: now) :=
    (hAcquired.trans hAttempted.since).quiet trivial
  cases sent with
  | error error =>
      refine ⟨rfl, hSince, .unsent List.mem_cons_self ((hAttempted.unsent error rfl).since ?_)⟩
      exact List.subset_cons_self _ _
  | ok signature =>
      rcases hAttempted.sent signature rfl with ⟨tx, hSent⟩
      refine (confirmSettlement_does signature _ _).bind ?_
      rintro verdict ⟨atDesk, later⟩ ⟨rfl, hPolls, hPolled⟩
      have hSends : sends unit later
          = ⟨[unit], tx, .ok signature⟩ :: sends unit (⟨.acquire, ()⟩ :: past) := by
        rw [hPolls.sends unit (by simp)]
        exact hSent unit List.mem_cons_self
      refine ⟨rfl, hSince.trans (hPolls.mono (by simp) (by simp)), ?_⟩
      cases hPolled with
      | confirmed hReported =>
          exact .sent (by rw [hSends]; exact List.mem_cons_self) rfl fun _ => hReported
      | failed hReported => exact .failed hSends hReported
      | unconfirmed => exact .unconfirmed hSends rfl

/-! ### Answering -/

theorem reply_warranted {outcome : SettlementResult} (hFresh : answers unit past = [])
    (hExplained : Explained worker past unit outcome) :
    (WorkerCall.ownership worker).warrants past (.reply unit outcome) :=
  ⟨hFresh, hExplained⟩

theorem reply_own {outcome : SettlementResult} (hOwned : unit ∈ owned) :
    ∀ other ∈ (WorkerCall.ownership worker).concerns (.reply unit outcome), other ∈ owned := by
  intro other hOther
  rw [List.mem_singleton.mp hOther]
  exact hOwned

theorem replyEach_does {outcome : SettlementResult} {units : List Submitted} (past : WorkerPast)
    (hOwned : ∀ unit ∈ units, unit ∈ owned) (hDistinct : units.Nodup)
    (hFresh : ∀ unit ∈ units, answers unit past = [])
    (hExplained : ∀ unit ∈ units, Explained worker past unit outcome) :
    worker.Does owned past (replyEach outcome units) fun _ desk =>
      desk.owned = owned ∧ Since [] units past desk.past ∧
        ∀ unit ∈ units, answers unit desk.past ≠ [] := by
  induction units generalizing past with
  | nil => exact ⟨rfl, .refl _, by simp⟩
  | cons unit units hInduction =>
      rw [List.nodup_cons] at hDistinct
      refine Ownership.follows_request rfl
        (reply_warranted (hFresh unit List.mem_cons_self) (hExplained unit List.mem_cons_self))
        (reply_own (hOwned unit List.mem_cons_self)) fun reply => ?_
      have hFirst : Since [] [unit] past (⟨.reply unit outcome, reply⟩ :: past) :=
        .reply outcome reply
      have hOther : ∀ other ∈ units, other ∉ [unit] := by
        intro other hMember hSame
        exact hDistinct.1 (List.mem_singleton.mp hSame ▸ hMember)
      refine (hInduction _ (fun other hMember => hOwned other (List.mem_cons_of_mem _ hMember))
        hDistinct.2 (fun other hMember => ?_) fun other hMember => ?_).weaken ?_
      · rw [hFirst.answers other (hOther other hMember)]
        exact hFresh other (List.mem_cons_of_mem _ hMember)
      · exact (hExplained other (List.mem_cons_of_mem _ hMember)).since hFirst.suffix.subset
          (hFirst.sends other (by simp))
      · rintro result desk ⟨hSame, hSince, hAnswered⟩
        refine ⟨hSame, (hFirst.mono (by simp) (by simp)).trans
          (hSince.mono (by simp) fun other hMember => List.mem_cons_of_mem _ hMember), ?_⟩
        intro other hMember
        rcases List.mem_cons.mp hMember with rfl | hLater
        · rw [hSince.answers other hDistinct.1, answers_reply]
          exact List.cons_ne_nil _ _
        · exact hAnswered other hLater

theorem settleConfirming_does {confirming : List Submitted} (past : WorkerPast)
    (hOwned : ∀ unit ∈ confirming, unit ∈ owned) (hDistinct : confirming.Nodup)
    (hFailed : ∀ unit ∈ confirming, FailedPacked past unit)
    (hFresh : ∀ unit ∈ confirming, answers unit past = []) :
    worker.Does owned past (worker.settleConfirming confirming) fun _ desk =>
      desk.owned = owned ∧ Since confirming confirming past desk.past ∧
        ∀ unit ∈ confirming, answers unit desk.past ≠ [] := by
  induction confirming generalizing past with
  | nil => exact ⟨rfl, .refl _, by simp⟩
  | cons unit confirming hInduction =>
      rw [List.nodup_cons] at hDistinct
      have hOther : ∀ other ∈ confirming, other ∉ [unit] := by
        intro other hMember hSame
        exact hDistinct.1 (List.mem_singleton.mp hSame ▸ hMember)
      refine (settleAlone_does (hOwned unit List.mem_cons_self)
        (hFailed unit List.mem_cons_self)).bind ?_
      rintro outcome ⟨atDesk, now⟩ ⟨rfl, hAlone, hExplained⟩
      have hUnanswered : answers unit now = [] := by
        rw [hAlone.answers unit (by simp)]
        exact hFresh unit List.mem_cons_self
      refine Ownership.follows_request rfl (reply_warranted hUnanswered hExplained)
        (reply_own (hOwned unit List.mem_cons_self)) fun reply => ?_
      have hFirst : Since [unit] [unit] past (⟨.reply unit outcome, reply⟩ :: now) :=
        (hAlone.mono (by simp) (by simp)).trans (.reply outcome reply)
      refine (hInduction _ (fun other hMember => hOwned other (List.mem_cons_of_mem _ hMember))
        hDistinct.2 (fun other hMember => ?_) fun other hMember => ?_).weaken ?_
      · exact (hFailed other (List.mem_cons_of_mem _ hMember)).since hFirst.suffix.subset
          (hFirst.sends other (hOther other hMember))
      · rw [hFirst.answers other (hOther other hMember)]
        exact hFresh other (List.mem_cons_of_mem _ hMember)
      · rintro result desk ⟨hSame, hSince, hAnswered⟩
        refine ⟨hSame, (hFirst.mono (by simp) (by simp)).trans
          (hSince.mono (fun other hMember => List.mem_cons_of_mem _ hMember)
            fun other hMember => List.mem_cons_of_mem _ hMember), ?_⟩
        intro other hMember
        rcases List.mem_cons.mp hMember with rfl | hLater
        · rw [hSince.answers other hDistinct.1, answers_reply]
          exact List.cons_ne_nil _ _
        · exact hAnswered other hLater

theorem settleReplied_does {replied : List Submitted} (past : WorkerPast)
    (hOwned : ∀ unit ∈ replied, unit ∈ owned) (hDistinct : replied.Nodup)
    (hFailed : ∀ unit ∈ replied, FailedPacked past unit) :
    worker.Does owned past (worker.settleReplied replied) fun _ desk =>
      desk.owned = owned ∧ Since replied [] past desk.past := by
  induction replied generalizing past with
  | nil => exact ⟨rfl, .refl _⟩
  | cons unit replied hInduction =>
      rw [List.nodup_cons] at hDistinct
      have hOther : ∀ other ∈ replied, other ∉ [unit] := by
        intro other hMember hSame
        exact hDistinct.1 (List.mem_singleton.mp hSame ▸ hMember)
      refine (settleAlone_does (hOwned unit List.mem_cons_self)
        (hFailed unit List.mem_cons_self)).bind ?_
      rintro outcome ⟨atDesk, now⟩ ⟨rfl, hAlone, -⟩
      refine (hInduction now (fun other hMember => hOwned other (List.mem_cons_of_mem _ hMember))
        hDistinct.2 fun other hMember => ?_).weaken ?_
      · exact (hFailed other (List.mem_cons_of_mem _ hMember)).since hAlone.suffix.subset
          (hAlone.sends other (hOther other hMember))
      · rintro result desk ⟨hSame, hSince⟩
        exact ⟨hSame, (hAlone.mono (by simp) (by simp)).trans
          (hSince.mono (fun other hMember => List.mem_cons_of_mem _ hMember) (by simp))⟩

/-! ### Groups and flushes -/

/-- The units of a group are settled or handed on. -/
structure GroupDone (group owned : List Submitted) (past : WorkerPast) (desk : WorkerDesk) :
    Prop where
  since : Since group group past desk.past
  shared : ∃ handed : List Submitted, owned.Perm (desk.owned ++ handed) ∧
    ∀ unit ∈ handed, unit ∈ group
  answered : ∀ unit ∈ group, unit ∈ desk.owned → answers unit desk.past ≠ []

/-- The units of a group that its confirmation is entrusted with. -/
def handed (group : List Submitted) : List Submitted :=
  group.filter (·.awaitConfirmation) ++
    if decide (1 < group.length) then group.filter (not ∘ (·.awaitConfirmation)) else []

theorem mem_of_handed {group : List Submitted} (hUnit : unit ∈ handed group) : unit ∈ group := by
  rcases List.mem_append.mp hUnit with hConfirming | hReplied
  · exact (List.mem_filter.mp hConfirming).1
  · split at hReplied
    · exact (List.mem_filter.mp hReplied).1
    · exact absurd hReplied List.not_mem_nil

theorem handed_nodup {group : List Submitted} (hDistinct : group.Nodup) :
    (handed group).Nodup := by
  refine List.Nodup.append (hDistinct.filter _) ?_ fun unit hConfirming hReplied => ?_
  · split
    · exact hDistinct.filter _
    · exact List.nodup_nil
  · split at hReplied
    · have hAwaits := (List.mem_filter.mp hConfirming).2
      have hNot := (List.mem_filter.mp hReplied).2
      simp [hAwaits] at hNot
    · exact absurd hReplied List.not_mem_nil

theorem exists_kept (owned : List Submitted) {given : List Submitted} (hDistinct : given.Nodup)
    (hOwned : ∀ unit ∈ given, unit ∈ owned) :
    ∃ kept : List Submitted, owned.Perm (kept ++ given) := by
  rcases List.subperm_of_subset hDistinct hOwned with ⟨part, hPart, hSublist⟩
  rcases hSublist.exists_perm_append with ⟨kept, hKept⟩
  exact ⟨kept, hKept.trans ((hPart.append_right kept).trans List.perm_append_comm)⟩

theorem settleGroup_does {group : List Submitted} (past : WorkerPast)
    (hGroup : Group worker group)
    (hOwned : ∀ unit ∈ group, unit ∈ owned) (hDistinct : owned.Nodup)
    (hFresh : ∀ unit ∈ group, sends unit past = [] ∧ answers unit past = []) :
    worker.Does owned past (worker.settleGroup group) fun _ desk =>
      GroupDone group owned past desk := by
  refine (signAndSend_does hOwned fun later hLater => .together hGroup fun unit hUnit => ?_).bind ?_
  · rw [hLater.sends unit (by simp), hLater.answers unit (by simp)]
    exact hFresh unit hUnit
  rintro sent ⟨atDesk, now⟩ ⟨rfl, hAttempted⟩
  have hUnanswered : ∀ unit ∈ group, answers unit now = [] := by
    intro unit hUnit
    rw [hAttempted.since.answers unit (by simp)]
    exact (hFresh unit hUnit).2
  rw [List.partition_eq_filter_filter]
  have hImmediate : ∀ unit ∈ group.filter
      (not ∘ fun unit => unit.awaitConfirmation && sent.isOk), unit ∈ group :=
    fun unit hUnit => (List.mem_filter.mp hUnit).1
  refine (replyEach_does now (fun unit hUnit => hOwned unit (hImmediate unit hUnit))
    (hGroup.distinct.filter _) (fun unit hUnit => hUnanswered unit (hImmediate unit hUnit))
    fun unit hUnit => ?_).bind ?_
  · cases sent with
    | error error => exact .unsent (hImmediate unit hUnit) (hAttempted.unsent error rfl)
    | ok signature =>
        rcases hAttempted.sent signature rfl with ⟨tx, hSent⟩
        have hCarried := hSent unit (hImmediate unit hUnit)
        refine .sent (by rw [hCarried]; exact List.mem_cons_self) rfl fun hAwaits => ?_
        have hNot := (List.mem_filter.mp hUnit).2
        simp [hAwaits, Except.isOk, Except.toBool] at hNot
  rintro _ ⟨atDesk, later⟩ ⟨rfl, hReplies, hAnswered⟩
  have hSince : Since group group past later :=
    (hAttempted.since.mono (by simp) (by simp)).trans (hReplies.mono (by simp) hImmediate)
  cases sent with
  | error error =>
      refine ⟨hSince, ⟨[], by simp, by simp⟩, ?_⟩
      intro unit hUnit _
      exact hAnswered unit (List.mem_filter.mpr ⟨hUnit, by simp [Except.isOk, Except.toBool]⟩)
  | ok signature =>
      rcases hAttempted.sent signature rfl with ⟨tx, hSent⟩
      have hIsOk : Except.isOk (.ok signature : SettlementResult) = true := rfl
      have hAwaiting : (fun unit : Submitted => unit.awaitConfirmation && true)
          = fun unit => unit.awaitConfirmation := funext fun _ => Bool.and_true _
      rw [hIsOk, hAwaiting] at hAnswered hImmediate hReplies ⊢
      rw [Bool.and_true]
      rcases exists_kept atDesk (handed_nodup hGroup.distinct) fun unit hUnit =>
        hOwned unit (mem_of_handed hUnit) with ⟨kept, hShared⟩
      have hCarried : ∀ unit ∈ group, sends unit later = [⟨group, tx, .ok signature⟩] := by
        intro unit hUnit
        rw [hReplies.sends unit (by simp), hSent unit hUnit, (hFresh unit hUnit).1]
      refine Ownership.follows_spawn rfl trivial (fun _ hUnit => absurd hUnit List.not_mem_nil)
        hShared (fun reply => ⟨handed_nodup hGroup.distinct, ⟨group, tx, rfl, ?_, ?_⟩, ?_, ?_⟩)
        fun reply => ?_
      · exact fun unit hUnit =>
          (List.filterMap_cons_none rfl).trans (hCarried unit (mem_of_handed hUnit))
      · exact fun unit hUnit => (List.mem_filter.mp hUnit).1
      · intro unit hUnit
        rcases List.mem_filter.mp hUnit with ⟨hMember, hAwaits⟩
        refine (List.filterMap_cons_none rfl).trans ?_
        refine (hReplies.answers unit fun hReplied => ?_).trans (hUnanswered unit hMember)
        have hNot := (List.mem_filter.mp hReplied).2
        simp [hAwaits] at hNot
      · intro unit hUnit
        split at hUnit
        · exact ne_of_eq_of_ne (List.filterMap_cons_none rfl) (hAnswered unit hUnit)
        · exact absurd hUnit List.not_mem_nil
      · refine ⟨hSince.quiet trivial, ⟨handed group, hShared, fun unit => mem_of_handed⟩, ?_⟩
        intro unit hUnit hKept
        refine ne_of_eq_of_ne (List.filterMap_cons_none rfl) (hAnswered unit ?_)
        refine List.mem_filter.mpr ⟨hUnit, ?_⟩
        have hApart := List.disjoint_of_nodup_append (hShared.nodup_iff.mp hDistinct) hKept
        have hQuiet : unit.awaitConfirmation = false := by
          by_contra hAwaits
          refine hApart (List.mem_append_left _ (List.mem_filter.mpr ⟨hUnit, ?_⟩))
          simpa using hAwaits
        simp [hQuiet]

theorem settleGroups_does {groups : List (List Submitted)} (owned : List Submitted)
    (past : WorkerPast) (hGroups : ∀ group ∈ groups, Group worker group)
    (hApart : groups.flatten.Nodup) (hOwned : ∀ unit ∈ groups.flatten, unit ∈ owned)
    (hDistinct : owned.Nodup)
    (hFresh : ∀ unit ∈ groups.flatten, sends unit past = [] ∧ answers unit past = [])
    (hDone : ∀ unit ∈ owned, unit ∈ groups.flatten ∨ answers unit past ≠ []) :
    worker.Does owned past (worker.settleGroups groups) fun _ => Answered := by
  induction groups generalizing owned past with
  | nil =>
      intro unit hUnit
      rcases hDone unit hUnit with hLeft | hAnswered
      · exact absurd hLeft List.not_mem_nil
      · exact hAnswered
  | cons group groups hInduction =>
      rw [List.flatten_cons] at hApart hOwned hFresh hDone
      refine Does.request rfl trivial fun acquired => ?_
      refine (settleGroup_does (⟨.acquire, acquired⟩ :: past) (hGroups group List.mem_cons_self)
        (fun unit hUnit => hOwned unit (List.mem_append_left _ hUnit)) hDistinct
        fun unit hUnit => hFresh unit (List.mem_append_left _ hUnit)).bind ?_
      rintro _ ⟨atDesk, now⟩ ⟨hSince, ⟨given, hShared, hGiven⟩, hAnswered⟩
      refine Does.request rfl trivial fun _ => ?_
      have hLater : ∀ unit ∈ groups.flatten, unit ∉ group := fun unit hUnit hGroup =>
        List.disjoint_of_nodup_append hApart hGroup hUnit
      refine hInduction atDesk _ (fun other hOther => hGroups other (List.mem_cons_of_mem _ hOther))
        (List.Nodup.of_append_right hApart) ?_ ?_ ?_ ?_
      · intro unit hUnit
        have hMine := hShared.mem_iff.mp (hOwned unit (List.mem_append_right _ hUnit))
        rcases List.mem_append.mp hMine with hKept | hGone
        · exact hKept
        · exact absurd (hGiven unit hGone) (hLater unit hUnit)
      · exact List.Nodup.of_append_left (hShared.nodup_iff.mp hDistinct)
      · intro unit hUnit
        have hBefore := hFresh unit (List.mem_append_right _ hUnit)
        exact ⟨(hSince.sends unit (hLater unit hUnit)).trans hBefore.1,
          (hSince.answers unit (hLater unit hUnit)).trans hBefore.2⟩
      · intro unit hKept
        by_cases hUnit : unit ∈ group
        · exact .inr (hAnswered unit hUnit hKept)
        · rcases hDone unit (hShared.mem_iff.mpr (List.mem_append_left _ hKept)) with hLeft | hOld
          · exact .inl ((List.mem_append.mp hLeft).resolve_left hUnit)
          · exact .inr (ne_of_eq_of_ne (hSince.answers unit hUnit) hOld)

theorem confirmSent_does {signature : String} {packed : Bool} {confirming replied : List Submitted}
    (hPrepared : (WorkerJob.confirm signature packed confirming replied).Prepared past) :
    worker.Does (confirming ++ replied) past
      (worker.confirmSent signature packed confirming replied) fun _ => Answered := by
  rcases hPrepared with ⟨hDistinct, ⟨group, tx, hPacked, hSent, hCarried⟩, hFresh, hReplied⟩
  refine (confirmSettlement_does signature _ _).bind ?_
  rintro verdict ⟨atDesk, now⟩ ⟨rfl, hPolls, hPolled⟩
  have hConfirming : ∀ unit ∈ confirming, unit ∈ confirming ++ replied :=
    fun unit => List.mem_append_left _
  have hSentNow : ∀ unit ∈ confirming ++ replied, sends unit now = [⟨group, tx, .ok signature⟩] :=
    fun unit hUnit => (hPolls.sends unit (by simp)).trans (hSent unit hUnit)
  have hFreshNow : ∀ unit ∈ confirming, answers unit now = [] :=
    fun unit hUnit => (hPolls.answers unit (by simp)).trans (hFresh unit hUnit)
  have hRepliedNow : ∀ unit ∈ replied, answers unit now ≠ [] :=
    fun unit hUnit => ne_of_eq_of_ne (hPolls.answers unit (by simp)) (hReplied unit hUnit)
  have hApart : ∀ unit ∈ replied, unit ∉ confirming := fun unit hUnit hBoth =>
    List.disjoint_of_nodup_append hDistinct hBoth hUnit
  -- All confirming units get the same answer.
  have hReplies : ∀ outcome, (∀ unit ∈ confirming, Explained worker now unit outcome) →
      worker.Does (confirming ++ replied) now (replyEach outcome confirming) fun _ => Answered := by
    intro outcome hExplained
    refine (replyEach_does now hConfirming hDistinct.of_append_left hFreshNow hExplained).weaken ?_
    rintro _ ⟨atDesk, later⟩ ⟨rfl, hSince, hAnswered⟩ unit hUnit
    rcases List.mem_append.mp hUnit with hMine | hOther
    · exact hAnswered unit hMine
    · exact ne_of_eq_of_ne (hSince.answers unit (hApart unit hOther)) (hRepliedNow unit hOther)
  cases hPolled with
  | confirmed hReported =>
      refine hReplies _ fun unit hUnit => ?_
      have hListed : ⟨group, tx, .ok signature⟩ ∈ sends unit now := by
        rw [hSentNow unit (hConfirming unit hUnit)]
        exact List.mem_cons_self
      exact .sent hListed rfl fun _ => hReported
  | unconfirmed =>
      exact hReplies _ fun unit hUnit =>
        .unconfirmed (hSentNow unit (hConfirming unit hUnit)) rfl
  | @failed error hReported =>
      cases packed with
      | false =>
          refine hReplies _ fun unit hUnit => ?_
          have hAlone : group = [unit] := by
            have hMember := hCarried unit hUnit
            have hShort : ¬1 < group.length := by simpa using hPacked.symm
            match group, hMember, hShort with
            | [other], hMember, _ => rw [List.mem_singleton.mp hMember]
            | _ :: _ :: _, _, hShort => exact absurd (by simp) hShort
          exact .failed (by rw [hSentNow unit (hConfirming unit hUnit), hAlone]) hReported
      | true =>
          have hMany : 1 < group.length := by simpa using hPacked.symm
          have hFailed : ∀ unit ∈ confirming ++ replied, FailedPacked now unit :=
            fun unit hUnit => ⟨group, tx, signature, error, hSentNow unit hUnit, hMany, hReported⟩
          refine (settleConfirming_does now hConfirming hDistinct.of_append_left
            (fun unit hUnit => hFailed unit (hConfirming unit hUnit)) hFreshNow).bind ?_
          rintro _ ⟨atDesk, later⟩ ⟨rfl, hSince, hAnswered⟩
          refine (settleReplied_does later (fun unit => List.mem_append_right _)
            hDistinct.of_append_right fun unit hUnit => ?_).weaken ?_
          · exact (hFailed unit (List.mem_append_right _ hUnit)).since hSince.suffix.subset
              (hSince.sends unit (hApart unit hUnit))
          · rintro _ ⟨atDesk, last⟩ ⟨rfl, hLast⟩ unit hUnit
            refine ne_of_eq_of_ne (hLast.answers unit (by simp)) ?_
            rcases List.mem_append.mp hUnit with hMine | hOther
            · exact hAnswered unit hMine
            · exact ne_of_eq_of_ne (hSince.answers unit (hApart unit hOther))
                (hRepliedNow unit hOther)

theorem group_of_mem_groups {units group : List Submitted} (hDistinct : units.Nodup)
    (hGroup : group ∈ worker.groups units) : Group worker group := by
  have hGreedy := Batching.greedy_isGreedy (overflowsBy (·.instructions) worker.fitsTx
    worker.cfg.txVersion worker.cfg.operator worker.cfg.computeBudget
    worker.cfg.maxVoucherSettlementsPerTx) units
  rw [← regroup_eq_greedy] at hGreedy
  have hAdmits := hGreedy.admits group hGroup
  refine ⟨hGreedy.nonempty group hGroup, ?_, ?_, fitsTx_of_admits hAdmits⟩
  · rw [← hGreedy.flatten] at hDistinct
    exact (List.nodup_flatten.mp hDistinct).1 group hGroup
  · rw [SettlementConfig.maxPerTx, max_comm]
    exact length_le_of_admits hAdmits

theorem trained_ownership :
    Trained worker.crew (WorkerCall.ownership worker).rules Answered := by
  rintro ⟨owned, past⟩ job ⟨hEntrusted, hPrepared⟩
  have hOwned : owned = job.entrusts := hEntrusted
  subst hOwned
  cases job with
  | flush units =>
      rcases hPrepared with ⟨hDistinct, hFresh⟩
      have hFlatten := worker.groups_flatten units
      refine settleGroups_does _ _ (fun group hGroup => group_of_mem_groups hDistinct hGroup)
        ?_ ?_ hDistinct ?_ ?_
      · rwa [hFlatten]
      · rw [hFlatten]
        exact fun unit hUnit => hUnit
      · rwa [hFlatten]
      · rw [hFlatten]
        exact fun unit hUnit => .inl hUnit
  | confirm signature packed confirming replied => exact confirmSent_does hPrepared

end SettlementWorker

end PayKit.Settlement
