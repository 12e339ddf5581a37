import PayKit.Concurrency.Ownership
import PayKit.Settlement.WorkerLimits

/-!
# What warrants the calls of the settlement worker

A submitted unit may be sent in three cases only: as one of a group none of which was sent or
answered before, or alone, after the packed transaction that carried it was reported to have
failed on-chain. It may be answered once, with the signature of a transaction that carried it or
with the reason for which it was not settled. `WorkerCall.ownership` makes these the duties of the
tasks, and every program of the worker is shown to follow them.
-/

namespace PayKit.Settlement

open Concurrency Control Tx

abbrev WorkerPast : Type :=
  List (Exchange WorkerCall WorkerReply)

abbrev WorkerDesk : Type :=
  Desk Submitted WorkerCall WorkerReply

/-- A transaction that was sent, and what the broadcaster made of it. -/
structure Sent where
  carries : List Submitted
  tx : VersionedTransaction
  outcome : Except String String

def sentOf (unit : Submitted) : Exchange WorkerCall WorkerReply → Option Sent
  | ⟨.send carries tx, outcome⟩ => if unit ∈ carries then some ⟨carries, tx, outcome⟩ else none
  | _ => none

def answerOf (unit : Submitted) : Exchange WorkerCall WorkerReply → Option SettlementResult
  | ⟨.reply other outcome, _⟩ => if other = unit then some outcome else none
  | _ => none

/-- The transactions that carried a unit, the latest first. -/
def sends (unit : Submitted) (past : WorkerPast) : List Sent :=
  past.filterMap (sentOf unit)

def answers (unit : Submitted) (past : WorkerPast) : List SettlementResult :=
  past.filterMap (answerOf unit)

/-- The broadcaster has told the outcome of a signature. -/
def Reported (past : WorkerPast) (signature : String) (outcome : ConfirmOutcome) : Prop :=
  ⟨.confirm signature, .ok outcome⟩ ∈ past

/-- The transaction is the one of the units' instructions, for a blockhash that was given. -/
def BuiltFrom (worker : SettlementWorker) (past : WorkerPast) (carries : List Submitted)
    (tx : VersionedTransaction) : Prop :=
  ∃ blockhash unsigned, ⟨.latestBlockhash, .ok blockhash⟩ ∈ past ∧
    worker.unsigned (SettlementWorker.flat carries) blockhash = .ok unsigned ∧
    tx.message = unsigned.message

/-- The unit was in a packed transaction that failed on-chain, and in no other. -/
def FailedPacked (past : WorkerPast) (unit : Submitted) : Prop :=
  ∃ group tx signature error, sends unit past = [⟨group, tx, .ok signature⟩] ∧
    2 ≤ group.length ∧ Reported past signature (.failed error)

structure Group (worker : SettlementWorker) (units : List Submitted) : Prop where
  nonempty : units ≠ []
  distinct : units.Nodup
  capped : units.length ≤ worker.cfg.maxPerTx
  fits : 2 ≤ units.length → worker.fitsTx worker.cfg.txVersion (SettlementWorker.flat units)
    worker.cfg.operator worker.cfg.computeBudget = true

inductive MaySend (worker : SettlementWorker) (past : WorkerPast) : List Submitted → Prop
  | together {units : List Submitted} (hGroup : Group worker units)
      (hFresh : ∀ unit ∈ units, sends unit past = [] ∧ answers unit past = []) :
      MaySend worker past units
  | alone {unit : Submitted} (hFailed : FailedPacked past unit) : MaySend worker past [unit]

inductive Unsent (worker : SettlementWorker) (past : WorkerPast) (carries : List Submitted) :
    String → Prop
  | blockhash {error : String} (hReply : ⟨.latestBlockhash, .error error⟩ ∈ past) :
      Unsent worker past carries error
  | build {blockhash : List UInt8} {error : String}
      (hBuild : worker.unsigned (SettlementWorker.flat carries) blockhash = .error error) :
      Unsent worker past carries ("settle build failed: " ++ error)
  | signing (error : String) : Unsent worker past carries ("settle signing failed: " ++ error)
  | send {tx : VersionedTransaction} {error : String}
      (hReply : ⟨.send carries tx, .error error⟩ ∈ past) : Unsent worker past carries error

/-- What a unit may be answered. A failure on-chain is that of a transaction which carried the unit
alone. -/
inductive Explained (worker : SettlementWorker) (past : WorkerPast) (unit : Submitted) :
    SettlementResult → Prop
  | sent {signature : String} {sent : Sent} (hSent : sent ∈ sends unit past)
      (hOutcome : sent.outcome = .ok signature)
      (hConfirmed : unit.awaitConfirmation = true → Reported past signature .confirmed) :
      Explained worker past unit (.ok signature)
  | unsent {carries : List Submitted} {error : String} (hCarried : unit ∈ carries)
      (hUnsent : Unsent worker past carries error) : Explained worker past unit (.error error)
  | failed {tx : VersionedTransaction} {signature error : String} {others : List Sent}
      (hSent : sends unit past = ⟨[unit], tx, .ok signature⟩ :: others)
      (hReported : Reported past signature (.failed error)) :
      Explained worker past unit (.error (SettlementWorker.onChainMessage signature error))
  | unconfirmed {sent : Sent} {signature : String} {others : List Sent}
      (hSent : sends unit past = sent :: others) (hOutcome : sent.outcome = .ok signature) :
      Explained worker past unit (.error (SettlementWorker.unconfirmedMessage signature))

namespace WorkerCall

def concerns : WorkerCall → List Submitted
  | .send carries _ => carries
  | .reply unit _ => [unit]
  | _ => []

/-- What must have happened before a call. -/
def Warranted (worker : SettlementWorker) (past : WorkerPast) : WorkerCall → Prop
  | .send carries tx => BuiltFrom worker past carries tx ∧ MaySend worker past carries
  | .reply unit outcome => answers unit past = [] ∧ Explained worker past unit outcome
  | _ => True

end WorkerCall

namespace WorkerJob

def entrusts : WorkerJob → List Submitted
  | .flush units => units
  | .confirm _ _ confirming replied => confirming ++ replied

/-- What has happened to the units of a job. -/
def Prepared (past : WorkerPast) : WorkerJob → Prop
  | .flush units => units.Nodup ∧ ∀ unit ∈ units, sends unit past = [] ∧ answers unit past = []
  | .confirm signature packed confirming replied =>
      (confirming ++ replied).Nodup ∧
      (∃ group tx, packed = decide (1 < group.length) ∧
        (∀ unit ∈ confirming ++ replied, sends unit past = [⟨group, tx, .ok signature⟩]) ∧
        ∀ unit ∈ confirming, unit ∈ group) ∧
      (∀ unit ∈ confirming, answers unit past = []) ∧
      ∀ unit ∈ replied, answers unit past ≠ []

end WorkerJob

def WorkerCall.ownership (worker : SettlementWorker) :
    Ownership WorkerJob Submitted WorkerCall WorkerReply where
  concerns := WorkerCall.concerns
  entrusts := WorkerJob.entrusts
  warrants := WorkerCall.Warranted worker
  prepares := WorkerJob.Prepared

/-- Every unit at the desk is answered. -/
def Answered (desk : WorkerDesk) : Prop :=
  ∀ unit ∈ desk.owned, answers unit desk.past ≠ []

/-! ### What happens in the meantime -/

/-- Of all units, only some were sent and only some were answered. -/
structure Since (sent replied : List Submitted) (past later : WorkerPast) : Prop where
  suffix : past <:+ later
  sends : ∀ unit, unit ∉ sent → sends unit later = sends unit past
  answers : ∀ unit, unit ∉ replied → answers unit later = answers unit past

section

variable {worker : SettlementWorker} {past middle later : WorkerPast}
  {sent replied : List Submitted} {unit : Submitted} {signature : String}
  {outcome : ConfirmOutcome}

theorem Since.refl (past : WorkerPast) : Since sent replied past past :=
  ⟨List.suffix_rfl, fun _ _ => rfl, fun _ _ => rfl⟩

theorem Since.trans (hFirst : Since sent replied past middle)
    (hSecond : Since sent replied middle later) : Since sent replied past later where
  suffix := hFirst.suffix.trans hSecond.suffix
  sends := fun unit hUnit => (hSecond.sends unit hUnit).trans (hFirst.sends unit hUnit)
  answers := fun unit hUnit => (hSecond.answers unit hUnit).trans (hFirst.answers unit hUnit)

theorem Since.mono {moreSent moreReplied : List Submitted} (hSince : Since sent replied past later)
    (hSent : ∀ unit ∈ sent, unit ∈ moreSent) (hReplied : ∀ unit ∈ replied, unit ∈ moreReplied) :
    Since moreSent moreReplied past later where
  suffix := hSince.suffix
  sends := fun unit hUnit => hSince.sends unit fun hMem => hUnit (hSent unit hMem)
  answers := fun unit hUnit => hSince.answers unit fun hMem => hUnit (hReplied unit hMem)

theorem Since.cons {exchange : Exchange WorkerCall WorkerReply}
    (hSent : ∀ unit, sentOf unit exchange = none)
    (hReplied : ∀ unit, answerOf unit exchange = none)
    (hSince : Since sent replied past middle) :
    Since sent replied past (exchange :: middle) where
  suffix := hSince.suffix.trans (List.suffix_cons _ _)
  sends := fun unit hUnit =>
    (List.filterMap_cons_none (hSent unit)).trans (hSince.sends unit hUnit)
  answers := fun unit hUnit =>
    (List.filterMap_cons_none (hReplied unit)).trans (hSince.answers unit hUnit)

theorem sends_send (tx : VersionedTransaction) (result : Except String String)
    (hCarried : unit ∈ sent) :
    sends unit (⟨.send sent tx, result⟩ :: past) = ⟨sent, tx, result⟩ :: sends unit past :=
  List.filterMap_cons_some (by simp [sentOf, hCarried])

theorem Since.send (tx : VersionedTransaction) (result : Except String String) :
    Since sent replied past (⟨.send sent tx, result⟩ :: past) where
  suffix := List.suffix_cons _ _
  sends := fun unit hUnit => List.filterMap_cons_none (by simp [sentOf, hUnit])
  answers := fun _ _ => List.filterMap_cons_none rfl

theorem answers_reply (result : SettlementResult) (reply : WorkerReply (.reply unit result)) :
    answers unit (⟨.reply unit result, reply⟩ :: past) = result :: answers unit past :=
  List.filterMap_cons_some (by simp [answerOf])

theorem Since.reply (result : SettlementResult) (reply : WorkerReply (.reply unit result)) :
    Since sent [unit] past (⟨.reply unit result, reply⟩ :: past) where
  suffix := List.suffix_cons _ _
  sends := fun _ _ => List.filterMap_cons_none rfl
  answers := fun other hOther => List.filterMap_cons_none (by
    simp only [List.mem_singleton] at hOther
    simp [answerOf, Ne.symm hOther])

theorem Reported.since (hReported : Reported past signature outcome)
    (hKnown : past ⊆ later) : Reported later signature outcome :=
  hKnown hReported

theorem Unsent.since {carries : List Submitted} {error : String}
    (hUnsent : Unsent worker past carries error) (hKnown : past ⊆ later) :
    Unsent worker later carries error := by
  cases hUnsent with
  | blockhash hReply => exact .blockhash (hKnown hReply)
  | build hBuild => exact .build hBuild
  | signing error => exact .signing error
  | send hReply => exact .send (hKnown hReply)

theorem Explained.since {result : SettlementResult} (hExplained : Explained worker past unit result)
    (hKnown : past ⊆ later) (hSends : sends unit later = sends unit past) :
    Explained worker later unit result := by
  cases hExplained with
  | sent hSent hOutcome hConfirmed =>
      exact .sent (hSends ▸ hSent) hOutcome fun hAwaits => (hConfirmed hAwaits).since hKnown
  | unsent hCarried hUnsent => exact .unsent hCarried (hUnsent.since hKnown)
  | failed hSent hReported => exact .failed (hSends ▸ hSent) (hReported.since hKnown)
  | unconfirmed hSent hOutcome => exact .unconfirmed (hSends ▸ hSent) hOutcome

theorem FailedPacked.since (hFailed : FailedPacked past unit) (hKnown : past ⊆ later)
    (hSends : sends unit later = sends unit past) : FailedPacked later unit := by
  rcases hFailed with ⟨group, tx, signature, error, hSent, hPacked, hReported⟩
  exact ⟨group, tx, signature, error, by rw [hSends, hSent], hPacked, hReported.since hKnown⟩

end

end PayKit.Settlement
