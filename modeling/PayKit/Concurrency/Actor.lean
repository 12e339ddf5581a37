import Mathlib.Data.List.Range
import Mathlib.Logic.Relation
import Mathlib.Data.List.Perm.Basic
import Mathlib.Data.List.Nodup

/-!
# Actors that answer requests

An actor takes requests from a queue, holds them for a while and answers them. The requests are
numbered in the order in which they are sent. As long as every number is in the queue, held or
answered, and in one of these places only, no request is lost and none is answered twice.

An actor is a machine that makes moves of its own and undergoes moves of its environment. What
every move preserves holds of every state that a run leads to.
-/

namespace PayKit.Concurrency

/-! ### Runs of machines -/

section

variable {Move State : Type}

/-- The moves lead from one state to another. -/
def Leads (step : Move → State → Option State) : State → State → Prop :=
  Relation.ReflTransGen fun before after => ∃ move, step move before = some after

variable {step : Move → State → Option State} {start state : State}

theorem Leads.preserves (Holds : State → Prop)
    (hStep : ∀ move before after, Holds before → step move before = some after → Holds after)
    (hRun : Leads step start state) (hStart : Holds start) : Holds state := by
  induction hRun with
  | refl => exact hStart
  | tail _ hMove hHolds =>
      rcases hMove with ⟨move, hMove⟩
      exact hStep move _ _ hHolds hMove

end

/-! ### Where requests are -/

/-- Each of the first requests is queued, held or answered, and in one of these places only. -/
def Accounted (sent : ℕ) (queued held answered : List ℕ) : Prop :=
  (queued ++ held ++ answered).Perm (List.range sent)

/-- A request keeps its number when more are sent. -/
theorem getElem?_of_sent {Request : Type} {sent : List Request} {number : ℕ} {request : Request}
    (hRequest : sent[number]? = some request) (new : Request) :
    (sent ++ [new])[number]? = some request := by
  have hBound := (List.getElem?_eq_some_iff.mp hRequest).1
  rw [List.getElem?_append_left hBound, hRequest]

namespace Accounted

variable {sent request : ℕ} {queued held answered : List ℕ}

theorem start : Accounted 0 [] [] [] :=
  .refl _

theorem send (hAccounted : Accounted sent queued held answered) :
    Accounted (sent + 1) (queued ++ [sent]) held answered := by
  unfold Accounted at *
  rw [List.range_succ]
  have hMove : (queued ++ [sent] ++ held ++ answered).Perm (queued ++ held ++ answered ++ [sent]) := by
    simp only [List.append_assoc]
    refine List.Perm.append_left queued ?_
    rw [← List.append_assoc held]
    exact List.perm_append_comm
  exact hMove.trans (hAccounted.append_right _)

theorem receive {received : List ℕ} (hAccounted : Accounted sent (request :: queued) held answered)
    (hHeld : received.Perm (request :: held)) : Accounted sent queued received answered := by
  refine List.Perm.trans ?_ hAccounted
  have hMiddle : (queued ++ received).Perm (request :: queued ++ held) :=
    (hHeld.append_left queued).trans List.perm_middle
  exact hMiddle.append_right answered

theorem answer {batch rest : List ℕ} (hAccounted : Accounted sent queued held answered)
    (hHeld : held.Perm (batch ++ rest)) : Accounted sent queued rest (answered ++ batch) := by
  refine List.Perm.trans ?_ hAccounted
  simp only [List.append_assoc]
  refine List.Perm.append_left queued ?_
  have hRest : (rest ++ (answered ++ batch)).Perm (batch ++ rest ++ answered) := by
    rw [← List.append_assoc, List.append_assoc batch]
    exact List.perm_append_comm
  exact hRest.trans (hHeld.symm.append_right answered)

theorem answered_nodup (hAccounted : Accounted sent queued held answered) : answered.Nodup :=
  (hAccounted.nodup_iff.mpr List.nodup_range).of_append_right

theorem mem_answered (hAccounted : Accounted sent [] [] answered) (hSent : request < sent) :
    request ∈ answered :=
  hAccounted.mem_iff.mpr (List.mem_range.mpr hSent)

end Accounted

end PayKit.Concurrency
