import PayKit.Concurrency.Jobs
import Mathlib.Data.List.Perm.Subperm
import Mathlib.Data.List.Nodup

/-!
# Work that has one owner

The work that a crowd of tasks does is handed out in pieces. Every piece is at one desk at a time,
the calls that concern it are made from that desk, and a desk hands on a piece only with the job
that it starts. What has happened to a piece is then known at its desk to the full, although the
desk sees a part of the history only. A call that is warranted by what its desk knows is thereby
warranted by the history.
-/

namespace PayKit.Concurrency

universe u

variable {Job Piece : Type} {Call : Type u} {Reply : Call → Type}

/-- The pieces at a desk, and the exchanges that it knows of with the newest first. -/
structure Desk (Piece : Type) (Call : Type u) (Reply : Call → Type) : Type u where
  owned : List Piece
  past : List (Exchange Call Reply)

/-- Which pieces a call concerns and which a job is entrusted with, what warrants a call and what a
job takes for granted. -/
structure Ownership (Job Piece : Type) (Call : Type u) (Reply : Call → Type) where
  concerns : Call → List Piece
  entrusts : Job → List Piece
  warrants : List (Exchange Call Reply) → Call → Prop
  prepares : List (Exchange Call Reply) → Job → Prop

namespace Ownership

variable (ownership : Ownership Job Piece Call Reply)

/-- The desk may make the call. -/
structure Passes (desk : Desk Piece Call Reply) (exchange : Exchange Call Reply)
    (left : Desk Piece Call Reply) (given : List (Desk Piece Call Reply)) : Prop where
  warranted : ownership.warrants desk.past exchange.call
  own : ∀ piece ∈ ownership.concerns exchange.call, piece ∈ desk.owned
  shared : desk.owned.Perm (left.owned ++ given.flatMap (·.owned))
  learned : ∀ other ∈ left :: given, other.past = exchange :: desk.past

def rules : Rules Job (Desk Piece Call Reply) Call Reply where
  passes := ownership.Passes
  hires desk job := desk.owned = ownership.entrusts job ∧ ownership.prepares desk.past job

variable [DecidableEq Piece]

/-- What has happened to a piece. -/
def about (piece : Piece) (past : List (Exchange Call Reply)) : List (Exchange Call Reply) :=
  past.filter fun exchange => piece ∈ ownership.concerns exchange.call

/-- The call is warranted by a part of the history that tells all about the pieces concerned. -/
def Warranted (exchange : Exchange Call Reply) (older : List (Exchange Call Reply)) : Prop :=
  ∃ past : List (Exchange Call Reply), past.Sublist older ∧
    (∀ piece ∈ ownership.concerns exchange.call,
      ownership.about piece past = ownership.about piece older) ∧
    ownership.warrants past exchange.call

variable {ownership} {piece : Piece} {exchange : Exchange Call Reply}
  {past : List (Exchange Call Reply)}

theorem about_cons_of_mem (hConcerned : piece ∈ ownership.concerns exchange.call) :
    ownership.about piece (exchange :: past) = exchange :: ownership.about piece past := by
  simp [about, hConcerned]

theorem about_cons_of_not_mem (hElsewhere : piece ∉ ownership.concerns exchange.call) :
    ownership.about piece (exchange :: past) = ownership.about piece past := by
  simp [about, hElsewhere]

theorem about_cons_congr {older : List (Exchange Call Reply)}
    (hAbout : ownership.about piece past = ownership.about piece older) :
    ownership.about piece (exchange :: past) = ownership.about piece (exchange :: older) := by
  by_cases hConcerned : piece ∈ ownership.concerns exchange.call
  · rw [about_cons_of_mem hConcerned, about_cons_of_mem hConcerned, hAbout]
  · rw [about_cons_of_not_mem hConcerned, about_cons_of_not_mem hConcerned, hAbout]

/-- What is read off the exchanges about a piece is read off those that are about it. -/
theorem filterMap_about {Seen : Type*} {read : Exchange Call Reply → Option Seen}
    (hRead : ∀ exchange, read exchange ≠ none → piece ∈ ownership.concerns exchange.call)
    (past : List (Exchange Call Reply)) :
    (ownership.about piece past).filterMap read = past.filterMap read := by
  induction past with
  | nil => rfl
  | cons exchange past hInduction =>
      by_cases hConcerned : piece ∈ ownership.concerns exchange.call
      · rw [about_cons_of_mem hConcerned, List.filterMap_cons, List.filterMap_cons, hInduction]
      · have hNone : read exchange = none := by
          by_contra hSome
          exact hConcerned (hRead exchange hSome)
        rw [about_cons_of_not_mem hConcerned, List.filterMap_cons_none hNone, hInduction]

end Ownership

/-! ### Programs at a desk -/

section

variable {First Result Error : Type} {crew : Crew Job Call Reply}
  {ownership : Ownership Job Piece Call Reply} {owned : List Piece}
  {past : List (Exchange Call Reply)}

theorem Ownership.passes_of_warrants {call : Call} (hWarrants : ownership.warrants past call)
    (hOwn : ∀ piece ∈ ownership.concerns call, piece ∈ owned) (reply : Reply call) :
    ownership.rules.passes ⟨owned, past⟩ ⟨call, reply⟩ ⟨owned, ⟨call, reply⟩ :: past⟩ [] where
  warranted := hWarrants
  own := hOwn
  shared := by simp
  learned := by simp

/-- A call that hands on nothing. -/
theorem Ownership.follows_request {finish : Result → Desk Piece Call Reply → Prop} {call : Call}
    {rest : Reply call → Program Call Reply Result} (hStarts : crew.starts call = [])
    (hWarrants : ownership.warrants past call)
    (hOwn : ∀ piece ∈ ownership.concerns call, piece ∈ owned)
    (hRest : ∀ reply,
      Follows crew ownership.rules finish ⟨owned, ⟨call, reply⟩ :: past⟩ (rest reply)) :
    Follows crew ownership.rules finish ⟨owned, past⟩ (Program.request call >>= rest) :=
  Follows.request hStarts fun reply =>
    ⟨_, Ownership.passes_of_warrants hWarrants hOwn reply, hRest reply⟩

/-- A call that starts a job and entrusts it with some of the pieces. -/
theorem Ownership.follows_spawn {finish : Result → Desk Piece Call Reply → Prop} {call : Call}
    {job : Job} {kept : List Piece} {rest : Reply call → Program Call Reply Result}
    (hStarts : crew.starts call = [job]) (hWarrants : ownership.warrants past call)
    (hOwn : ∀ piece ∈ ownership.concerns call, piece ∈ owned)
    (hShared : owned.Perm (kept ++ ownership.entrusts job))
    (hPrepared : ∀ reply, ownership.prepares (⟨call, reply⟩ :: past) job)
    (hRest : ∀ reply,
      Follows crew ownership.rules finish ⟨kept, ⟨call, reply⟩ :: past⟩ (rest reply)) :
    Follows crew ownership.rules finish ⟨owned, past⟩ (Program.request call >>= rest) := by
  intro reply
  refine ⟨⟨kept, ⟨call, reply⟩ :: past⟩, [⟨ownership.entrusts job, ⟨call, reply⟩ :: past⟩], ?_, ?_,
    hRest reply⟩
  · refine ⟨hWarrants, hOwn, ?_, by simp⟩
    simpa using hShared
  · rw [hStarts]
    exact .cons ⟨rfl, hPrepared reply⟩ .nil

theorem Ownership.follows_await {finish : Except Error Result → Desk Piece Call Reply → Prop}
    {call : Call} {outcome : Reply call → Except Error First}
    {rest : First → Fallible Error Call Reply Result} (hStarts : crew.starts call = [])
    (hWarrants : ownership.warrants past call)
    (hOwn : ∀ piece ∈ ownership.concerns call, piece ∈ owned)
    (hOk : ∀ reply value, outcome reply = .ok value →
      Follows crew ownership.rules finish ⟨owned, ⟨call, reply⟩ :: past⟩ (rest value).run)
    (hError : ∀ reply error, outcome reply = .error error →
      finish (.error error) ⟨owned, ⟨call, reply⟩ :: past⟩) :
    Follows crew ownership.rules finish ⟨owned, past⟩
      (Fallible.await call outcome >>= rest).run :=
  Follows.await_bind hStarts fun reply =>
    ⟨_, Ownership.passes_of_warrants hWarrants hOwn reply, hOk reply, hError reply⟩

end

/-! ### The invariant -/

variable [DecidableEq Piece]

/-- Every piece is free or at one desk, and its desk knows what has happened to it. -/
structure Owned (ownership : Ownership Job Piece Call Reply)
    (desks : List (Desk Piece Call Reply)) (free pieces : List Piece)
    (history : List (Exchange Call Reply)) : Prop where
  placed : (desks.flatMap (·.owned) ++ free).Perm pieces
  known : ∀ desk ∈ desks, desk.past.Sublist history
  told : ∀ desk ∈ desks, ∀ piece ∈ desk.owned,
    ownership.about piece desk.past = ownership.about piece history
  untouched : ∀ piece ∈ free, ownership.about piece history = []
  concerned : ∀ exchange ∈ history, ∀ piece ∈ ownership.concerns exchange.call, piece ∈ pieces
  warranted : ∀ exchange older, exchange :: older <:+ history →
    ownership.Warranted exchange older

namespace Owned

variable {ownership : Ownership Job Piece Call Reply}
  {desks before after given : List (Desk Piece Call Reply)}
  {desk left : Desk Piece Call Reply} {free pieces : List Piece} {piece : Piece}
  {exchange : Exchange Call Reply} {history : List (Exchange Call Reply)}

theorem empty : Owned ownership [] [] [] [] where
  placed := .refl _
  known := by simp
  told := by simp
  untouched := by simp
  concerned := by simp
  warranted := by simp

theorem arrive (hOwned : Owned ownership desks free pieces history) (hNew : piece ∉ pieces) :
    Owned ownership desks (free ++ [piece]) (pieces ++ [piece]) history where
  placed := by
    rw [← List.append_assoc]
    exact hOwned.placed.append_right _
  known := hOwned.known
  told := hOwned.told
  untouched := by
    intro other hOther
    rcases List.mem_append.mp hOther with hFree | hNewest
    · exact hOwned.untouched other hFree
    · rw [List.mem_singleton.mp hNewest]
      refine List.filter_eq_nil_iff.mpr fun exchange hExchange => ?_
      intro hConcerned
      exact hNew (hOwned.concerned exchange hExchange piece (by simpa using hConcerned))
  concerned := fun exchange hExchange other hOther =>
    List.mem_append_left _ (hOwned.concerned exchange hExchange other hOther)
  warranted := hOwned.warranted

/-- Free pieces are handed to a new desk. -/
theorem assign {batch rest : List Piece} (hOwned : Owned ownership desks free pieces history)
    (hFree : free.Perm (batch ++ rest)) :
    Owned ownership (desks ++ [⟨batch, []⟩]) rest pieces history where
  placed := by
    refine List.Perm.trans ?_ hOwned.placed
    simp only [List.flatMap_append, List.flatMap_cons, List.flatMap_nil, List.append_nil,
      List.append_assoc]
    exact hFree.symm.append_left _
  known := by
    intro other hOther
    rcases List.mem_append.mp hOther with hOld | hNew
    · exact hOwned.known other hOld
    · rw [List.mem_singleton.mp hNew]
      exact List.nil_sublist _
  told := by
    intro other hOther piece hPiece
    rcases List.mem_append.mp hOther with hOld | hNew
    · exact hOwned.told other hOld piece hPiece
    · rw [List.mem_singleton.mp hNew] at hPiece ⊢
      exact (hOwned.untouched piece (hFree.mem_iff.mpr (List.mem_append_left _ hPiece))).symm
  untouched := fun piece hPiece =>
    hOwned.untouched piece (hFree.mem_iff.mpr (List.mem_append_right _ hPiece))
  concerned := hOwned.concerned
  warranted := hOwned.warranted

/-- A piece that a desk owns is not at any other desk and not free. -/
theorem elsewhere (hOwned : Owned ownership (before ++ desk :: after) free pieces history)
    (hDistinct : pieces.Nodup) (hPiece : piece ∈ desk.owned) :
    (∀ other ∈ before ++ after, piece ∉ other.owned) ∧ piece ∉ free := by
  have hNodup := hOwned.placed.nodup_iff.mpr hDistinct
  have hPerm : ((before ++ desk :: after).flatMap (·.owned) ++ free).Perm
      (desk.owned ++ ((before ++ after).flatMap (·.owned) ++ free)) := by
    rw [← List.append_assoc]
    refine List.Perm.append_right free ?_
    exact List.Perm.flatMap_right Desk.owned List.perm_middle
  have hDisjoint := List.disjoint_of_nodup_append (hPerm.nodup_iff.mp hNodup) hPiece
  refine ⟨fun other hOther hBoth => hDisjoint ?_, fun hFree => hDisjoint ?_⟩
  · exact List.mem_append_left _ (List.mem_flatMap.mpr ⟨other, hOther, hBoth⟩)
  · exact List.mem_append_right _ hFree

theorem step (hOwned : Owned ownership (before ++ desk :: after) free pieces history)
    (hDistinct : pieces.Nodup) (hPasses : ownership.Passes desk exchange left given) :
    Owned ownership (before ++ left :: after ++ given) free pieces (exchange :: history) := by
  have hDesk : desk ∈ before ++ desk :: after := by simp
  have hOthers : ∀ other ∈ before ++ after, ∀ piece ∈ other.owned,
      piece ∉ ownership.concerns exchange.call := by
    intro other hOther piece hPiece hConcerned
    exact (hOwned.elsewhere hDistinct (hPasses.own piece hConcerned)).1 other hOther hPiece
  have hHanded : ∀ other ∈ left :: given, ∀ piece ∈ other.owned, piece ∈ desk.owned := by
    intro other hOther piece hPiece
    refine hPasses.shared.mem_iff.mpr ?_
    rcases List.mem_cons.mp hOther with rfl | hGiven
    · exact List.mem_append_left _ hPiece
    · exact List.mem_append_right _ (List.mem_flatMap.mpr ⟨other, hGiven, hPiece⟩)
  have hSplit : ∀ other ∈ before ++ left :: after ++ given,
      other ∈ before ++ after ∨ other ∈ left :: given := by
    intro other hOther
    simp only [List.mem_append, List.mem_cons] at hOther ⊢
    tauto
  refine ⟨?_, ?_, ?_, ?_, ?_, ?_⟩
  · refine List.Perm.trans ?_ hOwned.placed
    refine List.Perm.append_right free ?_
    simp only [List.flatMap_append, List.flatMap_cons, List.append_assoc]
    refine List.Perm.append_left _ ?_
    refine List.Perm.trans ?_ (hPasses.shared.symm.append_right _)
    rw [List.append_assoc]
    exact List.perm_append_comm.append_left _
  · intro other hOther
    rcases hSplit other hOther with hOld | hNew
    · exact (hOwned.known other (by
        simp only [List.mem_append, List.mem_cons] at hOld ⊢
        tauto)).cons _
    · rw [hPasses.learned other hNew]
      exact (hOwned.known desk hDesk).cons_cons _
  · intro other hOther piece hPiece
    rcases hSplit other hOther with hOld | hNew
    · rw [Ownership.about_cons_of_not_mem (hOthers other hOld piece hPiece)]
      exact hOwned.told other (by
        simp only [List.mem_append, List.mem_cons] at hOld ⊢
        tauto) piece hPiece
    · rw [hPasses.learned other hNew]
      exact Ownership.about_cons_congr
        (hOwned.told desk hDesk piece (hHanded other hNew piece hPiece))
  · intro piece hFree
    rw [Ownership.about_cons_of_not_mem]
    · exact hOwned.untouched piece hFree
    · intro hConcerned
      exact (hOwned.elsewhere hDistinct (hPasses.own piece hConcerned)).2 hFree
  · intro other hOther piece hPiece
    rcases List.mem_cons.mp hOther with rfl | hOld
    · refine hOwned.placed.mem_iff.mp (List.mem_append_left _ ?_)
      exact List.mem_flatMap.mpr ⟨desk, hDesk, hPasses.own piece hPiece⟩
    · exact hOwned.concerned other hOld piece hPiece
  · intro newest older hSuffix
    rcases List.suffix_cons_iff.mp hSuffix with hNow | hBefore
    · rw [List.cons.injEq] at hNow
      rcases hNow with ⟨rfl, rfl⟩
      exact ⟨desk.past, hOwned.known desk hDesk,
        fun piece hPiece => hOwned.told desk hDesk piece (hPasses.own piece hPiece),
        hPasses.warranted⟩
    · exact hOwned.warranted newest older hBefore

theorem desk_of_mem (hOwned : Owned ownership desks free pieces history) (hPiece : piece ∈ pieces)
    (hTaken : piece ∉ free) : ∃ desk ∈ desks, piece ∈ desk.owned := by
  rcases List.mem_append.mp (hOwned.placed.mem_iff.mpr hPiece) with hDesk | hFree
  · exact List.mem_flatMap.mp hDesk
  · exact absurd hFree hTaken

end Owned

end PayKit.Concurrency
