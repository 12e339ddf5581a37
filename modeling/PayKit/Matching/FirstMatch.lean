import Mathlib.Data.List.Forall2
import Mathlib.Data.List.Nodup
import Mathlib.Data.List.Perm.Basic
import Mathlib.Tactic

/-!
# Matching by the first fit

A verifier that looks for several expected things in one list takes, for each of
them, the first item that fits and was not taken before. The positions taken so far
are passed from one search to the next.

`Claims` says what such a sequence of searches leaves behind: each expected thing
has a position of its own. `partition` turns that into a statement about the items
as a multiset: they are the claimed ones, one for each expected thing, and the rest.
Two searches over two renderings of the same items that judge them alike take the
same positions.
-/

namespace PayKit.Matching

variable {Item Image Leg Failure : Type}

/-- The position of the first item that is not used and fits, from position `index`
on. Inspecting an item may fail, which ends the search. -/
def firstMatch (inspect : Item → Except Failure Bool) (used : List ℕ) :
    ℕ → List Item → Except Failure (Option ℕ)
  | _, [] => .ok none
  | index, item :: rest =>
      if index ∈ used then
        firstMatch inspect used (index + 1) rest
      else
        match inspect item with
        | .error failure => .error failure
        | .ok true => .ok (some index)
        | .ok false => firstMatch inspect used (index + 1) rest

/-- Take the first fit, or refuse because nothing fits. -/
def takeFirst (inspect : Item → Except Failure Bool) (missing : Failure) (items : List Item)
    (used : List ℕ) : Except Failure (List ℕ) :=
  match firstMatch inspect used 0 items with
  | .error failure => .error failure
  | .ok none => .error missing
  | .ok (some index) => .ok (used ++ [index])

/-- The expected things each have a position of their own, beside the used ones. -/
inductive Claims (fits : Leg → Item → Prop) (items : List Item) :
    List ℕ → List Leg → List ℕ → Prop where
  | nil (used : List ℕ) : Claims fits items used [] used
  | cons {used after : List ℕ} {leg : Leg} {legs : List Leg} {index : ℕ} {item : Item}
      (hUnused : index ∉ used) (hItem : items[index]? = some item) (hFits : fits leg item)
      (hRest : Claims fits items (used ++ [index]) legs after) :
      Claims fits items used (leg :: legs) after

/-- The item at `index` is one of the expected thing's. -/
def FitsAt (fits : Leg → Item → Prop) (items : List Item) (leg : Leg) (index : ℕ) : Prop :=
  ∃ item, items[index]? = some item ∧ fits leg item

theorem firstMatch_eq_some {inspect : Item → Except Failure Bool} {used : List ℕ} {start : ℕ}
    {items : List Item} {index : ℕ}
    (hFound : firstMatch inspect used start items = .ok (some index)) :
    start ≤ index ∧ index ∉ used ∧
      ∃ item, items[index - start]? = some item ∧ inspect item = .ok true := by
  induction items generalizing start with
  | nil => simp [firstMatch] at hFound
  | cons item rest hInduction =>
      have hLater : firstMatch inspect used (start + 1) rest = .ok (some index) →
          start ≤ index ∧ index ∉ used ∧
            ∃ item', (item :: rest)[index - start]? = some item' ∧ inspect item' = .ok true := by
        intro hRest
        rcases hInduction hRest with ⟨hStart, hUnused, item', hItem, hFits⟩
        have hOffset : index - start = index - (start + 1) + 1 := by omega
        exact ⟨by omega, hUnused, item', by rw [hOffset, List.getElem?_cons_succ, hItem], hFits⟩
      simp only [firstMatch] at hFound
      split at hFound
      · exact hLater hFound
      · rename_i hUnused
        split at hFound
        · cases hFound
        · rename_i hFits
          cases hFound
          exact ⟨le_rfl, hUnused, item, by simp, hFits⟩
        · exact hLater hFound

theorem takeFirst_eq_ok {inspect : Item → Except Failure Bool} {missing : Failure}
    {items : List Item} {used after : List ℕ}
    (hTaken : takeFirst inspect missing items used = .ok after) :
    ∃ index item, index ∉ used ∧ items[index]? = some item ∧ inspect item = .ok true ∧
      after = used ++ [index] := by
  simp only [takeFirst] at hTaken
  split at hTaken
  · cases hTaken
  · cases hTaken
  · rename_i index hFound
    cases hTaken
    rcases firstMatch_eq_some hFound with ⟨-, hUnused, item, hItem, hFits⟩
    exact ⟨index, item, hUnused, by simpa using hItem, hFits, rfl⟩

theorem firstMatch_congr {inspect : Item → Except Failure Bool}
    {inspect' : Image → Except Failure Bool} {used : List ℕ} {start : ℕ} {items : List Item}
    {images : List Image} {result : Option ℕ}
    (hAlike : List.Forall₂ (fun item image => ∀ verdict, inspect item = .ok verdict →
      inspect' image = .ok verdict) items images)
    (hFound : firstMatch inspect used start items = .ok result) :
    firstMatch inspect' used start images = .ok result := by
  induction hAlike generalizing start with
  | nil => simpa [firstMatch] using hFound
  | cons hHead hTail hInduction =>
      simp only [firstMatch] at hFound ⊢
      split at hFound
      · rename_i hUsed
        rw [if_pos hUsed]
        exact hInduction hFound
      · rename_i hUnused
        rw [if_neg hUnused]
        split at hFound
        · cases hFound
        · rename_i hFits
          cases hFound
          simp [hHead true hFits]
        · rename_i hFits
          simpa [hHead false hFits] using hInduction hFound

theorem takeFirst_congr {inspect : Item → Except Failure Bool}
    {inspect' : Image → Except Failure Bool} {missing missing' : Failure} {items : List Item}
    {images : List Image} {used after : List ℕ}
    (hAlike : List.Forall₂ (fun item image => ∀ verdict, inspect item = .ok verdict →
      inspect' image = .ok verdict) items images)
    (hTaken : takeFirst inspect missing items used = .ok after) :
    takeFirst inspect' missing' images used = .ok after := by
  simp only [takeFirst] at hTaken ⊢
  split at hTaken
  · cases hTaken
  · cases hTaken
  · rename_i index hFound
    cases hTaken
    simp [firstMatch_congr hAlike hFound]

theorem Claims.exists_indexes {fits : Leg → Item → Prop} {items : List Item}
    {used after : List ℕ} {legs : List Leg} (hClaims : Claims fits items used legs after) :
    ∃ indexes, after = used ++ indexes ∧ List.Forall₂ (FitsAt fits items) legs indexes ∧
      (used.Nodup → after.Nodup) := by
  induction hClaims with
  | nil used => exact ⟨[], by simp, .nil, id⟩
  | @cons used after leg legs index item hUnused hItem hFits hRest hInduction =>
      rcases hInduction with ⟨indexes, hAfter, hLegs, hNodup⟩
      refine ⟨index :: indexes, by simp [hAfter], .cons ⟨item, hItem, hFits⟩ hLegs, ?_⟩
      intro hUsed
      apply hNodup
      rw [List.nodup_append]
      refine ⟨hUsed, List.nodup_singleton index, ?_⟩
      intro taken hTaken new hNew hSame
      rw [List.mem_singleton] at hNew
      exact hUnused (by rwa [← hNew, ← hSame])

/-- The items at the given positions. -/
def claimed (items : List Item) (indexes : List ℕ) : List Item :=
  indexes.filterMap (items[·]?)

/-- The items at no position given, in their order. -/
def unclaimed (items : List Item) (indexes : List ℕ) : List Item :=
  (items.zipIdx.filter fun entry => entry.2 ∉ indexes).map Prod.fst

theorem mem_unclaimed {items : List Item} {indexes : List ℕ} {item : Item}
    (hItem : item ∈ unclaimed items indexes) :
    ∃ index, items[index]? = some item ∧ index ∉ indexes := by
  simp only [unclaimed, List.mem_map, List.mem_filter, decide_eq_true_eq] at hItem
  rcases hItem with ⟨entry, ⟨hEntry, hUnclaimed⟩, rfl⟩
  exact ⟨entry.2, List.mem_zipIdx_iff_getElem?.mp hEntry, hUnclaimed⟩

theorem claimed_append (items : List Item) (first second : List ℕ) :
    claimed items (first ++ second) = claimed items first ++ claimed items second :=
  List.filterMap_append

theorem forall₂_claimed {fits : Leg → Item → Prop} {items : List Item} {legs : List Leg}
    {indexes : List ℕ} (hFits : List.Forall₂ (FitsAt fits items) legs indexes) :
    List.Forall₂ fits legs (claimed items indexes) := by
  induction hFits with
  | nil => exact .nil
  | cons hHead hTail hInduction =>
      rcases hHead with ⟨item, hItem, hFit⟩
      rw [claimed, List.filterMap_cons_some hItem]
      exact .cons hFit hInduction

theorem zipIdx_nodup (items : List Item) : items.zipIdx.Nodup := by
  apply List.Nodup.of_map Prod.snd
  rw [List.zipIdx_map_snd]
  exact List.nodup_range'

theorem partition (items : List Item) {indexes : List ℕ} (hNodup : indexes.Nodup) :
    items.Perm (claimed items indexes ++ unclaimed items indexes) := by
  let entries := indexes.filterMap fun index => (items[index]?).map (·, index)
  have hEntries : (items.zipIdx.filter fun entry => entry.2 ∈ indexes).Perm entries := by
    rw [List.perm_ext_iff_of_nodup ((zipIdx_nodup items).filter _)]
    · intro entry
      simp only [entries, List.mem_filter, List.mem_zipIdx_iff_getElem?, decide_eq_true_eq,
        List.mem_filterMap, Option.map_eq_some_iff]
      constructor
      · rintro ⟨hItem, hIndex⟩
        exact ⟨entry.2, hIndex, entry.1, hItem, rfl⟩
      · rintro ⟨index, hIndex, item, hItem, rfl⟩
        exact ⟨hItem, hIndex⟩
    · apply List.Nodup.filterMap _ hNodup
      intro left right entry hLeft hRight
      simp only [Option.mem_def, Option.map_eq_some_iff] at hLeft hRight
      rcases hLeft with ⟨item, -, rfl⟩
      rcases hRight with ⟨item', -, hSame⟩
      exact (congrArg Prod.snd hSame).symm
  have hClaimed : entries.map Prod.fst = claimed items indexes := by
    simp only [entries, claimed, List.map_filterMap, Option.map_map]
    congr 1
    funext index
    cases items[index]? <;> rfl
  have hSplit := List.filter_append_perm (fun entry : Item × ℕ => decide (entry.2 ∈ indexes))
    items.zipIdx
  have hAll : (items.zipIdx.map Prod.fst).Perm
      (entries.map Prod.fst ++ unclaimed items indexes) := by
    refine (hSplit.symm.map Prod.fst).trans ?_
    rw [List.map_append]
    refine (hEntries.map Prod.fst).append ?_
    simp [unclaimed]
  rwa [List.zipIdx_map_fst, hClaimed] at hAll

end PayKit.Matching
