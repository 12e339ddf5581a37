import Mathlib.Data.List.Chain

/-!
# Greedy batching

A list is cut into batches by filling one batch at a time: an item joins the batch being
filled unless the batch is not empty and the item would overflow it, which seals the batch and
starts the next one with the item. Nothing is asked of the overflow rule: it need not be
monotone, and an item may overflow even a batch of its own, where it then stands alone.

`IsGreedy` says what such a partition is, and it determines the batches.
-/

namespace PayKit.Batching
universe u v

variable {Item : Type u}

/-- The batches that are sealed and the one being filled. -/
structure Filling (Item : Type u) where
  sealedBatches : List (List Item)
  current : List Item

namespace Filling

variable (overflows : List Item → Item → Bool)

def start : Filling Item where
  sealedBatches := []
  current := []

def take (filling : Filling Item) (item : Item) : Filling Item :=
  if !filling.current.isEmpty && overflows filling.current item then
    { sealedBatches := filling.sealedBatches ++ [filling.current], current := [item] }
  else
    { filling with current := filling.current ++ [item] }

/-- The batch being filled is sealed unless it is empty. -/
def finish (filling : Filling Item) : List (List Item) :=
  if filling.current.isEmpty then filling.sealedBatches
  else filling.sealedBatches ++ [filling.current]

end Filling

def greedy (overflows : List Item → Item → Bool) (items : List Item) : List (List Item) :=
  (items.foldl (Filling.take overflows) Filling.start).finish

theorem Filling.finish_cons (overflows : List Item → Item → Bool) (item : Item)
    (items current : List Item) (sealedBatches : List (List Item)) :
    ((item :: items).foldl (Filling.take overflows) ⟨sealedBatches, current⟩).finish
      = if !current.isEmpty && overflows current item then
          (items.foldl (Filling.take overflows) ⟨sealedBatches ++ [current], [item]⟩).finish
        else
          (items.foldl (Filling.take overflows) ⟨sealedBatches, current ++ [item]⟩).finish := by
  rw [List.foldl_cons]
  conv_lhs => unfold Filling.take
  split <;> rfl

/-- No item after the first of a batch overflowed what came before it. -/
def Admits (overflows : List Item → Item → Bool) (batch : List Item) : Prop :=
  ∀ before item after, batch = before ++ item :: after → before ≠ [] →
    overflows before item = false

/-- The first item of a batch overflowed the batch before it. -/
def Closes (overflows : List Item → Item → Bool) (first second : List Item) : Prop :=
  ∃ item rest, second = item :: rest ∧ overflows first item = true

structure IsGreedy (overflows : List Item → Item → Bool) (items : List Item)
    (batches : List (List Item)) : Prop where
  flatten : batches.flatten = items
  nonempty : ∀ batch ∈ batches, batch ≠ []
  admits : ∀ batch ∈ batches, Admits overflows batch
  closes : batches.IsChain (Closes overflows)

variable {overflows : List Item → Item → Bool}

theorem Admits.nil : Admits overflows [] := by
  intro before item after hSplit
  simp at hSplit

theorem Admits.snoc {batch : List Item} {item : Item} (hAdmits : Admits overflows batch)
    (hFits : batch ≠ [] → overflows batch item = false) :
    Admits overflows (batch ++ [item]) := by
  intro before other after hSplit hBefore
  rcases List.eq_nil_or_concat after with rfl | ⟨after, last, rfl⟩
  · rcases List.append_inj' hSplit rfl with ⟨rfl, hItem⟩
    simp only [List.cons.injEq, and_true] at hItem
    subst hItem
    exact hFits hBefore
  · have hSplit : batch ++ [item] = (before ++ other :: after) ++ [last] := by
      simpa using hSplit
    rcases List.append_inj' hSplit rfl with ⟨hBatch, -⟩
    exact hAdmits before other after hBatch hBefore

/-- What holds of a filling once `items` have been taken. -/
structure Filling.Holds (overflows : List Item → Item → Bool) (items : List Item)
    (filling : Filling Item) : Prop where
  flatten : filling.sealedBatches.flatten ++ filling.current = items
  nonempty : ∀ batch ∈ filling.sealedBatches, batch ≠ []
  admits : ∀ batch ∈ filling.sealedBatches, Admits overflows batch
  current : Admits overflows filling.current
  /-- The sealed batches close one another, and the last of them the batch being filled. -/
  closes : filling.sealedBatches.IsChain (Closes overflows)
  closesCurrent : ∀ last ∈ filling.sealedBatches.getLast?, Closes overflows last filling.current

namespace Filling.Holds

variable {items : List Item} {filling : Filling Item}

theorem start : Holds overflows [] Filling.start where
  flatten := rfl
  nonempty := by simp [Filling.start]
  admits := by simp [Filling.start]
  current := Admits.nil
  closes := .nil
  closesCurrent := by simp [Filling.start]

theorem isGreedy (hHolds : filling.Holds overflows items) (hCurrent : filling.current ≠ []) :
    IsGreedy overflows items (filling.sealedBatches ++ [filling.current]) where
  flatten := by simp [← hHolds.flatten]
  nonempty := by
    intro batch hBatch
    rcases List.mem_append.mp hBatch with hBatch | hBatch
    · exact hHolds.nonempty batch hBatch
    · rw [List.mem_singleton.mp hBatch]
      exact hCurrent
  admits := by
    intro batch hBatch
    rcases List.mem_append.mp hBatch with hBatch | hBatch
    · exact hHolds.admits batch hBatch
    · rw [List.mem_singleton.mp hBatch]
      exact hHolds.current
  closes := by
    refine List.isChain_append.mpr ⟨hHolds.closes, .singleton _, ?_⟩
    intro last hLast first hFirst
    simp only [List.head?_cons, Option.mem_some_iff] at hFirst
    subst hFirst
    exact hHolds.closesCurrent last hLast

theorem sealed (hHolds : filling.Holds overflows items) {item : Item}
    (hCurrent : filling.current ≠ []) (hOverflows : overflows filling.current item = true) :
    Holds overflows (items ++ [item])
      { sealedBatches := filling.sealedBatches ++ [filling.current], current := [item] } where
  flatten := by simp [← hHolds.flatten]
  nonempty := (hHolds.isGreedy hCurrent).nonempty
  admits := (hHolds.isGreedy hCurrent).admits
  current := by
    have hAlone : Admits overflows ([] ++ [item]) := Admits.nil.snoc (by simp)
    exact hAlone
  closes := (hHolds.isGreedy hCurrent).closes
  closesCurrent := by
    intro last hLast
    simp only [List.getLast?_append, List.getLast?_singleton, Option.some_or,
      Option.mem_some_iff] at hLast
    subst hLast
    exact ⟨item, [], rfl, hOverflows⟩

theorem joined (hHolds : filling.Holds overflows items) {item : Item}
    (hFits : filling.current ≠ [] → overflows filling.current item = false) :
    Holds overflows (items ++ [item]) { filling with current := filling.current ++ [item] } where
  flatten := by simp [← hHolds.flatten]
  nonempty := hHolds.nonempty
  admits := hHolds.admits
  current := hHolds.current.snoc hFits
  closes := hHolds.closes
  closesCurrent := by
    intro last hLast
    rcases hHolds.closesCurrent last hLast with ⟨first, rest, hCurrent, hOverflows⟩
    exact ⟨first, rest ++ [item], by simp [hCurrent], hOverflows⟩

theorem take (hHolds : filling.Holds overflows items) (item : Item) :
    (filling.take overflows item).Holds overflows (items ++ [item]) := by
  unfold Filling.take
  split
  · next hSeal =>
      simp only [Bool.and_eq_true, Bool.not_eq_true', List.isEmpty_eq_false_iff] at hSeal
      exact hHolds.sealed hSeal.1 hSeal.2
  · next hJoin =>
      refine hHolds.joined fun hCurrent => ?_
      simpa [hCurrent] using hJoin

theorem foldl (hHolds : filling.Holds overflows items) (more : List Item) :
    (more.foldl (Filling.take overflows) filling).Holds overflows (items ++ more) := by
  induction more generalizing filling items with
  | nil => simpa using hHolds
  | cons item more hInduction =>
      have hRest := hInduction (hHolds.take item)
      simpa [List.append_assoc] using hRest

theorem finish (hHolds : filling.Holds overflows items) :
    IsGreedy overflows items filling.finish := by
  unfold Filling.finish
  split
  · next hEmpty =>
      have hEmpty : filling.current = [] := by simpa using hEmpty
      refine ⟨?_, hHolds.nonempty, hHolds.admits, hHolds.closes⟩
      simpa [hEmpty] using hHolds.flatten
  · next hCurrent =>
      have hCurrent : filling.current ≠ [] := by simpa using hCurrent
      exact hHolds.isGreedy hCurrent

end Filling.Holds

theorem greedy_isGreedy (overflows : List Item → Item → Bool) (items : List Item) :
    IsGreedy overflows items (greedy overflows items) := by
  have hHolds : Filling.Holds overflows ([] ++ items) _ := Filling.Holds.start.foldl items
  exact hHolds.finish

/-! ### Renaming the items -/

section Map

variable {Other : Type v} (rename : Other → Item) {renamed : List Other → Other → Bool}

def Filling.map (filling : Filling Other) : Filling Item where
  sealedBatches := filling.sealedBatches.map (List.map rename)
  current := filling.current.map rename

theorem Filling.map_take (hRename : ∀ batch item,
      renamed batch item = overflows (batch.map rename) (rename item))
    (filling : Filling Other) (item : Other) :
    (filling.take renamed item).map rename
      = (filling.map rename).take overflows (rename item) := by
  unfold Filling.take
  simp only [Filling.map, hRename, List.isEmpty_map]
  split <;> simp

theorem Filling.map_finish (filling : Filling Other) :
    (filling.map rename).finish = filling.finish.map (List.map rename) := by
  unfold Filling.finish
  simp only [Filling.map, List.isEmpty_map]
  split <;> simp

/-- The same rule on the same items under other names cuts at the same places. -/
theorem greedy_map (hRename : ∀ batch item,
      renamed batch item = overflows (batch.map rename) (rename item)) (items : List Other) :
    greedy overflows (items.map rename) = (greedy renamed items).map (List.map rename) := by
  have hFold : ∀ filling : Filling Other,
      (items.map rename).foldl (Filling.take overflows) (filling.map rename)
        = (items.foldl (Filling.take renamed) filling).map rename := by
    induction items with
    | nil => intro filling; rfl
    | cons item items hInduction =>
        intro filling
        rw [List.map_cons, List.foldl_cons, List.foldl_cons,
          ← Filling.map_take rename hRename, hInduction]
  unfold greedy
  rw [← Filling.map_finish, ← hFold Filling.start]
  rfl

end Map

end PayKit.Batching
