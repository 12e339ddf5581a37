import Mathlib.Order.Lattice
import Mathlib.Data.Prod.Basic

/-!
# Lists of entries in the order of their keys

An ordered map as the list of its entries. Its keys increase, so the list is determined by what
is found under each key, and an insertion or a removal is known by its effect on lookups alone.
-/

namespace PayKit.Encoding

variable {Key Value : Type} [LinearOrder Key]

/-- The keys of the entries increase. -/
def SortedKeys (entries : List (Key × Value)) : Prop :=
  entries.Pairwise fun left right => left.1 < right.1

/-- The entries with a value under a key, in place of the one that was there. -/
def insertEntry (key : Key) (value : Value) : List (Key × Value) → List (Key × Value)
  | [] => [(key, value)]
  | (other, held) :: entries =>
      if key < other then (key, value) :: (other, held) :: entries
      else if key = other then (key, value) :: entries
      else (other, held) :: insertEntry key value entries

/-- The entries without the one under a key. -/
def removeEntry (key : Key) (entries : List (Key × Value)) : List (Key × Value) :=
  entries.filter fun entry => entry.1 ≠ key

variable {entries others : List (Key × Value)} {key other : Key} {value : Value}

theorem mem_insertEntry {entry : Key × Value} (hMem : entry ∈ insertEntry key value entries) :
    entry = (key, value) ∨ entry ∈ entries := by
  induction entries with
  | nil => simpa [insertEntry] using hMem
  | cons first entries hInduction =>
      unfold insertEntry at hMem
      split at hMem
      · simpa using hMem
      · split at hMem
        · rcases List.mem_cons.mp hMem with hEntry | hMem
          · exact .inl hEntry
          · exact .inr (List.mem_cons_of_mem _ hMem)
        · rcases List.mem_cons.mp hMem with rfl | hMem
          · exact .inr List.mem_cons_self
          · exact (hInduction hMem).imp_right (List.mem_cons_of_mem _)

theorem SortedKeys.insertEntry (hSorted : SortedKeys entries) :
    SortedKeys (insertEntry key value entries) := by
  induction entries with
  | nil => exact List.pairwise_singleton _ _
  | cons first entries hInduction =>
      rcases List.pairwise_cons.mp hSorted with ⟨hFirst, hRest⟩
      unfold Encoding.insertEntry
      split
      · rename_i hBefore
        apply List.pairwise_cons.mpr ⟨?_, hSorted⟩
        intro entry hEntry
        rcases List.mem_cons.mp hEntry with rfl | hEntry
        · exact hBefore
        · exact lt_trans hBefore (hFirst entry hEntry)
      · split
        · rename_i hSame
          apply List.pairwise_cons.mpr ⟨?_, hRest⟩
          intro entry hEntry
          exact hSame ▸ hFirst entry hEntry
        · rename_i hBefore hSame
          apply List.pairwise_cons.mpr ⟨?_, hInduction hRest⟩
          intro entry hEntry
          rcases mem_insertEntry hEntry with rfl | hEntry
          · exact lt_of_le_of_ne (not_lt.mp hBefore) (Ne.symm hSame)
          · exact hFirst entry hEntry

theorem SortedKeys.removeEntry (hSorted : SortedKeys entries) :
    SortedKeys (removeEntry key entries) :=
  hSorted.filter _

theorem lookup_cons_eq {first : Key × Value} :
    (first :: entries).lookup key = if key = first.1 then some first.2 else entries.lookup key := by
  rcases first with ⟨other, held⟩
  rw [List.lookup_cons]
  by_cases hKey : key = other
  · simp [hKey]
  · rw [beq_eq_false_iff_ne.mpr hKey, if_neg hKey]

theorem lookup_insertEntry :
    (insertEntry key value entries).lookup other =
      if other = key then some value else entries.lookup other := by
  induction entries with
  | nil => simp [insertEntry, lookup_cons_eq]
  | cons first entries hInduction =>
      unfold insertEntry
      split
      · rw [lookup_cons_eq]
      · split
        · rename_i hSame
          rw [lookup_cons_eq, lookup_cons_eq]
          by_cases hOther : other = key
          · simp [hOther]
          · simp [hOther, ← hSame]
        · rename_i hSame
          rw [lookup_cons_eq, hInduction, lookup_cons_eq]
          by_cases hFirst : other = first.1
          · have hKey : other ≠ key := fun hKey => hSame (hKey ▸ hFirst)
            simp [hFirst ▸ hKey, hFirst]
          · simp [hFirst]

theorem lookup_removeEntry :
    (removeEntry key entries).lookup other =
      if other = key then none else entries.lookup other := by
  induction entries with
  | nil => simp [removeEntry]
  | cons first entries hInduction =>
      unfold removeEntry at hInduction ⊢
      by_cases hFirst : first.1 = key
      · rw [List.filter_cons_of_neg (by simpa using hFirst), hInduction, lookup_cons_eq, hFirst]
        by_cases hOther : other = key
        · simp [hOther]
        · simp [hOther]
      · rw [List.filter_cons_of_pos (by simpa using hFirst), lookup_cons_eq, hInduction,
          lookup_cons_eq]
        by_cases hOther : other = first.1
        · have hKey : other ≠ key := hOther ▸ hFirst
          simp [hOther, hFirst]
        · simp [hOther]

theorem mem_of_lookup (hFound : entries.lookup key = some value) : (key, value) ∈ entries := by
  induction entries with
  | nil => cases hFound
  | cons first entries hInduction =>
      rw [lookup_cons_eq] at hFound
      split at hFound
      · rename_i hKey
        cases hFound
        exact hKey ▸ List.mem_cons_self
      · exact List.mem_cons_of_mem _ (hInduction hFound)

theorem lookup_eq_none_of_lt (hBefore : ∀ entry ∈ entries, key < entry.1) :
    entries.lookup key = none := by
  cases hFound : entries.lookup key with
  | none => rfl
  | some value => exact absurd (hBefore _ (mem_of_lookup hFound)) (lt_irrefl key)

theorem SortedKeys.ext (hEntries : SortedKeys entries) (hOthers : SortedKeys others)
    (hSame : ∀ key, entries.lookup key = others.lookup key) : entries = others := by
  induction entries generalizing others with
  | nil =>
      cases others with
      | nil => rfl
      | cons first others =>
          have hFirst := hSame first.1
          rw [lookup_cons_eq, if_pos rfl] at hFirst
          cases hFirst
  | cons first entries hInduction =>
      rcases List.pairwise_cons.mp hEntries with ⟨hFirst, hRest⟩
      cases others with
      | nil =>
          have hNone := hSame first.1
          rw [lookup_cons_eq, if_pos rfl] at hNone
          cases hNone
      | cons second others =>
          rcases List.pairwise_cons.mp hOthers with ⟨hSecond, hOthersRest⟩
          have hKey : first.1 = second.1 := by
            have hAtFirst := hSame first.1
            have hAtSecond := hSame second.1
            rw [lookup_cons_eq, if_pos rfl] at hAtFirst
            have hSecondSelf : (second :: others).lookup second.1 = some second.2 := by
              rw [lookup_cons_eq, if_pos rfl]
            rw [hSecondSelf] at hAtSecond
            have hLeft := mem_of_lookup hAtFirst.symm
            have hRight := mem_of_lookup hAtSecond
            rcases List.mem_cons.mp hLeft with hLeft | hLeft
            · exact congrArg Prod.fst hLeft
            · rcases List.mem_cons.mp hRight with hRight | hRight
              · exact (congrArg Prod.fst hRight).symm
              · exact absurd (hSecond _ hLeft) (lt_asymm (hFirst _ hRight))
          have hValue : first.2 = second.2 := by
            have hAtFirst := hSame first.1
            rw [lookup_cons_eq, if_pos rfl, lookup_cons_eq, if_pos hKey] at hAtFirst
            exact Option.some.inj hAtFirst
          have hTail : entries = others := by
            apply hInduction hRest hOthersRest
            intro key
            have hAt := hSame key
            rw [lookup_cons_eq, lookup_cons_eq, ← hKey] at hAt
            by_cases hAtKey : key = first.1
            · rw [hAtKey, lookup_eq_none_of_lt hFirst,
                lookup_eq_none_of_lt (hKey ▸ hSecond)]
            · rwa [if_neg hAtKey, if_neg hAtKey] at hAt
          rw [hTail, Prod.ext hKey hValue]

end PayKit.Encoding
