import Mathlib.Data.List.MinMax

/-!
# The first of the best

Two ways to pick one item of a list: the first item of the least rank, and the first item that
fits the earliest of several wishes. The second is the first, when an item is ranked by the wish
that it fits first.
-/

namespace PayKit.Matching

variable {Item Wish : Type} {items : List Item} {rank : Item → ℕ} {item best : Item}
  {fits : Wish → Item → Bool} {wishes : List Wish}

/-- No item ranks before this one, and none beside it comes earlier. -/
def Leads (rank : Item → ℕ) (items : List Item) (best : Item) : Prop :=
  ∃ before after, items = before ++ best :: after ∧ (∀ item ∈ before, rank best < rank item) ∧
    ∀ item ∈ after, rank best ≤ rank item

theorem Leads.mem (hLeads : Leads rank items best) : best ∈ items := by
  rcases hLeads with ⟨before, after, rfl, -, -⟩
  exact List.mem_append_right before List.mem_cons_self

theorem Leads.le (hLeads : Leads rank items best) (hItem : item ∈ items) :
    rank best ≤ rank item := by
  rcases hLeads with ⟨before, after, rfl, hBefore, hAfter⟩
  rcases List.mem_append.mp hItem with hItem | hItem
  · exact (hBefore item hItem).le
  · rcases List.mem_cons.mp hItem with rfl | hItem
    · exact le_refl _
    · exact hAfter item hItem

theorem leads_cons {first : Item} :
    Leads rank (first :: items) best ↔
      (best = first ∧ ∀ item ∈ items, rank first ≤ rank item) ∨
        (rank best < rank first ∧ Leads rank items best) := by
  constructor
  · rintro ⟨before, after, hItems, hBefore, hAfter⟩
    cases before with
    | nil =>
        rcases List.cons.inj hItems with ⟨rfl, rfl⟩
        exact .inl ⟨rfl, hAfter⟩
    | cons head before =>
        rcases List.cons.inj hItems with ⟨rfl, rfl⟩
        refine .inr ⟨hBefore first List.mem_cons_self, before, after, rfl, ?_, hAfter⟩
        intro item hItem
        exact hBefore item (List.mem_cons_of_mem _ hItem)
  · rintro (⟨rfl, hAfter⟩ | ⟨hFirst, before, after, rfl, hBefore, hAfter⟩)
    · exact ⟨[], items, rfl, nofun, hAfter⟩
    · refine ⟨first :: before, after, rfl, ?_, hAfter⟩
      rintro item hItem
      rcases List.mem_cons.mp hItem with rfl | hItem
      · exact hFirst
      · exact hBefore item hItem

theorem exists_leads (hItems : items ≠ []) : ∃ best, Leads rank items best := by
  induction items with
  | nil => exact absurd rfl hItems
  | cons first rest hInduction =>
      by_cases hBefore : ∀ item ∈ rest, rank first ≤ rank item
      · exact ⟨first, leads_cons.mpr (.inl ⟨rfl, hBefore⟩)⟩
      · simp only [not_forall, not_le] at hBefore
        rcases hBefore with ⟨item, hItem, hLess⟩
        rcases hInduction (List.ne_nil_of_mem hItem) with ⟨best, hBest⟩
        exact ⟨best, leads_cons.mpr (.inr ⟨(hBest.le hItem).trans_lt hLess, hBest⟩)⟩

theorem argmin_eq_some : items.argmin rank = some best ↔ Leads rank items best := by
  induction items generalizing best with
  | nil =>
      constructor
      · exact nofun
      · exact fun hLeads => absurd hLeads.mem List.not_mem_nil
  | cons first rest hInduction =>
      rw [List.argmin_cons, leads_cons]
      cases hRest : rest.argmin rank with
      | none =>
          have hEmpty : rest = [] := List.argmin_eq_none.mp hRest
          subst hEmpty
          constructor
          · rintro ⟨⟩
            exact .inl ⟨rfl, nofun⟩
          · rintro (⟨rfl, -⟩ | ⟨-, hLeads⟩)
            · rfl
            · exact absurd hLeads.mem List.not_mem_nil
      | some other =>
          have hOther := hInduction.mp hRest
          have hSame : ∀ {best : Item}, Leads rank rest best → best = other := fun hLeads =>
            Option.some.inj ((hInduction.mpr hLeads).symm.trans hRest)
          by_cases hLess : rank other < rank first
          · simp only [hLess, if_true, Option.some.injEq]
            constructor
            · rintro rfl
              exact .inr ⟨hLess, hOther⟩
            · rintro (⟨rfl, hFirst⟩ | ⟨-, hLeads⟩)
              · exact absurd (hFirst other hOther.mem) (Nat.not_le.mpr hLess)
              · exact (hSame hLeads).symm
          · simp only [hLess, if_false, Option.some.injEq]
            constructor
            · rintro rfl
              refine .inl ⟨rfl, ?_⟩
              intro item hItem
              exact (Nat.le_of_not_lt hLess).trans (hOther.le hItem)
            · rintro (⟨rfl, -⟩ | ⟨hBest, hLeads⟩)
              · rfl
              · exact absurd (hSame hLeads ▸ hBest) hLess

theorem leads_of_find? (hFound : items.find? (fun item => rank item = 0) = some best) :
    Leads rank items best := by
  rw [List.find?_eq_some_iff_append] at hFound
  rcases hFound with ⟨hBest, before, after, rfl, hBefore⟩
  have hZero : rank best = 0 := by simpa using hBest
  refine ⟨before, after, rfl, ?_, ?_⟩
  · intro item hItem
    have hRank := hBefore item hItem
    simp only [Bool.not_eq_eq_eq_not, Bool.not_true, decide_eq_false_iff_not] at hRank
    omega
  · intro item _
    omega

theorem Leads.congr {other : Item → ℕ} (hLeads : Leads rank items best)
    (hSame : ∀ left ∈ items, ∀ right ∈ items, rank left < rank right ↔
      other left < other right) :
    Leads other items best := by
  have hBest := hLeads.mem
  rcases hLeads with ⟨before, after, rfl, hBefore, hAfter⟩
  refine ⟨before, after, rfl, ?_, ?_⟩
  · intro item hItem
    exact (hSame best hBest item (List.mem_append_left _ hItem)).mp (hBefore item hItem)
  · intro item hItem
    have hMem : item ∈ before ++ best :: after :=
      List.mem_append_right _ (List.mem_cons_of_mem _ hItem)
    have hOrder := not_congr (hSame item hMem best hBest)
    rw [Nat.not_lt, Nat.not_lt] at hOrder
    exact hOrder.mp (hAfter item hItem)

/-! ### Wishes -/

/-- The place of the first wish that an item fits. -/
def wishIndex (fits : Wish → Item → Bool) (wishes : List Wish) (item : Item) : ℕ :=
  wishes.findIdx fun wish => fits wish item

/-- The item fits a wish. -/
def wished (fits : Wish → Item → Bool) (wishes : List Wish) (item : Item) : Bool :=
  wishes.any fun wish => fits wish item

theorem wishIndex_cons {wish : Wish} :
    wishIndex fits (wish :: wishes) item =
      if fits wish item = true then 0 else wishIndex fits wishes item + 1 := by
  rw [wishIndex, List.findIdx_cons]
  cases fits wish item <;> rfl

theorem findSome?_eq_some :
    wishes.findSome? (fun wish => items.find? (fits wish)) = some best ↔
      Leads (wishIndex fits wishes) (items.filter (wished fits wishes)) best := by
  induction wishes generalizing best with
  | nil =>
      have hNone : items.filter (wished fits []) = [] :=
        List.filter_eq_nil_iff.mpr fun _ _ => Bool.false_ne_true
      rw [hNone]
      constructor
      · exact nofun
      · exact fun hLeads => absurd hLeads.mem List.not_mem_nil
  | cons wish wishes hInduction =>
      rw [List.findSome?_cons]
      cases hFound : items.find? (fits wish) with
      | some found =>
          have hLeads : Leads (wishIndex fits (wish :: wishes))
              (items.filter (wished fits (wish :: wishes))) found := by
            apply leads_of_find?
            rw [List.find?_filter, ← hFound]
            congr 1
            funext item
            rw [wishIndex_cons, wished, List.any_cons]
            cases fits wish item <;> simp
          constructor
          · rintro ⟨⟩
            exact hLeads
          · intro hOther
            exact (argmin_eq_some.mpr hLeads).symm.trans (argmin_eq_some.mpr hOther)
      | none =>
          have hUnfit : ∀ item ∈ items, fits wish item = false := by
            intro item hItem
            exact Bool.eq_false_iff.mpr (List.find?_eq_none.mp hFound item hItem)
          have hFilter : items.filter (wished fits (wish :: wishes)) =
              items.filter (wished fits wishes) := by
            apply List.filter_congr
            intro item hItem
            rw [wished, List.any_cons, hUnfit item hItem, Bool.false_or]
            rfl
          have hRank : ∀ left ∈ items.filter (wished fits wishes),
              ∀ right ∈ items.filter (wished fits wishes),
              wishIndex fits wishes left < wishIndex fits wishes right ↔
                wishIndex fits (wish :: wishes) left < wishIndex fits (wish :: wishes) right := by
            intro left hLeft right hRight
            rw [wishIndex_cons, wishIndex_cons, hUnfit left (List.mem_of_mem_filter hLeft),
              hUnfit right (List.mem_of_mem_filter hRight)]
            simp
          rw [hFilter]
          change wishes.findSome? _ = some best ↔ _
          rw [hInduction]
          constructor
          · exact fun hLeads => hLeads.congr hRank
          · exact fun hLeads => hLeads.congr fun left hLeft right hRight =>
              (hRank left hLeft right hRight).symm

end PayKit.Matching
