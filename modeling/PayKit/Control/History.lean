import PayKit.Control.Refusal

/-!
# Folds that can be refused

A fold over a list of items can stop with an error. What holds of the state and of the items
gone through, and is kept by one step, holds after the whole fold.
-/

namespace PayKit.Control

variable {Failure State Item : Type} {step : State → Item → Except Failure State}
  {state final : State} {items : List Item}

theorem foldlM_history (Holds : List Item → State → Prop)
    (hStep : ∀ history item state next, Holds history state → step state item = .ok next →
      Holds (history ++ [item]) next)
    (history : List Item) (hHolds : Holds history state)
    (hRun : items.foldlM step state = .ok final) : Holds (history ++ items) final := by
  induction items generalizing history state with
  | nil =>
      cases hRun
      simpa using hHolds
  | cons item items hInduction =>
      rw [List.foldlM_cons, bind_eq_ok] at hRun
      rcases hRun with ⟨next, hNext, hRun⟩
      have hRest := hInduction (history ++ [item]) (hStep _ _ _ _ hHolds hNext) hRun
      simpa [List.append_assoc] using hRest

theorem forM_eq_ok {check : Item → Except Failure Unit} (hChecked : items.forM check = .ok ()) :
    ∀ item ∈ items, check item = .ok () := by
  induction items with
  | nil => simp
  | cons item items hInduction =>
      rw [List.forM_eq_forM, List.forM_cons, bind_eq_ok] at hChecked
      rcases hChecked with ⟨⟨⟩, hFirst, hRest⟩
      intro other hOther
      rcases List.mem_cons.mp hOther with rfl | hOther
      · exact hFirst
      · exact hInduction hRest other hOther

end PayKit.Control
