import Mathlib.Data.List.Infix
import Mathlib.Tactic

/-!
# Self-delimiting codes

A code is self-delimiting on some values when the code of one of them can be cut off the front
of a longer text: what follows does not matter, so no code is a proper prefix of another. Codes
of this kind compose: one after the other, behind a tag, and repeated a known number of times.
-/

namespace PayKit.Encoding
universe u v

variable {Value : Type u} {Symbol : Type v} {Valid : Value → Prop} {encode : Value → List Symbol}

/-- The value and what follows its code are determined by the two together. -/
def SelfDelimiting (Valid : Value → Prop) (encode : Value → List Symbol) : Prop :=
  ∀ left right after rest, Valid left → Valid right →
    encode left ++ after = encode right ++ rest → left = right ∧ after = rest

/-- A text without delimiters and what follows it, which is nothing or starts with one. -/
theorem append_inj_of_delimited (Delimits : Symbol → Prop) {left right after rest : List Symbol}
    (hLeft : ∀ symbol ∈ left, ¬ Delimits symbol) (hRight : ∀ symbol ∈ right, ¬ Delimits symbol)
    (hAfter : ∀ symbol ∈ after.head?, Delimits symbol)
    (hRest : ∀ symbol ∈ rest.head?, Delimits symbol) (hSame : left ++ after = right ++ rest) :
    left = right ∧ after = rest := by
  rcases List.append_eq_append_iff.mp hSame with ⟨shift, rfl, rfl⟩ | ⟨shift, rfl, rfl⟩
  · cases shift with
    | nil => exact ⟨(List.append_nil left).symm, rfl⟩
    | cons symbol shift =>
        exact absurd (hAfter symbol rfl) (hRight symbol (by simp))
  · cases shift with
    | nil => exact ⟨List.append_nil right, rfl⟩
    | cons symbol shift =>
        exact absurd (hRest symbol rfl) (hLeft symbol (by simp))

namespace SelfDelimiting

/-- No code is a prefix of the code of another value. -/
theorem eq_of_prefix (hCode : SelfDelimiting Valid encode) {left right : Value}
    (hLeft : Valid left) (hRight : Valid right) (hPrefix : encode left <+: encode right) :
    left = right := by
  rcases hPrefix with ⟨after, hAfter⟩
  have hSame : encode left ++ after = encode right ++ [] := by rw [hAfter, List.append_nil]
  exact (hCode left right after [] hLeft hRight hSame).1

/-- Codes of one width that tell the values apart. -/
theorem of_width {width : ℕ} (hWidth : ∀ value, Valid value → (encode value).length = width)
    (hInjective : ∀ left right, Valid left → Valid right → encode left = encode right →
      left = right) : SelfDelimiting Valid encode := by
  intro left right after rest hLeft hRight hSame
  have hLength : (encode left).length = (encode right).length := by
    rw [hWidth left hLeft, hWidth right hRight]
  rcases List.append_inj hSame hLength with ⟨hCodes, hRest⟩
  exact ⟨hInjective left right hLeft hRight hCodes, hRest⟩

theorem flatMap (hCode : SelfDelimiting Valid encode) {left right : List Value}
    {after rest : List Symbol} (hLeft : ∀ value ∈ left, Valid value)
    (hRight : ∀ value ∈ right, Valid value) (hLength : left.length = right.length)
    (hSame : left.flatMap encode ++ after = right.flatMap encode ++ rest) :
    left = right ∧ after = rest := by
  induction left generalizing right with
  | nil =>
      cases right with
      | nil => exact ⟨rfl, hSame⟩
      | cons first right => simp at hLength
  | cons first left hInduction =>
      cases right with
      | nil => simp at hLength
      | cons second right =>
          simp only [List.flatMap_cons, List.append_assoc] at hSame
          rcases hCode first second _ _ (hLeft first List.mem_cons_self)
            (hRight second List.mem_cons_self) hSame with ⟨rfl, hTail⟩
          rcases hInduction (fun value hValue => hLeft value (List.mem_cons_of_mem _ hValue))
            (fun value hValue => hRight value (List.mem_cons_of_mem _ hValue))
            (by simpa using hLength) hTail with ⟨rfl, hRest⟩
          exact ⟨rfl, hRest⟩

theorem option (hCode : SelfDelimiting Valid encode) {absent present : Symbol}
    (hTags : absent ≠ present) :
    SelfDelimiting (fun value : Option Value => ∀ held ∈ value, Valid held)
      (fun value => value.elim [absent] fun held => present :: encode held) := by
  intro left right after rest hLeft hRight hSame
  cases left with
  | none =>
      cases right with
      | none => exact ⟨rfl, List.append_cancel_left hSame⟩
      | some second =>
          simp only [Option.elim, List.cons_append, List.cons.injEq] at hSame
          exact absurd hSame.1 hTags
  | some first =>
      cases right with
      | none =>
          simp only [Option.elim, List.cons_append, List.cons.injEq] at hSame
          exact absurd hSame.1.symm hTags
      | some second =>
          simp only [Option.elim, List.cons_append, List.cons.injEq, true_and] at hSame
          rcases hCode first second after rest (hLeft first rfl) (hRight second rfl) hSame with
            ⟨rfl, hRest⟩
          exact ⟨rfl, hRest⟩

end SelfDelimiting

end PayKit.Encoding
