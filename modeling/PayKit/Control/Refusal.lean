import Mathlib.Logic.Basic

/-!
# Sequences of checks

A validator is a sequence of checks that each refuse with an error or let the
next one run. `refuseIf` is one such check. The lemmas below read an accepting
run of a sequence as the conjunction of what its checks require, so that proofs
about a validator never unfold the sequence itself.
-/

namespace PayKit.Control

variable {Failure First Second : Type}

/-- Refuse with `failure` when the condition holds. -/
def refuseIf (condition : Prop) [Decidable condition] (failure : Failure) :
    Except Failure Unit :=
  if condition then .error failure else .ok ()

@[simp]
theorem refuseIf_eq_ok {condition : Prop} [Decidable condition] {failure : Failure}
    {value : Unit} : refuseIf condition failure = .ok value ↔ ¬condition := by
  by_cases hCondition : condition <;> simp [refuseIf, hCondition]

/-- The value, or a refusal when there is none. -/
def okOr (value : Option First) (failure : Failure) : Except Failure First :=
  match value with
  | some value => .ok value
  | none => .error failure

@[simp]
theorem okOr_eq_ok {value : Option First} {failure : Failure} {result : First} :
    okOr value failure = .ok result ↔ value = some result := by
  cases value <;> simp [okOr]

theorem mapError_ok {Reason : Type} {wrap : Reason → Failure} {value : First} :
    (Except.ok value : Except Reason First).mapError wrap = .ok value :=
  rfl

theorem mapError_error {Reason : Type} {wrap : Reason → Failure} {reason : Reason} :
    (Except.error reason : Except Reason First).mapError wrap = .error (wrap reason) :=
  rfl

@[simp]
theorem mapError_eq_ok {Reason : Type} {check : Except Reason First} {wrap : Reason → Failure}
    {value : First} : check.mapError wrap = .ok value ↔ check = .ok value := by
  cases check <;> constructor <;> rintro ⟨⟩ <;> rfl

theorem bind_eq_ok {first : Except Failure First} {rest : First → Except Failure Second}
    {result : Second} :
    (first >>= rest) = .ok result ↔ ∃ value, first = .ok value ∧ rest value = .ok result := by
  cases first with
  | ok value => simp [bind, Except.bind]
  | error failure => simp [bind, Except.bind]

@[simp]
theorem refuseIf_bind_eq_ok {condition : Prop} [Decidable condition] {failure : Failure}
    {rest : Unit → Except Failure Second} {result : Second} :
    (refuseIf condition failure >>= rest) = .ok result ↔ ¬condition ∧ rest () = .ok result := by
  by_cases hCondition : condition <;> simp [refuseIf, hCondition, bind, Except.bind]

end PayKit.Control
