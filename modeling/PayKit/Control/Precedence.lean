import Mathlib.Data.Nat.Basic
import Mathlib.Data.Option.Basic

/-!
# Limits set in layers

A limit can be configured in several layers, the more specific ones first. A layer
leaves the limit open, lifts it, or sets it, so what it says has three states; the
limit in force is what the first layer says that does not leave it open.
-/

namespace PayKit.Control

variable {Limit : Type}

/-- What one layer says about a limit: nothing, that there is none, or the limit. -/
abbrev Setting (Limit : Type) : Type :=
  Option (Option Limit)

/-- The limit in force under layers in the order of their precedence. -/
def resolve : List (Setting Limit) → Option Limit
  | [] => none
  | none :: layers => resolve layers
  | some limit :: _ => limit

@[simp]
theorem resolve_nil : resolve ([] : List (Setting Limit)) = none :=
  rfl

@[simp]
theorem resolve_none_cons (layers : List (Setting Limit)) :
    resolve (none :: layers) = resolve layers :=
  rfl

@[simp]
theorem resolve_some_cons (limit : Option Limit) (layers : List (Setting Limit)) :
    resolve (some limit :: layers) = limit :=
  rfl

/-- Whether an amount is within a limit; without one every amount is. -/
def Within (limit : Option ℕ) (amount : ℕ) : Prop :=
  ∀ most ∈ limit, amount ≤ most

@[simp]
theorem within_none (amount : ℕ) : Within none amount := by
  intro most hMost
  cases hMost

@[simp]
theorem within_some {most amount : ℕ} : Within (some most) amount ↔ amount ≤ most := by
  simp [Within]

theorem not_within {limit : Option ℕ} {amount : ℕ} :
    ¬Within limit amount ↔ ∃ most, limit = some most ∧ most < amount := by
  cases limit <;> simp

end PayKit.Control
