import Mathlib.Data.List.Basic
import Mathlib.Tactic

/-!
# Searching a text for a pattern

`findPlain` splits a text at the first place where a pattern starts. Where it stops is decided
piece by piece: `NoStart before after` says that no occurrence starts within `before` when
`after` comes next. It is a property of the pieces of a text that can be put together, which
"the pattern occurs in the text" is not.
-/

namespace PayKit.Encoding

variable {Symbol : Type}

/-- The texts before and after the first occurrence of a pattern. -/
def findPlain [DecidableEq Symbol] (pattern : List Symbol) : List Symbol → Option (List Symbol × List Symbol)
  | [] => if pattern = [] then some ([], []) else none
  | symbol :: rest =>
      if pattern <+: symbol :: rest then some ([], (symbol :: rest).drop pattern.length)
      else (findPlain pattern rest).map fun split => (symbol :: split.1, split.2)

/-- No occurrence of the pattern starts within the first of two texts. -/
def NoStart (pattern : List Symbol) : List Symbol → List Symbol → Prop
  | [], _ => True
  | symbol :: rest, after => ¬pattern <+: symbol :: (rest ++ after) ∧ NoStart pattern rest after

section

variable {pattern before after text : List Symbol} {symbol : Symbol}

@[simp]
theorem noStart_nil : NoStart pattern [] after :=
  trivial

theorem noStart_cons :
    NoStart pattern (symbol :: before) after ↔
      ¬pattern <+: symbol :: (before ++ after) ∧ NoStart pattern before after :=
  Iff.rfl

theorem noStart_append {middle : List Symbol} :
    NoStart pattern (before ++ middle) after ↔
      NoStart pattern before (middle ++ after) ∧ NoStart pattern middle after := by
  induction before with
  | nil => simp
  | cons symbol rest hInduction =>
      rw [List.cons_append, noStart_cons, noStart_cons, hInduction, List.append_assoc, and_assoc]

theorem noStart_of_not_mem {first : Symbol} {rest : List Symbol} (hNot : first ∉ before) :
    NoStart (first :: rest) before after := by
  induction before with
  | nil => trivial
  | cons symbol tail hInduction =>
      rw [List.mem_cons, not_or] at hNot
      refine ⟨?_, hInduction hNot.2⟩
      intro hPrefix
      exact hNot.1 (List.cons_prefix_cons.mp hPrefix).1

variable [DecidableEq Symbol]

/-- The search passes over a piece in which no occurrence starts. -/
theorem findPlain_append (hNone : NoStart pattern before after) :
    findPlain pattern (before ++ after) =
      (findPlain pattern after).map fun split => (before ++ split.1, split.2) := by
  induction before with
  | nil => simp
  | cons symbol rest hInduction =>
      rw [noStart_cons] at hNone
      rw [List.cons_append, findPlain, if_neg hNone.1, hInduction hNone.2, Option.map_map]
      rfl

theorem findPlain_prefix (hNonempty : pattern ≠ []) :
    findPlain pattern (pattern ++ after) = some ([], after) := by
  cases pattern with
  | nil => exact absurd rfl hNonempty
  | cons first rest => simp [findPlain]

theorem findPlain_eq_none (hNonempty : pattern ≠ []) :
    findPlain pattern text = none ↔ NoStart pattern text [] := by
  induction text with
  | nil => simp [findPlain, hNonempty]
  | cons symbol rest hInduction =>
      rw [noStart_cons, List.append_nil, findPlain, ← hInduction]
      by_cases hPrefix : pattern <+: symbol :: rest
      · simp [hPrefix]
      · simp [hPrefix]

end

end PayKit.Encoding
