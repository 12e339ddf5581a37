import Mathlib.Tactic

/-!
# Fields joined by a separator

Fields are joined into one text by a separator. If the fields of one side do not contain the
separator, a join of as many fields has the same number of separators only when its fields do
not contain it either, and then splitting the text gives the fields of both.
-/

namespace PayKit.Encoding

variable {Symbol : Type} [DecidableEq Symbol] {separator : Symbol}

theorem count_intercalate (field : List Symbol) (fields : List (List Symbol)) :
    ([separator].intercalate (field :: fields)).count separator =
      ((field :: fields).map (List.count separator)).sum + fields.length := by
  induction fields generalizing field with
  | nil => simp [List.intercalate]
  | cons next fields hInduction =>
      have hJoin : [separator].intercalate (field :: next :: fields) =
          field ++ separator :: [separator].intercalate (next :: fields) := by
        simp [List.intercalate]
      rw [hJoin, List.count_append, List.count_cons_self, hInduction]
      simp only [List.map_cons, List.sum_cons, List.length_cons]
      omega

/-- No field contains the separator when their sum of separators is that of clean fields. -/
theorem clean_of_count {fields : List (List Symbol)}
    (hNone : (fields.map (List.count separator)).sum = 0) :
    ∀ field ∈ fields, separator ∉ field := by
  intro field hField
  have hCount : field.count separator ∈ fields.map (List.count separator) :=
    List.mem_map_of_mem hField
  exact List.count_eq_zero.mp (List.sum_eq_zero_iff.mp hNone _ hCount)

theorem count_of_clean {fields : List (List Symbol)}
    (hClean : ∀ field ∈ fields, separator ∉ field) :
    (fields.map (List.count separator)).sum = 0 := by
  apply List.sum_eq_zero
  intro count hCount
  rcases List.mem_map.mp hCount with ⟨field, hField, rfl⟩
  exact List.count_eq_zero.mpr (hClean field hField)

/-- Joins of as many fields differ, if the fields of one side are clean. -/
theorem fields_of_intercalate {clean other : List (List Symbol)}
    (hLength : clean.length = other.length) (hClean : ∀ field ∈ clean, separator ∉ field)
    (hSame : [separator].intercalate clean = [separator].intercalate other) : clean = other := by
  cases clean with
  | nil => exact (List.length_eq_zero_iff.mp hLength.symm).symm
  | cons field fields =>
      cases other with
      | nil => cases hLength
      | cons first rest =>
          have hCount := congrArg (List.count separator) hSame
          rw [count_intercalate, count_intercalate, count_of_clean hClean] at hCount
          simp only [List.length_cons, Nat.add_right_cancel_iff] at hLength
          have hOther : (((first :: rest).map (List.count separator)).sum) = 0 := by omega
          have hSplit := congrArg (List.splitOn separator) hSame
          rwa [List.splitOn_intercalate separator hClean (List.cons_ne_nil field fields),
            List.splitOn_intercalate separator (clean_of_count hOther)
              (List.cons_ne_nil first rest)] at hSplit

end PayKit.Encoding
