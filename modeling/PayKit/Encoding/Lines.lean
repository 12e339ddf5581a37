import Mathlib.Tactic

/-!
# Texts of lines

A text whose lines are joined by a separator, and letters: two lines of address, an optional
statement of any number of lines between blank lines, and fields. The statement and the last
fields may be free text. Two letters with the same lines can only differ where the statement of
one of them reaches into the free fields of the other one.
-/

namespace PayKit.Encoding

/-! ### Joined texts -/

section

variable {Symbol : Type} [DecidableEq Symbol] {separator : Symbol}

/-- A first text and others, each after a separator. -/
def joined (separator : Symbol) (first : List Symbol) (rest : List (List Symbol)) : List Symbol :=
  first ++ rest.flatMap (separator :: ·)

omit [DecidableEq Symbol] in
theorem intercalate_eq_joined (first : List Symbol) (rest : List (List Symbol)) :
    [separator].intercalate (first :: rest) = joined separator first rest := by
  induction rest generalizing first with
  | nil => simp [joined, List.intercalate]
  | cons next rest hInduction =>
      have hJoin : [separator].intercalate (first :: next :: rest) =
          first ++ separator :: [separator].intercalate (next :: rest) := by
        simp [List.intercalate]
      rw [hJoin, hInduction]
      simp [joined]

/-- The lines of joined texts are the lines of each of them. -/
theorem splitOn_joined (first : List Symbol) (rest : List (List Symbol)) :
    (joined separator first rest).splitOn separator =
      first.splitOn separator ++ rest.flatMap (List.splitOn separator) := by
  induction rest generalizing first with
  | nil => simp [joined]
  | cons next rest hInduction =>
      have hJoin : joined separator first (next :: rest) =
          first ++ separator :: joined separator next rest := by
        simp [joined]
      rw [hJoin, List.splitOn_append_cons_self, hInduction, List.flatMap_cons]

theorem flatMap_splitOn_of_clean {texts : List (List Symbol)}
    (hClean : ∀ text ∈ texts, separator ∉ text) :
    texts.flatMap (List.splitOn separator) = texts := by
  induction texts with
  | nil => rfl
  | cons text texts hInduction =>
      rw [List.forall_mem_cons] at hClean
      rw [List.flatMap_cons, List.splitOn_eq_singleton hClean.1, hInduction hClean.2]
      rfl

end

/-! ### Letters -/

/-- A letter by its lines. -/
structure Letter (Line : Type) where
  first : Line
  second : Line
  statement : Option (List Line)
  fields : List Line

namespace Letter

variable {Line : Type} {blank : Line} {left right : Letter Line}

/-- The statement with the blank line after it. -/
def block (blank : Line) : Option (List Line) → List Line
  | none => []
  | some statement => statement ++ [blank]

def lines (blank : Line) (letter : Letter Line) : List Line :=
  letter.first :: letter.second :: blank :: (block blank letter.statement ++ letter.fields)

/-- The second field is not blank, and a statement has a line. -/
structure WellFormed (blank : Line) (letter : Letter Line) : Prop where
  statement : letter.statement ≠ some []
  fields : ∃ first second rest, letter.fields = first :: second :: rest ∧ second ≠ blank

/-- The statement has at most one line. -/
def ShortStatement (letter : Letter Line) : Prop :=
  ∀ statement, letter.statement = some statement → statement.length = 1

theorem block_some (statement : List Line) : block blank (some statement) = statement ++ [blank] :=
  rfl

theorem block_injective : Function.Injective (block blank) := by
  intro left right hSame
  cases left with
  | none =>
      cases right with
      | none => rfl
      | some statement => simp [block] at hSame
  | some statement =>
      cases right with
      | none => simp [block] at hSame
      | some other =>
          simp only [block, List.append_cancel_right_eq] at hSame
          rw [hSame]

/-- The fields of the left letter do not begin after those of the right one. -/
theorem block_length_le (hRight : right.WellFormed blank)
    (hSame : block blank left.statement ++ left.fields =
      block blank right.statement ++ right.fields)
    (hApart : left.ShortStatement ∨ blank ∉ right.fields) :
    (block blank left.statement).length ≤ (block blank right.statement).length := by
  by_contra hLonger
  cases hStatement : left.statement with
  | none => simp [hStatement, block] at hLonger
  | some statement =>
      simp only [hStatement, block_some, List.append_assoc, List.singleton_append] at hSame hLonger
      rcases hApart with hShort | hPlain
      · -- a statement of one line, and none on the right: the second field would be blank
        have hOne := hShort statement hStatement
        cases hOther : right.statement with
        | none =>
            rcases hRight.fields with ⟨first, second, rest, hFields, hSecond⟩
            rcases List.length_eq_one_iff.mp hOne with ⟨line, rfl⟩
            rw [hOther, block, hFields] at hSame
            simp only [List.cons_append, List.nil_append, List.cons.injEq] at hSame
            exact hSecond hSame.2.1.symm
        | some other =>
            have hNonempty : 0 < other.length :=
              List.length_pos_of_ne_nil fun hNil => hRight.statement (by rw [hOther, hNil])
            simp only [hOther, block_some, List.length_append, List.length_singleton,
              hOne] at hLonger
            omega
      · rcases List.append_eq_append_iff.mp hSame with
          ⟨between, hBlock, -⟩ | ⟨between, -, hFields⟩
        · rw [hBlock] at hLonger
          simp only [List.length_append, List.length_singleton] at hLonger
          have hEmpty : between.length = 0 := by omega
          rw [List.length_eq_zero_iff.mp hEmpty, List.append_nil] at hBlock
          rw [hBlock, List.append_cancel_left_eq] at hSame
          exact hPlain (hSame ▸ List.mem_cons_self)
        · exact hPlain (hFields ▸ List.mem_append_right _ List.mem_cons_self)

/-- Letters with the same lines are the same, if no statement reaches into free fields. -/
theorem eq_of_lines (hLeft : left.WellFormed blank) (hRight : right.WellFormed blank)
    (hSame : left.lines blank = right.lines blank)
    (hLeftApart : left.ShortStatement ∨ blank ∉ right.fields)
    (hRightApart : right.ShortStatement ∨ blank ∉ left.fields) : left = right := by
  rcases left with ⟨first, second, statement, fields⟩
  rcases right with ⟨otherFirst, otherSecond, otherStatement, otherFields⟩
  simp only [lines, List.cons.injEq, true_and] at hSame
  rcases hSame with ⟨rfl, rfl, hRest⟩
  have hLength := Nat.le_antisymm (block_length_le hRight hRest hLeftApart)
    (block_length_le hLeft hRest.symm hRightApart)
  rcases List.append_inj hRest hLength with ⟨hBlock, rfl⟩
  rw [block_injective hBlock]

end Letter

/-! ### Labelled lines -/

section

variable {Symbol : Type} {label : List Symbol}

/-- The line of an optional field. -/
def labelled (label : List Symbol) : Option (List Symbol) → List (List Symbol)
  | none => []
  | some value => [label ++ value]

/-- The first line does not carry the label. -/
def Unlabelled (label : List Symbol) (lines : List (List Symbol)) : Prop :=
  ∀ line ∈ lines.head?, ¬label <+: line

/-- An optional field is read off the lines when those after it do not carry its label. -/
theorem labelled_inj {left right : Option (List Symbol)} {leftRest rightRest : List (List Symbol)}
    (hLeft : Unlabelled label leftRest) (hRight : Unlabelled label rightRest)
    (hSame : labelled label left ++ leftRest = labelled label right ++ rightRest) :
    left = right ∧ leftRest = rightRest := by
  cases left with
  | none =>
      cases right with
      | none => exact ⟨rfl, hSame⟩
      | some value =>
          refine absurd (List.prefix_append label value) (hLeft _ ?_)
          rw [show leftRest = _ from hSame]
          rfl
  | some value =>
      cases right with
      | none =>
          refine absurd (List.prefix_append label value) (hRight _ ?_)
          rw [show rightRest = _ from hSame.symm]
          rfl
      | some other =>
          simp only [labelled, List.singleton_append, List.cons.injEq,
            List.append_cancel_left_eq] at hSame
          exact ⟨congrArg some hSame.1, hSame.2⟩

/-- Lines of which the first one begins with another symbol than the label. -/
theorem unlabelled_of_head {symbol : Symbol} {lines : List (List Symbol)}
    (hLines : ∀ line ∈ lines.head?, line.head? = some symbol)
    (hLabel : label.head? ≠ some symbol) (hNonempty : label ≠ []) : Unlabelled label lines := by
  intro line hLine hPrefix
  cases label with
  | nil => exact hNonempty rfl
  | cons first rest =>
      rcases hPrefix with ⟨suffix, rfl⟩
      have hHead := hLines _ hLine
      exact hLabel hHead

/-- An optional field of another label may come first. -/
theorem unlabelled_append {other : List Symbol} {symbol : Symbol} {value : Option (List Symbol)}
    {lines : List (List Symbol)} (hOther : other.head? = some symbol)
    (hLabel : label.head? ≠ some symbol) (hNonempty : label ≠ [])
    (hLines : Unlabelled label lines) : Unlabelled label (labelled other value ++ lines) := by
  cases value with
  | none => exact hLines
  | some value =>
      refine unlabelled_of_head ?_ hLabel hNonempty
      intro line hLine
      obtain rfl : other ++ value = line := Option.some.inj hLine
      rw [List.head?_append, hOther]
      rfl

/-- The first line of a text begins as the text does. -/
theorem head_splitOn [DecidableEq Symbol] {separator symbol : Symbol} {text : List Symbol}
    (hText : text.head? = some symbol) (hSymbol : symbol ≠ separator) :
    ∀ line ∈ (text.splitOn separator).head?, line.head? = some symbol := by
  intro line hLine
  cases text with
  | nil => cases hText
  | cons first rest =>
      obtain rfl : first = symbol := Option.some.inj hText
      rw [List.splitOn_cons_eq_if_modifyHead, if_neg (by simpa using hSymbol)] at hLine
      cases hRest : rest.splitOn separator with
      | nil => exact absurd hRest (List.splitOn_ne_nil separator rest)
      | cons next others =>
          rw [hRest] at hLine
          obtain rfl : first :: next = line := Option.some.inj hLine
          rfl

end

end PayKit.Encoding
