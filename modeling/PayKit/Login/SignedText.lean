import PayKit.Encoding.Lines

/-!
# The text of a login message

The messages of both protocols are a first line, an address, a statement, labelled fields and
optional fields, of which the last ones are free text. When the fields before the free text are
lines, the text determines them, unless the statement of one message and the free text of the
other one both have line breaks.
-/

namespace PayKit.Login

open Encoding

def OneLine (text : List Char) : Prop :=
  '\n' ∉ text

instance : DecidablePred OneLine := fun text =>
  inferInstanceAs (Decidable ('\n' ∉ text))

structure SignedText where
  first : List Char
  address : List Char
  statement : Option (List Char)
  /-- The labelled fields that every message has. -/
  required : List (List Char)
  expirationTime : Option (List Char)
  notBefore : Option (List Char)
  requestId : Option (List Char)
  resources : List (List Char)

namespace SignedText

def expirationLabel : List Char := "Expiration Time: ".toList
def notBeforeLabel : List Char := "Not Before: ".toList
def requestIdLabel : List Char := "Request ID: ".toList

def resourceTexts (resources : List (List Char)) : List (List Char) :=
  if resources = [] then [] else "Resources:".toList :: resources.map ("- ".toList ++ ·)

def freeTexts (text : SignedText) : List (List Char) :=
  labelled requestIdLabel text.requestId ++ resourceTexts text.resources

/-- The texts that are joined after the first line. -/
def rest (text : SignedText) : List (List Char) :=
  [text.address, []] ++ (text.statement.map ([·, []])).getD [] ++ text.required ++
    labelled expirationLabel text.expirationTime ++ labelled notBeforeLabel text.notBefore ++
      text.freeTexts

def chars (text : SignedText) : List Char :=
  joined '\n' text.first text.rest

/-- The lines of the message, as a letter. -/
def letter (text : SignedText) : Letter (List Char) where
  first := text.first
  second := text.address
  statement := text.statement.map (List.splitOn '\n')
  fields := text.required ++ (labelled expirationLabel text.expirationTime ++
    (labelled notBeforeLabel text.notBefore ++ text.freeTexts.flatMap (List.splitOn '\n')))

/-- The fields before the free text are lines, and there are at least two. -/
structure WellFormed (text : SignedText) : Prop where
  first : OneLine text.first
  address : OneLine text.address
  required : ∀ line ∈ text.required, OneLine line ∧ line ≠ []
  several : 2 ≤ text.required.length
  expirationTime : ∀ value ∈ text.expirationTime, OneLine value
  notBefore : ∀ value ∈ text.notBefore, OneLine value

/-- The free text has no line breaks of its own. -/
structure PlainEnd (text : SignedText) : Prop where
  requestId : ∀ value ∈ text.requestId, OneLine value
  resources : ∀ value ∈ text.resources, OneLine value

def PlainStatement (text : SignedText) : Prop :=
  ∀ value ∈ text.statement, OneLine value

variable {text left right : SignedText}

theorem oneLine_append {label value : List Char} (hLabel : OneLine label) (hValue : OneLine value) :
    OneLine (label ++ value) := by
  intro hBreak
  rcases List.mem_append.mp hBreak with hInLabel | hInValue
  · exact hLabel hInLabel
  · exact hValue hInValue

theorem clean_labelled {label : List Char} {value : Option (List Char)} (hLabel : OneLine label)
    (hValue : ∀ text ∈ value, OneLine text) : ∀ line ∈ labelled label value, '\n' ∉ line := by
  cases value with
  | none => intro line hLine; cases hLine
  | some value =>
      intro line hLine
      rw [List.mem_singleton.mp hLine]
      exact oneLine_append hLabel (hValue value rfl)

theorem clean_resourceTexts {resources : List (List Char)}
    (hResources : ∀ value ∈ resources, OneLine value) :
    ∀ line ∈ resourceTexts resources, '\n' ∉ line := by
  intro line hLine
  unfold resourceTexts at hLine
  split at hLine
  · cases hLine
  · rcases List.mem_cons.mp hLine with rfl | hMap
    · decide
    · rcases List.mem_map.mp hMap with ⟨value, hValue, rfl⟩
      exact oneLine_append (by decide) (hResources value hValue)

theorem PlainEnd.clean (hPlain : text.PlainEnd) : ∀ line ∈ text.freeTexts, '\n' ∉ line := by
  intro line hLine
  rcases List.mem_append.mp hLine with hRequestId | hResources
  · exact clean_labelled (by decide) hPlain.requestId line hRequestId
  · exact clean_resourceTexts hPlain.resources line hResources

theorem WellFormed.splitOn_chars (hText : text.WellFormed) :
    text.chars.splitOn '\n' = text.letter.lines [] := by
  have hRequired := flatMap_splitOn_of_clean fun line hLine => (hText.required line hLine).1
  have hLabelled {label : List Char} {value : Option (List Char)} (hLabel : OneLine label)
      (hValue : ∀ text ∈ value, OneLine text) :
      (labelled label value).flatMap (List.splitOn '\n') = labelled label value :=
    flatMap_splitOn_of_clean (clean_labelled hLabel hValue)
  have hExpiration := hLabelled (show OneLine expirationLabel by decide) hText.expirationTime
  have hNotBefore := hLabelled (show OneLine notBeforeLabel by decide) hText.notBefore
  rw [chars, splitOn_joined, List.splitOn_eq_singleton hText.first]
  simp only [rest, List.flatMap_append, List.flatMap_cons, List.flatMap_nil, List.append_nil,
    List.splitOn_eq_singleton hText.address, List.splitOn_nil, hRequired, hExpiration, hNotBefore]
  cases hStatement : text.statement with
  | none => simp [letter, Letter.lines, Letter.block, hStatement]
  | some statement => simp [letter, Letter.lines, Letter.block, hStatement]

theorem WellFormed.letter (hText : text.WellFormed) : text.letter.WellFormed [] where
  statement := by
    cases hStatement : text.statement with
    | none => simp [SignedText.letter, hStatement]
    | some statement =>
        simp only [SignedText.letter, hStatement, Option.map_some, ne_eq, Option.some.injEq]
        exact List.splitOn_ne_nil _ _
  fields := by
    rcases hRequired : text.required with _ | ⟨first, _ | ⟨second, others⟩⟩
    · have hSeveral := hText.several
      simp [hRequired] at hSeveral
    · have hSeveral := hText.several
      simp [hRequired] at hSeveral
    · have hSecond := (hText.required second (by simp [hRequired])).2
      simp only [SignedText.letter, hRequired, List.cons_append]
      exact ⟨first, second, _, rfl, hSecond⟩

theorem not_blank_labelled {label : List Char} {value : Option (List Char)} (hLabel : label ≠ []) :
    [] ∉ labelled label value := by
  cases value with
  | none => simp [labelled]
  | some value => simp [labelled, hLabel]

theorem not_blank_resourceTexts {resources : List (List Char)} : [] ∉ resourceTexts resources := by
  unfold resourceTexts
  split
  · simp
  · simp

theorem WellFormed.not_blank (hText : text.WellFormed) (hPlain : text.PlainEnd) :
    [] ∉ text.letter.fields := by
  simp only [SignedText.letter, flatMap_splitOn_of_clean hPlain.clean]
  simp only [freeTexts, List.mem_append, not_or]
  refine ⟨fun hBlank => (hText.required [] hBlank).2 rfl, not_blank_labelled (by decide),
    not_blank_labelled (by decide), not_blank_labelled (by decide), not_blank_resourceTexts⟩

theorem PlainStatement.short (hPlain : text.PlainStatement) : text.letter.ShortStatement := by
  intro statement hStatement
  simp only [letter, Option.map_eq_some_iff] at hStatement
  rcases hStatement with ⟨value, hValue, rfl⟩
  rw [List.splitOn_eq_singleton (hPlain value hValue)]
  rfl

/-! ### What the text determines -/

def freeLines (text : SignedText) : List (List Char) :=
  text.freeTexts.flatMap (List.splitOn '\n')

theorem head_freeLines : ∀ line ∈ text.freeLines.head?, line.head? = some 'R' := by
  have hFirst (first : List Char) (others : List (List Char)) (hHead : first.head? = some 'R') :
      ∀ line ∈ ((first :: others).flatMap (List.splitOn '\n')).head?, line.head? = some 'R' := by
    intro line hLine
    rw [List.flatMap_cons, List.head?_append_of_ne_nil _ (List.splitOn_ne_nil _ _)] at hLine
    exact head_splitOn hHead (by decide) line hLine
  unfold freeLines freeTexts
  cases text.requestId with
  | some requestId => exact hFirst _ _ rfl
  | none =>
      unfold resourceTexts
      split
      · exact nofun
      · exact hFirst _ _ rfl

theorem resources_of_texts {resources others : List (List Char)}
    (hSame : resourceTexts resources = resourceTexts others) : resources = others := by
  have hInjective : Function.Injective ("- ".toList ++ ·) := fun _ _ => List.append_cancel_left
  unfold resourceTexts at hSame
  split at hSame <;> split at hSame
  · rename_i hLeft hRight
    rw [hLeft, hRight]
  · cases hSame
  · cases hSame
  · exact hInjective.list_map (List.cons.inj hSame).2

/-- What two messages with the same text have in common. -/
structure SameFields (left right : SignedText) : Prop where
  first : left.first = right.first
  address : left.address = right.address
  required : left.required = right.required
  expirationTime : left.expirationTime = right.expirationTime
  notBefore : left.notBefore = right.notBefore

variable (hLeft : left.WellFormed) (hRight : right.WellFormed)
  (hRequired : left.required.length = right.required.length) (hSame : left.chars = right.chars)
include hLeft hRight hRequired hSame

theorem sameFields_of_chars (hLeftApart : left.PlainStatement ∨ right.PlainEnd)
    (hRightApart : right.PlainStatement ∨ left.PlainEnd) :
    SameFields left right ∧ left.freeLines = right.freeLines := by
  have hLines := congrArg (List.splitOn '\n') hSame
  rw [hLeft.splitOn_chars, hRight.splitOn_chars] at hLines
  have hLetter := Letter.eq_of_lines hLeft.letter hRight.letter hLines
    (hLeftApart.imp PlainStatement.short hRight.not_blank)
    (hRightApart.imp PlainStatement.short hLeft.not_blank)
  have hFields := congrArg Letter.fields hLetter
  rcases List.append_inj hFields hRequired with ⟨hRequiredSame, hEnd⟩
  have hNotBeforeFree (text : SignedText) : Unlabelled notBeforeLabel text.freeLines :=
    unlabelled_of_head head_freeLines (by decide) (by decide)
  have hExpirationFree (text : SignedText) : Unlabelled expirationLabel
      (labelled notBeforeLabel text.notBefore ++ text.freeLines) :=
    unlabelled_append (show notBeforeLabel.head? = some 'N' from rfl) (by decide) (by decide)
      (unlabelled_of_head head_freeLines (by decide) (by decide))
  rcases labelled_inj (hExpirationFree left) (hExpirationFree right) hEnd with
    ⟨hExpiration, hEnd⟩
  rcases labelled_inj (hNotBeforeFree left) (hNotBeforeFree right) hEnd with ⟨hNotBefore, hFree⟩
  exact ⟨⟨congrArg Letter.first hLetter, congrArg Letter.second hLetter, hRequiredSame,
    hExpiration, hNotBefore⟩, hFree⟩

theorem resources_of_chars (hLeftEnd : left.PlainEnd) (hRightEnd : right.PlainEnd) :
    SameFields left right ∧ left.resources = right.resources := by
  rcases sameFields_of_chars hLeft hRight hRequired hSame (.inr hRightEnd) (.inr hLeftEnd) with
    ⟨hFields, hFree⟩
  refine ⟨hFields, ?_⟩
  rw [freeLines, flatMap_splitOn_of_clean hLeftEnd.clean, freeLines,
    flatMap_splitOn_of_clean hRightEnd.clean] at hFree
  have hUnlabelled (resources : List (List Char)) :
      Unlabelled requestIdLabel (resourceTexts resources) := by
    unfold resourceTexts
    split
    · exact nofun
    · rintro line hLine
      obtain rfl : "Resources:".toList = line := Option.some.inj hLine
      decide
  exact resources_of_texts (labelled_inj (hUnlabelled _) (hUnlabelled _) hFree).2

end SignedText

end PayKit.Login
