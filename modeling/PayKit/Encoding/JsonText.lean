import PayKit.Encoding.Json
import PayKit.Encoding.Numeral
import PayKit.Encoding.PlainSearch

/-!
# JSON text and where a member can be found in it

The compact text of a JSON value, as `serde_json::to_string` writes it. A search for the text of
a member, its key in quotes, a colon and a literal, finds members only, because a quote within a
string is written with a backslash before it and only a key is followed by a colon. The key that
is found need not be the one that was looked for: a key that ends in a quote and that key has the
same end in the text.
-/

namespace PayKit.Encoding

/-! ### The text -/

def hexDigits : List Char :=
  ['0', '1', '2', '3', '4', '5', '6', '7', '8', '9', 'a', 'b', 'c', 'd', 'e', 'f']

def hexDigit (digit : ℕ) : Char :=
  hexDigits.getD digit '0'

/-- A character within a string. -/
def escapeChar (char : Char) : List Char :=
  if char = '"' then ['\\', '"']
  else if char = '\\' then ['\\', '\\']
  else if char = '\n' then ['\\', 'n']
  else if char = '\r' then ['\\', 'r']
  else if char = '\t' then ['\\', 't']
  else if char.toNat = 8 then ['\\', 'b']
  else if char.toNat = 12 then ['\\', 'f']
  else if char.toNat < 32 then
    ['\\', 'u', '0', '0', hexDigit (char.toNat / 16), hexDigit (char.toNat % 16)]
  else [char]

def escape (chars : List Char) : List Char :=
  chars.flatMap escapeChar

def quoted (text : String) : List Char :=
  '"' :: (escape text.toList ++ ['"'])

/-- The text of a signed number. -/
def integerText (value : ℤ) : List Char :=
  if value < 0 then '-' :: Nat.toDigits 10 value.natAbs else Nat.toDigits 10 value.natAbs

namespace Json

def literal : Bool → List Char
  | true => ['t', 'r', 'u', 'e']
  | false => ['f', 'a', 'l', 's', 'e']

def isLiteral (value : Bool) : Json → Bool
  | bool other => other = value
  | _ => false

mutual

/-- `serde_json::to_string`. -/
def render : Json → List Char
  | null => ['n', 'u', 'l', 'l']
  | bool value => literal value
  | unsigned value => Nat.toDigits 10 value
  | negative value => integerText value
  | float value => value.toList
  | text value => quoted value
  | array items => '[' :: renderItems [] items
  | object members => '{' :: renderMembers [] members

/-- The items of an array, each after a separator, and the closing bracket. -/
def renderItems (separator : List Char) : List Json → List Char
  | [] => [']']
  | item :: items => separator ++ (render item ++ renderItems [','] items)

def renderMembers (separator : List Char) : List (String × Json) → List Char
  | [] => ['}']
  | (key, value) :: members =>
      separator ++ (quoted key ++ ':' :: (render value ++ renderMembers [','] members))

end

end Json

/-! ### Members -/

/-- The key is another key, or ends in a quote and that key. -/
def EndsInKey (key name : String) : Prop :=
  key = name ∨ ('"' :: name.toList) <:+ key.toList

instance (key name : String) : Decidable (EndsInKey key name) :=
  inferInstanceAs (Decidable (_ ∨ _))

namespace Json

mutual

/-- Some member at any depth has the literal as its value, under a key that ends in the name. -/
def hasMember (name : String) (value : Bool) : Json → Bool
  | array items => hasMemberItems name value items
  | object members => hasMemberMembers name value members
  | _ => false

def hasMemberItems (name : String) (value : Bool) : List Json → Bool
  | [] => false
  | item :: items => hasMember name value item || hasMemberItems name value items

def hasMemberMembers (name : String) (value : Bool) : List (String × Json) → Bool
  | [] => false
  | (key, json) :: members =>
      (decide (EndsInKey key name) && json.isLiteral value) || hasMember name value json ||
        hasMemberMembers name value members

end

end Json

/-! ### Strings -/

/-- A name that is written in a string as it is, and is not punctuation. -/
def PlainName (name : List Char) : Prop :=
  ∀ char ∈ name, escapeChar char = [char] ∧ char ≠ '"' ∧ char ≠ '\\' ∧
    char ∉ [':', ',', ']', '}']

/-- A text that is over, or goes on with punctuation. -/
def Punctuated (after : List Char) : Prop :=
  ∀ char ∈ after.head?, char ∈ [':', ',', ']', '}']

/-- A text that is over, or goes on as after a value. -/
def Closed (after : List Char) : Prop :=
  ∀ char ∈ after.head?, char ∈ [',', ']', '}']

theorem Closed.punctuated {after : List Char} (hAfter : Closed after) : Punctuated after := by
  intro char hChar
  exact List.mem_cons_of_mem _ (hAfter char hChar)

section

variable {name key tail after chars : List Char} {char : Char}

theorem escape_cons : escape (char :: chars) = escapeChar char ++ escape chars :=
  List.flatMap_cons

theorem hexDigit_ne_quote (digit : ℕ) : hexDigit digit ≠ '"' := by
  have hAll : ∀ char ∈ hexDigits, char ≠ '"' := by simp [hexDigits]
  rw [hexDigit, List.getD_eq_getElem?_getD]
  cases hDigit : hexDigits[digit]? with
  | none => simp
  | some char => exact hAll char (List.mem_of_getElem? hDigit)

/-- Only an escaped quote is written with a quote. -/
theorem quote_not_mem_escapeChar (hChar : char ≠ '"') : '"' ∉ escapeChar char := by
  simp only [escapeChar, if_neg hChar]
  split_ifs
  all_goals simp only [List.mem_cons, List.not_mem_nil, or_false, not_or]
  all_goals simp [Ne.symm hChar, (hexDigit_ne_quote _).symm]

/-- A character is written as it is, or starts with a backslash. -/
theorem escapeChar_cases (char : Char) :
    escapeChar char = [char] ∨ ∃ rest, escapeChar char = '\\' :: rest := by
  simp only [escapeChar]
  split_ifs
  all_goals simp

theorem escapeChar_quote : escapeChar '"' = ['\\', '"'] :=
  rfl

/-- A plain name and a quote are found at the start of a string only if they are all of it. -/
theorem name_prefix_escape_iff (hName : PlainName name) :
    name ++ '"' :: tail <+: escape chars ++ '"' :: after ↔ chars = name ∧ tail <+: after := by
  induction name generalizing chars with
  | nil =>
      cases chars with
      | nil => simp [escape, List.cons_prefix_cons]
      | cons first rest =>
          have hHead : ¬ '"' :: tail <+: escapeChar first ++ (escape rest ++ '"' :: after) := by
            rcases escapeChar_cases first with hPlain | ⟨more, hEscaped⟩
            · rw [hPlain, List.singleton_append, List.cons_prefix_cons]
              rintro ⟨rfl, -⟩
              cases hPlain
            · rw [hEscaped, List.cons_append, List.cons_prefix_cons]
              simp
          simpa [escape_cons, List.append_assoc] using hHead
  | cons first rest hInduction =>
      have hFirst := hName first List.mem_cons_self
      have hRest : PlainName rest := fun char hChar => hName char (List.mem_cons_of_mem _ hChar)
      cases chars with
      | nil => simp [escape, List.cons_prefix_cons, hFirst.2.1]
      | cons char chars =>
          rw [escape_cons, List.cons_append, List.append_assoc]
          rcases escapeChar_cases char with hPlain | ⟨more, hEscaped⟩
          · rw [hPlain, List.singleton_append, List.cons_prefix_cons, hInduction hRest,
              List.cons.injEq, and_assoc]
            constructor
            · rintro ⟨hSame, hTail⟩
              exact ⟨hSame.symm, hTail⟩
            · rintro ⟨hSame, hTail⟩
              exact ⟨hSame.symm, hTail⟩
          · have hNotBackslash := hFirst.2.2.1
            rw [hEscaped, List.cons_append, List.cons_prefix_cons]
            constructor
            · rintro ⟨hSame, -⟩
              exact absurd hSame hNotBackslash
            · rintro ⟨hSame, -⟩
              rw [(List.cons.inj hSame).1, hFirst.1] at hEscaped
              exact absurd (List.cons.inj hEscaped).1 hNotBackslash

/-- What a string adds after its opening quote. -/
theorem noStart_escape_iff (hName : PlainName name) :
    NoStart ('"' :: (name ++ '"' :: tail)) (escape chars) ('"' :: after) ↔
      ¬('"' :: name <:+ chars ∧ tail <+: after) := by
  induction chars with
  | nil => simp [escape]
  | cons char chars hInduction =>
      rw [escape_cons, noStart_append, hInduction, List.suffix_cons_iff]
      by_cases hChar : char = '"'
      · subst hChar
        have hQuote : NoStart ('"' :: (name ++ '"' :: tail)) (escapeChar '"')
            (escape chars ++ '"' :: after) ↔ ¬(chars = name ∧ tail <+: after) := by
          rw [escapeChar_quote, noStart_cons, noStart_cons, List.nil_append,
            List.cons_prefix_cons, List.cons_prefix_cons, name_prefix_escape_iff hName]
          simp
        rw [hQuote, List.cons.injEq]
        tauto
      · have hNone : NoStart ('"' :: (name ++ '"' :: tail)) (escapeChar char)
            (escape chars ++ '"' :: after) := noStart_of_not_mem (quote_not_mem_escapeChar hChar)
        have hNotHere : ¬ '"' :: name = char :: chars := by
          intro hSame
          exact hChar (List.cons.inj hSame).1.symm
        simp [hNone, hNotHere]

/-- A string that is followed by punctuation. -/
theorem noStart_quoted_iff {text name : String} (hName : PlainName name.toList)
    (hAfter : Punctuated after) :
    NoStart ('"' :: (name.toList ++ '"' :: tail)) (quoted text) after ↔
      ¬(EndsInKey text name ∧ tail <+: after) := by
  have hClosing : NoStart ('"' :: (name.toList ++ '"' :: tail)) ['"'] after := by
    rw [noStart_cons, List.nil_append, List.cons_prefix_cons]
    refine ⟨?_, trivial⟩
    rintro ⟨-, hPrefix⟩
    cases after with
    | nil => simp at hPrefix
    | cons next rest =>
        have hNext : next ∈ [':', ',', ']', '}'] := hAfter next rfl
        cases hCase : name.toList with
        | nil =>
            rw [hCase, List.nil_append, List.cons_prefix_cons] at hPrefix
            rw [← hPrefix.1] at hNext
            simp at hNext
        | cons first more =>
            rw [hCase, List.cons_append, List.cons_prefix_cons] at hPrefix
            have hFirst := (hName first (by simp [hCase])).2.2.2
            rw [hPrefix.1] at hFirst
            exact hFirst hNext
  have hSame : text.toList = name.toList ↔ text = name := String.toList_inj
  rw [quoted, noStart_cons, noStart_append, List.append_assoc, List.singleton_append,
    List.cons_prefix_cons, name_prefix_escape_iff hName, noStart_escape_iff hName, hSame,
    EndsInKey]
  simp only [hClosing, and_true, true_and]
  tauto

end

/-! ### Values -/

namespace Json

/-- Characters of a number's text. -/
def IsNumberChar (char : Char) : Prop :=
  char.isDigit = true ∨ char ∈ ['+', '-', '.', 'e', 'E']

mutual

/-- The numbers of the value have texts of numbers. -/
def NumbersPrint : Json → Prop
  | float value => ∀ char ∈ value.toList, IsNumberChar char
  | array items => NumbersPrintItems items
  | object members => NumbersPrintMembers members
  | _ => True

def NumbersPrintItems : List Json → Prop
  | [] => True
  | item :: items => NumbersPrint item ∧ NumbersPrintItems items

def NumbersPrintMembers : List (String × Json) → Prop
  | [] => True
  | (_, value) :: members => NumbersPrint value ∧ NumbersPrintMembers members

end

section

variable {json : Json} {after : List Char} {name : String} {value : Bool}

theorem isNumberChar_ne {char : Char} (hChar : IsNumberChar char) :
    char ≠ '"' ∧ char ≠ 't' ∧ char ≠ 'f' := by
  rcases hChar with hDigit | hOther
  · refine ⟨?_, ?_, ?_⟩
    · rintro rfl
      cases hDigit
    · rintro rfl
      cases hDigit
    · rintro rfl
      cases hDigit
  · simp only [List.mem_cons, List.not_mem_nil, or_false] at hOther
    rcases hOther with rfl | rfl | rfl | rfl | rfl <;> decide

theorem isNumberChar_toDigits (number : ℕ) :
    ∀ char ∈ Nat.toDigits 10 number, IsNumberChar char := by
  intro char hChar
  exact .inl ((isNumeral_toDigits number).digits char hChar)

theorem isNumberChar_integerText (number : ℤ) :
    ∀ char ∈ integerText number, IsNumberChar char := by
  intro char hChar
  simp only [integerText] at hChar
  split at hChar
  · rcases List.mem_cons.mp hChar with rfl | hDigit
    · exact .inr (by decide)
    · exact isNumberChar_toDigits _ char hDigit
  · exact isNumberChar_toDigits _ char hChar

/-- A literal does not start with what a number or the end of a value starts with. -/
theorem not_literal_prefix_number {chars : List Char}
    (hChars : ∀ char ∈ chars, IsNumberChar char) (hAfter : Punctuated after) :
    ¬literal value <+: chars ++ after := by
  have hHead : ∀ first rest, chars ++ after = first :: rest → first ≠ 't' ∧ first ≠ 'f' := by
    intro first rest hText
    cases chars with
    | nil =>
        rw [List.nil_append] at hText
        have hFirst := hAfter first (by simp [hText])
        have hNotLiteral : ∀ char ∈ [':', ',', ']', '}'], char ≠ 't' ∧ char ≠ 'f' := by simp
        exact hNotLiteral first hFirst
    | cons char chars =>
        rw [List.cons_append, List.cons.injEq] at hText
        have hNumber := isNumberChar_ne (hChars char List.mem_cons_self)
        rw [← hText.1]
        exact hNumber.2
  intro hPrefix
  cases hText : chars ++ after with
  | nil =>
      rw [hText] at hPrefix
      cases value with
      | true => simp [literal] at hPrefix
      | false => simp [literal] at hPrefix
  | cons first rest =>
      have hFirst := hHead first rest hText
      rw [hText] at hPrefix
      cases value with
      | true => exact hFirst.1 (List.cons_prefix_cons.mp hPrefix).1.symm
      | false => exact hFirst.2 (List.cons_prefix_cons.mp hPrefix).1.symm

/-- Only the literal is written with the literal at the start. -/
theorem literal_prefix_iff (hNumbers : NumbersPrint json) (hAfter : Closed after) :
    literal value <+: render json ++ after ↔ json.isLiteral value = true := by
  cases json with
  | null =>
      cases value with
      | true => simp [literal, render, isLiteral]
      | false => simp [literal, render, isLiteral]
  | bool other =>
      cases value with
      | true =>
          cases other with
          | true => simp [literal, render, isLiteral]
          | false => simp [literal, render, isLiteral]
      | false =>
          cases other with
          | true => simp [literal, render, isLiteral]
          | false => simp [literal, render, isLiteral]
  | unsigned number =>
      simp only [isLiteral, Bool.false_eq_true, iff_false]
      exact not_literal_prefix_number (isNumberChar_toDigits number) hAfter.punctuated
  | negative number =>
      simp only [isLiteral, Bool.false_eq_true, iff_false]
      exact not_literal_prefix_number (isNumberChar_integerText number) hAfter.punctuated
  | float text =>
      simp only [isLiteral, Bool.false_eq_true, iff_false]
      exact not_literal_prefix_number hNumbers hAfter.punctuated
  | text text =>
      cases value with
      | true => simp [literal, render, quoted, isLiteral]
      | false => simp [literal, render, quoted, isLiteral]
  | array items =>
      cases value with
      | true => simp [literal, render, isLiteral]
      | false => simp [literal, render, isLiteral]
  | object members =>
      cases value with
      | true => simp [literal, render, isLiteral]
      | false => simp [literal, render, isLiteral]

/-- The text of a member: the key, a colon and the literal. -/
def memberText (name : String) (value : Bool) : List Char :=
  '"' :: (name.toList ++ '"' :: ':' :: literal value)

theorem punctuated_cons {first : Char} (hFirst : first ∈ [':', ',', ']', '}'])
    (rest : List Char) : Punctuated (first :: rest) := by
  intro char hChar
  simp only [List.head?_cons, Option.mem_def, Option.some.injEq] at hChar
  rwa [← hChar]

theorem closed_cons {first : Char} (hFirst : first ∈ [',', ']', '}']) (rest : List Char) :
    Closed (first :: rest) := by
  intro char hChar
  simp only [List.head?_cons, Option.mem_def, Option.some.injEq] at hChar
  rwa [← hChar]

theorem closed_items (items : List Json) : Closed (renderItems [','] items ++ after) := by
  cases items with
  | nil => exact closed_cons (by decide) _
  | cons item items => exact closed_cons (by decide) _

theorem closed_members (members : List (String × Json)) :
    Closed (renderMembers [','] members ++ after) := by
  cases members with
  | nil => exact closed_cons (by decide) _
  | cons member members => exact closed_cons (by decide) _

theorem noStart_number {chars : List Char} (hChars : ∀ char ∈ chars, IsNumberChar char) :
    NoStart (memberText name value) chars after := by
  apply noStart_of_not_mem
  intro hQuote
  exact (isNumberChar_ne (hChars _ hQuote)).1 rfl

/-- A member of an object, before the rest of it. -/
theorem noStart_member_iff {key : String} (hName : PlainName name.toList)
    (hNumbers : NumbersPrint json) (hAfter : Closed after) :
    NoStart (memberText name value) (quoted key ++ ':' :: render json) after ↔
      ¬(EndsInKey key name ∧ json.isLiteral value = true) ∧
        NoStart (memberText name value) (render json) after := by
  have hColon : ¬memberText name value <+: ':' :: (render json ++ after) := by
    simp [memberText, List.cons_prefix_cons]
  rw [noStart_append, List.cons_append, noStart_cons]
  rw [memberText, noStart_quoted_iff hName (punctuated_cons (by decide) _),
    List.cons_prefix_cons, literal_prefix_iff hNumbers hAfter, ← memberText]
  simp [hColon]

mutual

/-- The text of a member is found in the text of a value exactly where it has the member. -/
theorem noStart_render_iff (hName : PlainName name.toList) (after : List Char) :
    (json : Json) → NumbersPrint json → Closed after →
      (NoStart (memberText name value) (render json) after ↔ hasMember name value json = false)
  | .null, _, _ => by
      simp only [render, hasMember, iff_true]
      exact noStart_of_not_mem (by decide)
  | .bool other, _, _ => by
      simp only [render, hasMember, iff_true]
      apply noStart_of_not_mem
      cases other with
      | true => decide
      | false => decide
  | .unsigned number, _, _ => by
      simp only [render, hasMember, iff_true]
      exact noStart_number (isNumberChar_toDigits number)
  | .negative number, _, _ => by
      simp only [render, hasMember, iff_true]
      exact noStart_number (isNumberChar_integerText number)
  | .float number, hNumbers, _ => by
      simp only [render, hasMember, iff_true]
      exact noStart_number hNumbers
  | .text content, _, hAfter => by
      have hColon : ¬ ':' :: literal value <+: after := by
        intro hPrefix
        cases after with
        | nil => simp at hPrefix
        | cons next rest =>
            have hNext := hAfter next rfl
            rw [← (List.cons_prefix_cons.mp hPrefix).1] at hNext
            revert hNext
            decide
      simp only [render, hasMember, iff_true]
      rw [memberText, noStart_quoted_iff hName hAfter.punctuated]
      exact fun hBoth => hColon hBoth.2
  | .array items, hNumbers, _ => by
      simp only [render, hasMember]
      rw [noStart_cons, noStart_renderItems_iff hName after [] items hNumbers (by simp)]
      simp [memberText, List.cons_prefix_cons]
  | .object members, hNumbers, _ => by
      simp only [render, hasMember]
      rw [noStart_cons, noStart_renderMembers_iff hName after [] members hNumbers (by simp)]
      simp [memberText, List.cons_prefix_cons]

theorem noStart_renderItems_iff (hName : PlainName name.toList) (after separator : List Char) :
    (items : List Json) → NumbersPrintItems items → '"' ∉ separator →
      (NoStart (memberText name value) (renderItems separator items) after ↔
        hasMemberItems name value items = false)
  | [], _, _ => by
      simp only [renderItems, hasMemberItems, iff_true]
      exact noStart_of_not_mem (by decide)
  | item :: items, hNumbers, hSeparator => by
      have hNone : NoStart (memberText name value) separator
          (render item ++ (renderItems [','] items ++ after)) := noStart_of_not_mem hSeparator
      simp only [renderItems, hasMemberItems, Bool.or_eq_false_iff]
      rw [noStart_append, noStart_append, List.append_assoc,
        noStart_render_iff hName _ item hNumbers.1 (closed_items items),
        noStart_renderItems_iff hName after [','] items hNumbers.2 (by decide)]
      simp [hNone]

theorem noStart_renderMembers_iff (hName : PlainName name.toList) (after separator : List Char) :
    (members : List (String × Json)) → NumbersPrintMembers members → '"' ∉ separator →
      (NoStart (memberText name value) (renderMembers separator members) after ↔
        hasMemberMembers name value members = false)
  | [], _, _ => by
      simp only [renderMembers, hasMemberMembers, iff_true]
      exact noStart_of_not_mem (by decide)
  | (key, json) :: members, hNumbers, hSeparator => by
      have hText : renderMembers separator ((key, json) :: members) =
          separator ++ ((quoted key ++ ':' :: render json) ++ renderMembers [','] members) := by
        simp [renderMembers]
      have hNone : NoStart (memberText name value) separator
          ((quoted key ++ ':' :: render json) ++ renderMembers [','] members ++ after) :=
        noStart_of_not_mem hSeparator
      rw [hText, noStart_append, noStart_append,
        noStart_member_iff hName hNumbers.1 (closed_members members),
        noStart_render_iff hName _ json hNumbers.1 (closed_members members),
        noStart_renderMembers_iff hName after [','] members hNumbers.2 (by decide)]
      simp only [hNone, true_and, hasMemberMembers, Bool.or_eq_false_iff, Bool.and_eq_false_iff,
        decide_eq_false_iff_not, not_and_or, Bool.not_eq_true]

end

/-- Members of an object, without the end of it. -/
def renderPrefix (separator : List Char) : List (String × Json) → List Char
  | [] => []
  | (key, json) :: members =>
      separator ++ ((quoted key ++ ':' :: render json) ++ renderPrefix [','] members)

theorem renderMembers_append {separator : List Char} {members : List (String × Json)}
    (hNonempty : members ≠ []) (rest : List (String × Json)) :
    renderMembers separator (members ++ rest) =
      renderPrefix separator members ++ renderMembers [','] rest := by
  induction members generalizing separator with
  | nil => exact absurd rfl hNonempty
  | cons member members hInduction =>
      rcases member with ⟨key, json⟩
      cases members with
      | nil => simp [renderMembers, renderPrefix]
      | cons next more =>
          rw [List.cons_append, renderMembers, hInduction (by simp)]
          simp [renderPrefix]

theorem noStart_renderPrefix {separator : List Char} {members : List (String × Json)}
    (hName : PlainName name.toList) (hNumbers : NumbersPrintMembers members)
    (hSeparator : '"' ∉ separator) (hAfter : Closed after)
    (hNone : hasMemberMembers name value members = false) :
    NoStart (memberText name value) (renderPrefix separator members) after := by
  induction members generalizing separator with
  | nil => trivial
  | cons member members hInduction =>
      rcases member with ⟨key, json⟩
      simp only [hasMemberMembers, Bool.or_eq_false_iff] at hNone
      have hRest : Closed (renderPrefix [','] members ++ after) := by
        cases members with
        | nil => exact hAfter
        | cons next more => exact closed_cons (by decide) _
      rw [renderPrefix, noStart_append, noStart_append, noStart_member_iff hName hNumbers.1 hRest,
        noStart_render_iff hName _ json hNumbers.1 hRest]
      refine ⟨noStart_of_not_mem hSeparator, ⟨?_, hNone.1.2⟩,
        hInduction hNumbers.2 (by decide) hNone.2⟩
      rintro ⟨hKey, hLiteral⟩
      simp [hKey, hLiteral] at hNone

end

end Json

end PayKit.Encoding
