import Mathlib.Data.List.DropRight
import Mathlib.Data.List.TakeWhile
import Mathlib.Tactic

/-!
# Authentication challenges as texts

The grammar of a `WWW-Authenticate` value: challenges are separated by commas, and a challenge is
a scheme with parameters that are separated by commas as well. A parameter is a key with a token
or with a quoted text, in which any character may be escaped. Spaces and tabs may stand around
the commas.

The types carry what makes a text of the grammar, so that each of their values can be written.
-/

namespace PayKit.Encoding

/-! ### Whitespace -/

/-- `White_Space` of Unicode. -/
def isWhitespace (char : Char) : Bool :=
  let code := char.toNat
  (9 ≤ code ∧ code ≤ 13) ∨ code = 32 ∨ code = 133 ∨ code = 160 ∨ code = 5760 ∨
    (8192 ≤ code ∧ code ≤ 8202) ∨ code = 8232 ∨ code = 8233 ∨ code = 8239 ∨ code = 8287 ∨
      code = 12288

def isAsciiWhitespace (char : Char) : Bool :=
  char ∈ [' ', '\t', '\n', '\x0c', '\r']

def trimStart (text : List Char) : List Char :=
  text.dropWhile isWhitespace

def trim (text : List Char) : List Char :=
  (trimStart text).rdropWhile isWhitespace

theorem isWhitespace_of_ascii {char : Char} (hAscii : isAsciiWhitespace char = true) :
    isWhitespace char = true := by
  simp only [isAsciiWhitespace, List.mem_cons, List.not_mem_nil, or_false,
    decide_eq_true_eq] at hAscii
  rcases hAscii with rfl | rfl | rfl | rfl | rfl <;> decide

theorem trimStart_of_head {char : Char} {text : List Char} (hFirst : isWhitespace char = false) :
    trimStart (char :: text) = char :: text := by
  simp [trimStart, hFirst]

theorem rdropWhile_append_of_pos {isTrimmed : Char → Bool} {text ending : List Char}
    (hEnding : ∀ char ∈ ending, isTrimmed char = true)
    (hLast : ∀ char ∈ text.getLast?, isTrimmed char = false) :
    (text ++ ending).rdropWhile isTrimmed = text := by
  rw [List.rdropWhile, List.reverse_append, List.dropWhile_append_of_pos]
  · cases hReverse : text.reverse with
    | nil => rw [List.reverse_eq_nil_iff.mp hReverse]; rfl
    | cons last rest =>
        have hEnd : text.getLast? = some last := by
          rw [← List.head?_reverse, hReverse]
          rfl
        rw [List.dropWhile_cons_of_neg (by simp [hLast last hEnd]), ← hReverse,
          List.reverse_reverse]
  · intro char hChar
    exact hEnding char (List.mem_reverse.mp hChar)

/-! ### The grammar -/

/-- A character of a token. -/
def IsTokenChar (char : Char) : Prop :=
  isWhitespace char = false ∧ char ≠ ',' ∧ char ≠ '"' ∧ char ≠ '='

instance : DecidablePred IsTokenChar :=
  fun _ => inferInstanceAs (Decidable (_ ∧ _))

def IsBlank (char : Char) : Prop :=
  char = ' ' ∨ char = '\t'

structure Token where
  text : List Char
  nonempty : text ≠ []
  chars : ∀ char ∈ text, IsTokenChar char

/-- A character of a quoted text. -/
inductive QuotedChar where
  | plain (char : Char) (hPlain : char ≠ '"' ∧ char ≠ '\\')
  | escaped (char : Char)

def QuotedChar.text : QuotedChar → List Char
  | plain char _ => [char]
  | escaped char => ['\\', char]

def QuotedChar.value : QuotedChar → Char
  | plain char _ | escaped char => char

inductive ParamValue where
  | token (token : Token)
  | quoted (chars : List QuotedChar)

def ParamValue.text : ParamValue → List Char
  | .token word => word.text
  | .quoted chars => '"' :: (chars.flatMap QuotedChar.text ++ ['"'])

/-- What the value stands for. -/
def ParamValue.value : ParamValue → List Char
  | .token word => word.text
  | .quoted chars => chars.map QuotedChar.value

structure AuthParam where
  key : Token
  value : ParamValue

def AuthParam.text (param : AuthParam) : List Char :=
  param.key.text ++ '=' :: param.value.text

/-- A comma with the blanks around it. -/
structure Gap where
  before : List Char
  after : List Char
  blanks : ∀ char ∈ before ++ after, IsBlank char

def Gap.text (gap : Gap) : List Char :=
  gap.before ++ ',' :: gap.after

/-- A scheme with its parameters, and the blanks between the two. -/
structure AuthChallenge where
  scheme : Token
  blank : Char
  blanks : List Char
  blanksOnly : ∀ char ∈ blank :: blanks, IsBlank char
  first : AuthParam
  rest : List (Gap × AuthParam)

namespace AuthChallenge

variable (challenge : AuthChallenge)

/-- Parameters that each follow a comma. -/
def furtherText (params : List (Gap × AuthParam)) : List Char :=
  params.flatMap fun param => param.1.text ++ param.2.text

def paramsText : List Char :=
  challenge.first.text ++ furtherText challenge.rest

def text : List Char :=
  challenge.scheme.text ++ challenge.blank :: challenge.blanks ++ challenge.paramsText

def params : List AuthParam :=
  challenge.first :: challenge.rest.map Prod.snd

/-- Challenges that each follow a comma. -/
def textAfter (challenges : List (Gap × AuthChallenge)) : List Char :=
  challenges.flatMap fun challenge => challenge.1.text ++ challenge.2.text

end AuthChallenge

/-! ### Ends of texts -/

theorem isBlank_space : ∀ char ∈ [' '], IsBlank char := by
  simp [IsBlank]

theorem IsBlank.isWhitespace {char : Char} (hBlank : IsBlank char) : isWhitespace char = true := by
  rcases hBlank with rfl | rfl <;> decide

theorem IsBlank.isAsciiWhitespace {char : Char} (hBlank : IsBlank char) :
    isAsciiWhitespace char = true := by
  rcases hBlank with rfl | rfl <;> decide

theorem ParamValue.text_ne_nil (value : ParamValue) : value.text ≠ [] := by
  cases value with
  | token word => exact word.nonempty
  | quoted chars => simp [ParamValue.text]

end PayKit.Encoding
