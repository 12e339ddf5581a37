import PayKit.Challenge.Headers

/-!
# Reading the parameters of challenges

The reader of parameters takes the texts of the grammar for what they stand for: a parameter
with its key and its value, and nothing where there is a comma or the scheme of a further
challenge. It does not see where that challenge begins, and so it takes the parameters of the
other schemes up to the next payment challenge for parameters of the payment challenge.
-/

namespace PayKit.Challenge

open Charge Control Encoding

/-! ### Characters -/

theorem isSeparator_of_token {char : Char} (hChar : IsTokenChar char) :
    isSeparator char = false := by
  simp [isSeparator, hChar.1, hChar.2.1]

theorem isKeyChar_of_token {char : Char} (hChar : IsTokenChar char) :
    isKeyChar char = true := by
  simp [isKeyChar, hChar.1, hChar.2.2.2]

theorem isValueChar_of_token {char : Char} (hChar : IsTokenChar char) :
    isValueChar char = true := by
  simp [isValueChar, hChar.1, hChar.2.1]

/-- The text ends, or goes on with whitespace or a comma. -/
def Separated (rest : List Char) : Prop :=
  ∀ char ∈ rest.head?, isSeparator char = true

theorem Separated.isValueChar {rest : List Char} (hRest : Separated rest) :
    ∀ char ∈ rest.head?, isValueChar char = false := by
  intro char hChar
  have hSeparator := hRest char hChar
  simp only [isSeparator, Bool.or_eq_true, decide_eq_true_eq] at hSeparator
  rcases hSeparator with hBlank | rfl
  · simp [Challenge.isValueChar, hBlank]
  · decide

theorem dropWhile_append_of_head {kind : Char → Bool} {text rest : List Char}
    (hText : ∀ char ∈ text, kind char = true) (hRest : ∀ char ∈ rest.head?, kind char = false) :
    (text ++ rest).dropWhile kind = rest := by
  rw [List.dropWhile_append_of_pos hText]
  cases rest with
  | nil => rfl
  | cons char rest => exact List.dropWhile_cons_of_neg (by simp [hRest char rfl])

theorem takeWhile_append_of_head {kind : Char → Bool} {text rest : List Char}
    (hText : ∀ char ∈ text, kind char = true) (hRest : ∀ char ∈ rest.head?, kind char = false) :
    (text ++ rest).takeWhile kind = text := by
  rw [List.takeWhile_append_of_pos hText]
  cases rest with
  | nil => simp
  | cons char rest => simp [hRest char rfl]

/-! ### Values -/

theorem quotedValue_chars (chars : List QuotedChar) (rest : List Char) :
    quotedValue (chars.flatMap QuotedChar.text ++ '"' :: rest) =
      (chars.map QuotedChar.value, rest) := by
  induction chars with
  | nil => simp [quotedValue]
  | cons char chars hInduction =>
      cases char with
      | plain char hPlain =>
          simp only [List.flatMap_cons, QuotedChar.text, List.cons_append, List.nil_append,
            List.map_cons, QuotedChar.value]
          rw [quotedValue, hInduction]
          · exact hPlain.1
          · intro next text hEscape
            exact absurd hEscape hPlain.2
      | escaped char =>
          simp only [List.flatMap_cons, QuotedChar.text, List.cons_append, List.nil_append,
            List.map_cons, QuotedChar.value]
          rw [quotedValue, hInduction]

theorem readValue_text (value : ParamValue) {rest : List Char} (hRest : Separated rest) :
    readValue (value.text ++ rest) = (value.value, rest) := by
  cases value with
  | token word =>
      have hWord : ∀ char ∈ word.text, isValueChar char = true :=
        fun char hChar => isValueChar_of_token (word.chars char hChar)
      have hNoQuote : ∀ text, word.text ++ rest ≠ '"' :: text := by
        intro text hQuote
        cases hText : word.text with
        | nil => exact word.nonempty hText
        | cons char chars =>
            rw [hText, List.cons_append] at hQuote
            have hChar := word.chars char (by simp [hText])
            exact hChar.2.2.1 (List.cons.inj hQuote).1
      simp only [ParamValue.text, ParamValue.value]
      rw [readValue]
      · rw [takeWhile_append_of_head hWord hRest.isValueChar,
          dropWhile_append_of_head hWord hRest.isValueChar]
      · exact hNoQuote
  | quoted chars =>
      simp only [ParamValue.text, ParamValue.value, List.cons_append, List.append_assoc,
        List.nil_append, readValue]
      exact quotedValue_chars chars rest

/-! ### Parameters -/

theorem readParams_eq (params : List (String × String)) (chars : List Char) :
    readParams params chars =
      match chars.dropWhile isSeparator with
      | [] => .ok params
      | first :: rest =>
          match (first :: rest).dropWhile isKeyChar with
          | [] => .ok params
          | next :: text =>
              if next = '=' then
                if text.isEmpty then .ok params
                else if (params.lookup (String.ofList ((first :: rest).takeWhile isKeyChar))).isSome
                then
                  .error ("Duplicate parameter: " ++
                    String.ofList ((first :: rest).takeWhile isKeyChar))
                else
                  readParams (params ++ [(String.ofList ((first :: rest).takeWhile isKeyChar),
                    String.ofList (readValue text).1)]) (readValue text).2
              else readParams params ((next :: text).dropWhile isValueChar) := by
  rw [readParams]
  split
  · rename_i hText
    rw [hText]
  · rename_i first rest hText
    rw [hText]
    simp only
    split
    · rename_i hKey
      rw [hKey]
    · rename_i next text hKey
      rw [hKey]
      simp only [dite_eq_ite]

theorem readParams_separators {params : List (String × String)} {skipped rest : List Char}
    (hSkipped : ∀ char ∈ skipped, isSeparator char = true) :
    readParams params (skipped ++ rest) = readParams params rest := by
  rw [readParams_eq, readParams_eq params rest, List.dropWhile_append_of_pos hSkipped]

def readParam (params : List (String × String)) (param : AuthParam) :
    Except String (List (String × String)) :=
  if (params.lookup (String.ofList param.key.text)).isSome then
    .error ("Duplicate parameter: " ++ String.ofList param.key.text)
  else
    .ok (params ++ [(String.ofList param.key.text, String.ofList param.value.value)])

theorem readParams_param {params : List (String × String)} (param : AuthParam) {rest : List Char}
    (hRest : Separated rest) :
    readParams params (param.text ++ rest) =
      readParam params param >>= fun params => readParams params rest := by
  have hKeyChars : ∀ char ∈ param.key.text, isKeyChar char = true :=
    fun char hChar => isKeyChar_of_token (param.key.chars char hChar)
  cases hKey : param.key.text with
  | nil => exact absurd hKey param.key.nonempty
  | cons first key =>
      have hFirst : isSeparator first = false :=
        isSeparator_of_token (param.key.chars first (by simp [hKey]))
      have hText : param.text ++ rest = first :: (key ++ '=' :: (param.value.text ++ rest)) := by
        simp [AuthParam.text, hKey]
      have hTake : (first :: (key ++ '=' :: (param.value.text ++ rest))).takeWhile isKeyChar =
          first :: key := by
        rw [← List.cons_append, ← hKey]
        exact takeWhile_append_of_head hKeyChars (by simp [isKeyChar])
      have hDrop : (first :: (key ++ '=' :: (param.value.text ++ rest))).dropWhile isKeyChar =
          '=' :: (param.value.text ++ rest) := by
        rw [← List.cons_append, ← hKey]
        exact dropWhile_append_of_head hKeyChars (by simp [isKeyChar])
      have hValue : (param.value.text ++ rest).isEmpty = false := by
        simp [param.value.text_ne_nil]
      rw [hText, readParams_eq, List.dropWhile_cons_of_neg (by simp [hFirst])]
      simp only [hTake, hDrop, hValue, readValue_text param.value hRest, readParam, hKey]
      by_cases hSeen : (params.lookup (String.ofList (first :: key))).isSome = true
      · simp only [hSeen, if_true]
        rfl
      · simp only [hSeen, if_true]
        rfl

/-! ### Lists of parameters and of challenges -/

theorem isSeparator_of_blank {char : Char} (hBlank : IsBlank char) : isSeparator char = true := by
  simp [isSeparator, hBlank.isWhitespace]

theorem isSeparator_of_mem_gap {gap : Gap} {char : Char} (hChar : char ∈ gap.text) :
    isSeparator char = true := by
  simp only [Gap.text, List.mem_append, List.mem_cons] at hChar
  rcases hChar with hBefore | rfl | hAfter
  · exact isSeparator_of_blank (gap.blanks char (List.mem_append_left _ hBefore))
  · decide
  · exact isSeparator_of_blank (gap.blanks char (List.mem_append_right _ hAfter))

theorem separated_nil : Separated [] := by
  intro char hChar
  cases hChar

theorem separated_gap (gap : Gap) (rest : List Char) : Separated (gap.text ++ rest) := by
  intro char hChar
  have hGap : char ∈ gap.text := by
    cases hText : gap.text with
    | nil => simp [Gap.text] at hText
    | cons first text =>
        rw [hText, List.cons_append] at hChar
        cases hChar
        exact List.mem_cons_self
  exact isSeparator_of_mem_gap hGap

theorem readParams_gap {params : List (String × String)} (gap : Gap) (rest : List Char) :
    readParams params (gap.text ++ rest) = readParams params rest :=
  readParams_separators fun _ hChar => isSeparator_of_mem_gap hChar

theorem separated_further (further : List (Gap × AuthParam)) {rest : List Char}
    (hRest : Separated rest) : Separated (AuthChallenge.furtherText further ++ rest) := by
  cases further with
  | nil => exact hRest
  | cons param further =>
      simp only [AuthChallenge.furtherText, List.flatMap_cons, List.append_assoc]
      exact separated_gap _ _

theorem readParams_further {params : List (String × String)} (further : List (Gap × AuthParam))
    {rest : List Char} (hRest : Separated rest) :
    readParams params (AuthChallenge.furtherText further ++ rest) =
      (further.map Prod.snd).foldlM readParam params >>= fun params => readParams params rest := by
  induction further generalizing params with
  | nil => rfl
  | cons param further hInduction =>
      have hText : AuthChallenge.furtherText (param :: further) ++ rest =
          param.1.text ++ (param.2.text ++ (AuthChallenge.furtherText further ++ rest)) := by
        simp [AuthChallenge.furtherText]
      rw [hText, readParams_gap, readParams_param param.2 (separated_further further hRest)]
      simp only [List.map_cons, List.foldlM_cons, bind_assoc, hInduction]

theorem readParams_paramsText {params : List (String × String)} (challenge : AuthChallenge)
    {rest : List Char} (hRest : Separated rest) :
    readParams params (challenge.paramsText ++ rest) =
      challenge.params.foldlM readParam params >>= fun params => readParams params rest := by
  simp only [AuthChallenge.paramsText, AuthChallenge.params, List.append_assoc,
    List.foldlM_cons, bind_assoc]
  rw [readParams_param challenge.first (separated_further challenge.rest hRest)]
  simp only [readParams_further challenge.rest hRest]

theorem readParams_scheme {params : List (String × String)} (scheme : Token) {blank : Char}
    (hBlank : IsBlank blank) (rest : List Char) :
    readParams params (scheme.text ++ blank :: rest) = readParams params rest := by
  have hKeyChars : ∀ char ∈ scheme.text, isKeyChar char = true :=
    fun char hChar => isKeyChar_of_token (scheme.chars char hChar)
  have hBlankKey : isKeyChar blank = false := by simp [isKeyChar, hBlank.isWhitespace]
  have hBlankValue : isValueChar blank = false := by simp [isValueChar, hBlank.isWhitespace]
  have hEquals : blank ≠ '=' := by rcases hBlank with rfl | rfl <;> decide
  cases hScheme : scheme.text with
  | nil => exact absurd hScheme scheme.nonempty
  | cons first text =>
      have hFirst : isSeparator first = false :=
        isSeparator_of_token (scheme.chars first (by simp [hScheme]))
      have hDrop : (first :: (text ++ blank :: rest)).dropWhile isKeyChar = blank :: rest := by
        rw [← List.cons_append, ← hScheme]
        exact dropWhile_append_of_head hKeyChars (by simpa using hBlankKey)
      rw [List.cons_append, readParams_eq, List.dropWhile_cons_of_neg (by simp [hFirst])]
      simp only [hDrop, if_neg hEquals]
      rw [List.dropWhile_cons_of_neg (by simp [hBlankValue])]
      have hSkipped : ∀ char ∈ [blank], isSeparator char = true := by
        simpa using isSeparator_of_blank hBlank
      exact readParams_separators hSkipped

theorem readParams_challenge {params : List (String × String)} (challenge : AuthChallenge)
    {rest : List Char} (hRest : Separated rest) :
    readParams params (challenge.text ++ rest) =
      challenge.params.foldlM readParam params >>= fun params => readParams params rest := by
  have hBlanks : ∀ char ∈ challenge.blanks, isSeparator char = true := fun char hChar =>
    isSeparator_of_blank (challenge.blanksOnly char (List.mem_cons_of_mem _ hChar))
  have hText : challenge.text ++ rest = challenge.scheme.text ++
      challenge.blank :: (challenge.blanks ++ (challenge.paramsText ++ rest)) := by
    simp [AuthChallenge.text]
  rw [hText, readParams_scheme _ (challenge.blanksOnly _ List.mem_cons_self),
    readParams_separators hBlanks, readParams_paramsText challenge hRest]

theorem separated_textAfter (challenges : List (Gap × AuthChallenge)) :
    Separated (AuthChallenge.textAfter challenges) := by
  cases challenges with
  | nil => exact separated_nil
  | cons challenge challenges =>
      simp only [AuthChallenge.textAfter, List.flatMap_cons, List.append_assoc]
      exact separated_gap _ _

theorem readParams_textAfter {params : List (String × String)}
    (challenges : List (Gap × AuthChallenge)) :
    readParams params (AuthChallenge.textAfter challenges) =
      (challenges.flatMap (·.2.params)).foldlM readParam params := by
  induction challenges generalizing params with
  | nil =>
      rw [readParams_eq]
      rfl
  | cons challenge challenges hInduction =>
      have hText : AuthChallenge.textAfter (challenge :: challenges) =
          challenge.1.text ++ (challenge.2.text ++ AuthChallenge.textAfter challenges) := by
        simp [AuthChallenge.textAfter]
      rw [hText, readParams_gap, readParams_challenge challenge.2 (separated_textAfter challenges),
        List.flatMap_cons, List.foldlM_append]
      simp only [hInduction]

end PayKit.Challenge
