import PayKit.Challenge.HeaderRoundTrip

/-!
# Finding challenges in a header value

The scanner passes over every text of the grammar but the scheme `Payment` at the start of the
value or after a comma. A quoted text hides what it holds, a key is followed by `=` and not by
whitespace, and a value stands after `=`. So the chunks of a value are its payment challenges,
each with the challenges of other schemes that follow it.
-/

namespace PayKit.Challenge

open Charge Control Encoding

/-- A text before what was scanned after it. -/
def leading (text : List Char) (scanned : List Char × List (List Char)) :
    List Char × List (List Char) :=
  (text ++ scanned.1, scanned.2)

@[simp]
theorem leading_leading (first second : List Char) (scanned : List Char × List (List Char)) :
    leading first (leading second scanned) = leading (first ++ second) scanned := by
  simp [leading]

/-- No challenge starts within the text, wherever it stands. -/
def Silent (text : List Char) : Prop :=
  ∀ before rest, scan .outside before (text ++ rest) =
    leading text (scan .outside (text.reverse ++ before) rest)

theorem Silent.append {first second : List Char} (hFirst : Silent first)
    (hSecond : Silent second) : Silent (first ++ second) := by
  intro before rest
  rw [List.append_assoc, hFirst, hSecond, leading_leading]
  simp

theorem silent_nil : Silent [] := by
  intro before rest
  simp [leading]

theorem silent_flatMap {Part : Type} {parts : List Part} {text : Part → List Char}
    (hParts : ∀ part ∈ parts, Silent (text part)) : Silent (parts.flatMap text) := by
  induction parts with
  | nil => exact silent_nil
  | cons part parts hInduction =>
      rw [List.forall_mem_cons] at hParts
      rw [List.flatMap_cons]
      exact hParts.1.append (hInduction hParts.2)

/-! ### Characters and words -/

theorem scan_outside_cons {before rest : List Char} {char : Char} (hQuote : char ≠ '"')
    (hStart : isPaymentSchemeStart before (char :: rest) = false) :
    scan .outside before (char :: rest) = leading [char] (scan .outside (char :: before) rest) := by
  simp [scan, hQuote, hStart, leading]

theorem start_cases {before text : List Char} (hStart : isPaymentSchemeStart before text = true) :
    ∃ next rest, text.drop paymentScheme.length = next :: rest ∧
      isAsciiWhitespace next = true ∧
        eqIgnoreAsciiCase (String.ofList (text.take paymentScheme.length)) paymentScheme = true ∧
          (before.dropWhile isAsciiWhitespace).head?.all (· = ',') = true := by
  simp only [isPaymentSchemeStart] at hStart
  split at hStart
  · cases hStart
  · rename_i next rest hDrop
    simp only [Bool.and_eq_true] at hStart
    exact ⟨next, rest, hDrop, hStart.1.2, hStart.1.1, hStart.2⟩

theorem toLower_mem_of_scheme {text : List Char} {char : Char}
    (hScheme : eqIgnoreAsciiCase (String.ofList text) paymentScheme = true) (hChar : char ∈ text) :
    char.toLower ∈ "payment".toList := by
  simp only [eqIgnoreAsciiCase, decide_eq_true_eq] at hScheme
  have hLower := congrArg String.toList hScheme
  simp only [toList_toLower, String.toList_ofList] at hLower
  have hMem : char.toLower ∈ text.map Char.toLower := List.mem_map_of_mem hChar
  rw [hLower] at hMem
  exact hMem

theorem start_word {before word rest : List Char} {next : Char}
    (hWord : ∀ char ∈ word, IsTokenChar char) (hNext : next.toLower ∉ "payment".toList)
    (hStart : isPaymentSchemeStart before (word ++ next :: rest) = true) :
    eqIgnoreAsciiCase (String.ofList word) paymentScheme = true ∧
      isAsciiWhitespace next = true := by
  rcases start_cases hStart with ⟨found, later, hDrop, hBlank, hScheme, -⟩
  rcases Nat.lt_trichotomy word.length paymentScheme.length with hShort | hSame | hLong
  · -- the next character would be a letter of the scheme
    exfalso
    apply hNext
    apply toLower_mem_of_scheme hScheme
    rw [List.mem_take_iff_getElem]
    refine ⟨word.length, ?_, ?_⟩
    · simp only [List.length_append, List.length_cons]
      omega
    · simp
  · rw [List.drop_left' hSame] at hDrop
    rw [List.take_left' hSame] at hScheme
    cases hDrop
    exact ⟨hScheme, hBlank⟩
  · -- the character after the scheme would be one of the word
    exfalso
    have hFound : found = word[paymentScheme.length] := by
      have hHead := congrArg List.head? hDrop
      rw [List.head?_drop, List.getElem?_append_left hLong, List.getElem?_eq_getElem hLong] at hHead
      exact (Option.some.inj hHead).symm
    have hToken := hWord _ (List.getElem_mem hLong)
    rw [← hFound] at hToken
    have hWhite := isWhitespace_of_ascii hBlank
    rw [hToken.1] at hWhite
    cases hWhite

theorem silent_char {char : Char} (hQuote : char ≠ '"')
    (hLetter : char.toLower ∉ "payment".toList) : Silent [char] := by
  intro before rest
  apply scan_outside_cons hQuote
  by_contra hStart
  rw [Bool.not_eq_false] at hStart
  rcases start_cases hStart with ⟨-, -, -, -, hScheme, -⟩
  exact hLetter (toLower_mem_of_scheme hScheme (List.mem_cons_self))

theorem isAsciiWhitespace_of_token {char : Char} (hChar : IsTokenChar char) :
    isAsciiWhitespace char = false := by
  by_contra hBlank
  rw [Bool.not_eq_false] at hBlank
  have hWhite := isWhitespace_of_ascii hBlank
  rw [hChar.1] at hWhite
  cases hWhite

theorem scan_within {previous : Char} {before word rest : List Char}
    (hPrevious : isAsciiWhitespace previous = false ∧ previous ≠ ',')
    (hWord : ∀ char ∈ word, IsTokenChar char) :
    scan .outside (previous :: before) (word ++ rest) =
      leading word (scan .outside (word.reverse ++ previous :: before) rest) := by
  induction word generalizing previous before with
  | nil => simp [leading]
  | cons char word hInduction =>
      rw [List.forall_mem_cons] at hWord
      have hStart : isPaymentSchemeStart (previous :: before) (char :: (word ++ rest)) = false := by
        by_contra hStarts
        rw [Bool.not_eq_false] at hStarts
        rcases start_cases hStarts with ⟨-, -, -, -, -, hBoundary⟩
        rw [List.dropWhile_cons_of_neg (by simp [hPrevious.1])] at hBoundary
        simp [hPrevious.2] at hBoundary
      rw [List.cons_append, scan_outside_cons hWord.1.2.2.1 hStart,
        hInduction ⟨isAsciiWhitespace_of_token hWord.1, hWord.1.2.1⟩ hWord.2, leading_leading]
      simp

theorem scan_word {before word rest : List Char} {next : Char}
    (hWord : ∀ char ∈ word, IsTokenChar char) (hNext : next.toLower ∉ "payment".toList)
    (hOther : eqIgnoreAsciiCase (String.ofList word) paymentScheme = false ∨
      isAsciiWhitespace next = false) :
    scan .outside before (word ++ next :: rest) =
      leading word (scan .outside (word.reverse ++ before) (next :: rest)) := by
  cases word with
  | nil => simp [leading]
  | cons char word =>
      have hStart : isPaymentSchemeStart before (char :: word ++ next :: rest) = false := by
        by_contra hStarts
        rw [Bool.not_eq_false] at hStarts
        have hScheme := start_word hWord hNext hStarts
        rcases hOther with hScheme' | hBlank
        · rw [hScheme.1] at hScheme'
          cases hScheme'
        · rw [hScheme.2] at hBlank
          cases hBlank
      rw [List.forall_mem_cons] at hWord
      rw [List.cons_append] at hStart ⊢
      rw [scan_outside_cons hWord.1.2.2.1 hStart,
        scan_within ⟨isAsciiWhitespace_of_token hWord.1, hWord.1.2.1⟩ hWord.2, leading_leading]
      simp

/-! ### Quoted texts -/

theorem scan_quoted {before : List Char} (chars : List QuotedChar) (rest : List Char) :
    scan .quoted before (chars.flatMap QuotedChar.text ++ '"' :: rest) =
      leading (chars.flatMap QuotedChar.text ++ ['"'])
        (scan .outside ('"' :: ((chars.flatMap QuotedChar.text).reverse ++ before)) rest) := by
  induction chars generalizing before with
  | nil => simp [scan, leading]
  | cons char chars hInduction =>
      cases char with
      | plain char hPlain =>
          simp only [List.flatMap_cons, QuotedChar.text, List.cons_append,
            List.nil_append] at hInduction ⊢
          rw [scan]
          simp only [hPlain.1, hPlain.2, if_false]
          rw [hInduction]
          simp [leading]
      | escaped char =>
          simp only [List.flatMap_cons, QuotedChar.text, List.cons_append,
            List.nil_append] at hInduction ⊢
          rw [scan]
          simp only [if_true, scan]
          rw [hInduction]
          simp [leading]

theorem silent_quoted (chars : List QuotedChar) :
    Silent (ParamValue.quoted chars).text := by
  intro before rest
  have hText : (ParamValue.quoted chars).text ++ rest =
      '"' :: (chars.flatMap QuotedChar.text ++ '"' :: rest) := by
    simp [ParamValue.text]
  rw [hText, scan]
  simp only [if_true, scan_quoted]
  simp [leading, ParamValue.text]

/-! ### Parameters and challenges -/

theorem silent_param (param : AuthParam) : Silent param.text := by
  have hEquals : '='.toLower ∉ "payment".toList := by decide
  intro before rest
  have hText : param.text ++ rest = param.key.text ++ '=' :: (param.value.text ++ rest) := by
    simp [AuthParam.text]
  have hStart : isPaymentSchemeStart (param.key.text.reverse ++ before)
      ('=' :: (param.value.text ++ rest)) = false := by
    by_contra hStarts
    rw [Bool.not_eq_false] at hStarts
    rcases start_cases hStarts with ⟨-, -, -, -, hScheme, -⟩
    exact hEquals (toLower_mem_of_scheme hScheme (List.mem_cons_self))
  have hValue : scan .outside ('=' :: (param.key.text.reverse ++ before))
      (param.value.text ++ rest) = leading param.value.text
        (scan .outside (param.value.text.reverse ++ '=' :: (param.key.text.reverse ++ before))
          rest) := by
    cases param.value with
    | token word => exact scan_within (by decide) word.chars
    | quoted chars => exact silent_quoted chars _ _
  rw [hText, scan_word param.key.chars hEquals (.inr (by decide)),
    scan_outside_cons (by decide) hStart, hValue, leading_leading, leading_leading]
  simp [AuthParam.text]

theorem silent_blank {char : Char} (hBlank : IsBlank char) : Silent [char] := by
  rcases hBlank with rfl | rfl
  · exact silent_char (by decide) (by decide)
  · exact silent_char (by decide) (by decide)

theorem silent_blanks {blanks : List Char} (hBlanks : ∀ char ∈ blanks, IsBlank char) :
    Silent blanks := by
  have hSilent := silent_flatMap fun char hChar => silent_blank (hBlanks char hChar)
  rwa [List.flatMap_singleton'] at hSilent

theorem silent_gap (gap : Gap) : Silent gap.text := by
  have hBefore := silent_blanks fun char hChar => gap.blanks char (List.mem_append_left _ hChar)
  have hAfter := silent_blanks fun char hChar => gap.blanks char (List.mem_append_right _ hChar)
  have hComma : Silent [','] := silent_char (by decide) (by decide)
  exact hBefore.append (hComma.append hAfter)

theorem silent_paramsText (challenge : AuthChallenge) : Silent challenge.paramsText :=
  (silent_param challenge.first).append
    (silent_flatMap fun param _ => (silent_gap param.1).append (silent_param param.2))

theorem silent_challenge {challenge : AuthChallenge}
    (hOther : eqIgnoreAsciiCase (String.ofList challenge.scheme.text) paymentScheme = false) :
    Silent challenge.text := by
  intro before rest
  have hBlank := challenge.blanksOnly _ List.mem_cons_self
  have hLetter : challenge.blank.toLower ∉ "payment".toList := by
    rcases hBlank with hSpace | hTab
    · rw [hSpace]; decide
    · rw [hTab]; decide
  have hRest : Silent (challenge.blank :: challenge.blanks ++ challenge.paramsText) :=
    (silent_blanks challenge.blanksOnly).append (silent_paramsText challenge)
  have hText : challenge.text ++ rest = challenge.scheme.text ++
      challenge.blank :: (challenge.blanks ++ (challenge.paramsText ++ rest)) := by
    simp [AuthChallenge.text]
  have hScanned := hRest (challenge.scheme.text.reverse ++ before) rest
  simp only [List.cons_append, List.append_assoc] at hScanned
  rw [hText, scan_word challenge.scheme.chars hLetter (.inl hOther), hScanned, leading_leading]
  simp [AuthChallenge.text]

/-! ### The start of a challenge -/

/-- A challenge may start: only whitespace stands between here and the start or a comma. -/
def AtBoundary (before : List Char) : Prop :=
  (before.dropWhile isAsciiWhitespace).head?.all (· = ',') = true

theorem atBoundary_gap (gap : Gap) (before : List Char) :
    AtBoundary (gap.text.reverse ++ before) := by
  have hAfter : ∀ char ∈ gap.after.reverse, isAsciiWhitespace char = true := fun char hChar =>
    (gap.blanks char (List.mem_append_right _ (List.mem_reverse.mp hChar))).isAsciiWhitespace
  have hText : gap.text.reverse ++ before =
      gap.after.reverse ++ ',' :: (gap.before.reverse ++ before) := by
    simp [Gap.text]
  rw [AtBoundary, hText, List.dropWhile_append_of_pos hAfter, List.dropWhile_cons_of_neg (by decide)]
  rfl

theorem scan_scheme_zero (before text : List Char) :
    scan (.scheme 0) before text = scan .outside before text := by
  cases text with
  | nil => simp [scan]
  | cons char text => simp only [scan]

theorem scan_start {before rest : List Char} (hBoundary : AtBoundary before) :
    scan .outside before (paymentScheme.toList ++ ' ' :: rest) =
      ([], (paymentScheme.toList ++
          (scan .outside (paymentScheme.toList.reverse ++ before) (' ' :: rest)).1) ::
        (scan .outside (paymentScheme.toList.reverse ++ before) (' ' :: rest)).2) := by
  have hStart : isPaymentSchemeStart before (paymentScheme.toList ++ ' ' :: rest) = true := by
    have hTake : (paymentScheme.toList ++ ' ' :: rest).take paymentScheme.length =
        paymentScheme.toList := List.take_left' rfl
    have hDrop : (paymentScheme.toList ++ ' ' :: rest).drop paymentScheme.length = ' ' :: rest :=
      List.drop_left' rfl
    simp only [isPaymentSchemeStart, hDrop, hTake, String.ofList_toList]
    simp only [AtBoundary] at hBoundary
    simp [eqIgnoreAsciiCase, isAsciiWhitespace, hBoundary]
  have hLetters : paymentScheme.toList = ['P', 'a', 'y', 'm', 'e', 'n', 't'] := rfl
  have hLength : paymentScheme.length - 1 = 6 := rfl
  rw [hLetters] at hStart ⊢
  simp only [List.cons_append, List.nil_append] at hStart ⊢
  rw [scan]
  simp only [hStart, hLength, if_true, scan, scan_scheme_zero]
  simp

theorem scan_payment {before rest : List Char} (challenge : PaymentChallenge)
    (hBoundary : AtBoundary before) :
    scan .outside before ((paymentAuth challenge).text ++ rest) =
      ([], ((paymentAuth challenge).text ++
          (scan .outside ((paymentAuth challenge).text.reverse ++ before) rest).1) ::
        (scan .outside ((paymentAuth challenge).text.reverse ++ before) rest).2) := by
  have hSilent : Silent (' ' :: (paymentAuth challenge).paramsText) :=
    (silent_blank (.inl rfl)).append (silent_paramsText _)
  have hText : (paymentAuth challenge).text =
      paymentScheme.toList ++ ' ' :: (paymentAuth challenge).paramsText := by
    simp [AuthChallenge.text, paymentAuth, paymentToken, keyToken]
  have hScanned := hSilent (paymentScheme.toList.reverse ++ before) rest
  simp only [List.cons_append] at hScanned
  rw [hText, List.append_assoc, List.cons_append, scan_start hBoundary, hScanned]
  simp [leading]

end PayKit.Challenge
