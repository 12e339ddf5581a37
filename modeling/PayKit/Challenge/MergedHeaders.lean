import PayKit.Challenge.HeaderScan

/-!
# Challenges of several schemes in one header

A header value is a list of challenges, some of which are payment challenges. What is found in
it are the payment challenges in their order, each as it was written. A challenge of another
scheme is passed over where it stands before the first payment challenge. After one, its
parameters are read as if they were those of the payment challenge: they must have other keys,
and each key only once, for that challenge to be read.
-/

namespace PayKit.Challenge

open Charge Control Encoding

inductive HeaderItem where
  | payment (challenge : PaymentChallenge)
  | other (challenge : AuthChallenge)
      (hScheme : eqIgnoreAsciiCase (String.ofList challenge.scheme.text) paymentScheme = false)

/-- A header value: challenges with commas between them. -/
structure HeaderValue where
  first : HeaderItem
  rest : List (Gap × HeaderItem)

def HeaderItem.written : HeaderItem → Except String (List Char)
  | payment challenge => formatWwwAuthenticate challenge
  | other challenge _ => .ok challenge.text

def HeaderValue.written (value : HeaderValue) : Except String (List Char) := do
  let first ← value.first.written
  let rest ← value.rest.mapM fun item => item.2.written.map (item.1.text ++ ·)
  return first ++ rest.flatten

def HeaderItem.payments : HeaderItem → List PaymentChallenge
  | payment challenge => [challenge]
  | other _ _ => []

/-- The challenges of a value; there is no comma before the first one. -/
def HeaderValue.items (value : HeaderValue) : List (Gap × HeaderItem) :=
  (⟨[], [], by simp⟩, value.first) :: value.rest

/-- The payment challenges of a value. -/
def HeaderValue.payments (value : HeaderValue) : List PaymentChallenge :=
  value.items.flatMap (·.2.payments)

/-- The challenges up to the next payment challenge. -/
def followers : List (Gap × HeaderItem) → List (Gap × AuthChallenge)
  | (gap, .other challenge _) :: items => (gap, challenge) :: followers items
  | _ => []

/-- Each payment challenge of the items is followed by unrelated challenges. -/
def Undisturbed : List (Gap × HeaderItem) → Prop
  | [] => True
  | (_, .other _ _) :: items => Undisturbed items
  | (_, .payment _) :: items => UnrelatedKeys (followers items) ∧ Undisturbed items

/-! ### The text of a value -/

def HeaderItem.auth : HeaderItem → AuthChallenge
  | payment challenge => paymentAuth challenge
  | other challenge _ => challenge

def itemsText (items : List (Gap × HeaderItem)) : List Char :=
  items.flatMap fun item => item.1.text ++ item.2.auth.text

theorem HeaderItem.written_eq {item : HeaderItem}
    (hLines : ∀ challenge ∈ item.payments, SingleLined challenge) :
    item.written = .ok item.auth.text := by
  cases item with
  | payment challenge =>
      exact formatWwwAuthenticate_eq (hLines challenge (by simp [payments]))
  | other challenge hScheme => rfl

theorem mapM_written {items : List (Gap × HeaderItem)}
    (hLines : ∀ challenge ∈ items.flatMap (·.2.payments), SingleLined challenge) :
    (items.mapM fun item => item.2.written.map (item.1.text ++ ·)) =
      .ok (items.map fun item => item.1.text ++ item.2.auth.text) := by
  induction items with
  | nil => rfl
  | cons item items hInduction =>
      rw [List.flatMap_cons] at hLines
      have hItem := HeaderItem.written_eq fun challenge hChallenge =>
        hLines challenge (List.mem_append_left _ hChallenge)
      rw [List.mapM_cons, hItem, hInduction fun challenge hChallenge =>
        hLines challenge (List.mem_append_right _ hChallenge)]
      rfl

theorem HeaderValue.written_eq {value : HeaderValue}
    (hLines : ∀ challenge ∈ value.payments, SingleLined challenge) :
    value.written = .ok (value.first.auth.text ++ itemsText value.rest) := by
  have hFirst := HeaderItem.written_eq fun challenge hChallenge =>
    hLines challenge (List.mem_append_left _ hChallenge)
  have hRest := mapM_written fun challenge hChallenge =>
    hLines challenge (List.mem_append_right _ hChallenge)
  rw [written, hFirst, hRest]
  simp only [itemsText, List.flatMap_def]
  rfl

/-! ### Its chunks -/

/-- The text up to the next payment challenge. -/
def leadingText : List (Gap × HeaderItem) → List Char
  | [] => []
  | (gap, .other challenge _) :: items => gap.text ++ (challenge.text ++ leadingText items)
  | (gap, .payment _) :: _ => gap.text

/-- The payment challenges, each with the text up to the next one. -/
def chunks : List (Gap × HeaderItem) → List (List Char)
  | [] => []
  | (_, .other _ _) :: items => chunks items
  | (_, .payment challenge) :: items =>
      ((paymentAuth challenge).text ++ leadingText items) :: chunks items

theorem scan_items (items : List (Gap × HeaderItem)) (before : List Char) :
    scan .outside before (itemsText items) = (leadingText items, chunks items) := by
  induction items generalizing before with
  | nil => simp [itemsText, scan, leadingText, chunks]
  | cons item items hInduction =>
      rcases item with ⟨gap, item⟩
      have hText : itemsText ((gap, item) :: items) =
          gap.text ++ (item.auth.text ++ itemsText items) := by
        simp [itemsText]
      rw [hText, silent_gap gap]
      cases item with
      | payment challenge =>
          simp only [HeaderItem.auth, leadingText, chunks]
          rw [scan_payment challenge (atBoundary_gap gap before), hInduction]
          simp [leading]
      | other challenge hScheme =>
          simp only [HeaderItem.auth, leadingText, chunks]
          rw [silent_challenge hScheme, hInduction]
          simp [leading]

theorem scan_value (value : HeaderValue) :
    (scan .outside [] (value.first.auth.text ++ itemsText value.rest)).2 =
      chunks value.items := by
  rw [HeaderValue.items]
  cases hFirst : value.first with
  | payment challenge =>
      simp only [HeaderItem.auth, chunks]
      rw [scan_payment challenge (by simp [AtBoundary]), scan_items]
  | other challenge hScheme =>
      simp only [HeaderItem.auth, chunks]
      rw [silent_challenge hScheme, scan_items]
      rfl

/-! ### Trimming them -/

/-- The text ends with a character that is not trimmed. -/
def EndsFirmly (text : List Char) : Prop :=
  ∀ char ∈ text.getLast?, isWhitespace char = false ∧ char ≠ ','

theorem EndsFirmly.append {first second : List Char} (hSecond : EndsFirmly second)
    (hNonempty : second ≠ []) : EndsFirmly (first ++ second) := by
  intro char hChar
  rw [List.getLast?_append_of_ne_nil _ hNonempty] at hChar
  exact hSecond char hChar

theorem endsFirmly_value (value : ParamValue) : EndsFirmly value.text := by
  intro char hChar
  cases value with
  | token word =>
      have hToken := word.chars char (List.mem_of_getLast? hChar)
      exact ⟨hToken.1, hToken.2.1⟩
  | quoted chars =>
      have hText : (ParamValue.quoted chars).text =
          ('"' :: chars.flatMap QuotedChar.text) ++ ['"'] := rfl
      rw [hText, List.getLast?_concat] at hChar
      cases hChar
      decide

theorem endsFirmly_param (param : AuthParam) : EndsFirmly param.text := by
  have hText : param.text = (param.key.text ++ ['=']) ++ param.value.text := by
    simp [AuthParam.text]
  rw [hText]
  exact (endsFirmly_value param.value).append param.value.text_ne_nil

theorem AuthParam.text_ne_nil (param : AuthParam) : param.text ≠ [] := by
  simp [AuthParam.text]

theorem endsFirmly_further {text : List Char} (hText : EndsFirmly text)
    (further : List (Gap × AuthParam)) :
    EndsFirmly (text ++ AuthChallenge.furtherText further) := by
  induction further generalizing text with
  | nil => simpa [AuthChallenge.furtherText] using hText
  | cons param further hInduction =>
      have hParam : EndsFirmly (text ++ (param.1.text ++ param.2.text)) := by
        rw [← List.append_assoc]
        exact (endsFirmly_param param.2).append (AuthParam.text_ne_nil _)
      have hLater := hInduction hParam
      simpa [AuthChallenge.furtherText] using hLater

theorem endsFirmly_challenge (challenge : AuthChallenge) : EndsFirmly challenge.text := by
  have hParams := endsFirmly_further (endsFirmly_param challenge.first) challenge.rest
  have hText : challenge.text =
      (challenge.scheme.text ++ challenge.blank :: challenge.blanks) ++ challenge.paramsText := by
    simp [AuthChallenge.text]
  have hNonempty : challenge.paramsText ≠ [] := by
    simp [AuthChallenge.paramsText, AuthParam.text_ne_nil]
  rw [hText]
  exact EndsFirmly.append hParams hNonempty

theorem endsFirmly_textAfter {text : List Char} (hText : EndsFirmly text)
    (challenges : List (Gap × AuthChallenge)) :
    EndsFirmly (text ++ AuthChallenge.textAfter challenges) := by
  induction challenges generalizing text with
  | nil => simpa [AuthChallenge.textAfter] using hText
  | cons challenge challenges hInduction =>
      have hNonempty : challenge.2.text ≠ [] := by
        simp [AuthChallenge.text]
      have hChallenge : EndsFirmly (text ++ (challenge.1.text ++ challenge.2.text)) := by
        rw [← List.append_assoc]
        exact (endsFirmly_challenge challenge.2).append hNonempty
      have hLater := hInduction hChallenge
      simpa [AuthChallenge.textAfter] using hLater

/-- What is left of a chunk when its end is trimmed. -/
def trimmed (chunk : List Char) : List Char :=
  trim ((trim chunk).rdropWhile (· = ','))

theorem trim_firm {first : Char} {text blanks : List Char} (hFirst : isWhitespace first = false)
    (hFirm : EndsFirmly (first :: text)) (hBlanks : ∀ char ∈ blanks, IsBlank char) :
    trim (first :: text ++ blanks) = first :: text := by
  rw [trim, List.cons_append, trimStart_of_head hFirst, ← List.cons_append]
  exact rdropWhile_append_of_pos (fun char hChar => (hBlanks char hChar).isWhitespace)
    fun char hChar => (hFirm char hChar).1

theorem trimmed_firm {first : Char} {text : List Char} (hFirst : isWhitespace first = false)
    (hFirm : EndsFirmly (first :: text)) : trimmed (first :: text) = first :: text := by
  have hTrim : trim (first :: text ++ []) = first :: text := trim_firm hFirst hFirm (by simp)
  have hCommas : (first :: text).rdropWhile (· = ',') = first :: text := by
    have hKept : (first :: text ++ []).rdropWhile (· = ',') = first :: text :=
      rdropWhile_append_of_pos (by simp) fun char hChar => by simpa using (hFirm char hChar).2
    rwa [List.append_nil] at hKept
  rw [List.append_nil] at hTrim
  rw [trimmed, hTrim, hCommas, hTrim]

theorem trimmed_gap {first : Char} {text : List Char} (hFirst : isWhitespace first = false)
    (hFirm : EndsFirmly (first :: text)) (gap : Gap) :
    trimmed (first :: text ++ gap.text) = first :: text := by
  have hBefore : ∀ char ∈ gap.before, IsBlank char := fun char hChar =>
    gap.blanks char (List.mem_append_left _ hChar)
  have hAfter : ∀ char ∈ gap.after, isWhitespace char = true := fun char hChar =>
    (gap.blanks char (List.mem_append_right _ hChar)).isWhitespace
  have hTrim : trim (first :: text ++ gap.text) = (first :: text ++ gap.before) ++ [','] := by
    have hText : first :: text ++ gap.text =
        ((first :: text ++ gap.before) ++ [',']) ++ gap.after := by
      simp [Gap.text]
    rw [hText, trim, List.cons_append, List.cons_append, List.cons_append,
      trimStart_of_head hFirst]
    simp only [← List.cons_append]
    apply rdropWhile_append_of_pos hAfter
    intro char hChar
    rw [List.getLast?_concat] at hChar
    cases hChar
    decide
  have hCommas : ((first :: text ++ gap.before) ++ [',']).rdropWhile (· = ',') =
      first :: text ++ gap.before := by
    apply rdropWhile_append_of_pos
    · simp
    · intro char hChar
      rw [List.getLast?_append] at hChar
      cases hLast : gap.before.getLast? with
      | none =>
          simp only [hLast, Option.none_or] at hChar
          simpa using (hFirm char hChar).2
      | some last =>
          simp only [hLast, Option.some_or, Option.mem_def, Option.some.injEq] at hChar
          subst hChar
          rcases hBefore last (List.mem_of_getLast? hLast) with rfl | rfl <;> decide
  rw [trimmed, hTrim, hCommas]
  exact trim_firm hFirst hFirm hBefore

theorem leadingText_cases (items : List (Gap × HeaderItem)) :
    leadingText items = AuthChallenge.textAfter (followers items) ∨
      ∃ gap : Gap, leadingText items =
        AuthChallenge.textAfter (followers items) ++ gap.text := by
  induction items with
  | nil => exact .inl rfl
  | cons item items hInduction =>
      rcases item with ⟨gap, challenge | ⟨challenge, hScheme⟩⟩
      · exact .inr ⟨gap, rfl⟩
      · have hText : AuthChallenge.textAfter (followers ((gap, .other challenge hScheme) :: items)) =
            gap.text ++ (challenge.text ++ AuthChallenge.textAfter (followers items)) := by
          simp [followers, AuthChallenge.textAfter]
        rw [hText]
        simp only [leadingText]
        rcases hInduction with hSame | ⟨ending, hSame⟩
        · left
          rw [hSame]
        · right
          refine ⟨ending, ?_⟩
          rw [hSame]
          simp

theorem trimmed_chunk (challenge : PaymentChallenge) (items : List (Gap × HeaderItem)) :
    trimmed ((paymentAuth challenge).text ++ leadingText items) =
      (paymentAuth challenge).text ++ AuthChallenge.textAfter (followers items) := by
  have hFirm := endsFirmly_textAfter (endsFirmly_challenge (paymentAuth challenge))
    (followers items)
  have hFirst : ∃ text, (paymentAuth challenge).text = 'P' :: text := ⟨_, rfl⟩
  rcases hFirst with ⟨text, hText⟩
  rw [hText, List.cons_append] at hFirm
  rw [hText]
  rcases leadingText_cases items with hSame | ⟨gap, hSame⟩
  · rw [hSame, List.cons_append]
    exact trimmed_firm (by decide) hFirm
  · rw [hSame, ← List.append_assoc, List.cons_append]
    exact trimmed_gap (by decide) hFirm gap

/-! ### Round trips -/

section

variable {codec : RequestCodec}

theorem parse_chunks {items : List (Gap × HeaderItem)}
    (hSent : ∀ challenge ∈ items.flatMap (·.2.payments), Transmissible codec challenge)
    (hUndisturbed : Undisturbed items) :
    (((chunks items).map trimmed).filter (· ≠ [])).map (parseWwwAuthenticate codec) =
      (items.flatMap (·.2.payments)).map .ok := by
  induction items with
  | nil => rfl
  | cons item items hInduction =>
      rw [List.flatMap_cons] at hSent
      have hLater := hInduction fun challenge hChallenge =>
        hSent challenge (List.mem_append_right _ hChallenge)
      rcases item with ⟨gap, challenge | ⟨challenge, hScheme⟩⟩
      · have hNonempty : (paymentAuth challenge).text ++
            AuthChallenge.textAfter (followers items) ≠ [] := by
          simp [AuthChallenge.text]
        have hParsed := parseWwwAuthenticate_text
          (hSent challenge (by simp [HeaderItem.payments])) hUndisturbed.1
        simp only [chunks, List.map_cons, trimmed_chunk]
        rw [List.filter_cons, if_pos (decide_eq_true hNonempty), List.map_cons, hParsed,
          hLater hUndisturbed.2]
        rfl
      · exact hLater hUndisturbed

end

/-! ### What is lost -/

def objectCodec : RequestCodec where
  decodeUrlSafe text := if text = "e30" then .ok [123, 125] else .error "Invalid symbol"
  readJson bytes := if bytes = [123, 125] then .ok () else .error "expected value"

def plainChallenge : PaymentChallenge where
  id := "a"
  realm := "api"
  method := "solana"
  intent := "charge"
  request := "e30"
  expires := none
  description := some "one, Payment \"two\""
  digest := none
  opaqueValue := none

def capitalChallenge : PaymentChallenge :=
  { plainChallenge with intent := "Charge" }

/-- `Basic realm="api"`. -/
def basicChallenge : AuthChallenge where
  scheme := keyToken "Basic" (by decide)
  blank := ' '
  blanks := []
  blanksOnly := isBlank_space
  first := quotedParam (keyToken "realm" realm_isToken) "api"
  rest := []

theorem basicChallenge_scheme :
    eqIgnoreAsciiCase (String.ofList basicChallenge.scheme.text) paymentScheme = false := by
  simp only [eqIgnoreAsciiCase, decide_eq_false_iff_not]
  intro hSame
  have hChars := congrArg String.toList hSame
  simp only [toList_toLower, String.toList_ofList] at hChars
  revert hChars
  decide

/-- The challenge followed by one of another scheme. -/
def mergedValue : HeaderValue where
  first := .payment plainChallenge
  rest := [(commaSpace, .other basicChallenge basicChallenge_scheme)]

theorem plainChallenge_sent : Transmissible objectCodec plainChallenge where
  id := by decide
  lines := by decide
  method := by decide
  intent := toLower_of_isLower (by decide)
  length := by decide
  request := ⟨[123, 125], by decide, by decide⟩

end PayKit.Challenge
