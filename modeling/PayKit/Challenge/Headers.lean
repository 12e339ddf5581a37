import PayKit.Challenge.Binding
import PayKit.Charge.Request
import PayKit.Control.Refusal
import PayKit.Encoding.AuthChallenge

/-!
# Challenges in headers

`format_www_authenticate`, `parse_www_authenticate` and `parse_www_authenticate_all` of
`mpp/protocol/core/headers.rs`. A value may hold several challenges: one scanner looks for the
places where a challenge of the scheme `Payment` starts, and another one reads the parameters
of the text from there to the next such place.

The base64 decoder and the JSON reader are parameters. Positions in a text count characters.
-/

namespace PayKit.Challenge

open Charge Control Encoding

def maxTokenLen : ℕ := 16 * 1024
def paymentScheme : String := "Payment"

/-- What checks the request of a challenge: the decoder of the URL-safe alphabet without padding
and the JSON reader. -/
structure RequestCodec where
  decodeUrlSafe : String → Except String (List UInt8)
  readJson : List UInt8 → Except String Unit

def RequestCodec.base64urlDecode (codec : RequestCodec) (input : String) :
    Except String (List UInt8) :=
  let normalized := (input.toList.filter (· ≠ '=')).map fun char =>
    if char = '+' then '-' else if char = '/' then '_' else char
  (codec.decodeUrlSafe (String.ofList normalized)).mapError ("Invalid base64url: " ++ ·)

/-! ### Writing -/

def escapeQuotedValue (text : String) : Except String (List Char) := do
  refuseIf (text.toList.contains '\r' ∨ text.toList.contains '\n')
    ("Header value contains invalid CRLF characters" : String)
  return text.toList.flatMap fun char =>
    if char = '\\' then ['\\', '\\'] else if char = '"' then ['\\', '"'] else [char]

/-- A parameter, if there is a value for it. -/
def formatParam (param : String × Option String) : Except String (Option (List Char)) :=
  match param.2 with
  | none => .ok none
  | some value =>
      (escapeQuotedValue value).map fun escaped =>
        some (param.1.toList ++ '=' :: '"' :: (escaped ++ ['"']))

/-- The parameters of a challenge in their order. -/
def challengeParams (challenge : PaymentChallenge) : List (String × Option String) :=
  [("id", some challenge.id), ("realm", some challenge.realm), ("method", some challenge.method),
    ("intent", some challenge.intent), ("request", some challenge.request),
    ("description", challenge.description), ("digest", challenge.digest),
    ("expires", challenge.expires), ("opaque", challenge.opaqueValue)]

def formatWwwAuthenticate (challenge : PaymentChallenge) : Except String (List Char) := do
  let parts ← (challengeParams challenge).mapM formatParam
  return paymentScheme.toList ++ ' ' :: [',', ' '].intercalate (parts.filterMap id)

/-! ### Reading -/

def isSeparator (char : Char) : Bool :=
  isWhitespace char || char = ','

def isKeyChar (char : Char) : Bool :=
  char ≠ '=' && !isWhitespace char

def isValueChar (char : Char) : Bool :=
  !isWhitespace char && char ≠ ','

/-- A quoted value after its opening quote, and the text after its closing one. -/
def quotedValue : List Char → List Char × List Char
  | [] => ([], [])
  | '"' :: rest => ([], rest)
  | '\\' :: char :: rest => (char :: (quotedValue rest).1, (quotedValue rest).2)
  | char :: rest => (char :: (quotedValue rest).1, (quotedValue rest).2)

def readValue : List Char → List Char × List Char
  | '"' :: rest => quotedValue rest
  | text => (text.takeWhile isValueChar, text.dropWhile isValueChar)

theorem quotedValue_length (text : List Char) : (quotedValue text).2.length ≤ text.length := by
  fun_induction quotedValue text with
  | case1 => simp
  | case2 => simp
  | case3 char rest hInduction => simp only [List.length_cons]; omega
  | case4 char rest _ _ hInduction => simp only [List.length_cons]; omega

theorem readValue_length (text : List Char) : (readValue text).2.length ≤ text.length := by
  unfold readValue
  split
  · rename_i rest
    have hQuoted := quotedValue_length rest
    simp only [List.length_cons]
    omega
  · exact List.length_dropWhile_le _ _

theorem dropWord_length {chars rest text : List Char} {first next : Char}
    (hText : chars.dropWhile isSeparator = first :: rest)
    (hKey : (first :: rest).dropWhile isKeyChar = next :: text) (hNone : next ≠ '=') :
    ((next :: text).dropWhile isValueChar).length < chars.length := by
  have hChars := List.length_dropWhile_le isSeparator chars
  have hWord := List.length_dropWhile_le isValueChar (next :: text)
  have hFirst : isSeparator first = false := by
    have hHead := List.head?_dropWhile_not isSeparator chars
    rwa [hText] at hHead
  have hKeyChar : isKeyChar first = true := by
    by_contra hOther
    rw [List.dropWhile_cons_of_neg hOther] at hKey
    simp only [isSeparator, Bool.or_eq_false_iff] at hFirst
    simp only [isKeyChar, hFirst.1, Bool.not_false, Bool.and_true, decide_eq_true_eq,
      not_not] at hOther
    subst hOther
    cases hKey
    exact hNone rfl
  rw [List.dropWhile_cons_of_pos hKeyChar] at hKey
  have hRest := List.length_dropWhile_le isKeyChar rest
  rw [hText] at hChars
  rw [hKey] at hRest
  simp only [List.length_cons] at hChars
  omega

theorem readValue_length_lt {chars rest text : List Char} {first : Char}
    (hText : chars.dropWhile isSeparator = first :: rest)
    (hKey : (first :: rest).dropWhile isKeyChar = '=' :: text) :
    (readValue text).2.length < chars.length := by
  have hChars := List.length_dropWhile_le isSeparator chars
  have hKeyLength := List.length_dropWhile_le isKeyChar (first :: rest)
  have hValue := readValue_length text
  rw [hText] at hChars
  rw [hKey] at hKeyLength
  simp only [List.length_cons] at hChars hKeyLength
  omega

set_option linter.unusedVariables false in
/-- The parameters after those that were read. -/
def readParams (params : List (String × String)) (chars : List Char) :
    Except String (List (String × String)) :=
  match hText : chars.dropWhile isSeparator with
  | [] => .ok params
  | first :: rest =>
      let key := String.ofList ((first :: rest).takeWhile isKeyChar)
      match hKey : (first :: rest).dropWhile isKeyChar with
      | [] => .ok params
      | next :: text =>
          if hEquals : next = '=' then
            if text.isEmpty then .ok params
            else if (params.lookup key).isSome then .error ("Duplicate parameter: " ++ key)
            else
              readParams (params ++ [(key, String.ofList (readValue text).1)]) (readValue text).2
          else readParams params ((next :: text).dropWhile isValueChar)
termination_by chars.length
decreasing_by
  · exact readValue_length_lt hText (hEquals ▸ hKey)
  · exact dropWord_length hText hKey hEquals

def parseAuthParams (params : List Char) : Except String (List (String × String)) :=
  readParams [] params

def stripPaymentScheme (header : List Char) : Option (List Char) :=
  let header := trimStart header
  if eqIgnoreAsciiCase (String.ofList (header.take paymentScheme.length)) paymentScheme then
    some (header.drop paymentScheme.length)
  else none

/-- The text after the scheme, without the space or tab that has to follow it. -/
def paramsText (header : List Char) : Except String (List Char) := do
  let rest ← okOr (stripPaymentScheme header) "Expected 'Payment' scheme"
  match rest with
  | ' ' :: params | '\t' :: params => return trimStart params
  | _ => .error "Expected space after 'Payment' scheme"

def requireParam (params : List (String × String)) (key : String) : Except String String :=
  okOr (params.lookup key) ("Missing '" ++ key ++ "' field")

def invalidMethod (method : String) : String :=
  "Invalid method: \"" ++ method ++ "\". Must be lowercase ASCII."

/-- The challenge of parameters. `MethodName::new` and `IntentName::new` lower the case. -/
def challengeOfParams (codec : RequestCodec) (params : List (String × String)) :
    Except String PaymentChallenge := do
  let id ← requireParam params "id"
  refuseIf (id = "") ("Empty 'id' parameter" : String)
  let realm ← requireParam params "realm"
  let method ← requireParam params "method"
  refuseIf (method = "" ∨ method.toList.all Char.isLower = false) (invalidMethod method)
  let intent ← requireParam params "intent"
  let request ← requireParam params "request"
  refuseIf (maxTokenLen < request.utf8ByteSize)
    ("Challenge request parameter exceeds maximum length of 16384 bytes" : String)
  let requestBytes ← codec.base64urlDecode request
  (codec.readJson requestBytes).mapError ("Invalid JSON in request field: " ++ ·)
  return {
    id
    realm
    method := method.toLower
    intent := intent.toLower
    request
    expires := params.lookup "expires"
    description := params.lookup "description"
    digest := params.lookup "digest"
    opaqueValue := params.lookup "opaque" }

def parseWwwAuthenticate (codec : RequestCodec) (header : List Char) :
    Except String PaymentChallenge := do
  let params ← paramsText header
  let params ← parseAuthParams params
  challengeOfParams codec params

/-! ### Finding the challenges of a value -/

/-- `is_payment_scheme_start`, with the text before the position, last character first. -/
def isPaymentSchemeStart (before text : List Char) : Bool :=
  match text.drop paymentScheme.length with
  | [] => false
  | next :: _ =>
      eqIgnoreAsciiCase (String.ofList (text.take paymentScheme.length)) paymentScheme &&
        isAsciiWhitespace next &&
          (before.dropWhile isAsciiWhitespace).head?.all (· = ',')

/-- Where the scanner is. Within the scheme it has characters left to skip. -/
inductive ScanMode where
  | outside
  | quoted
  | escaped
  | scheme (left : ℕ)

/-- The text up to the first challenge, and the texts from each challenge to the next one. -/
def scan : ScanMode → List Char → List Char → List Char × List (List Char)
  | _, _, [] => ([], [])
  | .quoted, before, char :: text =>
      let mode := if char = '\\' then .escaped else if char = '"' then .outside else .quoted
      let scanned := scan mode (char :: before) text
      (char :: scanned.1, scanned.2)
  | .escaped, before, char :: text =>
      let scanned := scan .quoted (char :: before) text
      (char :: scanned.1, scanned.2)
  | .scheme (left + 1), before, char :: text =>
      let scanned := scan (.scheme left) (char :: before) text
      (char :: scanned.1, scanned.2)
  | .outside, before, char :: text | .scheme 0, before, char :: text =>
      if char = '"' then
        let scanned := scan .quoted (char :: before) text
        (char :: scanned.1, scanned.2)
      else if isPaymentSchemeStart before (char :: text) then
        let scanned := scan (.scheme (paymentScheme.length - 1)) (char :: before) text
        ([], (char :: scanned.1) :: scanned.2)
      else
        let scanned := scan .outside (char :: before) text
        (char :: scanned.1, scanned.2)

def splitPaymentChallengeValues (header : List Char) : List (List Char) :=
  ((scan .outside [] header).2.map fun chunk =>
    trim ((trim chunk).rdropWhile (· = ','))).filter (· ≠ [])

def parseWwwAuthenticateAll (codec : RequestCodec) (headers : List (List Char)) :
    List (Except String PaymentChallenge) :=
  (headers.flatMap splitPaymentChallengeValues).map (parseWwwAuthenticate codec)

end PayKit.Challenge
