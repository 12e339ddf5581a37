import PayKit.Challenge.Binding
import PayKit.Encoding.SelfDelimiting
import PayKit.Solana.Pubkey

/-!
# Which request a payment is for

The identities of a request that `gate.rs` and `mpp/server/axum.rs` bind payments to: the resource
and the memo of an `exact` payment, the route of an MPP charge and the route of an `upto`
authorization.

Where the request names no authority of its own, an identity puts the scheme and the host of the
headers before the path, as they are. So the place where the path starts is part of the identity
only if the headers have none of the characters that end an authority.

The URI is as the `http` crate parses it. The parser of URLs and the hash are parameters.
-/

namespace PayKit.Gate

open Challenge Encoding Solana

/-! ### Requests -/

/-- The characters that end the authority of a URL. -/
def delimiters : List Char :=
  ['/', '\\', '?', '#']

/-- A text that ends nowhere in an authority. -/
def Plain (text : String) : Prop :=
  ∀ char ∈ text.toList, char ∉ delimiters

instance (text : String) : Decidable (Plain text) :=
  inferInstanceAs (Decidable (∀ char ∈ text.toList, _))

structure Method where
  text : String
  token : ' ' ∉ text.toList

/-- An authority of a URI. The asterisk is a path. -/
structure Authority where
  text : String
  plain : Plain text
  named : text ≠ "*"

/-- The path and query of a URI. An absolute one may have its query without a path. -/
structure PathAndQuery where
  data : String
  shaped : data = "" ∨ data = "*" ∨ data.toList.head? = some '/' ∨ data.toList.head? = some '?'

namespace PathAndQuery

variable (path : PathAndQuery)

def asStr : String :=
  if path.data = "" then "/" else path.data

/-- The text that is printed, which has a path. -/
def display : String :=
  if path.data.toList.head? = some '/' ∨ path.data = "*" then path.data else "/" ++ path.data

end PathAndQuery

inductive Uri where
  | origin (path : PathAndQuery)
  | absolute (scheme : String) (authority : Authority) (path : PathAndQuery)
  /-- The target of a `CONNECT` request. -/
  | authorityForm (authority : Authority)

namespace Uri

def pathAndQuery : Uri → Option PathAndQuery
  | .origin path => some path
  | .absolute _ _ path => some path
  | .authorityForm _ => none

def authorityText : Uri → Option String
  | .origin _ => none
  | .absolute _ named _ => some named.text
  | .authorityForm named => some named.text

def schemeText : Uri → Option String
  | .absolute scheme _ _ => some scheme
  | _ => none

/-- `Uri::to_string`. -/
def display : Uri → String
  | .origin path => path.display
  | .absolute scheme named path => scheme ++ "://" ++ named.text ++ path.display
  | .authorityForm named => named.text

end Uri

/-- A request, with the URI as the client sent it. A header that is not printable is as good as
absent. -/
structure Request where
  method : Method
  uri : Uri
  host : Option String
  forwardedProto : Option String

namespace Request

variable (request : Request)

/-- The path and query of the request. -/
def path : String :=
  (request.uri.pathAndQuery.map PathAndQuery.display).getD "/"

def resourceUrl : Option String :=
  if request.uri.authorityText.isSome then some request.uri.display
  else do
    let host ← request.host
    let scheme := request.forwardedProto.getD "https"
    let path ← request.uri.pathAndQuery
    return scheme ++ "://" ++ host ++ path.display

def exactResource : String :=
  request.resourceUrl.getD ((request.uri.pathAndQuery.map PathAndQuery.display).getD "/")

def uptoRoute : String :=
  request.method.text ++ " " ++ (request.uri.pathAndQuery.map PathAndQuery.asStr).getD "/"

end Request

/-- `bs58::encode`. -/
def bs58Encode (bytes : List UInt8) : String :=
  String.ofList ((transcode 256 58 (bytes.map UInt8.toNat)).map base58Char)

def exactMemo (sha256 : List UInt8 → List UInt8) (method : Method) (resource : String) : String :=
  method.text ++ " " ++ bs58Encode (sha256 (utf8 (method.text ++ " " ++ resource)))

/-- What a charge uses of the parser of URLs. -/
structure UrlParser (Url : Type) where
  parse : String → Option Url
  hostStr : Url → Option String
  display : Url → String

def toAsciiLowercase (text : String) : String :=
  String.ofList (text.toList.map Char.toLower)

def rawUrl (scheme authority path : String) : String :=
  scheme ++ "://" ++ authority ++ path

/-- A URL with a host that is not empty. -/
def UrlParser.parseWithHost {Url : Type} (parser : UrlParser Url) (raw : String) : Option Url :=
  (parser.parse raw).filter fun url => (parser.hostStr url).any (· ≠ "")

namespace Request

variable {Url : Type} (parser : UrlParser Url) (request : Request)

/-- The authority that a charge is bound to. -/
def chargeAuthority : Option String :=
  request.uri.authorityText.or request.host

/-- The scheme that a charge is bound to. -/
def chargeScheme : String :=
  request.uri.schemeText.getD (toAsciiLowercase (request.forwardedProto.getD "https"))

/-- The path that a charge is bound to. -/
def chargePath : String :=
  (request.uri.pathAndQuery.map PathAndQuery.asStr).getD "/"

/-- `charge_route`. A host that does not parse stays, in lower case. -/
def chargeRoute : String :=
  match request.chargeAuthority with
  | none => request.method.text ++ " " ++ request.chargePath
  | some authority =>
      let raw := rawUrl request.chargeScheme authority request.chargePath
      request.method.text ++ " " ++
        ((parser.parseWithHost raw).map parser.display).getD (toAsciiLowercase raw)

/-! ### What a binding says of the request -/

/-- What the resource of an `exact` payment is made of: the text before the path, and the path. -/
def pieces : String × String :=
  match request.uri with
  | .absolute scheme named path => (scheme ++ "://" ++ named.text, path.display)
  | .authorityForm named => (named.text, "")
  | .origin path =>
      match request.host with
      | some host => (request.forwardedProto.getD "https" ++ "://" ++ host, path.display)
      | none => ("", path.display)

/-- The scheme and host of one request are those of the other one with the beginning of its path
behind them. -/
def Extends (left right : Request) : Prop :=
  ∃ shift ≠ "", left.pieces.1 = right.pieces.1 ++ shift ∧ right.pieces.2 = shift ++ left.pieces.2

/-- The requests have one method and one path. -/
def SameRoute (left right : Request) : Prop :=
  left.method.text = right.method.text ∧ left.path = right.path

end Request

/-- The parts of a URL, each of which ends where the next one begins. -/
structure Formed (scheme authority path : String) : Prop where
  scheme_plain : Plain scheme
  scheme_ends : ':' ∉ scheme.toList
  authority_plain : Plain authority
  authority_some : authority ≠ ""
  path_starts : path.toList.head? = some '/' ∨ path.toList.head? = some '?'

/-- What the parser promises: a URL is printed from its scheme on, and what is printed determines
the path of a formed URL with a host, as far as two paths are not equivalent. -/
structure UrlParser.Canonical {Url : Type} (parser : UrlParser Url)
    (Equivalent : String → String → Prop) : Prop where
  refl : ∀ path, Equivalent path path
  printed : ∀ raw url, parser.parse raw = some url →
    ∃ first ∈ (parser.display url).toList.head?, first.isAlpha
  determined : ∀ scheme authority path other named target url found,
    Formed scheme authority path → Formed other named target →
    parser.parseWithHost (rawUrl scheme authority path) = some url →
    parser.parseWithHost (rawUrl other named target) = some found →
    parser.display url = parser.display found → Equivalent path target

/-- The request names no authority, or it is part of a formed URL that parses. -/
def Request.UrlBound {Url : Type} (parser : UrlParser Url) (request : Request) : Prop :=
  ∀ authority ∈ request.chargeAuthority,
    Formed request.chargeScheme authority request.chargePath ∧
      (parser.parseWithHost
        (rawUrl request.chargeScheme authority request.chargePath)).isSome

/-! ### Texts -/

theorem append_eq_append {first second third fourth : String}
    (hSame : first ++ second = third ++ fourth) :
    (∃ shift, first = third ++ shift ∧ fourth = shift ++ second) ∨
      ∃ shift, third = first ++ shift ∧ second = shift ++ fourth := by
  have hChars := congrArg String.toList hSame
  rw [String.toList_append, String.toList_append] at hChars
  rcases List.append_eq_append_iff.mp hChars with
    ⟨shift, hThird, hSecond⟩ | ⟨shift, hFirst, hFourth⟩
  · right
    refine ⟨String.ofList shift, ?_, ?_⟩
    · rw [← String.toList_inj, String.toList_append, String.toList_ofList, hThird]
    · rw [← String.toList_inj, String.toList_append, String.toList_ofList, hSecond]
  · left
    refine ⟨String.ofList shift, ?_, ?_⟩
    · rw [← String.toList_inj, String.toList_append, String.toList_ofList, hFirst]
    · rw [← String.toList_inj, String.toList_append, String.toList_ofList, hFourth]

theorem method_append_inj {left right : Method} {first second : String}
    (hSame : left.text ++ " " ++ first = right.text ++ " " ++ second) :
    left.text = right.text ∧ first = second := by
  have hSpace : " ".toList = [' '] := rfl
  have hChars := congrArg String.toList hSame
  simp only [String.toList_append, List.append_assoc, hSpace, List.singleton_append] at hChars
  rcases append_inj_of_delimited (· = ' ') (fun _ hChar hBlank => left.token
    (hBlank ▸ hChar)) (fun _ hChar hBlank => right.token (hBlank ▸ hChar)) (by simp) (by simp)
    hChars with ⟨hMethod, hRest⟩
  exact ⟨String.toList_inj.mp hMethod, String.toList_inj.mp (List.cons.inj hRest).2⟩

theorem bs58Encode_injective : Function.Injective bs58Encode := by
  intro left right hSame
  have hDigits : ∀ bytes : List UInt8, ∀ digit ∈ bytes.map UInt8.toNat, digit < 256 := by
    intro bytes digit hDigit
    rcases List.mem_map.mp hDigit with ⟨byte, -, rfl⟩
    exact byte.toNat_lt
  have hRead : ∀ bytes : List UInt8, transcode 58 256 (((bs58Encode bytes).toList.mapM
      base58Digit).getD []) = bytes.map UInt8.toNat := by
    intro bytes
    rw [bs58Encode, String.toList_ofList,
      mapM_base58Digit_map_base58Char (transcode_lt (by decide)), Option.getD_some,
      transcode_transcode (by decide) (hDigits bytes)]
  have hBytes : left.map UInt8.toNat = right.map UInt8.toNat := by
    rw [← hRead left, hSame, hRead right]
  exact List.map_injective_iff.mpr (fun _ _ hByte => UInt8.toNat_inj.mp hByte) hBytes

theorem exactMemo_inj {sha256 : List UInt8 → List UInt8} (hSha256 : Function.Injective sha256)
    {left right : Method} {first second : String}
    (hSame : exactMemo sha256 left first = exactMemo sha256 right second) :
    left.text = right.text ∧ first = second := by
  rcases method_append_inj hSame with ⟨hMethod, hDigests⟩
  have hHashed := utf8_injective (hSha256 (bs58Encode_injective hDigests))
  exact ⟨hMethod, (method_append_inj hHashed).2⟩

/-! ### Paths -/

namespace PathAndQuery

theorem display_eq_of_asStr_eq {left right : PathAndQuery} (hSame : left.asStr = right.asStr) :
    left.display = right.display := by
  have hPrinted : ∀ path : PathAndQuery, path.display =
      if path.asStr.toList.head? = some '/' ∨ path.asStr = "*" then path.asStr
      else "/" ++ path.asStr := by
    intro path
    unfold display asStr
    by_cases hEmpty : path.data = ""
    · rw [if_pos hEmpty, hEmpty]
      rfl
    · rw [if_neg hEmpty]
  rw [hPrinted, hPrinted, hSame]

theorem display_ne_empty (path : PathAndQuery) : path.display ≠ "" := by
  intro hNone
  unfold display at hNone
  split at hNone
  case isTrue hShape =>
    rw [hNone] at hShape
    revert hShape
    decide
  case isFalse =>
    have hChars := congrArg String.toList hNone
    simp at hChars

theorem head_asStr (path : PathAndQuery) :
    path.asStr.toList.head? = some '/' ∨ path.asStr.toList.head? = some '?' ∨
      path.asStr = "*" := by
  unfold asStr
  rcases path.shaped with hEmpty | hStar | hSlash | hQuery
  · rw [if_pos hEmpty]
    exact .inl rfl
  · rw [if_neg (by rw [hStar]; decide)]
    exact .inr (.inr hStar)
  · rw [if_neg (by rintro hEmpty; rw [hEmpty] at hSlash; cases hSlash)]
    exact .inl hSlash
  · rw [if_neg (by rintro hEmpty; rw [hEmpty] at hQuery; cases hQuery)]
    exact .inr (.inl hQuery)

end PathAndQuery

namespace Request

theorem exactResource_eq (request : Request) :
    request.exactResource = request.pieces.1 ++ request.pieces.2 := by
  rcases request with ⟨method, uri, host, proto⟩
  rcases uri with path | ⟨scheme, named, path⟩ | named
  · rcases host with - | host
    · simp [exactResource, resourceUrl, pieces, Uri.authorityText, Uri.pathAndQuery]
    · simp [exactResource, resourceUrl, pieces, Uri.authorityText, Uri.pathAndQuery]
  · simp [exactResource, resourceUrl, pieces, Uri.authorityText, Uri.display]
  · simp [exactResource, resourceUrl, pieces, Uri.authorityText, Uri.display]

theorem pieces_cases (request : Request) :
    (request.pieces.2 = request.path ∧ request.pieces.2 ≠ "") ∨
      (Plain request.pieces.1 ∧ request.pieces.2 = "" ∧ request.path = "/") := by
  rcases request with ⟨method, uri, host, proto⟩
  rcases uri with path | ⟨scheme, named, path⟩ | named
  · left
    rcases host with - | host
    · exact ⟨rfl, path.display_ne_empty⟩
    · exact ⟨rfl, path.display_ne_empty⟩
  · exact .inl ⟨rfl, path.display_ne_empty⟩
  · exact .inr ⟨named.plain, rfl, rfl⟩

theorem path_eq_of_pieces_eq {left right : Request} (hSame : left.pieces.2 = right.pieces.2) :
    left.path = right.path := by
  rcases left.pieces_cases with ⟨hLeft, hSome⟩ | ⟨-, hNone, hLeft⟩
  · rcases right.pieces_cases with ⟨hRight, -⟩ | ⟨-, hNone, -⟩
    · rw [← hLeft, ← hRight, hSame]
    · exact absurd (hSame.trans hNone) hSome
  · rcases right.pieces_cases with ⟨-, hSome⟩ | ⟨-, -, hRight⟩
    · exact absurd (hSame.symm.trans hNone) hSome
    · rw [hLeft, hRight]

theorem Extends.path_ne {left right : Request} (hExtends : left.Extends right) :
    left.path ≠ right.path := by
  rcases hExtends with ⟨shift, hShift, hBefore, hPath⟩
  intro hSame
  rcases right.pieces_cases with ⟨hRight, -⟩ | ⟨-, hNone, -⟩
  · rcases left.pieces_cases with ⟨hLeft, -⟩ | ⟨hPlain, hNone, hLeft⟩
    · rw [hRight, ← hSame, ← hLeft] at hPath
      exact hShift (String.append_eq_right_iff.mp hPath.symm)
    · -- The authority of a `CONNECT` request would end in a slash.
      rw [hRight, ← hSame, hLeft, hNone, String.append_empty] at hPath
      rw [hBefore, ← hPath] at hPlain
      exact hPlain '/' (by simp) (by decide)
  · rw [hNone] at hPath
    exact hShift (String.append_eq_empty_iff.mp hPath.symm).1

/-- The path of the request, or the root. -/
def target (request : Request) : PathAndQuery :=
  request.uri.pathAndQuery.getD ⟨"", .inl rfl⟩

theorem path_eq_display (request : Request) : request.path = request.target.display := by
  unfold path target
  cases request.uri.pathAndQuery with
  | none => rfl
  | some path => rfl

theorem chargePath_eq_asStr (request : Request) :
    request.chargePath = request.target.asStr := by
  unfold chargePath target
  cases request.uri.pathAndQuery with
  | none => rfl
  | some path => rfl

theorem method_eq_of_chargeRoute_eq {Url : Type} {parser : UrlParser Url} {left right : Request}
    (hSame : left.chargeRoute parser = right.chargeRoute parser) :
    left.method.text = right.method.text := by
  have hSplit : ∀ request : Request, ∃ rest, request.chargeRoute parser =
      request.method.text ++ " " ++ rest := by
    intro request
    unfold chargeRoute
    cases request.chargeAuthority with
    | none => exact ⟨_, rfl⟩
    | some authority => exact ⟨_, rfl⟩
  rcases hSplit left with ⟨first, hLeft⟩
  rcases hSplit right with ⟨second, hRight⟩
  exact (method_append_inj (hLeft.symm.trans (hSame.trans hRight))).1

theorem chargeRoute_eq {Url : Type} {parser : UrlParser Url} (request : Request)
    (hBound : request.UrlBound parser) :
    request.chargeRoute parser = request.method.text ++ " " ++ request.chargePath ∨
      ∃ authority url, Formed request.chargeScheme authority request.chargePath ∧
        parser.parseWithHost
          (rawUrl request.chargeScheme authority request.chargePath) = some url ∧
        request.chargeRoute parser = request.method.text ++ " " ++ parser.display url := by
  unfold chargeRoute
  cases hAuthority : request.chargeAuthority with
  | none => exact .inl rfl
  | some authority =>
      rcases hBound authority hAuthority with ⟨hFormed, hParsed⟩
      rcases Option.isSome_iff_exists.mp hParsed with ⟨url, hUrl⟩
      refine .inr ⟨authority, url, hFormed, hUrl, ?_⟩
      simp only [hUrl, Option.map_some, Option.getD_some]

theorem chargePath_ne_display {Url : Type} {parser : UrlParser Url}
    {Equivalent : String → String → Prop} (hParser : parser.Canonical Equivalent)
    (request : Request) {raw : String} {url : Url} (hUrl : parser.parseWithHost raw = some url) :
    request.chargePath ≠ parser.display url := by
  intro hSame
  rcases hParser.printed raw url (Option.eq_some_of_filter_eq_some hUrl) with
    ⟨first, hFirst, hAlpha⟩
  rw [← hSame, chargePath_eq_asStr] at hFirst
  rcases request.target.head_asStr with hSlash | hQuery | hStar
  · rw [hSlash] at hFirst
    cases hFirst
    exact absurd hAlpha (by decide)
  · rw [hQuery] at hFirst
    cases hFirst
    exact absurd hAlpha (by decide)
  · rw [hStar] at hFirst
    cases hFirst
    exact absurd hAlpha (by decide)

end Request

theorem Formed.head_path {scheme authority path : String} (hFormed : Formed scheme authority path) :
    ∀ char ∈ path.toList.head?, char ∈ delimiters := by
  intro char hChar
  rcases hFormed.path_starts with hSlash | hQuery
  · rw [hSlash] at hChar
    cases hChar
    decide
  · rw [hQuery] at hChar
    cases hChar
    decide

theorem Formed.path_eq {scheme authority path other named target : String}
    (hFormed : Formed scheme authority path) (hNamed : Formed other named target)
    (hSame : rawUrl scheme authority path = rawUrl other named target) : path = target := by
  have hSeparator : "://".toList = [':', '/', '/'] := rfl
  have hChars := congrArg String.toList hSame
  simp only [rawUrl, String.toList_append, List.append_assoc, hSeparator] at hChars
  rcases append_inj_of_delimited (· = ':') (fun _ hChar hColon => hFormed.scheme_ends
    (hColon ▸ hChar)) (fun _ hChar hColon => hNamed.scheme_ends (hColon ▸ hChar)) (by simp)
    (by simp) hChars with ⟨-, hRest⟩
  have hAuthorities := List.append_cancel_left hRest
  exact String.toList_inj.mp (append_inj_of_delimited (· ∈ delimiters) hFormed.authority_plain
    hNamed.authority_plain hFormed.head_path hNamed.head_path hAuthorities).2

theorem not_extends_of_formed {left right : Request} {scheme authority other named : String}
    (hLeft : left.pieces.1 = scheme ++ "://" ++ authority)
    (hRight : right.pieces.1 = other ++ "://" ++ named)
    (hFormed : Formed scheme authority left.pieces.2)
    (hNamed : Formed other named right.pieces.2) : ¬ left.Extends right := by
  rintro ⟨shift, hShift, hBefore, hPath⟩
  have hSame : rawUrl scheme authority left.pieces.2 = rawUrl other named right.pieces.2 := by
    rw [rawUrl, rawUrl, ← hLeft, ← hRight, hBefore, hPath, String.append_assoc]
  rw [← hFormed.path_eq hNamed hSame] at hPath
  exact hShift (String.append_eq_right_iff.mp hPath.symm)

/-! ### The bindings -/

theorem exact_bound_iff {sha256 : List UInt8 → List UInt8} (hSha256 : Function.Injective sha256)
    (left right : Request) :
    (exactMemo sha256 left.method left.exactResource =
        exactMemo sha256 right.method right.exactResource → left.SameRoute right) ↔
      ¬ (left.method.text = right.method.text ∧ (left.Extends right ∨ right.Extends left)) := by
  constructor
  · rintro hBound ⟨hMethod, hExtends⟩
    have hResources : left.exactResource = right.exactResource := by
      rw [Request.exactResource_eq, Request.exactResource_eq]
      rcases hExtends with ⟨shift, -, hBefore, hPath⟩ | ⟨shift, -, hBefore, hPath⟩
      · rw [hBefore, hPath, String.append_assoc]
      · rw [hBefore, hPath, String.append_assoc]
    have hPaths : left.path = right.path :=
      (hBound (by rw [exactMemo, exactMemo, hMethod, hResources])).2
    rcases hExtends with hExtends | hExtends
    · exact hExtends.path_ne hPaths
    · exact hExtends.path_ne hPaths.symm
  · intro hApart hSame
    rcases exactMemo_inj hSha256 hSame with ⟨hMethod, hResources⟩
    refine ⟨hMethod, ?_⟩
    rw [Request.exactResource_eq, Request.exactResource_eq] at hResources
    rcases append_eq_append hResources with ⟨shift, hBefore, hPath⟩ | ⟨shift, hBefore, hPath⟩
    · by_cases hNone : shift = ""
      · rw [hNone, String.empty_append] at hPath
        exact Request.path_eq_of_pieces_eq hPath.symm
      · exact absurd ⟨hMethod, .inl ⟨shift, hNone, hBefore, hPath⟩⟩ hApart
    · by_cases hNone : shift = ""
      · rw [hNone, String.empty_append] at hPath
        exact Request.path_eq_of_pieces_eq hPath
      · exact absurd ⟨hMethod, .inr ⟨shift, hNone, hBefore, hPath⟩⟩ hApart

theorem upto_bound {left right : Request} (hSame : left.uptoRoute = right.uptoRoute) :
    left.SameRoute right := by
  rcases method_append_inj hSame with ⟨hMethod, hPath⟩
  refine ⟨hMethod, ?_⟩
  rw [left.path_eq_display, right.path_eq_display]
  exact PathAndQuery.display_eq_of_asStr_eq
    (left.chargePath_eq_asStr.symm.trans (hPath.trans right.chargePath_eq_asStr))

theorem charge_bound {Url : Type} {parser : UrlParser Url} {Equivalent : String → String → Prop}
    (hParser : parser.Canonical Equivalent) {left right : Request} (hLeft : left.UrlBound parser)
    (hRight : right.UrlBound parser) (hSame : left.chargeRoute parser = right.chargeRoute parser) :
    left.method.text = right.method.text ∧ Equivalent left.chargePath right.chargePath := by
  rcases left.chargeRoute_eq hLeft with hRoute | ⟨authority, url, hFormed, hUrl, hRoute⟩
  · rcases right.chargeRoute_eq hRight with hOther | ⟨named, found, -, hFound, hOther⟩
    · rw [hRoute, hOther] at hSame
      rcases method_append_inj hSame with ⟨hMethod, hPath⟩
      exact ⟨hMethod, hPath ▸ hParser.refl _⟩
    · rw [hRoute, hOther] at hSame
      exact absurd (method_append_inj hSame).2 (left.chargePath_ne_display hParser hFound)
  · rcases right.chargeRoute_eq hRight with hOther | ⟨named, found, hNamed, hFound, hOther⟩
    · rw [hRoute, hOther] at hSame
      exact absurd (method_append_inj hSame).2.symm (right.chargePath_ne_display hParser hUrl)
    · rw [hRoute, hOther] at hSame
      rcases method_append_inj hSame with ⟨hMethod, hPrinted⟩
      exact ⟨hMethod, hParser.determined _ _ _ _ _ _ url found hFormed hNamed hUrl hFound
        hPrinted⟩

/-- Two requests with one URL have one charge route, wherever their paths start. -/
theorem chargeRoute_eq_of_rawUrl_eq {Url : Type} (parser : UrlParser Url) {left right : Request}
    {authority named : String} (hMethod : left.method.text = right.method.text)
    (hLeft : left.chargeAuthority = some authority) (hRight : right.chargeAuthority = some named)
    (hRaw : rawUrl left.chargeScheme authority left.chargePath =
      rawUrl right.chargeScheme named right.chargePath) :
    left.chargeRoute parser = right.chargeRoute parser := by
  simp only [Request.chargeRoute, hLeft, hRight, hMethod, hRaw]

/-- An `exact` payment is bound to its request unless a host takes over the beginning of a path,
an MPP charge where the URL is formed and parses, and an `upto` authorization always. -/
theorem bound_to_request {Url : Type} {parser : UrlParser Url}
    {Equivalent : String → String → Prop} {sha256 : List UInt8 → List UInt8}
    (hSha256 : Function.Injective sha256) (hParser : parser.Canonical Equivalent)
    (left right : Request) :
    ((exactMemo sha256 left.method left.exactResource =
          exactMemo sha256 right.method right.exactResource → left.SameRoute right) ↔
        ¬ (left.method.text = right.method.text ∧ (left.Extends right ∨ right.Extends left))) ∧
      ((left.method.text = right.method.text → left.UrlBound parser ∧ right.UrlBound parser) →
        left.chargeRoute parser = right.chargeRoute parser →
          left.method.text = right.method.text ∧
            Equivalent left.chargePath right.chargePath) ∧
      (left.uptoRoute = right.uptoRoute → left.SameRoute right) := by
  refine ⟨exact_bound_iff hSha256 left right, fun hBound hSame => ?_, upto_bound⟩
  rcases hBound (Request.method_eq_of_chargeRoute_eq hSame) with ⟨hLeft, hRight⟩
  exact charge_bound hParser hLeft hRight hSame

/-! ### Sample requests -/

def sampleRequest (host path : String) (hPath : path.toList.head? = some '/') : Request where
  method := ⟨"GET", by decide⟩
  uri := .origin ⟨path, .inr (.inr (.inl hPath))⟩
  host := some host
  forwardedProto := none

/-- A parser that no URL satisfies. -/
def refusingParser : UrlParser Unit where
  parse _ := none
  hostStr _ := none
  display _ := ""

/-- Two requests of which one has the first part of the path in its host, and two of which the
host does not parse. -/
theorem host_takes_path_over :
    let left := sampleRequest "shop" "/orders/1" rfl
    let right := sampleRequest "shop/orders" "/1" rfl
    let upper := sampleRequest "[shop" "/A" rfl
    let lower := sampleRequest "[shop" "/a" rfl
    (∀ sha256, exactMemo sha256 left.method left.exactResource =
        exactMemo sha256 right.method right.exactResource) ∧
      (∀ (Url : Type) (parser : UrlParser Url),
        left.chargeRoute parser = right.chargeRoute parser) ∧ left.path ≠ right.path ∧
      upper.chargeRoute refusingParser = lower.chargeRoute refusingParser ∧
      upper.path ≠ lower.path := by
  intro left right upper lower
  have hResources : left.exactResource = right.exactResource := by decide
  refine ⟨fun sha256 => ?_, fun Url parser => ?_, by decide, by decide, by decide⟩
  · rw [hResources]
    rfl
  · exact chargeRoute_eq_of_rawUrl_eq parser rfl rfl rfl (by decide)

/-- A parser that takes a URL as it is. -/
def verbatimParser : UrlParser String where
  parse raw := if raw.toList.head?.any Char.isAlpha then some raw else none
  hostStr _ := some "shop"
  display url := url

def sampleSha256 (bytes : List UInt8) : List UInt8 :=
  if bytes = utf8 "GET https://shop/a" then
    [69, 170, 99, 31, 251, 67, 252, 107, 34, 127, 148, 84, 138, 102, 199, 67, 21, 121, 247, 134,
      136, 146, 57, 102, 234, 14, 73, 31, 58, 70, 213, 92]
  else if bytes = utf8 "GET https://shop/b" then
    [219, 176, 89, 63, 75, 165, 51, 153, 30, 204, 146, 95, 195, 216, 185, 249, 129, 169, 49, 43,
      189, 38, 11, 150, 111, 13, 205, 72, 114, 155, 70, 251]
  else 0 :: bytes

theorem sampleSha256_injective : Function.Injective sampleSha256 := by
  intro left right hSame
  unfold sampleSha256 at hSame
  split at hSame
  case isTrue hLeft =>
    split at hSame
    case isTrue hRight => rw [hLeft, hRight]
    case isFalse =>
      split at hSame
      · simp at hSame
      · simp at hSame
  case isFalse =>
    split at hSame
    case isTrue hLeft =>
      split at hSame
      case isTrue => simp at hSame
      case isFalse =>
        split at hSame
        case isTrue hRight => rw [hLeft, hRight]
        case isFalse => simp at hSame
    case isFalse =>
      split at hSame
      case isTrue => simp at hSame
      case isFalse =>
        split at hSame
        case isTrue => simp at hSame
        case isFalse => exact (List.cons.inj hSame).2

theorem verbatimParser_eq_some {raw url : String} (hParsed : verbatimParser.parse raw = some url) :
    url = raw ∧ ∃ first ∈ raw.toList.head?, first.isAlpha := by
  simp only [verbatimParser, Option.any_eq_true] at hParsed
  split at hParsed
  case isTrue hFirst =>
    cases hParsed
    exact ⟨rfl, hFirst⟩
  case isFalse => cases hParsed

theorem verbatimParser_canonical : verbatimParser.Canonical Eq where
  refl _ := rfl
  printed raw url hParsed := by
    rcases verbatimParser_eq_some hParsed with ⟨rfl, hFirst⟩
    exact hFirst
  determined scheme authority path other named target url found hFormed hNamed hUrl hFound
      hSame := by
    rcases verbatimParser_eq_some (Option.eq_some_of_filter_eq_some hUrl) with ⟨rfl, -⟩
    rcases verbatimParser_eq_some (Option.eq_some_of_filter_eq_some hFound) with ⟨rfl, -⟩
    exact hFormed.path_eq hNamed hSame

theorem items_apart :
    let left := sampleRequest "shop" "/a" rfl
    let right := sampleRequest "shop" "/b" rfl
    exactMemo sampleSha256 left.method left.exactResource ≠
        exactMemo sampleSha256 right.method right.exactResource ∧
      left.chargeRoute verbatimParser ≠ right.chargeRoute verbatimParser ∧
      left.uptoRoute ≠ right.uptoRoute := by
  intro left right
  have hFormed : ∀ path : String, path.toList.head? = some '/' → Formed "https" "shop" path :=
    fun path hPath => ⟨by decide, by decide, by decide, by decide, .inl hPath⟩
  have hBound : ∀ request : Request, request.chargeAuthority = some "shop" →
      request.chargeScheme = "https" → request.chargePath.toList.head? = some '/' →
      request.UrlBound verbatimParser := by
    intro request hAuthority hScheme hPath authority hNamed
    rw [hAuthority] at hNamed
    cases hNamed
    rw [hScheme]
    refine ⟨hFormed _ hPath, ?_⟩
    simp [UrlParser.parseWithHost, verbatimParser, rawUrl]
  rcases bound_to_request sampleSha256_injective verbatimParser_canonical left right with
    ⟨hExact, hCharge, hUpto⟩
  refine ⟨fun hSame => ?_, fun hSame => ?_, fun hSame => ?_⟩
  · have hRoute := hExact.mpr (by
      rintro ⟨-, hExtends | hExtends⟩
      · exact not_extends_of_formed rfl rfl (hFormed _ (by decide))
          (hFormed _ (by decide)) hExtends
      · exact not_extends_of_formed rfl rfl (hFormed _ (by decide))
          (hFormed _ (by decide)) hExtends) hSame
    exact absurd hRoute.2 (by decide)
  · have hRoute := hCharge (fun _ => ⟨hBound left rfl (by decide) (by decide),
      hBound right rfl (by decide) (by decide)⟩) hSame
    exact absurd hRoute.2 (by decide)
  · exact absurd (hUpto hSame).2 (by decide)

end PayKit.Gate
