import PayKit.Arithmetic.Decimal
import PayKit.Challenge.Binding
import PayKit.Control.Refusal
import PayKit.X402.Error

/-!
# The timestamps of login messages

`format_rfc3339_seconds` and `parse_rfc3339_seconds` of `mpp/server/authenticate.rs`, and
`parse_rfc3339_z` of `x402/siwx.rs`. Both parsers look at the parts of a timestamp that they
need. The first one reads numbers at fixed places and does not look at what separates the date
from the date and the time from the time, and the second one drops what follows the seconds.
-/

namespace PayKit.Login

open Challenge Control Machine X402

/-! ### Integers -/

/-- `str::parse` of a signed integer with these bounds. -/
def parseSigned (least greatest : ℤ) (text : String) : Option ℤ :=
  let read (sign : ℤ) (digits : List Char) : Option ℤ :=
    let value := sign * (Nat.ofDigitChars 10 digits 0 : ℤ)
    if digits ≠ [] ∧ digits.all Char.isDigit ∧ least ≤ value ∧ value ≤ greatest then some value
    else none
  match text.toList with
  | '-' :: digits => read (-1) digits
  | '+' :: digits => read 1 digits
  | digits => read 1 digits

def parseI64 (text : String) : Option ℤ :=
  parseSigned i64Min i64Max text

/-- `str::parse::<i32>`. -/
def i32Of (text : String) : Option ℤ :=
  parseSigned (-2 ^ 31) (2 ^ 31 - 1) text

/-- `str::parse::<u32>`. -/
def u32Of (text : String) : Option ℕ :=
  (parseU64 text).filter (· < 2 ^ 32)

/-- The value that 32 bits keep of a sum or a product. -/
def wrapI32 (value : ℤ) : ℤ :=
  Int.bmod value (2 ^ 32)

/-! ### The timestamps of the `authenticate` intent -/

/-- A number with at least as many digits. -/
def padded (width : ℕ) (value : ℕ) : String :=
  "".pushn '0' (width - value.repr.length) ++ value.repr

/-- `{:04}` of a year. -/
def paddedYear (year : ℤ) : String :=
  if year < 0 then "-" ++ padded 3 year.natAbs else padded 4 year.toNat

def formatRfc3339Seconds (secs : ℤ) : String :=
  let days := secs / 86400
  let secsOfDay := (secs % 86400).toNat
  let z := days + 719468
  let era := (if 0 ≤ z then z else z - 146096).tdiv 146097
  let doe := (z - era * 146097).toNat
  let yoe := (doe - doe / 1460 + doe / 36524 - doe / 146096) / 365
  let y := (yoe : ℤ) + era * 400
  let doy := doe - (365 * yoe + yoe / 4 - yoe / 100)
  let mp := (5 * doy + 2) / 153
  let d := doy - (153 * mp + 2) / 5 + 1
  let mo := if mp < 10 then mp + 3 else mp - 9
  let y := if mo ≤ 2 then y + 1 else y
  paddedYear y ++ "-" ++ padded 2 mo ++ "-" ++ padded 2 d ++ "T" ++ padded 2 (secsOfDay / 3600) ++
    ":" ++ padded 2 (secsOfDay % 3600 / 60) ++ ":" ++ padded 2 (secsOfDay % 60) ++ "Z"

/-- A number at a place of the timestamp. -/
def numberAt (bytes : List UInt8) (start stop : ℕ) (name : String) : Except String ℤ :=
  match String.fromUTF8? ⟨((bytes.take stop).drop start).toArray⟩ with
  | none => .error (name ++ ": not utf8")
  | some text =>
      match parseI64 text with
      | none => .error (name ++ ": not an integer")
      | some value => .ok value

def parseRfc3339Seconds (s : String) : Except String ℤ := do
  let bytes := utf8 s
  refuseIf (bytes.length ≠ 20 ∨ bytes[19]? ≠ some 'Z'.toUInt8 ∨ bytes[10]? ≠ some 'T'.toUInt8)
    ("not RFC 3339 (YYYY-MM-DDTHH:MM:SSZ): " ++ s)
  let y ← numberAt bytes 0 4 "year"
  let mo ← numberAt bytes 5 7 "month"
  let d ← numberAt bytes 8 10 "day"
  let h ← numberAt bytes 11 13 "hour"
  let mi ← numberAt bytes 14 16 "minute"
  let second ← numberAt bytes 17 19 "second"
  let yAdj := y - if mo ≤ 2 then 1 else 0
  let mShift := if 2 < mo then mo - 3 else mo + 9
  let era := (if 0 ≤ yAdj then yAdj else yAdj - 399).tdiv 400
  let yoe := yAdj - era * 400
  let doy := (153 * mShift + 2).tdiv 5 + d - 1
  let doe := yoe * 365 + yoe.tdiv 4 - yoe.tdiv 100 + doy
  let days := era * 146097 + doe - 719468
  return days * 86400 + h * 3600 + mi * 60 + second

theorem ne_empty_of_parsed {s : String} {secs : ℤ} (hParsed : parseRfc3339Seconds s = .ok secs) :
    s ≠ "" := by
  rintro rfl
  simp only [parseRfc3339Seconds, refuseIf_bind_eq_ok] at hParsed
  exact hParsed.1 (.inl (by decide))

/-! ### The timestamps of sign-in messages -/

def invalidTimestamp : Error :=
  .other "siwx_invalid_timestamp"

/-- `days_from_civil`, in 32 bits. -/
def daysFromCivil (year : ℤ) (month day : ℕ) : ℤ :=
  let year := wrapI32 (year - if month ≤ 2 then 1 else 0)
  let era := (if 0 ≤ year then year else wrapI32 (year - 399)).tdiv 400
  let yearOfEra := wrapI32 (year - era * 400)
  let dayOfYear := (153 * ((month : ℤ) + if 2 < month then -3 else 9) + 2).tdiv 5 + day - 1
  let dayOfEra := yearOfEra * 365 + yearOfEra.tdiv 4 - yearOfEra.tdiv 100 + dayOfYear
  wrapI32 (era * 146097 + dayOfEra - 719468)

/-- The text before a character and the text after it. -/
def splitOnce (text : List Char) (mark : Char) : Option (List Char × List Char) :=
  match text.idxOf? mark with
  | some index => some (text.take index, text.drop (index + 1))
  | none => none

/-- `parse_rfc3339_z`, in nanoseconds. -/
def parseRfc3339Z (value : String) : Except Error ℤ := do
  let text := value.toList
  refuseIf (text.getLast? ≠ some 'Z') invalidTimestamp
  let (date, time) ← okOr (splitOnce text.dropLast 'T') invalidTimestamp
  let [year, month, day] := date.splitOn '-' | throw invalidTimestamp
  let year ← okOr (i32Of (String.ofList year)) invalidTimestamp
  let month ← okOr (u32Of (String.ofList month)) invalidTimestamp
  let day ← okOr (u32Of (String.ofList day)) invalidTimestamp
  let time := ((splitOnce time '.').map Prod.fst).getD time
  let [hour, minute, second] := time.splitOn ':' | throw invalidTimestamp
  let hour ← okOr (u32Of (String.ofList hour)) invalidTimestamp
  let minute ← okOr (u32Of (String.ofList minute)) invalidTimestamp
  let second ← okOr (u32Of (String.ofList second)) invalidTimestamp
  refuseIf (¬(1 ≤ month ∧ month ≤ 12) ∨ ¬(1 ≤ day ∧ day ≤ 31) ∨ 23 < hour ∨ 59 < minute ∨
    60 < second) invalidTimestamp
  return (daysFromCivil year month day * 86400 + (hour * 3600 + minute * 60 + second : ℕ)) *
    1000000000

end PayKit.Login
