/-
  DocStore.Time.Instant — points in UTC time to the nanosecond, and their RFC 3339 text.

  An instant counts whole seconds from 1970-01-01T00:00:00Z and nanoseconds into the
  second. A leap second (written `:60`) is the second before it with a nanosecond count
  of one billion or more, so it sorts after `:59.999999999` and before the next minute.
  Dates are proleptic Gregorian, for any year.

  Texts: the year in four digits, or with a sign and at least four digits outside
  0..9999; seconds with no fraction, or three, six or nine digits, whichever is the
  shortest exact one; then `Z`, or `+00:00` in the long form.
-/

namespace DocStore

/-- A UTC instant. -/
structure Instant where
  /-- Seconds since the epoch; a leap second shares the number of the second before it. -/
  sec : Int
  /-- Nanoseconds into the second; one billion and above only inside a leap second. -/
  nano : Nat
  nano_lt : nano < 2000000000
  deriving DecidableEq, Repr

namespace Instant

/-- Time order as a test: by second, then by nanosecond. -/
def before (a b : Instant) : Bool := a.sec < b.sec || (a.sec == b.sec && a.nano < b.nano)

instance : LT Instant := ⟨fun a b => before a b = true⟩
instance : LE Instant := ⟨fun a b => before b a = false⟩
instance (a b : Instant) : Decidable (a < b) := inferInstanceAs (Decidable (before a b = true))
instance (a b : Instant) : Decidable (a ≤ b) := inferInstanceAs (Decidable (before b a = false))

/-- The epoch. -/
def epoch : Instant := ⟨0, 0, by decide⟩

/-- The instant `n` nanoseconds after the epoch. -/
def ofNanos (n : Int) : Instant :=
  ⟨n / 1000000000, (n % 1000000000).toNat, by omega⟩

/-- The instant `s` seconds after the epoch. -/
def ofSeconds (s : Int) : Instant := ⟨s, 0, by decide⟩

/-- Move by whole seconds, keeping the fraction. -/
def addSeconds (t : Instant) (s : Int) : Instant := ⟨t.sec + s, t.nano, t.nano_lt⟩

/-- Days since 1970-01-01 of a proleptic Gregorian date. -/
def daysFromCivil (y : Int) (m d : Nat) : Int :=
  let y := if m ≤ 2 then y - 1 else y
  let era := y / 400
  let yoe := y - era * 400
  let mp : Int := if m > 2 then m - 3 else m + 9
  let doy := (153 * mp + 2) / 5 + d - 1
  let doe := yoe * 365 + yoe / 4 - yoe / 100 + doy
  era * 146097 + doe - 719468

/-- The proleptic Gregorian date `(year, month, day)` of a day count since 1970-01-01. -/
def civilFromDays (z : Int) : Int × Nat × Nat :=
  let z := z + 719468
  let era := z / 146097
  let doe := z - era * 146097
  let yoe := (doe - doe / 1460 + doe / 36524 - doe / 146096) / 365
  let y := yoe + era * 400
  let doy := doe - (365 * yoe + yoe / 4 - yoe / 100)
  let mp := (5 * doy + 2) / 153
  let d := doy - (153 * mp + 2) / 5 + 1
  let m := if mp < 10 then mp + 3 else mp - 9
  (if m ≤ 2 then y + 1 else y, m.toNat, d.toNat)

/-- Whether `y` is a leap year. -/
def isLeapYear (y : Int) : Bool := (y % 4 == 0 && y % 100 != 0) || y % 400 == 0

/-- Days in month `m` of year `y`. -/
def daysInMonth (y : Int) (m : Nat) : Nat :=
  match m with
  | 1 | 3 | 5 | 7 | 8 | 10 | 12 => 31
  | 4 | 6 | 9 | 11 => 30
  | 2 => if isLeapYear y then 29 else 28
  | _ => 0

/-- Calendar fields of an instant: year, month, day, hour, minute, second (60 in a leap
second) and nanoseconds within that second. -/
structure Fields where
  year : Int
  month : Nat
  day : Nat
  hour : Nat
  minute : Nat
  second : Nat
  nano : Nat
  deriving Repr, DecidableEq

def fields (t : Instant) : Fields :=
  let days := t.sec / 86400
  let secs := (t.sec % 86400).toNat
  let (y, m, d) := civilFromDays days
  let leap := t.nano ≥ 1000000000
  { year := y, month := m, day := d, hour := secs / 3600, minute := secs / 60 % 60,
    second := secs % 60 + (if leap then 1 else 0),
    nano := if leap then t.nano - 1000000000 else t.nano }

/-- `n` in at least `w` digits, zero padded. -/
def pad (w : Nat) (n : Nat) : String :=
  let s := toString n
  String.ofList (List.replicate (w - s.length) '0') ++ s

/-- The year as four digits, or signed with at least four digits outside 0..9999. -/
def yearText (y : Int) : String :=
  if 0 ≤ y && y ≤ 9999 then pad 4 y.toNat
  else (if y < 0 then "-" else "+") ++ pad 4 y.natAbs

/-- The fraction of a second: empty, or three, six or nine digits. -/
def fractionText (nano : Nat) : String :=
  if nano = 0 then ""
  else if nano % 1000000 = 0 then "." ++ pad 3 (nano / 1000000)
  else if nano % 1000 = 0 then "." ++ pad 6 (nano / 1000)
  else "." ++ pad 9 nano

/-- Date and time without the zone: `2024-01-01T00:00:00.5` style. -/
def localText (t : Instant) : String :=
  let f := t.fields
  yearText f.year ++ "-" ++ pad 2 f.month ++ "-" ++ pad 2 f.day ++ "T" ++ pad 2 f.hour ++ ":" ++
    pad 2 f.minute ++ ":" ++ pad 2 f.second ++ fractionText f.nano

/-- The RFC 3339 text with the zone written `Z`. -/
def toText (t : Instant) : String := t.localText ++ "Z"

/-- The RFC 3339 text with the zone written `+00:00`. -/
def toLongText (t : Instant) : String := t.localText ++ "+00:00"

/-- Compact stamp `YYYYmmdd_HHMMSS_mmm` (milliseconds). -/
def stampText (t : Instant) : String :=
  let f := t.fields
  yearText f.year ++ pad 2 f.month ++ pad 2 f.day ++ "_" ++ pad 2 f.hour ++ pad 2 f.minute ++
    pad 2 f.second ++ "_" ++ pad 3 (f.nano / 1000000)

end Instant

end DocStore
