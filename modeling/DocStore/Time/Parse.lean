import DocStore.Time.Instant
import DocStore.Text.Blank
/-
  DocStore.Time.Parse — reading RFC 3339 timestamps, leniently.

  The reader takes a date `Y-M-D` (the year signed or of up to four digits, month and
  day of one or two digits), a `T`, `t` or space, a time `h:m:s` with an optional
  fraction (digits past the ninth are ignored), and a zone: `Z`, `z`, `UTC` in any case,
  or a signed `hh:mm` (the colon may be any run of colons and blanks, and the minus may
  be U+2212). Blanks may precede every number and the zone, and may follow the whole.
  Second 60 is a leap second. The instant is the local time less the offset.

  Failures are of seven kinds, checked in reading order; field ranges are checked as
  each field is read, and the calendar date (day within its month) after the whole text.
-/

namespace DocStore

/-- Why a timestamp text was refused. -/
inductive TimeError where
  | outOfRange
  | impossible
  | notEnough
  | invalid
  | tooShort
  | tooLong
  deriving DecidableEq, Repr

/-- The text of a refusal. -/
def TimeError.message : TimeError → String
  | .outOfRange => "input is out of range"
  | .impossible => "no possible date and time matching input"
  | .notEnough => "input is not enough for unique date and time"
  | .invalid => "input contains invalid characters"
  | .tooShort => "premature end of input"
  | .tooLong => "trailing input"

namespace TimeText

/-- Bytes of a character list in UTF-8. -/
def byteLen (cs : List Char) : Nat := cs.foldl (fun n c => n + c.utf8Size) 0

/-- Read between `min` and `max` ASCII digits; fewer than `min` bytes left is too short, a
non-digit before `min` digits is invalid, and a value beyond 2^63 - 1 is out of range. -/
def number (cs : List Char) (min max : Nat) : Except TimeError (Nat × List Char) :=
  if byteLen cs < min then .error .tooShort
  else
    let rec go (cs : List Char) (i : Nat) (acc : Nat) : Nat → Except TimeError (Nat × List Char)
      | 0 => .ok (acc, cs)
      | fuel + 1 =>
        match cs with
        | c :: rest =>
          if c.isDigit then
            let acc' := acc * 10 + (c.toNat - '0'.toNat)
            if acc' ≥ Nat.pow 2 63 then .error .outOfRange else go rest (i + 1) acc' fuel
          else if i < min then .error .invalid
          else .ok (acc, cs)
        | [] => .ok (acc, [])
    go cs 0 0 max

/-- A literal character: nothing left is too short, another character is invalid. -/
def literal (c : Char) : List Char → Except TimeError (List Char)
  | [] => .error .tooShort
  | d :: rest => if d = c then .ok rest else .error .invalid

/-- A field read after leading blanks, then checked against `[lo, hi]`. -/
def field (cs : List Char) (width lo hi : Nat) : Except TimeError (Nat × List Char) := do
  let (v, rest) ← number (Text.dropBlanks cs) 1 width
  if v < lo || hi < v then throw .outOfRange
  pure (v, rest)

/-- The year: signed with any number of digits, or unsigned of at most four; it must fit
in 32 bits. -/
def year (cs : List Char) : Except TimeError (Int × List Char) := do
  let cs := Text.dropBlanks cs
  let (v, rest) ← match cs with
    | '-' :: r => do let (n, r) ← number r 1 (Nat.pow 2 64); pure (-(n : Int), r)
    | '+' :: r => do let (n, r) ← number r 1 (Nat.pow 2 64); pure ((n : Int), r)
    | _ => do let (n, r) ← number cs 1 4; pure ((n : Int), r)
  if v < -2147483648 || 2147483647 < v then throw .outOfRange
  pure (v, rest)

/-- The fraction after a point: up to nine digits scaled to nanoseconds, later digits skipped. -/
def fraction (cs : List Char) : Except TimeError (Nat × List Char) :=
  match cs with
  | '.' :: r => do
    let (v, rest) ← number r 1 9
    let used := r.length - rest.length
    let nano := v * Nat.pow 10 (9 - used)
    pure (nano, rest.dropWhile Char.isDigit)
  | _ => .ok (0, cs)

/-- Two leading ASCII digits; fewer than two bytes is too short. -/
def twoDigits (cs : List Char) : Except TimeError (Nat × Nat) :=
  if byteLen cs < 2 then .error .tooShort
  else
    match cs with
    | a :: b :: _ => if a.isDigit && b.isDigit then .ok (a.toNat - 48, b.toNat - 48) else .error .invalid
    | _ => .error .invalid

/-- The zone: `Z`/`z`, `UTC` in any case, or a signed hours-and-minutes offset, in seconds. -/
def zone (cs : List Char) : Except TimeError (Int × List Char) :=
  let cs := Text.dropBlanks cs
  match cs with
  | u :: t :: c :: rest =>
    if u.toLower = 'u' && t.toLower = 't' && c.toLower = 'c' then .ok (0, rest) else offset cs
  | _ => offset cs
where
  offset (cs : List Char) : Except TimeError (Int × List Char) :=
    match cs with
    | 'Z' :: rest | 'z' :: rest => .ok (0, rest)
    | s :: rest =>
      if s = '+' then signed false rest
      else if s = '-' || s.toNat = 0x2212 then signed true rest
      else .error .invalid
    | [] => .error .tooShort
  signed (negative : Bool) (cs : List Char) : Except TimeError (Int × List Char) := do
    let (h1, h2) ← twoDigits cs
    let cs := (cs.drop 2).dropWhile (fun c => c = ':' || Text.isBlank c)
    if byteLen cs < 2 then throw .tooShort
    let (m1, m2) ← match cs with
      | a :: b :: _ =>
        if a.isDigit && b.isDigit then
          if a.toNat - 48 ≤ 5 then pure (a.toNat - 48, b.toNat - 48) else throw .outOfRange
        else throw .invalid
      | _ => throw .invalid
    let secs : Int := ((h1 * 10 + h2) * 3600 + (m1 * 10 + m2) * 60 : Nat)
    pure (if negative then -secs else secs, cs.drop 2)

/-- Fields as read, before the calendar check. -/
structure Reading where
  year : Int
  month : Nat
  day : Nat
  hour : Nat
  minute : Nat
  second : Nat
  nano : Nat
  offset : Int

/-- Read the whole text into fields. -/
def read (cs : List Char) : Except TimeError Reading := do
  let (y, cs) ← year cs
  let cs ← literal '-' (Text.dropBlanks cs)
  let (mo, cs) ← field cs 2 1 12
  let cs ← literal '-' (Text.dropBlanks cs)
  let (d, cs) ← field cs 2 1 31
  let cs ← match cs with
    | c :: rest => if c = 'T' || c = 't' || c = ' ' then pure rest else throw .invalid
    | [] => throw .tooShort
  let (h, cs) ← field cs 2 0 23
  let cs ← literal ':' (Text.dropBlanks cs)
  let (mi, cs) ← field cs 2 0 59
  let cs ← literal ':' (Text.dropBlanks cs)
  let (s, cs) ← field cs 2 0 60
  let (nano, cs) ← fraction cs
  let (off, cs) ← zone cs
  if !(Text.dropBlanks cs).isEmpty then throw .tooLong
  pure ⟨y, mo, d, h, mi, s, nano, off⟩

/-- The years a calendar date may have. -/
def yearInRange (y : Int) : Bool := -262143 ≤ y && y ≤ 262142

/-- Turn read fields into an instant: the day must exist in its month, the offset must be
under a day, and the result must stay within the calendar. -/
def toInstant (r : Reading) : Except TimeError Instant := do
  if !yearInRange r.year || r.day > Instant.daysInMonth r.year r.month then throw .outOfRange
  if r.offset ≤ -86400 || 86400 ≤ r.offset then throw .outOfRange
  let leap := r.second = 60
  let secOfDay : Int := r.hour * 3600 + r.minute * 60 + (if leap then 59 else r.second)
  let local_ : Int := Instant.daysFromCivil r.year r.month r.day * 86400 + secOfDay
  let utc := local_ - r.offset
  let (y, _, _) := Instant.civilFromDays (utc / 86400)
  if !yearInRange y then throw .impossible
  let nano := if leap then r.nano + 1000000000 else r.nano
  if h : nano < 2000000000 then pure ⟨utc, nano, h⟩ else throw .outOfRange

end TimeText

/-- Read an RFC 3339 timestamp (leniently, see the module comment). -/
def Instant.parse (s : String) : Except TimeError Instant := do
  let r ← TimeText.read s.toList
  TimeText.toInstant r

end DocStore
