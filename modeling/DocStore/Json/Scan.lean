import DocStore.Json.Cursor
/-
  DocStore.Json.Scan — the lexical parts of a JSON text: string bodies and numbers.

  A string body runs to the closing quote. Escapes are the two-character ones for quote,
  backslash, slash, backspace, form feed, line feed, carriage return and tab, and
  `\uXXXX`; a leading surrogate must be followed by `\u` and a trailing surrogate, and a
  trailing surrogate may not stand first. Raw control characters are refused. A string
  that is only skipped checks its escapes' shape, not the code units they name.

  A number is an optional minus, an integer part without superfluous leading zeros, an
  optional fraction and an optional exponent. A plain integer that fits is kept exactly:
  below 2^64 when non-negative, at least -2^63 when negative (minus zero is a double).
  Other numbers become doubles: the first digits that fit in 64 bits form a significand,
  scaled by the decimal exponent through a table of powers of ten, one multiplication or
  division per step; a result beyond the largest double is out of range, and an exponent
  too long to hold makes zero (or fails, for a non-zero significand and a positive sign).
-/

namespace DocStore.JsonScan

/-- Advance a place over `n` bytes of `cs` (a break inside a character counts its bytes). -/
def advanceBytes : List Char → Nat → Nat → Nat → Nat × Nat
  | [], _, line, col => (line, col)
  | _, 0, line, col => (line, col)
  | c :: rest, n + 1, line, col =>
    if c = '\n' then advanceBytes rest n (line + 1) 0
    else if c.utf8Size ≤ n + 1 then advanceBytes rest (n + 1 - c.utf8Size) line (col + c.utf8Size)
    else (line, col + n + 1)

/-- The place at the end of `cs`. -/
def endPlace (cs : List Char) (line col : Nat) : Nat × Nat :=
  cs.foldl (fun (l, c) ch => Cursor.advancePos l c ch) (line, col)

/-- How a string body ended. -/
inductive StrEnd where
  /-- The text (reversed) and the cursor after the closing quote. -/
  | closed (revText : List Char) (rest : List Char) (line col : Nat)
  | fault (f : SyntaxFault) (line col : Nat)

/-- The value of a hexadecimal digit. -/
def hexVal (c : Char) : Option Nat :=
  if '0' ≤ c && c ≤ '9' then some (c.toNat - '0'.toNat)
  else if 'a' ≤ c && c ≤ 'f' then some (c.toNat - 'a'.toNat + 10)
  else if 'A' ≤ c && c ≤ 'F' then some (c.toNat - 'A'.toNat + 10)
  else none

/-- Four hexadecimal digits, or the failure they give: too few bytes left ends the
string early, others are a bad escape placed after four bytes. -/
def hex4 (cs : List Char) (line col : Nat) : Except (SyntaxFault × Nat × Nat) (Nat × Nat × Nat) :=
  match cs with
  | a :: b :: c :: d :: _ =>
    match hexVal a, hexVal b, hexVal c, hexVal d with
    | some x, some y, some z, some w => .ok (((x * 16 + y) * 16 + z) * 16 + w, line, col + 4)
    | _, _, _, _ => let (l, c') := advanceBytes cs 4 line col; .error (.invalidEscape, l, c')
  | _ =>
    if cs.foldl (fun n ch => n + ch.utf8Size) 0 ≥ 4 then
      let (l, c') := advanceBytes cs 4 line col; .error (.invalidEscape, l, c')
    else let (l, c') := endPlace cs line col; .error (.eofString, l, c')

/-- A character from a code point known to be valid. -/
def codeChar (n : Nat) : Char := Char.ofNat n

/-- Scan a string body after its opening quote, collecting its text in reverse. -/
def scanString (cs : List Char) (acc : List Char) (line col : Nat) : StrEnd :=
  match cs with
  | [] => .fault .eofString line col
  | c :: rest =>
    if c = '"' then .closed acc rest line (col + 1)
    else if c = '\\' then
      match rest with
      | [] => .fault .eofString line (col + 1)
      | e :: rest' =>
        let col2 := col + 2
        if e = '"' then scanString rest' ('"' :: acc) line col2
        else if e = '\\' then scanString rest' ('\\' :: acc) line col2
        else if e = '/' then scanString rest' ('/' :: acc) line col2
        else if e = 'b' then scanString rest' ('\x08' :: acc) line col2
        else if e = 'f' then scanString rest' ('\x0c' :: acc) line col2
        else if e = 'n' then scanString rest' ('\n' :: acc) line col2
        else if e = 'r' then scanString rest' ('\r' :: acc) line col2
        else if e = 't' then scanString rest' ('\t' :: acc) line col2
        else if e = 'u' then
          match hex4 rest' line col2 with
          | .error (f, l, c) => .fault f l c
          | .ok (n, l, c) =>
            if 0xDC00 ≤ n && n ≤ 0xDFFF then .fault .loneLeadingSurrogate l c
            else if n < 0xD800 || 0xDBFF < n then scanString (rest'.drop 4) (codeChar n :: acc) l c
            else
              match rest' with
              | _ :: _ :: _ :: _ :: ch :: after2 =>
                if ch = '\\' then
                  match after2 with
                  | [] => .fault .eofString l (c + 1)
                  | u :: after3 =>
                    if u = 'u' then
                      match hex4 after3 l (c + 2) with
                      | .error (f, l', c') => .fault f l' c'
                      | .ok (n2, l', c') =>
                        if 0xDC00 ≤ n2 && n2 ≤ 0xDFFF then
                          let cp := (((n - 0xD800) * 1024) ||| (n2 - 0xDC00)) + 0x10000
                          scanString (after3.drop 4) (codeChar cp :: acc) l' c'
                        else .fault .loneLeadingSurrogate l' c'
                    else .fault .unexpectedEndOfHexEscape l (c + 2)
                else
                  let (l', c') := if ch = '\n' then (l + 1, 0) else (l, c + 1)
                  .fault .unexpectedEndOfHexEscape l' c'
              | _ => .fault .eofString l c
        else
          let (l, c') := if e = '\n' then (line + 1, 0) else (line, col + 2)
          .fault .invalidEscape l c'
    else if c.toNat < 0x20 then
      let (l, c') := if c = '\n' then (line + 1, 0) else (line, col + 1)
      .fault .controlCharacter l c'
    else scanString rest (c :: acc) line (col + c.utf8Size)
termination_by cs.length
decreasing_by
  all_goals simp only [List.length_cons, List.length_drop]
  all_goals omega

/-- Scan a string body that is not kept, after its opening quote. A four-digit escape
may name any code unit, so unpaired surrogates pass, and a raw control character is
reported at its own place rather than after it. -/
def skipString (cs : List Char) (line col : Nat) : StrEnd :=
  match cs with
  | [] => .fault .eofString line col
  | c :: rest =>
    if c = '"' then .closed [] rest line (col + 1)
    else if c = '\\' then
      match rest with
      | [] => .fault .eofString line (col + 1)
      | e :: rest' =>
        if e = '"' || e = '\\' || e = '/' || e = 'b' || e = 'f' || e = 'n' || e = 'r' || e = 't' then
          skipString rest' line (col + 2)
        else if e = 'u' then
          match hex4 rest' line (col + 2) with
          | .error (f, l, c) => .fault f l c
          | .ok (_, l, c) => skipString (rest'.drop 4) l c
        else
          let (l, c') := if e = '\n' then (line + 1, 0) else (line, col + 2)
          .fault .invalidEscape l c'
    else if c.toNat < 0x20 then .fault .controlCharacter line col
    else skipString rest line (col + c.utf8Size)
termination_by cs.length
decreasing_by
  all_goals simp only [List.length_cons, List.length_drop]
  all_goals omega

/-- The largest 64-bit unsigned value. -/
def u64Max : Nat := Nat.pow 2 64 - 1

/-- Whether `acc * 10 + d` would pass `limit`. -/
def overflows (acc d limit : Nat) : Bool := acc ≥ limit / 10 && (acc > limit / 10 || d > limit % 10)

/-- Powers of ten as doubles, `10^0` to `10^308`. -/
def pow10 (k : Nat) : Float := Float.ofScientific 1 false k

/-- Scale a significand by a power of ten as a double, failing (with `none`) past the
largest double. -/
def fromParts (positive : Bool) (significand : Nat) (exponent : Int) : Option Float :=
  let rec go (f : Float) (e : Int) : Nat → Option Float
    | 0 => some f
    | fuel + 1 =>
      if e.natAbs ≤ 308 then
        if e ≥ 0 then
          let g := f * pow10 e.natAbs
          if g.isInf then none else some g
        else some (f / pow10 e.natAbs)
      else if f == 0 then some f
      else if e ≥ 0 then none
      else go (f / 1e308) (e + 308) fuel
  let f := (UInt64.ofNat significand).toFloat
  (go f exponent 8).map fun g => if positive then g else -g

end DocStore.JsonScan

namespace DocStore.JsonScan

/-- A scanned number, or a fault with the offset (in characters from the number's first
digit) where it is placed; on success the characters left and the count taken. -/
abbrev NumResult := Except (SyntaxFault × Nat) (JsonNumber × List Char × Nat)

/-- The offset one character past `off`, unless the text has ended. -/
def peekOff (cs : List Char) (off : Nat) : Nat := if cs.isEmpty then off else off + 1

/-- The 32-bit signed range, as exponents saturate to it. -/
def clampI32 (x : Int) : Int := max (-2147483648) (min 2147483647 x)

/-- A double from significand and decimal exponent, or out of range at `off`. -/
def finishFloat (positive : Bool) (sig : Nat) (e : Int) (cs : List Char) (off : Nat) : NumResult :=
  match fromParts positive sig e with
  | some f => .ok (.float f.toBits, cs, off)
  | none => .error (.numberOutOfRange, off)

/-- Skip ASCII digits. -/
def skipDigits : List Char → Nat → List Char × Nat
  | c :: rest, off => if c.isDigit then skipDigits rest (off + 1) else (c :: rest, off)
  | [], off => ([], off)

/-- The exponent digits after the sign: `exp` so far; an exponent past 2^31 - 1 gives
zero, or fails for a non-zero significand and a positive sign. -/
def exponentDigits (positive : Bool) (sig : Nat) (startExp : Int) (positiveExp : Bool) :
    Nat → List Char → Nat → NumResult
  | exp, c :: rest, off =>
    if c.isDigit then
      let d := c.toNat - '0'.toNat
      if overflows exp d 2147483647 then
        if sig ≠ 0 && positiveExp then .error (.numberOutOfRange, off + 1)
        else
          let (rest', off') := skipDigits rest (off + 1)
          .ok (.float (if positive then (0.0 : Float) else -0.0).toBits, rest', off')
      else exponentDigits positive sig startExp positiveExp (exp * 10 + d) rest (off + 1)
    else
      let e := if positiveExp then clampI32 (startExp + exp) else clampI32 (startExp - exp)
      finishFloat positive sig e (c :: rest) off
  | exp, [], off =>
    let e := if positiveExp then clampI32 (startExp + exp) else clampI32 (startExp - exp)
    finishFloat positive sig e [] off

/-- The exponent after `e` or `E` (already taken). -/
def exponentPart (positive : Bool) (sig : Nat) (startExp : Int) (cs : List Char) (off : Nat) : NumResult :=
  let (positiveExp, cs, off) :=
    match cs with
    | '+' :: rest => (true, rest, off + 1)
    | '-' :: rest => (false, rest, off + 1)
    | _ => (true, cs, off)
  match cs with
  | [] => .error (.eofValue, off)
  | c :: rest =>
    if c.isDigit then exponentDigits positive sig startExp positiveExp (c.toNat - '0'.toNat) rest (off + 1)
    else .error (.invalidNumber, off + 1)

/-- After the significand: an exponent, or the double itself. -/
def afterDigits (positive : Bool) (sig : Nat) (e : Int) : List Char → Nat → NumResult
  | c :: rest, off =>
    if c = 'e' || c = 'E' then exponentPart positive sig e rest (off + 1)
    else finishFloat positive sig e (c :: rest) off
  | [], off => finishFloat positive sig e [] off

/-- Fraction digits after the point: `sig` so far and `fracExp` digits taken (negated). -/
def fractionDigits (positive : Bool) (expBefore : Int) :
    Nat → Int → List Char → Nat → NumResult
  | sig, fracExp, c :: rest, off =>
    if c.isDigit then
      let d := c.toNat - '0'.toNat
      if overflows sig d u64Max then
        -- the significand is full: further digits are ignored
        let (rest', off') := skipDigits (c :: rest) off
        afterDigits positive sig (expBefore + fracExp) rest' off'
      else fractionDigits positive expBefore (sig * 10 + d) (fracExp - 1) rest (off + 1)
    else if fracExp = 0 then .error (.invalidNumber, off + 1)
    else afterDigits positive sig (expBefore + fracExp) (c :: rest) off
  | sig, fracExp, [], off =>
    if fracExp = 0 then .error (.eofValue, off)
    else afterDigits positive sig (expBefore + fracExp) [] off

/-- Integer digits past the 64-bit significand: each one raises the exponent. -/
def longDigits (positive : Bool) (sig : Nat) : Int → List Char → Nat → NumResult
  | e, c :: rest, off =>
    if c.isDigit then longDigits positive sig (e + 1) rest (off + 1)
    else if c = '.' then fractionDigits positive e sig 0 rest (off + 1)
    else if c = 'e' || c = 'E' then exponentPart positive sig e rest (off + 1)
    else finishFloat positive sig e (c :: rest) off
  | e, [], off => finishFloat positive sig e [] off

/-- The end of an integer part: a fraction, an exponent, or an exact integer. -/
def afterInteger (positive : Bool) (sig : Nat) (cs : List Char) (off : Nat) : NumResult :=
  match cs with
  | '.' :: rest => fractionDigits positive 0 sig 0 rest (off + 1)
  | 'e' :: rest | 'E' :: rest => exponentPart positive sig 0 rest (off + 1)
  | _ =>
    if positive then .ok (.nat sig, cs, off)
    else if 0 < sig && sig ≤ Nat.pow 2 63 then .ok (.neg (-(sig : Int)), cs, off)
    else .ok (.float (-(UInt64.ofNat sig).toFloat).toBits, cs, off)

/-- Integer digits after the first non-zero one. -/
def integerDigits (positive : Bool) : Nat → List Char → Nat → NumResult
  | sig, c :: rest, off =>
    if c.isDigit then
      let d := c.toNat - '0'.toNat
      if overflows sig d u64Max then longDigits positive sig 0 (c :: rest) off
      else integerDigits positive (sig * 10 + d) rest (off + 1)
    else afterInteger positive sig (c :: rest) off
  | sig, [], off => afterInteger positive sig [] off

/-- A number after its optional minus sign. -/
def number (positive : Bool) (cs : List Char) : NumResult :=
  match cs with
  | [] => .error (.eofValue, 0)
  | '0' :: rest =>
    match rest with
    | d :: _ => if d.isDigit then .error (.invalidNumber, 2) else afterInteger positive 0 rest 1
    | [] => afterInteger positive 0 [] 1
  | c :: rest =>
    if c.isDigit then integerDigits positive (c.toNat - '0'.toNat) rest 1
    else .error (.invalidNumber, 1)

/-- Whether a number's digits are well formed, without computing its value (for values
that are skipped): integer part, fraction and exponent as in `number`; a missing digit
is always an invalid number here, never the end of the value. -/
def skipNumber (cs : List Char) : Except (SyntaxFault × Nat) (List Char × Nat) :=
  let intPart : Except (SyntaxFault × Nat) (List Char × Nat) :=
    match cs with
    | [] => .error (.invalidNumber, 0)
    | '0' :: rest =>
      match rest with
      | d :: _ => if d.isDigit then .error (.invalidNumber, 2) else .ok (rest, 1)
      | [] => .ok ([], 1)
    | c :: rest => if c.isDigit then .ok (skipDigits rest 1) else .error (.invalidNumber, 1)
  match intPart with
  | .error e => .error e
  | .ok (cs, off) =>
    let frac : Except (SyntaxFault × Nat) (List Char × Nat) :=
      match cs with
      | '.' :: rest =>
        match rest with
        | d :: _ => if d.isDigit then .ok (skipDigits rest (off + 1)) else .error (.invalidNumber, off + 2)
        | [] => .error (.invalidNumber, off + 1)
      | _ => .ok (cs, off)
    match frac with
    | .error e => .error e
    | .ok (cs, off) =>
      match cs with
      | 'e' :: rest | 'E' :: rest =>
        let (rest, off) :=
          match rest with
          | '+' :: r | '-' :: r => (r, off + 2)
          | _ => (rest, off + 1)
        match rest with
        | d :: _ => if d.isDigit then .ok (skipDigits rest off) else .error (.invalidNumber, off + 1)
        | [] => .error (.invalidNumber, off)
      | _ => .ok (cs, off)

end DocStore.JsonScan
