/-
  DocStore.Text.Decimal — the shortest decimal that reads back as a given double, and
  the two ways the store writes it.

  A finite positive double is `m · 2^e`. The reals that round to it form an interval
  around it, half a unit of the last place wide on each side (a quarter below when `m`
  is the smallest mantissa of its binade), with the ends included when `m` is even.
  For one significant digit, then two, and so on, the two decimals of that many digits
  on either side of the value are tried; the first count with a decimal inside the
  interval wins, the nearer of two such decimals is taken, and an exact tie goes to the
  even one. All comparisons are exact, in natural numbers.

  Two layouts of the digits are used: `positional` (never an exponent, no `.0` on whole
  numbers) for texts meant for people, and `jsonText` for JSON numbers (an exponent
  outside `1e-5 ≤ |x| < 1e16`, and `.0` on whole numbers written positionally).
-/

namespace DocStore.Text.Decimal

/-- A double taken apart: sign, and the magnitude as `mant · 2^exp` (zero has `mant = 0`). -/
structure Parts where
  negative : Bool
  mant : Nat
  exp : Int
  /-- The lower neighbour is closer than the upper one (smallest mantissa of a binade). -/
  lowerCloser : Bool
  deriving Repr, DecidableEq

/-- What kind of double a bit pattern is. -/
inductive Kind where
  | finite (p : Parts)
  | infinite (negative : Bool)
  | nan
  deriving Repr, DecidableEq

/-- Read the IEEE 754 binary64 fields of a bit pattern. -/
def decode (bits : UInt64) : Kind :=
  let b := bits.toNat
  let negative : Bool := b / Nat.pow 2 63 % 2 == 1
  let biased : Nat := b / Nat.pow 2 52 % Nat.pow 2 11
  let frac : Nat := b % Nat.pow 2 52
  if biased = 2047 then (if frac = 0 then .infinite negative else .nan)
  else if biased = 0 then .finite ⟨negative, frac, -1074, false⟩
  else .finite ⟨negative, frac + Nat.pow 2 52, (biased : Int) - 1075, frac = 0 && biased > 1⟩

/-- Compare `d · 10^k` with `a · 2^t`, exactly. -/
def cmpScaled (d : Nat) (k : Int) (a : Nat) (t : Int) : Ordering :=
  let lhs := d * Nat.pow 10 k.toNat * Nat.pow 2 (-t).toNat
  let rhs := a * Nat.pow 2 t.toNat * Nat.pow 10 (-k).toNat
  compare lhs rhs

/-- The largest `t` with `10^t ≤ m · 2^e`, for `m > 0`, found by stepping from `guess`. -/
def floorLog10 (m : Nat) (e : Int) : Int :=
  -- 10^t ≤ v  iff  cmpScaled 1 t m e ≠ gt
  let fits (t : Int) : Bool := cmpScaled 1 t m e != .gt
  let guess : Int := ((e + (Nat.log2 m : Int)) * 30103) / 100000
  let rec up (t : Int) : Nat → Int
    | 0 => t
    | fuel + 1 => if fits (t + 1) then up (t + 1) fuel else t
  let rec down (t : Int) : Nat → Int
    | 0 => t
    | fuel + 1 => if fits t then t else down (t - 1) fuel
  if fits guess then up guess 8 else down (guess - 1) 8

/-- Whether `d · 10^k` lies in the interval of reals that round to `p`. -/
def inInterval (p : Parts) (d : Nat) (k : Int) : Bool :=
  let lowGap := if p.lowerCloser then 1 else 2
  let lo := cmpScaled d k (4 * p.mant - lowGap) (p.exp - 2)
  let hi := cmpScaled d k (4 * p.mant + 2) (p.exp - 2)
  if p.mant % 2 == 0 then lo != .lt && hi != .gt else lo == .gt && hi == .lt

/-- Strip trailing zeros: `d · 10^k` with `d` not a multiple of ten (unless zero). -/
def normalize (d : Nat) (k : Int) : Nat × Int :=
  let rec go (d : Nat) (k : Int) : Nat → Nat × Int
    | 0 => (d, k)
    | fuel + 1 => if d ≠ 0 && d % 10 == 0 then go (d / 10) (k + 1) fuel else (d, k)
  go d k 20

/-- The candidates with `n` significant digits: `d · 10^k` and `(d + 1) · 10^k` around the value. -/
def candidate (p : Parts) (top : Int) (n : Nat) : Option (Nat × Int) :=
  let k := top - n + 1
  -- d = floor (m · 2^e / 10^k)
  let num := p.mant * Nat.pow 2 p.exp.toNat * Nat.pow 10 (-k).toNat
  let den := Nat.pow 2 (-p.exp).toNat * Nat.pow 10 k.toNat
  let d := num / den
  let lowOk := inInterval p d k
  let highOk := inInterval p (d + 1) k
  if lowOk && highOk then
    -- distance of d·10^k below v against (d+1)·10^k above v: compare 2v with (2d+1)·10^k
    match cmpScaled (2 * d + 1) k (2 * p.mant) p.exp with
    | .lt => some (d + 1, k)
    | .gt => some (d, k)
    | .eq => some (if d % 2 == 0 then d else d + 1, k)
  else if lowOk then some (d, k)
  else if highOk then some (d + 1, k)
  else none

/-- The shortest digits `d` and exponent `k` with `d · 10^k` reading back as `p` (`p.mant > 0`). -/
def shortest (p : Parts) : Nat × Int :=
  let top := floorLog10 p.mant p.exp
  let rec go : List Nat → Nat × Int
    | [] => (p.mant, p.exp)
    | n :: rest =>
      match candidate p top n with
      | some (d, k) => normalize d k
      | none => go rest
  go (List.range' 1 17)

/-- Digits of a natural number in base ten. -/
def digitsOf (n : Nat) : String := toString n

/-- `n` zeros. -/
def zeros (n : Nat) : String := String.ofList (List.replicate n '0')

/-- The digits `ds` with the decimal point after `point` of them (`point` may be out of range). -/
def place (ds : String) (point : Int) : String :=
  let len : Int := ds.length
  if point ≥ len then ds ++ zeros (point - len).toNat
  else if point ≤ 0 then "0." ++ zeros (-point).toNat ++ ds
  else String.ofList (ds.toList.take point.toNat) ++ "." ++ String.ofList (ds.toList.drop point.toNat)

/-- Positional text without exponent and without `.0` on whole numbers: `1e21` is
`1000000000000000000000`, `1e-7` is `0.0000001`, negative zero is `-0`. -/
def positional (f : Float) : String :=
  match decode f.toBits with
  | .nan => "NaN"
  | .infinite neg => if neg then "-inf" else "inf"
  | .finite p =>
    let sign := if p.negative then "-" else ""
    if p.mant = 0 then sign ++ "0"
    else
      let (d, k) := shortest p
      let ds := digitsOf d
      sign ++ place ds (ds.length + k)

/-- JSON text of a finite double: whole numbers below `1e16` as `12.0`, other numbers
from `1e-5` to `1e16` positionally, and the rest as `1.5e+300` or `1e-7`. -/
def jsonText (f : Float) : String :=
  match decode f.toBits with
  | .nan | .infinite _ => "null"
  | .finite p =>
    let sign := if p.negative then "-" else ""
    if p.mant = 0 then sign ++ "0.0"
    else
      let (d, k) := shortest p
      let ds := digitsOf d
      let len : Int := ds.length
      let kk := len + k
      let expText (x : Int) : String := if x < 0 then "-" ++ toString x.natAbs else "+" ++ toString x
      if 0 ≤ k && kk ≤ 16 then sign ++ ds ++ zeros k.toNat ++ ".0"
      else if 0 < kk && kk ≤ 16 then sign ++ place ds kk
      else if -5 < kk && kk ≤ 0 then sign ++ place ds kk
      else if len = 1 then sign ++ ds ++ "e" ++ expText (kk - 1)
      else sign ++ place ds 1 ++ "e" ++ expText (kk - 1)

end DocStore.Text.Decimal
