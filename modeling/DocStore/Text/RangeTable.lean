/-
  DocStore.Text.RangeTable — sets of code points given as sorted, disjoint,
  inclusive ranges, with membership by binary search.
-/

namespace DocStore.Text

/-- Sorted, disjoint, inclusive ranges of code points. -/
structure RangeTable where
  ranges : Array (Nat × Nat)

namespace RangeTable

/-- Binary search for `n` among the ranges with index in `[lo, hi)`. -/
def search (t : RangeTable) (n : Nat) (lo hi : Nat) : Bool :=
  if h : lo < hi then
    let mid := (lo + hi) / 2
    let r := t.ranges.getD mid (0, 0)
    if n < r.1 then search t n lo mid
    else if r.2 < n then search t n (mid + 1) hi
    else true
  else false
termination_by hi - lo

/-- Whether code point `n` lies in one of the ranges. -/
def containsNat (t : RangeTable) (n : Nat) : Bool := t.search n 0 t.ranges.size

/-- Whether character `c` lies in one of the ranges. -/
def contains (t : RangeTable) (c : Char) : Bool := t.containsNat c.toNat

end RangeTable

end DocStore.Text
