/-
  DocStore.Json.Value — JSON values as the store reads and writes them.

  A number is one of three kinds, as JSON readers of this format tell them apart: a
  non-negative integer below 2^64, a negative integer of at least -2^63, or a finite
  double, kept as its IEEE bits so that values have decidable equality. Objects keep
  their members in the order given; readers that want a sorted, last-write-wins map
  build it with `Json.sortedObj`.
-/

namespace DocStore

/-- A JSON number: an unsigned integer, a negative integer, or a double (its bits). -/
inductive JsonNumber where
  | nat (n : Nat)
  | neg (n : Int)
  | float (bits : UInt64)
  deriving DecidableEq, Repr, Inhabited

/-- A JSON value. -/
inductive Json where
  | null
  | bool (b : Bool)
  | num (n : JsonNumber)
  | str (s : String)
  | arr (items : List Json)
  | obj (members : List (String × Json))
  deriving Repr, Inhabited

namespace Json

/-- Structural equality of JSON values (members compared in order). -/
def beq : Json → Json → Bool
  | .null, .null => true
  | .bool a, .bool b => a == b
  | .num a, .num b => decide (a = b)
  | .str a, .str b => a == b
  | .arr a, .arr b => beqList a b
  | .obj a, .obj b => beqMembers a b
  | _, _ => false
where
  beqList : List Json → List Json → Bool
    | [], [] => true
    | x :: xs, y :: ys => beq x y && beqList xs ys
    | _, _ => false
  beqMembers : List (String × Json) → List (String × Json) → Bool
    | [], [] => true
    | (k, x) :: xs, (l, y) :: ys => k == l && beq x y && beqMembers xs ys
    | _, _ => false

instance : BEq Json := ⟨beq⟩

/-- Insert into a key-sorted member list, replacing an equal key. -/
def insertSorted (k : String) (v : Json) : List (String × Json) → List (String × Json)
  | [] => [(k, v)]
  | (k', v') :: rest =>
    if k < k' then (k, v) :: (k', v') :: rest
    else if k = k' then (k, v) :: rest
    else (k', v') :: insertSorted k v rest

/-- An object from members, sorted by key bytes; of repeated keys the last one stays. -/
def sortedObj (members : List (String × Json)) : Json :=
  .obj (members.foldl (fun acc (k, v) => insertSorted k v acc) [])

/-- The member named `k`, if any (the first one). -/
def field? (j : Json) (k : String) : Option Json :=
  match j with
  | .obj ms => (ms.find? (·.1 == k)).map (·.2)
  | _ => none

/-- Replace or add member `k` of an object; other values are left alone. -/
def setField (j : Json) (k : String) (v : Json) : Json :=
  match j with
  | .obj ms =>
    if ms.any (·.1 == k) then .obj (ms.map fun (k', v') => if k' == k then (k', v) else (k', v'))
    else .obj (ms ++ [(k, v)])
  | other => other

/-- Drop member `k` of an object. -/
def eraseField (j : Json) (k : String) : Json :=
  match j with
  | .obj ms => .obj (ms.filter (·.1 != k))
  | other => other

def ofNat (n : Nat) : Json := .num (.nat n)

def ofInt (i : Int) : Json := if 0 ≤ i then .num (.nat i.toNat) else .num (.neg i)

def ofFloat (f : Float) : Json := .num (.float f.toBits)

def ofStrings (xs : List String) : Json := .arr (xs.map .str)

def opt (f : α → Json) : Option α → Json
  | some a => f a
  | none => .null

/-- The string inside, if this is a string. -/
def getStr? : Json → Option String
  | .str s => some s
  | _ => none

def getBool? : Json → Option Bool
  | .bool b => some b
  | _ => none

/-- The value as a natural number, if it is a non-negative integer. -/
def getNat? : Json → Option Nat
  | .num (.nat n) => some n
  | _ => none

/-- The value as an integer, if it is one. -/
def getInt? : Json → Option Int
  | .num (.nat n) => some n
  | .num (.neg n) => some n
  | _ => none

def getArr? : Json → Option (List Json)
  | .arr xs => some xs
  | _ => none

def getObj? : Json → Option (List (String × Json))
  | .obj ms => some ms
  | _ => none

end Json

end DocStore
