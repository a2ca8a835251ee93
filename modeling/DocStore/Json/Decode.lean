import DocStore.Json.Read
import DocStore.Time.Parse
/-
  DocStore.Json.Decode — readers of typed values from JSON text.

  Each reader takes blanks, then expects one kind of value; anything else fails as
  "invalid type", naming what was found (a scalar is read to name it). A number of the
  right kind but out of range fails as "invalid value". A failure that a reader notices
  after reading (a missing field, an unknown variant, a bad timestamp) is placed where
  the reader stopped: after the closing brace of an object, after a string.

  A record is read from an object, or from an array holding its fields in order.
  Unknown members of an object are checked and skipped; a member given twice fails
  before its value is read. Enumerations are a string naming the variant, or an
  object with that name as its one key and `null` as value.
-/

namespace DocStore.JsonRead

/-- A string. -/
def text : JsonRead String := placed do
  match ← skipBlanks with
  | none => failPeek .eofValue
  | some '"' => bump; string
  | some _ => wrongKind "a string"

/-- A boolean. -/
def boolean : JsonRead Bool := placed do
  match ← skipBlanks with
  | none => failPeek .eofValue
  | some 't' => bump; keywordTail ['r', 'u', 'e']; pure true
  | some 'f' => bump; keywordTail ['a', 'l', 's', 'e']; pure false
  | some _ => wrongKind "a boolean"

/-- A natural number of at most `max`; `expected` names the type (`u32`, `usize`). -/
def natUpTo (max : Nat) (expected : String) : JsonRead Nat := placed do
  let check : JsonNumber → JsonRead Nat
    | .nat n => if n ≤ max then pure n else reject (.invalidValue (.unsigned n) expected)
    | .neg i => reject (.invalidValue (.signed i) expected)
    | .float b => reject (.invalidType (.float b) expected)
  match ← skipBlanks with
  | none => failPeek .eofValue
  | some '-' => bump; check (← number false)
  | some c => if c.isDigit then check (← number true) else wrongKind expected

def u16 : JsonRead Nat := natUpTo 65535 "u16"
def u32 : JsonRead Nat := natUpTo 4294967295 "u32"
def u64 : JsonRead Nat := natUpTo (Nat.pow 2 64 - 1) "u64"
def usize : JsonRead Nat := natUpTo (Nat.pow 2 64 - 1) "usize"

/-- `null` for none, otherwise the value. -/
def optional (x : JsonRead α) : JsonRead (Option α) := do
  match ← skipBlanks with
  | some 'n' => bump; keywordTail ['u', 'l', 'l']; pure none
  | _ => some <$> x

/-- A timestamp, as an RFC 3339 string. -/
def instant : JsonRead Instant := placed do
  match ← skipBlanks with
  | none => failPeek .eofValue
  | some '"' =>
    bump
    let s ← string
    match Instant.parse s with
    | .ok t => pure t
    | .error e => reject (.custom e.message)
  | some _ => wrongKind "an RFC 3339 formatted date and time string"

/-- Any value, kept. -/
def anyValue : JsonRead Json := do value (← fuelFor)

/-- Any value, checked and dropped. -/
def skipAny : JsonRead Unit := do skip (← fuelFor)

/-- Items of an array until its end, read by `item`. -/
def itemsOf (item : JsonRead α) : Nat → Bool → List α → JsonRead (List α)
  | 0, _, _ => failPeek .recursionLimit
  | fuel + 1, first, acc => do
    if ← nextElement first then itemsOf item fuel false ((← item) :: acc)
    else pure acc.reverse

/-- An array of values read by `item`. -/
def list (item : JsonRead α) : JsonRead (List α) := placed do
  match ← skipBlanks with
  | none => failPeek .eofValue
  | some '[' => bracketed (do itemsOf item (← fuelFor) true []) endArray
  | some _ => wrongKind "a sequence"

/-- Insert into a key-sorted association list, replacing an equal key. -/
def insertKey (k : String) (v : α) : List (String × α) → List (String × α)
  | [] => [(k, v)]
  | (k', v') :: rest =>
    if k < k' then (k, v) :: (k', v') :: rest
    else if k = k' then (k, v) :: rest
    else (k', v') :: insertKey k v rest

/-- Entries of an object until its end, kept sorted by key, a repeated key keeping its
last value. -/
def entriesOf (val : JsonRead α) : Nat → Bool → List (String × α) → JsonRead (List (String × α))
  | 0, _, _ => failPeek .recursionLimit
  | fuel + 1, first, acc => do
    match ← nextKey first with
    | none => pure acc
    | some k => colon; let v ← val; entriesOf val fuel false (insertKey k v acc)

/-- An object from string keys to values read by `val`, sorted by key. -/
def keyedMap (val : JsonRead α) : JsonRead (List (String × α)) := placed do
  match ← skipBlanks with
  | none => failPeek .eofValue
  | some '{' => bracketed (do entriesOf val (← fuelFor) true []) endObject
  | some _ => wrongKind "a map"

/-- The members of an object, each key handed to `step` (which reads the colon and
value), until the object ends. -/
def membersOf (step : σ → String → JsonRead σ) : Nat → Bool → σ → JsonRead σ
  | 0, _, _ => failPeek .recursionLimit
  | fuel + 1, first, s => do
    match ← nextKey first with
    | none => pure s
    | some k => membersOf step fuel false (← step s k)

/-- A record named `name`: from an object through `fromMembers`, or from an array through
`fromItems`. -/
def record (name : String) (fromMembers : JsonRead α) (fromItems : JsonRead α) : JsonRead α := placed do
  match ← skipBlanks with
  | none => failPeek .eofValue
  | some '[' => bracketed fromItems endArray
  | some '{' => bracketed fromMembers endObject
  | some _ => wrongKind ("struct " ++ name)

/-- A record named `name` that can only be read from an object. -/
def objectRecord (name : String) (fromMembers : JsonRead α) : JsonRead α := placed do
  match ← skipBlanks with
  | none => failPeek .eofValue
  | some '{' => bracketed fromMembers endObject
  | some _ => wrongKind ("struct " ++ name)

/-- A record field from an object member: refused if already given, else read after its colon. -/
def fieldOnce (name : String) (given : Option β) (read : JsonRead β) : JsonRead β := do
  if given.isSome then reject (.duplicateField name)
  colon
  read

/-- Skip the value of an unknown member. -/
def skipMember : JsonRead Unit := do colon; skipAny

/-- A field the record needs: its value, or "missing field". -/
def required (name : String) : Option β → JsonRead β
  | some v => pure v
  | none => reject (.missingField name)

/-- The next field of a record read from an array: the item, `dflt` when the array has
ended and the field has a default, else "invalid length". -/
def positional (read : JsonRead β) (dflt : Option β) (index : Nat) (expecting : String)
    (first : Bool) : JsonRead β := do
  if ← nextElement first then read
  else
    match dflt with
    | some d => pure d
    | none => reject (.invalidLength index expecting)

/-- A variant name of an enumeration. -/
def variantName (variants : List (String × α)) : JsonRead α := placed do
  match ← skipBlanks with
  | none => failPeek .eofValue
  | some '"' =>
    bump
    let s ← string
    match variants.find? (·.1 == s) with
    | some (_, v) => pure v
    | none => reject (.unknownVariant s (variants.map (·.1)))
  | some _ => wrongKind "variant identifier"

/-- `null`, as the value of a variant without data. -/
def unitValue : JsonRead Unit := placed do
  match ← skipBlanks with
  | none => failPeek .eofValue
  | some 'n' => bump; keywordTail ['u', 'l', 'l']
  | some _ => wrongKind "unit"

/-- An enumeration without data: `"name"`, or `{"name": null}`. -/
def enumeration (variants : List (String × α)) : JsonRead α := do
  match ← skipBlanks with
  | none => failPeek .eofValue
  | some '"' => variantName variants
  | some '{' =>
    let v ← nested do
      bump
      let v ← variantName variants
      colon
      unitValue
      pure v
    match ← skipBlanks with
    | some '}' => bump; pure v
    | some _ => fail .expectedValue
    | none => fail .eofObject
  | some _ => failPeek .expectedValue

end DocStore.JsonRead
