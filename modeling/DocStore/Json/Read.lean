import DocStore.Json.Scan
/-
  DocStore.Json.Read — reading JSON values, and the steps typed readers are built from.

  `value` reads any JSON value; an object becomes one with its members sorted by key, a
  repeated key keeping its last value. `skip` checks the grammar of a value it does not
  keep (numbers are not evaluated, and nesting is not limited). Arrays and objects are
  read member by member: a comma before the first member or a missing comma are
  faults, as are a comma before the closing bracket and a key that is not a string.
  After a body, whatever failed inside it wins over a fault at the closing bracket.
-/

namespace DocStore.JsonRead

/-- Read a string body after its opening quote. -/
def string : JsonRead String := do
  let k ← get
  match JsonScan.scanString k.rest [] k.line k.column with
  | .closed acc rest line col =>
    set { k with rest := rest, line := line, column := col }
    pure (String.ofList acc.reverse)
  | .fault f line col =>
    set { k with line := line, column := col }
    throw ⟨.malformed f, some ⟨line, col⟩⟩

/-- Pass over a string body after its opening quote, checking only its shape. -/
def skipStringBody : JsonRead Unit := do
  let k ← get
  match JsonScan.skipString k.rest k.line k.column with
  | .closed _ rest line col => set { k with rest := rest, line := line, column := col }
  | .fault f line col =>
    set { k with line := line, column := col }
    throw ⟨.malformed f, some ⟨line, col⟩⟩

/-- Read a number after its optional minus sign. -/
def number (positive : Bool) : JsonRead JsonNumber := do
  let k ← get
  match JsonScan.number positive k.rest with
  | .ok (n, rest, off) =>
    set { k with rest := rest, column := k.column + off }
    pure n
  | .error (f, off) =>
    set { k with column := k.column + off }
    throw ⟨.malformed f, some ⟨k.line, k.column + off⟩⟩

/-- Check a number's grammar after its optional minus sign, without its value. -/
def skipNumberText : JsonRead Unit := do
  let k ← get
  match JsonScan.skipNumber k.rest with
  | .ok (rest, off) => set { k with rest := rest, column := k.column + off }
  | .error (f, off) =>
    set { k with column := k.column + off }
    throw ⟨.malformed f, some ⟨k.line, k.column + off⟩⟩

/-- What a number is, as something found where another thing was expected. -/
def JsonNumber.found : JsonNumber → Found
  | .nat n => .unsigned n
  | .neg i => .signed i
  | .float b => .float b

/-- Fail because the next value is not of the expected kind; scalars are read to name
them, an array or object is named without being read. -/
def wrongKind (expected : String) : JsonRead α := placed do
  match ← peek with
  | some 'n' => bump; keywordTail ['u', 'l', 'l']; reject (.invalidType .null expected)
  | some 't' => bump; keywordTail ['r', 'u', 'e']; reject (.invalidType (.bool true) expected)
  | some 'f' => bump; keywordTail ['a', 'l', 's', 'e']; reject (.invalidType (.bool false) expected)
  | some '-' => bump; let n ← number false; reject (.invalidType (JsonNumber.found n) expected)
  | some '"' => bump; let s ← string; reject (.invalidType (.str s) expected)
  | some '[' => reject (.invalidType .seq expected)
  | some '{' => reject (.invalidType .map expected)
  | some c =>
    if c.isDigit then do let n ← number true; reject (.invalidType (JsonNumber.found n) expected)
    else failPeek .expectedValue
  | none => failPeek .expectedValue

/-- Whether another element follows in an array (the cursor then stands at it). -/
def nextElement (first : Bool) : JsonRead Bool := do
  let c ← skipBlanks
  let c ← match c with
    | some ']' => return false
    | some ',' => if first then pure (some ',') else do bump; skipBlanks
    | some c => if first then pure (some c) else failPeek .expectedListCommaOrEnd
    | none => failPeek .eofList
  match c with
  | some ']' => failPeek .trailingComma
  | some _ => pure true
  | none => failPeek .eofValue

/-- The next key of an object, or `none` at its end (the closing brace is not taken). -/
def nextKey (first : Bool) : JsonRead (Option String) := do
  let c ← skipBlanks
  let c ← match c with
    | some '}' => return none
    | some ',' => if first then pure (some ',') else do bump; skipBlanks
    | some c => if first then pure (some c) else failPeek .expectedObjectCommaOrEnd
    | none => failPeek .eofObject
  match c with
  | some '"' => bump; some <$> string
  | some '}' => failPeek .trailingComma
  | some _ => failPeek .keyMustBeString
  | none => failPeek .eofValue

/-- The colon between a key and its value. -/
def colon : JsonRead Unit := do
  match ← skipBlanks with
  | some ':' => bump
  | some _ => failPeek .expectedColon
  | none => failPeek .eofObject

/-- The end of an array. -/
def endArray : JsonRead Unit := do
  match ← skipBlanks with
  | some ']' => bump
  | some ',' =>
    bump
    match ← skipBlanks with
    | some ']' => failPeek .trailingComma
    | _ => failPeek .trailingCharacters
  | some _ => failPeek .trailingCharacters
  | none => failPeek .eofList

/-- The end of an object. -/
def endObject : JsonRead Unit := do
  match ← skipBlanks with
  | some '}' => bump
  | some ',' => failPeek .trailingComma
  | some _ => failPeek .trailingCharacters
  | none => failPeek .eofObject

/-- Read a bracketed body: take the opening bracket (one nesting level), run `body`, then
`close`; a failure of the body wins over one of the close. -/
def bracketed (body : JsonRead α) (close : JsonRead Unit) : JsonRead α := do
  let r ← nested (do bump; attempt body)
  let c ← attempt close
  match r, c with
  | .ok a, .ok () => pure a
  | .error e, _ => throw e
  | .ok _, .error e => throw e

mutual

/-- Read any value (at most `fuel` nested steps). -/
def value : Nat → JsonRead Json
  | 0 => failPeek .recursionLimit
  | fuel + 1 => placed do
    match ← skipBlanks with
    | none => failPeek .eofValue
    | some c =>
      if c = 'n' then do bump; keywordTail ['u', 'l', 'l']; pure .null
      else if c = 't' then do bump; keywordTail ['r', 'u', 'e']; pure (.bool true)
      else if c = 'f' then do bump; keywordTail ['a', 'l', 's', 'e']; pure (.bool false)
      else if c = '-' then do bump; .num <$> number false
      else if c.isDigit then .num <$> number true
      else if c = '"' then do bump; .str <$> string
      else if c = '[' then .arr <$> bracketed (items fuel true []) endArray
      else if c = '{' then Json.sortedObj <$> bracketed (members fuel true []) endObject
      else failPeek .expectedValue

/-- The remaining items of an array, collected in reverse. -/
def items : Nat → Bool → List Json → JsonRead (List Json)
  | 0, _, _ => failPeek .recursionLimit
  | fuel + 1, first, acc => do
    if ← nextElement first then
      let v ← value fuel
      items fuel false (v :: acc)
    else pure acc.reverse

/-- The remaining members of an object, in order. -/
def members : Nat → Bool → List (String × Json) → JsonRead (List (String × Json))
  | 0, _, _ => failPeek .recursionLimit
  | fuel + 1, first, acc => do
    match ← nextKey first with
    | none => pure acc.reverse
    | some k =>
      colon
      let v ← value fuel
      members fuel false ((k, v) :: acc)

end

/-- Check the grammar of a value without keeping it (at most `fuel` steps). -/
def skip : Nat → JsonRead Unit
  | 0 => failPeek .recursionLimit
  | fuel + 1 => do
    match ← skipBlanks with
    | none => failPeek .eofValue
    | some c =>
      if c = 'n' then do bump; keywordTail ['u', 'l', 'l']
      else if c = 't' then do bump; keywordTail ['r', 'u', 'e']
      else if c = 'f' then do bump; keywordTail ['a', 'l', 's', 'e']
      else if c = '-' then do bump; skipNumberText
      else if c.isDigit then skipNumberText
      else if c = '"' then do bump; skipStringBody
      else if c = '[' then do bump; skipItems fuel true
      else if c = '{' then do bump; skipMembers fuel true
      else failPeek .expectedValue
where
  /-- Skip the rest of an array up to and including its closing bracket. -/
  skipItems : Nat → Bool → JsonRead Unit
    | 0, _ => failPeek .recursionLimit
    | fuel + 1, first => do
      match ← skipBlanks with
      | some ']' => bump
      | some ',' =>
        if first then skip fuel *> skipItems fuel false
        else do bump; skip fuel; skipItems fuel false
      | some _ => if first then do skip fuel; skipItems fuel false else failPeek .expectedListCommaOrEnd
      | none => failPeek .eofList
  /-- Skip the rest of an object up to and including its closing brace. -/
  skipMembers : Nat → Bool → JsonRead Unit
    | 0, _ => failPeek .recursionLimit
    | fuel + 1, first => do
      match ← skipBlanks with
      | some '}' => bump
      | some ',' =>
        if first then failPeek .keyMustBeString
        else do bump; skipMember fuel; skipMembers fuel false
      | some _ => if first then do skipMember fuel; skipMembers fuel false else failPeek .expectedObjectCommaOrEnd
      | none => failPeek .eofObject
  /-- Skip one key, its colon and its value. -/
  skipMember : Nat → JsonRead Unit
    | 0 => failPeek .recursionLimit
    | fuel + 1 => do
      match ← skipBlanks with
      | some '"' => do
        bump; skipStringBody
        match ← skipBlanks with
        | some ':' => bump
        | some _ => failPeek .expectedColon
        | none => failPeek .eofObject
        skip fuel
      | some _ => failPeek .keyMustBeString
      | none => failPeek .eofObject

/-- Enough steps for any value in the text: each level of nesting takes two steps and at
least one character, and each further item one step and two characters, so twice the
text's length (fixed when reading starts) is never exhausted. -/
def fuelFor : JsonRead Nat := do return (← get).budget

/-- The end of a text: only blanks may remain. -/
def finish : JsonRead Unit := do
  match ← skipBlanks with
  | some _ => failPeek .trailingCharacters
  | none => pure ()

/-- Run a reader over a whole text. -/
def run (r : JsonRead α) (s : String) : Except ReadError α :=
  let whole : JsonRead α := do let a ← r; finish; pure a
  (StateT.run (ExceptT.run whole) (Cursor.start s)).1

/-- Read a JSON text into a value. -/
def parse (s : String) : Except ReadError Json :=
  run (do value (← fuelFor)) s

end DocStore.JsonRead
