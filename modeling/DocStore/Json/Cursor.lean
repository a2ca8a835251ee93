import DocStore.Json.Error
/-
  DocStore.Json.Cursor — the reading position in a JSON text, and the steps that move it.

  A cursor holds the characters still to read, the line and byte column reached, and
  how many more arrays or objects may be opened (128 at the start). Reading fails at the
  current place (after what was consumed) or at the peeked place (one byte further, as
  a reader that has looked at the next byte without taking it reports it).
-/

namespace DocStore

/-- Where a reader is in a JSON text. -/
structure Cursor where
  rest : List Char
  line : Nat := 1
  column : Nat := 0
  /-- How many more arrays or objects may be opened. -/
  depth : Nat := 128
  /-- Enough steps for any reading of the whole text, fixed when reading starts. -/
  budget : Nat := 0
  deriving Repr

/-- Reading a JSON text: a step that moves the cursor and may fail; a failure keeps the
cursor where it stopped, so a caller can place it. -/
abbrev JsonRead := ExceptT ReadError (StateM Cursor)

namespace Cursor

/-- A cursor at the start of a text. -/
def start (s : String) : Cursor :=
  let cs := s.toList
  { rest := cs, budget := 2 * cs.length + 4 }

/-- Advance the place over one character. -/
def advancePos (line column : Nat) (c : Char) : Nat × Nat :=
  if c = '\n' then (line + 1, 0) else (line, column + c.utf8Size)

/-- Take one character. -/
def bump (k : Cursor) : Cursor :=
  match k.rest with
  | c :: rest => let (l, col) := advancePos k.line k.column c; { k with rest := rest, line := l, column := col }
  | [] => k

/-- The current place. -/
def here (k : Cursor) : TextPos := ⟨k.line, k.column⟩

/-- The place one byte past the current one (the current place at the end). -/
def peekPlace (k : Cursor) : TextPos :=
  match k.rest with
  | '\n' :: _ => ⟨k.line + 1, 0⟩
  | _ :: _ => ⟨k.line, k.column + 1⟩
  | [] => ⟨k.line, k.column⟩

end Cursor

namespace JsonRead

/-- The next character, not taken. -/
def peek : JsonRead (Option Char) := do return (← get).rest.head?

/-- Take one character. -/
def bump : JsonRead Unit := modify Cursor.bump

/-- Fail with a syntax fault at the current place. -/
def fail (f : SyntaxFault) : JsonRead α := do
  throw ⟨.malformed f, some (← get).here⟩

/-- Fail with a syntax fault one byte past the current place. -/
def failPeek (f : SyntaxFault) : JsonRead α := do
  throw ⟨.malformed f, some (← get).peekPlace⟩

/-- Fail with a cause to be placed by the caller. -/
def reject (i : ReadIssue) : JsonRead α := throw ⟨i, none⟩

/-- Run `x`, turning a failure into a value, with the cursor where `x` stopped. -/
def attempt (x : JsonRead α) : JsonRead (Except ReadError α) :=
  tryCatch (Except.ok <$> x) (fun e => pure (.error e))

/-- Place an unplaced failure of `x` where the cursor stands when `x` stops. -/
def placed (x : JsonRead α) : JsonRead α :=
  tryCatch x fun e => do
    match e.pos with
    | some _ => throw e
    | none => throw { e with pos := some (← get).here }

/-- Run the body of an array or object: one level of nesting is used while it runs, and
opening one more than allowed fails before the bracket is taken. -/
def nested (body : JsonRead α) : JsonRead α := do
  let k ← get
  if k.depth ≤ 1 then failPeek .recursionLimit
  set { k with depth := k.depth - 1 }
  let r ← attempt body
  modify fun k' => { k' with depth := k'.depth + 1 }
  match r with
  | .ok a => pure a
  | .error e => throw e

/-- Skip blanks (space, tab, line feed, carriage return) and peek at what follows. -/
def skipBlanks : JsonRead (Option Char) := do
  let k ← get
  let rec go (rest : List Char) (line col : Nat) : List Char × Nat × Nat :=
    match rest with
    | c :: more =>
      if c = ' ' || c = '\t' || c = '\r' then go more line (col + 1)
      else if c = '\n' then go more (line + 1) 0
      else (rest, line, col)
    | [] => ([], line, col)
  let (rest, line, col) := go k.rest k.line k.column
  set { k with rest := rest, line := line, column := col }
  return rest.head?

/-- The letters of a keyword after its first one: a missing one is the end of the
value, a different one is not a keyword; each is taken before it is checked. -/
def keywordTail : List Char → JsonRead Unit
  | [] => pure ()
  | c :: more => do
    match ← peek with
    | none => fail .eofValue
    | some d =>
      bump
      if d = c then keywordTail more else fail .expectedIdent

end JsonRead

end DocStore
