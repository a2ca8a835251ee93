import DocStore.Json.Value
import DocStore.Text.Decimal
/-
  DocStore.Json.Write — JSON text of a value, compact or indented.

  Strings escape the quote, the backslash and every control character below U+0020
  (backspace, tab, line feed, form feed and carriage return by their letters, others as
  `\u00XX` in lower-case hex); all other characters are written as they are. Members
  are written in the value's order. The indented form puts each item and member on a
  line of its own, two spaces deeper than its bracket, with `": "` after keys; empty
  arrays and objects stay `[]` and `{}`.
-/

namespace DocStore

namespace JsonText

/-- Lower-case hex digit. -/
def hexDigit (n : Nat) : Char := if n < 10 then Char.ofNat (48 + n) else Char.ofNat (87 + n)

/-- The escaped form of one character inside a string. -/
def escapeChar (c : Char) : List Char :=
  if c = '"' then ['\\', '"']
  else if c = '\\' then ['\\', '\\']
  else if c.toNat < 0x20 then
    if c = '\x08' then ['\\', 'b'] else if c = '\t' then ['\\', 't']
    else if c = '\n' then ['\\', 'n'] else if c = '\x0c' then ['\\', 'f']
    else if c = '\r' then ['\\', 'r']
    else ['\\', 'u', '0', '0', hexDigit (c.toNat / 16), hexDigit (c.toNat % 16)]
  else [c]

/-- A string literal. -/
def quote (s : String) : String := String.ofList ('"' :: (s.toList.flatMap escapeChar ++ ['"']))

/-- The text of a number. -/
def number : JsonNumber → String
  | .nat n => toString n
  | .neg i => toString i
  | .float b => Text.Decimal.jsonText (Float.ofBits b)

end JsonText

namespace Json

mutual

/-- Append the compact text of a value (no blanks between tokens) to `acc`. -/
def writeCompact (acc : String) : Json → String
  | .null => acc ++ "null"
  | .bool b => acc ++ (if b then "true" else "false")
  | .num n => acc ++ JsonText.number n
  | .str s => acc ++ JsonText.quote s
  | .arr xs => (writeItems (acc.push '[') true xs).push ']'
  | .obj ms => (writeMembers (acc.push (Char.ofNat 123)) true ms).push (Char.ofNat 125)

def writeItems (acc : String) (first : Bool) : List Json → String
  | [] => acc
  | x :: xs => writeItems (writeCompact (if first then acc else acc.push ',') x) false xs

def writeMembers (acc : String) (first : Bool) : List (String × Json) → String
  | [] => acc
  | (k, v) :: ms =>
    let acc := if first then acc else acc.push ','
    writeMembers (writeCompact ((acc ++ JsonText.quote k).push ':') v) false ms

end

/-- Compact text: no blanks between tokens. -/
def compact (v : Json) : String := writeCompact "" v

/-- Two spaces per level. -/
def indent (level : Nat) : String := String.ofList (List.replicate (2 * level) ' ')

mutual

/-- Append the indented text of a value standing at nesting `level` to `acc`. -/
def writePretty (level : Nat) (acc : String) : Json → String
  | .arr [] => acc ++ "[]"
  | .obj [] => acc ++ "\x7b\x7d"
  | .arr xs => ((writePrettyItems (level + 1) (acc ++ "[\n") true xs).push '\n' ++ indent level).push ']'
  | .obj ms =>
    ((writePrettyMembers (level + 1) (acc.push (Char.ofNat 123) |>.push '\n') true ms).push '\n' ++
      indent level).push (Char.ofNat 125)
  | v => writeCompact acc v

def writePrettyItems (level : Nat) (acc : String) (first : Bool) : List Json → String
  | [] => acc
  | x :: xs =>
    let acc := if first then acc else acc ++ ",\n"
    writePrettyItems level (writePretty level (acc ++ indent level) x) false xs

def writePrettyMembers (level : Nat) (acc : String) (first : Bool) : List (String × Json) → String
  | [] => acc
  | (k, v) :: ms =>
    let acc := if first then acc else acc ++ ",\n"
    writePrettyMembers level (writePretty level (acc ++ indent level ++ JsonText.quote k ++ ": ") v) false ms

end

/-- Indented text of a value at nesting `level`. -/
def pretty (level : Nat) (v : Json) : String := writePretty level "" v

/-- Indented text of a value at the top level. -/
def prettyText (v : Json) : String := pretty 0 v

mutual

/-- The value with every object's members sorted by key (a repeated key keeps its last value). -/
def sortKeys : Json → Json
  | .arr xs => .arr (sortItems xs)
  | .obj ms => sortedObj (sortMembers ms)
  | v => v

def sortItems : List Json → List Json
  | [] => []
  | x :: xs => sortKeys x :: sortItems xs

def sortMembers : List (String × Json) → List (String × Json)
  | [] => []
  | (k, v) :: ms => (k, sortKeys v) :: sortMembers ms

end

end Json

end DocStore
