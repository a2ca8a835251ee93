import DocStore.Json.Value
import DocStore.Text.Decimal
import DocStore.Text.Category
/-
  DocStore.Json.Error — why reading a JSON text, or a typed value from it, failed.

  A failure is a cause and the place in the text where it was noticed: a line (from 1)
  and a column counting bytes since the last line break. Syntax failures are placed
  when they happen; failures of a value's shape or type are placed by the caller that
  asked for the value, after whatever it had consumed.
-/

namespace DocStore

/-- A place in a text: line from 1, column in bytes since the last line break. -/
structure TextPos where
  line : Nat
  column : Nat
  deriving DecidableEq, Repr

/-- Failures of the JSON grammar. -/
inductive SyntaxFault where
  | eofList
  | eofObject
  | eofString
  | eofValue
  | expectedColon
  | expectedListCommaOrEnd
  | expectedObjectCommaOrEnd
  | expectedIdent
  | expectedValue
  | invalidEscape
  | invalidNumber
  | numberOutOfRange
  | controlCharacter
  | keyMustBeString
  | loneLeadingSurrogate
  | trailingComma
  | trailingCharacters
  | unexpectedEndOfHexEscape
  | recursionLimit
  deriving DecidableEq, Repr

def SyntaxFault.message : SyntaxFault → String
  | .eofList => "EOF while parsing a list"
  | .eofObject => "EOF while parsing an object"
  | .eofString => "EOF while parsing a string"
  | .eofValue => "EOF while parsing a value"
  | .expectedColon => "expected `:`"
  | .expectedListCommaOrEnd => "expected `,` or `]`"
  | .expectedObjectCommaOrEnd => "expected `,` or `\x7d`"
  | .expectedIdent => "expected ident"
  | .expectedValue => "expected value"
  | .invalidEscape => "invalid escape"
  | .invalidNumber => "invalid number"
  | .numberOutOfRange => "number out of range"
  | .controlCharacter => "control character (\\u0000-\\u001F) found while parsing a string"
  | .keyMustBeString => "key must be a string"
  | .loneLeadingSurrogate => "lone leading surrogate in hex escape"
  | .trailingComma => "trailing comma"
  | .trailingCharacters => "trailing characters"
  | .unexpectedEndOfHexEscape => "unexpected end of hex escape"
  | .recursionLimit => "recursion limit exceeded"

/-- What was found where something else was expected. -/
inductive Found where
  | bool (b : Bool)
  | unsigned (n : Nat)
  | signed (i : Int)
  | float (bits : UInt64)
  | str (s : String)
  | null
  | seq
  | map
  deriving DecidableEq, Repr

/-- A text quoted as a debugging view shows it: backslash escapes for quote, backslash,
tab, carriage return, line feed and NUL, and `\u{hex}` for other invisible characters. -/
def quoteDebug (s : String) : String :=
  let esc (c : Char) : String :=
    if c = '"' then "\\\"" else if c = '\\' then "\\\\"
    else if c = '\t' then "\\t" else if c = '\r' then "\\r" else if c = '\n' then "\\n"
    else if c.toNat = 0 then "\\0"
    else if Text.isEscapedInQuote c then
      "\\u" ++ "\x7b" ++ String.ofList (Nat.toDigits 16 c.toNat) ++ "\x7d"
    else c.toString
  "\"" ++ String.join (s.toList.map esc) ++ "\""

def Found.describe : Found → String
  | .bool b => "boolean `" ++ toString b ++ "`"
  | .unsigned n => "integer `" ++ toString n ++ "`"
  | .signed i => "integer `" ++ toString i ++ "`"
  | .float bits => "floating point `" ++ Text.Decimal.jsonText (Float.ofBits bits) ++ "`"
  | .str s => "string " ++ quoteDebug s
  | .null => "null"
  | .seq => "sequence"
  | .map => "map"

/-- Names joined as a list of alternatives: `a`, `a` or `b`, one of `a`, `b`, `c`. -/
def oneOf (names : List String) : String :=
  let q (n : String) := "`" ++ n ++ "`"
  match names with
  | [] => ""
  | [a] => q a
  | [a, b] => q a ++ " or " ++ q b
  | _ => "one of " ++ ", ".intercalate (names.map q)

/-- Why a text did not give the value asked for. -/
inductive ReadIssue where
  | malformed (f : SyntaxFault)
  | invalidType (found : Found) (expected : String)
  | invalidValue (found : Found) (expected : String)
  | invalidLength (n : Nat) (expected : String)
  | unknownVariant (name : String) (variants : List String)
  | missingField (name : String)
  | duplicateField (name : String)
  | custom (message : String)
  deriving DecidableEq, Repr

def ReadIssue.message : ReadIssue → String
  | .malformed f => f.message
  | .invalidType found e => "invalid type: " ++ found.describe ++ ", expected " ++ e
  | .invalidValue found e => "invalid value: " ++ found.describe ++ ", expected " ++ e
  | .invalidLength n e => "invalid length " ++ toString n ++ ", expected " ++ e
  | .unknownVariant name [] => "unknown variant `" ++ name ++ "`, there are no variants"
  | .unknownVariant name vs => "unknown variant `" ++ name ++ "`, expected " ++ oneOf vs
  | .missingField name => "missing field `" ++ name ++ "`"
  | .duplicateField name => "duplicate field `" ++ name ++ "`"
  | .custom m => m

/-- A failed read: the cause, and where it was noticed (once known). -/
structure ReadError where
  issue : ReadIssue
  pos : Option TextPos
  deriving DecidableEq, Repr

/-- The text of a failed read: the cause, then `at line L column C` when placed. -/
def ReadError.message (e : ReadError) : String :=
  match e.pos with
  | some p => e.issue.message ++ " at line " ++ toString p.line ++ " column " ++ toString p.column
  | none => e.issue.message

end DocStore
