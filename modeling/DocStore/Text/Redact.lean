import DocStore.Text.Category
import DocStore.Text.Blank
/-
  DocStore.Text.Redact — hiding secrets in text shown to a user.

  A secret is a sensitive name (password, passphrase, secret, token or key, in any case)
  starting a word, then `:` or `=` with blanks allowed on both sides, then a value: the
  longest run of characters other than blanks, commas and semicolons, at least one. Each
  becomes `NAME=[REDACTED]`, the name kept as written. Secrets are found left to right
  without overlapping; a name starts a word when the character before it in the given
  text is not a word character (or there is none).

  Case is ignored as simple case folding does: besides the upper-case letters, the Kelvin
  sign matches `k` and the long s matches `s`.
-/

namespace DocStore.Text

/-- The names whose values are hidden. -/
def sensitiveNames : List String := ["password", "passphrase", "secret", "token", "key"]

/-- Whether `c` is the lower-case letter `p` up to simple case folding. -/
def foldsTo (c p : Char) : Bool :=
  c == p || ('A' ≤ c && c ≤ 'Z' && c.toLower == p) || (p == 'k' && c.toNat == 0x212A) ||
    (p == 's' && c.toNat == 0x17F)

/-- Whether `cs` starts with `name`, ignoring case. -/
def startsWithName (name cs : List Char) : Bool :=
  name.length ≤ cs.length && (name.zip cs).all fun (p, c) => foldsTo c p

/-- A character a value may hold. -/
def isValueChar (c : Char) : Bool := !(isBlank c || c == ',' || c == ';')

/-- After a name: blanks, `:` or `=`, blanks and a value. How many characters that takes,
and the value's last character. -/
def separatedValue (cs : List Char) : Option (Nat × Char) :=
  let before := (cs.takeWhile isBlank).length
  match cs.drop before with
  | c :: rest =>
    if c == ':' || c == '=' then
      let after := (rest.takeWhile isBlank).length
      let value := (rest.drop after).takeWhile isValueChar
      value.getLast?.map fun last => (before + 1 + after + value.length, last)
    else none
  | [] => none

/-- A secret at the front of `cs`: its name as written, how many characters the whole
secret takes, and its last character. -/
def secretAt (cs : List Char) : Option (List Char × Nat × Char) :=
  sensitiveNames.findSome? fun n =>
    let name := n.toList
    if startsWithName name cs then
      (separatedValue (cs.drop name.length)).map fun (k, last) => (cs.take name.length, name.length + k, last)
    else none

/-- Redact `cs`; `afterWord` tells whether the character before it is a word character. -/
def redactChars (afterWord : Bool) : List Char → List Char
  | [] => []
  | c :: rest =>
    match (if afterWord then none else secretAt (c :: rest)) with
    | some (name, k, last) =>
      if _hk : 0 < k then
        name ++ "=[REDACTED]".toList ++ redactChars (isWordChar last) ((c :: rest).drop k)
      else c :: redactChars (isWordChar c) rest
    | none => c :: redactChars (isWordChar c) rest
termination_by cs => cs.length
decreasing_by
  all_goals simp only [List.length_drop, List.length_cons]
  all_goals omega

/-- The text with every secret's value replaced by `[REDACTED]`. -/
def redact (s : String) : String := String.ofList (redactChars false s.toList)

end DocStore.Text
