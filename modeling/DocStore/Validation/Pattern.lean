import DocStore.Text.Category
/-
  DocStore.Validation.Pattern — the text shapes that field rules accept.

  - A display name starts with a letter or number of any script and goes on with
    letters, numbers, spaces and `._@()-`.
  - An entity id starts with an ASCII letter or digit and goes on with those and `_.-`.
  - A host name is dot-separated labels of 1 to 63 letters, digits or hyphens, neither
    starting nor ending with a hyphen. Letters are matched without regard to case, so
    the Kelvin sign K and the long s ſ, whose case folds are `k` and `s`, count as
    letters.
  - An IPv6-like address is a non-empty run of hex digits, colons and dots.
  - A user name starts with an ASCII letter or underscore and goes on with up to 31
    ASCII letters, digits and `_.-`.
-/

namespace DocStore.Pattern

/-- Split a character list at every occurrence of `sep`. -/
def splitAt (sep : Char) : List Char → List (List Char)
  | [] => [[]]
  | c :: rest =>
    if c = sep then [] :: splitAt sep rest
    else
      match splitAt sep rest with
      | [] => [[c]]
      | first :: more => (c :: first) :: more

def isNameStart (c : Char) : Bool := Text.isLetter c || Text.isNumeric c

def isNameChar (c : Char) : Bool :=
  isNameStart c || c = ' ' || c = '.' || c = '_' || c = '@' || c = '(' || c = ')' || c = '-'

/-- Letters and numbers, then also spaces and `._@()-`. -/
def isDisplayName (s : String) : Bool :=
  match s.toList with
  | [] => false
  | c :: rest => isNameStart c && rest.all isNameChar

def isIdChar (c : Char) : Bool := c.isAlphanum || c = '_' || c = '.' || c = '-'

/-- An ASCII letter or digit, then also `_.-`. -/
def isEntityId (s : String) : Bool :=
  match s.toList with
  | [] => false
  | c :: rest => c.isAlphanum && rest.all isIdChar

/-- A letter or digit as a case-blind match of `[a-z0-9]` sees it. -/
def isHostAlnum (c : Char) : Bool := c.isAlphanum || c.toNat = 0x212A || c.toNat = 0x17F

/-- One label of a host name. -/
def isLabel (cs : List Char) : Bool :=
  match cs.head?, cs.getLast? with
  | some a, some z =>
    cs.length ≤ 63 && isHostAlnum a && isHostAlnum z && cs.all (fun c => isHostAlnum c || c = '-')
  | _, _ => false

/-- Dot-separated labels. -/
def isHostName (s : String) : Bool := (splitAt '.' s.toList).all isLabel

/-- Hex digits, colons and dots, at least one. -/
def isAddressLike (s : String) : Bool :=
  !s.isEmpty && s.toList.all fun c => c.isDigit || ('a' ≤ c && c ≤ 'f') || ('A' ≤ c && c ≤ 'F') || c = ':' || c = '.'

/-- A letter or underscore, then up to 31 letters, digits and `_.-`. -/
def isUserName (s : String) : Bool :=
  match s.toList with
  | [] => false
  | c :: rest => (c.isAlpha || c = '_') && rest.length ≤ 31 && rest.all isIdChar

end DocStore.Pattern
