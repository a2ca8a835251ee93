import DocStore.Validation.Verdict
import DocStore.Validation.Pattern
import DocStore.Text.Blank
import DocStore.Text.Decimal
/-
  DocStore.Validation.Field — rules on single fields.

  Lengths count characters. Every issue here is of kind `field` and names the field.
  Composite rules report each part that fails, in a fixed order: an id or a path that
  is empty is only "required"; a blank display name is only "must not be blank".
-/

namespace DocStore.FieldRule

def maxNameLength : Nat := 64
def maxIdLength : Nat := 64
def maxHostLength : Nat := 253
def maxPathLength : Nat := 1024
def maxMessageLength : Nat := 100000
def maxPublicKeyLength : Nat := 16384

/-- Not empty after trimming blanks. -/
def notBlank (field value : String) : Verdict :=
  Verdict.check (!Text.isBlankText value) (Issue.onField field (field ++ " must not be blank"))

/-- Between `min` and `max` characters. -/
def length (field value : String) (min max : Nat) : Verdict :=
  let n := value.length
  Verdict.check (min ≤ n && n ≤ max)
    (Issue.onField field (field ++ " must be between " ++ toString min ++ " and " ++ toString max ++
      " characters (got " ++ toString n ++ ")"))

/-- Of the shape `ok` accepts, described as `description`. -/
def shaped (field : String) (ok : Bool) (description : String) : Verdict :=
  Verdict.check ok (Issue.onField field (field ++ " must be " ++ description))

/-- Between `min` and `max`, with numbers written by `show`. -/
def inRange (field : String) (ok : Bool) (minText maxText valueText : String) : Verdict :=
  Verdict.check ok
    (Issue.onField field (field ++ " must be between " ++ minText ++ " and " ++ maxText ++ " (got " ++ valueText ++ ")"))

/-- An integer range. -/
def intRange (field : String) (value min max : Int) : Verdict :=
  inRange field (min ≤ value && value ≤ max) (toString min) (toString max) (toString value)

/-- A range of doubles (a NaN is in no range); numbers are written positionally. -/
def floatRange (field : String) (value min max : Float) : Verdict :=
  inRange field (value ≥ min && value ≤ max) (Text.Decimal.positional min)
    (Text.Decimal.positional max) (Text.Decimal.positional value)

/-- A required id: ASCII letters and digits, then also `_.-`, at most 64 characters. -/
def entityId (field value : String) : Verdict :=
  if value.isEmpty then .fail (Issue.onField field (field ++ " is required"))
  else (length field value 1 maxIdLength).and
    (shaped field (Pattern.isEntityId value) "alphanumeric with '-', '_' or '.'")

/-- A display name: not blank, at most 64 characters, of the name shape, without blanks
at either end. -/
def displayName (field value : String) : Verdict :=
  if Text.isBlankText value then notBlank field value
  else
    (length field value 1 maxNameLength).and
      ((shaped field (Pattern.isDisplayName value) "letters, digits, spaces and ._@()-").and
        (Verdict.check (Text.trimText value == value)
          (Issue.onField field (field ++ " must not start or end with whitespace"))))

/-- A host name or an IP address, at most 253 characters. -/
def hostname (field value : String) : Verdict :=
  if value.isEmpty then .fail (Issue.onField field (field ++ " is required"))
  else
    let wellFormed := Pattern.isHostName value || (value.contains ':' && Pattern.isAddressLike value)
    (length field value 1 maxHostLength).and
      (Verdict.check wellFormed (Issue.onField field (field ++ " must be a hostname or IP address")))

/-- A POSIX user name. -/
def username (field value : String) : Verdict :=
  shaped field (Pattern.isUserName value)
    "a POSIX user name (letters, digits, '_', '.', '-'; at most 32 characters)"

/-- A path on a server: absolute or under `~`, at most 1024 characters, without NUL. -/
def remotePath (field value : String) : Verdict :=
  if value.isEmpty then .fail (Issue.onField field (field ++ " is required"))
  else
    let absolute := value.startsWith "/" || value == "~" || value.startsWith "~/"
    (length field value 1 maxPathLength).and
      ((Verdict.check absolute (Issue.onField field (field ++ " must be absolute or start with ~/"))).and
        (Verdict.check (!value.contains '\x00') (Issue.onField field (field ++ " cannot contain null bytes"))))

end DocStore.FieldRule
