import DocStore.Error
/-
  DocStore.Blob.Key — the names a byte store accepts for its blobs.

  Keys become file names, so a key is 1 to 128 bytes of ASCII letters, digits, `.`, `_`
  and `-`, and does not start with a dot (so neither `.` nor `..` nor a hidden file).
-/

namespace DocStore.Blob

/-- A character a key may hold. -/
def isKeyChar (c : Char) : Bool := (c.isAlphanum && c.toNat < 128) || c == '.' || c == '_' || c == '-'

/-- Whether a byte store accepts `key`. -/
def validKey (key : String) : Bool :=
  !key.isEmpty && key.utf8ByteSize ≤ 128 && !key.startsWith "." && key.toList.all isKeyChar

/-- Refuse a key the byte store does not accept. -/
def checkKey (key : String) : Except BlobError Unit :=
  if validKey key then pure () else throw (.invalidKey key)

end DocStore.Blob
