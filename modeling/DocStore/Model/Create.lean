import DocStore.Model.Entity
import DocStore.Json.Write
/-
  DocStore.Model.Create — new entities, and the ids they get.

  An id is a random (version 4) UUID in its usual text form: 32 lower-case hex digits in
  groups of 8, 4, 4, 4 and 12, the first digit of the third group `4` and the first of
  the fourth group one of `8`, `9`, `a`, `b`. The random bits come from the caller, as
  does the creation time, so creating an entity is a function.
-/

namespace DocStore

namespace EntityId

/-- The `n` low hex digits of `v`, most significant first. -/
def hexDigits (n v : Nat) : List Char :=
  (List.range n).reverse.map fun i => JsonText.hexDigit (v / Nat.pow 16 i % 16)

/-- The version 4 UUID text of 128 random bits (the version and variant bits are set). -/
def ofBits (bits : Nat) : String :=
  let b := bits % Nat.pow 2 128
  let hi := b / Nat.pow 2 64
  let lo := b % Nat.pow 2 64
  let hi := hi - hi / Nat.pow 2 12 % 16 * Nat.pow 2 12 + 4 * Nat.pow 2 12
  let lo := lo % Nat.pow 2 62 + Nat.pow 2 63
  let ds := hexDigits 16 hi ++ hexDigits 16 lo
  String.ofList (ds.take 8 ++ ['-'] ++ (ds.drop 8).take 4 ++ ['-'] ++ (ds.drop 12).take 4 ++ ['-'] ++
    (ds.drop 16).take 4 ++ ['-'] ++ ds.drop 20)

/-- A lower- or upper-case hex digit. -/
def isHex (c : Char) : Bool := c.isDigit || ('a' ≤ c && c ≤ 'f') || ('A' ≤ c && c ≤ 'F')

/-- Whether `s` is the hyphenated text of a version 4 UUID. -/
def isV4 (s : String) : Bool :=
  let cs := s.toList
  cs.length == 36 &&
    ((List.range 36).zip cs).all (fun (i, c) => if i == 8 || i == 13 || i == 18 || i == 23 then c == '-' else isHex c) &&
    cs[14]? == some '4'

end EntityId

/-- A new identity with no private key reference, never used. -/
def Identity.create (id : String) (now : Instant) (name : String) (keyType : KeyType) (publicKey : String) :
    Identity :=
  { id, name, keyType, publicKey, createdAt := now }

/-- A new server profile on port 22, never connected. -/
def ServerProfile.create (id : String) (now : Instant) (name host username identityId : String) : ServerProfile :=
  { id, name, host, username, sshIdentityId := identityId, createdAt := now }

/-- A new active project with no activity. -/
def Project.create (id : String) (now : Instant) (name profileId remotePath : String) : Project :=
  { id, name, serverProfileId := profileId, remotePath, createdAt := now }

/-- A new sent message. -/
def Message.create (id : String) (now : Instant) (projectId : String) (role : MessageRole) (content : String) :
    Message :=
  { id, projectId, role, content, timestamp := now }

end DocStore
