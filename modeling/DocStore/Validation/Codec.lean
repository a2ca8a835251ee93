import DocStore.Validation.Document
import DocStore.Model.Codec
/-
  DocStore.Validation.Codec — the JSON form of issues and verdicts.

  An issue is `{"message", "field"?, "type", "code"?}` with `field` and `code` left out
  when absent; a verdict is `{"valid", "errors"}`. Reading an issue follows the same
  record rules as the entities: an object or an array of the four fields in order,
  `field` and `code` defaulting to absent, `type` one of the issue kind names.
-/

namespace DocStore

def Issue.toJson (i : Issue) : Json :=
  Codec.members [("message", some (.str i.message)), ("field", i.field.map .str),
    ("type", some (.str i.kind.name)), ("code", i.code.map .str)]

def Verdict.toJson (v : Verdict) : Json :=
  .obj [("errors", .arr (v.issues.map Issue.toJson)), ("valid", .bool v.isValid)]

/-- Issue counts by kind name. -/
def Verdict.summaryJson (v : Verdict) : Json :=
  .obj (v.summary.map fun (k, n) => (k.name, Json.ofNat n))

namespace Codec
open JsonRead

def issueKind : JsonRead IssueKind := enumeration (IssueKind.all.map fun k => (k.name, k))

/-- Issue fields read so far. -/
structure IssueDraft where
  message : Option String := none
  field : Option (Option String) := none
  kind : Option IssueKind := none
  code : Option (Option String) := none

def issueStep (d : IssueDraft) : String → JsonRead IssueDraft
  | "message" => do pure { d with message := some (← fieldOnce "message" d.message text) }
  | "field" => do pure { d with field := some (← fieldOnce "field" d.field (optional text)) }
  | "type" => do pure { d with kind := some (← fieldOnce "type" d.kind issueKind) }
  | "code" => do pure { d with code := some (← fieldOnce "code" d.code (optional text)) }
  | _ => do skipMember; pure d

def issue : JsonRead Issue :=
  let exp := "struct ValidationError with 4 elements"
  record "ValidationError"
    (do
      let d ← membersOf issueStep (← fuelFor) true {}
      pure { message := ← required "message" d.message, field := d.field.getD none,
             kind := ← required "type" d.kind, code := d.code.getD none })
    (do
      let m ← positional text none 0 exp true
      let f ← positional (optional text) (some none) 1 exp false
      let k ← positional issueKind none 2 exp false
      let c ← positional (optional text) (some none) 3 exp false
      pure { message := m, field := f, kind := k, code := c })

end Codec

def Issue.decodeList (s : String) : Except ReadError (List Issue) := JsonRead.run (JsonRead.list Codec.issue) s

end DocStore
