/-
  DocStore.Validation.Verdict — validation issues and the verdicts that collect them.

  An issue has a message, a kind, and optionally the field it concerns and a code that
  callers match on. A verdict is the list of issues found, in the order the checks ran;
  it is valid when the list is empty. Combining two verdicts appends their issues, so
  combining is associative with the valid verdict as unit.

  A rule maps a value to a verdict; a validator is a list of rules whose verdicts are
  combined in order, a guarded rule contributing nothing when its guard fails.
-/

namespace DocStore

/-- The kind of a validation issue. -/
inductive IssueKind where
  | field
  | business
  | relationship
  | database
  | custom
  | internal
  deriving DecidableEq, Repr, Inhabited

namespace IssueKind

def all : List IssueKind := [.field, .business, .relationship, .database, .custom, .internal]

def name : IssueKind → String
  | .field => "field"
  | .business => "business"
  | .relationship => "relationship"
  | .database => "database"
  | .custom => "custom"
  | .internal => "internal"

end IssueKind

namespace IssueCode

/-- A rule ran past its time limit. -/
def timeout : String := "VALIDATION_TIMEOUT"
/-- A name is already taken (ignoring case). -/
def duplicateName : String := "DUPLICATE_NAME"
/-- An id is already taken. -/
def duplicateId : String := "DUPLICATE_ID"
/-- A reference names nothing. -/
def missingReference : String := "MISSING_REFERENCE"
/-- A collection is over its limit. -/
def capacityExceeded : String := "CAPACITY_EXCEEDED"
/-- A state change the transition table does not allow. -/
def invalidTransition : String := "INVALID_STATE_TRANSITION"
/-- A migration dropped entities. -/
def dataLoss : String := "MIGRATION_DATA_LOSS"

end IssueCode

/-- One validation issue. -/
structure Issue where
  message : String
  field : Option String := none
  kind : IssueKind
  code : Option String := none
  deriving DecidableEq, Repr, Inhabited

namespace Issue

/-- An issue with a field. -/
def onField (field message : String) : Issue := { message, field := some field, kind := .field }

def business (message : String) : Issue := { message, kind := .business }

/-- A dangling reference from `field`. -/
def relationship (field message : String) : Issue :=
  { message, field := some field, kind := .relationship, code := some IssueCode.missingReference }

def internal (message : String) : Issue := { message, kind := .internal }

def on (i : Issue) (field : String) : Issue := { i with field := some field }

def withCode (i : Issue) (code : String) : Issue := { i with code := some code }

def hasCode (i : Issue) (code : String) : Bool := i.code == some code

/-- `[kind] field: message`, or `[kind] message` without a field. -/
def text (i : Issue) : String :=
  match i.field with
  | some f => "[" ++ i.kind.name ++ "] " ++ f ++ ": " ++ i.message
  | none => "[" ++ i.kind.name ++ "] " ++ i.message

end Issue

/-- The issues a validation found, in order; none means valid. -/
structure Verdict where
  issues : List Issue := []
  deriving DecidableEq, Repr, Inhabited

namespace Verdict

def pass : Verdict := {}

def fail (i : Issue) : Verdict := ⟨[i]⟩

def ofIssues (is : List Issue) : Verdict := ⟨is⟩

def isValid (v : Verdict) : Bool := v.issues.isEmpty

/-- The issue, unless `ok`. -/
def check (ok : Bool) (i : Issue) : Verdict := if ok then pass else fail i

/-- Both verdicts' issues, first then second. -/
def and (a b : Verdict) : Verdict := ⟨a.issues ++ b.issues⟩

/-- All verdicts combined in order. -/
def all (vs : List Verdict) : Verdict := vs.foldl Verdict.and pass

theorem and_assoc (a b c : Verdict) : (a.and b).and c = a.and (b.and c) := by
  simp [Verdict.and, List.append_assoc]

theorem pass_and (a : Verdict) : pass.and a = a := by
  simp [Verdict.and, pass]

theorem and_pass (a : Verdict) : a.and pass = a := by
  simp [Verdict.and, pass]

end Verdict

/-- A check of values of type `α`. -/
abbrev Rule (α : Type) := α → Verdict

namespace Rule

/-- The rule, applied only when `guard` holds. -/
def when (r : Rule α) (guard : α → Bool) : Rule α := fun v => if guard v then r v else .pass

/-- Both rules, their issues in order. -/
def both (r s : Rule α) : Rule α := fun v => (r v).and (s v)

end Rule

/-- A list of rules checked in order. -/
structure Validator (α : Type) where
  rules : List (Rule α) := []

namespace Validator

def rule (v : Validator α) (r : Rule α) : Validator α := ⟨v.rules ++ [r]⟩

def ruleIf (v : Validator α) (guard : α → Bool) (r : Rule α) : Validator α := v.rule (r.when guard)

def extend (v w : Validator α) : Validator α := ⟨v.rules ++ w.rules⟩

/-- Every rule's verdict, combined in order. -/
def validate (v : Validator α) (x : α) : Verdict := Verdict.all (v.rules.map fun r => r x)

def size (v : Validator α) : Nat := v.rules.length

def toRule (v : Validator α) : Rule α := v.validate

end Validator

end DocStore
