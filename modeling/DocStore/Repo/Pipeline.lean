import DocStore.Store.Vault
import DocStore.Validation.Timed
/-
  DocStore.Repo.Pipeline — how the entity repositories check and commit a change.

  A change proposes the entity as it will be stored, its previous state for an update,
  and the whole next document. It runs through `first[fields, all[constraints]]` under
  the configured timeout, so a field issue hides every constraint issue, and the
  constraints report together. Failures are sorted into kinds: a duplicate name wins;
  then relationship and capacity issues are a constraint violation, their messages
  joined by `; `; anything else is an invalid entity. A change that passes is saved,
  which validates the whole document once more.
-/

namespace DocStore

/-- A pending change to an entity of type `ε`. -/
structure Proposed (ε : Type) where
  entity : ε
  previous : Option ε := none
  document : Document

/-- A step of a repository: it can fail with a repository error. -/
abbrev RepoOp := ExceptT RepoError (StateM Vault)

namespace Repo

/-- A store step as a repository step. -/
def ofStore (op : VaultOp α) : RepoOp α := do
  match ← (op.run : StateM Vault _) with
  | .ok a => pure a
  | .error e => throw (.store e)

/-- `first[fields, all[constraints]]` under a timeout of `limit` ms. -/
def pipeline (label : String) (fields : Rule (Proposed ε)) (constraints : List (Rule (Proposed ε)))
    (limit : Nat) : Timed Unit (Proposed ε) :=
  .timeout limit (.first label [.lift (label ++ ".fields") fields,
    .all (label ++ ".constraints")
      (constraints.zipIdx.map fun (r, i) => .lift (label ++ ".constraint" ++ toString i) r)])

/-- No other entity has the candidate's name (ignoring case), and its id is there once. -/
def unique (collection : String) (idOf nameOf : ε → String) (items : List ε) (c : ε) : Verdict :=
  let folded := Text.toLowerFull (nameOf c)
  let nameTaken := items.any fun i => idOf i != idOf c && Text.toLowerFull (nameOf i) == folded
  let idCount := (items.filter fun i => idOf i == idOf c).length
  (Verdict.check (!nameTaken)
    ((Issue.business (collection ++ " name '" ++ nameOf c ++ "' is already in use")).on "name"
      |>.withCode IssueCode.duplicateName)).and
  (Verdict.check (idCount ≤ 1)
    ((Issue.business (collection ++ " id '" ++ idOf c ++ "' is already in use")).on "id"
      |>.withCode IssueCode.duplicateId))

/-- At most `max` entries in `collection`. -/
def capacity (collection : String) (count max : Nat) : Verdict :=
  Verdict.check (count ≤ max)
    ((Issue.business (collection ++ " is full (" ++ toString count ++ " of at most " ++ toString max ++ ")")).on
      collection |>.withCode IssueCode.capacityExceeded)

/-- Whether an issue is about a constraint between entities. -/
def isConstraint (i : Issue) : Bool := i.kind == .relationship || i.hasCode IssueCode.capacityExceeded

/-- The repository error for the issues of a refused change. -/
def classify (entity name : String) (issues : List Issue) : RepoError :=
  if issues.any (·.hasCode IssueCode.duplicateName) then .duplicateName entity name
  else if issues.any isConstraint then
    .constraint ("; ".intercalate ((issues.filter isConstraint).map (·.message)))
  else .invalid entity issues

/-- Check a change and save its document. -/
def commit (now : Instant) (check : Timed Unit (Proposed ε)) (entity name : String) (p : Proposed ε) :
    RepoOp Document := do
  let verdict := (check.check p 0 { world := () }).1
  if !verdict.isValid then throw (classify entity name verdict.issues)
  ofStore (Vault.save now p.document)

/-- Whether `needle` occurs in `hay`. -/
def occursIn (needle : List Char) : List Char → Bool
  | [] => needle.isEmpty
  | c :: rest => needle.isPrefixOf (c :: rest) || occursIn needle rest

/-- Whether `haystack` contains `needle`, both lowered. -/
def containsFolded (haystack needle : String) : Bool :=
  occursIn (Text.toLowerFull needle).toList (Text.toLowerFull haystack).toList

/-- The first entry with `key`, replaced by `x`: the entry replaced and the new list. -/
def replaceFirst (key : ε → String) (x : ε) : List ε → Option (ε × List ε)
  | [] => none
  | y :: ys =>
    if key y == key x then some (y, x :: ys)
    else (replaceFirst key x ys).map fun (old, rest) => (old, y :: rest)

end Repo

end DocStore
