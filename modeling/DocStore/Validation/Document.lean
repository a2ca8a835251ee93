import DocStore.Validation.Entity
import DocStore.Model.Document
import DocStore.Text.Lower
/-
  DocStore.Validation.Document — what a valid document is.

  Rules, in order: the version is at least 1; every entity passes its validator (issues
  placed at `identities[i]`, `serverProfiles[i]`, `projects[i]`, `messages.KEY[i]`); ids
  are unique and names unique ignoring case within identities, server profiles and
  projects, and message ids unique within each list; collections stay within their
  limits; references resolve (profiles to identities, projects to profiles, message
  keys to projects or `system`, messages to the key they are under); every message list
  is in timestamp order.

  A repeated id or name is reported once, with the text of its second occurrence.
-/

namespace DocStore

/-- Place an entity's issues in the document: field issues get the place before their
field, other issues before their message. -/
def placedAt (place : String) (v : Verdict) : Verdict :=
  ⟨v.issues.map fun i =>
    if i.kind = .field then
      { i with field := some (match i.field with | some f => place ++ "." ++ f | none => place) }
    else { i with message := place ++ ": " ++ i.message }⟩

/-- The values whose key occurs more than once, each once, at its second occurrence,
in the order of those occurrences. -/
def duplicates (key : String → String) (values : List String) : List String :=
  go values [] []
where
  go : List String → List String → List String → List String
    | [], _, _ => []
    | v :: rest, seen, reported =>
      let k := key v
      if seen.contains k then
        if reported.contains k then go rest seen reported
        else v :: go rest seen (k :: reported)
      else go rest (k :: seen) reported

/-- Issues for repeated ids and names of one collection. -/
def duplicateIssues (collection : String) (ids names : List String) : List Issue :=
  ids.map (fun id => (Issue.business ("duplicate id '" ++ id ++ "' in " ++ collection)).on
      (collection ++ ".id") |>.withCode IssueCode.duplicateId) ++
  names.map (fun n => (Issue.business ("duplicate name '" ++ n ++ "' in " ++ collection)).on
      (collection ++ ".name") |>.withCode IssueCode.duplicateName)

namespace DocumentRules

def version (d : Document) : Verdict :=
  Verdict.check (decide (initialVersion ≤ d.version))
    (Issue.onField "version" ("version must be at least " ++ toString initialVersion))

/-- Verdicts of a list's entities, each placed at `name[i]`. -/
def each (name : String) (check : α → Verdict) (xs : List α) : List Verdict :=
  (List.range xs.length).zip xs |>.map fun (i, x) => placedAt (name ++ "[" ++ toString i ++ "]") (check x)

def entities (d : Document) : Verdict :=
  Verdict.all (each "identities" Identity.validate d.identities ++
    each "serverProfiles" ServerProfile.validate d.serverProfiles ++
    each "projects" Project.validate d.projects ++
    d.messages.flatMap fun (k, ms) => each ("messages." ++ k) Message.validate ms)

def uniqueness (d : Document) : Verdict :=
  let fold := Text.toLowerFull
  let exact : String → String := id
  let base :=
    duplicateIssues "identities" (duplicates exact (d.identities.map (·.id)))
      (duplicates fold (d.identities.map (·.name))) ++
    duplicateIssues "serverProfiles" (duplicates exact (d.serverProfiles.map (·.id)))
      (duplicates fold (d.serverProfiles.map (·.name))) ++
    duplicateIssues "projects" (duplicates exact (d.projects.map (·.id)))
      (duplicates fold (d.projects.map (·.name)))
  let perKey := d.messages.flatMap fun (k, ms) =>
    (duplicates exact (ms.map (·.id))).map fun id =>
      (Issue.business ("duplicate message id '" ++ id ++ "' under '" ++ k ++ "'")).on
        ("messages." ++ k ++ ".id") |>.withCode IssueCode.duplicateId
  ⟨base ++ perKey⟩

def capacityIssue (field : String) (count max : Nat) : Issue :=
  (Issue.business (field ++ " holds " ++ toString count ++ " entries (maximum " ++ toString max ++ ")")).on field
    |>.withCode IssueCode.capacityExceeded

def ceilings (d : Document) : Verdict :=
  let totals := [("identities", d.identities.length, maxIdentities),
    ("serverProfiles", d.serverProfiles.length, maxServerProfiles),
    ("projects", d.projects.length, maxProjects), ("messages", d.totalMessages, maxTotalMessages)]
  let exceeded := totals.filterMap fun (f, n, m) => if n > m then some (capacityIssue f n m) else none
  let perKey := d.messages.filterMap fun (k, ms) =>
    if ms.length > maxMessagesPerProject then some (capacityIssue ("messages." ++ k) ms.length maxMessagesPerProject)
    else none
  ⟨exceeded ++ perKey⟩

def profilesResolve (d : Document) : Verdict :=
  ⟨d.serverProfiles.filterMap fun p =>
    if d.identities.any (·.id == p.sshIdentityId) then none
    else some (Issue.relationship "sshIdentityId"
      ("server profile '" ++ p.name ++ "' references unknown identity '" ++ p.sshIdentityId ++ "'"))⟩

def projectsResolve (d : Document) : Verdict :=
  ⟨d.projects.filterMap fun p =>
    if d.serverProfiles.any (·.id == p.serverProfileId) then none
    else some (Issue.relationship "serverProfileId"
      ("project '" ++ p.name ++ "' references unknown server profile '" ++ p.serverProfileId ++ "'"))⟩

def keysResolve (d : Document) : Verdict :=
  ⟨d.messages.filterMap fun (k, _) =>
    if k == systemKey || d.projects.any (·.id == k) then none
    else some (Issue.relationship "messages" ("messages stored under unknown project '" ++ k ++ "'"))⟩

def messagesUnderOwnKey (d : Document) : Verdict :=
  ⟨d.messages.flatMap fun (k, ms) =>
    if k == systemKey then []
    else ms.filterMap fun m =>
      if m.projectId == k then none
      else some (Issue.relationship "projectId"
        ("message '" ++ m.id ++ "' stored under '" ++ k ++ "' names project '" ++ m.projectId ++ "'"))⟩

def messageOrder (d : Document) : Verdict :=
  Verdict.all (d.messages.map fun (k, ms) => messageOrdering k ms)

end DocumentRules

/-- References between entities. -/
def relationshipValidator : Validator Document :=
  ({} : Validator Document)
    |>.rule DocumentRules.profilesResolve
    |>.rule DocumentRules.projectsResolve
    |>.rule DocumentRules.keysResolve
    |>.rule DocumentRules.messagesUnderOwnKey

/-- The full check of a stored document. -/
def documentValidator : Validator Document :=
  ({} : Validator Document)
    |>.rule DocumentRules.version
    |>.rule DocumentRules.entities
    |>.rule DocumentRules.uniqueness
    |>.rule DocumentRules.ceilings
    |>.extend relationshipValidator
    |>.rule DocumentRules.messageOrder

def Document.validate (d : Document) : Verdict := documentValidator.validate d

def Document.validateRelationships (d : Document) : Verdict := relationshipValidator.validate d

/-- A migration step's result: at version `target`, no collection shrunk, references resolve. -/
def validateMigrationStep (before after : Document) (target : Nat) : Verdict :=
  let version := Verdict.check (after.version == target)
    ({ message := "migration produced version " ++ toString after.version ++ " but was registered for " ++
        toString target, kind := .custom, field := some "version" } : Issue)
  let (old, new) := (before.counts, after.counts)
  let shrunk := [("identities", old.identities, new.identities),
      ("serverProfiles", old.serverProfiles, new.serverProfiles),
      ("projects", old.projects, new.projects), ("messages", old.messages, new.messages)].filterMap
    fun (f, was, now) =>
      if now < was then
        some { message := "migration dropped " ++ f ++ ": " ++ toString was ++ " before, " ++ toString now ++
          " after", kind := .custom, field := some f, code := some IssueCode.dataLoss }
      else none
  (version.and ⟨shrunk⟩).and after.validateRelationships

/-- How many issues of each kind a verdict holds (kinds with none left out). -/
def Verdict.summary (v : Verdict) : List (IssueKind × Nat) :=
  IssueKind.all.filterMap fun k =>
    let n := (v.issues.filter (·.kind = k)).length
    if n = 0 then none else some (k, n)

end DocStore
