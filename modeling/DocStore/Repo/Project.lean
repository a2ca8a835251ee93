import DocStore.Repo.Pipeline
import DocStore.Validation.Transition
/-
  DocStore.Repo.Project — projects: listing, lookup, changes, status and search.

  Names are unique ignoring case, ids unique, the server profile a project names must
  exist, and at most `maxProjects` exist. An update must follow the status transitions.
  Archiving stamps `archivedAt`; any other status clears it. Deleting a project deletes
  its messages with it. Search looks at the name and the remote path.
-/

namespace DocStore.Repo.Projects

def entity : String := "project"

def notFound (id : String) : RepoError := .notFound entity id

/-- The server profile a project lives on exists. -/
def profileExists (d : Document) (p : Project) : Verdict :=
  Verdict.check (d.serverProfile? p.serverProfileId).isSome
    (Issue.relationship "serverProfileId" ("server profile '" ++ p.serverProfileId ++ "' does not exist"))

/-- The project's fields, and the transition from its previous state on an update. -/
def fields (p : Proposed Project) : Verdict :=
  match p.previous with
  | some old => p.entity.validate.and (projectTransition old p.entity)
  | none => p.entity.validate

def check (limit : Nat) : Timed Unit (Proposed Project) :=
  pipeline entity fields
    [fun p => unique entity (·.id) (·.name) p.document.projects p.entity,
     fun p => profileExists p.document p.entity,
     fun p => capacity "projects" p.document.projects.length maxProjects]
    limit

def timeout : RepoOp Nat := do pure (← get).config.validationTimeoutMs

def list (now : Instant) : RepoOp (List Project) := do
  pure (← ofStore (Vault.load now)).projects

def find (now : Instant) (id : String) : RepoOp Project := do
  match (← ofStore (Vault.load now)).project? id with
  | some p => pure p
  | none => throw (notFound id)

def withStatus (now : Instant) (status : ProjectStatus) : RepoOp (List Project) := do
  pure ((← list now).filter (·.status == status))

def add (now : Instant) (p : Project) : RepoOp Project := do
  let d ← ofStore (Vault.load now)
  let _ ← commit now (check (← timeout)) entity p.name
    { entity := p, document := { d with projects := d.projects ++ [p] } }
  pure p

def update (now : Instant) (p : Project) : RepoOp Project := do
  let d ← ofStore (Vault.load now)
  let some (old, items) := replaceFirst (·.id) p d.projects | throw (notFound p.id)
  let _ ← commit now (check (← timeout)) entity p.name
    { entity := p, previous := some old, document := { d with projects := items } }
  pure p

def setStatus (now : Instant) (id : String) (status : ProjectStatus) : RepoOp Project := do
  let p ← find now id
  update now { p with status, archivedAt := if status == .archived then some now else none }

def delete (now : Instant) (id : String) : RepoOp Unit := do
  let d ← ofStore (Vault.load now)
  if (d.project? id).isNone then throw (notFound id)
  let _ ← ofStore (Vault.save now
    { d with projects := d.projects.filter (·.id != id), messages := dropKey id d.messages })

def search (now : Instant) (query : String) : RepoOp (List Project) := do
  pure ((← list now).filter fun p => containsFolded p.name query || containsFolded p.remotePath query)

def observed (v : Vault) : Option (List Project) := v.published.map (·.projects)

end DocStore.Repo.Projects
