import DocStore.Repo.Pipeline
/-
  DocStore.Repo.Profile — server profiles: listing, lookup, changes and search.

  Names are unique ignoring case, ids unique, the identity a profile names must exist,
  and at most `maxServerProfiles` exist. A profile a project still uses cannot be
  deleted; the error names the projects. Marking a profile connected stamps
  `lastConnected`. Search looks at the name, the host and the user name.
-/

namespace DocStore.Repo.Profiles

def entity : String := "server profile"

def notFound (id : String) : RepoError := .notFound entity id

/-- The identity a profile connects with exists. -/
def identityExists (d : Document) (p : ServerProfile) : Verdict :=
  Verdict.check (d.identity? p.sshIdentityId).isSome
    (Issue.relationship "sshIdentityId" ("identity '" ++ p.sshIdentityId ++ "' does not exist"))

def check (limit : Nat) : Timed Unit (Proposed ServerProfile) :=
  pipeline "server_profile" (fun p => p.entity.validate)
    [fun p => unique entity (·.id) (·.name) p.document.serverProfiles p.entity,
     fun p => identityExists p.document p.entity,
     fun p => capacity "serverProfiles" p.document.serverProfiles.length maxServerProfiles]
    limit

def timeout : RepoOp Nat := do pure (← get).config.validationTimeoutMs

def list (now : Instant) : RepoOp (List ServerProfile) := do
  pure (← ofStore (Vault.load now)).serverProfiles

def find (now : Instant) (id : String) : RepoOp ServerProfile := do
  match (← ofStore (Vault.load now)).serverProfile? id with
  | some p => pure p
  | none => throw (notFound id)

def forIdentity (now : Instant) (identityId : String) : RepoOp (List ServerProfile) := do
  pure ((← list now).filter (·.sshIdentityId == identityId))

def add (now : Instant) (p : ServerProfile) : RepoOp ServerProfile := do
  let d ← ofStore (Vault.load now)
  let _ ← commit now (check (← timeout)) entity p.name
    { entity := p, document := { d with serverProfiles := d.serverProfiles ++ [p] } }
  pure p

def update (now : Instant) (p : ServerProfile) : RepoOp ServerProfile := do
  let d ← ofStore (Vault.load now)
  let some (old, items) := replaceFirst (·.id) p d.serverProfiles | throw (notFound p.id)
  let _ ← commit now (check (← timeout)) entity p.name
    { entity := p, previous := some old, document := { d with serverProfiles := items } }
  pure p

def markConnected (now : Instant) (id : String) : RepoOp ServerProfile := do
  let p ← find now id
  update now { p with lastConnected := some now }

def delete (now : Instant) (id : String) : RepoOp Unit := do
  let d ← ofStore (Vault.load now)
  if (d.serverProfile? id).isNone then throw (notFound id)
  let users := (d.projects.filter (·.serverProfileId == id)).map (·.name)
  if !users.isEmpty then
    throw (.constraint ("server profile '" ++ id ++ "' is used by projects: " ++ ", ".intercalate users))
  let _ ← ofStore (Vault.save now { d with serverProfiles := d.serverProfiles.filter (·.id != id) })

def search (now : Instant) (query : String) : RepoOp (List ServerProfile) := do
  pure ((← list now).filter fun p =>
    containsFolded p.name query || containsFolded p.host query || containsFolded p.username query)

def observed (v : Vault) : Option (List ServerProfile) := v.published.map (·.serverProfiles)

end DocStore.Repo.Profiles
