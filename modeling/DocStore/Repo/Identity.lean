import DocStore.Repo.Pipeline
/-
  DocStore.Repo.Identity — SSH identities: listing, lookup, changes and search.

  Names are unique ignoring case, ids unique, and at most `maxIdentities` exist. An
  identity a server profile still uses cannot be deleted; the error names the profiles.
  Touching an identity stamps `lastUsed`.
-/

namespace DocStore.Repo.Identities

def entity : String := "identity"

def notFound (id : String) : RepoError := .notFound entity id

def check (limit : Nat) : Timed Unit (Proposed Identity) :=
  pipeline entity (fun p => p.entity.validate)
    [fun p => unique entity (·.id) (·.name) p.document.identities p.entity,
     fun p => capacity "identities" p.document.identities.length maxIdentities]
    limit

def timeout : RepoOp Nat := do pure (← get).config.validationTimeoutMs

def list (now : Instant) : RepoOp (List Identity) := do
  pure (← ofStore (Vault.load now)).identities

def find (now : Instant) (id : String) : RepoOp Identity := do
  match (← ofStore (Vault.load now)).identity? id with
  | some i => pure i
  | none => throw (notFound id)

def add (now : Instant) (i : Identity) : RepoOp Identity := do
  let d ← ofStore (Vault.load now)
  let _ ← commit now (check (← timeout)) entity i.name
    { entity := i, document := { d with identities := d.identities ++ [i] } }
  pure i

def update (now : Instant) (i : Identity) : RepoOp Identity := do
  let d ← ofStore (Vault.load now)
  let some (old, items) := replaceFirst (·.id) i d.identities | throw (notFound i.id)
  let _ ← commit now (check (← timeout)) entity i.name
    { entity := i, previous := some old, document := { d with identities := items } }
  pure i

def delete (now : Instant) (id : String) : RepoOp Unit := do
  let d ← ofStore (Vault.load now)
  if (d.identity? id).isNone then throw (notFound id)
  let users := (d.serverProfiles.filter (·.sshIdentityId == id)).map (·.name)
  if !users.isEmpty then
    throw (.constraint ("identity '" ++ id ++ "' is used by server profiles: " ++ ", ".intercalate users))
  let _ ← ofStore (Vault.save now { d with identities := d.identities.filter (·.id != id) })

def touch (now : Instant) (id : String) : RepoOp Identity := do
  let i ← find now id
  update now { i with lastUsed := some now }

def search (now : Instant) (query : String) : RepoOp (List Identity) := do
  pure ((← list now).filter fun i => containsFolded i.name query)

/-- What an observer of identities sees. -/
def observed (v : Vault) : Option (List Identity) := v.published.map (·.identities)

end DocStore.Repo.Identities
