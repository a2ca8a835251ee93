import DocStore.Migration.Coordinator
/-
  DocStore.Store.Lifecycle — bringing a store into use (`start`), and the checks at its edges.

  Initializing creates an empty document on first use, refuses a stored document newer
  than the newest version the registry reaches, and migrates an older one to that
  version; a failed migration makes initialization fail. Importing refuses a document
  of a version newer than that too, before anything else about it is checked.
-/

namespace DocStore

namespace Vault

/-- Make the store usable: the stored document at the latest version. -/
def start (now : Instant) : VaultOp Document := do
  reloadHistory
  let latest := (← get).latestVersion
  let d ← match ← readStored now with
    | some d => pure d
    | none => save now (Document.fresh now)
  if d.version > latest then
    throw (.initialization ("stored document is version " ++ toString d.version ++
      " but this build supports at most version " ++ toString latest))
  if d.version == latest then return ← load now
  match ← run now d ((← get).runOptions latest) with
  | .success r => pure r.document
  | .skipped _ => load now
  | .failure e => throw (.initialization ("migration to version " ++ toString latest ++ " failed: " ++ e.message))

/-- Full validation of the cached or stored document. -/
def validateCurrent (now : Instant) : VaultOp Verdict := do
  let d ← match (← get).cache with
    | some d => pure d
    | none =>
      match ← readStored now with
      | some d => pure d
      | none => throw (.initialization "no document has been stored")
  pure d.validate

/-- Replace the document by `json`, refusing versions newer than the latest. -/
def importChecked (now : Instant) (json : String) : VaultOp Document := do
  let version ← match decode now json with
    | .ok d => pure d.version
    | .error e => throw e
  let latest := (← get).latestVersion
  if version > latest then
    throw (.validationFailure [Issue.onField "version" ("version " ++ toString version ++
      " is newer than the latest supported version " ++ toString latest)])
  importText now json

/-- What migrating to `target` (default: the latest version) would do. -/
def planFor (now : Instant) (target : Option Nat) : VaultOp MigrationPlan := do
  let d ← load now
  let v ← get
  pure (v.plan d (target.getD v.latestVersion))

def migrateToVersion (now : Instant) (target : Nat) : StateM Vault MigrationOutcome := do
  migrate now ((← get).runOptions target)

def migrateToLatest (now : Instant) : StateM Vault MigrationOutcome := do
  migrateToVersion now (← get).latestVersion

end Vault

end DocStore
