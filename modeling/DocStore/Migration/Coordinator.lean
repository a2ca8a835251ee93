import DocStore.Store.Vault
/-
  DocStore.Migration.Coordinator — migration runs, rollbacks and plans over a vault.

  (1) A run from the document's version to a target. The document is validated first
  when asked to or when it is behind the target; a document at the target is skipped.
  The shortest registered path is taken (none: no migration path). A backup is taken
  first when asked; a failed backup only means the run has none. Each step must be able
  to apply, must not fail or crash, and must leave a document that passes the checks of
  a migration step; then the result is validated in full and saved. Nothing is stored
  unless every one of these passes. Every run ends with an entry in the run log.

  (2) A rollback restores a named backup, or the newest backup a successful migration
  recorded that still exists, or else the newest backup there is. The restored document
  must load; if it does not, the previous bytes are put back.

  (3) A plan says what a run would do without doing it.
-/

namespace DocStore

/-- What a successful run did. -/
structure MigrationReport where
  source : Nat
  target : Nat
  steps : List String
  backup : Option String
  document : Document

/-- How a run ended: every failure is a store error. -/
inductive MigrationOutcome where
  | success (r : MigrationReport)
  | skipped (version : Nat)
  | failure (e : StoreError)

namespace MigrationOutcome

def isSuccess : MigrationOutcome → Bool
  | .failure _ => false
  | _ => true

/-- The report, nothing (skipped), or the error. -/
def toExcept : MigrationOutcome → Except StoreError (Option MigrationReport)
  | .success r => .ok (some r)
  | .skipped _ => .ok none
  | .failure e => .error e

end MigrationOutcome

/-- What a rollback did. -/
structure RollbackReport where
  backup : String
  source : Option Nat
  target : Nat
  document : Document

inductive RollbackOutcome where
  | restored (r : RollbackReport)
  | failure (e : StoreError)

def RollbackOutcome.toExcept : RollbackOutcome → Except StoreError RollbackReport
  | .restored r => .ok r
  | .failure e => .error e

/-- One step of a plan. -/
structure PlannedStep where
  name : String
  description : String
  source : Nat
  target : Nat
  reversible : Bool
  estimate : Nat

inductive MigrationPlan where
  | noAction
  | required (steps : List PlannedStep)
  | incompatible (reason : String)

/-- What a run is asked to do. -/
structure RunOptions where
  target : Nat
  createBackup : Bool
  forceValidation : Bool := false

/-- The log entry of a run between `versions` that ended at `now`. -/
def LogEntry.ofRun (now : Instant) (versions : Option Nat × Nat) (success : Bool) (backup error : Option String)
    (operation : Operation) : LogEntry :=
  { timestamp := now, fromVersion := versions.1, toVersion := versions.2, success, backupFilename := backup,
    error, operation }

namespace Vault

/-- The options of a run to `target` under the configured backup policy. -/
def runOptions (v : Vault) (target : Nat) : RunOptions :=
  { target, createBackup := v.config.backupBeforeMigration }

/-- End a run with a failure: log it and show it. -/
def failRun (now : Instant) (versions : Option Nat × Nat) (backup : Option String) (e : StoreError) :
    StateM Vault MigrationOutcome := do
  record (.ofRun now versions false backup (some e.message) .migrate)
  setProgress .failed 0 0 e.userMessage
  pure (.failure e)

/-- End a rollback with a failure: log it and show it. -/
def failRollback (now : Instant) (source : Option Nat) (backup : Option String) (e : StoreError) :
    StateM Vault RollbackOutcome := do
  record (.ofRun now (source, source.getD 0) false backup (some e.message) .rollback)
  setProgress .failed 0 0 e.userMessage
  pure (.failure e)

/-- Apply one step of a path at position `index` of `total`. -/
def applyStep (index total : Nat) (m : Migration) (d : Document) :
    StateM Vault (Except StoreError Document) := do
  if !m.canApply d then
    return .error (.migrationFailed m.name ("cannot apply to a document at version " ++ toString d.version))
  setProgress .migrating index total m.description
  let run := m.apply d
  for r in run.reports do
    setProgress .migrating index total
      (m.description ++ ": " ++ r.detail ++ " (" ++ toString r.completed ++ "/" ++ toString r.total ++ ")")
  match run.result with
  | .error (.error msg) => pure (.error (.migrationFailed m.name msg))
  | .error (.crash payload) =>
    pure (.error (.migrationFailed m.name ("migration panicked: " ++ StepFailure.crashText payload)))
  | .ok d' =>
    let verdict := validateMigrationStep d d' m.target
    if verdict.isValid then pure (.ok d') else pure (.error (.validationFailure verdict.issues))

/-- Apply every step of a path in order. -/
def applyPath (path : List Migration) (d : Document) : StateM Vault (Except StoreError Document) := do
  let mut cur := d
  for (m, i) in path.zipIdx do
    match ← applyStep i path.length m cur with
    | .ok d' => cur := d'
    | .error e => return .error e
  pure (.ok cur)

/-- Migrate `d` as `opts` asks. -/
def run (now : Instant) (d : Document) (opts : RunOptions) : StateM Vault MigrationOutcome := do
  let source := d.version
  let versions := (some source, opts.target)
  if opts.forceValidation || source < opts.target then
    setProgress .validating 0 0 "validating current document"
    let verdict := d.validate
    if !verdict.isValid then return ← failRun now versions none (.validationFailure verdict.issues)
  if source == opts.target then
    setProgress .skipped 0 0 ("already at version " ++ toString source)
    return .skipped source
  let path := (← get).registry.findPath source opts.target
  if path.isEmpty then return ← failRun now versions none (.migrationNotFound source opts.target)
  let backup ← if opts.createBackup then do
      setProgress .backingUp 0 path.length "creating backup"
      match ← onBlobs (Blobs.createBackup now) with
      | .ok name => pure name
      | .error _ => pure none
    else pure none
  match ← applyPath path d with
  | .error e => failRun now versions backup e
  | .ok migrated =>
    setProgress .finalValidating path.length path.length "validating result"
    let verdict := migrated.validate
    if !verdict.isValid then return ← failRun now versions backup (.validationFailure verdict.issues)
    match ← (save now migrated).run with
    | .error e => failRun now versions backup e
    | .ok saved =>
      record (.ofRun now versions true backup none .migrate)
      setProgress .completed path.length path.length ("migrated to version " ++ toString opts.target)
      pure (.success ⟨source, opts.target, path.map (·.name), backup, saved⟩)

/-- Load the current document and migrate it as `opts` asks. -/
def migrate (now : Instant) (opts : RunOptions) : StateM Vault MigrationOutcome := do
  match ← (load now).run with
  | .error e => failRun now (none, opts.target) none e
  | .ok d => run now d opts

/-- The backup a rollback without a name restores. -/
def defaultBackup : VaultOp (Option String) := do
  let available ← match ← onBlobs Blobs.listBackups with
    | .ok names => pure names
    | .error e => throw (.rollbackFailed ("failed to list backups: " ++ e.message))
  let recorded := (← get).history.migrationBackups
  match recorded.find? (available.contains ·) with
  | some name => pure (some name)
  | none => pure available.head?

/-- Restore a backup (by default the one `defaultBackup` picks). -/
def rollback (now : Instant) (backup : Option String) : StateM Vault RollbackOutcome := do
  let name ← match backup with
    | some n => pure n
    | none =>
      match ← defaultBackup.run with
      | .ok (some n) => pure n
      | .ok none => return ← failRollback now none none (.rollbackNotSupported "no backup has been recorded")
      | .error e => return ← failRollback now none none e
  setProgress .validating 0 1 ("restoring " ++ name)
  let snapshot ← match ← raw.run with
    | .ok s => pure s
    | .error e => return ← failRollback now none (some name) e
  let previous := snapshot.bind fun bytes => match decode now bytes with
    | .ok d => some d.version
    | .error _ => none
  match ← onBlobs (Blobs.restoreBackup name) with
  | .ok true => pure ()
  | .ok false =>
    return ← failRollback now previous (some name) (.rollbackFailed ("backup '" ++ name ++ "' does not exist"))
  | .error e => return ← failRollback now previous (some name) (.rollbackFailed e.message)
  match ← (reload now).run with
  | .error e =>
    let _ ← (restoreRaw snapshot).run
    let _ ← (load now).run
    failRollback now previous (some name)
      (.rollbackFailed ("backup '" ++ name ++ "' failed validation: " ++ e.message))
  | .ok restored =>
    record (.ofRun now (previous, restored.version) true (some name) none .rollback)
    setProgress .completed 1 1 ("restored version " ++ toString restored.version ++ " from " ++ name)
    pure (.restored ⟨name, previous, restored.version, restored⟩)

/-- What a run from `d` to `target` would do. -/
def plan (v : Vault) (d : Document) (target : Nat) : MigrationPlan :=
  if d.version == target then .noAction
  else
    let path := v.registry.findPath d.version target
    if path.isEmpty then
      .incompatible ("no migration path from version " ++ toString d.version ++ " to version " ++ toString target)
    else
      .required (path.map fun m => ⟨m.name, m.description, m.source, m.target, m.reversible, m.estimate d⟩)

end Vault

end DocStore
