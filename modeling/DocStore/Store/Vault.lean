import DocStore.Blob.Store
import DocStore.Error
import DocStore.Migration.History
import DocStore.Migration.Progress
import DocStore.Migration.Registry
import DocStore.Model.Codec
import DocStore.Store.Config
import DocStore.Validation.Document
/-
  DocStore.Store.Vault — the one document behind its key, and the state around it.

  (1) Reading. `load` answers the cached document when there is one. Otherwise it reads
  the stored bytes, which must decode (else the data is corrupted) and must exist (else
  the store was never initialized) and must pass full validation; only then is the
  document cached and published to observers.

  (2) Writing. `save` validates first, stamps `lastModified`, writes the compact JSON,
  and only after the write succeeded updates the cache and observers: a refused or
  failed save leaves both as they were.

  (3) The run log. Each finished migration or rollback is appended to the history,
  which is then written under its own key; failing to write it is not an error.
-/

namespace DocStore

/-- A document store: its configuration, migrations, bytes, cache, observers, run log
and the run progress it has shown. -/
structure Vault where
  config : Config
  registry : Registry
  blobs : Blobs
  /-- The last document loaded or saved, until invalidated. -/
  cache : Option Document := none
  /-- What observers see: the last document loaded or saved, until torn down. -/
  published : Option Document := none
  history : History
  progress : ProgressChannel := {}

/-- A step on a vault that can fail with a store error, keeping its earlier effects. -/
abbrev VaultOp := ExceptT StoreError (StateM Vault)

namespace Vault

/-- A vault over `blobs`, its history read from the history key. -/
def create (blobs : Blobs) (registry : Registry) (config : Config) : Vault :=
  let stored := match ((Blobs.get config.historyKey).run).run blobs with
    | (.ok s, _) => s
    | _ => none
  { config, registry, blobs, history := History.load config.historyLimit stored }

/-- Run a byte-store step on the vault's bytes. -/
def onBlobs (op : BlobOp α) : StateM Vault (Except BlobError α) := fun v =>
  let (r, b) := (op.run).run v.blobs
  (r, { v with blobs := b })

def latestVersion (v : Vault) : Nat := v.registry.latest

/-- The directory tree under a vault kept in files (empty for one in memory). -/
def fileTree (v : Vault) : FileTree :=
  match v.blobs with
  | .files fb => fb.tree
  | .memory _ => {}

/-- Runs finish within one step, so none is ever seen in progress. -/
def isMigrating (_ : Vault) : Bool := false

/-- The stored bytes of the document. -/
def raw : VaultOp (Option String) := do
  let key := (← get).config.documentKey
  match ← onBlobs (Blobs.get key) with
  | .ok bytes => pure bytes
  | .error e => throw (.corruptedData ("failed to read document: " ++ e.message))

/-- A document from stored bytes. -/
def decode (now : Instant) (bytes : String) : Except StoreError Document :=
  match Document.decode now bytes with
  | .ok d => pure d
  | .error e => throw (.corruptedData ("document is not valid JSON: " ++ e.message))

/-- The stored document, decoded but neither validated nor cached. -/
def readStored (now : Instant) : VaultOp (Option Document) := do
  match ← raw with
  | some bytes => some <$> liftExcept (decode now bytes)
  | none => pure none
where
  liftExcept {β : Type} : Except StoreError β → VaultOp β
    | .ok b => pure b
    | .error e => throw e

/-- Cache `d` and show it to observers. -/
def publish (d : Document) : VaultOp Unit :=
  modify fun v => { v with cache := some d, published := some d }

def invalidate : VaultOp Unit := modify fun v => { v with cache := none }

/-- The cached document, or the stored one once it passes validation. -/
def load (now : Instant) : VaultOp Document := do
  if let some d := (← get).cache then return d
  let key := (← get).config.documentKey
  let some d ← readStored now
    | throw (.initialization ("no document stored under '" ++ key ++ "'; initialize the store first"))
  let verdict := d.validate
  if !verdict.isValid then throw (.validationFailure verdict.issues)
  publish d
  pure d

/-- Validate `d`, stamp it, write it, then cache and publish it. -/
def save (now : Instant) (d : Document) : VaultOp Document := do
  let verdict := d.validate
  if !verdict.isValid then throw (.validationFailure verdict.issues)
  let d := { d with lastModified := now }
  let key := (← get).config.documentKey
  match ← onBlobs (Blobs.put key d.encode) with
  | .error e => throw (.saveFailed e.message)
  | .ok () => publish d; pure d

def reload (now : Instant) : VaultOp Document := do invalidate; load now

/-- Put back bytes taken from the store itself (`none`: delete them), unvalidated. -/
def restoreRaw (bytes : Option String) : VaultOp Unit := do
  let key := (← get).config.documentKey
  let r ← match bytes with
    | some b => onBlobs (Blobs.put key b)
    | none => onBlobs (Blobs.delete key)
  invalidate
  match r with
  | .ok () => pure ()
  | .error e => throw (.saveFailed e.message)

/-- The current document as pretty JSON. -/
def exportText (now : Instant) : VaultOp String := do
  pure (← load now).encodePretty

/-- Replace the document by the one in `json`, held to the same checks as a save. -/
def importText (now : Instant) (json : String) : VaultOp Document := do
  match decode now json with
  | .ok d => save now d
  | .error e => throw e

/-- Forget the cached document and tell observers there is none. -/
def teardown : StateM Vault Unit :=
  modify fun v => { v with cache := none, published := none }

/-- Log a finished run, then write the log; a failed write is ignored. -/
def record (e : LogEntry) : StateM Vault Unit := do
  modify fun v => { v with history := v.history.push e }
  let v ← get
  let _ ← onBlobs (Blobs.put v.config.historyKey v.history.encode)

/-- Replace the log by the one stored under the history key. -/
def reloadHistory : StateM Vault Unit := do
  let v ← get
  let stored := match ← onBlobs (Blobs.get v.config.historyKey) with
    | .ok s => s
    | .error _ => none
  modify fun v => { v with history := History.load v.history.limit stored }

def setProgress (state : RunState) (index total : Nat) (description : String) : StateM Vault Unit :=
  modify fun v =>
    { v with progress := v.progress.send { state, stepIndex := index, totalSteps := total, description } }

/-- Backup names, newest first. -/
def listBackups : VaultOp (List String) := do
  match ← onBlobs Blobs.listBackups with
  | .ok names => pure names
  | .error e => throw (.corruptedData ("failed to list backups: " ++ e.message))

end Vault

end DocStore
