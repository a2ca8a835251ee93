import DocStore.Cli.Parse
import DocStore.Store.Lifecycle
/-
  DocStore.Cli.Run — what the command line does, over a directory tree.

  (1) Before any command: the store directory is `--store` (taken from the working
  directory unless absolute) or `~/.docvault`, and must not be a file; its
  `config.json`, when present, must read and pass the configuration checks.

  (2) Every command opens the store first: the store directory, `data/` and
  `backups/` are created, and the run log is read. Then `init` brings the store into use
  and writes the configuration when there is none; `status`, `validate`, `migrate …`,
  `export` and `import` report or act as their help says.

  (3) A failure prints one `error:` line and exits with 1: a store error as its user
  message, anything else with its secrets redacted. A refused command line exits with 2.
-/

namespace DocStore.Cli

/-- Where a run happens. -/
structure Env where
  cwd : String
  home : String
  now : Instant

/-- How a run ended: exit code and the texts written. -/
structure Outcome where
  code : Nat
  stdout : String := ""
  stderr : String := ""
  deriving Repr

/-- Why a command failed. -/
inductive Failure where
  | store (e : StoreError)
  | other (message : String)

def Failure.describe : Failure → String
  | .store e => e.userMessage
  | .other m => Text.redact m

/-- A running command: the opened store and what it printed. -/
structure Shell where
  vault : Vault
  out : String := ""

abbrev ShellOp := ExceptT Failure (StateM Shell)

/-- `p` taken from `base` unless absolute. -/
def joinPath (base p : String) : String := if p.startsWith "/" then p else FileBlobs.joinText base p

/-- The directories and files of a store. -/
structure Layout where
  base : String
  data : String
  backups : String
  config : String

def Layout.ofBase (base : String) : Layout :=
  { base, data := FileBlobs.joinText base "data", backups := FileBlobs.joinText base "backups",
    config := FileBlobs.joinText base "config.json" }

namespace Shell

def say (line : String) : ShellOp Unit := modify fun s => { s with out := s.out ++ line ++ "\n" }

def store (op : VaultOp α) : ShellOp α := do
  let s ← get
  let (r, v) := op.run.run s.vault
  set { s with vault := v }
  match r with
  | .ok a => pure a
  | .error e => throw (.store e)

def onVault (op : StateM Vault α) : ShellOp α := do
  let s ← get
  let (a, v) := op.run s.vault
  set { s with vault := v }
  pure a

def tree : ShellOp FileTree := do pure (← get).vault.fileTree

/-- Change the tree under the store. -/
def change (f : FileTree → Except IoError FileTree) : ShellOp (Except IoError Unit) := do
  let s ← get
  match s.vault.blobs with
  | .files fb =>
    match f fb.tree with
    | .ok t => set { s with vault := { s.vault with blobs := .files { fb with tree := t } } }; pure (.ok ())
    | .error e => pure (.error e)
  | .memory _ => pure (.ok ())

end Shell

open Shell

def countsLine (d : Document) : String := d.counts.text

def status (now : Instant) : ShellOp Unit := do
  let d ← store (Vault.load now)
  let v := (← get).vault
  let latest := v.latestVersion
  say ("Version: " ++ toString d.version)
  say ("Latest known version: " ++ toString latest)
  say ("Contents: " ++ countsLine d)
  say ("Last modified: " ++ d.lastModified.toLongText)
  say ("Migrating: " ++ if v.isMigrating then "yes" else "no")
  if d.version < latest then say "Migration pending: run `docvault migrate run`"

def validate (now : Instant) : ShellOp Unit := do
  let verdict ← store (Vault.validateCurrent now)
  if verdict.isValid then say "Document is valid"
  else
    for i in verdict.issues do say ("  - " ++ Text.redact i.text)
    throw (.store (.validationFailure verdict.issues))

def check (now : Instant) (target : Option Nat) : ShellOp Unit := do
  let d ← store (Vault.load now)
  let t := target.getD (← get).vault.latestVersion
  say ("Current version: " ++ toString d.version)
  say ("Target version: " ++ toString t)
  match ← store (Vault.planFor now (some t)) with
  | .noAction => say "No migration needed"
  | .required steps =>
    say ("Migration required (" ++ toString steps.length ++ " step(s)):")
    for s in steps do
      say ("  " ++ toString s.source ++ " -> " ++ toString s.target ++ "  " ++ s.name ++ ": " ++ s.description ++
        " (reversible: " ++ toString s.reversible ++ ", ~" ++ toString s.estimate ++ " unit(s) of work)")
  | .incompatible reason =>
    say reason
    throw (.store (.migrationNotFound d.version t))

def migrateRun (now : Instant) (target : Option Nat) (noBackup force : Bool) : ShellOp Unit := do
  let t := target.getD (← get).vault.latestVersion
  match ← onVault (Vault.migrate now ⟨t, !noBackup, force⟩) with
  | .success r =>
    say ("Migrated from version " ++ toString r.source ++ " to " ++ toString r.target ++ " in 0 ms")
    for step in r.steps do say ("  applied " ++ step)
    say ("Backup: " ++ r.backup.getD "none")
  | .skipped v => say ("Already at version " ++ toString v ++ "; nothing to do")
  | .failure e => throw (.store e)

def rollback (now : Instant) (backup : Option String) : ShellOp Unit := do
  match ← onVault (Vault.rollback now backup) with
  | .restored r =>
    match r.source with
    | some f => say ("Restored " ++ r.backup ++ " (version " ++ toString f ++ " -> " ++ toString r.target ++ ")")
    | none => say ("Restored " ++ r.backup ++ " (version " ++ toString r.target ++ ")")
  | .failure e => throw (.store e)

def listBackups : ShellOp Unit := do
  let names ← store Vault.listBackups
  if names.isEmpty then say "No backups"
  for n in names do say n

/-- One run-log line: `TIME OPERATION FROM -> TO ok|failed (N ms)[ backup=B][ error: E]`. -/
def historyLine (e : LogEntry) : String :=
  e.timestamp.toLongText ++ " " ++ e.operation.name ++ " " ++ (e.fromVersion.map toString).getD "?" ++ " -> " ++
    toString e.toVersion ++ " " ++ (if e.success then "ok" else "failed") ++ " (" ++ toString e.durationMs ++ " ms)" ++
    (match e.backupFilename with | some b => " backup=" ++ b | none => "") ++
    (match e.error with | some m => " error: " ++ Text.redact m | none => "")

def history : ShellOp Unit := do
  let entries := (← get).vault.history.entries
  if entries.isEmpty then say "No migrations recorded"
  for e in entries do say (historyLine e)

def exportTo (env : Env) (path : String) (force : Bool) : ShellOp Unit := do
  let target := PathName.ofText (joinPath env.cwd path)
  if (← tree).exists? target && !force then throw (.other "Export file already exists. Use --force to overwrite.")
  let json ← store (Vault.exportText env.now)
  match ← change (·.write target json) with
  | .ok () => say ("Exported document to " ++ path)
  | .error e => throw (.other ("failed to write " ++ path ++ ": " ++ e.message))

def importFrom (env : Env) (path : String) : ShellOp Unit := do
  match (← tree).read (PathName.ofText (joinPath env.cwd path)) with
  | .error e => throw (.other ("failed to read " ++ path ++ ": " ++ e.message))
  | .ok json =>
    let d ← store (Vault.importChecked env.now json)
    say ("Imported version " ++ toString d.version ++ " document: " ++ countsLine d)

def init (env : Env) (layout : Layout) (config : Config) : ShellOp Unit := do
  let d ← store (Vault.start env.now)
  let configPath := PathName.ofText layout.config
  if !(← tree).exists? configPath then
    let made (t : FileTree) := match configPath.parent with
      | some dir => t.createDirAll dir
      | none => pure t
    match ← change fun t => do (← made t).write configPath config.fileText with
    | .ok () => pure ()
    | .error e => throw (.other e.message)
  say ("Store ready at " ++ layout.base ++ " (version " ++ toString d.version ++ ")")

/-- Run a command on the opened store. -/
def dispatch (env : Env) (layout : Layout) (config : Config) : Command → ShellOp Unit
  | .init => init env layout config
  | .status => status env.now
  | .validate => validate env.now
  | .check t => check env.now t
  | .run t noBackup force => migrateRun env.now t noBackup force
  | .rollback b => rollback env.now b
  | .list => listBackups
  | .history => history
  | .exportTo p force => exportTo env p force
  | .importFrom p => importFrom env p

/-- The store directory: the one `--store` names, taken from the working directory unless
absolute, or `.docvault` in the home directory. -/
def baseOf (env : Env) : Option String → String
  | some p => joinPath env.cwd p
  | none => FileBlobs.joinText env.home ".docvault"

/-- The places a run may read or write: the store directory with all it holds, and the file
that an export or an import names. -/
def Invocation.places (env : Env) (inv : Invocation) : String × Option String :=
  (baseOf env inv.store, match inv.command with
    | .exportTo p _ | .importFrom p => some (joinPath env.cwd p)
    | _ => none)

/-- The store directory of an invocation, refused when it is a file. -/
def locate (env : Env) (tree : FileTree) (store : Option String) : Except Failure Layout := do
  let base := baseOf env store
  if tree.isFile (PathName.ofText base) then
    throw (.other ("Store path " ++ base ++ " is a file, expected a directory"))
  pure (Layout.ofBase base)

/-- The configuration in the store directory, or the defaults. -/
def configure (tree : FileTree) (layout : Layout) : Except Failure Config := do
  let path := PathName.ofText layout.config
  if !tree.exists? path then return {}
  match tree.read path with
  | .error e => throw (.other e.message)
  | .ok text =>
    match Config.load layout.config (some text) with
    | .ok c => pure c
    | .error m => throw (.other m)

/-- Create the store's directories and open it with the built-in migrations. -/
def openStore (tree : FileTree) (layout : Layout) (config : Config) : Except Failure Vault × FileTree :=
  match tree.createDirAll (PathName.ofText layout.base) with
  | .error e => (.error (.store (.initialization ("failed to prepare " ++ layout.base ++ ": " ++ e.message))), tree)
  | .ok tree =>
    match FileBlobs.create layout.data layout.backups config.maxBackups tree with
    | .error e => (.error (.store (.initialization e.message)), tree)
    | .ok fb => (.ok (Vault.create (.files fb) builtinRegistry config), fb.tree)

/-- A failed run. -/
def failed (f : Failure) (out : String) : Outcome :=
  { code := 1, stdout := out, stderr := "error: " ++ f.describe ++ "\n" }

/-- Run the program with `args` (without its name) on `tree`. -/
def execute (env : Env) (args : List String) (tree : FileTree) : Outcome × FileTree :=
  match parse args with
  | .error e => ({ code := e.code, stdout := e.stdout, stderr := e.stderr }, tree)
  | .ok inv =>
    match locate env tree inv.store with
    | .error f => (failed f "", tree)
    | .ok layout =>
      match configure tree layout with
      | .error f => (failed f "", tree)
      | .ok config =>
        match openStore tree layout config with
        | (.error f, tree) => (failed f "", tree)
        | (.ok vault, _) =>
          let (r, shell) := (dispatch env layout config inv.command).run.run { vault }
          match r with
          | .ok () => ({ code := 0, stdout := shell.out }, shell.vault.fileTree)
          | .error f => (failed f shell.out, shell.vault.fileTree)

end DocStore.Cli
