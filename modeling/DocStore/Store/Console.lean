import DocStore.Store.Report
import DocStore.Repo.Identity
import DocStore.Repo.Profile
import DocStore.Repo.Project
import DocStore.Repo.Message
/-
  DocStore.Store.Console — a JSON request interface to a store.

  A request is an object naming an operation in `op` with its arguments; the answer is
  JSON. Store operations answer a document or a store error; repository operations an
  entity, a list of ids, or a repository error; raw operations act on the byte store
  underneath, bypassing the document layer. A request that lacks an argument or names no
  known operation is refused with a `BadInput` answer; a value that does not decode is
  refused with a `DecodeError` answer. With `brief`, documents are summarized by version
  and counts.

  A console over a store's own hidden memory store sends raw requests to a separate
  empty byte store instead.
-/

namespace DocStore

/-- The byte store a console drives. -/
inductive ConsoleStore where
  | memory
  | files
  /-- The store keeps its bytes to itself; raw requests see another, empty store. -/
  | hidden
  deriving DecidableEq, Repr

/-- A console: the store, and the byte store raw requests go to when it is hidden. -/
structure Console where
  vault : Vault
  raw : Blobs := .memory {}
  kind : ConsoleStore

namespace Console

/-- An answer refusing a request. -/
def refusal (kind message : String) : Json := .obj [("error", .str kind), ("message", .str message)]

abbrev Reply := Except Json (Json × Console)

def arg (q : Json) (k : String) : Except Json Json :=
  match q.field? k with
  | some v => pure v
  | none => throw (refusal "BadInput" ("missing field " ++ k))

def textArg (q : Json) (k : String) : Except Json String := do
  match (← arg q k).getStr? with
  | some s => pure s
  | none => throw (refusal "BadInput" ("field " ++ k ++ " must be a string"))

def flagArg (q : Json) (k : String) (dflt : Bool) : Bool := ((q.field? k).bind Json.getBool?).getD dflt

/-- A value read from its compact text. -/
def decodeArg (r : JsonRead α) (j : Json) : Except Json α :=
  match JsonRead.run r j.compact with
  | .ok v => pure v
  | .error e => throw (refusal "DecodeError" e.message)

/-- A document in full, or summarized by version and counts. -/
def docJson (brief : Bool) (d : Document) : Json :=
  if brief then .obj [("counts", d.counts.toJson), ("version", .ofNat d.version)] else d.toJson

def ok (_ : α) : Json := .obj [("ok", .bool true)]

def items (f : α → Json) (xs : List α) : Json := .arr (xs.map f)

def onVault (c : Console) (m : StateM Vault α) : α × Console := let (a, v) := m.run c.vault; (a, { c with vault := v })

def store (c : Console) (m : VaultOp α) (f : α → Json) : Reply :=
  let (r, c) := c.onVault m.run
  pure (match r with | .ok a => f a | .error e => e.toJson, c)

def repo (c : Console) (m : RepoOp α) (f : α → Json) : Reply :=
  let (r, c) := c.onVault m.run
  pure (match r with | .ok a => f a | .error e => e.toJson, c)

def setBlobs (c : Console) (b : Blobs) : Console := { c with vault := { c.vault with blobs := b } }

/-- The byte store raw requests see. -/
def rawBlobs (c : Console) : Blobs := if c.kind == .hidden then c.raw else c.vault.blobs

def onRaw (c : Console) (m : BlobOp α) (f : α → Json) : Reply :=
  let (r, b) := m.run.run c.rawBlobs
  let c := if c.kind == .hidden then { c with raw := b } else c.setBlobs b
  pure (match r with | .ok a => f a | .error e => refusal "BlobStoreError" e.message, c)

/-- Change the switches of a memory store. -/
def switch (c : Console) (op : String) (f : MemoryBlobs → MemoryBlobs) : Reply :=
  match c.kind, c.vault.blobs with
  | .memory, .memory m => pure (ok (), c.setBlobs (.memory (f m)))
  | _, _ => throw (refusal "BadInput" (op ++ " needs the memory store"))

/-- Change a file of a file store directly; `ok` says whether the change was made. -/
def touchFile (c : Console) (op : String) (path : FileBlobs → String)
    (f : FileTree → PathName → Except IoError FileTree) : Reply :=
  match c.vault.blobs with
  | .files fb => pure (match f fb.tree (FileBlobs.at_ (path fb)) with
    | .ok t => (ok (), c.setBlobs (.files { fb with tree := t }))
    | .error _ => (.obj [("ok", .bool false)], c))
  | _ => throw (refusal "BadInput" (op ++ " needs the file store"))

/-- The list, lookup, change, delete, search and observe requests of one entity kind. -/
def entities (c : Console) (q : Json) (op : String) (dec : JsonRead ε) (enc : ε → Json) (idOf : ε → String)
    (list : RepoOp (List ε)) (find : String → RepoOp ε) (add update : ε → RepoOp ε) (delete : String → RepoOp Unit)
    (search : String → RepoOp (List ε)) (seen : Vault → Option (List ε)) : Reply := do
  let ids := items (.str ∘ idOf)
  match op with
  | "list" => c.repo list (items enc)
  | "get" => c.repo (find (← textArg q "id")) enc
  | "add" => c.repo (add (← decodeArg dec (← arg q "entity"))) enc
  | "update" => c.repo (update (← decodeArg dec (← arg q "entity"))) enc
  | "delete" => c.repo (delete (← textArg q "id")) ok
  | "search" => c.repo (search (← textArg q "query")) ids
  | "observe" => pure (Json.opt ids (seen c.vault), c)
  | _ => throw (refusal "BadInput" ("unknown op " ++ op))

/-- The answer to a run, with the success flags when `extra` asks for them. -/
def runAnswer (q : Json) (brief : Bool) (c : Console) (m : StateM Vault MigrationOutcome) : Reply :=
  let (o, c) := c.onVault m
  let j := o.toJson (if brief then fun d => .obj [("version", .ofNat d.version)] else Document.toJson)
  pure (if flagArg q "extra" false then (j.setField "is_success" (.bool o.isSuccess)).setField "into_result"
    (.str o.resultKind) else j, c)

/-- Bytes given as `text`, or as the compact form of `value`. -/
def bytesArg (q : Json) : Except Json String :=
  match q.field? "text" with
  | some (.str t) => pure t
  | _ => Json.compact <$> arg q "value"

/-- Stored bytes: JSON when they parse (run-log entries without their durations), text
otherwise. -/
def storedJson (historyKey key : String) : Option String → Json
  | none => .obj [("missing", .bool true)]
  | some t => match JsonRead.parse t with
    | .ok (.arr xs) => .obj [("json", if key == historyKey then .arr (xs.map (·.eraseField "durationMs")) else .arr xs)]
    | .ok j => .obj [("json", j)]
    | .error _ => .obj [("text", .str t)]

/-- A run-log entry as shown: without its duration. -/
def entryJson (e : LogEntry) : Json := e.toJson.eraseField "durationMs"

open Repo in
/-- Answer one request. -/
def perform (now : Instant) (c : Console) (q : Json) : Reply := do
  let brief := flagArg q "brief" false
  let doc := docJson brief
  let target := (q.field? "target").bind Json.getNat?
  let op ← textArg q "op"
  let key := ((q.field? "key").bind Json.getStr?).getD c.vault.config.documentKey
  let v := c.vault
  match op.splitOn "_" with
  | ["initialize"] => c.store (Vault.start now) doc
  | ["load"] => c.store (Vault.load now) doc
  | ["save"] => do
    let d ← decodeArg (Codec.document now) (← arg q "document")
    c.store (Vault.save now d) doc
  | ["validate"] => c.store (Vault.validateCurrent now) fun r => .obj [("result", r.toJson), ("summary", r.summaryJson)]
  | ["export"] => c.store (Vault.exportText now) fun t => (JsonRead.parse t).toOption.getD .null
  | ["import"] => do
    let t ← match q.field? "json" with
      | some (.str t) => pure t
      | _ => Json.compact <$> arg q "document"
    c.store (Vault.importChecked now t) doc
  | ["migrate"] => runAnswer q brief c (Vault.migrate now ⟨target.getD v.latestVersion,
      flagArg q "create_backup" v.config.backupBeforeMigration, flagArg q "force_validation" false⟩)
  | ["migrate", "to", "latest"] => runAnswer q brief c (Vault.migrateToLatest now)
  | ["migrate", "to", "version"] => runAnswer q brief c (Vault.migrateToVersion now (target.getD 0))
  | ["rollback"] =>
    let (o, c) := c.onVault (Vault.rollback now ((q.field? "backup").bind Json.getStr?))
    let j := o.toJson Document.toJson
    pure (if flagArg q "extra" false then j.setField "into_result_ok" (.bool o.toExcept.toBool) else j, c)
  | ["plan"] => c.store (Vault.planFor now target) MigrationPlan.toJson
  | ["history"] => pure (items entryJson v.history.entries, c)
  | ["list", "backups"] => c.store Vault.listBackups Json.ofStrings
  | ["progress"] => pure (v.progressJson, c)
  | ["latest", "version"] => pure (.ofNat v.latestVersion, c)
  | ["config"] => pure (v.config.toJson, c)
  | ["teardown"] => pure (ok (), (c.onVault Vault.teardown).2)
  | ["observed"] => pure (Json.opt doc v.published, c)
  | ["observe", "next"] => pure ((v.published.map doc).getD (.obj [("document", .null)]), c)
  | ["put", "raw"] => do c.onRaw (Blobs.put key (← bytesArg q)) ok
  | ["get", "raw"] => c.onRaw (Blobs.get key) (storedJson v.config.historyKey key)
  | ["delete", "raw"] => c.onRaw (Blobs.delete key) ok
  | ["backup", "now"] => c.onRaw (Blobs.createBackup now) fun n => .obj [("backup", Json.opt .str n)]
  | ["restore", "backup"] => do c.onRaw (Blobs.restoreBackup (← textArg q "backup")) fun b => .obj [("restored", .bool b)]
  | ["keys"] =>
    match c.kind, v.blobs with
    | .memory, .memory m => pure (Json.ofStrings m.keys, c)
    | _, _ => throw (refusal "BadInput" "keys needs the memory store")
  | ["fail", "puts"] => c.switch op fun m => { m with failPuts := flagArg q "on" true }
  | ["fail", "backups"] => c.switch op fun m => { m with failBackups := flagArg q "on" true }
  | ["write", "data", "file"] => do
    let f ← textArg q "file"
    let t ← textArg q "text"
    c.touchFile op (fun fb => FileBlobs.joinText fb.dataDir f) (·.write · t)
  | ["tamper", "backup"] => do
    let rel := (← textArg q "backup") ++ "/" ++ (← textArg q "file")
    let t := (q.field? "text").bind Json.getStr?
    c.touchFile op (fun fb => FileBlobs.joinText fb.backupDir rel)
      (fun tr p => (t.map (tr.write p)).getD (tr.removeFile p))
  | ["identity", "touch"] => do c.repo (Identities.touch now (← textArg q "id")) Identity.toJson
  | ["identity", o] =>
    (c.entities q o Codec.identity Identity.toJson Identity.id (Identities.list now) (Identities.find now)
      (Identities.add now) (Identities.update now) (Identities.delete now) (Identities.search now) Identities.observed)
  | ["profile", "mark", "connected"] => do c.repo (Profiles.markConnected now (← textArg q "id")) ServerProfile.toJson
  | ["profile", "for", "identity"] => do c.repo (Profiles.forIdentity now (← textArg q "id")) (items (.str ∘ ServerProfile.id))
  | ["profile", o] =>
    (c.entities q o Codec.serverProfile ServerProfile.toJson ServerProfile.id (Profiles.list now) (Profiles.find now)
      (Profiles.add now) (Profiles.update now) (Profiles.delete now) (Profiles.search now) Profiles.observed)
  | ["project", "set", "status"] => do
    let st ← decodeArg Codec.projectStatus (← arg q "status")
    c.repo (Projects.setStatus now (← textArg q "id") st) Project.toJson
  | ["project", "with", "status"] => do
    c.repo (Projects.withStatus now (← decodeArg Codec.projectStatus (← arg q "status"))) (items (.str ∘ Project.id))
  | ["project", o] =>
    (c.entities q o Codec.project Project.toJson Project.id (Projects.list now) (Projects.find now)
      (Projects.add now) (Projects.update now) (Projects.delete now) (Projects.search now) Projects.observed)
  | ["message", "list"] => do
    c.repo (Messages.list now (← textArg q "project")) (items (if brief then (.str ·.id) else Message.toJson))
  | ["message", "append"] => do
    c.repo (Messages.append now (← decodeArg Codec.message (← arg q "entity"))) fun a =>
      .obj [("message", a.message.toJson), ("evicted", .ofNat a.evicted), ("retained", .bool a.retained)]
  | ["message", "update", "status"] => do
    let st ← decodeArg Codec.messageStatus (← arg q "status")
    c.repo (Messages.updateStatus now (← textArg q "id") st) Message.toJson
  | ["message", "clear"] => do c.repo (Messages.clear now (← textArg q "project")) fun n => .obj [("cleared", .ofNat n)]
  | ["message", "search"] => do
    c.repo (Messages.search now (← textArg q "query") ((q.field? "project").bind Json.getStr?)) (items (.str ∘ Message.id))
  | ["message", "observe"] => do
    pure (Json.opt (items (.str ∘ Message.id)) (Messages.observed (← textArg q "project") v), c)
  | ["message", o] =>
    (c.entities q o Codec.message Message.toJson Message.id (pure []) (Messages.find now)
      pure pure (Messages.delete now) (fun _ => pure []) (fun _ => none))
  | _ => throw (refusal "BadInput" ("unknown op " ++ op))

/-- The names of the backups the store holds, oldest first. -/
def backupsOldestFirst (c : Console) : List String :=
  match (Blobs.listBackups.run.run c.vault.blobs).1 with
  | .ok names => names.reverse
  | .error _ => []

end Console

end DocStore
