import DocStore.Blob.Memory
import DocStore.Fs.Tree
import DocStore.Json.Decode
import DocStore.Json.Write
import DocStore.Text.Sha256
/-
  DocStore.Blob.File — a byte store kept as files in a directory tree.

  (1) Blobs. Key `k` is the file `k.bin` in the data directory. The keys present are the
  names there with extension `bin` whose stem is a valid key; other files are ignored.
  A write goes to a dot-named temporary file in the same directory and is then renamed
  over the target, so a reader sees the old bytes or the new ones.

  (2) Backups. A backup is a directory under the backup directory holding a copy of
  every blob and a manifest `backup_metadata.json` with the SHA-256 of each copy. Only
  directories named `backup_…` with a manifest count as backups; after each new one all
  but the newest `maxBackups` are removed.

  (3) Restoring. Every copy is checked against the manifest before anything live is
  touched; a missing or changed copy, or an unreadable manifest, fails the integrity
  check. Then the copies are written back and live keys the backup does not have are
  deleted.
-/

namespace DocStore

/-- A byte store over a directory tree. -/
structure FileBlobs where
  /-- The data directory, as given. -/
  dataDir : String
  /-- The backup directory, as given. -/
  backupDir : String
  /-- How many backups are kept (at least one). -/
  maxBackups : Nat
  sequence : Nat := 0
  tree : FileTree
  deriving Repr

/-- A step on a file store: its failures keep the effects made before them. -/
abbrev FileOp := ExceptT BlobError (StateM FileBlobs)

namespace FileBlobs

/-- `base/name`. -/
def joinText (base name : String) : String :=
  if base.toList.getLast? == some '/' then base ++ name else base ++ "/" ++ name

/-- The node path of an absolute path text. -/
def at_ (text : String) : PathName := PathName.ofText text

def manifestName : String := "backup_metadata.json"

/-- The key a data-directory entry stores: its stem when its extension is `bin` and the
stem is a valid key. -/
def keyOfEntry (name : String) : Option String :=
  let parts := (name.toList.splitOn '.').map String.ofList
  if parts.length < 2 then none
  else
    let stem := ".".intercalate parts.dropLast
    if stem.isEmpty || parts.getLast? != some "bin" then none
    else if Blob.validKey stem then some stem else none

/-- Apply a change to the tree; on failure nothing changes. -/
def change (f : FileTree → Except IoError FileTree) : FileOp (Except IoError Unit) := do
  let s ← get
  match f s.tree with
  | .ok t => set { s with tree := t }; pure (.ok ())
  | .error e => pure (.error e)

/-- Read a file. -/
def readText (path : String) : FileOp (Except IoError String) := do
  pure ((← get).tree.read (at_ path))

/-- Lift an I/O result, naming the failure with `wrap`. -/
def orFail (wrap : IoError → BlobError) : Except IoError α → FileOp α
  | .ok a => pure a
  | .error e => throw (wrap e)

/-- Write `bytes` to `dir/.NAME.tmp`, then rename it over `target` (named `NAME`). -/
def writeAtomic (dir target : String) (bytes : String) : FileOp (Except IoError Unit) := do
  let name := (((target.toList.splitOn '/').map String.ofList).getLast?).getD "blob"
  let temp := joinText dir ("." ++ name ++ ".tmp")
  match ← change (·.write (at_ temp) bytes) with
  | .error e => pure (.error e)
  | .ok () => change (·.rename (at_ temp) (at_ target))

/-- Create the data and backup directories. -/
def create (dataDir backupDir : String) (maxBackups : Nat) (tree : FileTree) : Except BlobError FileBlobs := do
  let mut t := tree
  for dir in [dataDir, backupDir] do
    match t.createDirAll (at_ dir) with
    | .ok t' => t := t'
    | .error e => throw (.io dir e.message)
  pure { dataDir, backupDir, maxBackups := max maxBackups 1, tree := t }

def blobPath (s : FileBlobs) (key : String) : String := joinText s.dataDir (key ++ ".bin")

def get (key : String) : FileOp (Option String) := do
  Blob.checkKey key
  match ← readText ((← MonadState.get).blobPath key) with
  | .ok bytes => pure (some bytes)
  | .error .notFound => pure none
  | .error e => throw (.io key e.message)

def put (key bytes : String) : FileOp Unit := do
  Blob.checkKey key
  let s ← MonadState.get
  orFail (fun e => .io key e.message) (← writeAtomic s.dataDir (s.blobPath key) bytes)

def delete (key : String) : FileOp Unit := do
  Blob.checkKey key
  let s ← MonadState.get
  match ← change (·.removeFile (at_ (s.blobPath key))) with
  | .ok () | .error .notFound => pure ()
  | .error e => throw (.io key e.message)

/-- The keys in the data directory, sorted. -/
def liveKeys : FileOp (List String) := do
  let s ← MonadState.get
  let names ← orFail (fun e => .io s.dataDir e.message) (s.tree.readDir (at_ s.dataDir))
  pure ((names.filterMap keyOfEntry).mergeSort fun a b => decide (a ≤ b))

/-- Backup names, newest first: directories named `backup_…` that hold a manifest. -/
def listBackups : FileOp (List String) := do
  let s ← MonadState.get
  if !s.tree.exists? (at_ s.backupDir) then return []
  let names ← orFail (fun e => .io s.backupDir e.message) (s.tree.readDir (at_ s.backupDir))
  let kept := names.filter fun n =>
    s.tree.isFile (at_ (joinText (joinText s.backupDir n) manifestName)) && n.startsWith "backup_"
  pure (kept.mergeSort fun a b => decide (b ≤ a))

/-- Remove the backups `names`; a removal that fails is passed over. -/
def removeBackups (backupDir : String) : List String → FileOp Unit
  | [] => pure ()
  | n :: names => do
    let _ ← change (·.removeDirAll (at_ (joinText backupDir n)))
    removeBackups backupDir names

/-- Remove every backup beyond the newest `maxBackups`; failures are ignored. -/
def pruneBackups : FileOp Unit := do
  let names ← listBackups
  let s ← MonadState.get
  removeBackups s.backupDir (names.drop s.maxBackups)

/-- The manifest text of a backup. -/
def manifestText (now : Instant) (checksums : List (String × String)) : String :=
  (Json.obj [("created_at", .str now.toLongText),
    ("checksums", .obj (checksums.map fun (k, h) => (k, .str h)))]).prettyText

/-- Copy the blob of each key into the backup directory `dir`; the checksum of each copy,
in key order. -/
def copyBlobs (s : FileBlobs) (dir : String) : List String → FileOp (List (String × String))
  | [] => pure []
  | key :: keys => do
    let bytes ← orFail (fun e => .io key e.message) (← readText (s.blobPath key))
    orFail (fun e => .io key e.message) (← writeAtomic dir (joinText dir (key ++ ".bin")) bytes)
    let sums ← copyBlobs s dir keys
    pure ((key, Sha256.hexOf bytes) :: sums)

/-- Copy every blob into a new backup directory; `none` when there are no blobs. -/
def createBackup (now : Instant) : FileOp (Option String) := do
  let keys ← liveKeys
  if keys.isEmpty then return none
  let s ← MonadState.get
  let seq := s.sequence + 1
  set { s with sequence := seq }
  let name := Blob.backupName now seq
  let dir := joinText s.backupDir name
  orFail (fun e => .io name e.message) (← change (·.createDirAll (at_ dir)))
  let sums ← copyBlobs s dir keys
  orFail (fun e => .io name e.message) (← writeAtomic dir (joinText dir manifestName) (manifestText now sums))
  pruneBackups
  pure (some name)

end FileBlobs

namespace Codec
open JsonRead

/-- One member of a backup manifest, read into the two fields found so far. -/
def manifestMember (d : Option String × Option (List (String × String))) :
    String → JsonRead (Option String × Option (List (String × String)))
  | "created_at" => do pure (some (← fieldOnce "created_at" d.1 text), d.2)
  | "checksums" => do pure (d.1, some (← fieldOnce "checksums" d.2 (keyedMap text)))
  | _ => do skipMember; pure d

/-- The checksums of a backup manifest `{created_at, checksums}` (or its two fields in an
array). -/
def manifest : JsonRead (List (String × String)) :=
  let exp := "struct BackupMetadata with 2 elements"
  record "BackupMetadata"
    (do
      let d ← membersOf manifestMember (← fuelFor) true (none, none)
      let _ ← required "created_at" d.1
      required "checksums" d.2)
    (do
      let _ ← positional text none 0 exp true
      positional (keyedMap text) none 1 exp false)

end Codec

namespace FileBlobs

/-- Check the copy of every key a manifest lists against its checksum; the copies, in the
manifest's order. -/
def verifyCopies (name dir : String) : List (String × String) → FileOp (List (String × String))
  | [] => pure []
  | (key, expected) :: sums => do
    Blob.checkKey key
    let bytes ← orFail (fun _ => .integrity name) (← readText (joinText dir (key ++ ".bin")))
    if Sha256.hexOf bytes != expected then throw (.integrity name)
    let copies ← verifyCopies name dir sums
    pure ((key, bytes) :: copies)

/-- Write every blob of a list. -/
def putAll : List (String × String) → FileOp Unit
  | [] => pure ()
  | (key, bytes) :: blobs => do
    put key bytes
    putAll blobs

/-- Delete each of `keys` that a manifest does not list. -/
def deleteUnlisted (sums : List (String × String)) : List String → FileOp Unit
  | [] => pure ()
  | key :: keys => do
    if !(sums.any (·.1 == key)) then delete key
    deleteUnlisted sums keys

/-- Delete every live key a manifest does not list. -/
def sweep (sums : List (String × String)) : FileOp Unit := do
  deleteUnlisted sums (← liveKeys)

/-- Put back the blobs of a backup after checking every copy; `false` when there is no
backup of that name. -/
def restoreBackup (name : String) : FileOp Bool := do
  if !(name.startsWith "backup_" && Blob.validKey name) then return false
  let s ← MonadState.get
  let dir := joinText s.backupDir name
  if !s.tree.isDir (at_ dir) then return false
  let path := joinText dir manifestName
  let text ← orFail (fun e => .io path e.message) (← readText path)
  let sums ← match JsonRead.run Codec.manifest text with
    | .ok sums => pure sums
    | .error _ => throw (.integrity dir)
  let copies ← verifyCopies name dir sums
  putAll copies
  sweep sums
  pure true

end FileBlobs

end DocStore
