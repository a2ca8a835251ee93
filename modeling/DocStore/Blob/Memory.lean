import DocStore.Blob.Key
import DocStore.Time.Instant
/-
  DocStore.Blob.Memory — a byte store held in memory, with failures that can be switched
  on to exercise the layers above it.

  Blobs are kept by key in key order. A backup is a copy of every blob under a name made
  of the time and a sequence number, so names sort in the order they were taken; taking
  one with no blobs gives no name. Restoring a backup puts back exactly its blobs;
  restoring an unknown name changes nothing and says so.
-/

namespace DocStore

/-- The name of the `seq`-th backup taken at `now`: `backup_YYYYmmdd_HHMMSS_mmm_NNNNNN`. -/
def Blob.backupName (now : Instant) (seq : Nat) : String :=
  "backup_" ++ now.stampText ++ "_" ++ Instant.pad 6 seq

/-- A byte store in memory. -/
structure MemoryBlobs where
  /-- Blobs by key, in key order. -/
  blobs : List (String × String) := []
  /-- Backups in the order they were taken. -/
  backups : List (String × List (String × String)) := []
  sequence : Nat := 0
  /-- While set, every write fails. -/
  failPuts : Bool := false
  /-- While set, every backup fails. -/
  failBackups : Bool := false
  deriving Repr

namespace MemoryBlobs

/-- Put `(k, v)` into a key-ordered list, replacing the entry of the same key. -/
def insertSorted (k v : String) : List (String × String) → List (String × String)
  | [] => [(k, v)]
  | (k', v') :: rest =>
    if k == k' then (k, v) :: rest
    else if k < k' then (k, v) :: (k', v') :: rest
    else (k', v') :: insertSorted k v rest

def get (m : MemoryBlobs) (key : String) : Except BlobError (Option String) := do
  Blob.checkKey key
  pure (m.blobs.lookup key)

def put (m : MemoryBlobs) (key value : String) : Except BlobError MemoryBlobs := do
  Blob.checkKey key
  if m.failPuts then throw (.io key "injected write failure")
  pure { m with blobs := insertSorted key value m.blobs }

def delete (m : MemoryBlobs) (key : String) : Except BlobError MemoryBlobs := do
  Blob.checkKey key
  pure { m with blobs := m.blobs.filter (·.1 != key) }

/-- Copy every blob under a fresh name; `none` when there is nothing to copy. -/
def createBackup (m : MemoryBlobs) (now : Instant) : Except BlobError (Option String × MemoryBlobs) := do
  if m.failBackups then throw (.unavailable "injected backup failure")
  if m.blobs.isEmpty then return (none, m)
  let seq := m.sequence + 1
  let name := Blob.backupName now seq
  pure (some name, { m with sequence := seq, backups := m.backups ++ [(name, m.blobs)] })

/-- Replace every blob by those of the named backup; `false` when there is no such backup. -/
def restoreBackup (m : MemoryBlobs) (name : String) : Bool × MemoryBlobs :=
  match m.backups.lookup name with
  | some blobs => (true, { m with blobs := blobs })
  | none => (false, m)

/-- Backup names, newest first. -/
def listBackups (m : MemoryBlobs) : List String := (m.backups.map (·.1)).reverse

def keys (m : MemoryBlobs) : List String := m.blobs.map (·.1)

end MemoryBlobs

end DocStore
