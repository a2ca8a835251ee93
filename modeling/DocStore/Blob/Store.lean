import DocStore.Blob.File
/-
  DocStore.Blob.Store — the byte store under a document store: in memory or on a
  directory tree, with the same operations on both.

  Everything above treats it as a map from keys to bytes with whole-store backups:
  `get`, `put`, `delete`, `createBackup` (no name when there is nothing to copy),
  `restoreBackup` (`false` for an unknown name) and `listBackups` (newest first). A
  failed operation keeps whatever it changed before failing.
-/

namespace DocStore

/-- A byte store. -/
inductive Blobs where
  | memory (m : MemoryBlobs)
  | files (f : FileBlobs)
  deriving Repr

/-- A step on a byte store. -/
abbrev BlobOp := ExceptT BlobError (StateM Blobs)

namespace Blobs

/-- Run `mem` on a memory store or `file` on a file store. -/
def either (mem : MemoryBlobs → Except BlobError (α × MemoryBlobs)) (file : FileOp α) : BlobOp α :=
  ExceptT.mk fun b => match b with
    | .memory m =>
      match mem m with
      | .ok (a, m') => (.ok a, .memory m')
      | .error e => (.error e, .memory m)
    | .files f =>
      let (r, f') := (ExceptT.run file).run f
      (r, .files f')

def get (key : String) : BlobOp (Option String) :=
  either (fun m => do pure (← m.get key, m)) (FileBlobs.get key)

def put (key value : String) : BlobOp Unit :=
  either (fun m => do pure ((), ← m.put key value)) (FileBlobs.put key value)

def delete (key : String) : BlobOp Unit :=
  either (fun m => do pure ((), ← m.delete key)) (FileBlobs.delete key)

def createBackup (now : Instant) : BlobOp (Option String) :=
  either (fun m => m.createBackup now) (FileBlobs.createBackup now)

def restoreBackup (name : String) : BlobOp Bool :=
  either (fun m => pure (m.restoreBackup name)) (FileBlobs.restoreBackup name)

/-- Backup names, newest first. -/
def listBackups : BlobOp (List String) :=
  either (fun m => pure (m.listBackups, m)) FileBlobs.listBackups

end Blobs

end DocStore
