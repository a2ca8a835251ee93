import DocStore.Cli.Run
import Std.Time.DateTime.Timestamp
/-
  DocStore.Main — the command line on the real file system.

  A run reads the places it may touch into a `FileTree` (the store directory with all it
  holds, the export or import file, and every place a walk to them looks at), lets
  `Cli.execute` do the work on that tree, and writes back what changed: what is gone is
  removed, deepest first, and what is new or different is written, shallowest first.
-/

namespace DocStore.Disk

/-- Whether two nodes are of one kind, so that one can be written over the other. -/
def sameKind : Node → Node → Bool
  | .dir, .dir => true
  | .file _, .file _ => true
  | _, _ => false

/-- What the disk holds at `p`: a directory, a file and its text, or nothing readable. -/
def readNode (p : FsPath) : IO (Option Node) := do
  let here := System.mkFilePath [p.text]
  if ← here.isDir then return some .dir
  if !(← here.pathExists) then return none
  match ← (IO.FS.readFile p.text).toBaseIO with
  | .ok text => pure (some (.file text))
  | .error _ => pure none

/-- Add `p` and, for a directory, all it holds. -/
partial def loadUnder (t : FileTree) (p : FsPath) : IO FileTree := do
  match ← readNode p with
  | none => pure t
  | some .dir =>
    let entries ← (System.mkFilePath [p.text]).readDir
    entries.foldlM (fun t e => loadUnder t (p ++ [e.fileName])) (t.setNode p .dir)
  | some n => pure (t.setNode p n)

/-- Add `p` with every directory above it, as far as they exist. -/
def loadPlace (t : FileTree) (p : FsPath) : IO FileTree := do
  let mut t := t
  for i in List.range p.length do
    match ← readNode (p.take (i + 1)) with
    | some n => t := t.setNode (p.take (i + 1)) n
    | none => return t
  pure t

/-- Add every place a walk along `p` looks at; the last one with all it holds when `deep`. -/
def load (t : FileTree) (p : PathName) (deep : Bool) : IO FileTree := do
  let mut t := t
  for q in p.places do t ← loadPlace t q
  match p.places.getLast? with
  | some q => if deep && t.node? q == some .dir then loadUnder t q else pure t
  | none => pure t

/-- Make the disk hold `after` where it held `before`. -/
def store (before after : FileTree) : IO Unit := do
  let gone := before.nodes.filter fun (p, n) =>
    match after.node? p with
    | some m => !sameKind n m
    | none => true
  for (p, n) in gone.mergeSort (fun a b => b.1.length ≤ a.1.length) do
    let _ ← (match n with
      | .dir => IO.FS.removeDirAll p.text
      | .file _ => IO.FS.removeFile p.text).toBaseIO
  for (p, n) in after.nodes.mergeSort (fun a b => a.1.length ≤ b.1.length) do
    match n, before.node? p with
    | .dir, some .dir => pure ()
    | .dir, _ => IO.FS.createDirAll p.text
    | .file c, some (.file c') => if c != c' then IO.FS.writeFile p.text c
    | .file c, _ => IO.FS.writeFile p.text c

end DocStore.Disk

open DocStore in
/-- Run the program on the real file system; the exit code is the run's. -/
def main (args : List String) : IO UInt32 := do
  let cwd := (← IO.currentDir).toString
  let home := (← IO.getEnv "HOME").getD "/"
  let stamp ← Std.Time.Timestamp.now
  let env : Cli.Env := ⟨cwd, home, Instant.ofNanos stamp.val.toNanoseconds.val⟩
  let mut before : FileTree := {}
  if let .ok inv := Cli.parse args then
    let (base, file) := inv.places env
    before ← Disk.load before (PathName.ofText base) true
    if let some f := file then
      before ← Disk.load before (PathName.ofText f) false
  let (outcome, after) := Cli.execute env args before
  Disk.store before after
  IO.print outcome.stdout
  IO.eprint outcome.stderr
  pure outcome.code.toUInt32
