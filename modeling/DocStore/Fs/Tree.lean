/-
  DocStore.Fs.Tree — a directory tree held in memory, with the file operations a store on
  disk uses and the errors the operating system gives for them.

  (1) Paths. A path is written as names between slashes; empty names are dropped, `.`
  and `..` are kept, and whether it ends with a slash is remembered. It is resolved the
  way the operating system does, name by name from the root: `.` stays, `..` goes up
  (the root is its own parent), and every other name but the last must be a directory
  there, else the walk fails with "not found" or "not a directory". So `a/../b` needs
  `a`, and `f/..` fails when `f` is a file. A path ending in `.` or `..` names a
  directory; one ending in a slash must name a directory.

  (2) Operations. Reading needs a file. Writing creates or replaces the file the last name
  names, and refuses a directory, a path ending in a slash and one ending in `.` or `..`.
  Making a directory refuses a name that exists. Making every missing directory of a path
  makes the path, else (when something on the way is missing) its parent first and then
  the path, where the parent drops the last name and every `.` without resolving
  anything; an existing directory counts as made. Removing a file refuses a directory;
  removing a directory removes everything under it. Renaming moves a file or a directory
  tree onto a missing node or onto one of its kind.
-/

namespace DocStore

/-- An I/O failure, as the operating system reports it. -/
inductive IoError where
  | notFound
  | isDirectory
  | notDirectory
  | alreadyExists
  deriving DecidableEq, Repr

def IoError.message : IoError → String
  | .notFound => "No such file or directory (os error 2)"
  | .isDirectory => "Is a directory (os error 21)"
  | .notDirectory => "Not a directory (os error 20)"
  | .alreadyExists => "File exists (os error 17)"

/-- A node of the tree. -/
inductive Node where
  | file (content : String)
  | dir
  deriving DecidableEq, Repr

/-- Names from the root. -/
abbrev FsPath := List String

namespace FsPath

/-- Resolve `.` and `..` in a list of names without looking at any tree. -/
def normalize (names : List String) : FsPath :=
  (names.foldl (fun acc n => if n == "" || n == "." then acc else if n == ".." then acc.dropLast else acc ++ [n]) [])

/-- The text of an absolute path. -/
def text (p : FsPath) : String := "/" ++ "/".intercalate p

end FsPath

/-- A path as written: its names, `.` and `..` included, and whether a slash ends it. -/
structure PathName where
  names : List String
  trailingSlash : Bool := false
  deriving DecidableEq, Repr

namespace PathName

/-- The path a text writes, read from the root. -/
def ofText (s : String) : PathName :=
  ⟨((s.toList.splitOn '/').map String.ofList).filter (· != ""), s.toList.getLast? == some '/'⟩

/-- The path without its last name, and without any `.`; the root has none. -/
def parent (p : PathName) : Option PathName :=
  match p.names.filter (· != ".") with
  | [] => none
  | names => some ⟨names.dropLast, false⟩

theorem parent_shorter (p q : PathName) (h : p.parent = some q) : q.names.length < p.names.length := by
  have hle := List.length_filter_le (fun n => n != ".") p.names
  unfold parent at h
  generalize List.filter (fun n => n != ".") p.names = names at h hle
  cases names with
  | nil => cases h
  | cons x xs =>
    cases h
    simp only [List.length_dropLast, List.length_cons] at hle ⊢
    omega

/-- Every place a walk along the path may look at, each taken lexically. -/
def places (p : PathName) : List FsPath :=
  (List.range (p.names.length + 1)).map fun i => FsPath.normalize (p.names.take i)

end PathName

/-- Where a path leads: a directory reached through a final `.` or `..` (or the root),
or the entry `name` of directory `dir`, which may be missing. -/
inductive Target where
  | dir (place : FsPath)
  | entry (dir : FsPath) (name : String)
  deriving DecidableEq, Repr

/-- A directory tree: every node by its path; the root is a directory. -/
structure FileTree where
  nodes : List (FsPath × Node) := [([], .dir)]
  deriving Repr

namespace FileTree

def node? (t : FileTree) (p : FsPath) : Option Node := t.nodes.lookup p

/-- Walk `names` from directory `here`; each name must be a directory there. -/
def walk (t : FileTree) (here : FsPath) : List String → Except IoError FsPath
  | [] => pure here
  | n :: rest =>
    if n == "." then t.walk here rest
    else if n == ".." then t.walk here.dropLast rest
    else
      match t.node? (here ++ [n]) with
      | some .dir => t.walk (here ++ [n]) rest
      | some (.file _) => throw .notDirectory
      | none => throw .notFound

/-- Where `p` leads. -/
def target (t : FileTree) (p : PathName) : Except IoError Target := do
  match p.names.getLast? with
  | none => pure (.dir [])
  | some last =>
    let d ← t.walk [] p.names.dropLast
    if last == "." then pure (.dir d)
    else if last == ".." then pure (.dir d.dropLast)
    else pure (.entry d last)

/-- The node `p` names, and where it is. -/
def stat (t : FileTree) (p : PathName) : Except IoError (FsPath × Node) := do
  match ← t.target p with
  | .dir d => pure (d, .dir)
  | .entry d n =>
    match t.node? (d ++ [n]) with
    | none => throw .notFound
    | some (.file c) => if p.trailingSlash then throw .notDirectory else pure (d ++ [n], .file c)
    | some .dir => pure (d ++ [n], .dir)

def exists? (t : FileTree) (p : PathName) : Bool :=
  match t.stat p with
  | .ok _ => true
  | .error _ => false

def isDir (t : FileTree) (p : PathName) : Bool :=
  match t.stat p with
  | .ok (_, .dir) => true
  | _ => false

def isFile (t : FileTree) (p : PathName) : Bool :=
  match t.stat p with
  | .ok (_, .file _) => true
  | _ => false

/-- Put a node at `p`, replacing what was there. -/
def setNode (t : FileTree) (p : FsPath) (n : Node) : FileTree :=
  ⟨(t.nodes.filter (·.1 != p)) ++ [(p, n)]⟩

/-- Forget the node at `p`. -/
def erase (t : FileTree) (p : FsPath) : FileTree := ⟨t.nodes.filter (·.1 != p)⟩

/-- Forget the node at `p` and every node under it. -/
def eraseUnder (t : FileTree) (p : FsPath) : FileTree :=
  ⟨t.nodes.filter fun (r, _) => !(p.isPrefixOf r)⟩

/-- Move the node at `src`, with everything under it, to `dst`, over whatever stood at or
under `dst`. -/
def move (t : FileTree) (src dst : FsPath) : FileTree :=
  let moved := t.nodes.filterMap fun (q, m) => if src.isPrefixOf q then some (dst ++ q.drop src.length, m) else none
  let kept := t.nodes.filter fun (q, _) => !(src.isPrefixOf q) && !(dst.isPrefixOf q)
  ⟨kept ++ moved⟩

/-- The last names of the nodes one below `q`, in the order the tree holds them. -/
def childNames (t : FileTree) (q : FsPath) : List String :=
  t.nodes.filterMap fun (r, _) => if r.length == q.length + 1 && q.isPrefixOf r then r.getLast? else none

def read (t : FileTree) (p : PathName) : Except IoError String := do
  match ← t.stat p with
  | (_, .file c) => pure c
  | (_, .dir) => throw .isDirectory

def write (t : FileTree) (p : PathName) (content : String) : Except IoError FileTree := do
  match ← t.target p with
  | .dir _ => throw .isDirectory
  | .entry d n =>
    if p.trailingSlash then throw .isDirectory
    match t.node? (d ++ [n]) with
    | some .dir => throw .isDirectory
    | _ => pure (t.setNode (d ++ [n]) (.file content))

def createDir (t : FileTree) (p : PathName) : Except IoError FileTree := do
  match ← t.target p with
  | .dir _ => throw .alreadyExists
  | .entry d n =>
    match t.node? (d ++ [n]) with
    | some _ => throw .alreadyExists
    | none => pure (t.setNode (d ++ [n]) .dir)

/-- Create `p` and every missing directory above it. -/
def createDirAll (t : FileTree) (p : PathName) : Except IoError FileTree :=
  match t.createDir p with
  | .ok t' => pure t'
  | .error .notFound =>
    match h : p.parent with
    | none => throw .notFound
    | some q =>
      have := PathName.parent_shorter p q h
      match t.createDirAll q with
      | .error e => throw e
      | .ok t' =>
        match t'.createDir p with
        | .ok t'' => pure t''
        | .error e => if t'.isDir p then pure t' else throw e
  | .error e => if t.isDir p then pure t else throw e
termination_by p.names.length

def removeFile (t : FileTree) (p : PathName) : Except IoError FileTree := do
  match ← t.target p with
  | .dir _ => throw .isDirectory
  | .entry d n =>
    match t.node? (d ++ [n]) with
    | none => throw .notFound
    | some .dir => throw .isDirectory
    | some (.file _) =>
      if p.trailingSlash then throw .notDirectory
      pure (t.erase (d ++ [n]))

def removeDirAll (t : FileTree) (p : PathName) : Except IoError FileTree := do
  match ← t.stat p with
  | (q, .dir) => pure (t.eraseUnder q)
  | (_, .file _) => throw .notDirectory

/-- The names in a directory, sorted. -/
def readDir (t : FileTree) (p : PathName) : Except IoError (List String) := do
  match ← t.stat p with
  | (q, .dir) => pure ((t.childNames q).mergeSort fun a b => decide (a ≤ b))
  | (_, .file _) => throw .notDirectory

/-- Move the node at `a` (with everything under it) to `b`. -/
def rename (t : FileTree) (a b : PathName) : Except IoError FileTree := do
  let (src, n) ← t.stat a
  let dst ← match ← t.target b with
    | .dir _ => throw .isDirectory
    | .entry d name => pure (d ++ [name])
  match n, t.node? dst with
  | .file _, some .dir => throw .isDirectory
  | .dir, some (.file _) => throw .notDirectory
  | _, _ =>
    if src == dst then return t
    pure (t.move src dst)

end FileTree

end DocStore
