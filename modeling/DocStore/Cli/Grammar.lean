/-
  DocStore.Cli.Grammar — the shape of the command line, and the help and usage texts
  drawn from it.

  Commands form a tree: `docvault` has `init`, `status`, `validate`, `migrate`,
  `export` and `import`; `migrate` has `check`, `run`, `rollback`, `list` and `history`.
  A command with subcommands also has `help`. `--store <DIR>` and `--debug` are
  accepted at every level, `-h`/`--help` everywhere, `-V`/`--version` at the top only.

  Help lists an about line when the command has one, its usage, then its subcommands,
  its positional argument and its options, each column padded to the widest entry of
  its section. Options are ordered by declaration, the inherited ones interleaved by
  their position at the top, help last.
-/

namespace DocStore.Cli

/-- What the value of an option must be. -/
inductive ValueKind where
  /-- Any text. -/
  | text
  /-- A version: an integer from 0 to 2^32 - 1. -/
  | version
  /-- A path, which may not be empty. -/
  | path
  deriving Repr, Inhabited, DecidableEq

/-- An option: its long name, the name of its value if it takes one, its help, and its
place in the listing. -/
structure Flag where
  long : String
  value : Option String := none
  kind : ValueKind := .text
  help : String := ""
  order : Nat := 0
  /-- Whether it has the short form `-` plus the first letter. -/
  short : Option Char := none
  deriving Repr, Inhabited

/-- What a command accepts. -/
structure Spec where
  about : String := ""
  flags : List Flag := []
  /-- The value name of its one required positional argument. -/
  positional : Option String := none
  /-- Its subcommands, with their abouts. -/
  subs : List (String × String) := []
  deriving Repr, Inhabited

def programName : String := "docvault"

def versionText : String := "docvault 0.2.0\n"

def topAbout : String := "Versioned, validated document store with migrations and rollback."

def helpAbout : String := "Print this message or the help of the given subcommand(s)"

/-- The options every command inherits. -/
def globalFlags : List Flag :=
  [{ long := "store", value := some "DIR", kind := .path, help := "Store directory (defaults to ~/.docvault)",
     order := 0 },
   { long := "debug", help := "Verbose logging to stderr", order := 1 }]

def helpFlag : Flag := { long := "help", help := "Print help", order := 999, short := some 'h' }

def versionFlag : Flag := { long := "version", help := "Print version", order := 999, short := some 'V' }

/-- The command at a path of subcommand names. -/
def specAt : List String → Option Spec
  | [] => some {
      about := topAbout
      subs := [("init", "Create the store if needed and bring it to the latest version"),
        ("status", "Show version, entity counts and migration state"), ("validate", "Run full document validation"),
        ("migrate", ""), ("export", ""), ("import", "")] }
  | ["init"] => some { about := "Create the store if needed and bring it to the latest version" }
  | ["status"] => some { about := "Show version, entity counts and migration state" }
  | ["validate"] => some { about := "Run full document validation" }
  | ["migrate"] => some {
      subs := [("check", "Show what a migration would do without running it"), ("run", ""),
        ("rollback", "Restore a backup (default: the one taken by the last migration)"),
        ("list", "List backups, newest first"), ("history", "Show recent migration and rollback runs")] }
  | ["migrate", "check"] => some {
      about := "Show what a migration would do without running it"
      flags := [{ long := "to", value := some "TO", kind := .version }] }
  | ["migrate", "run"] => some {
      flags := [
        { long := "to", value := some "TO", kind := .version, help := "Target version (default: latest)", order := 0 },
        { long := "no-backup", help := "Skip the pre-migration backup", order := 1 },
        { long := "force-validation", help := "Validate even when already at the target version", order := 2 }] }
  | ["migrate", "rollback"] => some {
      about := "Restore a backup (default: the one taken by the last migration)"
      flags := [{ long := "backup", value := some "BACKUP" }] }
  | ["migrate", "list"] => some { about := "List backups, newest first" }
  | ["migrate", "history"] => some { about := "Show recent migration and rollback runs" }
  | ["export"] => some {
      flags := [{ long := "force", help := "Overwrite an existing file" }]
      positional := some "PATH" }
  | ["import"] => some { positional := some "PATH" }
  | _ => none

/-- Every option a command at `path` accepts, in the order it declares them: its own,
the inherited ones, help, and version at the top. -/
def declaredFlags (path : List String) (s : Spec) : List Flag :=
  s.flags ++ globalFlags ++ [helpFlag] ++ (if path.isEmpty then [versionFlag] else [])

/-- Every option a command at `path` accepts, in listing order. -/
def flagsAt (path : List String) (s : Spec) : List Flag :=
  let all := declaredFlags path s
  let key (f : Flag) : Nat × String := (f.order, match f.short with
    | some c => String.ofList [c.toLower, if c.isLower then '0' else '1']
    | none => f.long)
  all.mergeSort fun a b => decide ((key a).1 < (key b).1) || ((key a).1 == (key b).1 && decide ((key a).2 ≤ (key b).2))

/-- `--long <VALUE>` or `--long`. -/
def Flag.display (f : Flag) : String :=
  "--" ++ f.long ++ match f.value with
    | some v => " <" ++ v ++ ">"
    | none => ""

/-- The subcommand names of a command, `help` last when it has any. -/
def subNames (s : Spec) : List String :=
  if s.subs.isEmpty then [] else s.subs.map (·.1) ++ ["help"]

/-- `docvault migrate run` for the path `[migrate, run]`. -/
def commandName (path : List String) : String := " ".intercalate (programName :: path)

/-- The usage of a command: `docvault export [OPTIONS] <PATH>`. -/
def usage (path : List String) (s : Spec) : String :=
  commandName path ++ " [OPTIONS]" ++ (match s.positional with
    | some v => " <" ++ v ++ ">"
    | none => "") ++ (if s.subs.isEmpty then "" else " <COMMAND>")

def spaces (n : Nat) : String := String.ofList (List.replicate n ' ')

/-- One line of an option listing, its help column after `width`. -/
def flagLine (width : Nat) (f : Flag) : String :=
  let shown := f.display
  "  " ++ (match f.short with
    | some c => "-" ++ String.singleton c ++ ", "
    | none => "    ") ++ shown ++ spaces (width + 2 - shown.length) ++ f.help

/-- The full help of a command. -/
def helpText (path : List String) (s : Spec) : String :=
  let about := if s.about.isEmpty then "" else s.about ++ "\n\n"
  let subs := if s.subs.isEmpty then [] else s.subs ++ [("help", helpAbout)]
  let subWidth := subs.foldl (fun w (n, _) => max w n.length) 2
  let commands := if subs.isEmpty then "" else
    "Commands:\n" ++ String.join (subs.map fun (n, a) => "  " ++ n ++ spaces (subWidth + 2 - n.length) ++ a ++ "\n") ++ "\n"
  let arguments := match s.positional with
    | some v => "Arguments:\n  <" ++ v ++ ">  \n\n"
    | none => ""
  let flags := flagsAt path s
  let width := flags.foldl (fun w f => max w f.display.length) 2
  about ++ "Usage: " ++ usage path s ++ "\n\n" ++ commands ++ arguments ++ "Options:\n" ++
    String.join (flags.map fun f => flagLine width f ++ "\n")

/-- The help of the `help` subcommand of the command at `path`. -/
def helpCommandText (path : List String) : String :=
  helpAbout ++ "\n\nUsage: " ++ commandName (path ++ ["help"]) ++ " [COMMAND]...\n\nArguments:\n" ++
    "  [COMMAND]...  Print help for the subcommand(s)\n"

/-- The number of characters of `a` matching one of `b` within the Jaro window, and the
number of matched positions whose characters differ (twice the transpositions). -/
def jaroCounts (a b : List Char) : Nat × Nat :=
  let window := (max a.length b.length) / 2 - 1
  let (matchedA, usedB) := a.zipIdx.foldl (fun (ms, used) (c, i) =>
    let lo := i - window
    let hit := (List.range b.length).find? fun j =>
      lo ≤ j && j ≤ i + window && !used.contains j && b.getD j ' ' == c
    match hit with
    | some j => (ms ++ [c], used ++ [j])
    | none => (ms, used)) ([], [])
  let matchedB := ((usedB.mergeSort fun x y => decide (x ≤ y)).map fun j => b.getD j ' ')
  let mismatched := (matchedA.zip matchedB).countP fun (x, y) => x != y
  (matchedA.length, mismatched)

/-- The Jaro similarity of `a` and `b`, in double precision: the mean of the matched share
of `a`, the matched share of `b`, and the share of matches left once the transpositions
(half the differing positions, rounded down) are taken away. Two empty texts are alike. -/
def jaro (a b : String) : Float :=
  let (m, mis) := jaroCounts a.toList b.toList
  let la := a.length
  let lb := b.length
  if la == 0 && lb == 0 then 1
  else if m == 0 || la == 0 || lb == 0 then 0
  else
    let mf := m.toFloat
    (mf / la.toFloat + mf / lb.toFloat + (m - mis / 2).toFloat / mf) / 3

/-- Similar enough to be suggested: a similarity above 0.7. -/
def similar (a b : String) : Bool := jaro a b > 0.7

/-- The candidates similar to `word`, least similar first (ties in the given order). -/
def suggestions (word : String) (candidates : List String) : List String :=
  let scored := (candidates.filter (similar word)).map fun c => (jaro word c, c)
  (scored.mergeSort fun x y => decide (x.1 ≤ y.1)).map (·.2)

end DocStore.Cli
