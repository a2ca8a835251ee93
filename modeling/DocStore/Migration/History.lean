import DocStore.Model.Codec
/-
  DocStore.Migration.History — the log of migration runs and rollbacks: a ring holding
  the newest entries, at most `limit` of them (a limit of 0 counts as 1).

  An entry records when the run ended, the version before (unknown when the run failed
  before reading it), the version after, whether it succeeded, how long it took, the
  backup taken (if any), the error (if any), and whether it was a migration or a
  rollback. The log is stored as a JSON list of entries; stored bytes that are not such
  a list read as an empty log.
-/

namespace DocStore

/-- What a logged run did. -/
inductive Operation where
  | migrate
  | rollback
  deriving DecidableEq, Repr, Inhabited

def Operation.name : Operation → String
  | .migrate => "migrate"
  | .rollback => "rollback"

/-- One logged run. -/
structure LogEntry where
  timestamp : Instant
  fromVersion : Option Nat := none
  toVersion : Nat
  success : Bool
  durationMs : Nat := 0
  backupFilename : Option String := none
  error : Option String := none
  operation : Operation := .migrate
  deriving Repr

def LogEntry.toJson (e : LogEntry) : Json :=
  Codec.members [("timestamp", some (Codec.stamp e.timestamp)),
    ("fromVersion", some (Json.opt Json.ofNat e.fromVersion)), ("toVersion", some (.ofNat e.toVersion)),
    ("success", some (.bool e.success)), ("durationMs", some (.ofNat e.durationMs)),
    ("backupFilename", e.backupFilename.map .str), ("error", e.error.map .str),
    ("operation", some (.str e.operation.name))]

namespace Codec
open JsonRead

def operation : JsonRead Operation := enumeration [("migrate", .migrate), ("rollback", .rollback)]

/-- Log entry fields read so far. -/
structure EntryDraft where
  timestamp : Option Instant := none
  fromVersion : Option (Option Nat) := none
  toVersion : Option Nat := none
  success : Option Bool := none
  durationMs : Option Nat := none
  backupFilename : Option (Option String) := none
  error : Option (Option String) := none
  operation : Option Operation := none

def entryStep (d : EntryDraft) : String → JsonRead EntryDraft
  | "timestamp" => do pure { d with timestamp := some (← fieldOnce "timestamp" d.timestamp instant) }
  | "fromVersion" => do
    pure { d with fromVersion := some (← fieldOnce "fromVersion" d.fromVersion (optional u32)) }
  | "toVersion" => do pure { d with toVersion := some (← fieldOnce "toVersion" d.toVersion u32) }
  | "success" => do pure { d with success := some (← fieldOnce "success" d.success boolean) }
  | "durationMs" => do pure { d with durationMs := some (← fieldOnce "durationMs" d.durationMs u64) }
  | "backupFilename" => do
    pure { d with backupFilename := some (← fieldOnce "backupFilename" d.backupFilename (optional text)) }
  | "error" => do pure { d with error := some (← fieldOnce "error" d.error (optional text)) }
  | "operation" => do pure { d with operation := some (← fieldOnce "operation" d.operation operation) }
  | _ => do skipMember; pure d

def logEntry : JsonRead LogEntry :=
  let exp := "struct MigrationLogEntry with 8 elements"
  record "MigrationLogEntry"
    (do
      let d ← membersOf entryStep (← fuelFor) true {}
      pure {
        timestamp := ← required "timestamp" d.timestamp, fromVersion := d.fromVersion.getD none,
        toVersion := ← required "toVersion" d.toVersion, success := ← required "success" d.success,
        durationMs := ← required "durationMs" d.durationMs, backupFilename := d.backupFilename.getD none,
        error := d.error.getD none, operation := d.operation.getD .migrate })
    (do
      let ts ← positional instant none 0 exp true
      let fv ← positional (optional u32) (some none) 1 exp false
      let tv ← positional u32 none 2 exp false
      let ok ← positional boolean none 3 exp false
      let ms ← positional u64 none 4 exp false
      let bf ← positional (optional text) (some none) 5 exp false
      let er ← positional (optional text) (some none) 6 exp false
      let op ← positional operation (some .migrate) 7 exp false
      pure { timestamp := ts, fromVersion := fv, toVersion := tv, success := ok, durationMs := ms,
             backupFilename := bf, error := er, operation := op })

end Codec

/-- The newest logged runs, oldest first. -/
structure History where
  entries : List LogEntry := []
  limit : Nat := 50
  deriving Repr

namespace History

/-- The default number of entries kept. -/
def defaultLimit : Nat := 50

/-- An empty log keeping at most `limit` entries (at least one). -/
def empty (limit : Nat) : History := { limit := max limit 1 }

/-- Log `e`, dropping the oldest entries beyond the limit. -/
def push (h : History) (e : LogEntry) : History :=
  let all := h.entries ++ [e]
  { h with entries := all.drop (all.length - h.limit) }

def last (h : History) : Option LogEntry := h.entries.getLast?

def len (h : History) : Nat := h.entries.length

def isEmpty (h : History) : Bool := h.entries.isEmpty

/-- Backups taken by successful migrations, newest first. -/
def migrationBackups (h : History) : List String :=
  h.entries.reverse.filterMap fun e =>
    if e.success && e.operation == .migrate then e.backupFilename else none

/-- The stored form: a JSON list of the entries. -/
def encode (h : History) : String := (Json.arr (h.entries.map LogEntry.toJson)).compact

/-- The log stored as `stored` (`none`: nothing stored), keeping at most `limit` entries;
unreadable bytes give an empty log. -/
def load (limit : Nat) (stored : Option String) : History :=
  let entries := match stored with
    | some s => match JsonRead.run (JsonRead.list Codec.logEntry) s with
      | .ok es => es
      | .error _ => []
    | none => []
  entries.foldl push (empty limit)

end History

end DocStore
