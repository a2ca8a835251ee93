import DocStore.Model.Codec
import DocStore.Text.Blank
/-
  DocStore.Store.Config — the settings of a store, kept as `config.json` in its directory.

  Every setting has a default, so a missing file or a missing field means the default.
  A configuration is usable when both keys are non-blank names without path separators
  (`..`, `/`, `\`) made of ASCII letters, digits, `_`, `-` and `.`, the two keys differ,
  and the history limit, the number of backups kept and the validation timeout are
  positive; the first rule broken is reported.
-/

namespace DocStore

/-- A store's settings. -/
structure Config where
  documentKey : String := "app_document"
  historyKey : String := "migration_history"
  historyLimit : Nat := 50
  maxBackups : Nat := 10
  validationTimeoutMs : Nat := 2000
  backupBeforeMigration : Bool := true
  deriving Repr, DecidableEq, Inhabited

namespace Config

/-- Refuse a key unfit to name a blob, calling it `field`. -/
def checkKey (field key : String) : Except String Unit := do
  if Text.isBlankText key then throw (field ++ " cannot be blank")
  if (key.splitOn "..").length > 1 || key.contains '/' || key.contains '\\' then
    throw (field ++ " cannot contain path separators")
  unless key.toList.all (fun c => (c.isAlphanum && c.toNat < 128) || c == '_' || c == '-' || c == '.') do
    throw (field ++ " contains invalid characters")

/-- The first rule the configuration breaks, if any. -/
def check (c : Config) : Except String Unit := do
  checkKey "document_key" c.documentKey
  checkKey "history_key" c.historyKey
  if c.documentKey == c.historyKey then throw "document_key and history_key must differ"
  if c.historyLimit == 0 then throw "history_limit must be at least 1"
  if c.maxBackups == 0 then throw "max_backups must be at least 1"
  if c.validationTimeoutMs == 0 then throw "validation_timeout_ms must be at least 1"

/-- Settings as JSON, in declaration order. -/
def toJson (c : Config) : Json :=
  .obj [("document_key", .str c.documentKey), ("history_key", .str c.historyKey),
    ("history_limit", .ofNat c.historyLimit), ("max_backups", .ofNat c.maxBackups),
    ("validation_timeout_ms", .ofNat c.validationTimeoutMs),
    ("backup_before_migration", .bool c.backupBeforeMigration)]

/-- The text written to `config.json`. -/
def fileText (c : Config) : String := c.toJson.prettyText

open JsonRead in
def step (c : Config) : String → JsonRead Config
  | "document_key" => do pure { c with documentKey := ← fieldOnce "document_key" none text }
  | "history_key" => do pure { c with historyKey := ← fieldOnce "history_key" none text }
  | "history_limit" => do pure { c with historyLimit := ← fieldOnce "history_limit" none usize }
  | "max_backups" => do pure { c with maxBackups := ← fieldOnce "max_backups" none usize }
  | "validation_timeout_ms" => do pure { c with validationTimeoutMs := ← fieldOnce "validation_timeout_ms" none u64 }
  | "backup_before_migration" => do
    pure { c with backupBeforeMigration := ← fieldOnce "backup_before_migration" none boolean }
  | _ => do skipMember; pure c

end Config

namespace Codec
open JsonRead

/-- Fields of a configuration already given, to refuse a repeated one. -/
def configStep (st : Config × List String) (k : String) : JsonRead (Config × List String) := do
  let known := ["document_key", "history_key", "history_limit", "max_backups", "validation_timeout_ms",
    "backup_before_migration"]
  if known.contains k && st.2.contains k then reject (.duplicateField k)
  pure (← Config.step st.1 k, k :: st.2)

/-- A configuration: an object of its fields or an array of them in order, every field
defaulting. -/
def config : JsonRead Config :=
  let d : Config := {}
  let exp := "struct StoreConfig with 6 elements"
  record "StoreConfig"
    (do pure (← membersOf configStep (← fuelFor) true (d, [])).1)
    (do
      let a ← positional text (some d.documentKey) 0 exp true
      let b ← positional text (some d.historyKey) 1 exp false
      let c ← positional usize (some d.historyLimit) 2 exp false
      let e ← positional usize (some d.maxBackups) 3 exp false
      let f ← positional u64 (some d.validationTimeoutMs) 4 exp false
      let g ← positional boolean (some d.backupBeforeMigration) 5 exp false
      pure { documentKey := a, historyKey := b, historyLimit := c, maxBackups := e,
             validationTimeoutMs := f, backupBeforeMigration := g })

end Codec

namespace Config

/-- A configuration read from the text of the file at `path` (`none`: no such file),
then checked. -/
def load (path : String) : Option String → Except String Config
  | none => pure {}
  | some text =>
    match JsonRead.run Codec.config text with
    | .error e => throw ("Invalid config " ++ path ++ ": " ++ e.message)
    | .ok c => do c.check; pure c

end Config

end DocStore
