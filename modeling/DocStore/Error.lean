import DocStore.Validation.Verdict
import DocStore.Text.Redact
/-
  DocStore.Error — what can go wrong below the user: in the store, in the repositories,
  in the byte stores underneath, and in the migration registry.

  Every error has the one-line text shown for it. A store error also has a kind label,
  and a user message: the label, then the text with its secrets redacted
  (`Text.redact`), so no value of a `password=...` pair reaches a user.
-/

namespace DocStore

/-- Failures of the persistence and migration layers. -/
inductive StoreError where
  | validationFailure (issues : List Issue)
  | corruptedData (detail : String)
  | saveFailed (detail : String)
  | initialization (detail : String)
  | migrationNotFound (source target : Nat)
  | rollbackNotSupported (detail : String)
  | rollbackFailed (detail : String)
  | migrationFailed (migration reason : String)
  deriving Repr, Inhabited

/-- Issues joined by `; `, each as `[kind] field: message`. -/
def issuesText (issues : List Issue) : String := "; ".intercalate (issues.map Issue.text)

namespace StoreError

/-- The variant's name. -/
def name : StoreError → String
  | .validationFailure _ => "ValidationFailure"
  | .corruptedData _ => "CorruptedData"
  | .saveFailed _ => "SaveFailed"
  | .initialization _ => "Initialization"
  | .migrationNotFound _ _ => "MigrationNotFound"
  | .rollbackNotSupported _ => "RollbackNotSupported"
  | .rollbackFailed _ => "RollbackFailed"
  | .migrationFailed _ _ => "MigrationExecutionFailed"

/-- The kind label. -/
def kind : StoreError → String
  | .validationFailure _ => "validation failure"
  | .corruptedData _ => "corrupted data"
  | .saveFailed _ => "save failed"
  | .initialization _ => "initialization"
  | .migrationNotFound _ _ => "migration not found"
  | .rollbackNotSupported _ => "rollback not supported"
  | .rollbackFailed _ => "rollback failed"
  | .migrationFailed _ _ => "migration failed"

def message : StoreError → String
  | .validationFailure is => "validation failed: " ++ issuesText is
  | .corruptedData d => "stored data is corrupted: " ++ d
  | .saveFailed d => "failed to save document: " ++ d
  | .initialization d => "store initialization failed: " ++ d
  | .migrationNotFound a b =>
    "no migration path from version " ++ toString a ++ " to version " ++ toString b
  | .rollbackNotSupported d => "rollback not supported: " ++ d
  | .rollbackFailed d => "rollback failed: " ++ d
  | .migrationFailed m r => "migration '" ++ m ++ "' failed: " ++ r

/-- The kind, then the text with its secrets redacted. -/
def userMessage (e : StoreError) : String := e.kind ++ ": " ++ Text.redact e.message

/-- The issues of a validation failure (none for other errors). -/
def issues : StoreError → List Issue
  | .validationFailure is => is
  | _ => []

def isValidationFailure : StoreError → Bool
  | .validationFailure _ => true
  | _ => false

end StoreError

/-- Failures of the entity repositories. -/
inductive RepoError where
  | duplicateName (entity name : String)
  | notFound (entity id : String)
  | constraint (detail : String)
  | invalid (entity : String) (issues : List Issue)
  | store (e : StoreError)
  deriving Repr, Inhabited

namespace RepoError

def name : RepoError → String
  | .duplicateName _ _ => "DuplicateName"
  | .notFound _ _ => "EntityNotFound"
  | .constraint _ => "ConstraintViolation"
  | .invalid _ _ => "Validation"
  | .store _ => "Store"

def message : RepoError → String
  | .duplicateName e n => e ++ " named '" ++ n ++ "' already exists"
  | .notFound e id => e ++ " '" ++ id ++ "' not found"
  | .constraint d => "constraint violated: " ++ d
  | .invalid e is => "invalid " ++ e ++ ": " ++ issuesText is
  | .store e => e.message

end RepoError

/-- Failures of a byte store. -/
inductive BlobError where
  | io (key cause : String)
  | invalidKey (key : String)
  | integrity (backup : String)
  | unavailable (detail : String)
  deriving Repr, Inhabited, DecidableEq

namespace BlobError

def name : BlobError → String
  | .io _ _ => "Io"
  | .invalidKey _ => "InvalidKey"
  | .integrity _ => "Integrity"
  | .unavailable _ => "Unavailable"

def message : BlobError → String
  | .io k c => "blob store I/O error for '" ++ k ++ "': " ++ c
  | .invalidKey k => "invalid blob key '" ++ k ++ "'"
  | .integrity b => "backup '" ++ b ++ "' failed integrity check"
  | .unavailable d => d

end BlobError

/-- Registering a migration that cannot be added. -/
inductive RegistryError where
  | duplicate (source target : Nat)
  | selfLoop (migration : String)
  deriving Repr, DecidableEq

namespace RegistryError

def name : RegistryError → String
  | .duplicate _ _ => "Duplicate"
  | .selfLoop _ => "SelfLoop"

def message : RegistryError → String
  | .duplicate a b =>
    "a migration from version " ++ toString a ++ " to version " ++ toString b ++ " is already registered"
  | .selfLoop m => "migration '" ++ m ++ "' must change the version"

end RegistryError

end DocStore
