import DocStore.Time.Instant
/-
  DocStore.Model.Entity — the entities a document holds: SSH identities, server
  profiles, projects and the messages of a project, with their enumerations.

  Every entity has an id and a creation time. Optional fields are `Option`s; they are
  left out of the JSON form when absent.
-/

namespace DocStore

/-- The kind of an SSH key. -/
inductive KeyType where
  | ed25519
  | ecdsa
  | rsa
  deriving DecidableEq, Repr, Inhabited

namespace KeyType

def all : List KeyType := [.ed25519, .ecdsa, .rsa]

/-- The name of the key type in documents. -/
def name : KeyType → String
  | .ed25519 => "ed25519"
  | .ecdsa => "ecdsa"
  | .rsa => "rsa"

/-- The algorithm names an OpenSSH public key line of this type may start with. -/
def publicKeyPrefixes : KeyType → List String
  | .ed25519 => ["ssh-ed25519"]
  | .ecdsa => ["ecdsa-sha2-nistp256", "ecdsa-sha2-nistp384", "ecdsa-sha2-nistp521"]
  | .rsa => ["ssh-rsa", "rsa-sha2-256", "rsa-sha2-512"]

end KeyType

/-- Where a project stands. -/
inductive ProjectStatus where
  | active
  | paused
  | archived
  deriving DecidableEq, Repr, Inhabited

namespace ProjectStatus

def all : List ProjectStatus := [.active, .paused, .archived]

def name : ProjectStatus → String
  | .active => "active"
  | .paused => "paused"
  | .archived => "archived"

/-- The name with a capital first letter, as error texts show a state. -/
def title : ProjectStatus → String
  | .active => "Active"
  | .paused => "Paused"
  | .archived => "Archived"

end ProjectStatus

/-- Who wrote a message. -/
inductive MessageRole where
  | user
  | assistant
  | system
  deriving DecidableEq, Repr, Inhabited

namespace MessageRole

def all : List MessageRole := [.user, .assistant, .system]

def name : MessageRole → String
  | .user => "user"
  | .assistant => "assistant"
  | .system => "system"

end MessageRole

/-- How far a message got. -/
inductive MessageStatus where
  | pending
  | sent
  | delivered
  | failed
  deriving DecidableEq, Repr, Inhabited

namespace MessageStatus

def all : List MessageStatus := [.pending, .sent, .delivered, .failed]

def name : MessageStatus → String
  | .pending => "pending"
  | .sent => "sent"
  | .delivered => "delivered"
  | .failed => "failed"

def title : MessageStatus → String
  | .pending => "Pending"
  | .sent => "Sent"
  | .delivered => "Delivered"
  | .failed => "Failed"

end MessageStatus

/-- An SSH identity: the public key and a reference to where the private key is kept. -/
structure Identity where
  id : String
  name : String
  keyType : KeyType
  publicKey : String
  privateKeyRef : Option String := none
  createdAt : Instant
  lastUsed : Option Instant := none
  deriving DecidableEq, Repr

/-- A server to connect to, and the identity to connect with. -/
structure ServerProfile where
  id : String
  name : String
  host : String
  port : Nat := 22
  username : String
  sshIdentityId : String
  createdAt : Instant
  lastConnected : Option Instant := none
  deriving DecidableEq, Repr

/-- A project: a directory on a server. -/
structure Project where
  id : String
  name : String
  serverProfileId : String
  remotePath : String
  status : ProjectStatus := .active
  createdAt : Instant
  lastActivity : Option Instant := none
  archivedAt : Option Instant := none
  deriving DecidableEq, Repr

/-- A message of a project's conversation. -/
structure Message where
  id : String
  projectId : String
  role : MessageRole
  content : String
  timestamp : Instant
  status : MessageStatus := .sent
  deriving DecidableEq, Repr

end DocStore
