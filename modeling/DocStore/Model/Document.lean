import DocStore.Model.Entity
import DocStore.Json.Value
/-
  DocStore.Model.Document — the one document the store keeps.

  A document has a schema version, the identities, server profiles and projects in
  order, and message lists keyed by project id (or `system` for messages of no
  project), sorted by key. Its metadata holds a creation time, an optional application
  version and any further keys, kept as they were read. Limits on collection sizes are
  part of what a valid document is.
-/

namespace DocStore

/-- The first schema version. -/
def initialVersion : Nat := 1

/-- The schema version this library writes. -/
def currentVersion : Nat := 2

/-- The key of the messages that belong to no project. -/
def systemKey : String := "system"

def maxIdentities : Nat := 50
def maxServerProfiles : Nat := 100
def maxProjects : Nat := 200
def maxMessagesPerProject : Nat := 1000
def maxTotalMessages : Nat := 10000

/-- The application version written into new documents. -/
def appVersion : String := "0.2.0"

/-- Free-form metadata: creation time, application version, and other keys (sorted). -/
structure Metadata where
  createdAt : Instant
  appVersion : Option String := none
  extra : List (String × Json) := []
  deriving Repr

/-- The document. -/
structure Document where
  version : Nat := initialVersion
  identities : List Identity := []
  serverProfiles : List ServerProfile := []
  projects : List Project := []
  /-- Message lists by key, sorted by key. -/
  messages : List (String × List Message) := []
  metadata : Metadata
  lastModified : Instant
  deriving Repr

/-- How many entities of each kind a document holds. -/
structure EntityCounts where
  identities : Nat
  serverProfiles : Nat
  projects : Nat
  messages : Nat
  deriving DecidableEq, Repr

/-- `N identities, N server profiles, N projects, N messages`. -/
def EntityCounts.text (c : EntityCounts) : String :=
  toString c.identities ++ " identities, " ++ toString c.serverProfiles ++ " server profiles, " ++
    toString c.projects ++ " projects, " ++ toString c.messages ++ " messages"

namespace Document

/-- A new, empty document of the first version, created at `now`. -/
def fresh (now : Instant) : Document :=
  { metadata := { createdAt := now, appVersion := some DocStore.appVersion }, lastModified := now }

def identity? (d : Document) (id : String) : Option Identity := d.identities.find? (·.id == id)

def serverProfile? (d : Document) (id : String) : Option ServerProfile := d.serverProfiles.find? (·.id == id)

def project? (d : Document) (id : String) : Option Project := d.projects.find? (·.id == id)

/-- The message list under a key (empty when there is none). -/
def messagesAt (d : Document) (key : String) : List Message :=
  ((d.messages.find? (·.1 == key)).map (·.2)).getD []

/-- All messages, list after list in key order. -/
def allMessages (d : Document) : List Message := d.messages.flatMap (·.2)

def totalMessages (d : Document) : Nat := d.messages.foldl (fun n m => n + m.2.length) 0

def counts (d : Document) : EntityCounts :=
  ⟨d.identities.length, d.serverProfiles.length, d.projects.length, d.totalMessages⟩

end Document

/-- Replace or add the value under `k` in a key-sorted list. -/
def putKey (k : String) (v : α) : List (String × α) → List (String × α)
  | [] => [(k, v)]
  | (k', v') :: rest =>
    if k < k' then (k, v) :: (k', v') :: rest
    else if k = k' then (k, v) :: rest
    else (k', v') :: putKey k v rest

/-- Remove the entry under `k`. -/
def dropKey (k : String) (xs : List (String × α)) : List (String × α) := xs.filter (·.1 != k)

end DocStore
