import DocStore.Model.Document
import DocStore.Json.Decode
import DocStore.Json.Write
/-
  DocStore.Model.Codec — the JSON form of entities and documents.

  Writing: members in declaration order, optional fields left out when absent, the
  metadata's own fields followed by its further keys, message lists in key order.

  Reading: every record is an object or an array of its fields in order. Fields with a
  default may be left out (an optional field also may be `null`); an identity, server
  profile, project or message without one of its other fields is refused, naming the
  first missing one in declaration order. The document and its metadata default their
  timestamps to the time of reading, `now`. Metadata keys other than its own fields are
  kept as JSON values.
-/

namespace DocStore

/-! ## Writing -/

namespace Codec

/-- Members with the absent optional ones left out. -/
def members (ms : List (String × Option Json)) : Json :=
  .obj (ms.filterMap fun (k, v) => v.map (k, ·))

def stamp (t : Instant) : Json := .str t.toText

end Codec

def Identity.toJson (e : Identity) : Json :=
  Codec.members [("id", some (.str e.id)), ("name", some (.str e.name)),
    ("keyType", some (.str e.keyType.name)), ("publicKey", some (.str e.publicKey)),
    ("privateKeyRef", e.privateKeyRef.map .str), ("createdAt", some (Codec.stamp e.createdAt)),
    ("lastUsed", e.lastUsed.map Codec.stamp)]

def ServerProfile.toJson (e : ServerProfile) : Json :=
  Codec.members [("id", some (.str e.id)), ("name", some (.str e.name)), ("host", some (.str e.host)),
    ("port", some (Json.ofNat e.port)), ("username", some (.str e.username)),
    ("sshIdentityId", some (.str e.sshIdentityId)), ("createdAt", some (Codec.stamp e.createdAt)),
    ("lastConnected", e.lastConnected.map Codec.stamp)]

def Project.toJson (e : Project) : Json :=
  Codec.members [("id", some (.str e.id)), ("name", some (.str e.name)),
    ("serverProfileId", some (.str e.serverProfileId)), ("remotePath", some (.str e.remotePath)),
    ("status", some (.str e.status.name)), ("createdAt", some (Codec.stamp e.createdAt)),
    ("lastActivity", e.lastActivity.map Codec.stamp), ("archivedAt", e.archivedAt.map Codec.stamp)]

def Message.toJson (e : Message) : Json :=
  .obj [("id", .str e.id), ("projectId", .str e.projectId), ("role", .str e.role.name),
    ("content", .str e.content), ("timestamp", Codec.stamp e.timestamp), ("status", .str e.status.name)]

def Metadata.toJson (m : Metadata) : Json :=
  .obj ([("createdAt", Codec.stamp m.createdAt)] ++ (m.appVersion.map fun v => [("appVersion", Json.str v)]).getD [] ++
    m.extra)

def Document.toJson (d : Document) : Json :=
  .obj [("version", Json.ofNat d.version), ("identities", .arr (d.identities.map Identity.toJson)),
    ("serverProfiles", .arr (d.serverProfiles.map ServerProfile.toJson)),
    ("projects", .arr (d.projects.map Project.toJson)),
    ("messages", .obj (d.messages.map fun (k, ms) => (k, .arr (ms.map Message.toJson)))),
    ("metadata", d.metadata.toJson), ("lastModified", Codec.stamp d.lastModified)]

/-- The compact text of a document, as stored. -/
def Document.encode (d : Document) : String := d.toJson.compact

/-- The indented text of a document, as exported. -/
def Document.encodePretty (d : Document) : String := d.toJson.prettyText

/-! ## Reading -/

namespace Codec
open JsonRead

def keyType : JsonRead KeyType := enumeration (KeyType.all.map fun k => (k.name, k))
def projectStatus : JsonRead ProjectStatus := enumeration (ProjectStatus.all.map fun k => (k.name, k))
def messageRole : JsonRead MessageRole := enumeration (MessageRole.all.map fun k => (k.name, k))
def messageStatus : JsonRead MessageStatus := enumeration (MessageStatus.all.map fun k => (k.name, k))

/-- Identity fields read so far. -/
structure IdentityDraft where
  id : Option String := none
  name : Option String := none
  keyType : Option KeyType := none
  publicKey : Option String := none
  privateKeyRef : Option (Option String) := none
  createdAt : Option Instant := none
  lastUsed : Option (Option Instant) := none

def identityStep (d : IdentityDraft) : String → JsonRead IdentityDraft
  | "id" => do pure { d with id := some (← fieldOnce "id" d.id text) }
  | "name" => do pure { d with name := some (← fieldOnce "name" d.name text) }
  | "keyType" => do pure { d with keyType := some (← fieldOnce "keyType" d.keyType keyType) }
  | "publicKey" => do pure { d with publicKey := some (← fieldOnce "publicKey" d.publicKey text) }
  | "privateKeyRef" => do
    pure { d with privateKeyRef := some (← fieldOnce "privateKeyRef" d.privateKeyRef (optional text)) }
  | "createdAt" => do pure { d with createdAt := some (← fieldOnce "createdAt" d.createdAt instant) }
  | "lastUsed" => do pure { d with lastUsed := some (← fieldOnce "lastUsed" d.lastUsed (optional instant)) }
  | _ => do skipMember; pure d

def identity : JsonRead Identity :=
  let exp := "struct Identity with 7 elements"
  record "Identity"
    (do
      let d ← membersOf identityStep (← fuelFor) true {}
      pure {
        id := ← required "id" d.id, name := ← required "name" d.name,
        keyType := ← required "keyType" d.keyType, publicKey := ← required "publicKey" d.publicKey,
        privateKeyRef := d.privateKeyRef.getD none, createdAt := ← required "createdAt" d.createdAt,
        lastUsed := d.lastUsed.getD none })
    (do
      let id ← positional text none 0 exp true
      let name ← positional text none 1 exp false
      let kt ← positional keyType none 2 exp false
      let pk ← positional text none 3 exp false
      let pr ← positional (optional text) (some none) 4 exp false
      let ca ← positional instant none 5 exp false
      let lu ← positional (optional instant) (some none) 6 exp false
      pure { id := id, name := name, keyType := kt, publicKey := pk, privateKeyRef := pr,
             createdAt := ca, lastUsed := lu })

/-- Server profile fields read so far. -/
structure ProfileDraft where
  id : Option String := none
  name : Option String := none
  host : Option String := none
  port : Option Nat := none
  username : Option String := none
  sshIdentityId : Option String := none
  createdAt : Option Instant := none
  lastConnected : Option (Option Instant) := none

def profileStep (d : ProfileDraft) : String → JsonRead ProfileDraft
  | "id" => do pure { d with id := some (← fieldOnce "id" d.id text) }
  | "name" => do pure { d with name := some (← fieldOnce "name" d.name text) }
  | "host" => do pure { d with host := some (← fieldOnce "host" d.host text) }
  | "port" => do pure { d with port := some (← fieldOnce "port" d.port u16) }
  | "username" => do pure { d with username := some (← fieldOnce "username" d.username text) }
  | "sshIdentityId" => do
    pure { d with sshIdentityId := some (← fieldOnce "sshIdentityId" d.sshIdentityId text) }
  | "createdAt" => do pure { d with createdAt := some (← fieldOnce "createdAt" d.createdAt instant) }
  | "lastConnected" => do
    pure { d with lastConnected := some (← fieldOnce "lastConnected" d.lastConnected (optional instant)) }
  | _ => do skipMember; pure d

def serverProfile : JsonRead ServerProfile :=
  let exp := "struct ServerProfile with 8 elements"
  record "ServerProfile"
    (do
      let d ← membersOf profileStep (← fuelFor) true {}
      pure {
        id := ← required "id" d.id, name := ← required "name" d.name, host := ← required "host" d.host,
        port := d.port.getD 22, username := ← required "username" d.username,
        sshIdentityId := ← required "sshIdentityId" d.sshIdentityId,
        createdAt := ← required "createdAt" d.createdAt, lastConnected := d.lastConnected.getD none })
    (do
      let id ← positional text none 0 exp true
      let name ← positional text none 1 exp false
      let host ← positional text none 2 exp false
      let port ← positional u16 (some 22) 3 exp false
      let user ← positional text none 4 exp false
      let sid ← positional text none 5 exp false
      let ca ← positional instant none 6 exp false
      let lc ← positional (optional instant) (some none) 7 exp false
      pure { id := id, name := name, host := host, port := port, username := user,
             sshIdentityId := sid, createdAt := ca, lastConnected := lc })

/-- Project fields read so far. -/
structure ProjectDraft where
  id : Option String := none
  name : Option String := none
  serverProfileId : Option String := none
  remotePath : Option String := none
  status : Option ProjectStatus := none
  createdAt : Option Instant := none
  lastActivity : Option (Option Instant) := none
  archivedAt : Option (Option Instant) := none

def projectStep (d : ProjectDraft) : String → JsonRead ProjectDraft
  | "id" => do pure { d with id := some (← fieldOnce "id" d.id text) }
  | "name" => do pure { d with name := some (← fieldOnce "name" d.name text) }
  | "serverProfileId" => do
    pure { d with serverProfileId := some (← fieldOnce "serverProfileId" d.serverProfileId text) }
  | "remotePath" => do pure { d with remotePath := some (← fieldOnce "remotePath" d.remotePath text) }
  | "status" => do pure { d with status := some (← fieldOnce "status" d.status projectStatus) }
  | "createdAt" => do pure { d with createdAt := some (← fieldOnce "createdAt" d.createdAt instant) }
  | "lastActivity" => do
    pure { d with lastActivity := some (← fieldOnce "lastActivity" d.lastActivity (optional instant)) }
  | "archivedAt" => do
    pure { d with archivedAt := some (← fieldOnce "archivedAt" d.archivedAt (optional instant)) }
  | _ => do skipMember; pure d

def project : JsonRead Project :=
  let exp := "struct Project with 8 elements"
  record "Project"
    (do
      let d ← membersOf projectStep (← fuelFor) true {}
      pure {
        id := ← required "id" d.id, name := ← required "name" d.name,
        serverProfileId := ← required "serverProfileId" d.serverProfileId,
        remotePath := ← required "remotePath" d.remotePath, status := d.status.getD .active,
        createdAt := ← required "createdAt" d.createdAt, lastActivity := d.lastActivity.getD none,
        archivedAt := d.archivedAt.getD none })
    (do
      let id ← positional text none 0 exp true
      let name ← positional text none 1 exp false
      let sp ← positional text none 2 exp false
      let rp ← positional text none 3 exp false
      let st ← positional projectStatus (some .active) 4 exp false
      let ca ← positional instant none 5 exp false
      let la ← positional (optional instant) (some none) 6 exp false
      let aa ← positional (optional instant) (some none) 7 exp false
      pure { id := id, name := name, serverProfileId := sp, remotePath := rp, status := st,
             createdAt := ca, lastActivity := la, archivedAt := aa })

/-- Message fields read so far. -/
structure MessageDraft where
  id : Option String := none
  projectId : Option String := none
  role : Option MessageRole := none
  content : Option String := none
  timestamp : Option Instant := none
  status : Option MessageStatus := none

def messageStep (d : MessageDraft) : String → JsonRead MessageDraft
  | "id" => do pure { d with id := some (← fieldOnce "id" d.id text) }
  | "projectId" => do pure { d with projectId := some (← fieldOnce "projectId" d.projectId text) }
  | "role" => do pure { d with role := some (← fieldOnce "role" d.role messageRole) }
  | "content" => do pure { d with content := some (← fieldOnce "content" d.content text) }
  | "timestamp" => do pure { d with timestamp := some (← fieldOnce "timestamp" d.timestamp instant) }
  | "status" => do pure { d with status := some (← fieldOnce "status" d.status messageStatus) }
  | _ => do skipMember; pure d

def message : JsonRead Message :=
  let exp := "struct Message with 6 elements"
  record "Message"
    (do
      let d ← membersOf messageStep (← fuelFor) true {}
      pure {
        id := ← required "id" d.id, projectId := ← required "projectId" d.projectId,
        role := ← required "role" d.role, content := ← required "content" d.content,
        timestamp := ← required "timestamp" d.timestamp, status := d.status.getD .sent })
    (do
      let id ← positional text none 0 exp true
      let pid ← positional text none 1 exp false
      let role ← positional messageRole none 2 exp false
      let content ← positional text none 3 exp false
      let ts ← positional instant none 4 exp false
      let st ← positional messageStatus (some .sent) 5 exp false
      pure { id := id, projectId := pid, role := role, content := content, timestamp := ts, status := st })

/-- Metadata fields read so far; other keys are collected sorted, the last of a repeated
key kept. -/
structure MetadataDraft where
  createdAt : Option Instant := none
  appVersion : Option (Option String) := none
  extra : List (String × Json) := []

def metadataStep (d : MetadataDraft) : String → JsonRead MetadataDraft
  | "createdAt" => do pure { d with createdAt := some (← fieldOnce "createdAt" d.createdAt instant) }
  | "appVersion" => do
    pure { d with appVersion := some (← fieldOnce "appVersion" d.appVersion (optional text)) }
  | k => do colon; let v ← anyValue; pure { d with extra := insertKey k v d.extra }

def metadata (now : Instant) : JsonRead Metadata :=
  objectRecord "DocumentMetadata" do
    let d ← membersOf metadataStep (← fuelFor) true {}
    pure { createdAt := d.createdAt.getD now, appVersion := d.appVersion.getD none, extra := d.extra }

/-- Document fields read so far. -/
structure DocumentDraft where
  version : Option Nat := none
  identities : Option (List Identity) := none
  serverProfiles : Option (List ServerProfile) := none
  projects : Option (List Project) := none
  messages : Option (List (String × List Message)) := none
  metadata : Option Metadata := none
  lastModified : Option Instant := none

def documentStep (now : Instant) (d : DocumentDraft) : String → JsonRead DocumentDraft
  | "version" => do pure { d with version := some (← fieldOnce "version" d.version u32) }
  | "identities" => do pure { d with identities := some (← fieldOnce "identities" d.identities (list identity)) }
  | "serverProfiles" => do
    pure { d with serverProfiles := some (← fieldOnce "serverProfiles" d.serverProfiles (list serverProfile)) }
  | "projects" => do pure { d with projects := some (← fieldOnce "projects" d.projects (list project)) }
  | "messages" => do
    pure { d with messages := some (← fieldOnce "messages" d.messages (keyedMap (list message))) }
  | "metadata" => do pure { d with metadata := some (← fieldOnce "metadata" d.metadata (metadata now)) }
  | "lastModified" => do
    pure { d with lastModified := some (← fieldOnce "lastModified" d.lastModified instant) }
  | _ => do skipMember; pure d

def document (now : Instant) : JsonRead Document :=
  let exp := "struct Document with 7 elements"
  let noMeta : Metadata := { createdAt := now }
  record "Document"
    (do
      let d ← membersOf (documentStep now) (← fuelFor) true {}
      pure {
        version := d.version.getD initialVersion, identities := d.identities.getD [],
        serverProfiles := d.serverProfiles.getD [], projects := d.projects.getD [],
        messages := d.messages.getD [], metadata := d.metadata.getD noMeta,
        lastModified := d.lastModified.getD now })
    (do
      let v ← positional u32 (some initialVersion) 0 exp true
      let ids ← positional (list identity) (some []) 1 exp false
      let sps ← positional (list serverProfile) (some []) 2 exp false
      let ps ← positional (list project) (some []) 3 exp false
      let ms ← positional (keyedMap (list message)) (some []) 4 exp false
      let md ← positional (metadata now) (some noMeta) 5 exp false
      let lm ← positional instant (some now) 6 exp false
      pure { version := v, identities := ids, serverProfiles := sps, projects := ps, messages := ms,
             metadata := md, lastModified := lm })

end Codec

/-- Read a document from its text; missing timestamps become `now`. -/
def Document.decode (now : Instant) (s : String) : Except ReadError Document :=
  JsonRead.run (Codec.document now) s

def Identity.decode (s : String) : Except ReadError Identity := JsonRead.run Codec.identity s
def ServerProfile.decode (s : String) : Except ReadError ServerProfile := JsonRead.run Codec.serverProfile s
def Project.decode (s : String) : Except ReadError Project := JsonRead.run Codec.project s
def Message.decode (s : String) : Except ReadError Message := JsonRead.run Codec.message s

end DocStore
