import DocStore.Proofs.Json.Fields
import DocStore.Proofs.Time.Text
import DocStore.Model.Codec
/-
  DocStore.Proofs.Model.ReadBack — a document is read back from its stored text and from
  its indented text.

  Each record is stored as an object of its members, the absent optional ones left out
  (`storedMembers`). Its reader takes the members one by one into a draft, which ends as the
  record's own `draft`, and then takes every field from the draft. A record is `Storable`
  when its stored form can hold it: its timestamps are ones whose texts read back, its
  numbers fit the widths they are read with, and for the metadata, its further keys are in
  order, are not its two own fields, and hold values the value reader could have given, with
  at most 125 levels of nesting (the reader allows 128, and the document and its metadata
  take two).

  Proved: `Document.decodes` — a storable document whose doubles read back is decoded from
  every text of its JSON form, whatever its layout; hence `Document.decode_encode` and
  `Document.decode_encodePretty`.
-/

namespace DocStore

open JsonRead JsonText Codec

variable {d b : Nat}

namespace Codec

theorem stamp_decodes {t : Instant} (ht : t.Valid) : Decodes instant d b (stamp t) t :=
  Decodes.instant (Instant.parse_toText ht)

theorem keyType_decodes (k : KeyType) : Decodes keyType d b (.str k.name) k := by
  have h : (KeyType.all.map fun k => (k.name, k)).find? (·.1 == k.name) = some (k.name, k) := by
    cases k <;> rfl
  exact Decodes.enumeration h

theorem projectStatus_decodes (k : ProjectStatus) : Decodes projectStatus d b (.str k.name) k := by
  have h : (ProjectStatus.all.map fun k => (k.name, k)).find? (·.1 == k.name) = some (k.name, k) := by
    cases k <;> rfl
  exact Decodes.enumeration h

theorem messageRole_decodes (k : MessageRole) : Decodes messageRole d b (.str k.name) k := by
  have h : (MessageRole.all.map fun k => (k.name, k)).find? (·.1 == k.name) = some (k.name, k) := by
    cases k <;> rfl
  exact Decodes.enumeration h

theorem messageStatus_decodes (k : MessageStatus) : Decodes messageStatus d b (.str k.name) k := by
  have h : (MessageStatus.all.map fun k => (k.name, k)).find? (·.1 == k.name) = some (k.name, k) := by
    cases k <;> rfl
  exact Decodes.enumeration h

end Codec

/-! ## Identities -/

namespace Identity

/-- What the stored form of an identity can hold: timestamps whose texts read back. -/
structure Storable (e : Identity) : Prop where
  createdAt : e.createdAt.Valid
  lastUsed : ∀ t ∈ e.lastUsed, t.Valid

/-- The members an identity is stored with, the absent optional ones left out. -/
def storedMembers (e : Identity) : List (String × Json) :=
  ("id", .str e.id) :: ("name", .str e.name) :: ("keyType", .str e.keyType.name) ::
    ("publicKey", .str e.publicKey) ::
    ((e.privateKeyRef.map fun r => ("privateKeyRef", Json.str r)).toList ++
      ("createdAt", stamp e.createdAt) :: (e.lastUsed.map fun t => ("lastUsed", stamp t)).toList)

theorem toJson_eq (e : Identity) : e.toJson = .obj e.storedMembers := by
  unfold toJson Codec.members storedMembers
  cases e.privateKeyRef <;> cases e.lastUsed <;> rfl

/-- What the reader has gathered once it has taken every stored member of `e`. -/
def draft (e : Identity) : IdentityDraft :=
  { id := some e.id, name := some e.name, keyType := some e.keyType, publicKey := some e.publicKey,
    privateKeyRef := e.privateKeyRef.map some, createdAt := some e.createdAt, lastUsed := e.lastUsed.map some }

theorem steps_storedMembers {e : Identity} (he : e.Storable) :
    StepsOver identityStep d b {} e.storedMembers e.draft := by
  obtain ⟨id, name, kt, pk, pr, ca, lu⟩ := e
  refine .cons (memberStep_field "id" (by rw [identityStep]) (Decodes.text id)) ?_
  dsimp only
  refine .cons (memberStep_field "name" (by rw [identityStep]) (Decodes.text name)) ?_
  dsimp only
  refine .cons (memberStep_field "keyType" (by rw [identityStep]) (keyType_decodes kt)) ?_
  dsimp only
  refine .cons (memberStep_field "publicKey" (by rw [identityStep]) (Decodes.text pk)) ?_
  dsimp only
  refine (StepsOver.option (u := fun (s : IdentityDraft) o => { s with privateKeyRef := o.map some }) rfl fun r _ =>
    (memberStep_field "privateKeyRef" (by rw [identityStep]) (Decodes.optional (Decodes.text r))).of_eq (by rfl)).append ?_
  refine .cons (memberStep_field "createdAt" (by rw [identityStep]) (stamp_decodes he.createdAt)) ?_
  dsimp only
  exact StepsOver.option (u := fun (s : IdentityDraft) o => { s with lastUsed := o.map some }) rfl fun t ht =>
    (memberStep_field "lastUsed" (by rw [identityStep]) (Decodes.optional (stamp_decodes (he.lastUsed t ht)))).of_eq (by rfl)

/-- A storable identity is read back from every text of its JSON form. -/
theorem decodes {e : Identity} (he : e.Storable) (hd : 1 ≤ d) (hb : e.toJson.steps ≤ b) :
    Decodes identity (d + 1) b e.toJson e := by
  rw [toJson_eq] at hb ⊢
  have hlen := Json.length_lt_obj e.storedMembers
  unfold identity
  refine Decodes.record "Identity" hd fun t hw => Reads.membersBody (steps_storedMembers he) ?_ (by omega) hw
  -- every field without a default is in the draft
  obtain ⟨id, name, kt, pk, pr, ca, lu⟩ := e
  simp only [draft, required, pure_bind]
  cases pr <;> cases lu <;> rfl

end Identity

/-! ## Server profiles -/

namespace ServerProfile

/-- What the stored form of a server profile can hold: a port of 16 bits and timestamps whose
texts read back. -/
structure Storable (e : ServerProfile) : Prop where
  port : e.port ≤ 65535
  createdAt : e.createdAt.Valid
  lastConnected : ∀ t ∈ e.lastConnected, t.Valid

def storedMembers (e : ServerProfile) : List (String × Json) :=
  ("id", .str e.id) :: ("name", .str e.name) :: ("host", .str e.host) :: ("port", Json.ofNat e.port) ::
    ("username", .str e.username) :: ("sshIdentityId", .str e.sshIdentityId) ::
    ("createdAt", stamp e.createdAt) :: (e.lastConnected.map fun t => ("lastConnected", stamp t)).toList

theorem toJson_eq (e : ServerProfile) : e.toJson = .obj e.storedMembers := by
  unfold toJson Codec.members storedMembers
  cases e.lastConnected <;> rfl

def draft (e : ServerProfile) : ProfileDraft :=
  { id := some e.id, name := some e.name, host := some e.host, port := some e.port, username := some e.username,
    sshIdentityId := some e.sshIdentityId, createdAt := some e.createdAt,
    lastConnected := e.lastConnected.map some }

theorem steps_storedMembers {e : ServerProfile} (he : e.Storable) :
    StepsOver profileStep d b {} e.storedMembers e.draft := by
  obtain ⟨id, name, host, port, user, sid, ca, lc⟩ := e
  refine .cons (memberStep_field "id" (by rw [profileStep]) (Decodes.text id)) ?_
  dsimp only
  refine .cons (memberStep_field "name" (by rw [profileStep]) (Decodes.text name)) ?_
  dsimp only
  refine .cons (memberStep_field "host" (by rw [profileStep]) (Decodes.text host)) ?_
  dsimp only
  refine .cons (memberStep_field "port" (by rw [profileStep]; rfl) (Decodes.natUpTo "u16" he.port (by decide))) ?_
  dsimp only
  refine .cons (memberStep_field "username" (by rw [profileStep]) (Decodes.text user)) ?_
  dsimp only
  refine .cons (memberStep_field "sshIdentityId" (by rw [profileStep]) (Decodes.text sid)) ?_
  dsimp only
  refine .cons (memberStep_field "createdAt" (by rw [profileStep]) (stamp_decodes he.createdAt)) ?_
  dsimp only
  exact StepsOver.option (u := fun (s : ProfileDraft) o => { s with lastConnected := o.map some }) rfl fun t ht =>
    (memberStep_field "lastConnected" (by rw [profileStep])
      (Decodes.optional (stamp_decodes (he.lastConnected t ht)))).of_eq (by rfl)

theorem decodes {e : ServerProfile} (he : e.Storable) (hd : 1 ≤ d) (hb : e.toJson.steps ≤ b) :
    Decodes serverProfile (d + 1) b e.toJson e := by
  rw [toJson_eq] at hb ⊢
  have hlen := Json.length_lt_obj e.storedMembers
  unfold serverProfile
  refine Decodes.record "ServerProfile" hd fun t hw => Reads.membersBody (steps_storedMembers he) ?_ (by omega) hw
  obtain ⟨id, name, host, port, user, sid, ca, lc⟩ := e
  simp only [draft, required, pure_bind]
  cases lc <;> rfl

end ServerProfile

/-! ## Projects -/

namespace Project

/-- What the stored form of a project can hold: timestamps whose texts read back. -/
structure Storable (e : Project) : Prop where
  createdAt : e.createdAt.Valid
  lastActivity : ∀ t ∈ e.lastActivity, t.Valid
  archivedAt : ∀ t ∈ e.archivedAt, t.Valid

def storedMembers (e : Project) : List (String × Json) :=
  ("id", .str e.id) :: ("name", .str e.name) :: ("serverProfileId", .str e.serverProfileId) ::
    ("remotePath", .str e.remotePath) :: ("status", .str e.status.name) :: ("createdAt", stamp e.createdAt) ::
    ((e.lastActivity.map fun t => ("lastActivity", stamp t)).toList ++
      (e.archivedAt.map fun t => ("archivedAt", stamp t)).toList)

theorem toJson_eq (e : Project) : e.toJson = .obj e.storedMembers := by
  unfold toJson Codec.members storedMembers
  cases e.lastActivity <;> cases e.archivedAt <;> rfl

def draft (e : Project) : ProjectDraft :=
  { id := some e.id, name := some e.name, serverProfileId := some e.serverProfileId,
    remotePath := some e.remotePath, status := some e.status, createdAt := some e.createdAt,
    lastActivity := e.lastActivity.map some, archivedAt := e.archivedAt.map some }

theorem steps_storedMembers {e : Project} (he : e.Storable) :
    StepsOver projectStep d b {} e.storedMembers e.draft := by
  obtain ⟨id, name, sp, rp, st, ca, la, aa⟩ := e
  refine .cons (memberStep_field "id" (by rw [projectStep]) (Decodes.text id)) ?_
  dsimp only
  refine .cons (memberStep_field "name" (by rw [projectStep]) (Decodes.text name)) ?_
  dsimp only
  refine .cons (memberStep_field "serverProfileId" (by rw [projectStep]) (Decodes.text sp)) ?_
  dsimp only
  refine .cons (memberStep_field "remotePath" (by rw [projectStep]) (Decodes.text rp)) ?_
  dsimp only
  refine .cons (memberStep_field "status" (by rw [projectStep]) (projectStatus_decodes st)) ?_
  dsimp only
  refine .cons (memberStep_field "createdAt" (by rw [projectStep]) (stamp_decodes he.createdAt)) ?_
  dsimp only
  refine (StepsOver.option (u := fun (s : ProjectDraft) o => { s with lastActivity := o.map some }) rfl fun t ht =>
    (memberStep_field "lastActivity" (by rw [projectStep])
      (Decodes.optional (stamp_decodes (he.lastActivity t ht)))).of_eq (by rfl)).append ?_
  exact StepsOver.option (u := fun (s : ProjectDraft) o => { s with archivedAt := o.map some }) rfl fun t ht =>
    (memberStep_field "archivedAt" (by rw [projectStep])
      (Decodes.optional (stamp_decodes (he.archivedAt t ht)))).of_eq (by rfl)

theorem decodes {e : Project} (he : e.Storable) (hd : 1 ≤ d) (hb : e.toJson.steps ≤ b) :
    Decodes project (d + 1) b e.toJson e := by
  rw [toJson_eq] at hb ⊢
  have hlen := Json.length_lt_obj e.storedMembers
  unfold project
  refine Decodes.record "Project" hd fun t hw => Reads.membersBody (steps_storedMembers he) ?_ (by omega) hw
  obtain ⟨id, name, sp, rp, st, ca, la, aa⟩ := e
  simp only [draft, required, pure_bind]
  cases la <;> cases aa <;> rfl

end Project

/-! ## Messages -/

namespace Message

/-- What the stored form of a message can hold: a timestamp whose text reads back. -/
structure Storable (e : Message) : Prop where
  timestamp : e.timestamp.Valid

def draft (e : Message) : MessageDraft :=
  { id := some e.id, projectId := some e.projectId, role := some e.role, content := some e.content,
    timestamp := some e.timestamp, status := some e.status }

theorem steps_toJson {e : Message} (he : e.Storable) :
    StepsOver messageStep d b {} [("id", .str e.id), ("projectId", .str e.projectId), ("role", .str e.role.name),
      ("content", .str e.content), ("timestamp", stamp e.timestamp), ("status", .str e.status.name)] e.draft := by
  refine .cons (memberStep_field "id" (by rw [messageStep]) (Decodes.text e.id)) ?_
  dsimp only
  refine .cons (memberStep_field "projectId" (by rw [messageStep]) (Decodes.text e.projectId)) ?_
  dsimp only
  refine .cons (memberStep_field "role" (by rw [messageStep]) (messageRole_decodes e.role)) ?_
  dsimp only
  refine .cons (memberStep_field "content" (by rw [messageStep]) (Decodes.text e.content)) ?_
  dsimp only
  refine .cons (memberStep_field "timestamp" (by rw [messageStep]) (stamp_decodes he.timestamp)) ?_
  dsimp only
  exact .single ((memberStep_field "status" (by rw [messageStep]) (messageStatus_decodes e.status)).of_eq (by rfl))

theorem decodes {e : Message} (he : e.Storable) (hd : 1 ≤ d) (hb : e.toJson.steps ≤ b) :
    Decodes message (d + 1) b e.toJson e := by
  have hlen := Json.length_lt_obj [("id", .str e.id), ("projectId", .str e.projectId),
    ("role", .str e.role.name), ("content", .str e.content), ("timestamp", stamp e.timestamp),
    ("status", .str e.status.name)]
  unfold message
  exact Decodes.record "Message" hd fun t hw => Reads.membersBody (steps_toJson he) rfl (by unfold toJson at hb; omega) hw

end Message

/-! ## Metadata -/

namespace Metadata

/-- What the stored form of metadata can hold: a creation time whose text reads back, and
further keys in order, other than the two own fields, with values as the value reader gives
them and at most 125 levels of nesting. -/
structure Storable (m : Metadata) : Prop where
  createdAt : m.createdAt.Valid
  sorted : m.extra.Pairwise (fun p q => p.1 < q.1)
  notOwn : ∀ p ∈ m.extra, p.1 ≠ "createdAt" ∧ p.1 ≠ "appVersion"
  canonical : ∀ p ∈ m.extra, p.2.Canonical
  depth : ∀ p ∈ m.extra, p.2.depth < 126

/-- Every double among the further keys' values reads back from its own text. -/
def FloatsRead (m : Metadata) : Prop := ∀ p ∈ m.extra, p.2.FloatsRead

def storedMembers (m : Metadata) : List (String × Json) :=
  ("createdAt", stamp m.createdAt) :: ((m.appVersion.map fun v => ("appVersion", Json.str v)).toList ++ m.extra)

theorem toJson_eq (m : Metadata) : m.toJson = .obj m.storedMembers := by
  unfold toJson storedMembers
  cases m.appVersion <;> rfl

def draft (m : Metadata) : MetadataDraft :=
  { createdAt := some m.createdAt, appVersion := m.appVersion.map some, extra := m.extra }

/-- Further keys, each kept with its value, inserted by key into what the draft holds. -/
theorem steps_extra (es : List (String × Json)) :
    ∀ s : MetadataDraft, (∀ p ∈ es, (p.1 ≠ "createdAt" ∧ p.1 ≠ "appVersion") ∧ Decodes anyValue d b p.2 p.2) →
      StepsOver metadataStep d b s es { s with extra := es.foldl (fun acc p => insertKey p.1 p.2 acc) s.extra } := by
  induction es with
  | nil => exact fun s _ => .nil s
  | cons e es ih =>
    intro s h
    obtain ⟨⟨hk₁, hk₂⟩, hv⟩ := h e List.mem_cons_self
    exact .cons (memberStep_colon (by rw [metadataStep.eq_3 _ _ hk₁ hk₂]) hv)
      (ih _ fun p hp => h p (List.mem_cons_of_mem e hp))

theorem steps_storedMembers {m : Metadata} (hm : m.Storable) (hf : m.FloatsRead) (hd : 126 ≤ d)
    (hb : (Json.obj m.storedMembers).steps ≤ b) : StepsOver metadataStep d b {} m.storedMembers m.draft := by
  -- a further key's value takes fewer steps than the whole
  have hvals : ∀ p ∈ m.extra, (p.1 ≠ "createdAt" ∧ p.1 ≠ "appVersion") ∧ Decodes anyValue d b p.2 p.2 := by
    intro p hp
    have hmem : p ∈ m.storedMembers := by simp [storedMembers, hp]
    have hsteps := Json.steps_lt_obj hmem
    exact ⟨hm.notOwn p hp, Decodes.anyValue (hm.canonical p hp) (hf p hp) (by omega)
      (Nat.lt_of_lt_of_le (hm.depth p hp) hd)⟩
  obtain ⟨ca, av, ex⟩ := m
  refine .cons (memberStep_field "createdAt" (by rw [metadataStep]) (stamp_decodes hm.createdAt)) ?_
  dsimp only
  refine (StepsOver.option (u := fun (s : MetadataDraft) o => { s with appVersion := o.map some }) rfl fun v _ =>
    (memberStep_field "appVersion" (by rw [metadataStep]) (Decodes.optional (Decodes.text v))).of_eq (by rfl)).append ?_
  -- the further keys come in order, so inserting each by key puts it last
  have h := steps_extra (d := d) (b := b) ex { createdAt := some ca, appVersion := av.map some } hvals
  dsimp only at h
  rw [foldl_insertKey_sorted hm.sorted (by simp), List.nil_append] at h
  exact h

theorem decodes {m : Metadata} (hm : m.Storable) (hf : m.FloatsRead) (hd : 126 ≤ d) (hb : m.toJson.steps ≤ b)
    (now : Instant) : Decodes (metadata now) (d + 1) b m.toJson m := by
  rw [toJson_eq] at hb ⊢
  have hlen := Json.length_lt_obj m.storedMembers
  unfold metadata
  refine Decodes.objectRecord "DocumentMetadata" (by omega) fun t hw =>
    Reads.membersBody (steps_storedMembers hm hf hd hb) ?_ (by omega) hw
  obtain ⟨ca, av, ex⟩ := m
  cases av <;> rfl

end Metadata

/-! ## Documents -/

namespace Document

/-- What the stored form of a document can hold: a version of 32 bits, storable records,
message lists in key order, and a last change whose text reads back. -/
structure Storable (D : Document) : Prop where
  version : D.version ≤ 4294967295
  identities : ∀ e ∈ D.identities, e.Storable
  serverProfiles : ∀ e ∈ D.serverProfiles, e.Storable
  projects : ∀ e ∈ D.projects, e.Storable
  sorted : D.messages.Pairwise (fun p q => p.1 < q.1)
  messages : ∀ p ∈ D.messages, ∀ e ∈ p.2, e.Storable
  metadata : D.metadata.Storable
  lastModified : D.lastModified.Valid

/-- The members a document is stored with. -/
def storedMembers (D : Document) : List (String × Json) :=
  [("version", Json.ofNat D.version), ("identities", .arr (D.identities.map Identity.toJson)),
    ("serverProfiles", .arr (D.serverProfiles.map ServerProfile.toJson)),
    ("projects", .arr (D.projects.map Project.toJson)),
    ("messages", .obj (D.messages.map fun p => (p.1, .arr (p.2.map Message.toJson)))),
    ("metadata", D.metadata.toJson), ("lastModified", stamp D.lastModified)]

theorem toJson_eq (D : Document) : D.toJson = .obj D.storedMembers := rfl

def draft (D : Document) : DocumentDraft :=
  { version := some D.version, identities := some D.identities, serverProfiles := some D.serverProfiles,
    projects := some D.projects, messages := some D.messages, metadata := some D.metadata,
    lastModified := some D.lastModified }

section

variable {D : Document}

/-- A member's value takes fewer steps than the document. -/
theorem steps_lt_member (hb : D.toJson.steps ≤ b) {p : String × Json} (hp : p ∈ D.storedMembers) :
    p.2.steps < b := by
  have := Json.steps_lt_obj hp
  rw [toJson_eq] at hb
  omega

theorem steps_storedMembers (hD : D.Storable) (hf : D.metadata.FloatsRead) (hb : D.toJson.steps ≤ b)
    (now : Instant) : StepsOver (documentStep now) 127 b {} D.storedMembers D.draft := by
  have hmem : ∀ {k : String} {v : Json}, (k, v) ∈ D.storedMembers → v.steps ≤ b :=
    fun hp => (steps_lt_member hb hp).le
  -- the lists and the map are read one level deeper than the document's members, their
  -- records one more
  have hids : Decodes (list identity) 127 b (.arr (D.identities.map Identity.toJson)) D.identities :=
    Decodes.list (by decide) (fun e he hs => Identity.decodes (hD.identities e he) (by decide) hs.le)
      (hmem (k := "identities") (by simp [storedMembers]))
  have hsps : Decodes (list serverProfile) 127 b (.arr (D.serverProfiles.map ServerProfile.toJson))
      D.serverProfiles :=
    Decodes.list (by decide) (fun e he hs => ServerProfile.decodes (hD.serverProfiles e he) (by decide) hs.le)
      (hmem (k := "serverProfiles") (by simp [storedMembers]))
  have hps : Decodes (list project) 127 b (.arr (D.projects.map Project.toJson)) D.projects :=
    Decodes.list (by decide) (fun e he hs => Project.decodes (hD.projects e he) (by decide) hs.le)
      (hmem (k := "projects") (by simp [storedMembers]))
  have hms : Decodes (keyedMap (list message)) 127 b
      (.obj (D.messages.map fun p => (p.1, .arr (p.2.map Message.toJson)))) D.messages :=
    Decodes.keyedMap (f := fun ms => .arr (ms.map Message.toJson)) (by decide)
      (fun p hp hs => Decodes.list (by decide)
        (fun e he hs' => Message.decodes (hD.messages p hp e he) (by decide) hs'.le) hs.le)
      hD.sorted (hmem (k := "messages") (by simp [storedMembers]))
  have hmeta : Decodes (Codec.metadata now) 127 b D.metadata.toJson D.metadata :=
    Metadata.decodes hD.metadata hf le_rfl (hmem (k := "metadata") (by simp [storedMembers])) now
  refine .cons (memberStep_field "version" (by rw [documentStep]; rfl)
    (Decodes.natUpTo "u32" hD.version (by decide))) ?_
  dsimp only
  refine .cons (memberStep_field "identities" (by rw [documentStep]) hids) ?_
  dsimp only
  refine .cons (memberStep_field "serverProfiles" (by rw [documentStep]) hsps) ?_
  dsimp only
  refine .cons (memberStep_field "projects" (by rw [documentStep]) hps) ?_
  dsimp only
  refine .cons (memberStep_field "messages" (by rw [documentStep]) hms) ?_
  dsimp only
  refine .cons (memberStep_field "metadata" (by rw [documentStep]) hmeta) ?_
  dsimp only
  exact .single ((memberStep_field "lastModified" (by rw [documentStep])
    (stamp_decodes hD.lastModified)).of_eq (by rfl))

/-- A storable document whose doubles read back is decoded from every text of its JSON form. -/
theorem decodes (hD : D.Storable) (hf : D.metadata.FloatsRead) (hb : D.toJson.steps ≤ b) (now : Instant) :
    Decodes (document now) 128 b D.toJson D := by
  have hsteps := steps_storedMembers hD hf hb now
  have hlen := Json.length_lt_obj D.storedMembers
  rw [toJson_eq] at hb ⊢
  unfold document
  exact Decodes.record "Document" (by decide) fun t hw => Reads.membersBody hsteps rfl (by omega) hw

/-- A storable document whose doubles read back is decoded from any text of its JSON form,
at any time of reading. -/
theorem decode_written (hD : D.Storable) (hf : D.metadata.FloatsRead) (now : Instant) {s : String}
    (hw : Json.Written D.toJson s.toList) : Document.decode now s = .ok D := by
  have hsteps := hw.steps_le
  rw [String.length_toList] at hsteps
  exact run_of_reads (((decodes hD hf le_rfl now).reads hw).mono (fun _ h => by rw [h]; trivial) le_rfl le_rfl)
    le_rfl (by omega)

theorem decode_encode (hD : D.Storable) (hf : D.metadata.FloatsRead) (now : Instant) :
    Document.decode now D.encode = .ok D :=
  decode_written hD hf now (Json.compact_written D.toJson)

theorem decode_encodePretty (hD : D.Storable) (hf : D.metadata.FloatsRead) (now : Instant) :
    Document.decode now D.encodePretty = .ok D :=
  decode_written hD hf now (Json.prettyText_written D.toJson)

end

end Document

end DocStore
