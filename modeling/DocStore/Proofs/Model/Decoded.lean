import DocStore.Proofs.Json.Yields
import DocStore.Proofs.Model.ReadBack
/-
  DocStore.Proofs.Model.Decoded — a document the reader gives is stored as one it reads back.

  Each record's reader takes members into a draft, and every step keeps the draft
  `Storable`: a timestamp read is valid (`Instant.parse_valid`), a port and a version are
  read within their widths, and a further metadata key is not one of the two own fields,
  goes in by key, and holds a value the value reader gave inside the document and the
  metadata. A record read from an array takes its fields with the same readers, and the
  defaults are storable too. So every document the reader gives is `Storable`
  (`Document.decode_storable`), the text it was read from starting with 128 levels.

  Proved: `Document.decode_reencodes` — a document the reader gives is decoded again from
  its stored text and from its indented text, at any time of reading, when the doubles among
  its metadata's further values read back from their own texts.
-/

namespace DocStore

open JsonRead (Yields Keyed)
open Codec

variable {n : Nat}

/-- A value that may be absent, with a default that has the property the value has. -/
theorem getD_of_forall {α : Type} {P : α → Prop} {o : Option α} (h : ∀ x ∈ o, P x) {a : α} (ha : P a) :
    P (o.getD a) := by
  cases o with
  | none => exact ha
  | some x => exact h x rfl

/-! ## Identities -/

namespace Codec

/-- An identity's draft with valid timestamps. -/
structure IdentityDraft.Storable (d : IdentityDraft) : Prop where
  createdAt : ∀ t ∈ d.createdAt, t.Valid
  lastUsed : ∀ x ∈ d.lastUsed, ∀ t ∈ x, t.Valid

theorem identityStep_storable {d : IdentityDraft} (hd : d.Storable) (key : String) :
    Yields (identityStep d key) n IdentityDraft.Storable := by
  unfold identityStep
  -- each step sets one field; only the timestamps are checked
  split
  · exact Yields.fieldStep Yields.text fun _ _ => ⟨hd.createdAt, hd.lastUsed⟩
  · exact Yields.fieldStep Yields.text fun _ _ => ⟨hd.createdAt, hd.lastUsed⟩
  · exact Yields.fieldStep (Yields.enumeration _) fun _ _ => ⟨hd.createdAt, hd.lastUsed⟩
  · exact Yields.fieldStep Yields.text fun _ _ => ⟨hd.createdAt, hd.lastUsed⟩
  · exact Yields.fieldStep (Yields.optional Yields.text) fun _ _ => ⟨hd.createdAt, hd.lastUsed⟩
  · exact Yields.fieldStep Yields.instant fun _ ht => ⟨by simpa using ht, hd.lastUsed⟩
  · exact Yields.fieldStep (Yields.optional Yields.instant) fun _ ht => ⟨hd.createdAt, by simpa using ht⟩
  · exact Yields.skipMember.bind fun _ _ => Yields.pure hd

/-- An identity read, from an object or from an array, has valid timestamps. -/
theorem identity_storable : Yields identity n Identity.Storable := by
  unfold identity
  refine Yields.record _ (fun _ => ?_) (fun _ => ?_)
  · refine Yields.fuelFor.bind fun fuel _ => (Yields.membersOf (fun s key hs => identityStep_storable hs key)
      fuel true {} ⟨by simp, by simp⟩).bind fun d hd => ?_
    refine (Yields.required _ _).bind fun _ _ => (Yields.required _ _).bind fun _ _ =>
      (Yields.required _ _).bind fun _ _ => (Yields.required _ _).bind fun _ _ =>
      (Yields.required _ _).bind fun ca hca => Yields.pure ⟨hd.createdAt ca hca, ?_⟩
    exact getD_of_forall hd.lastUsed (by simp)
  · refine (Yields.positional Yields.text (by simp) _ _ _).bind fun _ _ => ?_
    refine (Yields.positional Yields.text (by simp) _ _ _).bind fun _ _ => ?_
    refine (Yields.positional (Yields.enumeration _) (by simp) _ _ _).bind fun _ _ => ?_
    refine (Yields.positional Yields.text (by simp) _ _ _).bind fun _ _ => ?_
    refine (Yields.positional (Yields.optional Yields.text) (by simp) _ _ _).bind fun _ _ => ?_
    refine (Yields.positional Yields.instant (by simp) _ _ _).bind fun _ hca => ?_
    refine (Yields.positional (Yields.optional Yields.instant) (by simp) _ _ _).bind fun _ hlu => ?_
    exact Yields.pure ⟨hca, hlu⟩

/-! ## Server profiles -/

/-- A server profile's draft with a port of 16 bits and valid timestamps. -/
structure ProfileDraft.Storable (d : ProfileDraft) : Prop where
  port : ∀ p ∈ d.port, p ≤ 65535
  createdAt : ∀ t ∈ d.createdAt, t.Valid
  lastConnected : ∀ x ∈ d.lastConnected, ∀ t ∈ x, t.Valid

theorem profileStep_storable {d : ProfileDraft} (hd : d.Storable) (key : String) :
    Yields (profileStep d key) n ProfileDraft.Storable := by
  unfold profileStep
  split
  · exact Yields.fieldStep Yields.text fun _ _ => ⟨hd.port, hd.createdAt, hd.lastConnected⟩
  · exact Yields.fieldStep Yields.text fun _ _ => ⟨hd.port, hd.createdAt, hd.lastConnected⟩
  · exact Yields.fieldStep Yields.text fun _ _ => ⟨hd.port, hd.createdAt, hd.lastConnected⟩
  · exact Yields.fieldStep (Yields.natUpTo _ _) fun _ hp => ⟨by simpa using hp, hd.createdAt, hd.lastConnected⟩
  · exact Yields.fieldStep Yields.text fun _ _ => ⟨hd.port, hd.createdAt, hd.lastConnected⟩
  · exact Yields.fieldStep Yields.text fun _ _ => ⟨hd.port, hd.createdAt, hd.lastConnected⟩
  · exact Yields.fieldStep Yields.instant fun _ ht => ⟨hd.port, by simpa using ht, hd.lastConnected⟩
  · exact Yields.fieldStep (Yields.optional Yields.instant) fun _ ht =>
      ⟨hd.port, hd.createdAt, by simpa using ht⟩
  · exact Yields.skipMember.bind fun _ _ => Yields.pure hd

/-- A server profile read, from an object or from an array, has a port of 16 bits (22 when it
is left out) and valid timestamps. -/
theorem serverProfile_storable : Yields serverProfile n ServerProfile.Storable := by
  unfold serverProfile
  refine Yields.record _ (fun _ => ?_) (fun _ => ?_)
  · refine Yields.fuelFor.bind fun fuel _ => (Yields.membersOf (fun s key hs => profileStep_storable hs key)
      fuel true {} ⟨by simp, by simp, by simp⟩).bind fun d hd => ?_
    refine (Yields.required _ _).bind fun _ _ => (Yields.required _ _).bind fun _ _ =>
      (Yields.required _ _).bind fun _ _ => (Yields.required _ _).bind fun _ _ =>
      (Yields.required _ _).bind fun _ _ => (Yields.required _ _).bind fun ca hca =>
      Yields.pure ⟨?_, hd.createdAt ca hca, ?_⟩
    · exact getD_of_forall hd.port (by decide)
    · exact getD_of_forall hd.lastConnected (by simp)
  · refine (Yields.positional Yields.text (by simp) _ _ _).bind fun _ _ => ?_
    refine (Yields.positional Yields.text (by simp) _ _ _).bind fun _ _ => ?_
    refine (Yields.positional Yields.text (by simp) _ _ _).bind fun _ _ => ?_
    refine (Yields.positional (Yields.natUpTo _ _) (by simp) _ _ _).bind fun _ hp => ?_
    refine (Yields.positional Yields.text (by simp) _ _ _).bind fun _ _ => ?_
    refine (Yields.positional Yields.text (by simp) _ _ _).bind fun _ _ => ?_
    refine (Yields.positional Yields.instant (by simp) _ _ _).bind fun _ hca => ?_
    refine (Yields.positional (Yields.optional Yields.instant) (by simp) _ _ _).bind fun _ hlc => ?_
    exact Yields.pure ⟨hp, hca, hlc⟩

/-! ## Projects -/

/-- A project's draft with valid timestamps. -/
structure ProjectDraft.Storable (d : ProjectDraft) : Prop where
  createdAt : ∀ t ∈ d.createdAt, t.Valid
  lastActivity : ∀ x ∈ d.lastActivity, ∀ t ∈ x, t.Valid
  archivedAt : ∀ x ∈ d.archivedAt, ∀ t ∈ x, t.Valid

theorem projectStep_storable {d : ProjectDraft} (hd : d.Storable) (key : String) :
    Yields (projectStep d key) n ProjectDraft.Storable := by
  unfold projectStep
  split
  · exact Yields.fieldStep Yields.text fun _ _ => ⟨hd.createdAt, hd.lastActivity, hd.archivedAt⟩
  · exact Yields.fieldStep Yields.text fun _ _ => ⟨hd.createdAt, hd.lastActivity, hd.archivedAt⟩
  · exact Yields.fieldStep Yields.text fun _ _ => ⟨hd.createdAt, hd.lastActivity, hd.archivedAt⟩
  · exact Yields.fieldStep Yields.text fun _ _ => ⟨hd.createdAt, hd.lastActivity, hd.archivedAt⟩
  · exact Yields.fieldStep (Yields.enumeration _) fun _ _ => ⟨hd.createdAt, hd.lastActivity, hd.archivedAt⟩
  · exact Yields.fieldStep Yields.instant fun _ ht => ⟨by simpa using ht, hd.lastActivity, hd.archivedAt⟩
  · exact Yields.fieldStep (Yields.optional Yields.instant) fun _ ht =>
      ⟨hd.createdAt, by simpa using ht, hd.archivedAt⟩
  · exact Yields.fieldStep (Yields.optional Yields.instant) fun _ ht =>
      ⟨hd.createdAt, hd.lastActivity, by simpa using ht⟩
  · exact Yields.skipMember.bind fun _ _ => Yields.pure hd

/-- A project read, from an object or from an array, has valid timestamps. -/
theorem project_storable : Yields project n Project.Storable := by
  unfold project
  refine Yields.record _ (fun _ => ?_) (fun _ => ?_)
  · refine Yields.fuelFor.bind fun fuel _ => (Yields.membersOf (fun s key hs => projectStep_storable hs key)
      fuel true {} ⟨by simp, by simp, by simp⟩).bind fun d hd => ?_
    refine (Yields.required _ _).bind fun _ _ => (Yields.required _ _).bind fun _ _ =>
      (Yields.required _ _).bind fun _ _ => (Yields.required _ _).bind fun _ _ =>
      (Yields.required _ _).bind fun ca hca => Yields.pure ⟨hd.createdAt ca hca, ?_, ?_⟩
    · exact getD_of_forall hd.lastActivity (by simp)
    · exact getD_of_forall hd.archivedAt (by simp)
  · refine (Yields.positional Yields.text (by simp) _ _ _).bind fun _ _ => ?_
    refine (Yields.positional Yields.text (by simp) _ _ _).bind fun _ _ => ?_
    refine (Yields.positional Yields.text (by simp) _ _ _).bind fun _ _ => ?_
    refine (Yields.positional Yields.text (by simp) _ _ _).bind fun _ _ => ?_
    refine (Yields.positional (Yields.enumeration _) (by simp) _ _ _).bind fun _ _ => ?_
    refine (Yields.positional Yields.instant (by simp) _ _ _).bind fun _ hca => ?_
    refine (Yields.positional (Yields.optional Yields.instant) (by simp) _ _ _).bind fun _ hla => ?_
    refine (Yields.positional (Yields.optional Yields.instant) (by simp) _ _ _).bind fun _ haa => ?_
    exact Yields.pure ⟨hca, hla, haa⟩

/-! ## Messages -/

/-- A message's draft with a valid timestamp. -/
structure MessageDraft.Storable (d : MessageDraft) : Prop where
  timestamp : ∀ t ∈ d.timestamp, t.Valid

theorem messageStep_storable {d : MessageDraft} (hd : d.Storable) (key : String) :
    Yields (messageStep d key) n MessageDraft.Storable := by
  unfold messageStep
  split
  · exact Yields.fieldStep Yields.text fun _ _ => ⟨hd.timestamp⟩
  · exact Yields.fieldStep Yields.text fun _ _ => ⟨hd.timestamp⟩
  · exact Yields.fieldStep (Yields.enumeration _) fun _ _ => ⟨hd.timestamp⟩
  · exact Yields.fieldStep Yields.text fun _ _ => ⟨hd.timestamp⟩
  · exact Yields.fieldStep Yields.instant fun _ ht => ⟨by simpa using ht⟩
  · exact Yields.fieldStep (Yields.enumeration _) fun _ _ => ⟨hd.timestamp⟩
  · exact Yields.skipMember.bind fun _ _ => Yields.pure hd

/-- A message read, from an object or from an array, has a valid timestamp. -/
theorem message_storable : Yields message n Message.Storable := by
  unfold message
  refine Yields.record _ (fun _ => ?_) (fun _ => ?_)
  · refine Yields.fuelFor.bind fun fuel _ => (Yields.membersOf (fun s key hs => messageStep_storable hs key)
      fuel true {} ⟨by simp⟩).bind fun d hd => ?_
    refine (Yields.required _ _).bind fun _ _ => (Yields.required _ _).bind fun _ _ =>
      (Yields.required _ _).bind fun _ _ => (Yields.required _ _).bind fun _ _ =>
      (Yields.required _ _).bind fun ts hts => Yields.pure ⟨hd.timestamp ts hts⟩
  · refine (Yields.positional Yields.text (by simp) _ _ _).bind fun _ _ => ?_
    refine (Yields.positional Yields.text (by simp) _ _ _).bind fun _ _ => ?_
    refine (Yields.positional (Yields.enumeration _) (by simp) _ _ _).bind fun _ _ => ?_
    refine (Yields.positional Yields.text (by simp) _ _ _).bind fun _ _ => ?_
    refine (Yields.positional Yields.instant (by simp) _ _ _).bind fun _ hts => ?_
    refine (Yields.positional (Yields.enumeration _) (by simp) _ _ _).bind fun _ _ => ?_
    exact Yields.pure ⟨hts⟩

/-! ## Metadata -/

/-- A metadata draft with a valid creation time, and further keys other than the two own
fields, in increasing order, with canonical values of at most 125 levels. -/
structure MetadataDraft.Storable (d : MetadataDraft) : Prop where
  createdAt : ∀ t ∈ d.createdAt, t.Valid
  extra : Keyed (fun v => v.Canonical ∧ v.depth < 126) d.extra
  notOwn : ∀ p ∈ d.extra, p.1 ≠ "createdAt" ∧ p.1 ≠ "appVersion"

/-- A step keeps the draft storable when its members are read with at most 126 levels left:
a further value nests less deeply than that. -/
theorem metadataStep_storable (h1 : 1 ≤ n) (hn : n ≤ 126) {d : MetadataDraft} (hd : d.Storable) (key : String) :
    Yields (metadataStep d key) n MetadataDraft.Storable := by
  unfold metadataStep
  split
  · exact Yields.fieldStep Yields.instant fun _ ht => ⟨by simpa using ht, hd.extra, hd.notOwn⟩
  · exact Yields.fieldStep (Yields.optional Yields.text) fun _ _ => ⟨hd.createdAt, hd.extra, hd.notOwn⟩
  · -- any other key: its value is kept under it, in key order
    rename_i hk₁ hk₂
    refine Yields.colon.bind fun _ _ => (Yields.anyValue h1).bind fun v hv => Yields.pure ?_
    refine ⟨hd.createdAt, hd.extra.insertKey _ ⟨hv.1, by have := hv.2; omega⟩, fun p hp => ?_⟩
    rcases JsonRead.mem_insertKey hp with rfl | hp
    · exact ⟨hk₁, hk₂⟩
    · exact hd.notOwn p hp

/-- Metadata read inside a document is storable; when it has no creation time it takes the
time of reading, so that time must be valid. -/
theorem metadata_storable {now : Instant} (hnow : now.Valid) (hn : n ≤ 127) :
    Yields (metadata now) n Metadata.Storable := by
  unfold metadata
  refine Yields.objectRecord _ fun h2 => ?_
  refine Yields.fuelFor.bind fun fuel _ =>
    (Yields.membersOf (fun s key hs => metadataStep_storable (by omega) (by omega) hs key) fuel true {}
      ⟨by simp, by simp [Keyed], by simp⟩).bind fun d hd => Yields.pure ?_
  exact ⟨getD_of_forall hd.createdAt hnow, hd.extra.1, hd.notOwn, fun p hp => (hd.extra.2 p hp).1,
    fun p hp => (hd.extra.2 p hp).2⟩

/-! ## Documents -/

/-- A document's draft holding only what a storable document can. -/
structure DocumentDraft.Storable (d : DocumentDraft) : Prop where
  version : ∀ v ∈ d.version, v ≤ 4294967295
  identities : ∀ es ∈ d.identities, ∀ e ∈ es, e.Storable
  serverProfiles : ∀ es ∈ d.serverProfiles, ∀ e ∈ es, e.Storable
  projects : ∀ es ∈ d.projects, ∀ e ∈ es, e.Storable
  messages : ∀ ms ∈ d.messages, Keyed (fun es => ∀ e ∈ es, e.Storable) ms
  metadata : ∀ m ∈ d.metadata, m.Storable
  lastModified : ∀ t ∈ d.lastModified, t.Valid

/-- A field of a document read at its members' level: the lists and the map one level deeper,
their records one more, the metadata's further values one more again. -/
theorem documentStep_storable {now : Instant} (hnow : now.Valid) (hn : n ≤ 127) {d : DocumentDraft}
    (hd : d.Storable) (key : String) : Yields (documentStep now d key) n DocumentDraft.Storable := by
  unfold documentStep
  split
  · exact Yields.fieldStep (Yields.natUpTo _ _) fun _ hv => { hd with version := by simpa using hv }
  · exact Yields.fieldStep (Yields.list fun _ => identity_storable) fun _ hes =>
      { hd with identities := by simpa using hes }
  · exact Yields.fieldStep (Yields.list fun _ => serverProfile_storable) fun _ hes =>
      { hd with serverProfiles := by simpa using hes }
  · exact Yields.fieldStep (Yields.list fun _ => project_storable) fun _ hes =>
      { hd with projects := by simpa using hes }
  · exact Yields.fieldStep (Yields.keyedMap fun _ => Yields.list fun _ => message_storable)
      fun _ hms => { hd with messages := by simpa using hms }
  · exact Yields.fieldStep (metadata_storable hnow hn) fun _ hm => { hd with metadata := by simpa using hm }
  · exact Yields.fieldStep Yields.instant fun _ ht => { hd with lastModified := by simpa using ht }
  · exact Yields.skipMember.bind fun _ _ => Yields.pure hd

/-- Metadata with only a creation time. -/
theorem storable_of_createdAt {now : Instant} (hnow : now.Valid) : Metadata.Storable { createdAt := now } :=
  ⟨hnow, List.Pairwise.nil, by simp, by simp, by simp⟩

/-- A document read, from an object or from an array, with at most 128 levels left, is
storable; its timestamps default to the time of reading, so that time must be valid. -/
theorem document_storable {now : Instant} (hnow : now.Valid) (hn : n ≤ 128) :
    Yields (document now) n Document.Storable := by
  unfold document
  refine Yields.record _ (fun _ => ?_) (fun _ => ?_)
  · refine Yields.fuelFor.bind fun fuel _ =>
      (Yields.membersOf (fun s key hs => documentStep_storable hnow (by omega) hs key) fuel true {}
        ⟨by simp, by simp, by simp, by simp, by simp, by simp, by simp⟩).bind fun d hd => Yields.pure ?_
    have hms := getD_of_forall hd.messages (show Keyed _ [] by simp [Keyed])
    exact ⟨getD_of_forall hd.version (by decide), getD_of_forall hd.identities (by simp),
      getD_of_forall hd.serverProfiles (by simp), getD_of_forall hd.projects (by simp), hms.1, hms.2,
      getD_of_forall hd.metadata (storable_of_createdAt hnow), getD_of_forall hd.lastModified hnow⟩
  · refine (Yields.positional (Yields.natUpTo _ _) (by decide) _ _ _).bind fun _ hv => ?_
    refine (Yields.positional (Yields.list fun _ => identity_storable) (by simp) _ _ _).bind fun _ hids => ?_
    refine (Yields.positional (Yields.list fun _ => serverProfile_storable) (by simp) _ _ _).bind fun _ hsps => ?_
    refine (Yields.positional (Yields.list fun _ => project_storable) (by simp) _ _ _).bind fun _ hps => ?_
    refine (Yields.positional (Yields.keyedMap fun _ => Yields.list fun _ => message_storable)
      (by simp [Keyed]) _ _ _).bind fun _ hms => ?_
    refine (Yields.positional (metadata_storable hnow (by omega)) (by simpa using storable_of_createdAt hnow)
      _ _ _).bind fun _ hm => ?_
    refine (Yields.positional Yields.instant (by simpa using hnow) _ _ _).bind fun _ hlm => ?_
    exact Yields.pure ⟨hv, hids, hsps, hps, hms.1, hms.2, hm, hlm⟩

end Codec

/-! ## The round trip on the reader's image -/

namespace Document

/-- Every document the reader gives is storable, when the time of reading is valid. -/
theorem decode_storable {now : Instant} {s : String} {D : Document} (h : Document.decode now s = .ok D)
    (hnow : now.Valid) : D.Storable := by
  obtain ⟨k', hr, -⟩ := JsonRead.ok_of_run h
  exact (document_storable hnow le_rfl (Cursor.start s) D k' rfl hr).2

/-- A document the reader gives is decoded again, at any time of reading, from its stored text
and from its indented text, when the doubles among its metadata's further values read back
from their own texts. -/
theorem decode_reencodes {now now' : Instant} {s : String} {D : Document} (h : Document.decode now s = .ok D)
    (hnow : now.Valid) (hf : D.metadata.FloatsRead) :
    Document.decode now' D.encode = .ok D ∧ Document.decode now' D.encodePretty = .ok D := by
  have hD := decode_storable h hnow
  exact ⟨decode_encode hD hf now', decode_encodePretty hD hf now'⟩

/-- Blanks around an empty object, read at the epoch: every field takes its default, and the
document comes back from both of its texts. -/
theorem decode_reencodes_blank_object :
    Document.decode Instant.epoch " { } " =
        .ok { metadata := { createdAt := Instant.epoch }, lastModified := Instant.epoch } ∧
      Instant.epoch.Valid ∧ Metadata.FloatsRead { createdAt := Instant.epoch } ∧
      Document.decode Instant.epoch
          (Document.encode { metadata := { createdAt := Instant.epoch }, lastModified := Instant.epoch }) =
        .ok { metadata := { createdAt := Instant.epoch }, lastModified := Instant.epoch } ∧
      Document.decode Instant.epoch
          (Document.encodePretty { metadata := { createdAt := Instant.epoch }, lastModified := Instant.epoch }) =
        .ok { metadata := { createdAt := Instant.epoch }, lastModified := Instant.epoch } := by
  have h : Document.decode Instant.epoch " { } " =
      .ok { metadata := { createdAt := Instant.epoch }, lastModified := Instant.epoch } := rfl
  have hnow : Instant.epoch.Valid := ⟨by decide, by decide⟩
  have hf : Metadata.FloatsRead { createdAt := Instant.epoch } := fun _ hp => nomatch hp
  exact ⟨h, hnow, hf, decode_reencodes h hnow hf⟩

end Document

end DocStore
