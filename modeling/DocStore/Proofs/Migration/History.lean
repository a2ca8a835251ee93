import Mathlib.Data.List.DropRight
import DocStore.Proofs.Json.Reads
import DocStore.Proofs.Store.Steps
/-
  DocStore.Proofs.Migration.History — the log of runs is a ring of the newest entries, and
  it survives being stored and loaded again.

  An entry is stored as an object of its members, the absent optional ones left out
  (`LogEntry.storedMembers`). Its reader gathers the members one by one into a draft, then
  takes the fields without a default from the draft. An entry is `Storable` when its
  timestamp's text reads back and its versions and duration fit the widths the reader
  takes (32 and 64 bits); such an entry reads back from its text (`LogEntry.reads_toJson`),
  and a log of them from its stored form (`History.read_encode`).

  Proved:
  - `History.foldl_push`: pushing runs one by one onto a log within its limit keeps the
    newest `limit` of all of them, in order.
  - `History.load_encode`: a stored log loads, under any limit, as the newest of its
    entries that the limit allows.
  - `History.ring_persist_load`: from an empty log, the ring, its last entry, the round
    trip under any limit and under its own, the empty loads, and the backups it offers.
  - `Vault.create_after_record`: the same round trip through a vault's byte store.
-/

namespace DocStore

open JsonText

/-! ## Reading one member of an entry -/

namespace Codec

open JsonRead

variable {d b : Nat} {s : EntryDraft}

/-- A member the entry knows, met while its field is still empty: the field is read once, by
its own reader, into the draft. Each member below gives its branch of `entryStep` by `rfl`,
so that none of them waits on the match's equation lemmas, and elaborates the lemma before it
meets the goal (`(… :)`), so that the update is read off the branch, not guessed from the new
draft. -/
theorem entryStep_field {α : Type} {get : EntryDraft → Option α} {read : JsonRead α}
    {g : α → EntryDraft} {t : List Char} {a : α} (key : String)
    (hstep : entryStep s key = (fieldOnce key (get s) read >>= fun x => pure (g x))) (hs : get s = none)
    (h : Reads JsonScan.Closes d b read t a) : Reads JsonScan.Closes d b (entryStep s key) (':' :: t) (g a) := by
  rw [hstep, hs]
  exact (Reads.fieldOnce key h).bind_pure rfl

theorem entryStep_timestamp (hs : s.timestamp = none) {t : Instant} (ht : t.Valid) :
    Reads JsonScan.Closes d b (entryStep s "timestamp") (':' :: (stamp t).compact.toList)
      { s with timestamp := some t } := by
  rw [stamp, Json.compact_str]
  exact (entryStep_field "timestamp" rfl hs (Reads.instant (Instant.parse_toText ht)) :)

theorem entryStep_fromVersion (hs : s.fromVersion = none) {v : Option Nat} (hv : ∀ n ∈ v, n ≤ 4294967295) :
    Reads JsonScan.Closes d b (entryStep s "fromVersion") (':' :: (Json.opt Json.ofNat v).compact.toList)
      { s with fromVersion := some v } := by
  cases v with
  | none =>
    rw [Json.opt, Json.compact_null]
    exact (entryStep_field "fromVersion" rfl hs (Reads.optional_null u32) :)
  | some n =>
    rw [Json.opt, Json.compact_nat]
    exact (entryStep_field "fromVersion" rfl hs (Reads.optional_natUpTo "u32" (hv n rfl) (by decide)) :)

theorem entryStep_toVersion (hs : s.toVersion = none) {n : Nat} (hn : n ≤ 4294967295) :
    Reads JsonScan.Closes d b (entryStep s "toVersion") (':' :: (Json.ofNat n).compact.toList)
      { s with toVersion := some n } := by
  rw [Json.compact_nat]
  exact (entryStep_field "toVersion" rfl hs (Reads.natUpTo "u32" hn (by decide)) :)

theorem entryStep_success (hs : s.success = none) (v : Bool) :
    Reads JsonScan.Closes d b (entryStep s "success") (':' :: (Json.bool v).compact.toList)
      { s with success := some v } := by
  rw [Json.compact_bool]
  exact (entryStep_field "success" rfl hs (Reads.boolean v) :)

theorem entryStep_durationMs (hs : s.durationMs = none) {n : Nat} (hn : n ≤ 2 ^ 64 - 1) :
    Reads JsonScan.Closes d b (entryStep s "durationMs") (':' :: (Json.ofNat n).compact.toList)
      { s with durationMs := some n } := by
  rw [Json.compact_nat]
  exact (entryStep_field "durationMs" rfl hs (Reads.natUpTo "u64" hn (Nat.le_refl _)) :)

theorem entryStep_backupFilename (hs : s.backupFilename = none) (name : String) :
    Reads JsonScan.Closes d b (entryStep s "backupFilename") (':' :: (Json.str name).compact.toList)
      { s with backupFilename := some (some name) } := by
  rw [Json.compact_str]
  exact (entryStep_field "backupFilename" rfl hs (Reads.optional_text name) :)

theorem entryStep_error (hs : s.error = none) (message : String) :
    Reads JsonScan.Closes d b (entryStep s "error") (':' :: (Json.str message).compact.toList)
      { s with error := some (some message) } := by
  rw [Json.compact_str]
  exact (entryStep_field "error" rfl hs (Reads.optional_text message) :)

theorem entryStep_operation (hs : s.operation = none) (op : Operation) :
    Reads JsonScan.Closes d b (entryStep s "operation") (':' :: (Json.str op.name).compact.toList)
      { s with operation := some op } := by
  rw [Json.compact_str]
  have hfind : [("migrate", Operation.migrate), ("rollback", .rollback)].find? (·.1 == op.name) =
      some (op.name, op) := by
    cases op <;> rfl
  exact (entryStep_field "operation" rfl hs (Reads.enumeration hfind) :)

end Codec

/-! ## An entry's stored form -/

namespace LogEntry

open JsonRead Codec

/-- What the stored form of an entry can hold: a timestamp whose text reads back to it, and
versions and a duration within the widths the reader takes. -/
structure Storable (e : LogEntry) : Prop where
  timestamp : e.timestamp.Valid
  fromVersion : ∀ n ∈ e.fromVersion, n ≤ 4294967295
  toVersion : e.toVersion ≤ 4294967295
  durationMs : e.durationMs ≤ 2 ^ 64 - 1

/-- The members an entry is stored with, the absent optional ones left out. -/
def storedMembers (e : LogEntry) : List (String × Json) :=
  [("timestamp", stamp e.timestamp), ("fromVersion", Json.opt Json.ofNat e.fromVersion),
    ("toVersion", .ofNat e.toVersion), ("success", .bool e.success), ("durationMs", .ofNat e.durationMs)] ++
  (e.backupFilename.map fun name => ("backupFilename", Json.str name)).toList ++
  (e.error.map fun message => ("error", Json.str message)).toList ++ [("operation", .str e.operation.name)]

theorem toJson_eq (e : LogEntry) : e.toJson = .obj e.storedMembers := by
  unfold toJson Codec.members storedMembers
  cases e.backupFilename <;> cases e.error <;> rfl

/-- What the reader has gathered once it has read every member of `e`. -/
def draft (e : LogEntry) : EntryDraft :=
  { timestamp := some e.timestamp, fromVersion := some e.fromVersion, toVersion := some e.toVersion,
    success := some e.success, durationMs := some e.durationMs, backupFilename := e.backupFilename.map some,
    error := e.error.map some, operation := some e.operation }

/-- A member as the reader meets it: its key, then a colon and the value's text. -/
def memberText (m : String × Json) : String × List Char := (m.1, ':' :: m.2.compact.toList)

variable {d b : Nat} {s : EntryDraft}

theorem steps_backupFilename (hs : s.backupFilename = none) (o : Option String) :
    StepsThrough entryStep d b s ((o.map fun name => ("backupFilename", Json.str name)).toList.map memberText)
      { s with backupFilename := o.map some } := by
  cases o with
  | none =>
    obtain ⟨_, _, _, _, _, _, _, _⟩ := s
    cases hs
    exact .nil _
  | some name => exact .single (entryStep_backupFilename hs name)

theorem steps_error (hs : s.error = none) (o : Option String) :
    StepsThrough entryStep d b s ((o.map fun message => ("error", Json.str message)).toList.map memberText)
      { s with error := o.map some } := by
  cases o with
  | none =>
    obtain ⟨_, _, _, _, _, _, _, _⟩ := s
    cases hs
    exact .nil _
  | some message => exact .single (entryStep_error hs message)

/-- The members of a storable entry, read one by one from an empty draft, gather every field. -/
theorem steps_storedMembers {e : LogEntry} (he : e.Storable) :
    StepsThrough entryStep d b {} (e.storedMembers.map memberText) e.draft := by
  obtain ⟨ts, fv, tv, ok, ms, bf, er, op⟩ := e
  obtain ⟨hts, hfv, htv, hms⟩ := he
  simp only [storedMembers, List.map_append, List.map_cons, List.map_nil, List.cons_append, List.nil_append,
    List.append_assoc]
  refine .cons (entryStep_timestamp rfl hts) (.cons (entryStep_fromVersion rfl hfv)
    (.cons (entryStep_toVersion rfl htv) (.cons (entryStep_success rfl ok) (.cons (entryStep_durationMs rfl hms) ?_))))
  exact (steps_backupFilename rfl bf).append ((steps_error rfl er).append (.single (entryStep_operation rfl op)))

theorem toJson_compact (e : LogEntry) :
    e.toJson.compact.toList = '{' :: membersText true (e.storedMembers.map memberText) ++ ['}'] := by
  rw [toJson_eq, Json.compact_obj]
  simp only [membersText, List.map_map]
  rfl

theorem length_storedMembers (e : LogEntry) : e.storedMembers.length ≤ 8 := by
  unfold storedMembers
  cases e.backupFilename <;> cases e.error <;> simp

/-- A storable entry's stored text reads back to the entry. -/
theorem reads_toJson {e : LogEntry} (he : e.Storable) (hd : 1 ≤ d) (hb : 9 ≤ b) :
    Reads JsonScan.Closes (d + 1) b logEntry e.toJson.compact.toList e := by
  rw [toJson_compact]
  unfold logEntry
  refine Reads.record "MigrationLogEntry" hd (Reads.fuelFor_bind fun n hn => ?_)
  have hlen : (e.storedMembers.map memberText).length < n := by
    have := length_storedMembers e
    simp only [List.length_map]
    omega
  refine (Reads.membersOf (steps_storedMembers he) true n hlen).bind_pure ?_
  -- every field without a default is in the draft
  obtain ⟨ts, fv, tv, ok, ms, bf, er, op⟩ := e
  simp only [draft, required, pure_bind]
  cases bf <;> cases er <;> rfl

end LogEntry

namespace History

open JsonRead LogEntry

/-! ## The stored log -/

theorem encode_toList (h : History) :
    h.encode.toList =
      '[' :: joinText true ((h.entries.map fun e => (e.toJson.compact.toList, e)).map (·.1)) ++ [']'] := by
  simp only [encode, Json.compact_arr, List.map_map]
  rfl

theorem length_encode (h : History) : h.entries.length + 2 ≤ h.encode.length := by
  have hne : ∀ t ∈ (h.entries.map fun e => (e.toJson.compact.toList, e)).map (·.1), t ≠ [] := by
    intro t ht
    obtain ⟨e, -, rfl⟩ := List.mem_map.1 (by simpa using ht)
    rw [toJson_compact]
    simp
  have hjoin := length_le_length_joinText hne true
  rw [← String.length_toList, encode_toList]
  simp only [List.length_map, List.length_cons, List.length_append] at hjoin ⊢
  omega

/-- The stored form of a log of storable entries reads back to its entries. -/
theorem read_encode (h : History) (hs : ∀ e ∈ h.entries, e.Storable) :
    run (list Codec.logEntry) h.encode = .ok h.entries := by
  have hlen := length_encode h
  refine run_of_reads (d := 3) (b := 2 * h.encode.length + 4) ?_ (by omega) le_rfl
  rw [encode_toList]
  have hitems : ∀ p ∈ h.entries.map fun e => (e.toJson.compact.toList, e),
      Reads JsonScan.Closes 2 (2 * h.encode.length + 4) Codec.logEntry p.1 p.2 ∧ StartsItem p.1 := by
    intro p hp
    obtain ⟨e, he, rfl⟩ := List.mem_map.1 hp
    have hpos := List.length_pos_of_mem he
    refine ⟨reads_toJson (hs e he) le_rfl (by omega), ?_⟩
    rw [toJson_compact]
    exact ⟨'{', _, rfl, by simp [IsBlank], by decide, by decide, by decide⟩
  have hvals : (h.entries.map fun e => (e.toJson.compact.toList, e)).map (·.2) = h.entries := by
    rw [List.map_map]
    exact List.map_id _
  have hl := Reads.list (F := (· = [])) (by omega) hitems (by rw [List.length_map]; omega)
  rwa [hvals] at hl

/-! ## The ring -/

theorem rtake_append_rtake {α : Type} (xs ys : List α) (n : Nat) :
    (xs.rtake n ++ ys).rtake n = (xs ++ ys).rtake n := by
  simp only [List.rtake_eq_reverse_take_reverse, List.reverse_append, List.reverse_reverse,
    List.take_append, List.take_take]
  rw [Nat.min_eq_left (Nat.sub_le n _)]

theorem rtake_of_length_le {α : Type} {xs : List α} {n : Nat} (h : xs.length ≤ n) : xs.rtake n = xs := by
  simp [List.rtake, Nat.sub_eq_zero_of_le h]

theorem length_rtake_le {α : Type} (xs : List α) (n : Nat) : (xs.rtake n).length ≤ n := by
  simp only [List.rtake, List.length_drop]
  omega

theorem getLast?_rtake {α : Type} (xs : List α) {n : Nat} (hn : 0 < n) : (xs.rtake n).getLast? = xs.getLast? := by
  rw [List.rtake, List.getLast?_drop]
  split_ifs with h
  · have : xs = [] := List.eq_nil_of_length_eq_zero (by omega)
    simp [this]
  · rfl

theorem push_entries (h : History) (e : LogEntry) : (h.push e).entries = (h.entries ++ [e]).rtake h.limit := rfl

theorem push_limit (h : History) (e : LogEntry) : (h.push e).limit = h.limit := rfl

/-- Pushing entries one by one onto a log that holds no more than its limit keeps the last
`limit` of all of them, in order. -/
theorem foldl_push (es : List LogEntry) (h : History) (hh : h.entries.length ≤ h.limit) :
    es.foldl push h = { h with entries := (h.entries ++ es).rtake h.limit } := by
  induction es generalizing h with
  | nil => simp [rtake_of_length_le hh]
  | cons e es ih =>
    rw [List.foldl_cons, ih (h.push e) (length_rtake_le _ _), push_entries, push_limit, rtake_append_rtake,
      List.append_assoc, List.singleton_append]

theorem foldl_push_empty (es : List LogEntry) (l : Nat) :
    es.foldl push (empty l) = { entries := es.rtake (max l 1), limit := max l 1 } := by
  rw [foldl_push es (empty l) (by simp [empty])]
  rfl

/-! ## Loading -/

theorem load_none (l : Nat) : load l none = empty l := rfl

theorem load_unreadable (l : Nat) {s : String} (hs : ∀ es, run (list Codec.logEntry) s ≠ .ok es) :
    load l (some s) = empty l := by
  unfold load
  cases hr : run (list Codec.logEntry) s with
  | ok es => exact absurd hr (hs es)
  | error _ =>
    simp only [hr]
    rfl

/-- A stored log of storable entries loads, under any limit, as the last entries it holds. -/
theorem load_encode (h : History) (hs : ∀ e ∈ h.entries, e.Storable) (l : Nat) :
    load l (some h.encode) = { entries := h.entries.rtake (max l 1), limit := max l 1 } := by
  unfold load
  simp only [read_encode h hs]
  exact foldl_push_empty _ _

/-! ## Backups -/

theorem migrationBackups_eq (h : History) :
    h.migrationBackups =
      ((h.entries.filter fun e => e.success && e.operation == .migrate).filterMap (·.backupFilename)).reverse := by
  rw [migrationBackups, List.filterMap_reverse, List.filterMap_filter]

/-! ## Pushing, storing and loading -/

/-- A log of pushed runs is a ring of the newest ones, and it survives being stored: loading
its stored form keeps the newest the new limit allows (all of it under its own limit); a
log never stored, or stored as anything that does not read as a list of entries, loads
empty. The backups it offers are those of its successful migrations, newest first. -/
theorem ring_persist_load (l l' : Nat) (es : List LogEntry) (hs : ∀ e ∈ es, e.Storable) :
    let h := es.foldl push (empty l)
    h.entries = es.rtake (max l 1) ∧ h.last = es.getLast? ∧
      (load l' (some h.encode)).entries = h.entries.rtake (max l' 1) ∧
      load l (some h.encode) = h ∧ load l' none = empty l' ∧
      (∀ s, (∀ es', run (list Codec.logEntry) s ≠ .ok es') → load l' (some s) = empty l') ∧
      h.migrationBackups =
        (((es.rtake (max l 1)).filter fun e => e.success && e.operation == .migrate).filterMap
          (·.backupFilename)).reverse := by
  intro h
  have hh : h = { entries := es.rtake (max l 1), limit := max l 1 } := foldl_push_empty es l
  have hkept : ∀ e ∈ h.entries, e.Storable := by
    rw [hh]
    intro e he
    exact hs e (List.mem_of_mem_drop he)
  refine ⟨by rw [hh], ?_, by rw [load_encode h hkept], ?_, load_none l', fun s hs' => load_unreadable l' hs', ?_⟩
  · -- the newest entry is always kept
    rw [last, hh]
    exact getLast?_rtake es (by omega)
  · -- under its own limit nothing more is dropped
    rw [load_encode h hkept, hh]
    simp only [rtake_of_length_le (length_rtake_le es (max l 1))]
  · rw [migrationBackups_eq, hh]

/-- Three runs on a ring of two: the first falls out, the log reloads as it was under its own
limit and as its newest run under a limit of one, and only the kept migration offers its backup. -/
theorem ring_of_two_reloaded :
    let run1 : LogEntry := { timestamp := Instant.epoch, toVersion := 1, success := true, backupFilename := some "b1" }
    let run2 : LogEntry := { timestamp := Instant.epoch, toVersion := 2, success := true, backupFilename := some "b2" }
    let run3 : LogEntry :=
      { timestamp := Instant.epoch, toVersion := 1, success := true, backupFilename := some "b3", operation := .rollback }
    let h := [run1, run2, run3].foldl push (empty 2)
    (∀ e ∈ [run1, run2, run3], e.Storable) ∧ h.entries = [run2, run3] ∧ h.last = some run3 ∧
      (load 1 (some h.encode)).entries = [run3] ∧ load 2 (some h.encode) = h ∧ h.migrationBackups = ["b2"] := by
  intro run1 run2 run3 h
  have hepoch : Instant.epoch.Valid := ⟨by decide, by decide⟩
  have hs : ∀ e ∈ [run1, run2, run3], e.Storable := by
    intro e he
    simp only [List.mem_cons, List.not_mem_nil, or_false] at he
    rcases he with rfl | rfl | rfl <;> exact ⟨hepoch, by simp, by decide, by decide⟩
  obtain ⟨hring, hlast, hload, hsame, -, -, hbackups⟩ := ring_persist_load 2 1 [run1, run2, run3] hs
  refine ⟨hs, hring, hlast, ?_, hsame, ?_⟩
  · rw [hload, hring]
    rfl
  · rw [hbackups]
    rfl

end History

namespace Vault

variable {v : Vault} {m : MemoryBlobs}

/-- Logging a run on a store that takes writes leaves the log where a vault opened on the
same blobs, under any history limit, loads it back: the newest runs that limit allows. -/
theorem create_after_record (hm : v.blobs = .memory m) (hp : m.failPuts = false)
    (hv : Blob.validKey v.config.historyKey = true) (e : LogEntry)
    (hs : ∀ x ∈ (v.history.push e).entries, x.Storable) (registry : Registry) (config : Config)
    (hk : config.historyKey = v.config.historyKey) :
    (create ((record e).run v).2.blobs registry config).history =
      { entries := (v.history.push e).entries.rtake (max config.historyLimit 1),
        limit := max config.historyLimit 1 } := by
  rw [record_memory hm hp hv e]
  simp only [create, Blobs.get_memory, MemoryBlobs.get_eq, hk, if_pos hv, MemoryBlobs.lookup_insertSorted, if_true]
  exact History.load_encode _ hs _

end Vault

end DocStore
