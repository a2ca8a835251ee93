import DocStore.Proofs.Store.Steps
import Mathlib.Tactic.Set
/-
  DocStore.Proofs.Migration.Rollback — restoring a backup, on a vault whose bytes are kept in
  memory and take writes.

  A rollback first restores every blob of the backup, then reloads the document. When the
  backup's document loads, it is the vault's document from then on, and the live blobs are the
  backup's but for the run log's key, which holds the vault's own log with the rollback
  appended. When it does not load, only the document's bytes from before are put back over the
  backup's, and they are loaded again: every other blob stays the backup's, and the cache holds
  the document from before if those bytes load.

  Proved:
  (1) `rollback_some_run`: the run of a rollback to a named backup, step by step; with a
      document key the store refuses, it fails at once (`rollback_unreadable`).
  (2) One lemma per outcome: an unknown backup (`rollback_unknown`), a backup whose document
      loads (`rollback_restored`), one whose document does not (`rollback_put_back`).
  (3) `rollback_none`: without a name, the backup `defaultBackup` picks is restored.
-/

namespace DocStore.Vault

variable {now : Instant} {v : Vault} {m : MemoryBlobs} {b : String}

/-- The version of the document in `bytes`, when they decode at `now`. -/
def decodedVersion (now : Instant) (bytes : Option String) : Option Nat :=
  bytes.bind fun s => match decode now s with
    | .ok d => some d.version
    | .error _ => none

/-- A rollback to the backup named `b`: it restores the backup's blobs and reloads, then logs
the restore, or puts the document's bytes back and loads them. -/
theorem rollback_some_run (now : Instant) (b : String) (hm : v.blobs = .memory m)
    (hdk : Blob.validKey v.config.documentKey = true) :
    let vp : Vault := { v with progress := v.progress.send ⟨.validating, 0, 1, "restoring " ++ b⟩ }
    let prev := m.blobs.lookup v.config.documentKey
    let pv := decodedVersion now prev
    (rollback now (some b)).run v = match m.backups.lookup b with
      | none => (failRollback now pv (some b) (.rollbackFailed ("backup '" ++ b ++ "' does not exist"))).run vp
      | some B =>
        match (load now).run.run { vp with blobs := .memory { m with blobs := B }, cache := none } with
        | (.ok D, w) =>
          (.restored ⟨b, pv, D.version, D⟩,
            { ((record (.ofRun now (pv, D.version) true (some b) none .rollback)).run w).2 with
              progress := w.progress.send ⟨.completed, 1, 1, "restored version " ++ toString D.version ++ " from " ++ b⟩ })
        | (.error e, w) =>
          (failRollback now pv (some b)
            (.rollbackFailed ("backup '" ++ b ++ "' failed validation: " ++ e.message))).run
            ((load now).run.run ((restoreRaw prev).run.run w).2).2 := by
  intro vp prev pv
  -- the snapshot is the document's bytes: reading them cannot fail
  have hraw : raw.run.run vp = (.ok prev, vp) := by
    rw [raw_memory (show vp.blobs = .memory m from hm), MemoryBlobs.get_eq, if_pos hdk]
  unfold Vault.rollback
  extract_lets restore
  dsimp -zeta only
  rw [state_bind, state_pure]
  dsimp -zeta only [restore]
  rw [state_bind, setProgress_run, state_bind, hraw]
  dsimp -zeta only
  rw [state_bind, state_pure]
  dsimp only
  rw [state_bind, onBlobs_run]
  dsimp only
  rw [hm, Blobs.restoreBackup_memory]
  simp only [MemoryBlobs.restoreBackup]
  cases hB : m.backups.lookup b with
  | none =>
    dsimp only
    rw [with_blobs_self (show vp.blobs = .memory m from hm)]
    rfl
  | some B =>
    dsimp only
    rw [state_bind, reload_run]
    -- both sides now go on from what the reload gives
    rcases (load now).run.run { vp with blobs := .memory { m with blobs := B }, cache := none } with ⟨e | D, w⟩
    · rfl
    · rfl

/-- With a document key the store refuses, the snapshot cannot be read, and a rollback fails
before it restores anything. -/
theorem rollback_unreadable (now : Instant) (b : String) (hm : v.blobs = .memory m)
    (hdk : Blob.validKey v.config.documentKey = false) :
    ∃ e, (rollback now (some b)).run v =
      (failRollback now none (some b) e).run { v with progress := v.progress.send ⟨.validating, 0, 1, "restoring " ++ b⟩ } := by
  have hraw : ∀ p, raw.run.run { v with progress := p } =
      (.error (.corruptedData ("failed to read document: " ++ (BlobError.invalidKey v.config.documentKey).message)),
        { v with progress := p }) := by
    intro p
    rw [raw_memory (show ({ v with progress := p } : Vault).blobs = .memory m from hm), MemoryBlobs.get_eq,
      if_neg (by simp [hdk])]
  unfold Vault.rollback
  extract_lets restore
  dsimp -zeta only
  rw [state_bind, state_pure]
  dsimp -zeta only [restore]
  rw [state_bind, setProgress_run, state_bind, hraw]
  exact ⟨_, rfl⟩

/-- An unknown backup: the rollback fails, and only the run log changes. -/
theorem rollback_unknown (hm : v.blobs = .memory m) (hdk : Blob.validKey v.config.documentKey = true)
    (hB : m.backups.lookup b = none) :
    let r := (rollback now (some b)).run v
    (∃ e, r.1 = .failure e) ∧ Kept v r.2 ∧ r.2.cache = v.cache := by
  have hr : (rollback now (some b)).run v =
      (failRollback now (decodedVersion now (m.blobs.lookup v.config.documentKey)) (some b)
        (.rollbackFailed ("backup '" ++ b ++ "' does not exist"))).run
        { v with progress := v.progress.send ⟨.validating, 0, 1, "restoring " ++ b⟩ } := by
    rw [rollback_some_run now b hm hdk, hB]
  intro r
  unfold r
  rw [hr]
  exact ⟨⟨_, rfl⟩, ((Kept.refl v).progress _).failRollback _ _ _, rfl⟩

section Writable

variable (hm : v.blobs = .memory m) (hp : m.failPuts = false) (hdk : Blob.validKey v.config.documentKey = true)
  {B : List (String × String)}
include hm hp hdk

/-- A backup whose document loads: it becomes the document, and the backup's blobs are live
but for the run log's, which holds the vault's log with the restore appended. -/
theorem rollback_restored (hhk : Blob.validKey v.config.historyKey = true)
    (hB : m.backups.lookup b = some B) {D : Document} (hD : loadable now (B.lookup v.config.documentKey) = some D) :
    let r := (rollback now (some b)).run v
    let pv := decodedVersion now (m.blobs.lookup v.config.documentKey)
    r.1 = .restored ⟨b, pv, D.version, D⟩ ∧ r.2.cache = some D ∧
      r.2.history = v.history.push (.ofRun now (pv, D.version) true (some b) none .rollback) ∧
      ∃ m', r.2.blobs = .memory m' ∧
        ∀ k, m'.blobs.lookup k = if k = v.config.historyKey then some r.2.history.encode else B.lookup k := by
  intro r pv
  set vb : Vault := { v with progress := v.progress.send ⟨.validating, 0, 1, "restoring " ++ b⟩,
                             blobs := .memory { m with blobs := B }, cache := none }
  have hmb : vb.blobs = .memory { m with blobs := B } := rfl
  have hl : (load now).run.run vb = (.ok D, { vb with cache := some D, published := some D }) :=
    load_loadable hmb rfl hdk hD
  have hmD : ({ vb with cache := some D, published := some D } : Vault).blobs = .memory { m with blobs := B } := rfl
  have hrec := record_memory hmD hp hhk (.ofRun now (pv, D.version) true (some b) none .rollback)
  unfold r
  rw [rollback_some_run now b hm hdk, hB]
  dsimp only
  rw [hl]
  dsimp only
  rw [hrec]
  exact ⟨rfl, rfl, rfl, _, rfl, fun k => MemoryBlobs.lookup_insertSorted _ _ _ _⟩

/-- A backup whose document does not load: the rollback fails, the document's bytes from before
are put back and loaded again, and every other blob but the run log's is the backup's. -/
theorem rollback_put_back (hB : m.backups.lookup b = some B) (hD : loadable now (B.lookup v.config.documentKey) = none) :
    let r := (rollback now (some b)).run v
    let key := v.config.documentKey
    let prev := m.blobs.lookup key
    (∃ e, r.1 = .failure e) ∧ r.2.cache = loadable now prev ∧
      ∃ m', r.2.blobs = .memory m' ∧
        ∀ k, k ≠ v.config.historyKey → m'.blobs.lookup k = if k = key then prev else B.lookup k := by
  intro r key prev
  set vb : Vault := { v with progress := v.progress.send ⟨.validating, 0, 1, "restoring " ++ b⟩,
                             blobs := .memory { m with blobs := B }, cache := none }
  have hmb : vb.blobs = .memory { m with blobs := B } := rfl
  obtain ⟨e, hl⟩ := load_unloadable hmb rfl hdk hD
  -- the document's bytes from before are put back over the backup's
  obtain ⟨m₂, hput, hlook⟩ := restoreRaw_memory hmb hp hdk prev
  set v₂ : Vault := { vb with blobs := .memory m₂, cache := none }
  have hm₂ : v₂.blobs = .memory m₂ := rfl
  unfold r
  rw [rollback_some_run now b hm hdk, hB]
  dsimp only
  rw [hl]
  dsimp only
  rw [hput]
  refine ⟨⟨_, rfl⟩, ?_, ?_⟩
  · -- logging keeps the cache, and the last load caches what the bytes put back load to
    show ((load now).run.run v₂).2.cache = _
    rw [load_cache hm₂ rfl hdk, hlook, if_pos rfl]
  · obtain ⟨m', hm', hk⟩ := ((kept_load hm₂).failRollback _ _ _).blobs m₂ hm₂
    exact ⟨m', hm', fun k hk' => (hk k hk').trans (hlook k)⟩

end Writable

/-! ## Without a name -/

theorem defaultBackup_memory (hm : v.blobs = .memory m) :
    defaultBackup.run.run v =
      (.ok ((v.history.migrationBackups.find? (m.listBackups.contains ·)).or m.listBackups.head?), v) := by
  unfold defaultBackup
  rw [op_bind_ok _ (op_liftM _ v), onBlobs_run, hm, Blobs.listBackups_memory]
  dsimp only
  rw [with_blobs_self hm, op_bind_ok _ (op_pure _ v), op_bind_ok _ (op_get v)]
  cases v.history.migrationBackups.find? (m.listBackups.contains ·) <;> rfl

/-- A rollback without a name is the rollback of the backup `defaultBackup` picks: the newest
one a successful migration recorded that the store still holds, else the newest there is. -/
theorem rollback_none (hm : v.blobs = .memory m) :
    (rollback now none).run v =
      match (v.history.migrationBackups.find? (m.listBackups.contains ·)).or m.listBackups.head? with
      | some n => (rollback now (some n)).run v
      | none => (failRollback now none none (.rollbackNotSupported "no backup has been recorded")).run v := by
  unfold rollback
  extract_lets restore
  dsimp -zeta only
  rw [state_bind, defaultBackup_memory hm]
  cases (v.history.migrationBackups.find? (m.listBackups.contains ·)).or m.listBackups.head? <;> rfl

/-! ## What a rollback does -/

/-- What rolling back does on a vault over a store in memory that takes writes. To a named
backup: an unknown one changes nothing but the run log; one whose document loads is restored
whole, the run log aside; one whose document does not load fails, and only the document's
bytes from before are put back over the backup's. Without a name: the backup `defaultBackup`
picks. -/
theorem rollback_restores_or_puts_back (now : Instant) (v : Vault) (m : MemoryBlobs) (hm : v.blobs = .memory m)
    (hp : m.failPuts = false) (hdk : Blob.validKey v.config.documentKey = true)
    (hhk : Blob.validKey v.config.historyKey = true) :
    let key := v.config.documentKey
    let prev := m.blobs.lookup key
    (∀ b, let r := (rollback now (some b)).run v
      (m.backups.lookup b = none → (∃ e, r.1 = .failure e) ∧ Kept v r.2 ∧ r.2.cache = v.cache) ∧
      ∀ B, m.backups.lookup b = some B →
        (∀ D, loadable now (B.lookup key) = some D →
          r.1 = .restored ⟨b, decodedVersion now prev, D.version, D⟩ ∧ r.2.cache = some D ∧
          r.2.history = v.history.push (.ofRun now (decodedVersion now prev, D.version) true (some b) none .rollback) ∧
          ∃ m', r.2.blobs = .memory m' ∧
            ∀ k, m'.blobs.lookup k = if k = v.config.historyKey then some r.2.history.encode else B.lookup k) ∧
        (loadable now (B.lookup key) = none →
          (∃ e, r.1 = .failure e) ∧ r.2.cache = loadable now prev ∧
          ∃ m', r.2.blobs = .memory m' ∧
            ∀ k, k ≠ v.config.historyKey → m'.blobs.lookup k = if k = key then prev else B.lookup k)) ∧
    (rollback now none).run v =
      match (v.history.migrationBackups.find? (m.listBackups.contains ·)).or m.listBackups.head? with
      | some n => (rollback now (some n)).run v
      | none => (failRollback now none none (.rollbackNotSupported "no backup has been recorded")).run v := by
  intro key prev
  refine ⟨fun b => ?_, rollback_none hm⟩
  intro r
  refine ⟨rollback_unknown hm hdk, fun B hB => ⟨fun D hD => ?_, rollback_put_back hm hp hdk hB⟩⟩
  exact rollback_restored hm hp hdk hhk hB hD

theorem rollback_unknown_backup_fresh :
    let v := Vault.create (.memory {}) {} {}
    let r := (rollback Instant.epoch (some "backup#1")).run v
    (∃ e, r.1 = .failure e) ∧ Kept v r.2 ∧ r.2.cache = v.cache :=
  ((rollback_restores_or_puts_back Instant.epoch _ {} rfl rfl (by decide +kernel) (by decide +kernel)).1
    "backup#1").1 rfl

/-- A failed rollback does not keep the blobs written since the backup: a blob beside the
document goes back to the backup's bytes when the backup's document does not load. -/
theorem failed_rollback_restores_other_blobs :
    let m : MemoryBlobs :=
      { blobs := [("extra", "two")], backups := [("backup#1", [("app_document", "not a document"), ("extra", "one")])] }
    let r := (rollback Instant.epoch (some "backup#1")).run (Vault.create (.memory m) {} {})
    m.blobs.lookup "extra" = some "two" ∧ (∃ e, r.1 = .failure e) ∧
      ∃ m', r.2.blobs = .memory m' ∧ m'.blobs.lookup "extra" = some "one" := by
  intro m r
  have hm : (Vault.create (.memory m) {} {}).blobs = .memory m := rfl
  have hB : m.backups.lookup "backup#1" = some [("app_document", "not a document"), ("extra", "one")] := rfl
  have hD : loadable Instant.epoch (some "not a document") = none := by decide
  obtain ⟨hfail, -, m', hm', hlook⟩ := rollback_put_back hm rfl (by decide +kernel) hB hD
  exact ⟨rfl, hfail, m', hm', by rw [hlook "extra" (by decide)]; rfl⟩

end DocStore.Vault
