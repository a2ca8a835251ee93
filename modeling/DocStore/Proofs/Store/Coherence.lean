import DocStore.Proofs.Migration.Rollback
import DocStore.Proofs.Migration.Run
import DocStore.Store.Lifecycle
/-
  DocStore.Proofs.Store.Coherence — what the cache and the observers of a vault may hold.

  A vault over a store in memory is coherent when a cached document passed validation and
  the bytes under the document key stand for it (they are its encoding, written by the
  save that cached it, or they decode to it, read back by the load that cached it), and
  when a document shown to observers passed validation. The two keys differ, so logging a
  run never writes the document's bytes.

  `Keeps x` says that `x`, run from a coherent vault, leaves a coherent one. It is closed
  under the monad's bind, pure, get and throw, so a step built of coherent steps is
  coherent; the lemmas below take each step of the store in turn, the primitives first
  (loading and saving are the only steps that cache or show a document, and each checks it
  first), then the runs built from them.

  Two steps write the document's bytes without caching what they wrote, and are coherent
  only as a whole: putting bytes back (`restoreRaw`) ends by forgetting the cache, and a
  rollback restores a backup's blobs only to reload at once (`keeps_rollback`).
-/

namespace DocStore

/-- Validation does not read the time a document was last written. -/
theorem Document.validate_stamp (d : Document) (t : Instant) :
    ({ d with lastModified := t } : Document).validate = d.validate := rfl

namespace Vault

variable {v w : Vault} {m : MemoryBlobs} {now : Instant}

/-! ## Coherent vaults -/

/-- The bytes stored under the document key, on a store in memory. -/
def docBytes (v : Vault) : Option String :=
  match v.blobs with
  | .memory m => m.blobs.lookup v.config.documentKey
  | .files _ => none

/-- The stored bytes `s` stand for `d`: they were written as its encoding, or read back as it. -/
def Holds (s : String) (d : Document) : Prop := s = d.encode ∨ ∃ t, Document.decode t s = .ok d

/-- What a vault over a store in memory may cache and show. -/
structure Coherent (v : Vault) : Prop where
  memory : ∃ m, v.blobs = .memory m
  keys : v.config.documentKey ≠ v.config.historyKey
  cache : ∀ d, v.cache = some d → d.validate.isValid = true ∧ ∃ s, v.docBytes = some s ∧ Holds s d
  published : ∀ d, v.published = some d → d.validate.isValid = true

/-- `w` shows what `v` shows: the same configuration, document bytes, cache and published
document, over a store in memory. -/
structure Quiet (v w : Vault) : Prop where
  config : w.config = v.config
  memory : ∀ m, v.blobs = .memory m → ∃ m', w.blobs = .memory m' ∧
    m'.blobs.lookup v.config.documentKey = m.blobs.lookup v.config.documentKey
  cache : w.cache = v.cache
  published : w.published = v.published

theorem Coherent.quiet (h : Coherent v) (q : Quiet v w) : Coherent w := by
  obtain ⟨m, hm⟩ := h.memory
  obtain ⟨m', hm', hl⟩ := q.memory m hm
  have hb : w.docBytes = v.docBytes := by
    simp only [docBytes, hm, hm', q.config, hl]
  refine ⟨⟨m', hm'⟩, q.config ▸ h.keys, fun d hd => ?_, fun d hd => h.published d (q.published ▸ hd)⟩
  rw [hb]
  exact h.cache d (q.cache ▸ hd)

theorem Quiet.of_eq (hc : w.config = v.config) (hb : w.blobs = v.blobs) (hd : w.cache = v.cache)
    (hp : w.published = v.published) : Quiet v w :=
  ⟨hc, fun m hm => ⟨m, hb.trans hm, rfl⟩, hd, hp⟩

/-! ## Steps that keep a vault coherent -/

/-- Run from a coherent vault, `x` leaves a coherent one. -/
def Keeps (x : StateM Vault α) : Prop := ∀ v, Coherent v → Coherent (x.run v).2

namespace Keeps

theorem pure (a : α) : Keeps (Pure.pure a : StateM Vault α) := fun _ h => h

theorem bind {x : StateM Vault α} {f : α → StateM Vault β} (hx : Keeps x) (hf : ∀ a, Keeps (f a)) :
    Keeps (x >>= f) := fun v h => hf _ _ (hx v h)

theorem get : Keeps (MonadState.get : StateM Vault Vault) := fun _ h => h

theorem of_quiet {x : StateM Vault α} (hq : ∀ v, Coherent v → Quiet v (x.run v).2) : Keeps x :=
  fun v h => h.quiet (hq v h)

theorem of_progressOnly {x : StateM Vault α} (hx : ProgressOnly x) : Keeps x := by
  refine of_quiet fun v _ => ?_
  obtain ⟨p, hp⟩ := hx v
  rw [hp]
  exact Quiet.of_eq rfl rfl rfl rfl

/-! A step that can fail keeps the vault coherent when its run does, on either outcome. -/

section Except

variable {ε : Type}

theorem except_pure (a : α) : Keeps (Pure.pure a : ExceptT ε (StateM Vault) α).run := fun _ h => h

theorem throw (e : ε) : Keeps (MonadExcept.throw e : ExceptT ε (StateM Vault) α).run := fun _ h => h

theorem except_get : Keeps (MonadState.get : ExceptT ε (StateM Vault) Vault).run := fun _ h => h

theorem lift {x : StateM Vault α} (hx : Keeps x) : Keeps (liftM x : ExceptT ε (StateM Vault) α).run := hx

theorem except_bind {x : ExceptT ε (StateM Vault) α} {f : α → ExceptT ε (StateM Vault) β} (hx : Keeps x.run)
    (hf : ∀ a, Keeps (f a).run) : Keeps (x >>= f).run := by
  rw [ExceptT.run_bind]
  refine bind hx fun r => ?_
  cases r with
  | error e => exact pure _
  | ok a => exact hf a

/-- A guard that fails with `e` when `c` holds, before going on with `k`. -/
theorem guard {c : Prop} [Decidable c] {e : ε} {k : Unit → ExceptT ε (StateM Vault) α} (hk : ∀ u, Keeps (k u).run) :
    Keeps (if c then MonadExcept.throw e >>= k else k ()).run := by
  split
  · exact (throw e).except_bind hk
  · exact hk ()

end Except

end Keeps

/-! ## The store's own steps -/

theorem keeps_load : Keeps (load now).run := by
  intro v h
  obtain ⟨m, hm⟩ := h.memory
  rcases load_state now hm with hl | ⟨-, d, s, hs, hd, hv, hl⟩
  · rw [hl]
    exact h
  · -- the document read back is cached and shown: it passed, and the bytes decode to it
    rw [hl]
    have hb : v.docBytes = some s := by
      simp only [docBytes, hm, hs]
    refine ⟨⟨m, hm⟩, h.keys, fun d' hd' => ?_, fun d' hd' => ?_⟩
    · cases hd'
      exact ⟨hv, s, hb, .inr ⟨now, decode_ok hd⟩⟩
    · cases hd'
      exact hv

theorem keeps_save (d : Document) : Keeps (save now d).run := by
  intro v h
  obtain ⟨m, hm⟩ := h.memory
  rw [save_memory hm]
  split
  · rename_i hv
    cases hput : m.put v.config.documentKey (Document.encode { d with lastModified := now }) with
    | error e => exact h
    | ok m' =>
      -- the stamped document is written, then cached and shown
      dsimp only
      have hv' : ({ d with lastModified := now } : Document).validate.isValid = true := by
        rw [Document.validate_stamp]
        exact hv
      have hl : m'.blobs.lookup v.config.documentKey = some (Document.encode { d with lastModified := now }) := by
        rw [MemoryBlobs.put_ok hput, MemoryBlobs.lookup_insertSorted, if_pos rfl]
      refine ⟨⟨m', rfl⟩, h.keys, fun d' hd' => ?_, fun d' hd' => ?_⟩
      · cases hd'
        exact ⟨hv', _, hl, .inl rfl⟩
      · cases hd'
        exact hv'
  · exact h

/-- Saving on a store in memory is all or nothing: a failed save changes neither the cache,
nor what observers see, nor the stored bytes; a successful one sets all three to the
restamped document. -/
theorem save_all_or_nothing (hm : v.blobs = .memory m) (d : Document) :
    (∀ e w, (save now d).run.run v = (.error e, w) →
      w.cache = v.cache ∧ w.published = v.published ∧ w.docBytes = v.docBytes) ∧
    (∀ d' w, (save now d).run.run v = (.ok d', w) →
      d' = { d with lastModified := now } ∧ w.cache = some d' ∧ w.published = some d' ∧
        w.docBytes = some d'.encode) := by
  rw [save_memory hm]
  split
  · cases hput : m.put v.config.documentKey (Document.encode { d with lastModified := now }) with
    | error e =>
      refine ⟨fun _ _ h => ?_, fun _ _ h => by cases h⟩
      cases h
      exact ⟨rfl, rfl, rfl⟩
    | ok m' =>
      refine ⟨(fun _ _ h => by cases h), fun _ _ h => ?_⟩
      cases h
      refine ⟨rfl, rfl, rfl, ?_⟩
      simp only [docBytes]
      rw [MemoryBlobs.put_ok hput, MemoryBlobs.lookup_insertSorted, if_pos rfl]
  · refine ⟨fun _ _ h => ?_, fun _ _ h => by cases h⟩
    cases h
    exact ⟨rfl, rfl, rfl⟩

/-- With nothing cached, a vault is coherent once the document it shows passed. -/
theorem Coherent.uncached (h : Coherent v) (hc : w.config = v.config) (hm : ∃ m, w.blobs = .memory m)
    (hcache : w.cache = none) (hp : ∀ d, w.published = some d → v.published = some d) : Coherent w :=
  ⟨hm, hc ▸ h.keys, fun d hd => by simp [hcache] at hd, fun d hd => h.published d (hp d hd)⟩

theorem keeps_readStored : Keeps (readStored now).run := by
  intro v h
  obtain ⟨m, hm⟩ := h.memory
  rw [readStored_memory now hm]
  exact h

theorem keeps_teardown : Keeps teardown := by
  intro v h
  exact h.uncached rfl h.memory rfl fun _ hd => by cases hd

/-- Putting bytes back leaves nothing cached, whether the write went through or not. -/
theorem restoreRaw_state (hm : v.blobs = .memory m) (bytes : Option String) :
    ∃ m', ((restoreRaw bytes).run.run v).2 = { v with blobs := .memory m', cache := none } := by
  rw [restoreRaw, op_bind_ok _ (op_get v)]
  cases bytes with
  | some b =>
    dsimp only
    rw [op_bind_ok _ (op_liftM _ v), onBlobs_run, hm, Blobs.put_memory]
    cases m.put v.config.documentKey b <;> exact ⟨_, rfl⟩
  | none =>
    dsimp only
    rw [op_bind_ok _ (op_liftM _ v), onBlobs_run, hm, Blobs.delete_memory]
    cases m.delete v.config.documentKey <;> exact ⟨_, rfl⟩

theorem keeps_restoreRaw (bytes : Option String) : Keeps (restoreRaw bytes).run := by
  intro v h
  obtain ⟨m, hm⟩ := h.memory
  obtain ⟨m', hm'⟩ := restoreRaw_state hm bytes
  rw [hm']
  exact h.uncached rfl ⟨m', rfl⟩ rfl fun _ hd => hd

/-- Logging a run writes the run log's key, never the document's. -/
theorem keeps_record (e : LogEntry) : Keeps (record e) := by
  refine Keeps.of_quiet fun v h => ⟨rfl, fun m hm => ?_, rfl, rfl⟩
  rw [record_run, hm, Blobs.put_memory]
  cases hput : m.put v.config.historyKey (History.encode (v.history.push e)) with
  | error => exact ⟨m, rfl, rfl⟩
  | ok m' =>
    refine ⟨m', rfl, ?_⟩
    rw [MemoryBlobs.put_ok hput, MemoryBlobs.lookup_insertSorted, if_neg h.keys]

theorem keeps_setProgress (s : RunState) (i n : Nat) (desc : String) : Keeps (setProgress s i n desc) :=
  Keeps.of_progressOnly (ProgressOnly.setProgress s i n desc)

theorem keeps_failRun (vs : Option Nat × Nat) (b : Option String) (e : StoreError) : Keeps (failRun now vs b e) :=
  (keeps_record _).bind fun _ => (keeps_setProgress _ _ _ _).bind fun _ => Keeps.pure _

theorem keeps_failRollback (src : Option Nat) (b : Option String) (e : StoreError) :
    Keeps (failRollback now src b e) :=
  (keeps_record _).bind fun _ => (keeps_setProgress _ _ _ _).bind fun _ => Keeps.pure _

/-- A backup copies the live blobs and changes none of them. -/
theorem keeps_createBackup : Keeps (onBlobs (Blobs.createBackup now)) := by
  refine Keeps.of_quiet fun v _ => ⟨rfl, fun m hm => ?_, rfl, rfl⟩
  rw [onBlobs_run, hm, Blobs.createBackup, Blobs.either_memory]
  cases hb : m.createBackup now with
  | error => exact ⟨m, rfl, rfl⟩
  | ok r =>
    obtain ⟨name, m'⟩ := r
    exact ⟨m', rfl, by rw [MemoryBlobs.createBackup_ok hb]⟩

theorem keeps_listBackups : Keeps listBackups.run := by
  intro v h
  obtain ⟨m, hm⟩ := h.memory
  unfold listBackups
  rw [op_bind_ok _ (op_liftM _ v), onBlobs_run, hm, Blobs.listBackups_memory]
  dsimp only
  rw [with_blobs_self hm]
  exact h

theorem keeps_reloadHistory : Keeps reloadHistory := by
  refine Keeps.of_quiet fun v h => ?_
  obtain ⟨m, hm⟩ := h.memory
  unfold reloadHistory
  rw [state_bind, state_get, state_bind, onBlobs_run, hm, Blobs.get_memory]
  exact ⟨rfl, fun m' hm' => ⟨m, rfl, by rw [hm] at hm'; cases hm'; rfl⟩, rfl, rfl⟩

/-! ## Runs, rollbacks and the lifecycle -/

theorem keeps_applyPath (path : List Migration) (d : Document) : Keeps (applyPath path d) := by
  rw [applyPath_eq]
  exact Keeps.of_progressOnly (applyFrom_progressOnly _ _ _)

/-- A migration run writes the document only through `save`. -/
theorem keeps_run (d : Document) (opts : RunOptions) : Keeps (run now d opts) := by
  unfold Vault.run
  extract_lets source versions finish verdict
  have hfinish : Keeps (finish ()) := by
    dsimp -zeta only [finish]
    split
    · exact (keeps_setProgress _ _ _ _).bind fun _ => Keeps.pure _
    · refine Keeps.get.bind fun v' => ?_
      extract_lets path afterBackup
      have hafter : ∀ b, Keeps (afterBackup b) := by
        intro b
        dsimp -zeta only [afterBackup]
        refine (keeps_applyPath _ _).bind fun r => ?_
        cases r with
        | error e => exact keeps_failRun _ _ _
        | ok dn =>
          dsimp only
          refine (keeps_setProgress _ _ _ _).bind fun _ => ?_
          split
          · exact keeps_failRun _ _ _
          · refine (keeps_save dn).bind fun r => ?_
            cases r with
            | error e => exact keeps_failRun _ _ _
            | ok saved => exact (keeps_record _).bind fun _ => (keeps_setProgress _ _ _ _).bind fun _ => Keeps.pure _
      split
      · exact keeps_failRun _ _ _
      · split
        · refine (keeps_setProgress _ _ _ _).bind fun _ => keeps_createBackup.bind fun r => ?_
          cases r <;> exact hafter _
        · exact hafter _
  split
  · refine (keeps_setProgress _ _ _ _).bind fun _ => ?_
    split
    · exact keeps_failRun _ _ _
    · exact hfinish
  · exact hfinish

theorem keeps_migrate (opts : RunOptions) : Keeps (migrate now opts) := by
  unfold migrate
  refine keeps_load.bind fun r => ?_
  cases r with
  | error e => exact keeps_failRun _ _ _
  | ok d => exact keeps_run d opts

/-- A rollback restores the backup's blobs only to reload at once: whatever it caches after
that was read back from the store. -/
theorem keeps_rollback (backup : Option String) : Keeps (rollback now backup) := by
  -- a named backup first, from any coherent vault
  have hsome : ∀ b, Keeps (rollback now (some b)) := by
    intro b v h
    obtain ⟨m, hm⟩ := h.memory
    have hp : Coherent { v with progress := v.progress.send ⟨.validating, 0, 1, "restoring " ++ b⟩ } :=
      h.quiet (Quiet.of_eq rfl rfl rfl rfl)
    cases hdk : Blob.validKey v.config.documentKey with
    | false =>
      obtain ⟨e, he⟩ := rollback_unreadable now b hm hdk
      rw [he]
      exact keeps_failRollback _ _ _ _ hp
    | true =>
      rw [rollback_some_run now b hm hdk]
      cases hB : m.backups.lookup b with
      | none => exact keeps_failRollback _ _ _ _ hp
      | some B =>
        dsimp only
        -- the backup's blobs are live, and nothing is cached until they load
        have hr : Coherent { v with progress := v.progress.send ⟨.validating, 0, 1, "restoring " ++ b⟩,
                                    blobs := .memory { m with blobs := B }, cache := none } :=
          h.uncached rfl ⟨_, rfl⟩ rfl fun _ hd => hd
        have hl := (keeps_load : Keeps (load now).run) _ hr
        split
        · rename_i D w heq
          rw [heq] at hl
          exact keeps_setProgress _ _ _ _ _ (keeps_record _ _ hl)
        · rename_i e w heq
          rw [heq] at hl
          exact keeps_failRollback _ _ _ _ (keeps_load _ (keeps_restoreRaw _ _ hl))
  cases backup with
  | some b => exact hsome b
  | none =>
    intro v h
    obtain ⟨m, hm⟩ := h.memory
    rw [rollback_none hm]
    split
    · exact hsome _ v h
    · exact keeps_failRollback _ _ _ _ h

theorem keeps_start : Keeps (start now).run := by
  unfold start
  refine Keeps.except_bind (Keeps.lift keeps_reloadHistory) fun _ => ?_
  refine Keeps.except_bind Keeps.except_get fun v' => ?_
  extract_lets latest finish
  -- once the document to start from is settled
  have hfinish : ∀ d, Keeps (finish d).run := by
    intro d
    dsimp -zeta only [finish]
    extract_lets afterCheck
    have hafter : ∀ u, Keeps (afterCheck u).run := by
      intro u
      dsimp -zeta only [afterCheck]
      split
      · exact keeps_load
      · refine Keeps.except_bind Keeps.except_get fun v'' => ?_
        refine Keeps.except_bind (Keeps.lift (keeps_run _ _)) fun o => ?_
        cases o with
        | success r => exact Keeps.except_pure _
        | skipped s => exact keeps_load
        | failure e => exact Keeps.throw _
    exact Keeps.guard hafter
  refine Keeps.except_bind keeps_readStored fun stored => ?_
  cases stored with
  | some d => exact Keeps.except_bind (Keeps.except_pure _) hfinish
  | none => exact Keeps.except_bind (keeps_save _) hfinish

theorem keeps_validateCurrent : Keeps (validateCurrent now).run := by
  unfold validateCurrent
  refine Keeps.except_bind Keeps.except_get fun v' => ?_
  extract_lets finish
  split
  · exact Keeps.except_bind (Keeps.except_pure _) fun _ => Keeps.except_pure _
  · refine Keeps.except_bind keeps_readStored fun stored => ?_
    cases stored with
    | some d => exact Keeps.except_bind (Keeps.except_pure _) fun _ => Keeps.except_pure _
    | none => exact Keeps.except_bind (Keeps.throw _) fun _ => Keeps.except_pure _

theorem keeps_exportText : Keeps (exportText now).run :=
  Keeps.except_bind keeps_load fun _ => Keeps.except_pure _

theorem keeps_importText (json : String) : Keeps (importText now json).run := by
  unfold importText
  split
  · exact keeps_save _
  · exact Keeps.throw _

theorem keeps_importChecked (json : String) : Keeps (importChecked now json).run := by
  unfold importChecked
  extract_lets replace check
  -- once the version is read, only the check against the latest version is left
  have hcheck : ∀ n, Keeps (check n).run := by
    intro n
    dsimp -zeta only [check]
    refine Keeps.except_bind Keeps.except_get fun _ => ?_
    extract_lets latest
    exact Keeps.guard fun _ => keeps_importText json
  split
  · exact Keeps.except_bind (Keeps.except_pure _) hcheck
  · exact Keeps.except_bind (Keeps.throw _) hcheck

theorem keeps_planFor (target : Option Nat) : Keeps (planFor now target).run :=
  Keeps.except_bind keeps_load fun _ => Keeps.except_bind Keeps.except_get fun _ => Keeps.except_pure _

theorem keeps_migrateToVersion (target : Nat) : Keeps (migrateToVersion now target) :=
  Keeps.get.bind fun _ => keeps_migrate _

theorem keeps_migrateToLatest : Keeps (migrateToLatest now) :=
  Keeps.get.bind fun _ => keeps_migrateToVersion _

end Vault

end DocStore
