import DocStore.Migration.Coordinator
/-
  DocStore.Proofs.Store.Steps — what each step of a vault does when its bytes are kept in
  memory.

  (1) Running a step. A vault step may fail and keeps what it did before failing;
  `op_bind_ok` and `op_bind_error` run a bind once its first part has been run, so every
  step below is evaluated by rewriting with the lemma of the step it starts with.

  (2) One lemma per step: the stored bytes, loading (cached or not), saving, logging a
  run and taking a backup, each saying what it answers and what it leaves of the vault.
  Saving is all or nothing: refused or failed, it leaves the vault as it was.

  (3) Frames. `Kept v w` says that `w` holds what a failed run has to keep of `v`: the
  configuration, every blob but the run log's, and the cached document if there was
  one. Logging, backing up, loading and failing a run all keep it.
-/

namespace DocStore

/-! ## Byte stores in memory -/

namespace MemoryBlobs

variable {m m' : MemoryBlobs}

/-- Inserting into the key-ordered list answers the new value for its key and the old
answer for every other key, sorted or not. -/
theorem lookup_insertSorted (k v k' : String) (l : List (String × String)) :
    (insertSorted k v l).lookup k' = if k' = k then some v else l.lookup k' := by
  induction l with
  | nil => by_cases h : k' = k <;> simp [insertSorted, h]
  | cons e rest ih =>
    obtain ⟨k₀, v₀⟩ := e
    unfold insertSorted
    by_cases h₀ : k = k₀
    · -- the entry of `k` is replaced in place
      subst h₀
      by_cases h : k' = k
      · simp [h]
      · simp [List.lookup_cons, h, beq_eq_false_iff_ne.mpr h]
    · by_cases hlt : k < k₀
      · by_cases h : k' = k
        · simp [h₀, hlt, h]
        · simp [List.lookup_cons, h₀, hlt, h, beq_eq_false_iff_ne.mpr h]
      · by_cases h : k' = k₀
        · subst h
          simp [List.lookup_cons, h₀, hlt, Ne.symm h₀]
        · simp [List.lookup_cons, h₀, hlt, ih, beq_eq_false_iff_ne.mpr h]

theorem put_eq (m : MemoryBlobs) (key value : String) :
    m.put key value =
      if Blob.validKey key then
        if m.failPuts then .error (.io key "injected write failure")
        else .ok { m with blobs := insertSorted key value m.blobs }
      else .error (.invalidKey key) := by
  unfold put Blob.checkKey
  by_cases hk : Blob.validKey key <;> by_cases hf : m.failPuts <;> simp [hk, hf] <;> rfl

theorem put_ok (h : m.put key value = .ok m') :
    m' = { m with blobs := insertSorted key value m.blobs } := by
  rw [put_eq] at h
  split at h
  · split at h
    · cases h
    · cases h
      rfl
  · cases h

theorem get_eq (m : MemoryBlobs) (key : String) :
    m.get key = if Blob.validKey key then .ok (m.blobs.lookup key) else .error (.invalidKey key) := by
  unfold get Blob.checkKey
  by_cases hk : Blob.validKey key <;> simp [hk] <;> rfl

/-- What a read returns is what the blobs hold under the key. -/
theorem lookup_of_get {b : Option String} (h : m.get key = .ok b) : m.blobs.lookup key = b := by
  rw [get_eq] at h
  split at h
  · cases h
    rfl
  · cases h

theorem delete_eq (m : MemoryBlobs) (key : String) :
    m.delete key =
      if Blob.validKey key then .ok { m with blobs := m.blobs.filter (·.1 != key) } else .error (.invalidKey key) := by
  unfold delete Blob.checkKey
  by_cases hk : Blob.validKey key <;> simp [hk] <;> rfl

theorem lookup_filter_ne (key k : String) (l : List (String × String)) :
    (l.filter (·.1 != key)).lookup k = if k = key then none else l.lookup k := by
  induction l with
  | nil => simp
  | cons e rest ih =>
    obtain ⟨k₀, v₀⟩ := e
    by_cases h₀ : k₀ = key
    · subst h₀
      by_cases h : k = k₀
      · subst h
        simp [ih]
      · simp [ih, h, List.lookup_cons, beq_eq_false_iff_ne.mpr h]
    · by_cases h : k = k₀
      · subst h
        simp [h₀, List.lookup_cons]
      · simp [h₀, ih, List.lookup_cons, beq_eq_false_iff_ne.mpr h]

/-- Taking a backup copies the blobs and leaves them as they were. -/
theorem createBackup_ok (h : m.createBackup now = .ok (name, m')) : m'.blobs = m.blobs := by
  unfold createBackup at h
  by_cases hf : m.failBackups
  · simp [hf, bind, Except.bind, throw, throwThe, MonadExceptOf.throw] at h
  · by_cases he : m.blobs.isEmpty
    · simp [hf, he, pure, Except.pure] at h
      rw [← h.2]
    · simp [hf, he, pure, Except.pure] at h
      rw [← h.2]

end MemoryBlobs

namespace Blobs

variable (m : MemoryBlobs)

theorem either_memory (mem : MemoryBlobs → Except BlobError (α × MemoryBlobs)) (file : FileOp α) :
    (either mem file).run.run (.memory m) = match mem m with
      | .ok (a, m') => (.ok a, .memory m')
      | .error e => (.error e, .memory m) := rfl

theorem get_memory (key : String) : (get key).run.run (.memory m) = (m.get key, .memory m) := by
  rw [get, either_memory]
  cases m.get key <;> rfl

theorem put_memory (key value : String) :
    (put key value).run.run (.memory m) = match m.put key value with
      | .ok m' => (.ok (), .memory m')
      | .error e => (.error e, .memory m) := by
  rw [put, either_memory]
  cases m.put key value <;> rfl

theorem delete_memory (key : String) :
    (delete key).run.run (.memory m) = match m.delete key with
      | .ok m' => (.ok (), .memory m')
      | .error e => (.error e, .memory m) := by
  rw [delete, either_memory]
  cases m.delete key <;> rfl

theorem restoreBackup_memory (name : String) :
    (restoreBackup name).run.run (.memory m) = (.ok (m.restoreBackup name).1, .memory (m.restoreBackup name).2) :=
  rfl

theorem listBackups_memory : listBackups.run.run (.memory m) = (.ok m.listBackups, .memory m) := rfl

end Blobs

/-! ## Running vault steps -/

namespace Vault

variable {now : Instant} {v w : Vault} {m : MemoryBlobs}

theorem op_bind_ok (f : α → VaultOp β) (h : x.run.run v = (.ok a, w)) :
    (x >>= f).run.run v = (f a).run.run w := by
  simp only [ExceptT.run_bind, StateT.run_bind, h]
  rfl

theorem op_bind_error (f : α → VaultOp β) (h : x.run.run v = (.error e, w)) :
    (x >>= f).run.run v = (.error e, w) := by
  simp only [ExceptT.run_bind, StateT.run_bind, h]
  rfl

theorem op_get (v : Vault) : (get : VaultOp Vault).run.run v = (.ok v, v) := rfl

theorem op_pure (a : α) (v : Vault) : (pure a : VaultOp α).run.run v = (.ok a, v) := rfl

theorem op_liftM (x : StateM Vault α) (v : Vault) :
    (liftM x : VaultOp α).run.run v = (.ok (x.run v).1, (x.run v).2) := rfl

theorem state_bind (x : StateM Vault α) (f : α → StateM Vault β) (v : Vault) :
    (x >>= f).run v = (f (x.run v).1).run (x.run v).2 := rfl

theorem state_get (v : Vault) : (get : StateM Vault Vault).run v = (v, v) := rfl

theorem state_pure (a : α) (v : Vault) : (pure a : StateM Vault α).run v = (a, v) := rfl

theorem onBlobs_run (op : BlobOp α) (v : Vault) :
    (onBlobs op).run v = ((op.run.run v.blobs).1, { v with blobs := (op.run.run v.blobs).2 }) := rfl

theorem with_blobs_self (h : v.blobs = b) : { v with blobs := b } = v := by
  subst h
  rfl

theorem raw_memory (hm : v.blobs = .memory m) :
    raw.run.run v = (match m.get v.config.documentKey with
      | .ok bytes => .ok bytes
      | .error e => .error (.corruptedData ("failed to read document: " ++ e.message)), v) := by
  rw [raw, op_bind_ok _ (op_get v), op_bind_ok _ (op_liftM _ v), onBlobs_run, hm, Blobs.get_memory,
    with_blobs_self hm]
  cases m.get v.config.documentKey <;> rfl

theorem readStored_memory (now : Instant) (hm : v.blobs = .memory m) :
    (readStored now).run.run v = (match m.get v.config.documentKey with
      | .error e => .error (.corruptedData ("failed to read document: " ++ e.message))
      | .ok none => .ok none
      | .ok (some bytes) => (decode now bytes).map some, v) := by
  have hraw := raw_memory hm
  rw [readStored]
  cases hg : m.get v.config.documentKey with
  | error e =>
    rw [hg] at hraw
    rw [op_bind_error _ hraw]
  | ok bytes =>
    rw [hg] at hraw
    rw [op_bind_ok _ hraw]
    cases bytes with
    | none => rfl
    | some b =>
      simp only
      cases decode now b <;> rfl

theorem load_cached (d : Document) (h : v.cache = some d) : (load now).run.run v = (.ok d, v) := by
  rw [load, op_bind_ok _ (op_get v), h]
  rfl

theorem load_memory (hm : v.blobs = .memory m) (hc : v.cache = none) :
    (load now).run.run v = match m.get v.config.documentKey with
      | .error e => (.error (.corruptedData ("failed to read document: " ++ e.message)), v)
      | .ok none => (.error (.initialization
          ("no document stored under '" ++ v.config.documentKey ++ "'; initialize the store first")), v)
      | .ok (some bytes) => match decode now bytes with
        | .error e => (.error e, v)
        | .ok d =>
          if d.validate.isValid then (.ok d, { v with cache := some d, published := some d })
          else (.error (.validationFailure d.validate.issues), v) := by
  have hread := readStored_memory now hm
  rw [load, op_bind_ok _ (op_get v), hc]
  simp only
  rw [op_bind_ok _ (op_get v)]
  cases hg : m.get v.config.documentKey with
  | error e =>
    rw [hg] at hread
    rw [op_bind_error _ hread]
  | ok bytes =>
    rw [hg] at hread
    cases bytes with
    | none =>
      rw [op_bind_ok _ hread]
      rfl
    | some b =>
      cases hd : decode now b with
      | error e =>
        simp only [hd, Except.map] at hread ⊢
        rw [op_bind_error _ hread]
      | ok d =>
        simp only [hd, Except.map] at hread ⊢
        rw [op_bind_ok _ hread]
        by_cases hv : d.validate.isValid <;> simp [hv] <;> rfl

theorem save_memory (hm : v.blobs = .memory m) (d : Document) :
    (save now d).run.run v =
      if d.validate.isValid then
        match m.put v.config.documentKey (Document.encode { d with lastModified := now }) with
        | .ok m' => (.ok { d with lastModified := now },
            { v with
              blobs := .memory m'
              cache := some { d with lastModified := now }
              published := some { d with lastModified := now } })
        | .error e => (.error (.saveFailed e.message), v)
      else (.error (.validationFailure d.validate.issues), v) := by
  rw [save]
  by_cases hv : d.validate.isValid
  · simp only [hv, Bool.not_true, Bool.false_eq_true, if_false, if_true]
    rw [op_bind_ok _ (op_get v), op_bind_ok _ (op_liftM _ v), onBlobs_run, hm, Blobs.put_memory]
    cases m.put v.config.documentKey (Document.encode { d with lastModified := now }) with
    | ok m' => rfl
    | error e =>
      simp only
      rw [with_blobs_self hm]
      rfl
  · simp only [hv, Bool.not_false, if_true]
    exact op_bind_error _ rfl

theorem setProgress_run (v : Vault) :
    (setProgress s i n desc).run v = ((), { v with progress := v.progress.send ⟨s, i, n, desc⟩ }) := rfl

theorem record_run (e : LogEntry) (v : Vault) :
    (record e).run v =
      ((), { v with
        history := v.history.push e
        blobs := ((Blobs.put v.config.historyKey (History.encode (v.history.push e))).run.run v.blobs).2 }) := rfl

theorem failRun_run (vs : Option Nat × Nat) (b : Option String) (e : StoreError) (v : Vault) :
    (failRun now vs b e).run v =
      (.failure e, { ((record (.ofRun now vs false b (some e.message) .migrate)).run v).2 with
        progress := v.progress.send ⟨.failed, 0, 0, e.userMessage⟩ }) := rfl

theorem failRollback_run (src : Option Nat) (b : Option String) (e : StoreError) (v : Vault) :
    (failRollback now src b e).run v =
      (.failure e, { ((record (.ofRun now (src, src.getD 0) false b (some e.message) .rollback)).run v).2 with
        progress := v.progress.send ⟨.failed, 0, 0, e.userMessage⟩ }) := rfl

/-! ## What a failed run keeps -/

/-- `w` keeps what a failed run has to keep of `v`: the configuration, every blob but the
run log's, and the cached document if there was one. -/
structure Kept (v w : Vault) : Prop where
  config : w.config = v.config
  blobs : ∀ m, v.blobs = .memory m → ∃ m', w.blobs = .memory m' ∧
    ∀ k, k ≠ v.config.historyKey → m'.blobs.lookup k = m.blobs.lookup k
  cache : v.cache.isSome → w.cache = v.cache

theorem Kept.refl (v : Vault) : Kept v v :=
  ⟨rfl, fun m hm => ⟨m, hm, fun _ _ => rfl⟩, fun _ => rfl⟩

theorem Kept.trans {u : Vault} (h₁ : Kept u v) (h₂ : Kept v w) : Kept u w := by
  refine ⟨h₂.config.trans h₁.config, ?_, ?_⟩
  · intro m hm
    obtain ⟨m₁, hm₁, hk₁⟩ := h₁.blobs m hm
    obtain ⟨m₂, hm₂, hk₂⟩ := h₂.blobs m₁ hm₁
    refine ⟨m₂, hm₂, fun k hk => ?_⟩
    rw [hk₂ k (h₁.config ▸ hk), hk₁ k hk]
  · intro hc
    have h₁c := h₁.cache hc
    rw [h₂.cache (by rw [h₁c]; exact hc), h₁c]

/-- A step that touches neither the configuration, the blobs nor the cache keeps everything. -/
theorem Kept.of_eq (hc : w.config = v.config) (hb : w.blobs = v.blobs) (hd : w.cache = v.cache) : Kept v w :=
  ⟨hc, fun m hm => ⟨m, hb.trans hm, fun _ _ => rfl⟩, fun _ => hd⟩

/-- Over a vault with nothing cached, the cache may change freely. -/
theorem Kept.of_uncached (hc : v.cache = none) (hcfg : w.config = v.config) (hb : w.blobs = v.blobs) : Kept v w :=
  ⟨hcfg, fun m hm => ⟨m, hb.trans hm, fun _ _ => rfl⟩, fun h => by simp [hc] at h⟩

theorem Kept.progress (h : Kept v w) (p : ProgressChannel) : Kept v { w with progress := p } :=
  h.trans (Kept.of_eq rfl rfl rfl)

/-- Logging a run writes the run log's key and no other. -/
theorem Kept.record (h : Kept v w) (e : LogEntry) : Kept v ((record e).run w).2 := by
  refine h.trans ⟨rfl, fun mw hmw => ?_, fun _ => rfl⟩
  rw [record_run, hmw, Blobs.put_memory]
  cases hput : mw.put w.config.historyKey (History.encode (w.history.push e)) with
  | error => exact ⟨mw, rfl, fun _ _ => rfl⟩
  | ok m' =>
    refine ⟨m', rfl, fun k hk => ?_⟩
    rw [MemoryBlobs.put_ok hput, MemoryBlobs.lookup_insertSorted, if_neg hk]

theorem Kept.failRun (h : Kept v w) (vs : Option Nat × Nat) (b : Option String) (e : StoreError) :
    Kept v ((failRun now vs b e).run w).2 := by
  rw [failRun_run]
  exact (h.record _).progress _

theorem Kept.failRollback (h : Kept v w) (src : Option Nat) (b : Option String) (e : StoreError) :
    Kept v ((failRollback now src b e).run w).2 := by
  rw [failRollback_run]
  exact (h.record _).progress _

theorem Kept.createBackup (h : Kept v w) (now : Instant) (hm : v.blobs = .memory m) :
    Kept v ((onBlobs (Blobs.createBackup now)).run w).2 := by
  obtain ⟨mw, hmw, -⟩ := h.blobs m hm
  refine h.trans ⟨rfl, fun m₀ hm₀ => ?_, fun _ => rfl⟩
  rw [hmw] at hm₀
  cases hm₀
  rw [onBlobs_run, hmw, Blobs.createBackup, Blobs.either_memory]
  cases hb : mw.createBackup now with
  | error => exact ⟨mw, rfl, fun _ _ => rfl⟩
  | ok r =>
    obtain ⟨name, m'⟩ := r
    exact ⟨m', rfl, fun k _ => by rw [MemoryBlobs.createBackup_ok hb]⟩

/-- Loading leaves the vault as it was, or, when nothing was cached, caches and publishes a
document that the stored bytes decode to and that passed validation. -/
theorem load_state (now : Instant) (hm : v.blobs = .memory m) :
    ((load now).run.run v).2 = v ∨
      v.cache = none ∧ ∃ d s, m.blobs.lookup v.config.documentKey = some s ∧ decode now s = .ok d ∧
        d.validate.isValid = true ∧ ((load now).run.run v).2 = { v with cache := some d, published := some d } := by
  cases hc : v.cache with
  | some d =>
    rw [load_cached d hc]
    exact .inl rfl
  | none =>
    rw [load_memory hm hc]
    rcases hg : m.get v.config.documentKey with e | _ | bytes
    · exact .inl rfl
    · exact .inl rfl
    · dsimp only
      cases hd : decode now bytes with
      | error e => exact .inl rfl
      | ok d =>
        dsimp only
        split
        · rename_i hv
          exact .inr ⟨rfl, d, bytes, MemoryBlobs.lookup_of_get hg, hd, hv, rfl⟩
        · exact .inl rfl

theorem kept_load (hm : v.blobs = .memory m) : Kept v ((load now).run.run v).2 := by
  rcases load_state now hm with h | ⟨hc, d, -, -, -, -, h⟩
  · rw [h]
    exact Kept.refl v
  · -- nothing was cached, so caching the loaded document keeps what a run must keep
    rw [h]
    exact Kept.of_uncached hc rfl rfl

/-- Loading changes nothing of a vault but its cache and what it publishes. -/
theorem load_keeps (now : Instant) (hm : v.blobs = .memory m) :
    let w := ((load now).run.run v).2
    w.config = v.config ∧ w.registry = v.registry ∧ w.blobs = v.blobs ∧ w.history = v.history := by
  rcases load_state now hm with hl | ⟨-, d, -, -, -, -, hl⟩ <;> rw [hl] <;> exact ⟨rfl, rfl, rfl, rfl⟩

/-! ## Loading, putting back and logging on a store that takes writes -/

/-- The document stored bytes hold once decoded at `now` and validated: what loading an
uncached document answers. -/
def loadable (now : Instant) : Option String → Option Document
  | some bytes => match decode now bytes with
    | .ok d => if d.validate.isValid then some d else none
    | .error _ => none
  | none => none

theorem load_loadable (hm : v.blobs = .memory m) (hc : v.cache = none)
    (hv : Blob.validKey v.config.documentKey = true) (h : loadable now (m.blobs.lookup v.config.documentKey) = some d) :
    (load now).run.run v = (.ok d, { v with cache := some d, published := some d }) := by
  rw [load_memory hm hc, MemoryBlobs.get_eq, if_pos hv]
  simp only [loadable] at h
  split at h
  · rename_i bytes hb
    simp only [hb]
    split at h
    · rename_i d' hd
      simp only [hd]
      split at h
      · rename_i hval
        cases h
        simp [hval]
      · cases h
    · cases h
  · cases h

theorem load_unloadable (hm : v.blobs = .memory m) (hc : v.cache = none)
    (hv : Blob.validKey v.config.documentKey = true) (h : loadable now (m.blobs.lookup v.config.documentKey) = none) :
    ∃ e, (load now).run.run v = (.error e, v) := by
  rw [load_memory hm hc, MemoryBlobs.get_eq, if_pos hv]
  simp only [loadable] at h
  split at h
  · rename_i bytes hb
    simp only [hb]
    split at h
    · rename_i d' hd
      simp only [hd]
      split at h
      · cases h
      · rename_i hval
        simp only [hval, Bool.false_eq_true, if_false]
        exact ⟨_, rfl⟩
    · rename_i e hd
      simp only [hd]
      exact ⟨_, rfl⟩
  · rename_i hb
    simp only [hb]
    exact ⟨_, rfl⟩

theorem decode_ok {s : String} (h : decode now s = .ok d) : Document.decode now s = .ok d := by
  unfold decode at h
  split at h
  · cases h
    assumption
  · cases h

/-- Loading a vault with nothing cached caches exactly what its document's bytes load to. -/
theorem load_cache (hm : v.blobs = .memory m) (hc : v.cache = none) (hv : Blob.validKey v.config.documentKey = true) :
    ((load now).run.run v).2.cache = loadable now (m.blobs.lookup v.config.documentKey) := by
  cases hd : loadable now (m.blobs.lookup v.config.documentKey) with
  | some d => rw [load_loadable hm hc hv hd]
  | none =>
    obtain ⟨e, he⟩ := load_unloadable hm hc hv hd
    rw [he]
    exact hc

theorem invalidate_run (v : Vault) : invalidate.run.run v = (.ok (), { v with cache := none }) := rfl

theorem reload_run (v : Vault) : (reload now).run.run v = (load now).run.run { v with cache := none } := by
  rw [reload, op_bind_ok _ (invalidate_run v)]

/-- Putting back bytes taken from the store sets the document's key to them (deletes it for
`none`) and forgets the cache. -/
theorem restoreRaw_memory (hm : v.blobs = .memory m) (hp : m.failPuts = false)
    (hv : Blob.validKey v.config.documentKey = true) (bytes : Option String) :
    ∃ m', (restoreRaw bytes).run.run v = (.ok (), { v with blobs := .memory m', cache := none }) ∧
      ∀ k, m'.blobs.lookup k = if k = v.config.documentKey then bytes else m.blobs.lookup k := by
  cases bytes with
  | some b =>
    refine ⟨{ m with blobs := MemoryBlobs.insertSorted v.config.documentKey b m.blobs }, ?_, fun k => ?_⟩
    · rw [restoreRaw, op_bind_ok _ (op_get v)]
      simp only
      rw [op_bind_ok _ (op_liftM _ v), onBlobs_run, hm, Blobs.put_memory, MemoryBlobs.put_eq, if_pos hv, hp]
      rfl
    · exact MemoryBlobs.lookup_insertSorted _ _ _ _
  | none =>
    refine ⟨{ m with blobs := m.blobs.filter (·.1 != v.config.documentKey) }, ?_, fun k => ?_⟩
    · rw [restoreRaw, op_bind_ok _ (op_get v)]
      simp only
      rw [op_bind_ok _ (op_liftM _ v), onBlobs_run, hm, Blobs.delete_memory, MemoryBlobs.delete_eq, if_pos hv]
      rfl
    · exact MemoryBlobs.lookup_filter_ne _ _ _

/-- Logging a run on a store that takes writes puts the new log under its key. -/
theorem record_memory (hm : v.blobs = .memory m) (hp : m.failPuts = false)
    (hv : Blob.validKey v.config.historyKey = true) (e : LogEntry) :
    (record e).run v =
      ((), { v with
        history := v.history.push e
        blobs := .memory
          { m with blobs := MemoryBlobs.insertSorted v.config.historyKey (History.encode (v.history.push e)) m.blobs } }) := by
  rw [record_run, hm, Blobs.put_memory, MemoryBlobs.put_eq, if_pos hv, hp]
  rfl

end Vault

end DocStore
