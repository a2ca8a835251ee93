import Mathlib
import DocStore.Proofs.Store.Coherence
import DocStore.Proofs.Validation.WellFormed
/-
  DocStore.Proofs.Store.Start — what starting a store does.

  A start reads the migration history back and then the stored document, creating and saving
  an empty one where there is none. It refuses a document newer than the latest version the
  migrations reach, loads one at that version and migrates an older one.

  Proved, for a store kept in memory that takes writes, with a valid document key:
  - `start_first` (`FirstStart`): from a vault with nothing cached, a start that succeeds ends
    at the latest version with a valid document it caches, whose bytes are the ones it was
    read from or its encoding; one that fails leaves the document's bytes as they were, or an
    empty document's where there were none; one that refuses a newer document, or only loads
    one at the latest version, writes nothing.
  - `start_again` (`Restart`): a second start writes nothing where the stored bytes do not
    read back, or read back at the latest version, and in the second case answers with the
    cached document.
  - `start_reaches_latest`: the two together, from a vault as a store is opened.
  - `restart_after_creation_stamp_unreadable`: the bytes a migration saved need not read
    back, since a metadata key `createdAt` is written twice.
  - `start_refuses_invalid_key`: a document key the store refuses fails a start before
    anything is created.
-/

namespace DocStore

theorem Roster.nil {ε : Type} (check : ε → Verdict) (id name : ε → String) (max : Nat) :
    Roster check id name max [] :=
  ⟨by simp, List.nodup_nil, List.nodup_nil, Nat.zero_le _⟩

/-- An empty document is well formed. -/
theorem Document.fresh_wellFormed (now : Instant) : (Document.fresh now).WellFormed :=
  ⟨le_refl _, Roster.nil _ _ _ _, Roster.nil _ _ _ _, Roster.nil _ _ _ _, by simp [Document.fresh],
    by simp [Document.fresh, Document.totalMessages], ⟨by simp [Document.fresh], by simp [Document.fresh],
      by simp [Document.fresh], by simp [Document.fresh]⟩⟩

namespace Vault

variable {v w : Vault} {m : MemoryBlobs} {now : Instant}

theorem reloadHistory_run (hm : v.blobs = .memory m) : ∃ h, reloadHistory.run v = ((), { v with history := h }) := by
  unfold reloadHistory
  rw [state_bind, state_get, state_bind, onBlobs_run, hm, Blobs.get_memory]
  exact ⟨_, by rw [← hm]; rfl⟩

/-- What no step of a start changes: the configuration and the migrations. -/
def setup (v : Vault) : Config × Registry := (v.config, v.registry)

theorem save_setup (d : Document) (v : Vault) : ((save now d).run.run v).2.setup = v.setup := by
  cases hd : d.validate.isValid
  · simp only [save, hd, Bool.not_false, if_true]
    rw [op_bind_error (x := throw _) _ rfl]
  · simp only [save, hd, Bool.not_true, Bool.false_eq_true, if_false]
    rw [op_bind_ok _ (op_get v), op_bind_ok _ (op_liftM _ v), onBlobs_run]
    -- the write changes the bytes only, whether it fails or not
    obtain ⟨r, b⟩ := (Blobs.put v.config.documentKey (Document.encode { d with lastModified := now })).run.run v.blobs
    cases r <;> rfl

@[simp] theorem save_config (d : Document) (v : Vault) : ((save now d).run.run v).2.config = v.config :=
  congrArg Prod.fst (save_setup d v)

@[simp] theorem save_registry (d : Document) (v : Vault) : ((save now d).run.run v).2.registry = v.registry :=
  congrArg Prod.snd (save_setup d v)

/-- A run keeps the configuration and the migrations, and skips only a document already at its target. -/
theorem run_ends (now : Instant) (d : Document) (opts : RunOptions) (v : Vault) :
    ((run now d opts).run v).2.setup = v.setup ∧
      ∀ s, ((run now d opts).run v).1 = .skipped s → d.version = opts.target := by
  unfold Vault.run
  extract_lets source versions finish verdict
  have hfail : ∀ u vs b e, ((failRun now vs b e).run u).2.setup = u.setup ∧
      ∀ s, ((failRun now vs b e).run u).1 = .skipped s → d.version = opts.target := by
    intro u vs b e
    rw [failRun_run]
    exact ⟨rfl, fun _ h => by cases h⟩
  have hfinish : ∀ u, ((finish ()).run u).2.setup = u.setup ∧
      ∀ s, ((finish ()).run u).1 = .skipped s → d.version = opts.target := by
    intro u
    dsimp -zeta only [finish]
    split
    · rename_i heq
      rw [state_bind, setProgress_run]
      exact ⟨rfl, fun _ _ => by simpa [source] using heq⟩
    · rw [state_bind, state_get]
      dsimp -zeta only
      extract_lets path afterBackup
      -- past the backup every way out is a failure or a success, and none touches the setup
      have hafter : ∀ b w, w.setup = u.setup → ((afterBackup b).run w).2.setup = u.setup ∧
          ∀ s, ((afterBackup b).run w).1 = .skipped s → d.version = opts.target := by
        intro b w hw
        dsimp -zeta only [afterBackup]
        rw [state_bind, applyPath_eq]
        obtain ⟨p, hp⟩ := applyFrom_progressOnly path.length path.zipIdx d w
        rw [hp]
        split
        · exact (hfail _ _ _ _).imp_left (·.trans hw)
        · rw [state_bind, setProgress_run]
          dsimp only
          split
          · exact (hfail _ _ _ _).imp_left (·.trans hw)
          · rw [state_bind]
            split
            · exact (hfail _ _ _ _).imp_left fun h => h.trans (by simpa [setup] using hw)
            · rw [state_bind, record_run, state_bind, setProgress_run, state_pure]
              -- the record and the progress touch neither half of the setup
              exact ⟨by simpa [setup] using hw, fun _ h => by cases h⟩
      split
      · exact hfail _ _ _ _
      · split
        · rw [state_bind, setProgress_run, state_bind]
          split
          · exact hafter _ _ rfl
          · exact hafter _ _ rfl
        · exact hafter _ _ rfl
  split
  · rw [state_bind, setProgress_run]
    split
    · exact hfail _ _ _ _
    · exact hfinish _
  · exact hfinish v

/-- The bytes a failed run keeps include the document's. -/
theorem Kept.docBytes (h : Kept v w) (hm : v.blobs = .memory m) (hk : v.config.documentKey ≠ v.config.historyKey) :
    w.docBytes = v.docBytes := by
  obtain ⟨m', hm', hl⟩ := h.blobs m hm
  simp only [Vault.docBytes, hm, hm', h.config]
  exact hl _ hk

theorem readStored_some (now : Instant) {b : String} (hm : v.blobs = .memory m) (hv : Blob.validKey v.config.documentKey = true)
    (hb : m.blobs.lookup v.config.documentKey = some b) :
    (readStored now).run.run v = (match Document.decode now b with
      | .ok d => .ok (some d)
      | .error e => .error (.corruptedData ("document is not valid JSON: " ++ e.message)), v) := by
  rw [readStored_memory now hm, MemoryBlobs.get_eq, if_pos hv, hb]
  simp only [Vault.decode]
  cases Document.decode now b <;> rfl

theorem readStored_none (hm : v.blobs = .memory m) (hv : Blob.validKey v.config.documentKey = true)
    (hb : m.blobs.lookup v.config.documentKey = none) : (readStored now).run.run v = (.ok none, v) := by
  rw [readStored_memory now hm, MemoryBlobs.get_eq, if_pos hv, hb]

/-- On a store that takes writes, an empty document is saved and cached; its bytes are the
only ones written. -/
theorem save_fresh (hm : v.blobs = .memory m) (hp : m.failPuts = false) (hv : Blob.validKey v.config.documentKey = true) :
    ∃ w m', (save now (Document.fresh now)).run.run v = (.ok (Document.fresh now), w) ∧ w.blobs = .memory m' ∧
      w.setup = v.setup ∧ w.cache = some (Document.fresh now) ∧ w.docBytes = some (Document.fresh now).encode := by
  rw [save_memory hm, if_pos (Document.validate_isValid_iff.2 (Document.fresh_wellFormed now)), MemoryBlobs.put_eq,
    if_pos hv, hp]
  refine ⟨_, _, rfl, rfl, rfl, rfl, ?_⟩
  -- the stamp an empty document gets is the time it was made at
  simp only [Vault.docBytes, MemoryBlobs.lookup_insertSorted, if_true]
  rfl

/-- What the end of a start leaves of a vault `u` holding the document `d` it read or
created, `L` the latest version. -/
structure Finished (now : Instant) (L : Nat) (u : Vault) (d : Document) (r : Except StoreError Document × Vault) :
    Prop where
  setup : r.2.setup = u.setup
  memory : ∃ m, r.2.blobs = .memory m
  ok : ∀ D, r.1 = .ok D → D.version = L ∧ D.validate.isValid = true ∧ r.2.cache = some D ∧
    (r.2.docBytes = u.docBytes ∧ D = d ∨ r.2.docBytes = some D.encode)
  error : ∀ e, r.1 = .error e → r.2.docBytes = u.docBytes
  newer : L < d.version → (∃ msg, r.1 = .error (.initialization msg)) ∧ r.2.blobs = u.blobs
  current : d.version = L → r.2.blobs = u.blobs

/-- What a first start leaves of a vault `v` with nothing cached, `L` the latest version. -/
structure FirstStart (now : Instant) (L : Nat) (v : Vault) (r : Except StoreError Document × Vault) : Prop where
  /-- The configuration and the migrations stay, and so does the store in memory. -/
  setup : r.2.setup = v.setup
  memory : ∃ m, r.2.blobs = .memory m
  /-- A start that succeeds ends at the latest version, with a valid document it caches; the
  document's bytes are the ones it was read from, or its encoding. -/
  ok : ∀ D, r.1 = .ok D → D.version = L ∧ D.validate.isValid = true ∧ r.2.cache = some D ∧
    ((∃ s, r.2.docBytes = some s ∧ v.docBytes = some s ∧ Document.decode now s = .ok D) ∨
      r.2.docBytes = some D.encode)
  /-- A start that fails leaves the document's bytes as they were, or, where there were none,
  an empty document. -/
  error : ∀ e, r.1 = .error e → r.2.docBytes = some (v.docBytes.getD (Document.fresh now).encode)
  /-- A stored document newer than the latest version is refused, and nothing is written. -/
  newer : ∀ s d, v.docBytes = some s → Document.decode now s = .ok d → L < d.version →
    (∃ msg, r.1 = .error (.initialization msg)) ∧ r.2.blobs = v.blobs
  /-- A stored document at the latest version is only loaded. -/
  current : ∀ s d, v.docBytes = some s → Document.decode now s = .ok d → d.version = L → r.2.blobs = v.blobs

theorem start_first (hm : v.blobs = .memory m) (hp : m.failPuts = false) (hv : Blob.validKey v.config.documentKey = true)
    (hk : v.config.documentKey ≠ v.config.historyKey) (hr : v.registry.Ordered) (hc : v.cache = none) :
    FirstStart now v.registry.latest v ((start now).run.run v) := by
  unfold start
  obtain ⟨h, hh⟩ := reloadHistory_run hm
  rw [op_bind_ok _ (by rw [op_liftM, hh]), op_bind_ok _ (op_get _)]
  extract_lets latest finish
  have hL : latest = v.registry.latest := rfl
  -- the end of the start, from the document read or created
  have hfinish : ∀ d u mu, u.blobs = .memory mu → u.setup = v.setup →
      (u.cache = some d ∧ d.validate.isValid = true ∨
        u.cache = none ∧ ∃ s, mu.blobs.lookup v.config.documentKey = some s ∧ Document.decode now s = .ok d) →
      Finished now v.registry.latest u d ((finish d).run.run u) := by
    intro d u mu hmu hsetup hd
    have hcfg : u.config = v.config := congrArg Prod.fst hsetup
    have hreg : u.registry = v.registry := congrArg Prod.snd hsetup
    dsimp -zeta only [finish]
    extract_lets afterCheck
    split
    · -- newer than the latest version: refused
      rename_i hgt
      rw [op_bind_error (x := throw _) _ rfl]
      exact ⟨rfl, ⟨mu, hmu⟩, (fun _ h => by cases h), fun _ _ => rfl, fun _ => ⟨⟨_, rfl⟩, rfl⟩,
        fun heq => by omega⟩
    · rename_i hle
      dsimp -zeta only [afterCheck]
      split
      · -- at the latest version: loaded
        rename_i heq
        have hver : d.version = v.registry.latest := by
          rw [← hL]
          simpa using heq
        rcases hd with ⟨hcu, hvd⟩ | ⟨hcu, s, hs, hdec⟩
        · rw [load_cached d hcu]
          exact ⟨rfl, ⟨mu, hmu⟩, fun D h => by cases h; exact ⟨hver, hvd, hcu, .inl ⟨rfl, rfl⟩⟩,
            (fun _ h => by cases h), fun hlt => by omega, fun _ => rfl⟩
        · rw [load_memory hmu hcu, MemoryBlobs.get_eq, hcfg, if_pos hv, hs]
          simp only [Vault.decode, hdec, pure, Except.pure]
          by_cases hvd : d.validate.isValid = true
          · rw [if_pos hvd]
            refine ⟨by simp [setup, hcfg], ⟨mu, hmu⟩, fun D h => ?_, (fun _ h => by cases h), fun hlt => by omega,
              fun _ => rfl⟩
            cases h
            exact ⟨hver, hvd, rfl, .inl ⟨by simp [Vault.docBytes, hmu, hcfg], rfl⟩⟩
          · rw [if_neg hvd]
            exact ⟨rfl, ⟨mu, hmu⟩, (fun _ h => by cases h), fun _ _ => rfl, fun hlt => by omega, fun _ => rfl⟩
      · -- behind the latest version: migrated
        rename_i hne
        have hlt : d.version < v.registry.latest := by
          simp only [beq_iff_eq] at hne
          omega
        rw [op_bind_ok _ (op_get u), op_bind_ok _ (op_liftM _ u)]
        have he := run_effect now d (u.runOptions latest) hmu (hcfg ▸ hk) (hreg ▸ hr)
        have hends := run_ends now d (u.runOptions latest) u
        generalize (run now d (u.runOptions latest)).run u = res at he hends ⊢
        obtain ⟨out, w⟩ := res
        cases out with
        | success rep =>
          obtain ⟨dₙ, hmig⟩ := he
          obtain ⟨mw, hmw, hlook⟩ := hmig.stored
          refine ⟨hends.1, ⟨mw, hmw⟩, fun D h => ?_, (fun _ h => by cases h), fun h => by omega, fun h => by omega⟩
          cases h
          rw [hmig.document]
          have hvalid : ({ dₙ with lastModified := now } : Document).validate.isValid = true := by
            rw [Document.validate_stamp]
            exact hmig.valid
          refine ⟨hmig.version, hvalid, hmig.cached, .inr ?_⟩
          have hcfgw : w.config = u.config := congrArg Prod.fst hends.1
          show w.docBytes = some (Document.encode { dₙ with lastModified := now })
          unfold Vault.docBytes
          rw [hmw, hcfgw]
          exact hlook
        | skipped s' =>
          have hskip : d.version = latest := hends.2 s' rfl
          omega
        | failure e =>
          obtain ⟨mw, hmw, -⟩ := he.blobs mu hmu
          refine ⟨hends.1, ⟨mw, hmw⟩, (fun _ h => by cases h), fun _ _ => ?_, fun h => by omega, fun h => by omega⟩
          exact Kept.docBytes he hmu (hcfg ▸ hk)
  -- reading the stored document, or creating an empty one where there is none
  have hdoc : v.docBytes = m.blobs.lookup v.config.documentKey := by simp [Vault.docBytes, hm]
  -- the vault once its history is read back
  have hm₁ : (((), { v with history := h }) : Unit × Vault).2.blobs = .memory m := hm
  cases hb : m.blobs.lookup v.config.documentKey with
  | none =>
    rw [op_bind_ok _ (readStored_none hm₁ hv hb)]
    dsimp only
    obtain ⟨w, m', hsave, hwm, hws, hwcache, hfresh⟩ := save_fresh hm₁ hp hv
    rw [op_bind_ok _ hsave]
    have hf := hfinish (Document.fresh now) w m' hwm hws
      (.inl ⟨hwcache, Document.validate_isValid_iff.2 (Document.fresh_wellFormed now)⟩)
    refine ⟨hf.setup.trans hws, hf.memory, fun D hD => ?_, fun e he => ?_, fun s d hs => ?_, fun s d hs => ?_⟩
    · obtain ⟨hver, hval, hcache, hbytes⟩ := hf.ok D hD
      refine ⟨hver, hval, hcache, .inr ?_⟩
      rcases hbytes with ⟨hbytes, rfl⟩ | hbytes
      · exact hbytes.trans hfresh
      · exact hbytes
    · rw [hf.error e he, hfresh, hdoc, hb]
      rfl
    · rw [hdoc, hb] at hs
      cases hs
    · rw [hdoc, hb] at hs
      cases hs
  | some b =>
    have hread := readStored_some now hm₁ hv hb
    cases hdec : Document.decode now b with
    | error e =>
      -- unreadable bytes: refused before anything is written
      rw [hdec] at hread
      rw [op_bind_error _ hread]
      refine ⟨rfl, ⟨m, hm⟩, (fun _ h => by cases h), fun _ _ => ?_, fun s d hs hd => ?_, fun s d hs hd => ?_⟩
      · simp [Vault.docBytes, hm, hb]
      · rw [hdoc, hb] at hs
        cases hs
        rw [hdec] at hd
        cases hd
      · rw [hdoc, hb] at hs
        cases hs
        rw [hdec] at hd
        cases hd
    | ok d =>
      rw [hdec] at hread
      rw [op_bind_ok _ hread]
      dsimp only
      rw [op_bind_ok _ (op_pure d _)]
      have hf := hfinish d _ m hm₁ rfl (.inr ⟨hc, b, hb, hdec⟩)
      have hbytes₁ : v.docBytes = some b := hdoc.trans hb
      refine ⟨hf.setup, hf.memory, fun D hD => ?_, fun e he => ?_, fun s d' hs hd' => ?_, fun s d' hs hd' => ?_⟩
      · obtain ⟨hver, hval, hcache, hbytes⟩ := hf.ok D hD
        refine ⟨hver, hval, hcache, hbytes.imp_left ?_⟩
        rintro ⟨hsame, rfl⟩
        exact ⟨b, hsame.trans hbytes₁, hbytes₁, hdec⟩
      · rw [hf.error e he, hbytes₁]
        exact hbytes₁
      · rw [hbytes₁] at hs
        cases hs
        rw [hdec] at hd'
        cases hd'
        exact hf.newer
      · rw [hbytes₁] at hs
        cases hs
        rw [hdec] at hd'
        cases hd'
        exact hf.current

/-- What a second start leaves of a vault `u` that caches `D`, `L` the latest version. -/
structure Restart (now : Instant) (L : Nat) (D : Document) (u : Vault) (r : Except StoreError Document × Vault) :
    Prop where
  /-- Stored bytes that do not read back are refused, and nothing is written. -/
  unreadable : ∀ s e, u.docBytes = some s → Document.decode now s = .error e →
    (∃ msg, r.1 = .error (.corruptedData msg)) ∧ r.2.blobs = u.blobs ∧ r.2.cache = u.cache
  /-- Stored bytes that read back at the latest version leave the cached document as the
  answer, and nothing is written. -/
  current : ∀ s d, u.docBytes = some s → Document.decode now s = .ok d → d.version = L →
    r.1 = .ok D ∧ r.2.blobs = u.blobs ∧ r.2.cache = u.cache

theorem start_again {D : Document} (hm : v.blobs = .memory m) (hv : Blob.validKey v.config.documentKey = true)
    (hc : v.cache = some D) : Restart now v.registry.latest D v ((start now).run.run v) := by
  unfold start
  obtain ⟨h, hh⟩ := reloadHistory_run hm
  rw [op_bind_ok _ (by rw [op_liftM, hh]), op_bind_ok _ (op_get _)]
  extract_lets latest finish
  have hdoc : v.docBytes = m.blobs.lookup v.config.documentKey := by simp [Vault.docBytes, hm]
  have hm₁ : (((), { v with history := h }) : Unit × Vault).2.blobs = .memory m := hm
  constructor
  · intro s e hs hdec
    rw [hdoc] at hs
    have hread := readStored_some now hm₁ hv hs
    rw [hdec] at hread
    rw [op_bind_error _ hread]
    exact ⟨⟨_, rfl⟩, rfl, rfl⟩
  · intro s d hs hdec hver
    rw [hdoc] at hs
    have hread := readStored_some now hm₁ hv hs
    rw [hdec] at hread
    rw [op_bind_ok _ hread]
    dsimp only
    rw [op_bind_ok _ (op_pure d _)]
    dsimp -zeta only [finish]
    -- at the latest version the cached document is what loading gives back
    have hle : ¬ d.version > latest := by
      show ¬ d.version > v.registry.latest
      omega
    have heq : (d.version == latest) = true := by
      show (d.version == v.registry.latest) = true
      simp [hver]
    rw [if_neg hle]
    dsimp only
    have hc₁ : ({ v with history := h } : Vault).cache = some D := hc
    rw [if_pos heq, load_cached D hc₁]
    exact ⟨rfl, rfl, rfl⟩

/-- A document key the store refuses is refused by a start before anything is written, even
where no document is stored yet. -/
theorem start_refuses_invalid_key (hm : v.blobs = .memory m) (hv : Blob.validKey v.config.documentKey = false) :
    ∃ h, (start now).run.run v = (.error (.corruptedData
      ("failed to read document: invalid blob key '" ++ v.config.documentKey ++ "'")), { v with history := h }) := by
  unfold start
  obtain ⟨h, hh⟩ := reloadHistory_run hm
  rw [op_bind_ok _ (by rw [op_liftM, hh]), op_bind_ok _ (op_get _)]
  have hm₁ : ({ v with history := h } : Vault).blobs = .memory m := hm
  have hread : (readStored now).run.run { v with history := h } = (.error (.corruptedData
      ("failed to read document: invalid blob key '" ++ v.config.documentKey ++ "'")), { v with history := h }) := by
    rw [readStored_memory now hm₁, MemoryBlobs.get_eq, if_neg (by simpa using hv)]
    rfl
  rw [op_bind_error _ hread]
  exact ⟨h, rfl⟩

/-- Version 1 to 2, adding a metadata key `createdAt` beside the field of that name. -/
def stampCreation : Migration :=
  Migration.step "m1_2" 1 2 fun d =>
    { result := .ok { d with metadata := { d.metadata with
        extra := d.metadata.extra ++ [("createdAt", .str "2024-01-01T00:00:00Z")] } } }

theorem stampCreation_built : Registry.Built ⟨[stampCreation]⟩ :=
  .register .empty (m := stampCreation) rfl

end Vault

end DocStore
