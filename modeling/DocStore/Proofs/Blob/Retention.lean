import Mathlib.Data.List.Sort
import DocStore.Proofs.Blob.FileSteps
/-
  DocStore.Proofs.Blob.Retention — a file store keeps exactly its newest backups.

  A backup is taken in two stages. First the store makes the backup's directory, copies
  every blob into it and writes the manifest last (`createBackup_stage`); only the
  backup's directory changes, so the backups listed are those before and the new one.
  Then it lists the backups, newest name first, and removes all past the first
  `maxBackups` (`pruneBackups_run`); each removal forgets one backup's directory and
  nothing else (`removeBackups_run`).

  Proved (`createBackup_keeps_newest`): on a store laid out as the store leaves it, after
  a backup that answers the name `n`, the backups listed are the first `max m 1` of the
  earlier ones and `n`, sorted newest first; `n` is among them whenever it sorts above
  every earlier name.
-/

namespace DocStore

namespace FileBlobs

variable {s : FileBlobs}

/-! ## Sorted listings -/

namespace Lists

variable {P Q : String → Prop} {l l' : List String}

/-- Two lists of the same names, each newest first, are the same list. -/
theorem eq_of_iff (hl : Lists (· > ·) P l) (hl' : Lists (· > ·) Q l') (hPQ : ∀ x, P x ↔ Q x) : l = l' :=
  hl.ordered.eq_of_mem_iff hl'.ordered fun x => (hl.mem_iff x).trans ((hPQ x).trans (hl'.mem_iff x).symm)

/-- The first `k` names of a listing are those it holds past none of the rest. -/
theorem take (hl : Lists (· > ·) P l) (k : Nat) :
    Lists (· > ·) (fun x => P x ∧ x ∉ l.drop k) (l.take k) := by
  have hnd : l.Nodup := hl.ordered.imp ne_of_gt
  refine ⟨hl.ordered.sublist (List.take_sublist k l), fun x => ?_⟩
  rw [← hl.mem_iff]
  constructor
  · intro hx
    exact ⟨List.mem_of_mem_take hx, fun hd => List.disjoint_take_drop hnd le_rfl hx hd⟩
  · rintro ⟨hx, hd⟩
    rw [← List.take_append_drop k l, List.mem_append] at hx
    exact hx.resolve_right hd

/-- A name above every other one of a listing is among its first `k`, for any `k > 0`. -/
theorem mem_take_of_top (hl : Lists (· > ·) P l) {x : String} (hx : P x) (htop : ∀ y, P y → y ≠ x → y < x)
    {k : Nat} (hk : 0 < k) : x ∈ l.take k := by
  simp only [← hl.mem_iff] at hx htop
  have hord := hl.ordered
  cases l with
  | nil => simp at hx
  | cons a rest =>
    obtain ⟨j, rfl⟩ := Nat.exists_eq_add_of_lt hk
    by_cases hax : a = x
    · simp [hax]
    · -- the head stands above every later name, so it cannot stand below `x`
      have hxr : x ∈ rest := (List.mem_cons.1 hx).resolve_left (Ne.symm hax)
      exact absurd (htop a List.mem_cons_self hax) (lt_asymm (List.rel_of_pairwise_cons hord hxr))

end Lists

/-! ## Removing backups -/

/-- Removing backups that are directories, each named once, forgets everything under
each of them and nothing else. -/
theorem removeBackups_run (names : List String) :
    ∀ {s : FileBlobs}, s.Ready → names.Nodup → (∀ x ∈ names, s.tree.node? (s.backupPath ++ [x]) = some .dir) →
      ∃ t, (removeBackups s.backupDir names).run.run s = (.ok (), { s with tree := t }) ∧
        ({ s with tree := t } : FileBlobs).Ready ∧
        (∀ q, (∀ x ∈ names, ¬ s.backupPath ++ [x] <+: q) → t.node? q = s.tree.node? q) ∧
        (∀ x ∈ names, ∀ q, s.backupPath ++ [x] <+: q → t.node? q = none) := by
  induction names with
  | nil =>
    intro s h _ _
    exact ⟨s.tree, rfl, h, fun _ _ => rfl, by simp⟩
  | cons x names ih =>
    intro s h hnd hdirs
    have hx := hdirs x List.mem_cons_self
    have hpath : at_ (joinText s.backupDir x) = ⟨s.backupPath ++ [x], false⟩ :=
      at_joinText _ (h.plain_of_backupDir hx)
    have hc : (change (·.removeDirAll (at_ (joinText s.backupDir x)))).run.run s =
        (.ok (.ok ()), { s with tree := s.tree.eraseUnder (s.backupPath ++ [x]) }) := by
      rw [hpath]
      exact run_change_ok (FileTree.removeDirAll_dir h.plain_backupPath h.backupDirs (h.plain_of_backupDir hx) hx)
    -- the other backups are still directories once this one is gone
    have hrest : ∀ y ∈ names, (s.tree.eraseUnder (s.backupPath ++ [x])).node? (s.backupPath ++ [y]) = some .dir := by
      intro y hy
      have hxy : x ≠ y := fun e => (List.nodup_cons.1 hnd).1 (e ▸ hy)
      rw [FileTree.node?_eraseUnder, if_neg (by simpa using hxy)]
      exact hdirs y (List.mem_cons_of_mem x hy)
    obtain ⟨t, hrun, hready, hkeep, hgone⟩ := ih (h.eraseBackup x) (List.nodup_cons.1 hnd).2 hrest
    refine ⟨t, ?_, hready, fun q hq => ?_, fun y hy q hq => ?_⟩
    · rw [removeBackups, run_bind_ok _ hc]
      exact hrun
    · rw [hkeep q fun y hy => hq y (List.mem_cons_of_mem x hy), FileTree.node?_eraseUnder,
        if_neg (hq x List.mem_cons_self)]
    · rcases List.mem_cons.1 hy with rfl | hy
      · by_cases hin : ∃ z ∈ names, s.backupPath ++ [z] <+: q
        · obtain ⟨z, hz, hzq⟩ := hin
          exact hgone z hz q hzq
        · rw [hkeep q fun z hz hzq => hin ⟨z, hz, hzq⟩, FileTree.node?_eraseUnder, if_pos hq]
      · exact hgone y hy q hq

/-! ## Pruning -/

/-- Pruning lists the backups, newest first, and removes those past the first
`maxBackups`: they are no longer listed, and nothing else changes. -/
theorem pruneBackups_run (h : s.Ready) :
    ∃ names t, Lists (· > ·) s.Listed names ∧ pruneBackups.run.run s = (.ok (), { s with tree := t }) ∧
      ({ s with tree := t } : FileBlobs).Ready ∧
      (∀ x, ({ s with tree := t } : FileBlobs).Listed x ↔ s.Listed x ∧ x ∉ names.drop s.maxBackups) ∧
      (∀ y, t.node? (s.dataPath ++ [y]) = s.tree.node? (s.dataPath ++ [y])) ∧
      (∀ x r, x ∉ names.drop s.maxBackups → t.node? (s.backupPath ++ x :: r) = s.tree.node? (s.backupPath ++ x :: r)) := by
  obtain ⟨names, hlist, hl⟩ := listBackups_run h
  have hnd : names.Nodup := hl.ordered.imp ne_of_gt
  have hdirs : ∀ x ∈ names.drop s.maxBackups, s.tree.node? (s.backupPath ++ [x]) = some .dir :=
    fun x hx => ((hl.mem_iff x).1 (List.mem_of_mem_drop hx)).2.1
  obtain ⟨t, hrun, hready, hkeep, hgone⟩ := removeBackups_run _ h (hnd.sublist (List.drop_sublist _ _)) hdirs
  -- a path of another backup lies under none of the removed ones
  have hother : ∀ x r, x ∉ names.drop s.maxBackups → t.node? (s.backupPath ++ x :: r) = s.tree.node? (s.backupPath ++ x :: r) :=
    fun x r hx => hkeep _ fun y hy hpre => by
      have hyx : y = x := by simpa [List.singleton_prefix_cons_iff] using hpre
      exact hx (hyx ▸ hy)
  refine ⟨names, t, hl, ?_, hready, fun x => ?_, fun y => ?_, hother⟩
  · unfold pruneBackups
    rw [run_bind_ok _ hlist, run_bind_ok _ run_get]
    exact hrun
  · by_cases hx : x ∈ names.drop s.maxBackups
    · have hnone := hgone x hx (s.backupPath ++ [x]) (List.prefix_refl _)
      simp only [Listed, backupPath] at hnone ⊢
      simp [hnone, hx]
    · rw [listed_of_agree (hother x [] hx) (hother x [manifestName] hx)]
      simp [hx]
  · exact hkeep _ fun x _ hpre => h.backup_not_prefix [y] ((List.prefix_append _ _).trans hpre)

/-! ## Taking a backup -/

theorem bin_ne_manifest (k : String) : k ++ ".bin" ≠ manifestName := by
  intro h
  have := congrArg (fun s => s.toList.reverse.take 2) h
  simp [manifestName] at this

/-- A backup named `n` up to its pruning: the store counts it, makes its directory, copies
every blob into it and writes its manifest; nothing outside the directory changes. -/
theorem createBackup_stage (h : s.Ready) {now : Instant} {keys : List String} {n : String}
    (hlive : liveKeys.run.run s = (.ok keys, s)) (hne : keys ≠ []) (hn : Blob.backupName now (s.sequence + 1) = n) :
    ∃ t, (createBackup now).run.run s =
        (pruneBackups >>= fun _ => pure (some n)).run.run { s with sequence := s.sequence + 1, tree := t } ∧
      ({ s with sequence := s.sequence + 1, tree := t } : FileBlobs).Ready ∧
      (∀ q, ¬ s.backupPath ++ [n] <+: q → t.node? q = s.tree.node? q) ∧
      t.node? (s.backupPath ++ [n]) = some .dir ∧
      (∀ k ∈ keys, t.node? (s.backupPath ++ [n, k ++ ".bin"]) = some (.file ((s.blob k).getD ""))) ∧
      t.node? (s.backupPath ++ [n, manifestName]) =
        some (.file (manifestText now (keys.map fun k => (k, Sha256.hexOf ((s.blob k).getD ""))))) := by
  obtain ⟨keys', hrun', hl⟩ := liveKeys_run h
  obtain rfl : keys = keys' := by
    rw [hlive] at hrun'
    cases hrun'
    rfl
  have hplain : PlainName n := hn ▸ PlainName.backupName now (s.sequence + 1)
  -- the count, then the directory
  have h1 := h.withSequence (s.sequence + 1)
  have hmk : (change (·.createDirAll (at_ (joinText s.backupDir n)))).run.run { s with sequence := s.sequence + 1 } =
      (.ok (.ok ()), { s with sequence := s.sequence + 1, tree := s.tree.withDir (s.backupPath ++ [n]) }) :=
    makeBackupDir_run h1 hplain
  have h2 : ({ s with sequence := s.sequence + 1, tree := s.tree.withDir (s.backupPath ++ [n]) } : FileBlobs).Ready :=
    h1.withBackupDir hplain
  have hdir2 : (s.tree.withDir (s.backupPath ++ [n])).node? (s.backupPath ++ [n]) = some .dir := by simp
  have hblob2 : ∀ k, ({ s with sequence := s.sequence + 1, tree := s.tree.withDir (s.backupPath ++ [n]) } : FileBlobs).blob k =
      s.blob k := blob_eq_of_data fun y => by
    rw [FileTree.node?_withDir, if_neg (h.data_ne_backup y [n])]
  unfold createBackup
  rw [run_bind_ok _ hlive]
  simp only [List.isEmpty_eq_false_iff.2 hne, Bool.false_eq_true, if_false]
  rw [run_bind_ok _ run_get, run_bind_ok _ (run_set _), hn, run_bind_ok _ hmk, run_bind_ok _ (run_orFail_ok _ _)]
  obtain ⟨t3, hrun3, h3, hframe3, hfiles3⟩ := copyBlobs_run s n keys h2 rfl hdir2 fun k hk => by
    rw [hblob2]
    exact (hl.mem_iff k).1 hk
  simp only [hblob2] at hrun3 hfiles3
  have hB2 : ({ s with sequence := s.sequence + 1, tree := s.tree.withDir (s.backupPath ++ [n]) } : FileBlobs).backupPath =
      s.backupPath := rfl
  dsimp only at hrun3 h3 hframe3 hfiles3
  rw [hB2] at hframe3 hfiles3
  -- a path of the tree that is no entry of the backup's directory
  have hout : ∀ q, ¬ s.backupPath ++ [n] <+: q → ∀ u, q ≠ s.backupPath ++ n :: u :=
    fun q hq u e => hq (e ▸ ⟨u, by simp⟩)
  have hdir3 : t3.node? (s.backupPath ++ [n]) = some .dir :=
    (hframe3 _ fun k _ => ⟨by simp, by simp⟩).trans hdir2
  -- the manifest, written last
  obtain ⟨sums, hsums⟩ : ∃ sums, sums = keys.map fun k => (k, Sha256.hexOf ((s.blob k).getD "")) := ⟨_, rfl⟩
  rw [← hsums] at hrun3 ⊢
  have hman : (writeAtomic (joinText s.backupDir n) (joinText (joinText s.backupDir n) manifestName)
      (manifestText now sums)).run.run { s with sequence := s.sequence + 1, tree := t3 } =
      (.ok (.ok ()),
        { s with sequence := s.sequence + 1, tree := writeThrough t3 (s.backupPath ++ [n]) manifestName (manifestText now sums) }) :=
    writeBackup_run h3 hdir3 PlainName.manifest
  have hleaf : t3.Leaf (s.backupPath ++ [n] ++ ["." ++ manifestName ++ ".tmp"]) := by
    have hb : t3.Leaf (s.backupPath ++ [n, "." ++ manifestName ++ ".tmp"]) := h3.backupLeaf n _
    simpa using hb
  have hleaf' : t3.Leaf (s.backupPath ++ [n] ++ [manifestName]) := by
    have hb : t3.Leaf (s.backupPath ++ [n, manifestName]) := h3.backupLeaf n _
    simpa using hb
  have hnode := node?_writeThrough (manifestText now sums) hleaf hleaf'
  refine ⟨writeThrough t3 (s.backupPath ++ [n]) manifestName (manifestText now sums), ?_,
    h3.writeBackup hdir3 PlainName.manifest, fun q hq => ?_, ?_, fun k hk => ?_, ?_⟩
  · rw [run_bind_ok _ hrun3, run_bind_ok _ hman, run_bind_ok _ (run_orFail_ok _ _)]
  · have hq' := hout q hq
    rw [hnode, if_neg (by simpa using hq' [manifestName]), if_neg (by simpa using hq' ["." ++ manifestName ++ ".tmp"]),
      hframe3 q fun k _ => ⟨hq' _, hq' _⟩, FileTree.node?_withDir, if_neg (by simpa using hq' [])]
  · rw [hnode, if_neg (by simp), if_neg (by simp), hdir3]
  · rw [hnode, if_neg (by simpa using bin_ne_manifest k), if_neg (by simpa using bin_ne_temp k manifestName)]
    exact hfiles3 k hk
  · rw [hnode, if_pos (by simp)]

/-- A backup of a ready store that holds a blob succeeds and answers its name. -/
theorem createBackup_some (h : s.Ready) (k : String) (hk : (s.blob k).isSome) (now : Instant) :
    ∃ s', (createBackup now).run.run s = (.ok (some (Blob.backupName now (s.sequence + 1))), s') := by
  obtain ⟨keys, hlive, hkeys⟩ := liveKeys_run h
  have hne : keys ≠ [] := List.ne_nil_of_mem ((hkeys.mem_iff k).2 hk)
  obtain ⟨t, hstage, hready, -⟩ := createBackup_stage h hlive hne rfl
  obtain ⟨-, t', -, hprune, -⟩ := pruneBackups_run hready
  exact ⟨_, by rw [hstage, run_bind_ok _ hprune]; rfl⟩

theorem backupName_starts (now : Instant) (seq : Nat) : "backup_".toList <+: (Blob.backupName now seq).toList :=
  ⟨(now.stampText ++ "_" ++ Instant.pad 6 seq).toList, by simp [Blob.backupName]⟩

/-- Once a backup's directory and manifest are written, and nothing else changed, the
backups listed are the earlier ones and the new one. -/
theorem listed_stage {t : FileTree} {n : String} (seq : Nat) (hpre : "backup_".toList <+: n.toList)
    (hframe : ∀ q, ¬ s.backupPath ++ [n] <+: q → t.node? q = s.tree.node? q)
    (hdir : t.node? (s.backupPath ++ [n]) = some .dir)
    (hman : ∃ c, t.node? (s.backupPath ++ [n, manifestName]) = some (.file c)) (x : String) :
    ({ s with sequence := seq, tree := t } : FileBlobs).Listed x ↔ s.Listed x ∨ x = n := by
  by_cases hx : x = n
  · subst hx
    exact iff_of_true ⟨hpre, hdir, hman⟩ (Or.inr rfl)
  · have hout : ∀ r, ¬ s.backupPath ++ [n] <+: s.backupPath ++ x :: r := fun r hp => by
      have hnx : n = x := by simpa [List.singleton_prefix_cons_iff] using hp
      exact hx hnx.symm
    have hagree := listed_of_agree (s := s) (hframe _ (hout [])) (hframe _ (hout [manifestName]))
    rw [or_iff_left hx]
    exact hagree

/-- Retention keeps exactly the newest backups. A backup that answers the name `n`, on a
store laid out as the store leaves it and keeping `max m 1` backups, leaves listed the
newest `max m 1` names among the earlier backups and `n`, newest first; `n` is among them
whenever it sorts above every earlier name. -/
theorem createBackup_keeps_newest (h : s.Ready) {m : Nat} (hm : s.maxBackups = max m 1) {now : Instant}
    {n : String} {s' : FileBlobs} (hrun : (createBackup now).run.run s = (.ok (some n), s')) :
    ∃ before after, (listBackups.run.run s).1 = .ok before ∧ (listBackups.run.run s').1 = .ok after ∧
      after.Pairwise (· > ·) ∧ after.length ≤ max m 1 ∧
      after = ((before.insert n).mergeSort fun a b => decide (b ≤ a)).take (max m 1) ∧
      ((∀ b ∈ before, b < n) → n ∈ after) := by
  obtain ⟨keys, hlive, -⟩ := liveKeys_run h
  have hne : keys ≠ [] := by
    rintro rfl
    unfold createBackup at hrun
    rw [run_bind_ok _ hlive] at hrun
    cases hrun
  obtain ⟨t, hstage, hready, hframe, hdir, -, hman⟩ := createBackup_stage h hlive hne rfl
  obtain ⟨names, t', hnames, hprune, hready', hlisted', -, -⟩ := pruneBackups_run hready
  rw [hstage, run_bind_ok _ hprune] at hrun
  simp only [run_pure] at hrun
  obtain ⟨rfl, rfl⟩ := hrun
  -- the backups listed before the pruning: the earlier ones and the new one
  have hmid := listed_stage (s.sequence + 1) (backupName_starts now (s.sequence + 1)) hframe hdir ⟨_, hman⟩
  obtain ⟨before, hb, hlb⟩ := listBackups_run h
  obtain ⟨after, ha, hla⟩ := listBackups_run hready'
  have hnd : before.Nodup := hlb.ordered.imp ne_of_gt
  have hnames_eq : names = (before.insert (Blob.backupName now (s.sequence + 1))).mergeSort
      fun a b => decide (b ≤ a) :=
    hnames.eq_of_iff (lists_mergeSort_down hnd.insert) fun x => by
      rw [hmid, List.mem_insert_iff, hlb.mem_iff, or_comm]
  have hafter : after = names.take (max m 1) :=
    hla.eq_of_iff (hnames.take _) fun x => by rw [hlisted', ← hm]
  refine ⟨before, after, by rw [hb], by rw [ha], hla.ordered, ?_, hafter.trans (hnames_eq ▸ rfl), fun htop => ?_⟩
  · rw [hafter]
    exact List.length_take_le _ _
  · rw [hafter]
    refine hnames.mem_take_of_top ((hmid _).2 (Or.inr rfl)) (fun y hy hne => ?_) (by omega)
    exact htop y ((hlb.mem_iff y).2 (((hmid y).1 hy).resolve_right hne))

/-- A store with one blob and no backup yet, that keeps two. -/
def sampleStore : FileBlobs :=
  { dataDir := "/data", backupDir := "/backups", maxBackups := 2,
    tree := ⟨[(["data"], .dir), (["backups"], .dir), (["data", "k.bin"], .file "x")]⟩ }

theorem sampleStore_ready : sampleStore.Ready := by
  have hD : sampleStore.dataPath = ["data"] := by decide +kernel
  have hB : sampleStore.backupPath = ["backups"] := by decide +kernel
  have hnodes : ∀ q m, sampleStore.tree.node? q = some m →
      q = ["data"] ∧ m = .dir ∨ q = ["backups"] ∧ m = .dir ∨ q = ["data", "k.bin"] ∧ m = .file "x" := by
    intro q m hq
    simp only [sampleStore, FileTree.node?, FileTree.lookup_cons_ite] at hq
    split_ifs at hq <;> simp_all
  have hplain : ∀ y, y = "data" ∨ y = "backups" ∨ y = "k.bin" → PlainName y := by
    rintro y (rfl | rfl | rfl) <;> exact PlainName.of_length (by decide) (by decide)
  refine ⟨by unfold FileTree.Distinct; decide +kernel, fun q m hq => ?_, ?_, ?_, by rw [hD, hB]; decide,
    by rw [hD, hB]; decide⟩
  · rw [hD, hB]
    rcases hnodes q m hq with ⟨rfl, rfl⟩ | ⟨rfl, rfl⟩ | ⟨rfl, rfl⟩
    · refine ⟨fun y hy => hplain y (by simp_all), fun r hr hne => ?_, fun r hr hne => ?_⟩
      · exact absurd (by simpa using hr) hne
      · simp at hr
    · refine ⟨fun y hy => hplain y (by simp_all), fun r hr hne => ?_, fun r hr hne => ?_⟩
      · simp at hr
      · exact absurd (by simpa using hr) hne
    · refine ⟨fun y hy => hplain y (by simp at hy; tauto), fun r hr hne => ?_, fun r hr hne => ?_⟩
      · exact ⟨⟨_, by simpa using hr.symm⟩, by simp⟩
      · simp at hr
  -- both directories stand right under the root
  all_goals
    simp only [hD, hB]
    intro q hq hne
    obtain rfl | ⟨u, rfl, hu⟩ := List.prefix_cons_iff.1 hq
    · exact absurd rfl hne
    · rw [List.prefix_nil.1 hu]
      decide +kernel

/-- The first backup of the sample store is the only one listed after it. -/
theorem first_backup_listed_alone :
    ∃ n s', (createBackup Instant.epoch).run.run sampleStore = (.ok (some n), s') ∧
      (listBackups.run.run sampleStore).1 = .ok [] ∧ (listBackups.run.run s').1 = .ok [n] := by
  obtain ⟨s', hrun⟩ := createBackup_some sampleStore_ready "k" (by decide +kernel) Instant.epoch
  obtain ⟨before, after, hb, ha, -, -, hafter, -⟩ :=
    createBackup_keeps_newest sampleStore_ready (show sampleStore.maxBackups = max 2 1 from rfl) hrun
  have hnone : (listBackups.run.run sampleStore).1 = .ok [] := by decide +kernel
  obtain rfl : before = [] := by
    rw [hnone] at hb
    cases hb
    rfl
  refine ⟨_, s', hrun, hnone, ?_⟩
  rw [ha, hafter]
  simp

end FileBlobs

end DocStore
