import Mathlib.Data.String.Basic
import DocStore.Proofs.Blob.FilePaths
/-
  DocStore.Proofs.Blob.FileSteps — the steps of a byte store on files, on a tree laid out as
  the store leaves it.

  (1) Layout (`Ready`). The data and backup directories exist, neither lies in the other,
  no path is listed twice, and every node has plain names and stands where the store puts
  nodes (`Fits`): under the data directory a file, one level down; under the backup
  directory a backup's directory, one level down, or a file in one. A step that changes
  only paths strictly under the two directories, each into something that fits, keeps the
  layout (`Ready.of_change`).

  (2) Views. The store is read as a map from keys to bytes (`blob`: a valid key's file in
  the data directory) and a set of backups (`Listed`: a `backup_…` directory holding a
  manifest). A listing gives a set in an order, each member once (`Lists`).

  (3) Steps. On a ready store, listing the keys and the backups answers those sets
  (`liveKeys_run`, `listBackups_run`), `get` answers `blob`, and a write through a
  temporary file replaces one file and nothing else (`writeAtomic_run`, `node?_written`).
-/

namespace DocStore

namespace FileBlobs

variable {α β : Type} {s s' : FileBlobs}

/-! ## Running a step -/

theorem run_bind_ok {x : FileOp α} {a : α} (f : α → FileOp β) (h : x.run.run s = (.ok a, s')) :
    (x >>= f).run.run s = (f a).run.run s' := by
  simp only [ExceptT.run_bind, StateT.run_bind, h]
  rfl

theorem run_bind_error {x : FileOp α} {e : BlobError} (f : α → FileOp β) (h : x.run.run s = (.error e, s')) :
    (x >>= f).run.run s = (.error e, s') := by
  simp only [ExceptT.run_bind, StateT.run_bind, h]
  rfl

theorem run_pure (a : α) : (pure a : FileOp α).run.run s = (.ok a, s) := rfl

theorem run_get : (MonadState.get : FileOp FileBlobs).run.run s = (.ok s, s) := rfl

theorem run_set (s' : FileBlobs) : (set s' : FileOp PUnit).run.run s = (.ok ⟨⟩, s') := rfl

theorem run_throw (e : BlobError) : (throw e : FileOp α).run.run s = (.error e, s) := rfl

theorem run_orFail_ok (wrap : IoError → BlobError) (a : α) : (orFail wrap (.ok a)).run.run s = (.ok a, s) := rfl

theorem run_orFail_error (wrap : IoError → BlobError) (e : IoError) :
    (orFail wrap (.error e) : FileOp α).run.run s = (.error (wrap e), s) := rfl

theorem run_readText (path : String) : (readText path).run.run s = (.ok (s.tree.read (at_ path)), s) := rfl

theorem run_change_ok {f : FileTree → Except IoError FileTree} {t : FileTree} (h : f s.tree = .ok t) :
    (change f).run.run s = (.ok (.ok ()), { s with tree := t }) := by
  unfold change
  rw [run_bind_ok _ run_get, h]
  rfl

theorem run_change_error {f : FileTree → Except IoError FileTree} {e : IoError} (h : f s.tree = .error e) :
    (change f).run.run s = (.ok (.error e), s) := by
  unfold change
  rw [run_bind_ok _ run_get, h]
  rfl

theorem run_checkKey {k : String} (hk : Blob.validKey k = true) :
    (Blob.checkKey k : FileOp Unit).run.run s = (.ok (), s) := by
  simp only [Blob.checkKey, hk, if_true]
  rfl

theorem run_checkKey_invalid {k : String} (hk : Blob.validKey k = false) :
    (Blob.checkKey k : FileOp Unit).run.run s = (.error (.invalidKey k), s) := by
  simp only [Blob.checkKey, hk, Bool.false_eq_true, if_false]
  rfl

/-! ## The layout a store keeps -/

/-- The path of the data directory. -/
def dataPath (s : FileBlobs) : FsPath := (at_ s.dataDir).names

/-- The path of the backup directory. -/
def backupPath (s : FileBlobs) : FsPath := (at_ s.backupDir).names

/-- What may stand at `q` in the tree of a store: a node whose names are plain; under the
data directory, a file one level down; under the backup directory, a backup's directory one
level down or a file in one. -/
structure Fits (data backup : FsPath) (q : FsPath) (m : Node) : Prop where
  plain : ∀ y ∈ q, PlainName y
  data : ∀ r, q = data ++ r → r ≠ [] → (∃ y, r = [y]) ∧ m ≠ .dir
  backup : ∀ r, q = backup ++ r → r ≠ [] → (∃ y, r = [y] ∧ m = .dir) ∨ (∃ y z, r = [y, z] ∧ m ≠ .dir)

/-- A store whose tree is laid out as the store leaves it. -/
structure Ready (s : FileBlobs) : Prop where
  distinct : s.tree.Distinct
  fits : ∀ q m, s.tree.node? q = some m → Fits s.dataPath s.backupPath q m
  dataDirs : s.tree.DirsTo s.dataPath
  backupDirs : s.tree.DirsTo s.backupPath
  dataApart : ¬ s.dataPath <+: s.backupPath
  backupApart : ¬ s.backupPath <+: s.dataPath

/-- Strictly under the data directory or the backup directory. -/
def Inside (s : FileBlobs) (q : FsPath) : Prop :=
  (s.dataPath <+: q ∧ q ≠ s.dataPath) ∨ (s.backupPath <+: q ∧ q ≠ s.backupPath)

namespace Ready

variable (h : s.Ready)
include h

theorem dataPath_ne_nil : s.dataPath ≠ [] := fun h0 => h.dataApart (h0 ▸ List.nil_prefix)

theorem backupPath_ne_nil : s.backupPath ≠ [] := fun h0 => h.backupApart (h0 ▸ List.nil_prefix)

theorem plain_dataPath : ∀ y ∈ s.dataPath, PlainName y :=
  (h.fits _ _ (h.dataDirs _ (List.prefix_refl _) h.dataPath_ne_nil)).plain

theorem plain_backupPath : ∀ y ∈ s.backupPath, PlainName y :=
  (h.fits _ _ (h.backupDirs _ (List.prefix_refl _) h.backupPath_ne_nil)).plain

/-- The directories above either directory, and they themselves, lie inside neither. -/
theorem not_inside_of_prefix {q : FsPath} (hq : q <+: s.dataPath ∨ q <+: s.backupPath) : ¬ s.Inside q := by
  rintro (⟨hd, hne⟩ | ⟨hb, hne⟩) <;> rcases hq with hq | hq
  · exact hne (List.IsPrefix.eq_of_length hq (le_antisymm hq.length_le hd.length_le))
  · exact h.dataApart (hd.trans hq)
  · exact h.backupApart (hb.trans hq)
  · exact hne (List.IsPrefix.eq_of_length hq (le_antisymm hq.length_le hb.length_le))

/-- A data file is a file, and nothing stands under it. -/
theorem dataFile {y : String} {m : Node} (hm : s.tree.node? (s.dataPath ++ [y]) = some m) : m ≠ .dir :=
  ((h.fits _ _ hm).data [y] rfl (by simp)).2

theorem dataLeaf (y : String) : s.tree.Leaf (s.dataPath ++ [y]) := by
  intro r hr
  cases hm : s.tree.node? (s.dataPath ++ [y] ++ r) with
  | none => rfl
  | some m =>
    obtain ⟨⟨z, hz⟩, -⟩ := (h.fits _ _ hm).data ([y] ++ r) (by simp) (by simp)
    cases r with
    | nil => exact absurd rfl hr
    | cons a r => simp at hz

/-- Under the backup directory: a backup is a directory, a file in it is a file, and
nothing stands under such a file. -/
theorem backupDir {x : String} {m : Node} (hm : s.tree.node? (s.backupPath ++ [x]) = some m) : m = .dir := by
  rcases (h.fits _ _ hm).backup [x] rfl (by simp) with ⟨y, -, hm⟩ | ⟨y, z, hyz, -⟩
  · exact hm
  · simp at hyz

theorem backupFile {x y : String} {m : Node} (hm : s.tree.node? (s.backupPath ++ [x, y]) = some m) : m ≠ .dir := by
  rcases (h.fits _ _ hm).backup [x, y] rfl (by simp) with ⟨z, hz, -⟩ | ⟨-, -, -, hm⟩
  · simp at hz
  · exact hm

theorem backupLeaf (x y : String) : s.tree.Leaf (s.backupPath ++ [x, y]) := by
  intro r hr
  cases hm : s.tree.node? (s.backupPath ++ [x, y] ++ r) with
  | none => rfl
  | some m =>
    rcases (h.fits _ _ hm).backup ([x, y] ++ r) (by simp) (by simp) with ⟨z, hz, -⟩ | ⟨a, b, hab, -⟩
    · simp at hz
    · cases r with
      | nil => exact absurd rfl hr
      | cons c r => simp at hab

/-- A step that changes only paths inside the two directories, each into something that
fits, keeps the layout. -/
theorem of_change {t : FileTree} (hdist : t.Distinct)
    (hfit : ∀ q m, t.node? q = some m → s.tree.node? q = some m ∨ Fits s.dataPath s.backupPath q m)
    (hin : ∀ q, t.node? q ≠ s.tree.node? q → s.Inside q) : ({ s with tree := t } : FileBlobs).Ready := by
  -- a directory above either one is not inside, so it stays
  have hkeep : ∀ q, (q <+: s.dataPath ∨ q <+: s.backupPath) → t.node? q = s.tree.node? q := by
    intro q hq
    by_cases hc : t.node? q = s.tree.node? q
    · exact hc
    · exact absurd (hin q hc) (h.not_inside_of_prefix hq)
  refine ⟨hdist, fun q m hq => ?_, fun q hq hq0 => ?_, fun q hq hq0 => ?_, h.dataApart, h.backupApart⟩
  · rcases hfit q m hq with hq | hq
    · exact h.fits q m hq
    · exact hq
  · show t.node? q = some .dir
    rw [hkeep q (.inl hq)]
    exact h.dataDirs q hq hq0
  · show t.node? q = some .dir
    rw [hkeep q (.inr hq)]
    exact h.backupDirs q hq hq0

end Ready

/-- Only the tree of a store is laid out: its count of backups does not matter. -/
theorem Ready.withSequence (h : s.Ready) (n : Nat) : ({ s with sequence := n } : FileBlobs).Ready :=
  ⟨h.distinct, h.fits, h.dataDirs, h.backupDirs, h.dataApart, h.backupApart⟩

/-! ## What a store holds -/

/-- The bytes the store holds under `key`: the contents of the key's file in the data
directory. -/
def blob (s : FileBlobs) (key : String) : Option String :=
  if Blob.validKey key then
    match s.tree.node? (s.dataPath ++ [key ++ ".bin"]) with
    | some (.file c) => some c
    | _ => none
  else none

/-- `x` names a backup: a directory `backup_…` under the backup directory that holds a
manifest. -/
def Listed (s : FileBlobs) (x : String) : Prop :=
  "backup_".toList <+: x.toList ∧ s.tree.node? (s.backupPath ++ [x]) = some .dir ∧
    ∃ c, s.tree.node? (s.backupPath ++ [x, manifestName]) = some (.file c)

/-- `l` lists the names that satisfy `P`, each once, in the order `r`. -/
structure Lists (r : String → String → Prop) (P : String → Prop) (l : List String) : Prop where
  ordered : l.Pairwise r
  mem_iff : ∀ x, x ∈ l ↔ P x

theorem lists_mergeSort_up {l : List String} (hnd : l.Nodup) :
    Lists (· < ·) (· ∈ l) (l.mergeSort fun a b => decide (a ≤ b)) := by
  have hsorted := @List.pairwise_mergeSort String (fun a b => decide (a ≤ b))
    (fun a b c hab hbc => by simpa using le_trans (by simpa using hab) (by simpa using hbc))
    (fun a b => by simpa using le_total a b) l
  have hnd' := (List.mergeSort_perm l fun a b => decide (a ≤ b)).nodup_iff.2 hnd
  refine ⟨(hsorted.and hnd').imp fun ⟨hle, hne⟩ => lt_of_le_of_ne (by simpa using hle) hne, fun x => ?_⟩
  simp

theorem lists_mergeSort_down {l : List String} (hnd : l.Nodup) :
    Lists (· > ·) (· ∈ l) (l.mergeSort fun a b => decide (b ≤ a)) := by
  have hsorted := @List.pairwise_mergeSort String (fun a b => decide (b ≤ a))
    (fun a b c hab hbc => by simpa using le_trans (by simpa using hbc) (by simpa using hab))
    (fun a b => by simpa using le_total b a) l
  have hnd' := (List.mergeSort_perm l fun a b => decide (b ≤ a)).nodup_iff.2 hnd
  refine ⟨(hsorted.and hnd').imp fun ⟨hle, hne⟩ => lt_of_le_of_ne (by simpa using hle) (Ne.symm hne),
    fun x => ?_⟩
  simp

theorem Ready.blob_isSome_iff (h : s.Ready) {k : String} :
    (s.blob k).isSome ↔ Blob.validKey k = true ∧ s.tree.node? (s.dataPath ++ [k ++ ".bin"]) ≠ none := by
  unfold blob
  cases hk : Blob.validKey k
  · simp
  · cases hm : s.tree.node? (s.dataPath ++ [k ++ ".bin"]) with
    | none => simp
    | some m =>
      cases m with
      | file c => simp
      | dir => exact absurd rfl (h.dataFile hm)

/-- The manifest of a backup `x`: a file in the directory `x` under the backup directory. -/
theorem Ready.isFile_manifest (h : s.Ready) {x : String} (hx : PlainName x) :
    s.tree.isFile (at_ (joinText (joinText s.backupDir x) manifestName)) = true ↔
      s.tree.node? (s.backupPath ++ [x]) = some .dir ∧
        ∃ c, s.tree.node? (s.backupPath ++ [x, manifestName]) = some (.file c) := by
  have hpath : at_ (joinText (joinText s.backupDir x) manifestName) = ⟨s.backupPath ++ [x, manifestName], false⟩ := by
    rw [at_joinText _ PlainName.manifest, at_joinText _ hx]
    simp [backupPath]
  rw [hpath]
  exact FileTree.isFile_below h.plain_backupPath h.backupDirs hx PlainName.manifest

/-! ## Reading -/

/-- The keys a ready store lists are its blobs' keys, in order. -/
theorem liveKeys_run (h : s.Ready) :
    ∃ keys, liveKeys.run.run s = (.ok keys, s) ∧ Lists (· < ·) (fun k => (s.blob k).isSome) keys := by
  have hread := FileTree.readDir_dirsTo h.plain_dataPath h.dataDirs
    (show (at_ s.dataDir).names = s.dataPath from rfl) h.dataPath_ne_nil
  have hnd : ((s.tree.childNames s.dataPath).mergeSort fun a b => decide (a ≤ b)).Nodup :=
    (List.mergeSort_perm _ _).nodup_iff.2 (FileTree.nodup_childNames h.distinct)
  -- an entry stands for one key at most, and a key for one entry
  have hknd : (((s.tree.childNames s.dataPath).mergeSort fun a b => decide (a ≤ b)).filterMap keyOfEntry).Nodup :=
    hnd.filterMap fun a a' k ha ha' => by
      rw [Option.mem_def, keyOfEntry_eq_some_iff] at ha ha'
      exact ha.2.trans ha'.2.symm
  have hl := lists_mergeSort_up hknd
  refine ⟨_, ?_, ⟨hl.ordered, fun k => ?_⟩⟩
  · unfold liveKeys
    rw [run_bind_ok _ run_get, hread]
    rfl
  · rw [hl.mem_iff, List.mem_filterMap, h.blob_isSome_iff, ← FileTree.mem_childNames]
    simp only [List.mem_mergeSort, keyOfEntry_eq_some_iff]
    constructor
    · rintro ⟨e, he, hk, rfl⟩
      exact ⟨hk, he⟩
    · rintro ⟨hk, he⟩
      exact ⟨_, he, hk, rfl⟩

/-- The backups a ready store lists are the `backup_…` directories holding a manifest,
newest name first. -/
theorem listBackups_run (h : s.Ready) :
    ∃ names, listBackups.run.run s = (.ok names, s) ∧ Lists (· > ·) s.Listed names := by
  have hP : (at_ s.backupDir).names = s.backupPath := rfl
  have hex : s.tree.exists? (at_ s.backupDir) = true := by
    simp [FileTree.exists?, FileTree.stat_dirsTo h.plain_backupPath h.backupDirs hP h.backupPath_ne_nil]
  have hread := FileTree.readDir_dirsTo h.plain_backupPath h.backupDirs hP h.backupPath_ne_nil
  have hnd : ((s.tree.childNames s.backupPath).mergeSort fun a b => decide (a ≤ b)).Nodup :=
    (List.mergeSort_perm _ _).nodup_iff.2 (FileTree.nodup_childNames h.distinct)
  have hl := lists_mergeSort_down (hnd.filter fun n =>
    s.tree.isFile (at_ (joinText (joinText s.backupDir n) manifestName)) && n.startsWith "backup_")
  refine ⟨_, ?_, ⟨hl.ordered, fun x => ?_⟩⟩
  · unfold listBackups
    rw [run_bind_ok _ run_get]
    simp only [hex, Bool.not_true, Bool.false_eq_true, if_false]
    rw [hread]
    rfl
  · rw [hl.mem_iff, List.mem_filter, List.mem_mergeSort, FileTree.mem_childNames, Bool.and_eq_true,
      String.startsWith_string_iff]
    unfold Listed
    constructor
    · rintro ⟨hx, hfile, hpre⟩
      have hplain := (h.fits _ _ (Option.ne_none_iff_exists'.1 hx).choose_spec).plain x (by simp)
      exact ⟨hpre, (h.isFile_manifest hplain).1 hfile⟩
    · rintro ⟨hpre, hdir, hman⟩
      have hplain := (h.fits _ _ hdir).plain x (by simp)
      exact ⟨by simp [hdir], (h.isFile_manifest hplain).2 ⟨hdir, hman⟩, hpre⟩

/-- Reading a valid key answers its blob and changes nothing. -/
theorem get_run (h : s.Ready) {k : String} (hk : Blob.validKey k = true) : (get k).run.run s = (.ok (s.blob k), s) := by
  have hname := (PlainName.of_validKey hk).bin
  have hpath : at_ (s.blobPath k) = ⟨s.dataPath ++ [k ++ ".bin"], false⟩ := at_joinText _ hname
  unfold get
  rw [run_bind_ok _ (run_checkKey hk), run_bind_ok _ run_get, run_bind_ok _ (run_readText _), hpath,
    FileTree.read_entry h.plain_dataPath h.dataDirs hname]
  unfold blob
  rw [if_pos hk]
  cases hm : s.tree.node? (s.dataPath ++ [k ++ ".bin"]) with
  | none => rfl
  | some m =>
    cases m with
    | file c => rfl
    | dir => exact absurd rfl (h.dataFile hm)

/-! ## Writing -/

theorem temp_ne (x : String) : "." ++ x ++ ".tmp" ≠ x := by
  intro h
  have := congrArg (fun s => s.toList.length) h
  simp at this
  omega

/-- The tree after writing `c` to the file `x` of directory `P` through its temporary file. -/
def writeThrough (t : FileTree) (P : FsPath) (x c : String) : FileTree :=
  (t.setNode (P ++ ["." ++ x ++ ".tmp"]) (.file c)).move (P ++ ["." ++ x ++ ".tmp"]) (P ++ [x])

theorem node?_writeThrough {t : FileTree} {P : FsPath} {x : String} (c : String) (hl : t.Leaf (P ++ ["." ++ x ++ ".tmp"]))
    (hl' : t.Leaf (P ++ [x])) (q : FsPath) :
    (writeThrough t P x c).node? q =
      if q = P ++ [x] then some (.file c) else if q = P ++ ["." ++ x ++ ".tmp"] then none else t.node? q :=
  FileTree.node?_moveFresh hl hl' (by simpa [List.singleton_prefix_cons_iff] using fun h => temp_ne x h.symm)

theorem distinct_writeThrough {t : FileTree} (h : t.Distinct) (P : FsPath) (x c : String) :
    (writeThrough t P x c).Distinct :=
  h.setNode.move

/-- An atomic write of a plain name, in a directory with a plain path that exists and where
neither the name nor its temporary name is a directory. -/
theorem writeAtomic_run {dir x bytes : String} (hp : ∀ y ∈ (at_ dir).names, PlainName y)
    (hd : s.tree.DirsTo (at_ dir).names) (hx : PlainName x)
    (htmp : s.tree.node? ((at_ dir).names ++ ["." ++ x ++ ".tmp"]) ≠ some .dir)
    (hdst : s.tree.node? ((at_ dir).names ++ [x]) ≠ some .dir) :
    (writeAtomic dir (joinText dir x) bytes).run.run s =
      (.ok (.ok ()), { s with tree := writeThrough s.tree (at_ dir).names x bytes }) := by
  have hne : (at_ dir).names ++ ["." ++ x ++ ".tmp"] ≠ (at_ dir).names ++ [x] := by simpa using temp_ne x
  have hwrite := FileTree.write_entry hp hd hx.temp htmp bytes
  -- the written temporary file leaves the directories above it as they were
  have hd' : (s.tree.setNode ((at_ dir).names ++ ["." ++ x ++ ".tmp"]) (.file bytes)).DirsTo (at_ dir).names := by
    intro q hq hq0
    have hlen : q ≠ (at_ dir).names ++ ["." ++ x ++ ".tmp"] := fun e => by
      have := hq.length_le
      rw [e] at this
      simp at this
    rw [FileTree.node?_setNode, if_neg hlen]
    exact hd q hq hq0
  have hs : (s.tree.setNode ((at_ dir).names ++ ["." ++ x ++ ".tmp"]) (.file bytes)).node?
      ((at_ dir).names ++ ["." ++ x ++ ".tmp"]) = some (.file bytes) := by simp
  have hrename := FileTree.rename_file hp hd' hx.temp hp hd' hx hs
    (by rwa [FileTree.node?_setNode, if_neg hne.symm]) hne
  have hc1 : (change (·.write ⟨(at_ dir).names ++ ["." ++ x ++ ".tmp"], false⟩ bytes)).run.run s = _ :=
    run_change_ok hwrite
  unfold writeAtomic
  simp only [lastName_joinText dir hx, at_joinText dir hx.temp, at_joinText dir hx]
  rw [run_bind_ok _ hc1]
  exact run_change_ok hrename

/-! ## Where the layout stays -/

namespace Ready

variable (h : s.Ready)
include h

theorem data_not_prefix (u : FsPath) : ¬ s.dataPath <+: s.backupPath ++ u := fun hd =>
  (List.prefix_or_prefix_of_prefix hd (List.prefix_append _ _)).elim h.dataApart
    fun hb => h.backupApart hb

theorem backup_not_prefix (u : FsPath) : ¬ s.backupPath <+: s.dataPath ++ u := fun hb =>
  (List.prefix_or_prefix_of_prefix hb (List.prefix_append _ _)).elim h.backupApart
    fun hd => h.dataApart hd

/-- A file one level under the data directory fits. -/
theorem fits_data {y c : String} (hy : PlainName y) :
    Fits s.dataPath s.backupPath (s.dataPath ++ [y]) (.file c) := by
  refine ⟨fun z hz => ?_, fun r hr _ => ?_, fun r hr _ => ?_⟩
  · rcases List.mem_append.1 hz with hz | hz
    · exact h.plain_dataPath z hz
    · rw [List.mem_singleton.1 hz]
      exact hy
  · rw [List.append_cancel_left hr.symm]
    exact ⟨⟨y, rfl⟩, by simp⟩
  · exact absurd (hr ▸ List.prefix_append _ _) (h.backup_not_prefix [y])

/-- A backup's directory, and a file in it, fit. -/
theorem fits_backupDir {n : String} (hn : PlainName n) :
    Fits s.dataPath s.backupPath (s.backupPath ++ [n]) .dir := by
  refine ⟨fun z hz => ?_, fun r hr _ => ?_, fun r hr _ => ?_⟩
  · rcases List.mem_append.1 hz with hz | hz
    · exact h.plain_backupPath z hz
    · rw [List.mem_singleton.1 hz]
      exact hn
  · exact absurd (hr ▸ List.prefix_append _ _) (h.data_not_prefix [n])
  · rw [List.append_cancel_left hr.symm]
    exact .inl ⟨n, rfl, rfl⟩

theorem fits_backupFile {n y c : String} (hn : PlainName n) (hy : PlainName y) :
    Fits s.dataPath s.backupPath (s.backupPath ++ [n, y]) (.file c) := by
  refine ⟨fun z hz => ?_, fun r hr _ => ?_, fun r hr _ => ?_⟩
  · rcases List.mem_append.1 hz with hz | hz
    · exact h.plain_backupPath z hz
    · simp only [List.mem_cons, List.not_mem_nil, or_false] at hz
      rcases hz with rfl | rfl
      · exact hn
      · exact hy
  · exact absurd (hr ▸ List.prefix_append _ _) (h.data_not_prefix [n, y])
  · rw [List.append_cancel_left hr.symm]
    exact .inr ⟨n, y, rfl, by simp⟩

/-- The data directory, after writing one file in it. -/
theorem writeData {y c : String} (hy : PlainName y) :
    ({ s with tree := writeThrough s.tree s.dataPath y c } : FileBlobs).Ready := by
  have hnode := node?_writeThrough c (h.dataLeaf ("." ++ y ++ ".tmp")) (h.dataLeaf y)
  refine h.of_change (distinct_writeThrough h.distinct _ _ _) (fun q m hq => ?_) (fun q hq => ?_)
  · rw [hnode] at hq
    split at hq
    · rename_i hq'
      cases hq
      exact .inr (hq' ▸ h.fits_data hy)
    · split at hq
      · cases hq
      · exact .inl hq
  · rw [hnode] at hq
    split at hq
    · rename_i hq'
      exact .inl ⟨hq' ▸ List.prefix_append _ _, by simp [hq']⟩
    · split at hq
      · rename_i hq'
        exact .inl ⟨hq' ▸ List.prefix_append _ _, by simp [hq']⟩
      · exact absurd rfl hq

/-- The data directory, after removing one file from it. -/
theorem eraseData (y : String) : ({ s with tree := s.tree.erase (s.dataPath ++ [y]) } : FileBlobs).Ready := by
  refine h.of_change h.distinct.erase (fun q m hq => ?_) (fun q hq => ?_)
  · rw [FileTree.node?_erase] at hq
    split at hq
    · cases hq
    · exact .inl hq
  · rw [FileTree.node?_erase] at hq
    split at hq
    · rename_i hq'
      exact .inl ⟨hq' ▸ List.prefix_append _ _, by simp [hq']⟩
    · exact absurd rfl hq

end Ready

/-! ## Writing and deleting a blob -/

theorem bin_ne_temp (k x : String) : k ++ ".bin" ≠ "." ++ x ++ ".tmp" := by
  intro h
  have := congrArg (fun s => s.toList.reverse.head?) h
  simp at this

/-- A tree that agrees with the store's on the data directory holds the same blobs. -/
theorem blob_eq_of_data {t : FileTree} (ht : ∀ y, t.node? (s.dataPath ++ [y]) = s.tree.node? (s.dataPath ++ [y]))
    (k : String) : ({ s with tree := t } : FileBlobs).blob k = s.blob k := by
  simp only [blob, dataPath] at ht ⊢
  rw [ht]

theorem put_run (h : s.Ready) {k bytes : String} (hk : Blob.validKey k = true) :
    (put k bytes).run.run s = (.ok (), { s with tree := writeThrough s.tree s.dataPath (k ++ ".bin") bytes }) := by
  have hw : (writeAtomic s.dataDir (s.blobPath k) bytes).run.run s =
      (.ok (.ok ()), { s with tree := writeThrough s.tree s.dataPath (k ++ ".bin") bytes }) :=
    writeAtomic_run h.plain_dataPath h.dataDirs (PlainName.of_validKey hk).bin
      (fun hm => h.dataFile hm rfl) (fun hm => h.dataFile hm rfl)
  unfold put
  rw [run_bind_ok _ (run_checkKey hk), run_bind_ok _ run_get, run_bind_ok _ hw]
  rfl

/-- After a write, the key holds the bytes written; every other key what it held. -/
theorem blob_writeData (h : s.Ready) {k c : String} (hk : Blob.validKey k = true) (k' : String) :
    ({ s with tree := writeThrough s.tree s.dataPath (k ++ ".bin") c } : FileBlobs).blob k' =
      if k' = k then some c else s.blob k' := by
  have hnode := node?_writeThrough c (h.dataLeaf ("." ++ (k ++ ".bin") ++ ".tmp")) (h.dataLeaf (k ++ ".bin"))
  simp only [blob, dataPath] at hnode ⊢
  rw [hnode]
  by_cases hkk : k' = k
  · subst hkk
    simp [hk]
  · have h1 : ¬ k' ++ ".bin" = k ++ ".bin" := fun e => hkk (by simpa using e)
    simp [hkk, h1, bin_ne_temp k' (k ++ ".bin")]

theorem delete_run (h : s.Ready) {k : String} (hk : Blob.validKey k = true) :
    (delete k).run.run s = (.ok (), { s with tree := s.tree.erase (s.dataPath ++ [k ++ ".bin"]) }) := by
  have hname := (PlainName.of_validKey hk).bin
  have hpath : at_ (s.blobPath k) = ⟨s.dataPath ++ [k ++ ".bin"], false⟩ := at_joinText _ hname
  unfold delete
  rw [run_bind_ok _ (run_checkKey hk), run_bind_ok _ run_get, hpath]
  cases hm : s.tree.node? (s.dataPath ++ [k ++ ".bin"]) with
  | none =>
    -- nothing to delete: the failure to find it is no failure
    have hc : (change (·.removeFile ⟨s.dataPath ++ [k ++ ".bin"], false⟩)).run.run s = (.ok (.error .notFound), s) :=
      run_change_error (FileTree.removeFile_missing h.plain_dataPath h.dataDirs hname hm)
    rw [run_bind_ok _ hc, FileTree.erase_of_none hm]
    rfl
  | some m =>
    cases m with
    | file c =>
      have hc : (change (·.removeFile ⟨s.dataPath ++ [k ++ ".bin"], false⟩)).run.run s =
          (.ok (.ok ()), { s with tree := s.tree.erase (s.dataPath ++ [k ++ ".bin"]) }) :=
        run_change_ok (FileTree.removeFile_file h.plain_dataPath h.dataDirs hname hm)
      rw [run_bind_ok _ hc]
      rfl
    | dir => exact absurd rfl (h.dataFile hm)

/-- After a delete, the key holds nothing; every other key what it held. -/
theorem blob_eraseData {k : String} (k' : String) :
    ({ s with tree := s.tree.erase (s.dataPath ++ [k ++ ".bin"]) } : FileBlobs).blob k' =
      if k' = k then none else s.blob k' := by
  simp only [blob, dataPath, FileTree.node?_erase]
  by_cases hkk : k' = k
  · simp [hkk]
  · have h1 : ¬ k' ++ ".bin" = k ++ ".bin" := fun e => hkk (by simpa using e)
    simp [hkk, h1]

/-! ## A backup's directory -/

/-- A tree that agrees with the store's on a backup's directory and manifest lists the
same backup there. -/
theorem listed_of_agree {t : FileTree} {x : String}
    (h1 : t.node? (s.backupPath ++ [x]) = s.tree.node? (s.backupPath ++ [x]))
    (h2 : t.node? (s.backupPath ++ [x, manifestName]) = s.tree.node? (s.backupPath ++ [x, manifestName])) :
    ({ s with tree := t } : FileBlobs).Listed x ↔ s.Listed x := by
  simp only [Listed, backupPath] at h1 h2 ⊢
  rw [h1, h2]

namespace Ready

variable (h : s.Ready)
include h

theorem plain_of_backupDir {n : String} (hn : s.tree.node? (s.backupPath ++ [n]) = some .dir) : PlainName n :=
  (h.fits _ _ hn).plain n (by simp)

theorem dirsTo_backup {n : String} (hn : s.tree.node? (s.backupPath ++ [n]) = some .dir) :
    s.tree.DirsTo (s.backupPath ++ [n]) := fun q hq hq0 => by
  rcases List.prefix_concat_iff.1 hq with rfl | hq
  · exact hn
  · exact h.backupDirs q hq hq0

/-- A path in the data directory is none of a backup's. -/
theorem data_ne_backup (y : String) (u : FsPath) : s.dataPath ++ [y] ≠ s.backupPath ++ u := fun e =>
  h.backup_not_prefix [y] (e ▸ List.prefix_append _ _)

theorem withBackupDir {n : String} (hn : PlainName n) :
    ({ s with tree := s.tree.withDir (s.backupPath ++ [n]) } : FileBlobs).Ready := by
  refine h.of_change h.distinct.withDir (fun q m hq => ?_) (fun q hq => ?_)
  · rw [FileTree.node?_withDir] at hq
    split at hq
    · rename_i hq'
      cases hq
      exact .inr (hq' ▸ h.fits_backupDir hn)
    · exact .inl hq
  · rw [FileTree.node?_withDir] at hq
    split at hq
    · rename_i hq'
      exact .inr ⟨hq' ▸ List.prefix_append _ _, by simp [hq']⟩
    · exact absurd rfl hq

theorem writeBackup {n y c : String} (hn : s.tree.node? (s.backupPath ++ [n]) = some .dir) (hy : PlainName y) :
    ({ s with tree := writeThrough s.tree (s.backupPath ++ [n]) y c } : FileBlobs).Ready := by
  have hl : s.tree.Leaf (s.backupPath ++ [n] ++ ["." ++ y ++ ".tmp"]) := by
    simpa using h.backupLeaf n ("." ++ y ++ ".tmp")
  have hl' : s.tree.Leaf (s.backupPath ++ [n] ++ [y]) := by simpa using h.backupLeaf n y
  have hnode := node?_writeThrough c hl hl'
  have hpn := h.plain_of_backupDir hn
  refine h.of_change (distinct_writeThrough h.distinct _ _ _) (fun q m hq => ?_) (fun q hq => ?_)
  · rw [hnode] at hq
    split at hq
    · rename_i hq'
      cases hq
      exact .inr (by simpa [hq'] using h.fits_backupFile hpn hy)
    · split at hq
      · cases hq
      · exact .inl hq
  · rw [hnode] at hq
    split at hq
    · rename_i hq'
      exact .inr ⟨hq' ▸ by simp, by simp [hq']⟩
    · split at hq
      · rename_i hq'
        exact .inr ⟨hq' ▸ by simp, by simp [hq']⟩
      · exact absurd rfl hq

theorem eraseBackup (x : String) :
    ({ s with tree := s.tree.eraseUnder (s.backupPath ++ [x]) } : FileBlobs).Ready := by
  refine h.of_change h.distinct.eraseUnder (fun q m hq => ?_) (fun q hq => ?_)
  · rw [FileTree.node?_eraseUnder] at hq
    split at hq
    · cases hq
    · exact .inl hq
  · rw [FileTree.node?_eraseUnder] at hq
    split at hq
    · rename_i hq'
      refine .inr ⟨(List.prefix_append _ _).trans hq', fun e => ?_⟩
      have := hq'.length_le
      rw [e] at this
      simp at this
    · exact absurd rfl hq

end Ready

theorem makeBackupDir_run (h : s.Ready) {n : String} (hn : PlainName n) :
    (change (·.createDirAll (at_ (joinText s.backupDir n)))).run.run s =
      (.ok (.ok ()), { s with tree := s.tree.withDir (s.backupPath ++ [n]) }) := by
  rw [at_joinText _ hn]
  exact run_change_ok (FileTree.createDirAll_entry h.plain_backupPath h.backupDirs hn
    fun c hc => absurd (h.backupDir hc) (by simp))

/-- An atomic write of a plain name in the directory of a backup. -/
theorem writeBackup_run (h : s.Ready) {n y bytes : String} (hn : s.tree.node? (s.backupPath ++ [n]) = some .dir)
    (hy : PlainName y) :
    (writeAtomic (joinText s.backupDir n) (joinText (joinText s.backupDir n) y) bytes).run.run s =
      (.ok (.ok ()), { s with tree := writeThrough s.tree (s.backupPath ++ [n]) y bytes }) := by
  have hdir : (at_ (joinText s.backupDir n)).names = s.backupPath ++ [n] := by
    rw [at_joinText _ (h.plain_of_backupDir hn)]
    rfl
  have hp : ∀ z ∈ (at_ (joinText s.backupDir n)).names, PlainName z := by
    rw [hdir]
    exact (h.fits _ _ hn).plain
  have hd : s.tree.DirsTo (at_ (joinText s.backupDir n)).names := by
    rw [hdir]
    exact h.dirsTo_backup hn
  have hfile : ∀ z, s.tree.node? ((at_ (joinText s.backupDir n)).names ++ [z]) ≠ some .dir := by
    intro z hm
    rw [hdir] at hm
    exact h.backupFile (by simpa using hm) rfl
  rw [writeAtomic_run hp hd hy (hfile _) (hfile _), hdir]

/-! ## Copying blobs into a backup -/

/-- A blob held is a valid key's file in the data directory. -/
theorem blob_eq_some {k c : String} (hc : s.blob k = some c) :
    Blob.validKey k = true ∧ s.tree.node? (s.dataPath ++ [k ++ ".bin"]) = some (.file c) := by
  unfold blob at hc
  split at hc
  · rename_i hk
    refine ⟨hk, ?_⟩
    split at hc
    · rename_i c' hm
      cases hc
      exact hm
    · cases hc
  · cases hc

/-- Reading a blob through the data directory of a store with the same data directory. -/
theorem readBlob_run (h : s.Ready) {s0 : FileBlobs} (hs0 : s0.dataDir = s.dataDir) {k c : String}
    (hc : s.blob k = some c) : (readText (s0.blobPath k)).run.run s = (.ok (.ok c), s) := by
  obtain ⟨hk, hm⟩ := blob_eq_some hc
  have hpath : at_ (s0.blobPath k) = ⟨s.dataPath ++ [k ++ ".bin"], false⟩ := by
    rw [blobPath, hs0]
    exact at_joinText _ (PlainName.of_validKey hk).bin
  rw [run_readText, hpath, FileTree.read_entry h.plain_dataPath h.dataDirs (PlainName.of_validKey hk).bin, hm]

/-- Copying the blobs of `keys` into the directory of backup `n`: each key's file there
holds the key's bytes, every path but the keys' files and their temporary files is as it
was, and the store keeps its layout. -/
theorem copyBlobs_run (s0 : FileBlobs) (n : String) (keys : List String) :
    ∀ {s : FileBlobs}, s.Ready → s0.dataDir = s.dataDir → s.tree.node? (s.backupPath ++ [n]) = some .dir →
      (∀ k ∈ keys, (s.blob k).isSome) →
      ∃ t, (copyBlobs s0 (joinText s.backupDir n) keys).run.run s =
          (.ok (keys.map fun k => (k, Sha256.hexOf ((s.blob k).getD ""))), { s with tree := t }) ∧
        ({ s with tree := t } : FileBlobs).Ready ∧
        (∀ q, (∀ k ∈ keys, q ≠ s.backupPath ++ [n, k ++ ".bin"] ∧
            q ≠ s.backupPath ++ [n, "." ++ (k ++ ".bin") ++ ".tmp"]) → t.node? q = s.tree.node? q) ∧
        (∀ k ∈ keys, t.node? (s.backupPath ++ [n, k ++ ".bin"]) = some (.file ((s.blob k).getD ""))) := by
  induction keys with
  | nil =>
    intro s h _ _ _
    exact ⟨s.tree, rfl, h, fun _ _ => rfl, by simp⟩
  | cons k keys ih =>
    intro s h hs0 hn hkeys
    obtain ⟨c, hc⟩ := Option.isSome_iff_exists.1 (hkeys k List.mem_cons_self)
    have hk := (blob_eq_some hc).1
    have hy := (PlainName.of_validKey hk).bin
    -- the first copy, written through its temporary file in the backup's directory
    have hl : s.tree.Leaf (s.backupPath ++ [n] ++ ["." ++ (k ++ ".bin") ++ ".tmp"]) := by
      simpa using h.backupLeaf n ("." ++ (k ++ ".bin") ++ ".tmp")
    have hl' : s.tree.Leaf (s.backupPath ++ [n] ++ [k ++ ".bin"]) := by simpa using h.backupLeaf n (k ++ ".bin")
    have hnode := node?_writeThrough c hl hl'
    have h1 := h.writeBackup (c := c) hn hy
    have hn1 : (writeThrough s.tree (s.backupPath ++ [n]) (k ++ ".bin") c).node? (s.backupPath ++ [n]) = some .dir := by
      rw [hnode]
      simpa using hn
    have hblob1 : ∀ k', ({ s with tree := writeThrough s.tree (s.backupPath ++ [n]) (k ++ ".bin") c } : FileBlobs).blob k' =
        s.blob k' := blob_eq_of_data fun y => by
      rw [hnode, if_neg (by simpa using h.data_ne_backup y [n, k ++ ".bin"]),
        if_neg (by simpa using h.data_ne_backup y [n, "." ++ (k ++ ".bin") ++ ".tmp"])]
    obtain ⟨t, hrun, hready, hframe, hfiles⟩ := ih h1 hs0 hn1
      fun k' hk' => by rw [hblob1]; exact hkeys k' (List.mem_cons_of_mem k hk')
    refine ⟨t, ?_, hready, fun q hq => ?_, fun k' hk' => ?_⟩
    · rw [copyBlobs, run_bind_ok _ (readBlob_run h hs0 hc), run_bind_ok _ (run_orFail_ok _ _),
        run_bind_ok _ (writeBackup_run h hn hy), run_bind_ok _ (run_orFail_ok _ _), run_bind_ok _ hrun]
      simp only [hblob1, List.map_cons, hc, Option.getD_some]
      rfl
    · -- a path that no copy names is as it was, through the first write and the rest
      obtain ⟨hq1, hq2⟩ := hq k List.mem_cons_self
      rw [hframe q fun k' hk' => hq k' (List.mem_cons_of_mem k hk'), hnode, if_neg (by simpa using hq1),
        if_neg (by simpa using hq2)]
    · by_cases hin : k' ∈ keys
      · have hfile := hfiles k' hin
        rw [hblob1] at hfile
        exact hfile
      · -- the first copy is the only one of this key, and the later ones leave it
        obtain rfl : k' = k := by simpa [hin] using hk'
        rw [hframe _ fun k'' hk'' => ⟨?_, ?_⟩, hnode, if_pos (by simp), hc]
        · rfl
        · intro e
          have : k' = k'' := by simpa [backupPath] using e
          exact hin (this ▸ hk'')
        · intro e
          exact bin_ne_temp k' (k'' ++ ".bin") (by simpa [backupPath] using e)

end FileBlobs

end DocStore
