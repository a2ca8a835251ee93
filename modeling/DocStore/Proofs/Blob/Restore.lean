import DocStore.Proofs.Json.Blanks
import DocStore.Proofs.Blob.Retention
/-
  DocStore.Proofs.Blob.Restore — restoring a backup of a file store checks every copy
  before it writes, then puts back exactly the backup's blobs.

  (1) The manifest. A manifest in the store's indented layout reads back as the checksums
  it was written with, whatever its creation time, when they come in key order
  (`manifest_reads`).

  (2) A backup as restore sees it. A `backup_…` name the store takes as a key, naming a
  directory (`BackupAt`); the manifest there, when it is a file that reads (`manifestOf`);
  the copy of each key (`copyOf`); and an entry of the manifest whose key is valid and
  whose copy has the recorded checksum (`CopyMatches`).

  (3) The steps. Checking the copies reads and changes nothing (`verifyCopies_run`,
  `verifyCopies_fails`); putting the copies back writes each key and nothing else
  (`putAll_run`); the sweep deletes every live key the manifest does not list
  (`sweep_run`).

  Proved (`restoreBackup_checks_then_restores`): a name that is no backup answers `false`
  and changes nothing; a missing or unreadable manifest, or an entry a copy does not bear
  out, fails and changes nothing; otherwise the store holds exactly the manifest's keys,
  each with its copy. A backup taken by the store and left alone since brings back the
  blobs it was taken from.
-/

namespace DocStore

namespace FileBlobs

open JsonRead JsonText

variable {s : FileBlobs}

/-! ## The manifest -/

theorem manifestMember_createdAt (d : Option String × Option (List (String × String))) :
    Codec.manifestMember d "created_at" = (do pure (some (← fieldOnce "created_at" d.1 text), d.2)) := rfl

theorem manifestMember_checksums (d : Option String × Option (List (String × String))) :
    Codec.manifestMember d "checksums" = (do pure (d.1, some (← fieldOnce "checksums" d.2 (keyedMap text)))) := rfl

/-- A manifest in the indented layout reads back as its checksums, whatever its creation
text, when the checksums come in key order. -/
theorem manifest_reads_pretty (created : String) (sums : List (String × String))
    (hs : sums.Pairwise (fun p q => p.1 < q.1)) :
    JsonRead.run Codec.manifest (Json.obj [("created_at", .str created),
      ("checksums", .obj (sums.map fun p => (p.1, .str p.2)))]).prettyText = .ok sums := by
  have hw := Json.prettyText_written (.obj [("created_at", .str created),
    ("checksums", .obj (sums.map fun p => (p.1, .str p.2)))])
  generalize htext : (Json.obj [("created_at", .str created),
    ("checksums", .obj (sums.map fun p => (p.1, .str p.2)))]).prettyText = text at hw
  generalize htl : text.toList = tl at hw
  -- the layout of the two members, down to the blanks around each separator
  cases hw with
  | @obj _ t hmw =>
  cases hmw with
  | @next _ _ _ _ bA sA b₁ b₂ tA rest hbl hsp hb₁ hb₂ hw1 hrest =>
  cases hw1
  cases hrest with
  | @next _ _ _ _ bB sB b₁' b₂' tv rest' hbl' hsp' hb₁' hb₂' hw2 hrest' =>
  cases hrest' with
  | done hend =>
  obtain ⟨tv', rfl, hmw2⟩ : ∃ tv', tv = '{' :: tv' ++ ['}'] ∧
      Json.MembersWritten true (sums.map fun p => (p.1, .str p.2)) tv' := by
    cases hw2 with
    | obj h => exact ⟨_, rfl, h⟩
  have hsums : sums.foldl (fun acc p => insertKey p.1 p.2 acc) [] = sums := by
    have h := @foldl_insertKey_sorted _ sums [] hs (by simp)
    simpa using h
  -- each member read by the manifest's member step
  have hcreated : ∀ F, Reads F 2 (sums.length + 3) (Codec.manifestMember (none, none) "created_at")
      (b₁ ++ ':' :: (b₂ ++ (quote created).toList)) (some created, none) := fun F => by
    have hval := Reads.blanks text_skipsBlanks (Reads.text (F := F) (d := 2) (b := sums.length + 3) created) hb₂
      (fun _ _ => by simp [toList_quote, NoLeadingBlank, IsBlank])
    rw [manifestMember_createdAt]
    exact (Reads.fieldOnce_sep "created_at" hb₁ hval).bind_pure rfl
  have hchecks : ∀ F, Reads F 2 (sums.length + 3) (Codec.manifestMember (some created, none) "checksums")
      (b₁' ++ ':' :: (b₂' ++ ('{' :: tv' ++ ['}']))) (some created, some sums) := fun F => by
    have hmap := Reads.blanks (keyedMap_skipsBlanks _)
      (Reads.keyedMap_written (F := F) (d := 1) (b := sums.length + 3) hw2 le_rfl (by simp)) hb₂'
      (fun rest _ => by simp [NoLeadingBlank, IsBlank])
    rw [hsums] at hmap
    rw [manifestMember_checksums]
    exact (Reads.fieldOnce_sep "checksums" hb₁' hmap).bind_pure rfl
  have hsteps : StepsAlong Codec.manifestMember 2 (sums.length + 3) (none, none)
      [("created_at", b₁ ++ ':' :: (b₂ ++ (quote created).toList)),
       ("checksums", b₁' ++ ':' :: (b₂' ++ ('{' :: tv' ++ ['}'])))] (some created, some sums) :=
    .cons hcreated (.cons hchecks (.nil _))
  have hlaid : MembersLaid true [("created_at", b₁ ++ ':' :: (b₂ ++ (quote created).toList)),
       ("checksums", b₁' ++ ':' :: (b₂' ++ ('{' :: tv' ++ ['}'])))]
      (bA ++ sA ++ (quote "created_at").toList ++ (b₁ ++ ':' :: (b₂ ++ (quote created).toList)) ++
        (bB ++ sB ++ (quote "checksums").toList ++ (b₁' ++ ':' :: (b₂' ++ ('{' :: tv' ++ ['}']))) ++
          rest')) :=
    .next hbl hsp (.next hbl' hsp' (.done hend))
  -- both fields found, the record gives the checksums
  have hfm : Reads (ClosesWith '}') 2 (sums.length + 3)
      (do let d ← JsonRead.membersOf Codec.manifestMember (← fuelFor) true (none, none)
          let _ ← required "created_at" d.1
          required "checksums" d.2) _ sums :=
    Reads.fuelFor_bind fun n hn => (Reads.membersOf_laid hsteps n hlaid (by simp; omega)).bind_pure rfl
  have hrec : Reads (· = []) 3 (sums.length + 3) Codec.manifest _ sums :=
    Reads.record "BackupMetadata" (by norm_num) hfm
  have hlen := length_le_of_membersWritten hmw2
  have hsize := congrArg List.length htl
  simp only [String.length_toList, List.length_cons, List.length_append] at hsize
  refine run_of_reads (d := 3) (b := sums.length + 3) ?_ (by norm_num) (by simp at hlen; omega)
  rw [htl]
  convert hrec using 2
  simp only [List.append_assoc, List.cons_append]

/-- A backup's manifest reads back as the checksums it was written with, when they come in
key order. -/
theorem manifest_reads (now : Instant) {sums : List (String × String)} (hs : sums.Pairwise (fun p q => p.1 < q.1)) :
    JsonRead.run Codec.manifest (manifestText now sums) = .ok sums :=
  manifest_reads_pretty now.toLongText sums hs

/-! ## A backup as restore sees it -/

/-- `name` is a backup restore opens: a `backup_…` name the store takes as a key, naming a
directory under the backup directory. -/
def BackupAt (s : FileBlobs) (name : String) : Prop :=
  "backup_".toList <+: name.toList ∧ Blob.validKey name = true ∧
    s.tree.node? (s.backupPath ++ [name]) = some .dir

/-- The copy of `key` in backup `name`: the file `key.bin` in the backup's directory. -/
def copyOf (s : FileBlobs) (name key : String) : Option String :=
  match s.tree.node? (s.backupPath ++ [name, key ++ ".bin"]) with
  | some (.file c) => some c
  | _ => none

/-- The checksums the manifest of backup `name` records, when the manifest is a file and
reads as one. -/
def manifestOf (s : FileBlobs) (name : String) : Option (List (String × String)) :=
  match s.tree.node? (s.backupPath ++ [name, manifestName]) with
  | some (.file c) => (JsonRead.run Codec.manifest c).toOption
  | _ => none

/-- An entry of a manifest that backup `name` bears out: a valid key whose copy is there
with the recorded checksum. -/
def CopyMatches (s : FileBlobs) (name : String) (p : String × String) : Prop :=
  Blob.validKey p.1 = true ∧ ∃ c, s.copyOf name p.1 = some c ∧ Sha256.hexOf c = p.2

/-- A file in the directory of backup `name`, read through the store's paths. -/
theorem Ready.read_backupFile (h : s.Ready) {name y : String}
    (hn : s.tree.node? (s.backupPath ++ [name]) = some .dir) (hy : PlainName y) :
    s.tree.read (at_ (joinText (joinText s.backupDir name) y)) =
      match s.tree.node? (s.backupPath ++ [name, y]) with
      | some (.file c) => .ok c
      | some .dir => .error .isDirectory
      | none => .error .notFound := by
  have hpath : at_ (joinText (joinText s.backupDir name) y) = ⟨s.backupPath ++ [name] ++ [y], false⟩ := by
    rw [at_joinText _ hy, at_joinText _ (h.plain_of_backupDir hn)]
    rfl
  rw [hpath, FileTree.read_entry (h.fits _ _ hn).plain (h.dirsTo_backup hn) hy, List.append_assoc]
  rfl

/-- Reading the copy of a key that backup `name` holds. -/
theorem readCopy_run (h : s.Ready) {name key c : String} (hn : s.tree.node? (s.backupPath ++ [name]) = some .dir)
    (hk : Blob.validKey key = true) (hc : s.copyOf name key = some c) :
    (readText (joinText (joinText s.backupDir name) (key ++ ".bin"))).run.run s = (.ok (.ok c), s) := by
  rw [run_readText, h.read_backupFile hn (PlainName.of_validKey hk).bin]
  unfold copyOf at hc
  split at hc
  · rename_i c' hm
    cases hc
    rw [hm]
  · cases hc

/-- Reading the copy of a key that backup `name` lacks fails. -/
theorem readCopy_missing (h : s.Ready) {name key : String} (hn : s.tree.node? (s.backupPath ++ [name]) = some .dir)
    (hk : Blob.validKey key = true) (hc : s.copyOf name key = none) :
    ∃ e, (readText (joinText (joinText s.backupDir name) (key ++ ".bin"))).run.run s = (.ok (.error e), s) := by
  rw [run_readText, h.read_backupFile hn (PlainName.of_validKey hk).bin]
  unfold copyOf at hc
  split at hc
  · cases hc
  · rename_i hm
    cases hnode : s.tree.node? (s.backupPath ++ [name, key ++ ".bin"]) with
    | none => exact ⟨_, rfl⟩
    | some m =>
      cases m with
      | dir => exact ⟨_, rfl⟩
      | file c' => exact absurd hnode (hm c')

/-! ## Checking the copies -/

section Verify

variable (h : s.Ready) {name : String} (hn : s.tree.node? (s.backupPath ++ [name]) = some .dir)
include h hn

/-- An entry the backup bears out is checked without a trace, and its copy is kept. -/
theorem verifyCopies_cons {key expected : String} (hm : s.CopyMatches name (key, expected))
    (sums : List (String × String)) :
    (verifyCopies name (joinText s.backupDir name) ((key, expected) :: sums)).run.run s =
      (verifyCopies name (joinText s.backupDir name) sums >>= fun copies =>
        pure ((key, (s.copyOf name key).getD "") :: copies)).run.run s := by
  obtain ⟨hk, c, hc, hhash⟩ := hm
  rw [verifyCopies, run_bind_ok _ (run_checkKey hk), run_bind_ok _ (readCopy_run h hn hk hc),
    run_bind_ok _ (run_orFail_ok _ _)]
  simp only [hhash, hc, bne_self_eq_false, Bool.false_eq_true, if_false, Option.getD_some]

/-- An entry the backup does not bear out fails the check, and nothing changes. -/
theorem verifyCopies_cons_fails {key expected : String} (hm : ¬ s.CopyMatches name (key, expected))
    (sums : List (String × String)) :
    ∃ e, (verifyCopies name (joinText s.backupDir name) ((key, expected) :: sums)).run.run s = (.error e, s) := by
  rw [verifyCopies]
  cases hk : Blob.validKey key with
  | false => exact ⟨_, run_bind_error _ (run_checkKey_invalid hk)⟩
  | true =>
    rw [run_bind_ok _ (run_checkKey hk)]
    cases hc : s.copyOf name key with
    | none =>
      -- the copy is missing: the read fails and so does the check
      obtain ⟨e, hread⟩ := readCopy_missing h hn hk hc
      rw [run_bind_ok _ hread]
      exact ⟨_, run_bind_error _ (run_orFail_error _ e)⟩
    | some c =>
      -- the copy is there with another checksum
      have hhash : Sha256.hexOf c ≠ expected := fun e => hm ⟨hk, c, hc, e⟩
      rw [run_bind_ok _ (readCopy_run h hn hk hc), run_bind_ok _ (run_orFail_ok _ _)]
      simp only [bne_iff_ne, ne_eq, hhash, not_false_eq_true, if_true]
      exact ⟨_, run_bind_error _ (run_throw _)⟩

/-- When the backup bears out every entry, the check answers each key with its copy and
changes nothing. -/
theorem verifyCopies_run : ∀ sums : List (String × String), (∀ p ∈ sums, s.CopyMatches name p) →
    (verifyCopies name (joinText s.backupDir name) sums).run.run s =
      (.ok (sums.map fun p => (p.1, (s.copyOf name p.1).getD "")), s)
  | [], _ => rfl
  | (key, expected) :: sums, hall => by
    rw [verifyCopies_cons h hn (hall _ List.mem_cons_self),
      run_bind_ok _ (verifyCopies_run sums fun p hp => hall p (List.mem_cons_of_mem _ hp))]
    rfl

/-- When the backup does not bear out some entry, the check fails and nothing changes. -/
theorem verifyCopies_fails : ∀ sums : List (String × String), (∃ p ∈ sums, ¬ s.CopyMatches name p) →
    ∃ e, (verifyCopies name (joinText s.backupDir name) sums).run.run s = (.error e, s)
  | [], ⟨_, hp, _⟩ => absurd hp List.not_mem_nil
  | (key, expected) :: sums, hbad => by
    by_cases hm : s.CopyMatches name (key, expected)
    · -- this entry passes, so the failure is further on
      have hrest : ∃ p ∈ sums, ¬ s.CopyMatches name p := by
        obtain ⟨p, hp, hnp⟩ := hbad
        rcases List.mem_cons.1 hp with rfl | hp
        · exact absurd hm hnp
        · exact ⟨p, hp, hnp⟩
      obtain ⟨e, he⟩ := verifyCopies_fails sums hrest
      exact ⟨e, by rw [verifyCopies_cons h hn hm, run_bind_error _ he]⟩
    · exact verifyCopies_cons_fails h hn hm sums

end Verify

/-! ## Writing back -/

/-- Putting back blobs whose bytes are a function of their key writes each of the keys and
keeps the layout; every other key holds what it held. -/
theorem putAll_run (f : String → String) : ∀ keys : List String, (∀ k ∈ keys, Blob.validKey k = true) →
    ∀ {s : FileBlobs}, s.Ready →
    ∃ t, (putAll (keys.map fun k => (k, f k))).run.run s = (.ok (), { s with tree := t }) ∧
      ({ s with tree := t } : FileBlobs).Ready ∧
      ∀ k, ({ s with tree := t } : FileBlobs).blob k = if k ∈ keys then some (f k) else s.blob k
  | [], _, s, h => ⟨s.tree, rfl, h, fun k => by simp⟩
  | key :: keys, hkeys, s, h => by
    have hk := hkeys key List.mem_cons_self
    obtain ⟨t, hrun, hready, hblob⟩ := putAll_run f keys (fun k hk' => hkeys k (List.mem_cons_of_mem _ hk'))
      (h.writeData (c := f key) (PlainName.of_validKey hk).bin)
    refine ⟨t, ?_, hready, fun k => ?_⟩
    · rw [List.map_cons, putAll, run_bind_ok _ (put_run h hk)]
      exact hrun
    · rw [hblob k, blob_writeData h hk k]
      by_cases hin : k ∈ keys
      · simp [hin]
      · by_cases hkk : k = key
        · simp [hkk]
        · simp [hin, hkk]

theorem any_fst_eq_iff (sums : List (String × String)) (key : String) :
    sums.any (·.1 == key) = true ↔ key ∈ sums.map (·.1) := by
  simp only [List.any_eq_true, beq_iff_eq, List.mem_map]

/-- Deleting the keys of `keys` the manifest does not list, one by one. -/
theorem deleteUnlisted_run (sums : List (String × String)) :
    ∀ keys : List String, (∀ k ∈ keys, Blob.validKey k = true) → ∀ {s : FileBlobs}, s.Ready →
    ∃ t, (deleteUnlisted sums keys).run.run s = (.ok (), { s with tree := t }) ∧
      ({ s with tree := t } : FileBlobs).Ready ∧
      ∀ k, ({ s with tree := t } : FileBlobs).blob k = if k ∈ keys ∧ k ∉ sums.map (·.1) then none else s.blob k
  | [], _, s, h => ⟨s.tree, rfl, h, fun k => by simp⟩
  | key :: keys, hkeys, s, h => by
    have hk := hkeys key List.mem_cons_self
    have hrest : ∀ k ∈ keys, Blob.validKey k = true := fun k hk' => hkeys k (List.mem_cons_of_mem _ hk')
    by_cases hlisted : key ∈ sums.map (·.1)
    · -- a key the manifest lists stays
      have hany : sums.any (·.1 == key) = true := (any_fst_eq_iff sums key).2 hlisted
      obtain ⟨t, hrun, hready, hblob⟩ := deleteUnlisted_run sums keys hrest h
      refine ⟨t, ?_, hready, fun k => ?_⟩
      · rw [deleteUnlisted]
        simp only [hany, Bool.not_true, Bool.false_eq_true, if_false]
        exact hrun
      · rw [hblob k]
        by_cases hkk : k = key
        · simp [hkk, hlisted]
        · simp only [List.mem_cons, hkk, false_or]
    · have hany : sums.any (·.1 == key) = false := Bool.eq_false_iff.2 (mt (any_fst_eq_iff sums key).1 hlisted)
      obtain ⟨t, hrun, hready, hblob⟩ := deleteUnlisted_run sums keys hrest (h.eraseData (key ++ ".bin"))
      refine ⟨t, ?_, hready, fun k => ?_⟩
      · rw [deleteUnlisted]
        simp only [hany, Bool.not_false, if_true]
        rw [run_bind_ok _ (delete_run h hk)]
        exact hrun
      · rw [hblob k, blob_eraseData k]
        by_cases hkk : k = key
        · simp [hkk, hlisted]
        · simp only [hkk, if_false, List.mem_cons, false_or]

/-- The sweep deletes every live key the manifest does not list; the others hold what they
held. -/
theorem sweep_run (h : s.Ready) (sums : List (String × String)) :
    ∃ t, (sweep sums).run.run s = (.ok (), { s with tree := t }) ∧ ({ s with tree := t } : FileBlobs).Ready ∧
      ∀ k, ({ s with tree := t } : FileBlobs).blob k = if k ∈ sums.map (·.1) then s.blob k else none := by
  obtain ⟨keys, hlive, hl⟩ := liveKeys_run h
  have hvalid : ∀ k ∈ keys, Blob.validKey k = true := fun k hk => (h.blob_isSome_iff.1 ((hl.mem_iff k).1 hk)).1
  obtain ⟨t, hrun, hready, hblob⟩ := deleteUnlisted_run sums keys hvalid h
  refine ⟨t, ?_, hready, fun k => ?_⟩
  · rw [sweep, run_bind_ok _ hlive]
    exact hrun
  · rw [hblob k]
    by_cases hin : k ∈ sums.map (·.1)
    · simp [hin]
    · -- a key the manifest lacks is gone, whether or not it was live
      cases hb : s.blob k with
      | none => simp
      | some c => simp [hin, (hl.mem_iff k).2 (by simp [hb])]

/-! ## Restoring -/

/-- The directory of a name that opens, as restore asks for it. -/
theorem BackupAt.isDir (h : s.Ready) {name : String} (hk : Blob.validKey name = true) :
    s.tree.isDir (at_ (joinText s.backupDir name)) = true ↔ s.tree.node? (s.backupPath ++ [name]) = some .dir := by
  rw [at_joinText _ (PlainName.of_validKey hk)]
  exact FileTree.isDir_entry h.plain_backupPath h.backupDirs (PlainName.of_validKey hk)

/-- A name that is no backup answers `false` and changes nothing. -/
theorem restoreBackup_closed (h : s.Ready) {name : String} (hb : ¬ s.BackupAt name) :
    (restoreBackup name).run.run s = (.ok false, s) := by
  unfold restoreBackup
  by_cases hname : (name.startsWith "backup_" && Blob.validKey name) = true
  · -- the name passes, so there is no directory of that name
    obtain ⟨hpre, hk⟩ := Bool.and_eq_true_iff.1 hname
    have hdir : s.tree.isDir (at_ (joinText s.backupDir name)) = false :=
      Bool.eq_false_iff.2 fun hd => hb ⟨String.startsWith_string_iff.1 hpre, hk, (BackupAt.isDir h hk).1 hd⟩
    simp only [hname, Bool.not_true, Bool.false_eq_true, if_false]
    rw [run_bind_ok _ run_get]
    simp only [hdir, Bool.not_false, if_true]
    rfl
  · simp only [Bool.not_eq_true] at hname
    simp only [hname, Bool.not_false, if_true]
    rfl

section Opened

variable (h : s.Ready) {name : String} (hb : s.BackupAt name)
include h hb

/-- Restoring a backup whose manifest reads as `sums`: check the copies, put them back,
sweep. -/
theorem restoreBackup_manifest {sums : List (String × String)} (hm : s.manifestOf name = some sums) :
    (restoreBackup name).run.run s =
      (verifyCopies name (joinText s.backupDir name) sums >>= fun copies =>
        putAll copies >>= fun _ => sweep sums >>= fun _ => pure true).run.run s := by
  obtain ⟨hpre, hk, hn⟩ := hb
  obtain ⟨c, hc, hread⟩ : ∃ c, s.tree.node? (s.backupPath ++ [name, manifestName]) = some (.file c) ∧
      JsonRead.run Codec.manifest c = .ok sums := by
    unfold manifestOf at hm
    split at hm
    · rename_i c hc
      refine ⟨c, hc, ?_⟩
      cases hr : JsonRead.run Codec.manifest c with
      | ok v => simp [hr, Except.toOption] at hm; rw [hm]
      | error err => simp [hr, Except.toOption] at hm
    · cases hm
  unfold restoreBackup
  simp only [String.startsWith_string_iff.2 hpre, hk, Bool.and_self, Bool.not_true, Bool.false_eq_true, if_false]
  rw [run_bind_ok _ run_get]
  simp only [(BackupAt.isDir h hk).2 hn, Bool.not_true, Bool.false_eq_true, if_false]
  rw [run_bind_ok _ (run_readText _), h.read_backupFile hn PlainName.manifest, hc, run_bind_ok _ (run_orFail_ok _ _)]
  simp only [hread]
  rfl

/-- A manifest that is missing or does not read fails the restore, and nothing changes. -/
theorem restoreBackup_unread (hm : s.manifestOf name = none) : ∃ e, (restoreBackup name).run.run s = (.error e, s) := by
  obtain ⟨hpre, hk, hn⟩ := hb
  unfold restoreBackup
  simp only [String.startsWith_string_iff.2 hpre, hk, Bool.and_self, Bool.not_true, Bool.false_eq_true, if_false]
  rw [run_bind_ok _ run_get]
  simp only [(BackupAt.isDir h hk).2 hn, Bool.not_true, Bool.false_eq_true, if_false]
  rw [run_bind_ok _ (run_readText _), h.read_backupFile hn PlainName.manifest]
  unfold manifestOf at hm
  cases hnode : s.tree.node? (s.backupPath ++ [name, manifestName]) with
  | none => exact ⟨_, run_bind_error _ (run_orFail_error _ _)⟩
  | some m =>
    cases m with
    | dir => exact ⟨_, run_bind_error _ (run_orFail_error _ _)⟩
    | file c =>
      -- the manifest is there but does not read
      rw [hnode] at hm
      obtain ⟨err, herr⟩ : ∃ err, JsonRead.run Codec.manifest c = .error err := by
        cases hr : JsonRead.run Codec.manifest c with
        | error err => exact ⟨err, rfl⟩
        | ok v => simp [hr, Except.toOption] at hm
      rw [run_bind_ok _ (run_orFail_ok _ _)]
      simp only [herr]
      exact ⟨_, run_bind_error _ (run_throw _)⟩

/-- An entry of the manifest that a copy does not bear out fails the restore before any
write, and nothing changes. -/
theorem restoreBackup_refused {sums : List (String × String)} (hm : s.manifestOf name = some sums)
    (hbad : ∃ p ∈ sums, ¬ s.CopyMatches name p) : ∃ e, (restoreBackup name).run.run s = (.error e, s) := by
  obtain ⟨e, he⟩ := verifyCopies_fails h hb.2.2 sums hbad
  exact ⟨e, by rw [restoreBackup_manifest h hb hm, run_bind_error _ he]⟩

/-- A backup that bears out every entry of its manifest is restored: the store holds
exactly the manifest's keys, each with its copy, and keeps its layout. -/
theorem restoreBackup_verified {sums : List (String × String)} (hm : s.manifestOf name = some sums)
    (hall : ∀ p ∈ sums, s.CopyMatches name p) :
    ∃ s', (restoreBackup name).run.run s = (.ok true, s') ∧ s'.Ready ∧
      ∀ k, s'.blob k = if k ∈ sums.map (·.1) then s.copyOf name k else none := by
  have hvalid : ∀ k ∈ sums.map (·.1), Blob.validKey k = true := by
    intro k hk
    obtain ⟨p, hp, rfl⟩ := List.mem_map.1 hk
    exact (hall p hp).1
  -- the copies are the manifest's keys, each with its copy's bytes
  have hcopies : (sums.map fun p => (p.1, (s.copyOf name p.1).getD "")) =
      (sums.map (·.1)).map fun k => (k, (s.copyOf name k).getD "") := by
    simp [List.map_map, Function.comp_def]
  obtain ⟨t, hput, h1, hblob1⟩ := putAll_run (fun k => (s.copyOf name k).getD "") _ hvalid h
  obtain ⟨t', hsweep, h2, hblob2⟩ := sweep_run h1 sums
  refine ⟨_, ?_, h2, fun k => ?_⟩
  · rw [restoreBackup_manifest h hb hm, run_bind_ok _ (verifyCopies_run h hb.2.2 sums hall), hcopies,
      run_bind_ok _ hput, run_bind_ok _ hsweep]
    rfl
  · rw [hblob2 k, hblob1 k]
    by_cases hin : k ∈ sums.map (·.1)
    · -- a listed key's copy is there, so its bytes are the copy
      obtain ⟨p, hp, rfl⟩ := List.mem_map.1 hin
      obtain ⟨-, c, hc, -⟩ := hall p hp
      simp [hc, hin]
    · simp [hin]

end Opened

/-! ## A backup the store took -/

/-- A backup that answers a name took the next name in the count, staged a copy of every
live blob under it with their manifest, and then pruned. -/
theorem createBackup_answered (h : s.Ready) {now : Instant} {n : String} {s₁ : FileBlobs}
    (hrun : (createBackup now).run.run s = (.ok (some n), s₁)) :
    ∃ keys t, Lists (· < ·) (fun k => (s.blob k).isSome) keys ∧ n = Blob.backupName now (s.sequence + 1) ∧
      ({ s with sequence := s.sequence + 1, tree := t } : FileBlobs).Ready ∧
      (∀ q, ¬ s.backupPath ++ [n] <+: q → t.node? q = s.tree.node? q) ∧
      t.node? (s.backupPath ++ [n]) = some .dir ∧
      (∀ k ∈ keys, t.node? (s.backupPath ++ [n, k ++ ".bin"]) = some (.file ((s.blob k).getD ""))) ∧
      t.node? (s.backupPath ++ [n, manifestName]) =
        some (.file (manifestText now (keys.map fun k => (k, Sha256.hexOf ((s.blob k).getD ""))))) ∧
      pruneBackups.run.run { s with sequence := s.sequence + 1, tree := t } = (.ok (), s₁) := by
  obtain ⟨keys, hlive, hl⟩ := liveKeys_run h
  -- with no blob the backup answers no name
  have hne : keys ≠ [] := by
    rintro rfl
    unfold createBackup at hrun
    rw [run_bind_ok _ hlive] at hrun
    cases hrun
  obtain ⟨t, hstage, hready, hframe, hdir, hfiles, hman⟩ := createBackup_stage h hlive hne rfl
  obtain ⟨-, t', -, hprune, -⟩ := pruneBackups_run hready
  rw [hstage, run_bind_ok _ hprune] at hrun
  obtain ⟨rfl, rfl⟩ : Blob.backupName now (s.sequence + 1) = n ∧
      ({ s with sequence := s.sequence + 1, tree := t' } : FileBlobs) = s₁ := by
    cases hrun
    exact ⟨rfl, rfl⟩
  exact ⟨keys, t, hl, rfl, hready, hframe, hdir, hfiles, hman, hprune⟩

/-- A backup the store took and still lists holds a copy of every blob the store held, and
the manifest of their checksums, in key order. -/
theorem createBackup_listed (h : s.Ready) {now : Instant} {n : String} {s₁ : FileBlobs}
    (hrun : (createBackup now).run.run s = (.ok (some n), s₁)) (hl : s₁.Listed n) :
    ∃ keys, Lists (· < ·) (fun k => (s.blob k).isSome) keys ∧ s₁.Ready ∧ s₁.backupPath = s.backupPath ∧
      (∀ k ∈ keys, s₁.tree.node? (s.backupPath ++ [n, k ++ ".bin"]) = some (.file ((s.blob k).getD ""))) ∧
      s₁.tree.node? (s.backupPath ++ [n, manifestName]) =
        some (.file (manifestText now (keys.map fun k => (k, Sha256.hexOf ((s.blob k).getD ""))))) := by
  obtain ⟨keys, t, hkl, -, hready, -, -, hfiles, hman, hprune⟩ := createBackup_answered h hrun
  obtain ⟨names, t', -, hprune', hready', hlisted', -, hkeep⟩ := pruneBackups_run hready
  obtain rfl : ({ s with sequence := s.sequence + 1, tree := t' } : FileBlobs) = s₁ := by
    rw [hprune'] at hprune
    cases hprune
    rfl
  -- still listed, so pruning left its directory alone
  have hkept := ((hlisted' n).1 hl).2
  refine ⟨keys, hkl, hready', rfl, fun k hk => ?_, ?_⟩
  · rw [← hfiles k hk]
    exact hkeep n [k ++ ".bin"] hkept
  · rw [← hman]
    exact hkeep n [manifestName] hkept

/-- A backup taken while the store lists fewer backups than it keeps is listed after. -/
theorem createBackup_listed_of_room (h : s.Ready) {before : List String}
    (hbefore : (listBackups.run.run s).1 = .ok before) (hroom : before.length < s.maxBackups)
    {now : Instant} {n : String} {s₁ : FileBlobs} (hrun : (createBackup now).run.run s = (.ok (some n), s₁)) :
    s₁.Listed n := by
  obtain ⟨keys, t, -, hn, hready, hframe, hdir, -, hman, hprune⟩ := createBackup_answered h hrun
  obtain ⟨names, t', hnames, hprune', -, hlisted', -, -⟩ := pruneBackups_run hready
  obtain rfl : ({ s with sequence := s.sequence + 1, tree := t' } : FileBlobs) = s₁ := by
    rw [hprune'] at hprune
    cases hprune
    rfl
  obtain ⟨before', hlist, hlb⟩ := listBackups_run h
  obtain rfl : before' = before := by
    rw [hlist] at hbefore
    cases hbefore
    rfl
  have hmid := listed_stage (s.sequence + 1) (hn ▸ backupName_starts now (s.sequence + 1)) hframe hdir ⟨_, hman⟩
  -- the backups listed after the first stage are the earlier ones and `n`, so none is pruned
  have hsub : names ⊆ n :: before' := fun x hx => by
    rcases (hmid x).1 ((hnames.mem_iff x).1 hx) with hx | rfl
    · exact List.mem_cons_of_mem _ ((hlb.mem_iff x).2 hx)
    · exact List.mem_cons_self
  have hlen : names.length ≤ s.maxBackups := by
    have := (List.Nodup.subperm (hnames.ordered.imp ne_of_gt) hsub).length_le
    simp only [List.length_cons] at this
    omega
  refine (hlisted' n).2 ⟨(hmid n).2 (Or.inr rfl), ?_⟩
  rw [List.drop_eq_nil_of_le hlen]
  exact List.not_mem_nil

/-- A backup the store took and left alone since brings back the blobs it was taken from,
into any store laid out as the store leaves it that sees the backup's directory as it was. -/
theorem restoreBackup_round_trip {s₀ s₁ : FileBlobs} (h₀ : s₀.Ready) {now : Instant} {n : String}
    (hrun : (createBackup now).run.run s₀ = (.ok (some n), s₁)) (hl : s₁.Listed n) (hkey : Blob.validKey n = true)
    (h : s.Ready) (hdir : s.backupDir = s₁.backupDir)
    (hsame : ∀ r, s.tree.node? (s.backupPath ++ n :: r) = s₁.tree.node? (s₁.backupPath ++ n :: r)) :
    ∃ s', (restoreBackup n).run.run s = (.ok true, s') ∧ ∀ k, s'.blob k = s₀.blob k := by
  obtain ⟨keys, hkl, -, hB₁, hfiles, hman⟩ := createBackup_listed h₀ hrun hl
  have hB : s.backupPath = s₀.backupPath := by
    rw [← hB₁]
    exact congrArg (fun d => (at_ d).names) hdir
  have hsame₀ : ∀ r, s.tree.node? (s₀.backupPath ++ n :: r) = s₁.tree.node? (s₀.backupPath ++ n :: r) := by
    intro r
    have hr := hsame r
    rwa [hB, hB₁] at hr
  -- the backup opens, and its manifest reads as the checksums of the live keys
  have hb : s.BackupAt n := ⟨hl.1, hkey, by rw [hsame [], hl.2.1]⟩
  have hsorted : (keys.map fun k => (k, Sha256.hexOf ((s₀.blob k).getD ""))).Pairwise (fun p q => p.1 < q.1) :=
    List.pairwise_map.2 hkl.ordered
  have hm : s.manifestOf n = some (keys.map fun k => (k, Sha256.hexOf ((s₀.blob k).getD ""))) := by
    unfold manifestOf
    rw [hB, hsame₀ [manifestName], hman]
    dsimp only
    rw [manifest_reads now hsorted]
    rfl
  have hcopy : ∀ k ∈ keys, s.copyOf n k = s₀.blob k := by
    intro k hk
    obtain ⟨c, hc⟩ := Option.isSome_iff_exists.1 ((hkl.mem_iff k).1 hk)
    unfold copyOf
    rw [hB, hsame₀ [k ++ ".bin"], hfiles k hk, hc]
    rfl
  have hall : ∀ p ∈ keys.map (fun k => (k, Sha256.hexOf ((s₀.blob k).getD ""))), s.CopyMatches n p := by
    intro p hp
    obtain ⟨k, hk, rfl⟩ := List.mem_map.1 hp
    obtain ⟨c, hc⟩ := Option.isSome_iff_exists.1 ((hkl.mem_iff k).1 hk)
    exact ⟨(blob_eq_some hc).1, c, by rw [hcopy k hk, hc], by rw [hc, Option.getD_some]⟩
  obtain ⟨s', hres, -, hblob⟩ := restoreBackup_verified h hb hm hall
  refine ⟨s', hres, fun k => ?_⟩
  rw [hblob k, List.map_map]
  by_cases hk : k ∈ keys
  · simp [hk, hcopy k hk]
  · -- a key the backup lacks was not live
    have hnone : s₀.blob k = none := by
      simpa [Option.not_isSome_iff_eq_none] using mt (hkl.mem_iff k).2 hk
    simp [hk, hnone]

/-- Restoring a backup checks every copy before it writes anything, then reproduces the
backup. On a store laid out as the store leaves it: a name that is no backup answers
`false` and changes nothing; a manifest that is missing or does not read fails and changes
nothing; an entry whose key is invalid, or whose copy is missing or has another checksum,
fails and changes nothing; otherwise the store holds exactly the manifest's keys, each with
its copy. A backup taken from the store `s₀`, still listed and left alone since, brings
back the blobs of `s₀`. -/
theorem restoreBackup_checks_then_restores (h : s.Ready) (name : String) :
    (¬ s.BackupAt name → (restoreBackup name).run.run s = (.ok false, s)) ∧
    (s.BackupAt name → s.manifestOf name = none → ∃ e, (restoreBackup name).run.run s = (.error e, s)) ∧
    (∀ sums, s.BackupAt name → s.manifestOf name = some sums → (∃ p ∈ sums, ¬ s.CopyMatches name p) →
      ∃ e, (restoreBackup name).run.run s = (.error e, s)) ∧
    (∀ sums, s.BackupAt name → s.manifestOf name = some sums → (∀ p ∈ sums, s.CopyMatches name p) →
      ∃ s', (restoreBackup name).run.run s = (.ok true, s') ∧ s'.Ready ∧
        ∀ k, s'.blob k = if k ∈ sums.map (·.1) then s.copyOf name k else none) ∧
    (∀ (s₀ s₁ : FileBlobs) (now : Instant), s₀.Ready → (createBackup now).run.run s₀ = (.ok (some name), s₁) →
      s₁.Listed name → Blob.validKey name = true → s.backupDir = s₁.backupDir →
      (∀ r, s.tree.node? (s.backupPath ++ name :: r) = s₁.tree.node? (s₁.backupPath ++ name :: r)) →
      ∃ s', (restoreBackup name).run.run s = (.ok true, s') ∧ ∀ k, s'.blob k = s₀.blob k) :=
  ⟨restoreBackup_closed h, restoreBackup_unread h, fun _ hb hm hbad => restoreBackup_refused h hb hm hbad,
    fun _ hb hm hall => restoreBackup_verified h hb hm hall,
    fun _ _ _ h₀ hrun hl hkey hdir hsame => restoreBackup_round_trip h₀ hrun hl hkey h hdir hsame⟩

/-- Back up the sample store, then restore the backup: the store holds its blobs again. -/
theorem sample_backup_restores :
    ∃ n s₁ s₂, (createBackup Instant.epoch).run.run sampleStore = (.ok (some n), s₁) ∧
      (restoreBackup n).run.run s₁ = (.ok true, s₂) ∧ ∀ k, s₂.blob k = sampleStore.blob k := by
  obtain ⟨s₁, hrun⟩ := createBackup_some sampleStore_ready "k" (by decide +kernel) Instant.epoch
  have hnone : (listBackups.run.run sampleStore).1 = .ok [] := by decide +kernel
  have hl := createBackup_listed_of_room sampleStore_ready hnone (by decide) hrun
  obtain ⟨-, -, h₁, -⟩ := createBackup_listed sampleStore_ready hrun hl
  obtain ⟨s₂, hres, hblob⟩ := (restoreBackup_checks_then_restores h₁ _).2.2.2.2 sampleStore s₁ Instant.epoch
    sampleStore_ready hrun hl (by decide +kernel) rfl fun _ => rfl
  exact ⟨_, s₁, s₂, hrun, hres, hblob⟩

end FileBlobs

end DocStore
