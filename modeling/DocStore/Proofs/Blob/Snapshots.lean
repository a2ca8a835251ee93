import DocStore.Proofs.Registry.Search
import DocStore.Proofs.Store.Steps
import DocStore.Proofs.Time.Text
/-
  DocStore.Proofs.Blob.Snapshots — the backups of a byte store in memory are exact and
  permanent.

  A backup copies every blob under the name `backup_<time>_<n>`, `n` counting the backups
  the store has taken. Whatever the clock says, what follows the last `_` is `n` in at
  least six digits, so backups with different counts never share a name
  (`Blob.backupName_inj`).

  A store is followed from empty through any calls (`Reached m T`): its operations with any
  arguments and any clock, and the switches that make writes or backups fail. `T` records
  the backups the calls took, oldest first: each name a backup answered, with the blobs at
  that moment. One call appends at most the backup it took to the store's own list and
  changes no backup already there (`run_backups`), so that list is exactly `T`, and every
  name in it carries a count no later than the store's (`Numbered`).

  Proved (`snapshots_exact`): after any calls, the names taken are distinct, and the next
  call answers as the store promises (`Answers`): the list of backups is the names taken,
  newest first; a restore finds exactly the names taken and brings back exactly the blobs of
  the moment its backup was taken, and changes nothing for another name; a backup answers no
  name exactly when there is nothing to copy; a refused key, a write while writes fail and a
  backup while backups fail are refused with their own error and change nothing.
-/

namespace DocStore

/-! ## Backup names -/

namespace Instant

theorem underscore_not_mem_pad (w n : Nat) : '_' ∉ (pad w n).toList := by
  rw [toList_pad]
  simp [List.mem_replicate]

theorem pad_inj {w n n' : Nat} (h : pad w n = pad w n') : n = n' := by
  rw [← ofDigitChars_pad w n, ← ofDigitChars_pad w n', h]

end Instant

/-- What follows the last separator `c` is the same in two equal lists. -/
theorem eq_of_append_sep {c : Char} {a a' p p' : List Char} (hp : c ∉ p) (hp' : c ∉ p')
    (h : a ++ c :: p = a' ++ c :: p') : p = p' := by
  -- read backwards, the part after the last separator is what comes before the first one
  have back : ∀ {a p : List Char}, c ∉ p → (a ++ c :: p).reverse.takeWhile (· != c) = p.reverse := by
    intro a p hp
    rw [List.reverse_append, List.reverse_cons, List.append_assoc, List.takeWhile_append_of_pos]
    · simp
    · intro x hx
      have : x ≠ c := fun e => hp (e ▸ List.mem_reverse.mp hx)
      simpa using this
  have hr := congrArg (fun l => l.reverse.takeWhile (· != c)) h
  simp only [back hp, back hp'] at hr
  exact List.reverse_inj.mp hr

/-- Backups with different counts have different names, whatever the clock said. -/
theorem Blob.backupName_inj {t t' : Instant} {s s' : Nat} (h : Blob.backupName t s = Blob.backupName t' s') :
    s = s' := by
  -- the name is the stamp, then `_`, then the count padded
  have hsplit : ∀ t s, (Blob.backupName t s).toList =
      ("backup_" ++ t.stampText).toList ++ '_' :: (Instant.pad 6 s).toList := by
    intro t s
    rw [Blob.backupName, String.toList_append, String.toList_append]
    simp
  have hl := congrArg String.toList h
  rw [hsplit, hsplit] at hl
  exact Instant.pad_inj (String.toList_inj.mp
    (eq_of_append_sep (Instant.underscore_not_mem_pad 6 s) (Instant.underscore_not_mem_pad 6 s') hl))

namespace MemoryBlobs

/-! ## Calls on a store in memory -/

/-- A call on a byte store in memory: one of its operations, or a switch that makes every
later write, or every later backup, fail. -/
inductive Call where
  | get (key : String)
  | put (key value : String)
  | delete (key : String)
  | createBackup (now : Instant)
  | restoreBackup (name : String)
  | listBackups
  | failPuts (on : Bool)
  | failBackups (on : Bool)

/-- What a call answers. -/
inductive Reply where
  | read (r : Except BlobError (Option String))
  | wrote (r : Except BlobError Unit)
  | backup (r : Except BlobError (Option String))
  | restored (found : Bool)
  | names (names : List String)
  | switched

/-- A step that may fail, run on `m`: on failure the store stays `m` (the memory case of
`Blobs.either`). -/
def attempt (m : MemoryBlobs) : Except BlobError (α × MemoryBlobs) → Except BlobError α × MemoryBlobs
  | .ok (a, m') => (.ok a, m')
  | .error e => (.error e, m)

/-- A call's answer and the store after it. -/
def Call.run : Call → MemoryBlobs → Reply × MemoryBlobs
  | .get key, m => (.read (m.get key), m)
  | .put key value, m =>
    let (r, m') := attempt m ((m.put key value).map ((), ·))
    (.wrote r, m')
  | .delete key, m =>
    let (r, m') := attempt m ((m.delete key).map ((), ·))
    (.wrote r, m')
  | .createBackup now, m =>
    let (r, m') := attempt m (m.createBackup now)
    (.backup r, m')
  | .restoreBackup name, m => (.restored (m.restoreBackup name).1, (m.restoreBackup name).2)
  | .listBackups, m => (.names m.listBackups, m)
  | .failPuts on, m => (.switched, { m with failPuts := on })
  | .failBackups on, m => (.switched, { m with failBackups := on })

/-- The backup a call took: the name a backup answered, with the blobs it copied. -/
def Call.took (c : Call) (m : MemoryBlobs) : List (String × List (String × String)) :=
  match (c.run m).1 with
  | .backup (.ok (some name)) => [(name, m.blobs)]
  | _ => []

/-- `m` is reached from an empty store by calls that took the backups `T`, oldest first. -/
inductive Reached : MemoryBlobs → List (String × List (String × String)) → Prop
  | empty : Reached {} []
  | call {m : MemoryBlobs} {T : List (String × List (String × String))} (c : Call) :
      Reached m T → Reached (c.run m).2 (T ++ c.took m)

/-- What a call must answer, and leave, once the backups `T` were taken. -/
def Answers (T : List (String × List (String × String))) (m : MemoryBlobs) : Call → Reply × MemoryBlobs → Prop
  | .get key, (r, m') => m' = m ∧ (Blob.validKey key = false → r = .read (.error (.invalidKey key)))
  | .put key _, (r, m') =>
    (Blob.validKey key = false → r = .wrote (.error (.invalidKey key)) ∧ m' = m) ∧
    (Blob.validKey key = true → m.failPuts = true →
      r = .wrote (.error (.io key "injected write failure")) ∧ m' = m)
  | .delete key, (r, m') => Blob.validKey key = false → r = .wrote (.error (.invalidKey key)) ∧ m' = m
  | .createBackup _, (r, m') =>
    (m.failBackups = true → r = .backup (.error (.unavailable "injected backup failure")) ∧ m' = m) ∧
    (m.failBackups = false → (r = .backup (.ok none) ↔ m.blobs = []))
  | .restoreBackup name, (r, m') =>
    (r = .restored true ↔ name ∈ T.map (·.1)) ∧ (∀ B, (name, B) ∈ T → m'.blobs = B) ∧
    (name ∉ T.map (·.1) → m' = m)
  | .listBackups, (r, _) => r = .names (T.map (·.1)).reverse
  | .failPuts _, _ => True
  | .failBackups _, _ => True

/-! ## What one call does to the backups -/

variable {m : MemoryBlobs}

theorem createBackup_eq (m : MemoryBlobs) (now : Instant) :
    m.createBackup now =
      if m.failBackups then .error (.unavailable "injected backup failure")
      else if m.blobs.isEmpty then .ok (none, m)
      else .ok (some (Blob.backupName now (m.sequence + 1)),
        { m with sequence := m.sequence + 1, backups := m.backups ++ [(Blob.backupName now (m.sequence + 1), m.blobs)] }) := by
  unfold createBackup
  by_cases hf : m.failBackups <;> by_cases he : m.blobs.isEmpty <;> simp [hf, he] <;> rfl

/-- A call appends to the list of backups the one it took, if any, and counts it; it
changes no backup already there. -/
theorem run_backups (c : Call) (m : MemoryBlobs) :
    (c.run m).2.backups = m.backups ++ c.took m ∧ (c.run m).2.sequence = m.sequence + (c.took m).length := by
  cases c with
  | get => simp [Call.run, Call.took]
  | put key value =>
    simp only [Call.run, Call.took, List.append_nil, List.length_nil, Nat.add_zero]
    cases hp : m.put key value with
    | error => exact ⟨rfl, rfl⟩
    | ok m' =>
      rw [put_ok hp]
      exact ⟨rfl, rfl⟩
  | delete key =>
    simp only [Call.run, Call.took, List.append_nil, List.length_nil, Nat.add_zero]
    rw [delete_eq]
    split <;> exact ⟨rfl, rfl⟩
  | createBackup now =>
    simp only [Call.run, Call.took, createBackup_eq]
    split
    · simp [attempt]
    · split <;> simp [attempt]
  | restoreBackup name =>
    simp only [Call.run, Call.took, restoreBackup, List.append_nil, List.length_nil, Nat.add_zero]
    split <;> exact ⟨rfl, rfl⟩
  | listBackups => simp [Call.run, Call.took]
  | failPuts => simp [Call.run, Call.took]
  | failBackups => simp [Call.run, Call.took]

/-- A call takes no backup, or one under the store's next count. -/
theorem took_cases (c : Call) (m : MemoryBlobs) :
    c.took m = [] ∨ ∃ now, c.took m = [(Blob.backupName now (m.sequence + 1), m.blobs)] := by
  cases c with
  | createBackup now =>
    by_cases hf : m.failBackups = true
    · left
      simp [Call.took, Call.run, createBackup_eq, hf, attempt]
    · by_cases he : m.blobs.isEmpty = true
      · left
        simp [Call.took, Call.run, createBackup_eq, hf, he, attempt]
      · right
        exact ⟨now, by simp [Call.took, Call.run, createBackup_eq, hf, he, attempt]⟩
  | get | put | delete | restoreBackup | listBackups | failPuts | failBackups =>
    -- only a backup answers with a backup
    left
    simp only [Call.took, Call.run]

/-! ## The store's backups are the backups taken -/

/-- The store's backups have distinct names, each made with a count no later than the
store's. -/
structure Numbered (m : MemoryBlobs) : Prop where
  nodup : (m.backups.map (·.1)).Nodup
  counted : ∀ p ∈ m.backups, ∃ t s, p.1 = Blob.backupName t s ∧ s ≤ m.sequence

theorem numbered_empty : Numbered {} := ⟨List.nodup_nil, fun _ h => nomatch h⟩

/-- Every call keeps the backups numbered: a new one takes the next count, which no name
there carries. -/
theorem Numbered.run (h : Numbered m) (c : Call) : Numbered (c.run m).2 := by
  obtain ⟨hb, hs⟩ := run_backups c m
  rcases took_cases c m with ht | ⟨now, ht⟩
  · rw [ht, List.append_nil] at hb
    rw [ht, List.length_nil, Nat.add_zero] at hs
    exact ⟨hb ▸ h.nodup, fun p hp => hs ▸ h.counted p (hb ▸ hp)⟩
  · rw [ht] at hb hs
    have hfresh : Blob.backupName now (m.sequence + 1) ∉ m.backups.map (·.1) := by
      intro hmem
      obtain ⟨p, hp, hname⟩ := List.mem_map.mp hmem
      obtain ⟨t, s, hps, hle⟩ := h.counted p hp
      have := Blob.backupName_inj (hps.symm.trans hname)
      omega
    refine ⟨?_, fun p hp => ?_⟩
    · rw [hb, List.map_append, List.nodup_append]
      refine ⟨h.nodup, by simp, fun a ha b hb' e => hfresh ?_⟩
      rw [List.map_singleton, List.mem_singleton] at hb'
      rw [e, hb'] at ha
      exact ha
    · rw [hb] at hp
      rcases List.mem_append.mp hp with hp | hp
      · obtain ⟨t, s, hps, hle⟩ := h.counted p hp
        exact ⟨t, s, hps, by simp only [hs, List.length_singleton]; omega⟩
      · simp only [List.mem_singleton] at hp
        exact ⟨now, m.sequence + 1, by rw [hp], by simp [hs]⟩

/-- A reached store keeps exactly the backups its calls took, numbered. -/
theorem reached_backups {T : List (String × List (String × String))} (h : Reached m T) :
    m.backups = T ∧ Numbered m := by
  induction h with
  | empty => exact ⟨rfl, numbered_empty⟩
  | call c _ ih => exact ⟨by rw [(run_backups c _).1, ih.1], ih.2.run c⟩

/-! ## What each call answers -/

/-- Restoring a name puts back the blobs its backup holds; an unknown name changes nothing. -/
theorem restoreBackup_eq (m : MemoryBlobs) (name : String) :
    m.restoreBackup name = match m.backups.lookup name with
      | some blobs => (true, { m with blobs := blobs })
      | none => (false, m) := rfl

/-- Each call answers as the store promises, the backups taken being the store's own. -/
theorem answers (h : Numbered m) (c : Call) : Answers m.backups m c (c.run m) := by
  cases c with
  | get key => exact ⟨rfl, fun hk => by simp [get_eq, hk]⟩
  | put key value =>
    refine ⟨fun hk => ?_, fun hk hf => ?_⟩
    · simp [put_eq, hk, Except.map]
    · simp [put_eq, hk, hf, Except.map]
  | delete key => exact fun hk => by simp [delete_eq, hk, Except.map]
  | createBackup now =>
    refine ⟨fun hf => by simp [createBackup_eq, hf], fun hf => ?_⟩
    by_cases he : m.blobs = [] <;> simp [createBackup_eq, hf, he]
  | restoreBackup name =>
    simp only [Answers, Call.run, Reply.restored.injEq, restoreBackup_eq]
    cases hl : m.backups.lookup name with
    | none =>
      have hn := lookup_eq_none.mp hl
      exact ⟨by simpa using hn, fun B hB => absurd (List.mem_map_of_mem (f := Prod.fst) hB) hn, fun _ => rfl⟩
    | some B =>
      -- names are distinct, so the backup found is the only one with the name
      refine ⟨by simpa using List.mem_map_of_mem (f := Prod.fst) (mem_of_lookup hl), fun B' hB' => ?_,
        fun hn => absurd (List.mem_map_of_mem (f := Prod.fst) (mem_of_lookup hl)) hn⟩
      rw [lookup_of_mem h.nodup hB'] at hl
      cases hl
      rfl
  | listBackups => rfl
  | failPuts => trivial
  | failBackups => trivial

/-- The backups of a byte store in memory are exact and permanent. After any calls from an
empty store, with any keys, clocks and failure switches, the names the backups answered are
distinct, and the next call answers as the store promises: listing gives those names newest
first; restoring succeeds exactly for one of them and puts back exactly the blobs of the
moment it was taken, changing nothing for another name; a backup answers no name exactly when
there is nothing to copy (unless backups fail); a refused key, a write while writes fail and a
backup while backups fail are refused and change nothing. -/
theorem snapshots_exact {T : List (String × List (String × String))} (h : Reached m T) :
    (T.map (·.1)).Nodup ∧ ∀ c : Call, Answers T m c (c.run m) := by
  obtain ⟨hb, hn⟩ := reached_backups h
  subst hb
  exact ⟨hn.nodup, answers hn⟩

/-- Write a blob, back it up, overwrite it: restoring the backup brings the first bytes back. -/
theorem restore_brings_back_first_write :
    let m := ((Call.put "doc" "two").run ((Call.createBackup Instant.epoch).run
      ((Call.put "doc" "one").run {}).2).2).2
    Reached m [(Blob.backupName Instant.epoch 1, [("doc", "one")])] ∧ m.blobs = [("doc", "two")] ∧
      ((Call.restoreBackup (Blob.backupName Instant.epoch 1)).run m).2.blobs = [("doc", "one")] := by
  intro m
  have hrun := Reached.call (Call.put "doc" "two") (Reached.call (Call.createBackup Instant.epoch)
    (Reached.call (Call.put "doc" "one") .empty))
  have hT : [] ++ (Call.put "doc" "one").took {} ++
      (Call.createBackup Instant.epoch).took ((Call.put "doc" "one").run {}).2 ++
      (Call.put "doc" "two").took ((Call.createBackup Instant.epoch).run ((Call.put "doc" "one").run {}).2).2 =
      [(Blob.backupName Instant.epoch 1, [("doc", "one")])] := by decide +kernel
  rw [hT] at hrun
  refine ⟨hrun, by decide +kernel, ?_⟩
  exact ((snapshots_exact hrun).2 (.restoreBackup _)).2.1 _ (List.mem_singleton_self _)

end MemoryBlobs

end DocStore
