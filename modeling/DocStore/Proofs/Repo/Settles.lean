import DocStore.Proofs.Repo.Changes
import DocStore.Proofs.Store.Steps
/-
  DocStore.Proofs.Repo.Settles — a repository change never fails the store's validation.

  Each change of a repository reads the cached document, checks the document it is about
  to save with its own pipeline (or, for a removal, with its guards) and saves it; the
  store validates the document once more before writing it. Run from a vault whose cached
  document passes validation, every change ends in one of three ways (`Settles`): refused
  with an error of the repository's own (not found, a name taken, a constraint, an
  invalid entity), the vault as it was; done with nothing saved; or past a save of a
  document that passes validation.

  `Settles` is closed under the steps the repositories are built of (`read`, `guard`,
  `change`, `store`), so each change is a short composition of them, and the document it
  saves is well formed by the lemmas of `Changes`. A save of a valid document can fail
  only in writing it (`save_of_valid`), so no change ever ends in the store's validation
  failure (`mutation_never_fails_validation`).
-/

namespace DocStore

namespace Repo

open Vault

variable {α β : Type} {now : Instant} {v w : Vault} {d : Document}

/-- How a repository change run from `v` at `now` ends: refused with an error of the
repository's own, the vault as it was; done with nothing saved; or past a save of a
document that passes validation, answering `a` once the save went through. -/
inductive Settles (now : Instant) (v : Vault) : Except RepoError α × Vault → Prop
  | refused (e : RepoError) : (∀ s, e ≠ .store s) → Settles now v (.error e, v)
  | unchanged (a : α) : Settles now v (.ok a, v)
  | saved (d : Document) (a : α) : d.validate.isValid = true →
      Settles now v ((do let _ ← ofStore (Vault.save now d); pure a : RepoOp α).run.run v)

theorem run_bind_ok {x : RepoOp α} {a : α} (f : α → RepoOp β) (h : x.run.run v = (.ok a, w)) :
    (x >>= f).run.run v = (f a).run.run w := by
  simp only [ExceptT.run_bind, StateT.run_bind, h]
  rfl

theorem run_bind_error {x : RepoOp α} {e : RepoError} (f : α → RepoOp β) (h : x.run.run v = (.error e, w)) :
    (x >>= f).run.run v = (.error e, w) := by
  simp only [ExceptT.run_bind, StateT.run_bind, h]
  rfl

/-- A store step run inside a repository step. -/
theorem liftM_run (x : VaultOp α) :
    (liftM x.run : RepoOp (Except StoreError α)).run.run v = (.ok (x.run.run v).1, (x.run.run v).2) := rfl

theorem ofStore_ok {x : VaultOp α} {a : α} (h : x.run.run v = (.ok a, w)) : (ofStore x).run.run v = (.ok a, w) := by
  simp only [ofStore, ExceptT.run_bind, StateT.run_bind, liftM_run, h]
  rfl

theorem ofStore_error {x : VaultOp α} {e : StoreError} (h : x.run.run v = (.error e, w)) :
    (ofStore x).run.run v = (.error (.store e), w) := by
  simp only [ofStore, ExceptT.run_bind, StateT.run_bind, liftM_run, h]
  rfl

theorem ofStore_load (hc : v.cache = some d) : (ofStore (Vault.load now)).run.run v = (.ok d, v) :=
  ofStore_ok (load_cached d hc)

/-- Saving a document that passes validation fails, if at all, only in writing it. -/
theorem save_of_valid (now : Instant) (v : Vault) (hd : d.validate.isValid = true) :
    (∃ w, (Vault.save now d).run.run v = (.ok { d with lastModified := now }, w)) ∨
      ∃ msg w, (Vault.save now d).run.run v = (.error (.saveFailed msg), w) := by
  simp only [Vault.save, hd, Bool.not_true, Bool.false_eq_true, if_false]
  rw [op_bind_ok _ (op_get v), op_bind_ok _ (op_liftM _ v)]
  -- the write either fails, answered as such, or goes through before the document is published
  obtain ⟨r, w⟩ := (onBlobs (Blobs.put v.config.documentKey (Document.encode { d with lastModified := now }))).run v
  cases r with
  | error e => exact .inr ⟨_, w, rfl⟩
  | ok u => exact .inl ⟨_, rfl⟩

theorem classify_ne_store (entity name : String) (issues : List Issue) (s : StoreError) :
    classify entity name issues ≠ .store s := by
  unfold classify
  split
  · simp
  · split <;> simp

namespace Settles

/-- A change that settles never ends in the store refusing its document. -/
theorem not_validationFailure {r : Except RepoError α × Vault} (h : Settles now v r) (is : List Issue) (w : Vault) :
    r ≠ (.error (.store (.validationFailure is)), w) := by
  cases h with
  | refused e he =>
    intro heq
    cases heq
    exact he _ rfl
  | unchanged a =>
    intro heq
    cases heq
  | saved d a hd =>
    rcases save_of_valid now v hd with ⟨w', hs⟩ | ⟨msg, w', hs⟩
    · rw [run_bind_ok _ (ofStore_ok hs)]
      intro heq
      cases heq
    · rw [run_bind_error _ (ofStore_error hs)]
      intro heq
      cases heq

theorem read (hc : v.cache = some d) {f : Document → RepoOp α} (h : Settles now v ((f d).run.run v)) :
    Settles now v ((ofStore (Vault.load now) >>= f).run.run v) := by
  rw [run_bind_ok f (ofStore_load hc)]
  exact h

/-- A guard that refuses with `e` when `c` holds, before going on with `k`. -/
theorem guard {c : Prop} [Decidable c] {e : RepoError} (he : ∀ s, e ≠ .store s) {k : Unit → RepoOp α}
    (hk : ¬ c → Settles now v ((k ()).run.run v)) :
    Settles now v ((if c then throw e >>= k else k ()).run.run v) := by
  split
  · rw [run_bind_error (x := throw e) k rfl]
    exact .refused e he
  · exact hk ‹_›

theorem store (hd : d.WellFormed) : Settles now v ((do let _ ← ofStore (Vault.save now d) : RepoOp Unit).run.run v) :=
  .saved d () (Document.validate_isValid_iff.2 hd)

/-- A change checked by the repository, then saved. -/
theorem change {ε : Type} {limit : RepoOp Nat} (n : Nat) (hl : limit.run.run v = (.ok n, v))
    (check : Nat → Timed Unit (Proposed ε)) (entity name : String) (p : Proposed ε) (answer : α)
    (hwf : ((check n).check p 0 { world := () }).1.isValid = true → p.document.WellFormed) :
    Settles now v ((do let _ ← commit now (check (← limit)) entity name p; pure answer : RepoOp α).run.run v) := by
  rw [run_bind_ok _ hl]
  unfold commit
  extract_lets verdict store
  split
  · -- refused, with the error the issues are classified as
    rw [run_bind_error _ (run_bind_error (x := throw _) store rfl)]
    exact .refused _ (classify_ne_store _ _ _)
  · rename_i hv
    exact .saved p.document answer (Document.validate_isValid_iff.2 (hwf (by simpa using hv)))

/-- A change whose answer is dropped settles as the change does. -/
theorem map_const {x : RepoOp α} (b : β) (h : Settles now v (x.run.run v)) :
    Settles now v ((do let _ ← x; pure b : RepoOp β).run.run v) := by
  generalize hr : x.run.run v = r at h
  cases h with
  | refused e he =>
    rw [run_bind_error _ hr]
    exact .refused e he
  | unchanged a =>
    rw [run_bind_ok _ hr]
    exact .unchanged b
  | saved d a hd =>
    -- the save ends the same way whichever answer follows it
    suffices hs : (x >>= fun _ => pure b).run.run v = (ofStore (Vault.save now d) >>= fun _ => pure b).run.run v by
      rw [hs]
      exact .saved d b hd
    rcases hsave : (ofStore (Vault.save now d)).run.run v with ⟨_ | d', w'⟩
    · rw [run_bind_error _ hsave] at hr ⊢
      rw [run_bind_error _ hr]
    · rw [run_bind_ok _ hsave] at hr ⊢
      rw [run_bind_ok _ hr]

end Settles

namespace Identities

theorem settles_add (hc : v.cache = some d) (hd : d.WellFormed) (i : Identity) :
    Settles now v ((add now i).run.run v) := by
  refine Settles.read hc (Settles.change v.config.validationTimeoutMs ?_ _ _ _ _ _ fun h => ?_)
  · rfl
  rw [check, pipeline_isValid] at h
  simp only [List.all_cons, List.all_nil, Bool.and_true, Bool.and_eq_true] at h
  exact added hd h.1 h.2.1 h.2.2

theorem settles_update (hc : v.cache = some d) (hd : d.WellFormed) (i : Identity) :
    Settles now v ((update now i).run.run v) := by
  refine Settles.read hc ?_
  split
  · rename_i old items hr
    refine Settles.change v.config.validationTimeoutMs ?_ _ _ _ _ _ fun h => ?_
    · rfl
    rw [check, pipeline_isValid] at h
    simp only [List.all_cons, List.all_nil, Bool.and_true, Bool.and_eq_true] at h
    exact replaced hd hr h.1 h.2.1
  · exact .refused _ (by simp [notFound])

theorem settles_delete (hc : v.cache = some d) (hd : d.WellFormed) (id : String) :
    Settles now v ((delete now id).run.run v) := by
  refine Settles.read hc ?_
  extract_lets users store checkUsers
  -- two guards: the identity exists, and no server profile uses it
  refine Settles.guard (by simp [notFound]) fun _ => Settles.guard (by simp) fun hfree => ?_
  refine Settles.store (removed hd id fun p hp hid => hfree ?_)
  simp [users]
  exact ⟨p, hp, hid⟩

theorem settles_touch (hc : v.cache = some d) (hd : d.WellFormed) (id : String) :
    Settles now v ((touch now id).run.run v) := by
  unfold touch find
  rw [bind_assoc, run_bind_ok _ (ofStore_load hc)]
  split
  · rw [pure_bind]
    exact settles_update hc hd _
  · rw [run_bind_error (x := throw _) _ rfl]
    exact .refused _ (by simp [notFound])

end Identities

namespace Profiles

theorem settles_add (hc : v.cache = some d) (hd : d.WellFormed) (p : ServerProfile) :
    Settles now v ((add now p).run.run v) := by
  refine Settles.read hc (Settles.change v.config.validationTimeoutMs ?_ _ _ _ _ _ fun h => ?_)
  · rfl
  rw [check, pipeline_isValid] at h
  simp only [List.all_cons, List.all_nil, Bool.and_true, Bool.and_eq_true] at h
  exact added hd h.1 h.2.1 h.2.2.1 h.2.2.2

theorem settles_update (hc : v.cache = some d) (hd : d.WellFormed) (p : ServerProfile) :
    Settles now v ((update now p).run.run v) := by
  refine Settles.read hc ?_
  split
  · rename_i old items hr
    refine Settles.change v.config.validationTimeoutMs ?_ _ _ _ _ _ fun h => ?_
    · rfl
    rw [check, pipeline_isValid] at h
    simp only [List.all_cons, List.all_nil, Bool.and_true, Bool.and_eq_true] at h
    exact replaced hd hr h.1 h.2.1 h.2.2.1
  · exact .refused _ (by simp [notFound])

theorem settles_delete (hc : v.cache = some d) (hd : d.WellFormed) (id : String) :
    Settles now v ((delete now id).run.run v) := by
  refine Settles.read hc ?_
  extract_lets users store checkUsers
  -- two guards: the profile exists, and no project lives on it
  refine Settles.guard (by simp [notFound]) fun _ => Settles.guard (by simp) fun hfree => ?_
  refine Settles.store (removed hd id fun q hq hid => hfree ?_)
  simp [users]
  exact ⟨q, hq, hid⟩

theorem settles_markConnected (hc : v.cache = some d) (hd : d.WellFormed) (id : String) :
    Settles now v ((markConnected now id).run.run v) := by
  unfold markConnected find
  rw [bind_assoc, run_bind_ok _ (ofStore_load hc)]
  split
  · rw [pure_bind]
    exact settles_update hc hd _
  · rw [run_bind_error (x := throw _) _ rfl]
    exact .refused _ (by simp [notFound])

end Profiles

namespace Projects

theorem settles_add (hc : v.cache = some d) (hd : d.WellFormed) (p : Project) :
    Settles now v ((add now p).run.run v) := by
  refine Settles.read hc (Settles.change v.config.validationTimeoutMs ?_ _ _ _ _ _ fun h => ?_)
  · rfl
  rw [check, pipeline_isValid] at h
  simp only [List.all_cons, List.all_nil, Bool.and_true, Bool.and_eq_true] at h
  have hv := validate_of_fields h.1
  exact added hd hv h.2.1 h.2.2.1 h.2.2.2

theorem settles_update (hc : v.cache = some d) (hd : d.WellFormed) (p : Project) :
    Settles now v ((update now p).run.run v) := by
  refine Settles.read hc ?_
  split
  · rename_i old items hr
    refine Settles.change v.config.validationTimeoutMs ?_ _ _ _ _ _ fun h => ?_
    · rfl
    rw [check, pipeline_isValid] at h
    simp only [List.all_cons, List.all_nil, Bool.and_true, Bool.and_eq_true] at h
    have hv := validate_of_fields h.1
    exact replaced hd hr hv h.2.1 h.2.2.1
  · exact .refused _ (by simp [notFound])

theorem settles_delete (hc : v.cache = some d) (hd : d.WellFormed) (id : String) :
    Settles now v ((delete now id).run.run v) := by
  refine Settles.read hc ?_
  extract_lets store
  exact Settles.guard (by simp [notFound]) fun _ => Settles.store (removed hd id)

theorem settles_setStatus (hc : v.cache = some d) (hd : d.WellFormed) (id : String) (status : ProjectStatus) :
    Settles now v ((setStatus now id status).run.run v) := by
  unfold setStatus find
  rw [bind_assoc, run_bind_ok _ (ofStore_load hc)]
  split
  · rw [pure_bind]
    exact settles_update hc hd _
  · rw [run_bind_error (x := throw _) _ rfl]
    exact .refused _ (by simp [notFound])

end Projects

namespace Messages

theorem settles_append (hc : v.cache = some d) (hd : d.WellFormed) (m : Message) :
    Settles now v ((append now m).run.run v) := by
  refine Settles.read hc ?_
  extract_lets key
  split
  rename_i items evicted retained hins
  extract_lets next
  refine Settles.change v.config.validationTimeoutMs ?_ _ _ _ _ _ fun h => ?_
  · rfl
  rw [check, pipeline_isValid] at h
  simp only [List.all_cons, List.all_nil, Bool.and_true, Bool.and_eq_true] at h
  have hv := validate_of_fields h.1
  exact appended hd hv (by simp [next, key, hins]) h.2.1 h.2.2.1 h.2.2.2

theorem settles_delete (hc : v.cache = some d) (hd : d.WellFormed) (id : String) :
    Settles now v ((delete now id).run.run v) := by
  refine Settles.read hc ?_
  extract_lets store
  exact Settles.guard (by simp [notFound]) fun _ => Settles.store (removed hd id)

theorem settles_clear (hc : v.cache = some d) (hd : d.WellFormed) (key : String) :
    Settles now v ((clear now key).run.run v) := by
  refine Settles.read hc ?_
  split
  · exact .unchanged 0
  · exact .saved _ _ (Document.validate_isValid_iff.2 (cleared hd key))

/-- Changing a message in place settles when the new one keeps the timestamp of the message
its id finds. -/
theorem settles_update (hc : v.cache = some d) (hd : d.WellFormed) {m₀ m : Message}
    (hfind : d.allMessages.find? (fun x => x.id == m.id) = some m₀) (hts : m.timestamp = m₀.timestamp) :
    Settles now v ((update now m).run.run v) := by
  refine Settles.read hc ?_
  split
  · rename_i old items hr
    refine Settles.change v.config.validationTimeoutMs ?_ _ _ _ _ _ fun h => ?_
    · rfl
    rw [check, pipeline_isValid] at h
    simp only [List.all_cons, List.all_nil, Bool.and_true, Bool.and_eq_true] at h
    have hv := validate_of_fields h.1
    exact statusChanged hd hv hfind hts hr rfl h.2.2.1 h.2.2.2
  · exact .refused _ (by simp [notFound])

theorem settles_updateStatus (hc : v.cache = some d) (hd : d.WellFormed) (id : String) (status : MessageStatus) :
    Settles now v ((updateStatus now id status).run.run v) := by
  unfold updateStatus find
  rw [bind_assoc, run_bind_ok _ (ofStore_load hc)]
  split
  · rename_i m₀ hfind
    rw [pure_bind]
    -- the message found has the id asked for, and its timestamp is kept
    have hid : m₀.id = id := by simpa using List.find?_some hfind
    have hfound : d.allMessages.find? (fun x => x.id == m₀.id) = some m₀ := by
      rw [hid]
      exact hfind
    exact settles_update hc hd hfound rfl
  · rw [run_bind_error (x := throw _) _ rfl]
    exact .refused _ (by simp [notFound])

end Messages

/-! ## Every change -/

/-- A change made through one of the repositories, with its arguments. -/
inductive Mutation where
  | identityAdd (i : Identity)
  | identityUpdate (i : Identity)
  | identityTouch (id : String)
  | identityDelete (id : String)
  | profileAdd (p : ServerProfile)
  | profileUpdate (p : ServerProfile)
  | profileMarkConnected (id : String)
  | profileDelete (id : String)
  | projectAdd (p : Project)
  | projectUpdate (p : Project)
  | projectSetStatus (id : String) (status : ProjectStatus)
  | projectDelete (id : String)
  | messageAppend (m : Message)
  | messageUpdateStatus (id : String) (status : MessageStatus)
  | messageDelete (id : String)
  | messageClear (key : String)

/-- The change made at `now`; what it answers is left aside. -/
def Mutation.run (now : Instant) : Mutation → RepoOp Unit
  | .identityAdd i => do let _ ← Identities.add now i
  | .identityUpdate i => do let _ ← Identities.update now i
  | .identityTouch id => do let _ ← Identities.touch now id
  | .identityDelete id => Identities.delete now id
  | .profileAdd p => do let _ ← Profiles.add now p
  | .profileUpdate p => do let _ ← Profiles.update now p
  | .profileMarkConnected id => do let _ ← Profiles.markConnected now id
  | .profileDelete id => Profiles.delete now id
  | .projectAdd p => do let _ ← Projects.add now p
  | .projectUpdate p => do let _ ← Projects.update now p
  | .projectSetStatus id status => do let _ ← Projects.setStatus now id status
  | .projectDelete id => Projects.delete now id
  | .messageAppend m => do let _ ← Messages.append now m
  | .messageUpdateStatus id status => do let _ ← Messages.updateStatus now id status
  | .messageDelete id => Messages.delete now id
  | .messageClear key => do let _ ← Messages.clear now key

/-- Every change settles from a vault whose cached document is well formed. -/
theorem Mutation.settles (hc : v.cache = some d) (hd : d.WellFormed) (now : Instant) :
    ∀ μ : Mutation, Settles now v ((μ.run now).run.run v)
  | .identityAdd i => (Identities.settles_add hc hd i).map_const ()
  | .identityUpdate i => (Identities.settles_update hc hd i).map_const ()
  | .identityTouch id => (Identities.settles_touch hc hd id).map_const ()
  | .identityDelete id => Identities.settles_delete hc hd id
  | .profileAdd p => (Profiles.settles_add hc hd p).map_const ()
  | .profileUpdate p => (Profiles.settles_update hc hd p).map_const ()
  | .profileMarkConnected id => (Profiles.settles_markConnected hc hd id).map_const ()
  | .profileDelete id => Profiles.settles_delete hc hd id
  | .projectAdd p => (Projects.settles_add hc hd p).map_const ()
  | .projectUpdate p => (Projects.settles_update hc hd p).map_const ()
  | .projectSetStatus id status => (Projects.settles_setStatus hc hd id status).map_const ()
  | .projectDelete id => Projects.settles_delete hc hd id
  | .messageAppend m => (Messages.settles_append hc hd m).map_const ()
  | .messageUpdateStatus id status => (Messages.settles_updateStatus hc hd id status).map_const ()
  | .messageDelete id => Messages.settles_delete hc hd id
  | .messageClear key => (Messages.settles_clear hc hd key).map_const ()

/-- From a vault whose cached document passes validation, every change made through a
repository is refused with an error of the repository's own (never one of the store), or
ends with nothing saved, or saves a document that passes validation: the store's own
validation never refuses it. -/
theorem mutation_never_fails_validation (now : Instant) (v : Vault) (d : Document) (hc : v.cache = some d)
    (hd : d.validate.isValid = true) (μ : Mutation) :
    Settles now v ((μ.run now).run.run v) ∧
      ∀ is w, (μ.run now).run.run v ≠ (.error (.store (.validationFailure is)), w) := by
  have h := Mutation.settles hc (Document.validate_isValid_iff.1 hd) now μ
  exact ⟨h, h.not_validationFailure⟩

theorem fresh_document_append_settles :
    (Document.fresh Instant.epoch).validate.isValid = true ∧
      let v : Vault := { Vault.create (.memory {}) {} {} with cache := some (Document.fresh Instant.epoch) }
      let μ : Mutation := .messageAppend
        { id := "m1", projectId := systemKey, role := .user, content := "hello", timestamp := Instant.epoch }
      Settles Instant.epoch v ((μ.run Instant.epoch).run.run v) ∧
        ∀ is w, (μ.run Instant.epoch).run.run v ≠ (.error (.store (.validationFailure is)), w) :=
  ⟨by decide, mutation_never_fails_validation _ _ _ rfl (by decide) _⟩

end Repo

end DocStore
