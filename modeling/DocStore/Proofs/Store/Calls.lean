import DocStore.Proofs.Store.Coherence
import DocStore.Repo.Identity
import DocStore.Repo.Profile
import DocStore.Repo.Project
import DocStore.Repo.Message
/-
  DocStore.Proofs.Store.Calls — the store's public interface, and coherence over every
  sequence of its calls.

  The repositories reach the vault only through loading and saving the document; each of
  their steps is coherent by the closure lemmas of `Keeps`. `Call` lists the calls of the
  interface (the store's own, then each repository's), with the switches of the failures a
  store in memory injects; `Call.apply` is the vault after one call.

  Proved:
  (1) Every call keeps a vault coherent (`coherent_apply`), hence so does every sequence of
      calls (`coherent_runCalls`), from a store in memory as it is opened
      (`coherent_create`).
  (2) The stored bytes do not always decode to the cached document: a document whose
      metadata holds a further key `createdAt` is written with that key twice
      (`saved_document_not_read_back`).
-/

namespace DocStore

/-! ## Repositories -/

namespace Repo

open Vault

theorem keeps_ofStore {x : VaultOp α} (hx : Keeps x.run) : Keeps (ofStore x).run := by
  refine (Keeps.lift hx).except_bind fun r => ?_
  cases r with
  | ok a => exact Keeps.except_pure _
  | error e => exact Keeps.throw _

/-- A change is checked, then saved. -/
theorem keeps_commit (now : Instant) (check : Timed Unit (Proposed ε)) (entity name : String) (p : Proposed ε) :
    Keeps (commit now check entity name p).run := by
  unfold commit
  extract_lets verdict store
  exact Keeps.guard fun _ => keeps_ofStore (keeps_save _)

/-- A repository step that reads the document and goes on from it. -/
theorem keeps_read (now : Instant) (f : Document → RepoOp α) (hf : ∀ d, Keeps (f d).run) :
    Keeps (ofStore (Vault.load now) >>= f).run :=
  (keeps_ofStore keeps_load).except_bind hf

/-- A repository step that saves a change made to the document it read. -/
theorem keeps_change (now : Instant) (limit : RepoOp Nat) (hl : Keeps limit.run) (check : Nat → Timed Unit (Proposed ε))
    (entity name : String) (p : Proposed ε) (answer : β) :
    Keeps (do let _ ← commit now (check (← limit)) entity name p; pure answer : RepoOp β).run := by
  refine hl.except_bind fun n => ?_
  exact (keeps_commit now (check n) entity name p).except_bind fun _ => Keeps.except_pure answer

/-- A repository step that saves the document it read, changed. -/
theorem keeps_store (now : Instant) (d : Document) : Keeps (do let _ ← ofStore (Vault.save now d) : RepoOp Unit).run :=
  (keeps_ofStore (keeps_save d)).except_bind fun _ => Keeps.except_pure ()

namespace Identities

theorem keeps_timeout : Keeps timeout.run := Keeps.except_get.except_bind fun _ => Keeps.except_pure _

theorem keeps_list (now : Instant) : Keeps (list now).run := keeps_read now _ fun _ => Keeps.except_pure _

theorem keeps_find (now : Instant) (id : String) : Keeps (find now id).run := by
  refine keeps_read now _ fun d => ?_
  split
  · exact Keeps.except_pure _
  · exact Keeps.throw _

theorem keeps_add (now : Instant) (i : Identity) : Keeps (add now i).run :=
  keeps_read now _ fun _ => keeps_change now _ keeps_timeout _ _ _ _ _

theorem keeps_update (now : Instant) (i : Identity) : Keeps (update now i).run := by
  refine keeps_read now _ fun d => ?_
  split
  · exact keeps_change now _ keeps_timeout _ _ _ _ _
  · exact Keeps.throw _

theorem keeps_delete (now : Instant) (id : String) : Keeps (delete now id).run := by
  refine keeps_read now _ fun d => ?_
  extract_lets users store checkUsers
  -- two guards: the identity exists, and no server profile uses it
  exact Keeps.guard fun _ => Keeps.guard fun _ => keeps_store now _

theorem keeps_touch (now : Instant) (id : String) : Keeps (touch now id).run :=
  (keeps_find now id).except_bind fun _ => keeps_update now _

theorem keeps_search (now : Instant) (query : String) : Keeps (search now query).run :=
  (keeps_list now).except_bind fun _ => Keeps.except_pure _

end Identities

namespace Profiles

theorem keeps_timeout : Keeps timeout.run := Keeps.except_get.except_bind fun _ => Keeps.except_pure _

theorem keeps_list (now : Instant) : Keeps (list now).run := keeps_read now _ fun _ => Keeps.except_pure _

theorem keeps_find (now : Instant) (id : String) : Keeps (find now id).run := by
  refine keeps_read now _ fun d => ?_
  split
  · exact Keeps.except_pure _
  · exact Keeps.throw _

theorem keeps_forIdentity (now : Instant) (id : String) : Keeps (forIdentity now id).run :=
  (keeps_list now).except_bind fun _ => Keeps.except_pure _

theorem keeps_add (now : Instant) (p : ServerProfile) : Keeps (add now p).run :=
  keeps_read now _ fun _ => keeps_change now _ keeps_timeout _ _ _ _ _

theorem keeps_update (now : Instant) (p : ServerProfile) : Keeps (update now p).run := by
  refine keeps_read now _ fun d => ?_
  split
  · exact keeps_change now _ keeps_timeout _ _ _ _ _
  · exact Keeps.throw _

theorem keeps_markConnected (now : Instant) (id : String) : Keeps (markConnected now id).run :=
  (keeps_find now id).except_bind fun _ => keeps_update now _

theorem keeps_delete (now : Instant) (id : String) : Keeps (delete now id).run := by
  refine keeps_read now _ fun d => ?_
  extract_lets users store checkUsers
  -- two guards: the profile exists, and no project lives on it
  exact Keeps.guard fun _ => Keeps.guard fun _ => keeps_store now _

theorem keeps_search (now : Instant) (query : String) : Keeps (search now query).run :=
  (keeps_list now).except_bind fun _ => Keeps.except_pure _

end Profiles

namespace Projects

theorem keeps_timeout : Keeps timeout.run := Keeps.except_get.except_bind fun _ => Keeps.except_pure _

theorem keeps_list (now : Instant) : Keeps (list now).run := keeps_read now _ fun _ => Keeps.except_pure _

theorem keeps_find (now : Instant) (id : String) : Keeps (find now id).run := by
  refine keeps_read now _ fun d => ?_
  split
  · exact Keeps.except_pure _
  · exact Keeps.throw _

theorem keeps_withStatus (now : Instant) (status : ProjectStatus) : Keeps (withStatus now status).run :=
  (keeps_list now).except_bind fun _ => Keeps.except_pure _

theorem keeps_add (now : Instant) (p : Project) : Keeps (add now p).run :=
  keeps_read now _ fun _ => keeps_change now _ keeps_timeout _ _ _ _ _

theorem keeps_update (now : Instant) (p : Project) : Keeps (update now p).run := by
  refine keeps_read now _ fun d => ?_
  split
  · exact keeps_change now _ keeps_timeout _ _ _ _ _
  · exact Keeps.throw _

theorem keeps_setStatus (now : Instant) (id : String) (status : ProjectStatus) :
    Keeps (setStatus now id status).run :=
  (keeps_find now id).except_bind fun _ => keeps_update now _

theorem keeps_delete (now : Instant) (id : String) : Keeps (delete now id).run := by
  refine keeps_read now _ fun d => ?_
  extract_lets store
  exact Keeps.guard fun _ => keeps_store now _

theorem keeps_search (now : Instant) (query : String) : Keeps (search now query).run :=
  (keeps_list now).except_bind fun _ => Keeps.except_pure _

end Projects

namespace Messages

theorem keeps_timeout : Keeps timeout.run := Keeps.except_get.except_bind fun _ => Keeps.except_pure _

theorem keeps_list (now : Instant) (key : String) : Keeps (list now key).run := by
  refine keeps_read now _ fun d => ?_
  extract_lets answer
  exact Keeps.guard fun _ => Keeps.except_pure _

theorem keeps_find (now : Instant) (id : String) : Keeps (find now id).run := by
  refine keeps_read now _ fun d => ?_
  split
  · exact Keeps.except_pure _
  · exact Keeps.throw _

theorem keeps_append (now : Instant) (m : Message) : Keeps (append now m).run := by
  refine keeps_read now _ fun d => ?_
  extract_lets key
  -- the list the message goes into, and the document with it
  split
  extract_lets next
  exact keeps_change now _ keeps_timeout _ _ _ _ _

theorem keeps_update (now : Instant) (m : Message) : Keeps (update now m).run := by
  refine keeps_read now _ fun d => ?_
  split
  · exact keeps_change now _ keeps_timeout _ _ _ _ _
  · exact Keeps.throw _

theorem keeps_updateStatus (now : Instant) (id : String) (status : MessageStatus) :
    Keeps (updateStatus now id status).run :=
  (keeps_find now id).except_bind fun _ => keeps_update now _

theorem keeps_delete (now : Instant) (id : String) : Keeps (delete now id).run := by
  refine keeps_read now _ fun d => ?_
  extract_lets store
  exact Keeps.guard fun _ => keeps_store now _

theorem keeps_clear (now : Instant) (key : String) : Keeps (clear now key).run := by
  refine keeps_read now _ fun d => ?_
  split
  · exact Keeps.except_pure _
  · exact (keeps_ofStore (keeps_save _)).except_bind fun _ => Keeps.except_pure _

theorem keeps_search (now : Instant) (query : String) (key : Option String) : Keeps (search now query key).run :=
  keeps_read now _ fun _ => Keeps.except_pure _

end Messages

end Repo

namespace Vault

variable {v : Vault}

/-! ## Calls of the public interface -/

/-- A call of the store's public interface, with its arguments, or a switch of the failures
the store in memory injects. -/
inductive Call where
  | start
  | load
  | save (d : Document)
  | validate
  | exportData
  | importData (json : String)
  | migrate (opts : RunOptions)
  | migrateToLatest
  | migrateToVersion (target : Nat)
  | rollback (backup : Option String)
  | plan (target : Option Nat)
  | listBackups
  | teardown
  | identityList
  | identityFind (id : String)
  | identityAdd (i : Identity)
  | identityUpdate (i : Identity)
  | identityDelete (id : String)
  | identityTouch (id : String)
  | identitySearch (query : String)
  | profileList
  | profileFind (id : String)
  | profileForIdentity (id : String)
  | profileAdd (p : ServerProfile)
  | profileUpdate (p : ServerProfile)
  | profileMarkConnected (id : String)
  | profileDelete (id : String)
  | profileSearch (query : String)
  | projectList
  | projectFind (id : String)
  | projectWithStatus (status : ProjectStatus)
  | projectAdd (p : Project)
  | projectUpdate (p : Project)
  | projectSetStatus (id : String) (status : ProjectStatus)
  | projectDelete (id : String)
  | projectSearch (query : String)
  | messageList (key : String)
  | messageFind (id : String)
  | messageAppend (m : Message)
  | messageUpdate (m : Message)
  | messageUpdateStatus (id : String) (status : MessageStatus)
  | messageDelete (id : String)
  | messageClear (key : String)
  | messageSearch (query : String) (key : Option String)
  | failPuts (on : Bool)
  | failBackups (on : Bool)

/-- The vault after a call made at `now`; what the call answers is left aside. -/
def Call.apply (now : Instant) (v : Vault) : Call → Vault
  | .start => ((Vault.start now).run.run v).2
  | .load => ((Vault.load now).run.run v).2
  | .save d => ((Vault.save now d).run.run v).2
  | .validate => ((Vault.validateCurrent now).run.run v).2
  | .exportData => ((Vault.exportText now).run.run v).2
  | .importData json => ((Vault.importChecked now json).run.run v).2
  | .migrate opts => ((Vault.migrate now opts).run v).2
  | .migrateToLatest => ((Vault.migrateToLatest now).run v).2
  | .migrateToVersion target => ((Vault.migrateToVersion now target).run v).2
  | .rollback backup => ((Vault.rollback now backup).run v).2
  | .plan target => ((Vault.planFor now target).run.run v).2
  | .listBackups => (Vault.listBackups.run.run v).2
  | .teardown => (Vault.teardown.run v).2
  | .identityList => ((Repo.Identities.list now).run.run v).2
  | .identityFind id => ((Repo.Identities.find now id).run.run v).2
  | .identityAdd i => ((Repo.Identities.add now i).run.run v).2
  | .identityUpdate i => ((Repo.Identities.update now i).run.run v).2
  | .identityDelete id => ((Repo.Identities.delete now id).run.run v).2
  | .identityTouch id => ((Repo.Identities.touch now id).run.run v).2
  | .identitySearch q => ((Repo.Identities.search now q).run.run v).2
  | .profileList => ((Repo.Profiles.list now).run.run v).2
  | .profileFind id => ((Repo.Profiles.find now id).run.run v).2
  | .profileForIdentity id => ((Repo.Profiles.forIdentity now id).run.run v).2
  | .profileAdd p => ((Repo.Profiles.add now p).run.run v).2
  | .profileUpdate p => ((Repo.Profiles.update now p).run.run v).2
  | .profileMarkConnected id => ((Repo.Profiles.markConnected now id).run.run v).2
  | .profileDelete id => ((Repo.Profiles.delete now id).run.run v).2
  | .profileSearch q => ((Repo.Profiles.search now q).run.run v).2
  | .projectList => ((Repo.Projects.list now).run.run v).2
  | .projectFind id => ((Repo.Projects.find now id).run.run v).2
  | .projectWithStatus s => ((Repo.Projects.withStatus now s).run.run v).2
  | .projectAdd p => ((Repo.Projects.add now p).run.run v).2
  | .projectUpdate p => ((Repo.Projects.update now p).run.run v).2
  | .projectSetStatus id s => ((Repo.Projects.setStatus now id s).run.run v).2
  | .projectDelete id => ((Repo.Projects.delete now id).run.run v).2
  | .projectSearch q => ((Repo.Projects.search now q).run.run v).2
  | .messageList key => ((Repo.Messages.list now key).run.run v).2
  | .messageFind id => ((Repo.Messages.find now id).run.run v).2
  | .messageAppend m => ((Repo.Messages.append now m).run.run v).2
  | .messageUpdate m => ((Repo.Messages.update now m).run.run v).2
  | .messageUpdateStatus id s => ((Repo.Messages.updateStatus now id s).run.run v).2
  | .messageDelete id => ((Repo.Messages.delete now id).run.run v).2
  | .messageClear key => ((Repo.Messages.clear now key).run.run v).2
  | .messageSearch q key => ((Repo.Messages.search now q key).run.run v).2
  | .failPuts on => match v.blobs with
    | .memory m => { v with blobs := .memory { m with failPuts := on } }
    | .files _ => v
  | .failBackups on => match v.blobs with
    | .memory m => { v with blobs := .memory { m with failBackups := on } }
    | .files _ => v

/-- The vault after the calls, each made at its own time, in order. -/
def runCalls (calls : List (Instant × Call)) (v : Vault) : Vault :=
  calls.foldl (fun v (now, c) => c.apply now v) v

/-- Every call keeps a vault coherent. -/
theorem coherent_apply (h : Coherent v) (now : Instant) (c : Call) : Coherent (c.apply now v) := by
  cases c with
  | start => exact keeps_start v h
  | load => exact keeps_load v h
  | save d => exact keeps_save d v h
  | validate => exact keeps_validateCurrent v h
  | exportData => exact keeps_exportText v h
  | importData json => exact keeps_importChecked json v h
  | migrate opts => exact keeps_migrate opts v h
  | migrateToLatest => exact keeps_migrateToLatest v h
  | migrateToVersion target => exact keeps_migrateToVersion target v h
  | rollback backup => exact keeps_rollback backup v h
  | plan target => exact keeps_planFor target v h
  | listBackups => exact keeps_listBackups v h
  | teardown => exact keeps_teardown v h
  | identityList => exact Repo.Identities.keeps_list now v h
  | identityFind id => exact Repo.Identities.keeps_find now id v h
  | identityAdd i => exact Repo.Identities.keeps_add now i v h
  | identityUpdate i => exact Repo.Identities.keeps_update now i v h
  | identityDelete id => exact Repo.Identities.keeps_delete now id v h
  | identityTouch id => exact Repo.Identities.keeps_touch now id v h
  | identitySearch q => exact Repo.Identities.keeps_search now q v h
  | profileList => exact Repo.Profiles.keeps_list now v h
  | profileFind id => exact Repo.Profiles.keeps_find now id v h
  | profileForIdentity id => exact Repo.Profiles.keeps_forIdentity now id v h
  | profileAdd p => exact Repo.Profiles.keeps_add now p v h
  | profileUpdate p => exact Repo.Profiles.keeps_update now p v h
  | profileMarkConnected id => exact Repo.Profiles.keeps_markConnected now id v h
  | profileDelete id => exact Repo.Profiles.keeps_delete now id v h
  | profileSearch q => exact Repo.Profiles.keeps_search now q v h
  | projectList => exact Repo.Projects.keeps_list now v h
  | projectFind id => exact Repo.Projects.keeps_find now id v h
  | projectWithStatus s => exact Repo.Projects.keeps_withStatus now s v h
  | projectAdd p => exact Repo.Projects.keeps_add now p v h
  | projectUpdate p => exact Repo.Projects.keeps_update now p v h
  | projectSetStatus id s => exact Repo.Projects.keeps_setStatus now id s v h
  | projectDelete id => exact Repo.Projects.keeps_delete now id v h
  | projectSearch q => exact Repo.Projects.keeps_search now q v h
  | messageList key => exact Repo.Messages.keeps_list now key v h
  | messageFind id => exact Repo.Messages.keeps_find now id v h
  | messageAppend m => exact Repo.Messages.keeps_append now m v h
  | messageUpdate m => exact Repo.Messages.keeps_update now m v h
  | messageUpdateStatus id s => exact Repo.Messages.keeps_updateStatus now id s v h
  | messageDelete id => exact Repo.Messages.keeps_delete now id v h
  | messageClear key => exact Repo.Messages.keeps_clear now key v h
  | messageSearch q key => exact Repo.Messages.keeps_search now q key v h
  | failPuts on =>
    -- switching injected failures changes no blob
    obtain ⟨m, hm⟩ := h.memory
    simp only [Call.apply, hm]
    exact h.quiet ⟨rfl, fun m' hm' => ⟨_, rfl, by rw [hm] at hm'; cases hm'; rfl⟩, rfl, rfl⟩
  | failBackups on =>
    obtain ⟨m, hm⟩ := h.memory
    simp only [Call.apply, hm]
    exact h.quiet ⟨rfl, fun m' hm' => ⟨_, rfl, by rw [hm] at hm'; cases hm'; rfl⟩, rfl, rfl⟩

theorem coherent_runCalls (calls : List (Instant × Call)) (h : Coherent v) : Coherent (runCalls calls v) := by
  induction calls generalizing v with
  | nil => exact h
  | cons call calls ih => exact ih (coherent_apply h call.1 call.2)

/-- A store in memory is coherent when it is opened: nothing is cached or shown yet. -/
theorem coherent_create (m : MemoryBlobs) (registry : Registry) (config : Config)
    (hk : config.documentKey ≠ config.historyKey) : Coherent (Vault.create (.memory m) registry config) :=
  ⟨⟨m, rfl⟩, hk, (fun _ hd => by cases hd), (fun _ hd => by cases hd)⟩

/-! ## What the cache and the observers hold -/

/-- Over a store in memory whose document and run log have their own keys, whatever calls are
made: a cached document passed validation, and the stored bytes are its encoding or decode to
it; a document shown to observers passed validation; and a save is all or nothing. -/
theorem cache_coherent_over_calls (m : MemoryBlobs) (registry : Registry) (config : Config)
    (hk : config.documentKey ≠ config.historyKey) :
    (∀ calls : List (Instant × Call), Coherent (runCalls calls (Vault.create (.memory m) registry config))) ∧
    ∀ (v : Vault) (mv : MemoryBlobs), v.blobs = .memory mv → ∀ now d,
      (∀ e w, (save now d).run.run v = (.error e, w) →
        w.cache = v.cache ∧ w.published = v.published ∧ w.docBytes = v.docBytes) ∧
      (∀ d' w, (save now d).run.run v = (.ok d', w) →
        d' = { d with lastModified := now } ∧ w.cache = some d' ∧ w.published = some d' ∧
          w.docBytes = some d'.encode) :=
  ⟨(fun calls => coherent_runCalls calls (coherent_create m registry config hk)),
    (fun _ _ hm _ d => save_all_or_nothing hm d)⟩

theorem cache_coherent_from_empty :
    ({} : Config).documentKey ≠ ({} : Config).historyKey ∧
      Coherent (runCalls [(Instant.epoch, .start), (Instant.epoch, .teardown), (Instant.epoch, .load)]
        (Vault.create (.memory {}) {} {})) :=
  ⟨by decide, (cache_coherent_over_calls {} {} {} (by decide)).1 _⟩

/-- A document whose metadata holds a further key `createdAt` is saved and cached, but its
stored bytes name `createdAt` twice, and they do not decode. -/
theorem saved_document_not_read_back :
    let d : Document :=
      { metadata := { createdAt := Instant.epoch, extra := [("createdAt", .str "2025-01-01T00:00:00Z")] },
        lastModified := Instant.epoch }
    let v := (Call.save d).apply Instant.epoch (Vault.create (.memory {}) {} {})
    v.cache = some d ∧ v.docBytes = some d.encode ∧ (Document.decode Instant.epoch d.encode).toBool = false := by
  intro d v
  have hv : d.validate.isValid = true := by decide +kernel
  have hk : Blob.validKey (Vault.create (.memory {}) {} {}).config.documentKey = true := by decide +kernel
  have hsave : v = { Vault.create (.memory {}) {} {} with
      blobs := .memory { blobs := MemoryBlobs.insertSorted "app_document" d.encode [] },
      cache := some d, published := some d } := by
    simp only [v, Call.apply]
    rw [save_memory rfl, if_pos hv, MemoryBlobs.put_eq, if_pos hk]
    rfl
  rw [hsave]
  exact ⟨rfl, rfl, by decide +kernel⟩

end Vault

end DocStore
