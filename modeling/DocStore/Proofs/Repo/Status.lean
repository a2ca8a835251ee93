import DocStore.Proofs.Repo.Settles
import DocStore.Proofs.Store.Coherence
/-
  DocStore.Proofs.Repo.Status — a status change rewrites exactly the message its id finds,
  where that message is kept under its own key and its id once.

  A status change makes two lookups. It finds the message over every list in key order,
  then replaces the first message with that id in the list under the found message's
  `projectId`, and checks the document with that list put back, counting the id over every
  list. A valid document lets the two lookups part: validation holds a message's
  `projectId` to its key only outside the system list, and the ids distinct only within
  one list. So the change refuses a system message that names another key (it is not found
  where it is looked for), and a message whose id is used under another key too (the check
  counts it twice), both in valid documents (`status_change_refuses_found`).

  Where neither happens, and the lists are in key order as the stored map keeps them, the
  change is the save of the document with that one message changed in place, and that
  document passes validation (`status_change_rewrites_found`). Over a store in memory that
  takes writes it goes through: the changed message is the answer, and the document is
  cached, shown and stored with a new stamp.
-/

namespace DocStore

namespace Repo

open Vault

variable {α : Type} {now : Instant} {v w : Vault} {d : Document}

/-! ## Changes that pass their check -/

/-- A change whose check passes is the save of its document, then its answer. -/
theorem commit_passes (now : Instant) {ε : Type} {limit : RepoOp Nat} {n : Nat} (hl : limit.run.run v = (.ok n, v))
    (check : Nat → Timed Unit (Proposed ε)) (entity name : String) (p : Proposed ε) (answer : α)
    (hv : ((check n).check p 0 { world := () }).1.isValid = true) :
    (do let _ ← commit now (check (← limit)) entity name p; pure answer : RepoOp α).run.run v =
      (do let _ ← ofStore (Vault.save now p.document); pure answer : RepoOp α).run.run v := by
  rw [run_bind_ok _ hl]
  unfold commit
  extract_lets verdict store
  rw [if_neg (by simpa using hv)]

/-- A change whose check fails is refused with the error its issues are classified as, and
changes nothing. -/
theorem commit_refused (now : Instant) {ε : Type} {limit : RepoOp Nat} {n : Nat} (hl : limit.run.run v = (.ok n, v))
    (check : Nat → Timed Unit (Proposed ε)) (entity name : String) (p : Proposed ε) (answer : α)
    (hv : ((check n).check p 0 { world := () }).1.isValid = false) :
    (do let _ ← commit now (check (← limit)) entity name p; pure answer : RepoOp α).run.run v =
      (.error (classify entity name ((check n).check p 0 { world := () }).1.issues), v) := by
  rw [run_bind_ok _ hl]
  unfold commit
  extract_lets verdict store
  rw [if_pos (by simpa using hv)]
  rw [run_bind_error _ (run_bind_error (x := throw _) store rfl)]

/-- Over a store in memory that takes writes, a document that passes validation is saved:
cached, shown and stored, with a new stamp. -/
theorem save_goes_through (now : Instant) {mb : MemoryBlobs} (hm : v.blobs = .memory mb) (hp : mb.failPuts = false)
    (hk : Blob.validKey v.config.documentKey = true) (hd : d.validate.isValid = true) :
    ∃ w, (Vault.save now d).run.run v = (.ok { d with lastModified := now }, w) ∧
      w.cache = some { d with lastModified := now } ∧ w.published = w.cache ∧
      w.docBytes = some (Document.encode { d with lastModified := now }) := by
  have hs : ∃ w, (Vault.save now d).run.run v = (.ok { d with lastModified := now }, w) := by
    rw [save_memory hm, if_pos hd, MemoryBlobs.put_eq, if_pos hk, hp]
    exact ⟨_, rfl⟩
  obtain ⟨w, hs⟩ := hs
  obtain ⟨-, hc, hpub, hbytes⟩ := (save_all_or_nothing hm d).2 _ w hs
  exact ⟨w, hs, hc, hpub.trans hc.symm, hbytes⟩

/-! ## Where the message is -/

section Lists

variable {ε : Type} {key : ε → String} {x y : ε}

/-- In a list whose keys are distinct, replacing by the key of a member replaces that member,
in its place. -/
theorem replaceFirst_of_mem : ∀ {xs : List ε}, (xs.map key).Nodup → y ∈ xs → key x = key y →
    ∃ pre post, xs = pre ++ y :: post ∧ replaceFirst key x xs = some (y, pre ++ x :: post)
  | [], _, hy, _ => absurd hy List.not_mem_nil
  | z :: zs, hnd, hy, hk => by
    rw [List.map_cons, List.nodup_cons] at hnd
    rcases List.mem_cons.1 hy with rfl | hy
    · exact ⟨[], zs, rfl, by simp [replaceFirst, hk]⟩
    · -- `y` comes later, so the key of `z` is another one
      have hne : key z ≠ key x := fun h => hnd.1 (h.trans hk ▸ List.mem_map_of_mem hy)
      obtain ⟨pre, post, rfl, hr⟩ := replaceFirst_of_mem hnd.2 hy hk
      exact ⟨z :: pre, post, rfl, by simp [replaceFirst, hne, hr]⟩

end Lists

/-- Where the keys are in increasing order, putting a list under a key that has one replaces
that list in place. -/
theorem putKey_of_ordered {k : String} {a b : α} {P Q : List (String × α)}
    (h : (P ++ (k, a) :: Q).Pairwise fun e f => e.1 < f.1) : putKey k b (P ++ (k, a) :: Q) = P ++ (k, b) :: Q := by
  induction P with
  | nil => simp [putKey]
  | cons e P ih =>
    obtain ⟨he, hP⟩ := List.pairwise_cons.1 h
    obtain ⟨k', a'⟩ := e
    -- every key before `k` is smaller
    have hlt : k' < k := he (k, a) (by simp)
    have hne : k ≠ k' := fun h => String.lt_irrefl k' (h ▸ hlt)
    simp [putKey, String.lt_asymm hlt, hne, ih hP]

/-- A message under a key is in the list of the first entry with that key. -/
theorem mem_messagesAt_split {k : String} {m : Message} (h : m ∈ d.messagesAt k) :
    ∃ P Q L, d.messages = P ++ (k, L) :: Q ∧ d.messagesAt k = L ∧ m ∈ L := by
  obtain ⟨e, he, hk, hm⟩ := mem_messagesAt h
  simp only [Document.messagesAt] at h ⊢
  cases hf : d.messages.find? (·.1 == k) with
  | none => simp [hf] at h
  | some e' =>
    obtain ⟨hk', P, Q, hd, -⟩ := List.find?_eq_some_iff_append.1 hf
    obtain ⟨k', L⟩ := e'
    obtain rfl : k' = k := by simpa using hk'
    simp only [hf, Option.map_some, Option.getD_some] at h
    exact ⟨P, Q, L, hd, rfl, h⟩

namespace Messages

variable {m : Message} {id : String} {s : MessageStatus}

/-- Looking a message up reads the cached document. -/
theorem find_cached (hc : v.cache = some d) :
    ((find now id).run.run v).1 = .ok m ↔ d.allMessages.find? (·.id == id) = some m := by
  unfold find
  rw [run_bind_ok _ (ofStore_load hc)]
  split
  · rename_i m₀ hf
    rw [hf]
    exact ⟨(fun h => by cases h; rfl), (fun h => by cases h; rfl)⟩
  · rename_i hf
    rw [hf]
    exact ⟨(fun h => by cases h), (fun h => by cases h)⟩

theorem find_keeps (hc : v.cache = some d) : ((find now id).run.run v).2 = v := by
  unfold find
  rw [run_bind_ok _ (ofStore_load hc)]
  split <;> rfl

/-- A change of status keeps what the message check reads. -/
theorem validate_status (m : Message) (s : MessageStatus) : ({ m with status := s } : Message).validate = m.validate :=
  rfl

/-- A status change is the update of the message its id finds. -/
theorem updateStatus_found (hc : v.cache = some d) (hget : ((find now id).run.run v).1 = .ok m) :
    (updateStatus now id s).run.run v = (update now { m with status := s }).run.run v := by
  unfold updateStatus
  rw [run_bind_ok _ (Prod.ext hget (find_keeps hc))]

/-- An update whose message's id is in no message under its key is refused as not found. -/
theorem update_unfound (hc : v.cache = some d) (hr : replaceFirst (·.id) m (d.messagesAt m.projectId) = none) :
    (update now m).run.run v = (.error (notFound m.id), v) := by
  unfold update
  rw [run_bind_ok _ (ofStore_load hc), hr]
  rfl

/-- An update that replaces a message under its key is the change checked and committed with
the list put back under the key. -/
theorem update_checked {old : Message} {items : List Message} (hc : v.cache = some d)
    (hr : replaceFirst (·.id) m (d.messagesAt m.projectId) = some (old, items)) :
    (update now m).run.run v =
      (do
        let _ ← commit now (check (← timeout)) entity m.id
          { entity := m, previous := some old, document := { d with messages := putKey m.projectId items d.messages } }
        pure m : RepoOp Message).run.run v := by
  unfold update
  rw [run_bind_ok _ (ofStore_load hc), hr]

/-- A status change of `m`, stored under its key at `pre ++ m :: post` after the entries `P`
and before `Q`, with its id used once: the document it checks has that message changed and
nothing else. -/
theorem status_checks {P Q : List (String × List Message)} {pre post : List Message}
    (hwf : d.WellFormed) (hD : d.messages = P ++ (m.projectId, pre ++ m :: post) :: Q)
    (honce : (d.allMessages.countP fun x => x.id == m.id) ≤ 1)
    (ht : (messageTransitions.check MessageStatus.title "status" m.status s).isValid = true) (n : Nat) :
    ((check n).check
        { entity := { m with status := s }
          previous := some m
          document := { d with messages := P ++ (m.projectId, pre ++ { m with status := s } :: post) :: Q } }
        0 { world := () }).1.isValid = true := by
  set d' : Document := { d with messages := P ++ (m.projectId, pre ++ { m with status := s } :: post) :: Q }
  have hmem : (m.projectId, pre ++ m :: post) ∈ d.messages := by simp [hD]
  have hv : m.validate.isValid = true := (hwf.messages _ hmem).valid m (by simp)
  rw [check, pipeline_isValid]
  simp only [List.all_cons, List.all_nil, Bool.and_true, Bool.and_eq_true]
  refine ⟨?_, ?_, ?_, ?_⟩
  · simp only [fields, Verdict.isValid_and, Bool.and_eq_true, validate_status]
    exact ⟨hv, ht⟩
  · -- the key of the list is the system's or a project's
    rw [ownerExists_isValid]
    rcases hwf.linked.keys _ hmem with hk | ⟨q, hq, hid⟩
    · exact .inl hk
    · exact .inr ⟨q, hq, hid⟩
  · rw [uniqueId_isValid]
    have hsame : (d'.allMessages.countP fun x => x.id == m.id) = d.allMessages.countP fun x => x.id == m.id := by
      simp [d', Document.allMessages, hD, List.countP_append]
    exact hsame ▸ honce
  · rw [capacity_isValid]
    have hsame : d'.totalMessages = d.totalMessages := by
      simp [d', Document.totalMessages_eq, hD]
    exact hsame ▸ hwf.total

/-- A status change of the message `m` that looking `id` up finds, in a vault whose cached
document `D` passes validation, its lists in key order as the stored map keeps them. When
`m` is stored under its own `projectId`, its id is used once over all lists, and the move
from its status to `s` is allowed, `D` is `P ++ (key, pre ++ m :: post) :: Q`, and the
change is the save of `D'`, that document with `m` changed to status `s` and nothing else,
which passes validation; it answers the changed message. Over a store in memory that takes
writes, the save goes through: the change answers `m` with status `s`, and `D'`, stamped,
is cached, shown and stored. -/
theorem status_change_rewrites_found (now : Instant) (id : String) (s : MessageStatus) (v : Vault) (D : Document)
    (m : Message) (hc : v.cache = some D) (hv : D.validate.isValid = true)
    (hkeys : D.messages.Pairwise fun a b => a.1 < b.1) (hget : ((find now id).run.run v).1 = .ok m)
    (hkey : m ∈ D.messagesAt m.projectId) (honce : (D.allMessages.countP fun x => x.id == id) ≤ 1)
    (ht : (messageTransitions.check MessageStatus.title "status" m.status s).isValid = true) :
    ∃ P Q pre post, D.messages = P ++ (m.projectId, pre ++ m :: post) :: Q ∧
      let D' : Document := { D with messages := P ++ (m.projectId, pre ++ { m with status := s } :: post) :: Q }
      D'.validate.isValid = true ∧
      (updateStatus now id s).run.run v =
        (do let _ ← ofStore (Vault.save now D'); pure { m with status := s } : RepoOp Message).run.run v ∧
      ∀ mb, v.blobs = .memory mb → mb.failPuts = false → Blob.validKey v.config.documentKey = true →
        ∃ w, (updateStatus now id s).run.run v = (.ok { m with status := s }, w) ∧
          w.cache = some { D' with lastModified := now } ∧ w.published = w.cache ∧
          w.docBytes = some (Document.encode { D' with lastModified := now }) := by
  have hwf := Document.validate_isValid_iff.mp hv
  have hfind := (find_cached hc).1 hget
  have hid : m.id = id := by simpa using List.find?_some hfind
  subst hid
  -- the list under the message's key, and the message's place in it
  obtain ⟨P, Q, L, hD, hL, hmL⟩ := mem_messagesAt_split hkey
  have hconv : Conversation L := hwf.messages (m.projectId, L) (by simp [hD])
  obtain ⟨pre, post, rfl, hr⟩ := replaceFirst_of_mem (x := { m with status := s }) hconv.ids hmL rfl
  refine ⟨P, Q, pre, post, hD, ?_⟩
  intro D'
  have hput : putKey m.projectId (pre ++ { m with status := s } :: post) D.messages = D'.messages :=
    hD ▸ putKey_of_ordered (hD ▸ hkeys)
  have hcheck := status_checks (s := s) hwf hD honce ht v.config.validationTimeoutMs
  -- the document checked is the one `statusChanged` shows well formed
  have hwf' : D'.WellFormed := by
    rw [check, pipeline_isValid] at hcheck
    simp only [List.all_cons, List.all_nil, Bool.and_true, Bool.and_eq_true] at hcheck
    exact statusChanged hwf (validate_of_fields hcheck.1) hfind rfl (hL ▸ hr) (by dsimp only; rw [hput]) hcheck.2.2.1
      hcheck.2.2.2
  have hrun : (updateStatus now m.id s).run.run v =
      (do let _ ← ofStore (Vault.save now D'); pure { m with status := s } : RepoOp Message).run.run v := by
    have hcommit := commit_passes now (rfl : timeout.run.run v = (.ok v.config.validationTimeoutMs, v)) check
      entity m.id { entity := { m with status := s }, previous := some m, document := D' } { m with status := s } hcheck
    rw [updateStatus_found hc hget, update_checked hc (hL ▸ hr), hput,
      show ({ D with messages := D'.messages } : Document) = D' from rfl]
    exact hcommit
  refine ⟨Document.validate_isValid_iff.2 hwf', hrun, fun mb hm hp hk => ?_⟩
  obtain ⟨w, hs, hcache, hpub, hbytes⟩ := save_goes_through now hm hp hk (Document.validate_isValid_iff.2 hwf')
  exact ⟨w, by rw [hrun, run_bind_ok _ (ofStore_ok hs)]; rfl, hcache, hpub, hbytes⟩

/-- A note of the system list, moved from sent to delivered in a vault over a store in memory:
the change goes through and answers the delivered note. -/
theorem system_note_delivered :
    let note : Message :=
      { id := "n1", projectId := systemKey, role := .system, content := "note", timestamp := Instant.epoch }
    let D : Document := { Document.fresh Instant.epoch with messages := [(systemKey, [note])] }
    let v : Vault := { Vault.create (.memory {}) {} {} with cache := some D }
    D.validate.isValid = true ∧ ((find Instant.epoch "n1").run.run v).1 = .ok note ∧
      ∃ w, (updateStatus Instant.epoch "n1" .delivered).run.run v = (.ok { note with status := .delivered }, w) := by
  intro note D v
  have hv : D.validate.isValid = true := by decide +kernel
  have hget : ((find Instant.epoch "n1").run.run v).1 = .ok note := rfl
  obtain ⟨_, _, _, _, -, hrest⟩ := status_change_rewrites_found Instant.epoch "n1" .delivered v D note rfl hv
    (by decide) hget (by decide +kernel) (by decide +kernel) (by decide)
  obtain ⟨w, hrun, -⟩ := hrest.2.2 {} rfl rfl (by decide +kernel)
  exact ⟨hv, hget, w, hrun⟩

/-- A system message naming the key `ghost`. -/
def strayMessage : Message :=
  { id := "m1", projectId := "ghost", role := .system, content := "hi", timestamp := Instant.epoch }

/-- A valid document whose system list holds `strayMessage`; `ghost` has no list. -/
def strayDocument : Document := { Document.fresh Instant.epoch with messages := [(systemKey, [strayMessage])] }

/-- A message of project `p1`. -/
def projectMessage : Message :=
  { id := "m1", projectId := "p1", role := .user, content := "hi", timestamp := Instant.epoch }

/-- A valid document in which project `p1` holds `projectMessage` and the system list a message
with the same id. -/
def sharedIdDocument : Document :=
  { Document.fresh Instant.epoch with
    identities := [{ id := "i1", name := "Dev", keyType := .ed25519,
                     publicKey := "ssh-ed25519 AAAAC3NzaC1lZDI1NTE5AAAAIGq3 dev@laptop", createdAt := Instant.epoch }]
    serverProfiles := [{ id := "s1", name := "prod", host := "example.com", username := "deploy",
                         sshIdentityId := "i1", createdAt := Instant.epoch }]
    projects := [{ id := "p1", name := "api", serverProfileId := "s1", remotePath := "/srv/api",
                   createdAt := Instant.epoch }]
    messages := [("p1", [projectMessage]),
                 (systemKey, [{ id := "m1", projectId := systemKey, role := .system, content := "note",
                                timestamp := Instant.epoch }])] }

/-- The document with a project is well formed; its project's remote path is read by `simp`,
whose lemmas see through the search for a character. -/
theorem sharedIdDocument_wellFormed : sharedIdDocument.WellFormed := by
  have hproject : ∀ p ∈ sharedIdDocument.projects, p.validate.isValid = true := by
    intro p hp
    rw [List.mem_singleton.1 hp]
    simp only [Project.validate, projectValidator, Validator.isValid_validate, Validator.rules_rule, List.all_append,
      List.all_cons, List.all_nil]
    simp [FieldRule.remotePath]
    decide +kernel
  have hlists : ∀ e ∈ sharedIdDocument.messages, Conversation e.2 := by
    intro e he
    simp only [sharedIdDocument, List.mem_cons, List.not_mem_nil, or_false] at he
    rcases he with rfl | rfl <;>
      exact ⟨by decide +kernel, by decide +kernel, by decide, List.IsChain.singleton _⟩
  exact ⟨by decide, ⟨by decide +kernel, by decide +kernel, by decide +kernel, by decide⟩,
    ⟨by decide +kernel, by decide +kernel, by decide +kernel, by decide⟩,
    ⟨hproject, by decide +kernel, by decide +kernel, by decide⟩, hlists, by decide,
    ⟨by decide +kernel, by decide +kernel, by decide +kernel, by decide +kernel⟩⟩

/-- The hypotheses on where the message is kept cannot be dropped. In both documents the
message `m1` is found, and the move from sent to delivered is allowed, yet the change is
refused: the system message naming `ghost` is looked for under that key, where it is not,
and the message of `p1` is counted twice by the check, once more under the system key. -/
theorem status_change_refuses_found :
    let vA : Vault := { Vault.create (.memory {}) {} {} with cache := some strayDocument }
    let vB : Vault := { Vault.create (.memory {}) {} {} with cache := some sharedIdDocument }
    (messageTransitions.check MessageStatus.title "status" .sent .delivered).isValid = true ∧
      strayDocument.validate.isValid = true ∧
      ((find Instant.epoch "m1").run.run vA).1 = .ok strayMessage ∧
      (updateStatus Instant.epoch "m1" .delivered).run.run vA = (.error (notFound "m1"), vA) ∧
      sharedIdDocument.validate.isValid = true ∧
      ((find Instant.epoch "m1").run.run vB).1 = .ok projectMessage ∧
      (updateStatus Instant.epoch "m1" .delivered).run.run vB =
        (.error (.invalid entity [((Issue.business "message id 'm1' is already in use").on "id").withCode
          IssueCode.duplicateId]), vB) := by
  intro vA vB
  have hfindA : ((find Instant.epoch "m1").run.run vA).1 = .ok strayMessage := rfl
  have hfindB : ((find Instant.epoch "m1").run.run vB).1 = .ok projectMessage := rfl
  refine ⟨by decide, by decide +kernel, hfindA, ?_, Document.validate_isValid_iff.2 sharedIdDocument_wellFormed,
    hfindB, ?_⟩
  · -- the list under `ghost` is empty
    rw [updateStatus_found rfl hfindA]
    exact update_unfound rfl rfl
  · -- the message is replaced under `p1`, then the check counts `m1` twice
    have hr : replaceFirst (·.id) { projectMessage with status := .delivered } (sharedIdDocument.messagesAt "p1") =
        some (projectMessage, [{ projectMessage with status := .delivered }]) := by
      decide +kernel
    have hverdict : ((check vB.config.validationTimeoutMs).check
        { entity := { projectMessage with status := .delivered }
          previous := some projectMessage
          document := { sharedIdDocument with
            messages := putKey "p1" [{ projectMessage with status := .delivered }] sharedIdDocument.messages } }
        0 { world := () }).1 =
          .fail (((Issue.business "message id 'm1' is already in use").on "id").withCode IssueCode.duplicateId) := by
      decide +kernel
    rw [updateStatus_found rfl hfindB, update_checked rfl hr]
    refine (commit_refused Instant.epoch (rfl : timeout.run.run vB = (.ok vB.config.validationTimeoutMs, vB)) check
      entity _ _ _ ((congrArg Verdict.isValid hverdict).trans rfl)).trans ?_
    rw [hverdict]
    rfl

end Messages

end Repo

end DocStore
