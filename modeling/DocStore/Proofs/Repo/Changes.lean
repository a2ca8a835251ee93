import Mathlib
import DocStore.Proofs.Repo.Checks
/-
  DocStore.Proofs.Repo.Changes — every document a repository change saves is well formed.

  A repository change reads the cached document, which is well formed, builds the next
  one and, for an addition or an update, runs its own check on it before saving. The
  lemmas below take the changes one by one and show that the document about to be saved
  is well formed whenever the change gets that far: after the entity's check passed, or,
  for a removal, after its guards (the entity exists, nothing still refers to it).

  Changing one collection keeps every part of the document that does not mention it
  (`WellFormed.setIdentities`, `setProfiles`, `setProjects`), so each lemma only shows the
  changed roster and the references into and out of it. Appending a message is the one
  change that touches two collections: its list, and the last activity of its project.
-/

namespace DocStore

/-! ## References as ids -/

/-- An id that some entity of `xs` has is had by one of `ys` when the two have the same ids. -/
theorem exists_id_of_map_eq {ε : Type} {xs ys : List ε} (id : ε → String) (h : ys.map id = xs.map id) {s : String}
    (hs : ∃ x ∈ xs, id x = s) : ∃ y ∈ ys, id y = s :=
  List.mem_map.1 (h ▸ List.mem_map.2 hs)

namespace Document

variable {d : Document}

theorem totalMessages_eq (d : Document) : d.totalMessages = (d.messages.map fun e => e.2.length).sum := by
  have h : ∀ (n : Nat) (l : List (String × List Message)),
      l.foldl (fun n m => n + m.2.length) n = n + (l.map fun e => e.2.length).sum := by
    intro n l
    induction l generalizing n with
    | nil => simp
    | cons e l ih => simp [ih, Nat.add_assoc]
  simpa [totalMessages] using h 0 d.messages

/-- Keeping some message lists, each cut down, keeps the total within what it was. -/
theorem totalMessages_le {ms : List (String × List Message)} (f : String × List Message → String × List Message)
    (hf : ∀ e, (f e).2.length ≤ e.2.length) (hms : List.Sublist ms (d.messages.map f)) :
    ({ d with messages := ms } : Document).totalMessages ≤ d.totalMessages := by
  rw [totalMessages_eq, totalMessages_eq]
  calc (ms.map fun e => e.2.length).sum ≤ ((d.messages.map f).map fun e => e.2.length).sum :=
        (hms.map _).sum_le_sum fun _ _ => Nat.zero_le _
    _ ≤ (d.messages.map fun e => e.2.length).sum := by
        rw [List.map_map]
        exact List.sum_le_sum fun e _ => hf e

/-! ## Frames: a change to one collection -/

theorem Linked.setIdentities (h : d.Linked) {xs : List Identity}
    (hp : ∀ p ∈ d.serverProfiles, ∃ i ∈ xs, i.id = p.sshIdentityId) : ({ d with identities := xs } : Document).Linked :=
  ⟨hp, h.projects, h.keys, h.owners⟩

theorem Linked.setProfiles (h : d.Linked) {ys : List ServerProfile}
    (hp : ∀ p ∈ ys, ∃ i ∈ d.identities, i.id = p.sshIdentityId)
    (hq : ∀ q ∈ d.projects, ∃ s ∈ ys, s.id = q.serverProfileId) : ({ d with serverProfiles := ys } : Document).Linked :=
  ⟨hp, hq, h.keys, h.owners⟩

theorem Linked.setProjects (h : d.Linked) {zs : List Project}
    (hq : ∀ q ∈ zs, ∃ s ∈ d.serverProfiles, s.id = q.serverProfileId)
    (hk : ∀ e ∈ d.messages, e.1 = systemKey ∨ ∃ q ∈ zs, q.id = e.1) : ({ d with projects := zs } : Document).Linked :=
  ⟨h.profiles, hq, hk, h.owners⟩

theorem WellFormed.setIdentities (h : d.WellFormed) {xs : List Identity}
    (hr : Roster Identity.validate (·.id) (·.name) maxIdentities xs)
    (hp : ∀ p ∈ d.serverProfiles, ∃ i ∈ xs, i.id = p.sshIdentityId) :
    ({ d with identities := xs } : Document).WellFormed :=
  ⟨h.version, hr, h.serverProfiles, h.projects, h.messages, h.total, h.linked.setIdentities hp⟩

theorem WellFormed.setProfiles (h : d.WellFormed) {ys : List ServerProfile}
    (hr : Roster ServerProfile.validate (·.id) (·.name) maxServerProfiles ys)
    (hp : ∀ p ∈ ys, ∃ i ∈ d.identities, i.id = p.sshIdentityId)
    (hq : ∀ q ∈ d.projects, ∃ s ∈ ys, s.id = q.serverProfileId) :
    ({ d with serverProfiles := ys } : Document).WellFormed :=
  ⟨h.version, h.identities, hr, h.projects, h.messages, h.total, h.linked.setProfiles hp hq⟩

theorem WellFormed.setProjects (h : d.WellFormed) {zs : List Project}
    (hr : Roster Project.validate (·.id) (·.name) maxProjects zs)
    (hq : ∀ q ∈ zs, ∃ s ∈ d.serverProfiles, s.id = q.serverProfileId)
    (hk : ∀ e ∈ d.messages, e.1 = systemKey ∨ ∃ q ∈ zs, q.id = e.1) :
    ({ d with projects := zs } : Document).WellFormed :=
  ⟨h.version, h.identities, h.serverProfiles, hr, h.messages, h.total, h.linked.setProjects hq hk⟩

/-- Message lists that each keep some of the messages of a list under the same key, with no
more messages in all. -/
theorem WellFormed.keepMessages (h : d.WellFormed) {ms : List (String × List Message)}
    (hms : ∀ x ∈ ms, ∃ y ∈ d.messages, x.1 = y.1 ∧ List.Sublist x.2 y.2)
    (ht : ({ d with messages := ms } : Document).totalMessages ≤ d.totalMessages) :
    ({ d with messages := ms } : Document).WellFormed := by
  refine ⟨h.version, h.identities, h.serverProfiles, h.projects, fun x hx => ?_, le_trans ht h.total,
    ⟨h.linked.profiles, h.linked.projects, fun x hx => ?_, fun x hx hne m hm => ?_⟩⟩
  · obtain ⟨y, hy, -, hsub⟩ := hms x hx
    exact (h.messages y hy).sublist hsub
  · obtain ⟨y, hy, hk, -⟩ := hms x hx
    rw [hk]
    exact h.linked.keys y hy
  · obtain ⟨y, hy, hk, hsub⟩ := hms x hx
    rw [hk] at hne ⊢
    exact h.linked.owners y hy hne m (hsub.subset hm)

end Document

namespace Conversation

/-- A message put in the place of another with its id and timestamp keeps a conversation. -/
theorem replace {m old : Message} {pre post : List Message} (h : Conversation (pre ++ old :: post))
    (hv : m.validate.isValid = true) (hid : m.id = old.id) (hts : m.timestamp = old.timestamp) :
    Conversation (pre ++ m :: post) := by
  refine ⟨fun x hx => ?_, by simpa [hid] using h.ids, by simpa using h.size, ?_⟩
  · rcases List.mem_append.1 hx with hx | hx
    · exact h.valid x (List.mem_append_left _ hx)
    · rcases List.mem_cons.1 hx with rfl | hx
      · exact hv
      · exact h.valid x (List.mem_append_right _ (List.mem_cons_of_mem _ hx))
  · -- the order only reads timestamps, and those are the same
    have hmap : (pre ++ m :: post).map (·.timestamp) = (pre ++ old :: post).map (·.timestamp) := by
      simp [hts]
    have hc := (List.isChain_map (fun x : Message => x.timestamp) (R := fun a b : Instant => a ≤ b)).2 h.ordered
    rw [← hmap] at hc
    exact (List.isChain_map _).1 hc

end Conversation

/-! ## Identities -/

namespace Repo

namespace Identities

variable {d : Document} {i old : Identity} {items : List Identity}

/-- An identity that passed its check, added. -/
theorem added (hd : d.WellFormed) (hv : i.validate.isValid = true)
    (hu : (unique entity (·.id) (·.name) (d.identities ++ [i]) i).isValid = true)
    (hc : (capacity "identities" (d.identities ++ [i]).length maxIdentities).isValid = true) :
    ({ d with identities := d.identities ++ [i] } : Document).WellFormed :=
  hd.setIdentities (hd.identities.push entity hv hu ((capacity_isValid _ _ _).1 hc)) fun p hp => by
    obtain ⟨j, hj, he⟩ := hd.linked.profiles p hp
    exact ⟨j, List.mem_append_left _ hj, he⟩

/-- An identity that passed its check, put in the place of the one with its id. -/
theorem replaced (hd : d.WellFormed) (hr : replaceFirst (·.id) i d.identities = some (old, items))
    (hv : i.validate.isValid = true) (hu : (unique entity (·.id) (·.name) items i).isValid = true) :
    ({ d with identities := items } : Document).WellFormed :=
  hd.setIdentities (hd.identities.replace entity hr hv hu) fun p hp =>
    exists_id_of_map_eq _ (replaceFirst_map hr) (hd.linked.profiles p hp)

/-- An identity no server profile uses, removed. -/
theorem removed (hd : d.WellFormed) (id : String) (hfree : ∀ p ∈ d.serverProfiles, p.sshIdentityId ≠ id) :
    ({ d with identities := d.identities.filter (·.id != id) } : Document).WellFormed :=
  hd.setIdentities (hd.identities.sublist List.filter_sublist) fun p hp => by
    obtain ⟨j, hj, he⟩ := hd.linked.profiles p hp
    exact ⟨j, List.mem_filter.2 ⟨hj, by simpa [he] using hfree p hp⟩, he⟩

end Identities

/-! ## Server profiles -/

namespace Profiles

variable {d : Document} {p old : ServerProfile} {items : List ServerProfile}

theorem identityExists_isValid (e : Document) : (identityExists e p).isValid = true ↔
    ∃ i ∈ e.identities, i.id = p.sshIdentityId := by
  simp [identityExists, Document.identity?]

/-- A profile that passed its check, added. -/
theorem added (hd : d.WellFormed) (hv : p.validate.isValid = true)
    (hu : (unique entity (·.id) (·.name) (d.serverProfiles ++ [p]) p).isValid = true)
    (he : (identityExists { d with serverProfiles := d.serverProfiles ++ [p] } p).isValid = true)
    (hc : (capacity "serverProfiles" (d.serverProfiles ++ [p]).length maxServerProfiles).isValid = true) :
    ({ d with serverProfiles := d.serverProfiles ++ [p] } : Document).WellFormed := by
  refine hd.setProfiles (hd.serverProfiles.push entity hv hu ((capacity_isValid _ _ _).1 hc)) ?_ ?_
  · intro q hq
    rcases List.mem_append.1 hq with hq | hq
    · exact hd.linked.profiles q hq
    · simp only [List.mem_singleton] at hq
      exact hq ▸ (identityExists_isValid _).1 he
  · intro q hq
    obtain ⟨s, hs, hid⟩ := hd.linked.projects q hq
    exact ⟨s, List.mem_append_left _ hs, hid⟩

/-- A profile that passed its check, put in the place of the one with its id. -/
theorem replaced (hd : d.WellFormed) (hr : replaceFirst (·.id) p d.serverProfiles = some (old, items))
    (hv : p.validate.isValid = true) (hu : (unique entity (·.id) (·.name) items p).isValid = true)
    (he : (identityExists { d with serverProfiles := items } p).isValid = true) :
    ({ d with serverProfiles := items } : Document).WellFormed := by
  refine hd.setProfiles (hd.serverProfiles.replace entity hr hv hu) ?_ fun q hq =>
    exists_id_of_map_eq _ (replaceFirst_map hr) (hd.linked.projects q hq)
  obtain ⟨pre, post, hxs, rfl, -, -⟩ := replaceFirst_eq_some hr
  intro q hq
  rcases List.mem_append.1 hq with hq | hq
  · exact hd.linked.profiles q (hxs ▸ List.mem_append_left _ hq)
  · rcases List.mem_cons.1 hq with rfl | hq
    · exact (identityExists_isValid _).1 he
    · exact hd.linked.profiles q (hxs ▸ List.mem_append_right _ (List.mem_cons_of_mem _ hq))

/-- A profile no project lives on, removed. -/
theorem removed (hd : d.WellFormed) (id : String) (hfree : ∀ q ∈ d.projects, q.serverProfileId ≠ id) :
    ({ d with serverProfiles := d.serverProfiles.filter (·.id != id) } : Document).WellFormed := by
  refine hd.setProfiles (hd.serverProfiles.sublist List.filter_sublist)
    (fun q hq => hd.linked.profiles q (List.mem_filter.1 hq).1) fun q hq => ?_
  obtain ⟨s, hs, hid⟩ := hd.linked.projects q hq
  exact ⟨s, List.mem_filter.2 ⟨hs, by simpa [hid] using hfree q hq⟩, hid⟩

end Profiles

/-! ## Projects -/

namespace Projects

variable {d : Document} {p old : Project} {items : List Project}

theorem profileExists_isValid (e : Document) : (profileExists e p).isValid = true ↔
    ∃ s ∈ e.serverProfiles, s.id = p.serverProfileId := by
  simp [profileExists, Document.serverProfile?]

theorem validate_of_fields {q : Proposed Project} (h : (fields q).isValid = true) : q.entity.validate.isValid = true := by
  unfold fields at h
  split at h
  · simp only [Verdict.isValid_and, Bool.and_eq_true] at h
    exact h.1
  · exact h

/-- A project that passed its check, added. -/
theorem added (hd : d.WellFormed) (hv : p.validate.isValid = true)
    (hu : (unique entity (·.id) (·.name) (d.projects ++ [p]) p).isValid = true)
    (he : (profileExists { d with projects := d.projects ++ [p] } p).isValid = true)
    (hc : (capacity "projects" (d.projects ++ [p]).length maxProjects).isValid = true) :
    ({ d with projects := d.projects ++ [p] } : Document).WellFormed := by
  refine hd.setProjects (hd.projects.push entity hv hu ((capacity_isValid _ _ _).1 hc)) ?_ ?_
  · intro q hq
    rcases List.mem_append.1 hq with hq | hq
    · exact hd.linked.projects q hq
    · simp only [List.mem_singleton] at hq
      exact hq ▸ (profileExists_isValid _).1 he
  · intro e he'
    rcases hd.linked.keys e he' with hk | ⟨q, hq, hid⟩
    · exact .inl hk
    · exact .inr ⟨q, List.mem_append_left _ hq, hid⟩

/-- A project that passed its check, put in the place of the one with its id. -/
theorem replaced (hd : d.WellFormed) (hr : replaceFirst (·.id) p d.projects = some (old, items))
    (hv : p.validate.isValid = true) (hu : (unique entity (·.id) (·.name) items p).isValid = true)
    (he : (profileExists { d with projects := items } p).isValid = true) :
    ({ d with projects := items } : Document).WellFormed := by
  refine hd.setProjects (hd.projects.replace entity hr hv hu) ?_ fun e he' =>
    (hd.linked.keys e he').imp_right (exists_id_of_map_eq _ (replaceFirst_map hr))
  obtain ⟨pre, post, hxs, rfl, -, -⟩ := replaceFirst_eq_some hr
  intro q hq
  rcases List.mem_append.1 hq with hq | hq
  · exact hd.linked.projects q (hxs ▸ List.mem_append_left _ hq)
  · rcases List.mem_cons.1 hq with rfl | hq
    · exact (profileExists_isValid _).1 he
    · exact hd.linked.projects q (hxs ▸ List.mem_append_right _ (List.mem_cons_of_mem _ hq))

/-- A project removed with its message list. -/
theorem removed (hd : d.WellFormed) (id : String) :
    ({ d with projects := d.projects.filter (·.id != id), messages := dropKey id d.messages } : Document).WellFormed := by
  have hsub : List.Sublist (dropKey id d.messages) d.messages := List.filter_sublist
  refine ⟨hd.version, hd.identities, hd.serverProfiles, hd.projects.sublist List.filter_sublist,
    fun e he => hd.messages e (hsub.subset he), ?_, ⟨hd.linked.profiles, ?_, ?_, ?_⟩⟩
  · exact le_trans (Document.totalMessages_le (fun e => e) (fun _ => le_refl _) (by simpa using hsub)) hd.total
  · exact fun q hq => hd.linked.projects q (List.mem_filter.1 hq).1
  · intro e he
    obtain ⟨he, hne⟩ := List.mem_filter.1 he
    rcases hd.linked.keys e he with hk | ⟨q, hq, hid⟩
    · exact .inl hk
    · exact .inr ⟨q, List.mem_filter.2 ⟨hq, by simpa [hid] using hne⟩, hid⟩
  · exact fun e he => hd.linked.owners e (hsub.subset he)

end Projects

/-! ## Messages -/

namespace Messages

variable {d e : Document} {m m₀ old : Message} {items : List Message}

theorem ownerExists_isValid (e : Document) : (ownerExists e m).isValid = true ↔
    m.projectId = systemKey ∨ ∃ q ∈ e.projects, q.id = m.projectId := by
  simp [ownerExists, Document.project?]

/-- The uniqueness check of a message, read as a count of its id over all lists. -/
theorem uniqueId_isValid (e : Document) : (uniqueId e m).isValid = true ↔
    (e.allMessages.countP fun x => x.id == m.id) ≤ 1 := by
  simp [uniqueId, List.countP_eq_length_filter]

theorem validate_of_fields {q : Proposed Message} (h : (fields q).isValid = true) : q.entity.validate.isValid = true := by
  unfold fields at h
  split at h
  · simp only [Verdict.isValid_and, Bool.and_eq_true] at h
    exact h.1
  · exact h

theorem mem_putKey_self {α : Type} (k : String) (v : α) (xs : List (String × α)) : (k, v) ∈ putKey k v xs := by
  obtain ⟨pre, post, -, hput, -⟩ := putKey_cases k v xs
  simp [hput]

/-- Moving a project's last activity changes nothing else. -/
theorem advanceActivity_eq (t : Instant) (p : Project) : ∃ a, advanceActivity t p = { p with lastActivity := a } := by
  unfold advanceActivity
  split
  · exact ⟨_, rfl⟩
  · exact ⟨p.lastActivity, rfl⟩

/-- The last activity only moves to a time no earlier than the project's creation, so the
project stays valid. -/
theorem validate_advanceActivity (t : Instant) {p : Project} (h : p.validate.isValid = true) :
    (advanceActivity t p).validate.isValid = true := by
  unfold advanceActivity
  split
  · rename_i ht
    simp only [Bool.and_eq_true, decide_eq_true_eq] at ht
    simp only [Project.validate, projectValidator, Validator.isValid_validate, Validator.rules_rule,
      List.all_append, List.all_cons, List.all_nil, Bool.and_true, Bool.and_eq_true, projectCoherence,
      Verdict.isValid_and, Verdict.isValid_check] at h ⊢
    simp_all [notBefore]
  · exact h

theorem roster_updateFirst {ps : List Project} (h : Roster Project.validate (·.id) (·.name) maxProjects ps)
    (k : String) (t : Instant) :
    Roster Project.validate (·.id) (·.name) maxProjects (updateFirst k (advanceActivity t) ps) := by
  have hkeep : ∀ {β : Type} (g : Project → β), (∀ p : Project, ∀ a, g { p with lastActivity := a } = g p) →
      (updateFirst k (advanceActivity t) ps).map g = ps.map g := fun g hg =>
    map_updateFirst g (fun p => by obtain ⟨a, ha⟩ := advanceActivity_eq t p; rw [ha, hg]) ps
  refine ⟨fun q hq => ?_, ?_, ?_, ?_⟩
  · rcases mem_updateFirst hq with hq | ⟨p, hp, rfl⟩
    · exact h.valid q hq
    · exact validate_advanceActivity t (h.valid p hp)
  · rw [hkeep _ fun _ _ => rfl]
    exact h.ids
  · rw [hkeep (fun q => Text.toLowerFull q.name) fun _ _ => rfl]
    exact h.names
  · have hlen := congrArg List.length (hkeep (fun _ => ()) fun _ _ => rfl)
    simp only [List.length_map] at hlen
    exact hlen ▸ h.size

/-- A message that passed its check, inserted into the list under its key, with its
project's last activity moved forward. -/
theorem appended (hd : d.WellFormed) (hv : m.validate.isValid = true)
    (he : e = { d with messages := putKey m.projectId (insertBounded m (d.messagesAt m.projectId)).1 d.messages,
                       projects := updateFirst m.projectId (advanceActivity m.timestamp) d.projects })
    (ho : (ownerExists e m).isValid = true) (hu : (uniqueId e m).isValid = true)
    (hc : (capacity "messages" e.totalMessages maxTotalMessages).isValid = true) :
    e.WellFormed := by
  -- only these facts about the new list are needed, so it is named and forgotten
  generalize hitems : (insertBounded m (d.messagesAt m.projectId)).1 = items at he
  have hmem : (m.projectId, items) ∈ e.messages := by
    rw [he]
    exact mem_putKey_self _ _ _
  have hid : (items.map (·.id)).count m.id ≤ 1 := by
    rw [List.count_eq_countP, List.countP_map]
    exact (sublist_allMessages hmem).countP_le.trans ((uniqueId_isValid e).1 hu)
  have hconv : Conversation items := by
    rw [← hitems] at hid ⊢
    exact conversation_insertBounded (conversation_messagesAt hd.messages m.projectId) hv hid
  have hins : ∀ y ∈ items, y = m ∨ y ∈ d.messagesAt m.projectId := by
    rw [← hitems]
    exact fun y hy => mem_insertBounded hy
  subst he
  have hids : (updateFirst m.projectId (advanceActivity m.timestamp) d.projects).map (·.id) = d.projects.map (·.id) :=
    map_updateFirst _ (fun p => by obtain ⟨a, ha⟩ := advanceActivity_eq m.timestamp p; rw [ha]) _
  refine ⟨hd.version, hd.identities, hd.serverProfiles, roster_updateFirst hd.projects _ _, fun x hx => ?_,
    (capacity_isValid _ _ _).1 hc, ⟨hd.linked.profiles, fun q hq => ?_, fun x hx => ?_, fun x hx hne y hy => ?_⟩⟩
  · rcases mem_putKey hx with rfl | hx
    · exact hconv
    · exact hd.messages x hx
  · rcases mem_updateFirst hq with hq | ⟨p, hp, rfl⟩
    · exact hd.linked.projects q hq
    · obtain ⟨a, ha⟩ := advanceActivity_eq m.timestamp p
      rw [ha]
      exact hd.linked.projects p hp
  · rcases mem_putKey hx with rfl | hx
    · exact (ownerExists_isValid _).1 ho
    · exact (hd.linked.keys x hx).imp_right (exists_id_of_map_eq _ hids)
  · rcases mem_putKey hx with rfl | hx
    · -- the list under the message's key: the message itself, or one that was there
      rcases hins y hy with rfl | hy
      · rfl
      · obtain ⟨x', hx', hk, hy'⟩ := mem_messagesAt hy
        rw [← hk] at hne ⊢
        exact hd.linked.owners x' hx' hne y hy'
    · exact hd.linked.owners x hx hne y hy

/-- In two lists that differ in one place, the first to satisfy `p` in one is the one put
there, when in the other only the one put there satisfies it. -/
theorem find?_eq_of_countP_le_one {α : Type} {p : α → Bool} {P S : List α} {y z : α} (hy : p y = true)
    (hz : p z = true) (h : (P ++ y :: S).countP p ≤ 1) : (P ++ z :: S).find? p = some z := by
  rw [List.countP_append, List.countP_cons_of_pos hy] at h
  have hP : P.find? p = none := List.find?_eq_none.2 fun x hx hpx => by
    have := List.countP_pos_iff.2 ⟨x, hx, hpx⟩
    omega
  rw [List.find?_append, hP, Option.none_or, List.find?_cons_of_pos hz]

/-- A message changed in place under its key, keeping its timestamp, once its id is unique:
the one replaced is the message found by that id. -/
theorem statusChanged (hd : d.WellFormed) (hv : m.validate.isValid = true)
    (hfind : d.allMessages.find? (fun x => x.id == m.id) = some m₀) (hts : m.timestamp = m₀.timestamp)
    (hr : replaceFirst (·.id) m (d.messagesAt m.projectId) = some (old, items))
    (he : e = { d with messages := putKey m.projectId items d.messages }) (hu : (uniqueId e m).isValid = true)
    (hc : (capacity "messages" e.totalMessages maxTotalMessages).isValid = true) :
    e.WellFormed := by
  obtain ⟨wpre, wpost, hw, rfl, hkey, -⟩ := replaceFirst_eq_some hr
  obtain ⟨pre, post, hpre, hput, hcases⟩ := putKey_cases m.projectId (wpre ++ m :: wpost) d.messages
  have hcount := (uniqueId_isValid e).1 hu
  have hnew : e.allMessages = (pre.flatMap (·.2) ++ wpre) ++ m :: (wpost ++ post.flatMap (·.2)) := by
    subst he
    simp [Document.allMessages, hput]
  -- the key had a list: otherwise `old`, still under it further on, and `m` would both be counted
  obtain ⟨w, hms⟩ : ∃ w, d.messages = pre ++ (m.projectId, w) :: post := by
    rcases hcases with hms | hms
    · exfalso
      obtain ⟨x, hx, -, hold⟩ := mem_messagesAt (hw ▸ List.mem_append_right _ (List.mem_cons_self ..))
      have hpos : 0 < ((pre ++ post).flatMap (·.2)).countP fun x => x.id == m.id :=
        List.countP_pos_iff.2 ⟨old, List.mem_flatMap.2 ⟨x, hms ▸ hx, hold⟩, by simpa using hkey⟩
      rw [hnew] at hcount
      simp only [List.flatMap_append, List.countP_append, List.countP_cons] at hpos hcount
      simp at hcount
      omega
    · exact hms
  have hw' : w = wpre ++ old :: wpost := (messagesAt_eq hms hpre).symm.trans hw
  -- the message found by its id is the one replaced, so the timestamp is unchanged
  have hold : d.allMessages = (pre.flatMap (·.2) ++ wpre) ++ old :: (wpost ++ post.flatMap (·.2)) := by
    simp [Document.allMessages, hms, hw']
  have hfirst := find?_eq_of_countP_le_one (p := fun x : Message => x.id == m.id) (by simp) (by simpa using hkey)
    (hnew ▸ hcount)
  rw [← hold, hfind] at hfirst
  have hmem : (m.projectId, w) ∈ d.messages := by simp [hms]
  have hconv : Conversation (wpre ++ m :: wpost) :=
    (hw' ▸ hd.messages _ hmem).replace hv hkey.symm (Option.some.inj hfirst ▸ hts)
  subst he
  refine ⟨hd.version, hd.identities, hd.serverProfiles, hd.projects, fun x hx => ?_, (capacity_isValid _ _ _).1 hc,
    ⟨hd.linked.profiles, hd.linked.projects, fun x hx => ?_, fun x hx hne y hy => ?_⟩⟩
  · rcases mem_putKey hx with rfl | hx
    · exact hconv
    · exact hd.messages x hx
  · rcases mem_putKey hx with rfl | hx
    · have hk := hd.linked.keys _ hmem
      exact hk
    · exact hd.linked.keys x hx
  · rcases mem_putKey hx with rfl | hx
    · rcases List.mem_append.1 hy with hy | hy
      · exact hd.linked.owners _ hmem hne y (hw' ▸ List.mem_append_left _ hy)
      · rcases List.mem_cons.1 hy with rfl | hy
        · rfl
        · exact hd.linked.owners _ hmem hne y (hw' ▸ List.mem_append_right _ (List.mem_cons_of_mem _ hy))
    · exact hd.linked.owners x hx hne y hy

/-- A message removed from every list, and the lists left empty dropped. -/
theorem removed (hd : d.WellFormed) (id : String) :
    ({ d with
        messages := (d.messages.map fun (k, ms) => (k, ms.filter (·.id != id))).filter fun (_, ms) => !ms.isEmpty } :
      Document).WellFormed := by
  refine hd.keepMessages (fun x hx => ?_) (Document.totalMessages_le _ (fun _ => List.length_filter_le _ _)
    List.filter_sublist)
  obtain ⟨⟨k, ms⟩, hy, rfl⟩ := List.mem_map.1 (List.mem_filter.1 hx).1
  exact ⟨(k, ms), hy, rfl, List.filter_sublist⟩

/-- The list under a key dropped. -/
theorem cleared (hd : d.WellFormed) (key : String) :
    ({ d with messages := dropKey key d.messages } : Document).WellFormed :=
  hd.keepMessages (fun x hx => ⟨x, (List.mem_filter.1 hx).1, rfl, List.Sublist.refl _⟩)
    (Document.totalMessages_le (fun e => e) (fun _ => le_refl _) (by rw [List.map_id']; exact List.filter_sublist))

end Messages

end Repo

end DocStore
