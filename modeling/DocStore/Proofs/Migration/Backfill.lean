import DocStore.Proofs.Repo.Changes
/-
  DocStore.Proofs.Migration.Backfill — the built-in migration from version 1 to version 2
  reorders and backfills, and loses nothing.

  The migration sorts every message list by time, then sets each project's last activity
  from the newest message of its list. `TimeSorted ms ms'` says what a stable sort by time
  gives: a permutation of `ms`, in time order, with the messages of each timestamp in
  their old order. `Backfilled ms p p'` says what backfilling a project from its messages
  `ms` does, with no reference to the order they come in.

  Proved:
  - `sortByTime_timeSorted`, `sortByTime_of_ordered`: the sort is the stable sort, and
    leaves a list already in time order as it is.
  - `backfillProject_backfilled`: read from the sorted list, the last message is a newest
    one, so the activity moves to the later of its time and the recorded one, when it is no
    earlier than the project's creation.
  - `linked_backfilled_iff`, `wellFormed_backfilled`: references resolve after the change
    exactly when they did before; a well-formed document stays well formed, its message
    lists as they were.
  - `backfill_sorts_and_fills`: all of it for the migration's run, with the check of a
    migration step, the progress reports (1 of T, …, T of T) and the estimate.
-/

namespace DocStore

/-! ## Time order -/

namespace Instant

theorem lt_iff (a b : Instant) : a < b ↔ a.sec < b.sec ∨ a.sec = b.sec ∧ a.nano < b.nano := by
  show before a b = true ↔ _
  simp [before]

theorem le_refl (a : Instant) : a ≤ a := by
  rw [le_iff]
  omega

theorem le_total (a b : Instant) : a ≤ b ∨ b ≤ a := by
  rw [le_iff, le_iff]
  omega

theorem le_antisymm {a b : Instant} (h₁ : a ≤ b) (h₂ : b ≤ a) : a = b := by
  obtain ⟨s, n, hn⟩ := a
  obtain ⟨s', n', hn'⟩ := b
  rw [le_iff] at h₁ h₂
  simp only [mk.injEq] at h₁ h₂ ⊢
  omega

theorem lt_of_le_of_not_le {a b c : Instant} (h₁ : a ≤ b) (h₂ : ¬ c ≤ b) : a < c := by
  rw [le_iff] at h₁ h₂
  rw [lt_iff]
  omega

end Instant

/-! ## The stable sort by time -/

/-- `ms'` is `ms` in time order, the messages of each timestamp in their old order: the
stable sort of `ms` by timestamp. -/
structure TimeSorted (ms ms' : List Message) : Prop where
  perm : ms'.Perm ms
  ordered : ms'.Pairwise fun a b => a.timestamp ≤ b.timestamp
  stable : ∀ t, ms'.filter (fun m => decide (m.timestamp = t)) = ms.filter fun m => decide (m.timestamp = t)

theorem timeOrder_trans (a b c : Message) (h₁ : decide (a.timestamp ≤ b.timestamp) = true)
    (h₂ : decide (b.timestamp ≤ c.timestamp) = true) : decide (a.timestamp ≤ c.timestamp) = true := by
  simp only [decide_eq_true_eq] at *
  exact Instant.le_trans h₁ h₂

theorem timeOrder_total (a b : Message) :
    (decide (a.timestamp ≤ b.timestamp) || decide (b.timestamp ≤ a.timestamp)) = true := by
  simpa using Instant.le_total a.timestamp b.timestamp

theorem sortByTime_timeSorted (ms : List Message) : TimeSorted ms (sortByTime ms) := by
  refine ⟨List.mergeSort_perm _ _,
    by simpa only [sortByTime, decide_eq_true_eq] using List.pairwise_mergeSort timeOrder_trans timeOrder_total ms,
    fun t => ?_⟩
  set p := fun m : Message => decide (m.timestamp = t)
  -- the messages of one timestamp are in time order among themselves, so the sort keeps
  -- them as a sublist, and it has no more of them than `ms` has
  have hsame : (ms.filter p).Pairwise fun a b => decide (a.timestamp ≤ b.timestamp) = true := by
    refine List.pairwise_of_forall_mem_list fun a ha b hb => ?_
    simp only [p, List.mem_filter, decide_eq_true_eq] at ha hb
    rw [ha.2, hb.2]
    simpa using Instant.le_refl t
  have hsub : (ms.filter p).Sublist ((sortByTime ms).filter p) := by
    have := (List.sublist_mergeSort timeOrder_trans timeOrder_total hsame List.filter_sublist).filter p
    simpa only [List.filter_filter, Bool.and_self, sortByTime] using this
  exact (hsub.eq_of_length ((List.mergeSort_perm ms _).filter p).length_eq.symm).symm

/-- A list already in time order is left as it is. -/
theorem sortByTime_of_ordered {ms : List Message} (h : ms.IsChain fun a b => a.timestamp ≤ b.timestamp) :
    sortByTime ms = ms :=
  List.mergeSort_of_pairwise (by simpa using timeOrder_pairwise.1 h)

/-- The last message of the sorted list is a newest one of the list. -/
theorem getLast?_sortByTime {ms : List Message} {m : Message} (h : (sortByTime ms).getLast? = some m) :
    m ∈ ms ∧ ∀ x ∈ ms, x.timestamp ≤ m.timestamp := by
  have hs := sortByTime_timeSorted ms
  obtain ⟨pre, hpre⟩ := List.getLast?_eq_some_iff.mp h
  have hord := hs.ordered
  rw [hpre, List.pairwise_append] at hord
  refine ⟨hs.perm.subset (by simp [hpre]), fun x hx => ?_⟩
  rcases List.mem_append.mp (hpre ▸ hs.perm.symm.subset hx) with hx | hx
  · exact hord.2.2 x hx m List.mem_cons_self
  · rw [List.mem_singleton.mp hx]
    exact Instant.le_refl _

/-! ## Backfilling a project -/

/-- `a` is the later of `t` and the recorded activity `old`, if there is one. -/
def LaterOf (old : Option Instant) (t a : Instant) : Prop :=
  t ≤ a ∧ (∀ c ∈ old, c ≤ a) ∧ (a = t ∨ old = some a)

theorem laterActivity_laterOf (old : Option Instant) (t : Instant) : LaterOf old t (laterActivity old t) := by
  cases old with
  | none => exact ⟨Instant.le_refl t, by simp, .inl rfl⟩
  | some c =>
    simp only [laterActivity]
    split
    · rename_i h
      exact ⟨h, by simpa using Instant.le_refl c, .inr rfl⟩
    · rename_i h
      exact ⟨Instant.le_refl t, by simpa using Instant.le_of_not_le h, .inl rfl⟩

/-- `p'` is `p` with its activity backfilled from its messages `ms`: when a newest of them is
no earlier than the project's creation, the last activity becomes the later of its time and
the recorded one; when every message is older than the project, nothing changes. -/
def Backfilled (ms : List Message) (p p' : Project) : Prop :=
  { p' with lastActivity := p.lastActivity } = p ∧
    ((∃ m ∈ ms, p.createdAt ≤ m.timestamp ∧ (∀ x ∈ ms, x.timestamp ≤ m.timestamp) ∧
        ∃ a, p'.lastActivity = some a ∧ LaterOf p.lastActivity m.timestamp a) ∨
      ((∀ m ∈ ms, m.timestamp < p.createdAt) ∧ p' = p))

theorem backfillProject_backfilled (ms : List Message) (p : Project) :
    Backfilled ms p (backfillProject (sortByTime ms) p) := by
  unfold backfillProject
  cases hl : (sortByTime ms).getLast? with
  | none =>
    -- no message at all
    have hnil : ms = [] := ((sortByTime_timeSorted ms).perm.symm.trans
      (List.Perm.of_eq (List.getLast?_eq_none_iff.mp hl))).eq_nil
    exact ⟨rfl, .inr ⟨by simp [hnil], rfl⟩⟩
  | some m =>
    obtain ⟨hm, hnewest⟩ := getLast?_sortByTime hl
    dsimp only
    split
    · rename_i hc
      exact ⟨rfl, .inl ⟨m, hm, hc, hnewest, _, rfl, laterActivity_laterOf _ _⟩⟩
    · rename_i hc
      exact ⟨rfl, .inr ⟨fun x hx => Instant.lt_of_le_of_not_le (hnewest x hx) hc, rfl⟩⟩

/-- Backfilling changes nothing but the last activity. -/
theorem backfillProject_eq (ms : List Message) (p : Project) :
    ∃ a, backfillProject ms p = { p with lastActivity := a } := by
  unfold backfillProject
  split
  · split
    · exact ⟨_, rfl⟩
    · exact ⟨p.lastActivity, rfl⟩
  · exact ⟨p.lastActivity, rfl⟩

/-- A project whose last activity moves to a time no earlier than its creation stays valid. -/
theorem Project.validate_setActivity {p : Project} (h : p.validate.isValid = true) {a : Instant}
    (ha : p.createdAt ≤ a) : ({ p with lastActivity := some a } : Project).validate.isValid = true := by
  simp only [Project.validate, projectValidator, Validator.isValid_validate, Validator.rules_rule,
    List.all_append, List.all_cons, List.all_nil, Bool.and_true, Bool.and_eq_true, projectCoherence,
    Verdict.isValid_and, Verdict.isValid_check] at h ⊢
  simp_all [notBefore]

theorem validate_backfillProject {ms : List Message} {p : Project} (h : p.validate.isValid = true) :
    (backfillProject (sortByTime ms) p).validate.isValid = true := by
  rcases (backfillProject_backfilled ms p).2 with ⟨m, -, hc, -, a, ha, hlater⟩ | ⟨-, he⟩
  · obtain ⟨b, hb⟩ := backfillProject_eq (sortByTime ms) p
    rw [hb] at ha ⊢
    cases ha
    exact Project.validate_setActivity h (Instant.le_trans hc hlater.1)
  · rw [he]
    exact h

/-! ## The migrated document -/

namespace Document

/-- The document the backfill's transform returns: every list sorted, every project
backfilled from its list. -/
def backfilled (d : Document) : Document :=
  { d with messages := d.messages.map (fun e => (e.1, sortByTime e.2)),
           projects := d.projects.map fun p => backfillProject (sortByTime (d.messagesAt p.id)) p }

/-- Looking a key up among the sorted lists finds the sorted list under it. -/
theorem lookup_sorted (xs : List (String × List Message)) (k : String) :
    ((xs.map fun (k, ms) => (k, sortByTime ms)).lookup k).getD [] =
      sortByTime (((xs.find? (·.1 == k)).map (·.2)).getD []) := by
  induction xs with
  | nil => simp [sortByTime]
  | cons e xs ih =>
    obtain ⟨k', ms⟩ := e
    by_cases h : k = k'
    · subst h
      simp
    · simp [List.lookup_cons, beq_false_of_ne h, beq_false_of_ne (Ne.symm h), ih]

end Document

theorem backfillActivity_result (d : Document) : (backfillActivity d).result = .ok d.backfilled := by
  simp only [backfillActivity, Document.backfilled, Except.ok.injEq]
  congr 1
  refine List.map_congr_left fun p _ => ?_
  rw [Document.lookup_sorted]
  rfl

theorem backfillMigration_apply (d : Document) :
    backfillMigration.apply d = { reports := (backfillActivity d).reports, result := .ok { d.backfilled with version := 2 } } := by
  simp [backfillMigration, Migration.step, Migration.describe, Migration.markReversible, Migration.withEstimate,
    backfillActivity_result, Except.map]

namespace Document

@[simp] theorem backfilled_identities (d : Document) : d.backfilled.identities = d.identities := rfl

@[simp] theorem backfilled_serverProfiles (d : Document) : d.backfilled.serverProfiles = d.serverProfiles := rfl

theorem backfilled_projects_map {β : Type} (g : Project → β) (hg : ∀ p : Project, ∀ a, g { p with lastActivity := a } = g p)
    (d : Document) : d.backfilled.projects.map g = d.projects.map g := by
  simp only [backfilled, List.map_map]
  refine List.map_congr_left fun p _ => ?_
  obtain ⟨a, ha⟩ := backfillProject_eq (sortByTime (d.messagesAt p.id)) p
  simp [ha, hg]

theorem mem_backfilled_messages {d : Document} {e : String × List Message} :
    e ∈ d.backfilled.messages ↔ ∃ x ∈ d.messages, e = (x.1, sortByTime x.2) := by
  simp [backfilled, eq_comm]

theorem totalMessages_backfilled (d : Document) : d.backfilled.totalMessages = d.totalMessages := by
  simp [totalMessages_eq, backfilled, List.map_map, Function.comp_def, sortByTime]

/-- References resolve after backfilling exactly when they did before: it moves no id and no
message from its key. -/
theorem linked_backfilled_iff (d : Document) : d.backfilled.Linked ↔ d.Linked := by
  have hids := backfilled_projects_map (·.id) (fun _ _ => rfl) d
  have hrefs := backfilled_projects_map (·.serverProfileId) (fun _ _ => rfl) d
  -- a statement about the projects' ids or profile ids reads the same on both lists
  have hex : ∀ s, (∃ q ∈ d.backfilled.projects, q.id = s) ↔ ∃ q ∈ d.projects, q.id = s := fun s =>
    ⟨exists_id_of_map_eq _ hids.symm, exists_id_of_map_eq _ hids⟩
  have hall : (∀ q ∈ d.backfilled.projects, ∃ s ∈ d.serverProfiles, s.id = q.serverProfileId) ↔
      ∀ q ∈ d.projects, ∃ s ∈ d.serverProfiles, s.id = q.serverProfileId := by
    have h := congrArg (fun l => ∀ r ∈ l, ∃ s ∈ d.serverProfiles, s.id = r) hrefs
    simpa using h
  constructor
  · rintro ⟨hp, hq, hk, ho⟩
    refine ⟨hp, hall.mp hq, fun x hx => ?_, fun x hx hne m hm => ?_⟩
    · rcases hk (x.1, sortByTime x.2) (mem_backfilled_messages.mpr ⟨x, hx, rfl⟩) with h | h
      · exact .inl h
      · exact .inr ((hex _).mp h)
    · exact ho (x.1, sortByTime x.2) (mem_backfilled_messages.mpr ⟨x, hx, rfl⟩) hne m
        ((sortByTime_timeSorted x.2).perm.symm.subset hm)
  · rintro ⟨hp, hq, hk, ho⟩
    refine ⟨hp, hall.mpr hq, fun e he => ?_, fun e he hne m hm => ?_⟩
    · obtain ⟨x, hx, rfl⟩ := mem_backfilled_messages.mp he
      exact (hk x hx).imp_right (hex _).mpr
    · obtain ⟨x, hx, rfl⟩ := mem_backfilled_messages.mp he
      exact ho x hx hne m ((sortByTime_timeSorted x.2).perm.subset hm)

theorem WellFormed.setVersion {d : Document} (h : d.WellFormed) {n : Nat} (hn : initialVersion ≤ n) :
    ({ d with version := n } : Document).WellFormed :=
  ⟨hn, h.identities, h.serverProfiles, h.projects, h.messages, h.total,
    ⟨h.linked.profiles, h.linked.projects, h.linked.keys, h.linked.owners⟩⟩

/-- Backfilling a well-formed document sorts nothing, since its lists are in time order
already, and keeps it well formed. -/
theorem wellFormed_backfilled {d : Document} (h : d.WellFormed) :
    d.backfilled.messages = d.messages ∧ d.backfilled.WellFormed := by
  have hmsgs : d.backfilled.messages = d.messages := by
    simp only [backfilled]
    conv => rhs; rw [← List.map_id d.messages]
    refine List.map_congr_left fun e he => ?_
    rw [sortByTime_of_ordered (h.messages e he).ordered]
    rfl
  refine ⟨hmsgs, h.version, h.identities, h.serverProfiles, ⟨fun q hq => ?_, ?_, ?_, ?_⟩,
    hmsgs ▸ h.messages, (totalMessages_backfilled d).symm ▸ h.total, (linked_backfilled_iff d).mpr h.linked⟩
  · simp only [backfilled, List.mem_map] at hq
    obtain ⟨p, hp, rfl⟩ := hq
    exact validate_backfillProject (h.projects.valid p hp)
  · rw [backfilled_projects_map (·.id) fun _ _ => rfl]
    exact h.projects.ids
  · rw [backfilled_projects_map (fun q => Text.toLowerFull q.name) fun _ _ => rfl]
    exact h.projects.names
  · simpa [backfilled] using h.projects.size

end Document

/-! ## The migration's run -/

theorem validateMigrationStep_backfilled (d : Document) :
    (validateMigrationStep d { d.backfilled with version := 2 } 2).isValid = d.validateRelationships.isValid := by
  have hcounts : ({ d.backfilled with version := 2 } : Document).counts = d.counts := by
    have htotal := Document.totalMessages_backfilled d
    simp only [Document.counts, EntityCounts.mk.injEq]
    exact ⟨rfl, rfl, by simp [Document.backfilled], htotal⟩
  have hlinked : ({ d.backfilled with version := 2 } : Document).validateRelationships.isValid =
      d.backfilled.validateRelationships.isValid := rfl
  rw [validateMigrationStep, hcounts]
  simp only [Verdict.isValid_and, Verdict.isValid_check, Verdict.isValid_mk, beq_self_eq_true, Bool.true_and,
    Nat.lt_irrefl, if_false, List.filterMap_cons, List.filterMap_nil, List.isEmpty_nil, hlinked]
  rw [Bool.eq_iff_iff, Document.validateRelationships_isValid_iff, Document.validateRelationships_isValid_iff]
  exact Document.linked_backfilled_iff d

theorem backfillActivity_reports (d : Document) :
    (backfillActivity d).reports.map (fun r => (r.completed, r.total)) =
      (List.range (d.messages.length + d.projects.length)).map
        fun i => (i + 1, d.messages.length + d.projects.length) := by
  -- each part pairs a count with its list, and only the count is reported
  have hzip : ∀ {β : Type} (l : List β) (f : Nat → Nat × Nat),
      ((List.range l.length).zip l).map (fun x => f x.1) = (List.range l.length).map f := by
    intro β l f
    rw [show (fun x : Nat × β => f x.1) = f ∘ Prod.fst from rfl, ← List.map_map, List.map_fst_zip (by simp)]
  simp only [backfillActivity, List.map_append, List.map_map, Function.comp_def, List.range_add]
  rw [hzip _ fun i => (i + 1, d.messages.length + d.projects.length),
    hzip _ fun j => ((d.messages.map fun x => (x.1, sortByTime x.2)).length + j + 1,
      d.messages.length + d.projects.length),
    List.length_map]

/-- The built-in migration from version 1 to version 2, on any document: it succeeds at
version 2; every message list becomes its stable sort by time under the same key (the list
itself when it was in order); every project is backfilled from its list; nothing else
changes. The check of a migration step passes exactly when references resolved before;
a valid document stays valid with its lists as they were. Its reports count 1 to T of T,
T being the number of lists and projects, and it estimates at least one step, else T. -/
theorem backfill_sorts_and_fills (d : Document) :
    let T := d.messages.length + d.projects.length
    ∃ d'', (backfillMigration.apply d).result = .ok d'' ∧ d''.version = 2 ∧
      { d'' with version := d.version, messages := d.messages, projects := d.projects } = d ∧
      List.Forall₂ (fun e e'' => e''.1 = e.1 ∧ TimeSorted e.2 e''.2 ∧
        (e.2.IsChain (fun a b => a.timestamp ≤ b.timestamp) → e''.2 = e.2)) d.messages d''.messages ∧
      List.Forall₂ (fun p p'' => Backfilled (d.messagesAt p.id) p p'') d.projects d''.projects ∧
      (validateMigrationStep d d'' 2).isValid = d.validateRelationships.isValid ∧
      (d.validate.isValid = true → d''.validate.isValid = true ∧ d''.messages = d.messages) ∧
      (backfillMigration.apply d).reports.map (fun r => (r.completed, r.total)) =
        (List.range T).map (fun i => (i + 1, T)) ∧
      backfillMigration.estimate d = max 1 T := by
  intro T
  refine ⟨{ d.backfilled with version := 2 }, by rw [backfillMigration_apply], rfl, rfl, ?_, ?_,
    validateMigrationStep_backfilled d, fun hv => ?_, by rw [backfillMigration_apply]; exact backfillActivity_reports d,
    rfl⟩
  · simp only [Document.backfilled, List.forall₂_map_right_iff, List.forall₂_same]
    exact fun e _ => ⟨trivial, sortByTime_timeSorted e.2, sortByTime_of_ordered⟩
  · simp only [Document.backfilled, List.forall₂_map_right_iff, List.forall₂_same]
    exact fun p _ => backfillProject_backfilled _ p
  · obtain ⟨hmsgs, hwf⟩ := Document.wellFormed_backfilled (Document.validate_isValid_iff.mp hv)
    exact ⟨Document.validate_isValid_iff.mpr (hwf.setVersion (by decide)), hmsgs⟩

end DocStore
