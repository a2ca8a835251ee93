import Mathlib.Data.List.Nodup
import DocStore.Validation.Document
import DocStore.Proofs.Migration.Run
/-
  DocStore.Proofs.Validation.WellFormed — what the document validator accepts, said
  without running it.

  A document is well formed when its version is at least the first one; every identity,
  server profile and project passes its validator, their ids are distinct and their names
  distinct once lower-cased, and each collection is within its limit (`Roster`); every
  message list passes the message validator, has distinct ids, at most
  `maxMessagesPerProject` entries and never goes back in time (`Conversation`); the
  messages number at most `maxTotalMessages` in all; and references resolve (`Linked`):
  profiles to identities, projects to profiles, message keys to projects or `system`, and
  every message under a project's key names that project.

  Proved, for every document, rule by rule and then as a whole:
  (1) the relationship rules accept exactly the linked documents
      (`validateRelationships_isValid_iff`);
  (2) the full validator accepts exactly the well-formed documents (`validate_isValid_iff`);
  (3) together, with a refusal always carrying an issue (`validate_accepts_exactly`).
-/

namespace DocStore

/-! ## Verdicts -/

namespace Verdict

theorem isValid_iff (v : Verdict) : v.isValid = true ↔ v.issues = [] := by
  simp [isValid]

@[simp] theorem isValid_pass : pass.isValid = true := rfl

@[simp] theorem isValid_fail (i : Issue) : (fail i).isValid = false := rfl

@[simp] theorem isValid_mk (is : List Issue) : (⟨is⟩ : Verdict).isValid = is.isEmpty := rfl

/-- Combining in order collects every verdict's issues in order. -/
theorem foldl_and_issues (vs : List Verdict) (a : Verdict) :
    (vs.foldl Verdict.and a).issues = a.issues ++ vs.flatMap (·.issues) := by
  induction vs generalizing a with
  | nil => simp
  | cons v vs ih => simp [ih, Verdict.and, List.append_assoc]

theorem all_issues (vs : List Verdict) : (all vs).issues = vs.flatMap (·.issues) := by
  simp [all, foldl_and_issues, pass]

@[simp] theorem isValid_all (vs : List Verdict) : (all vs).isValid = vs.all (·.isValid) := by
  rw [Bool.eq_iff_iff, isValid_iff, all_issues, List.flatMap_eq_nil_iff, List.all_eq_true]
  simp [isValid_iff]

end Verdict

@[simp] theorem isValid_placedAt (place : String) (v : Verdict) : (placedAt place v).isValid = v.isValid := by
  simp [placedAt, Verdict.isValid]

namespace Validator

@[simp] theorem rules_rule (v : Validator α) (r : Rule α) : (v.rule r).rules = v.rules ++ [r] := rfl

@[simp] theorem rules_extend (v w : Validator α) : (v.extend w).rules = v.rules ++ w.rules := rfl

@[simp] theorem isValid_validate (v : Validator α) (x : α) :
    (v.validate x).isValid = v.rules.all fun r => (r x).isValid := by
  simp [validate, List.all_map, Function.comp_def]

end Validator

/-! ## Timestamps and repeated keys -/

namespace Instant

theorem le_iff_not_lt (a b : Instant) : a ≤ b ↔ ¬ b < a := by
  show before b a = false ↔ ¬ before b a = true
  simp

end Instant

/-- `firstOutOfOrder` finds nothing exactly on lists in non-decreasing timestamp order. -/
theorem firstOutOfOrder_eq_none (ms : List Message) (i : Nat) :
    firstOutOfOrder ms i = none ↔ ms.IsChain fun a b => a.timestamp ≤ b.timestamp := by
  fun_induction firstOutOfOrder ms i with
  | case1 a b rest i hlt => simp [List.isChain_cons_cons, Instant.le_iff_not_lt, hlt]
  | case2 a b rest i hlt ih => simp [List.isChain_cons_cons, Instant.le_iff_not_lt, hlt, ih]
  | case3 ms i hshort =>
    match ms, hshort with
    | [], _ => simp
    | [_], _ => simp
    | _ :: _ :: _, h => exact absurd rfl (h _ _ _)

theorem messageOrdering_isValid (key : String) (ms : List Message) :
    (messageOrdering key ms).isValid = true ↔ ms.IsChain fun a b => a.timestamp ≤ b.timestamp := by
  rw [← firstOutOfOrder_eq_none ms 0, messageOrdering]
  cases firstOutOfOrder ms 0 <;> simp

/-- Reporting repeated keys, from keys already `seen`, finds nothing exactly when the
values' keys are distinct and none was seen. -/
theorem duplicates_go_eq_nil (key : String → String) (vs seen : List String) :
    duplicates.go key vs seen [] = [] ↔ (vs.map key).Nodup ∧ ∀ v ∈ vs, key v ∉ seen := by
  induction vs generalizing seen with
  | nil => simp [duplicates.go]
  | cons v vs ih =>
    by_cases hs : key v ∈ seen
    · -- a key seen before is reported at once
      simp [duplicates.go, hs]
    · have hc : seen.contains (key v) = false := by simpa using hs
      rw [duplicates.go, hc, if_neg Bool.false_ne_true, ih]
      simp only [List.map_cons, List.nodup_cons, List.mem_map, List.mem_cons, forall_eq_or_imp, not_or]
      constructor
      · rintro ⟨hnd, hnot⟩
        exact ⟨⟨fun ⟨w, hw, he⟩ => (hnot w hw).1 he, hnd⟩, hs, fun w hw => (hnot w hw).2⟩
      · rintro ⟨⟨hnew, hnd⟩, -, hnot⟩
        exact ⟨hnd, fun w hw => ⟨fun he => hnew ⟨w, hw, he⟩, hnot w hw⟩⟩

theorem duplicates_eq_nil (key : String → String) (vs : List String) :
    duplicates key vs = [] ↔ (vs.map key).Nodup := by
  simp [duplicates, duplicates_go_eq_nil]

/-! ## What a well-formed document is -/

/-- A collection of named entities as a document keeps it: each passes `check`, their ids
are distinct, their names distinct once lower-cased, and there are at most `max`. -/
structure Roster {ε : Type} (check : ε → Verdict) (id name : ε → String) (max : Nat) (xs : List ε) : Prop where
  valid : ∀ x ∈ xs, (check x).isValid = true
  ids : (xs.map id).Nodup
  names : (xs.map fun x => Text.toLowerFull (name x)).Nodup
  size : xs.length ≤ max

/-- A message list as a document keeps it: each message passes its validator, their ids are
distinct, there are at most `maxMessagesPerProject`, and timestamps never go back. -/
structure Conversation (ms : List Message) : Prop where
  valid : ∀ m ∈ ms, m.validate.isValid = true
  ids : (ms.map (·.id)).Nodup
  size : ms.length ≤ maxMessagesPerProject
  ordered : ms.IsChain fun a b => a.timestamp ≤ b.timestamp

namespace Document

/-- The references between a document's entities resolve. -/
structure Linked (d : Document) : Prop where
  profiles : ∀ p ∈ d.serverProfiles, ∃ i ∈ d.identities, i.id = p.sshIdentityId
  projects : ∀ p ∈ d.projects, ∃ s ∈ d.serverProfiles, s.id = p.serverProfileId
  keys : ∀ e ∈ d.messages, e.1 = systemKey ∨ ∃ p ∈ d.projects, p.id = e.1
  owners : ∀ e ∈ d.messages, e.1 ≠ systemKey → ∀ m ∈ e.2, m.projectId = e.1

/-- What a stored document must be. -/
structure WellFormed (d : Document) : Prop where
  version : initialVersion ≤ d.version
  identities : Roster Identity.validate (·.id) (·.name) maxIdentities d.identities
  serverProfiles : Roster ServerProfile.validate (·.id) (·.name) maxServerProfiles d.serverProfiles
  projects : Roster Project.validate (·.id) (·.name) maxProjects d.projects
  messages : ∀ e ∈ d.messages, Conversation e.2
  total : d.totalMessages ≤ maxTotalMessages
  linked : d.Linked

end Document

/-! ## Each rule on its own -/

namespace DocumentRules

variable (d : Document)

theorem version_isValid : (version d).isValid = true ↔ initialVersion ≤ d.version := by
  simp [version]

theorem each_all (name : String) (check : α → Verdict) (xs : List α) :
    (each name check xs).all (·.isValid) = xs.all fun x => (check x).isValid := by
  have hsnd : ((List.range xs.length).zip xs).map Prod.snd = xs := List.map_snd_zip (by simp)
  conv => rhs; rw [← hsnd]
  simp [each, List.all_map, Function.comp_def]

theorem entities_isValid : (entities d).isValid = true ↔
    (∀ i ∈ d.identities, i.validate.isValid = true) ∧
    (∀ p ∈ d.serverProfiles, p.validate.isValid = true) ∧
    (∀ p ∈ d.projects, p.validate.isValid = true) ∧
    ∀ e ∈ d.messages, ∀ m ∈ e.2, m.validate.isValid = true := by
  simp only [entities, Verdict.isValid_all, List.all_append, List.all_flatMap, each_all, Bool.and_eq_true,
    List.all_eq_true]
  simp only [and_assoc]

theorem duplicateIssues_eq_nil (c : String) (ids names : List String) :
    duplicateIssues c ids names = [] ↔ ids = [] ∧ names = [] := by
  simp [duplicateIssues]

theorem uniqueness_isValid : (uniqueness d).isValid = true ↔
    ((d.identities.map (·.id)).Nodup ∧ (d.identities.map fun i => Text.toLowerFull i.name).Nodup) ∧
    ((d.serverProfiles.map (·.id)).Nodup ∧ (d.serverProfiles.map fun p => Text.toLowerFull p.name).Nodup) ∧
    ((d.projects.map (·.id)).Nodup ∧ (d.projects.map fun p => Text.toLowerFull p.name).Nodup) ∧
    ∀ e ∈ d.messages, (e.2.map (·.id)).Nodup := by
  simp only [uniqueness, Verdict.isValid_iff, List.append_eq_nil_iff, duplicateIssues_eq_nil,
    duplicates_eq_nil, List.flatMap_eq_nil_iff, List.map_eq_nil_iff, List.map_map, Function.comp_def, id]
  simp only [and_assoc]

theorem ceilings_isValid : (ceilings d).isValid = true ↔
    d.identities.length ≤ maxIdentities ∧ d.serverProfiles.length ≤ maxServerProfiles ∧
    d.projects.length ≤ maxProjects ∧ d.totalMessages ≤ maxTotalMessages ∧
    ∀ e ∈ d.messages, e.2.length ≤ maxMessagesPerProject := by
  simp [ceilings, List.filterMap_eq_nil_iff, ite_eq_right_iff, and_assoc]

theorem profilesResolve_isValid :
    (profilesResolve d).isValid = true ↔ ∀ p ∈ d.serverProfiles, ∃ i ∈ d.identities, i.id = p.sshIdentityId := by
  simp [profilesResolve, List.filterMap_eq_nil_iff]

theorem projectsResolve_isValid :
    (projectsResolve d).isValid = true ↔ ∀ p ∈ d.projects, ∃ s ∈ d.serverProfiles, s.id = p.serverProfileId := by
  simp [projectsResolve, List.filterMap_eq_nil_iff]

theorem keysResolve_isValid :
    (keysResolve d).isValid = true ↔ ∀ e ∈ d.messages, e.1 = systemKey ∨ ∃ p ∈ d.projects, p.id = e.1 := by
  simp [keysResolve, List.filterMap_eq_nil_iff, or_iff_not_imp_left]

theorem messagesUnderOwnKey_isValid :
    (messagesUnderOwnKey d).isValid = true ↔ ∀ e ∈ d.messages, e.1 ≠ systemKey → ∀ m ∈ e.2, m.projectId = e.1 := by
  simp only [messagesUnderOwnKey, Verdict.isValid_iff, List.flatMap_eq_nil_iff]
  refine forall₂_congr fun e _ => ?_
  by_cases hk : e.1 = systemKey
  · simp [hk]
  · simp [hk, List.filterMap_eq_nil_iff]

theorem messageOrder_isValid :
    (messageOrder d).isValid = true ↔ ∀ e ∈ d.messages, e.2.IsChain fun a b => a.timestamp ≤ b.timestamp := by
  simp [messageOrder, List.all_map, Function.comp_def, messageOrdering_isValid]

end DocumentRules

/-! ## The validator as a whole -/

namespace Document

variable {d : Document}

theorem validateRelationships_isValid_iff : d.validateRelationships.isValid = true ↔ d.Linked := by
  simp only [validateRelationships, relationshipValidator, Validator.isValid_validate, Validator.rules_rule,
    List.nil_append, List.cons_append, List.all_cons, List.all_nil, Bool.and_true, Bool.and_eq_true,
    DocumentRules.profilesResolve_isValid, DocumentRules.projectsResolve_isValid,
    DocumentRules.keysResolve_isValid, DocumentRules.messagesUnderOwnKey_isValid]
  exact ⟨fun ⟨hp, hq, hk, ho⟩ => ⟨hp, hq, hk, ho⟩, fun ⟨hp, hq, hk, ho⟩ => ⟨hp, hq, hk, ho⟩⟩

/-- The full validator runs the rule groups in order: version, entities, uniqueness,
ceilings, the relationship rules, message order. -/
theorem validate_isValid_eq : d.validate.isValid =
    ((DocumentRules.version d).isValid && (DocumentRules.entities d).isValid &&
      (DocumentRules.uniqueness d).isValid && (DocumentRules.ceilings d).isValid &&
      d.validateRelationships.isValid && (DocumentRules.messageOrder d).isValid) := by
  simp only [validate, documentValidator, validateRelationships, relationshipValidator,
    Validator.isValid_validate, Validator.rules_rule, Validator.rules_extend, List.nil_append,
    List.cons_append, List.all_cons, List.all_nil, Bool.and_true, Bool.and_assoc]

theorem validate_isValid_iff : d.validate.isValid = true ↔ d.WellFormed := by
  rw [validate_isValid_eq]
  simp only [Bool.and_eq_true, DocumentRules.version_isValid, DocumentRules.entities_isValid,
    DocumentRules.uniqueness_isValid, DocumentRules.ceilings_isValid, validateRelationships_isValid_iff,
    DocumentRules.messageOrder_isValid]
  constructor
  · rintro ⟨⟨⟨⟨⟨hv, hi, hs, hp, hm⟩, ⟨hii, hin⟩, ⟨hsi, hsn⟩, ⟨hpi, hpn⟩, hmi⟩,
      hic, hsc, hpc, htot, hmc⟩, hl⟩, ho⟩
    exact ⟨hv, ⟨hi, hii, hin, hic⟩, ⟨hs, hsi, hsn, hsc⟩, ⟨hp, hpi, hpn, hpc⟩,
      fun e he => ⟨hm e he, hmi e he, hmc e he, ho e he⟩, htot, hl⟩
  · intro h
    refine ⟨⟨⟨⟨⟨h.version, h.identities.valid, h.serverProfiles.valid, h.projects.valid,
      fun e he => (h.messages e he).valid⟩, ⟨h.identities.ids, h.identities.names⟩,
      ⟨h.serverProfiles.ids, h.serverProfiles.names⟩, ⟨h.projects.ids, h.projects.names⟩,
      fun e he => (h.messages e he).ids⟩, h.identities.size, h.serverProfiles.size, h.projects.size,
      h.total, fun e he => (h.messages e he).size⟩, h.linked⟩, fun e he => (h.messages e he).ordered⟩

/-- The relationship rules accept exactly the documents whose references resolve, the full
validator exactly the well-formed documents, and a refusal always names an issue. -/
theorem validate_accepts_exactly (d : Document) :
    (d.validateRelationships.isValid = true ↔ d.Linked) ∧ (d.validate.isValid = true ↔ d.WellFormed) ∧
      (d.validate.isValid = false ↔ d.validate.issues ≠ []) := by
  refine ⟨validateRelationships_isValid_iff, validate_isValid_iff, ?_⟩
  simp [Verdict.isValid]

end Document

end DocStore
