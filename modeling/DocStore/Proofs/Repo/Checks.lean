import DocStore.Proofs.Repo.Edits
import DocStore.Repo.Identity
import DocStore.Repo.Profile
import DocStore.Repo.Project
/-
  DocStore.Proofs.Repo.Checks — what the repositories' own checks accept, and why that is
  enough for a roster of entities.

  A repository check runs `first[fields, all[constraints]]` under a timeout; its rules take
  no time, so it never times out, and it accepts exactly when the fields and every
  constraint do (`pipeline_isValid`). The uniqueness check looks at the candidate only:
  no entity with another id has its name (lower-cased), and its id is there at most once.
  That is enough because the roster it is checked against was a roster before the change:
  (1) `Roster.push`: adding an entity that passes keeps a roster;
  (2) `Roster.replace`: putting an entity in the place of the one with its id keeps it;
  (3) `Roster.sublist`: dropping entities keeps it.
-/

namespace DocStore

/-! ## Checks that take no time -/

section Timed

variable {σ α β : Type}

/-- Rules that take no time, all started at once, finish at once with their verdicts
combined. -/
theorem runAll_lifts (x : α) (s : Nat) (dl : Option Nat) (hdl : pastDeadline dl s = false) (rt : Runtime σ)
    (l : List β) (name : β → String) (rule : β → Rule α) :
    ∃ v, Timed.runAll x s dl rt (l.map fun q => .lift (name q) (rule q)) = (.done v s, rt) ∧
      v.isValid = l.all fun q => (rule q x).isValid := by
  induction l with
  | nil => exact ⟨.pass, by simp [Timed.runAll], rfl⟩
  | cons q l ih =>
    obtain ⟨v, hv, hvalid⟩ := ih
    refine ⟨(rule q x).and v, ?_, by simp [hvalid]⟩
    simp [Timed.runAll, Timed.run, hdl, hv]

namespace Repo

/-- A repository check accepts exactly when the fields and every constraint do. -/
theorem pipeline_isValid (label : String) (fields : Rule (Proposed ε)) (constraints : List (Rule (Proposed ε)))
    (limit : Nat) (p : Proposed ε) (rt : Runtime Unit) :
    ((pipeline label fields constraints limit).check p 0 rt).1.isValid =
      ((fields p).isValid && constraints.all fun c => (c p).isValid) := by
  obtain ⟨v, hv, hvalid⟩ := runAll_lifts p 0 (some limit) (by simp [pastDeadline]) rt constraints.zipIdx
    (fun q => label ++ ".constraint" ++ toString q.2) (fun q => q.1)
  have hall : (constraints.zipIdx.all fun q => (q.1 p).isValid) = constraints.all fun c => (c p).isValid := by
    conv => rhs; rw [← List.zipIdx_map_fst 0 constraints]
    rw [List.all_map]
    rfl
  simp only [pipeline, Timed.check, Timed.run, pastDeadline, Timed.runFirst, Nat.zero_add, decide_false,
    Bool.false_eq_true, if_false, Nat.not_lt_zero]
  cases hf : (fields p).isValid
  · simp [hf]
  · simp only [if_true, hv, Bool.true_and, ← hall, ← hvalid]
    cases hvv : v.isValid <;> simp [hvv]

end Repo

end Timed

/-! ## The uniqueness and capacity checks -/

namespace Repo

variable {ε : Type} {check : ε → Verdict} {id name : ε → String} {max : Nat} {xs ys : List ε} {x old : ε}

theorem unique_isValid (c : String) (items : List ε) (cand : ε) :
    (unique c id name items cand).isValid = true ↔
      (∀ i ∈ items, id i ≠ id cand → Text.toLowerFull (name i) ≠ Text.toLowerFull (name cand)) ∧
        (items.filter fun i => id i == id cand).length ≤ 1 := by
  simp only [unique, Verdict.isValid_and, Verdict.isValid_check, Bool.and_eq_true, Bool.not_eq_true',
    List.any_eq_false, Bool.and_eq_true, bne_iff_ne, beq_iff_eq, decide_eq_true_eq, not_and]

theorem capacity_isValid (c : String) (n max : Nat) : (capacity c n max).isValid = true ↔ n ≤ max := by
  simp [capacity]

/-- The candidate's id is there at most once in a list it belongs to: no other entity has it. -/
theorem id_ne_of_unique {c : String} (hu : (unique c id name (xs ++ [x]) x).isValid = true) :
    ∀ y ∈ xs, id y ≠ id x := by
  have hcount := ((unique_isValid c _ x).1 hu).2
  rw [List.filter_append, List.length_append] at hcount
  have hself : ([x].filter fun i => id i == id x).length = 1 := by simp
  have hnone : (xs.filter fun i => id i == id x).length = 0 := by omega
  intro y hy hyx
  have : y ∈ xs.filter fun i => id i == id x := List.mem_filter.2 ⟨hy, by simpa using hyx⟩
  rw [List.length_eq_zero_iff.1 hnone] at this
  simp at this

end Repo

/-! ## Rosters under the repositories' changes -/

namespace Roster

variable {ε : Type} {check : ε → Verdict} {id name : ε → String} {max : Nat} {xs ys : List ε} {x old : ε}

theorem sublist (h : Roster check id name max xs) (hs : List.Sublist ys xs) : Roster check id name max ys :=
  ⟨fun y hy => h.valid y (hs.subset hy), h.ids.sublist (hs.map _), h.names.sublist (hs.map _),
    le_trans hs.length_le h.size⟩

/-- Adding an entity that passes its validator and the uniqueness check, within the limit,
keeps a roster. -/
theorem push (h : Roster check id name max xs) (c : String) (hx : (check x).isValid = true)
    (hu : (Repo.unique c id name (xs ++ [x]) x).isValid = true) (hc : (xs ++ [x]).length ≤ max) :
    Roster check id name max (xs ++ [x]) := by
  have hid := Repo.id_ne_of_unique hu
  have hname := ((Repo.unique_isValid c _ x).1 hu).1
  refine ⟨fun y hy => ?_, ?_, ?_, hc⟩
  · rcases List.mem_append.1 hy with hy | hy
    · exact h.valid y hy
    · simp only [List.mem_singleton] at hy
      exact hy ▸ hx
  · rw [List.map_append, List.nodup_append]
    refine ⟨h.ids, by simp, fun a ha b hb => ?_⟩
    obtain ⟨y, hy, rfl⟩ := List.mem_map.1 ha
    simp only [List.map_cons, List.map_nil, List.mem_singleton] at hb
    exact hb ▸ hid y hy
  · rw [List.map_append, List.nodup_append]
    refine ⟨h.names, by simp, fun a ha b hb => ?_⟩
    obtain ⟨y, hy, rfl⟩ := List.mem_map.1 ha
    simp only [List.map_cons, List.map_nil, List.mem_singleton] at hb
    exact hb ▸ hname y (List.mem_append_left _ hy) (hid y hy)

/-- Putting an entity that passes in the place of the one with its id keeps a roster: ids do
not change, and no other entity has the new name. -/
theorem replace (h : Roster check id name max xs) (c : String) (hr : Repo.replaceFirst id x xs = some (old, ys))
    (hx : (check x).isValid = true) (hu : (Repo.unique c id name ys x).isValid = true) :
    Roster check id name max ys := by
  obtain ⟨pre, post, rfl, rfl, hko, -⟩ := Repo.replaceFirst_eq_some hr
  have hname := ((Repo.unique_isValid c _ x).1 hu).1
  -- the others keep ids other than the replaced one's
  have hids := h.ids
  simp only [List.map_append, List.map_cons, List.nodup_middle, List.nodup_cons, List.mem_append,
    List.mem_map, not_or, not_exists, not_and] at hids
  refine ⟨fun y hy => ?_, ?_, ?_, by simpa using h.size⟩
  · rcases List.mem_append.1 hy with hy | hy
    · exact h.valid y (List.mem_append_left _ hy)
    · rcases List.mem_cons.1 hy with rfl | hy
      · exact hx
      · exact h.valid y (List.mem_append_right _ (List.mem_cons_of_mem _ hy))
  · simpa [hko] using h.ids
  · have hnames := h.names
    simp only [List.map_append, List.map_cons, List.nodup_middle, List.nodup_cons] at hnames ⊢
    refine ⟨fun hin => ?_, hnames.2⟩
    rw [← List.map_append, List.mem_map] at hin
    obtain ⟨y, hy, hyname⟩ := hin
    have hyid : id y ≠ id x := by
      rcases List.mem_append.1 hy with hy | hy
      · exact hko ▸ fun he => hids.1.1 y hy he
      · exact hko ▸ fun he => hids.1.2 y hy he
    refine hname y ?_ hyid hyname
    rcases List.mem_append.1 hy with hy | hy
    · exact List.mem_append_left _ hy
    · exact List.mem_append_right _ (List.mem_cons_of_mem _ hy)

end Roster

end DocStore
