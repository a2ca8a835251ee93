import DocStore.Migration.Registry
import Mathlib.Data.Nat.Find
/-
  DocStore.Proofs.Registry.Chains — the version graph a registry holds.

  Registrations keep the migrations strictly ordered by (source, target)
  (`Built.ordered`). So a pair has one migration at most, and `get` finds every
  registered one under its own pair (`get_of_mem`); the migrations into a version come
  from distinct sources (`sourcesInto_nodup`); those leaving a version come by
  ascending target (`leaving_sorted`).

  A chain from `a` to `b` is a list of registered migrations, each starting where the
  one before it ended (`IsChain`); `Hops r v t k` says that the shortest chains from `v`
  to `t` have `k` migrations. Every version that reaches `t` has such a count
  (`Reaches.hops`), and it is unique (`Hops.unique`).
-/

namespace DocStore

namespace Registry

/-! ## The order of registered migrations -/

@[simp] theorem before_iff (m : Migration) (a b : Nat) :
    before m a b = true ↔ m.source < a ∨ (m.source = a ∧ m.target < b) := by
  simp [before]

/-- Migrations kept strictly ordered by (source, target). -/
def OrderedSteps (xs : List Migration) : Prop := xs.Pairwise fun x y => before x y.source y.target = true

/-- The registry's migrations are strictly ordered by (source, target). -/
def Ordered (r : Registry) : Prop := OrderedSteps r.steps

/-- The registries a program builds: from the empty one, by registrations that succeed
(a refused registration leaves the registry as it was). -/
inductive Built : Registry → Prop
  | empty : Built {}
  | register {r r' : Registry} {m : Migration} : Built r → r.register m = .ok r' → Built r'
  | replace {r r' : Registry} {m : Migration} {old : Option Migration} :
      Built r → r.registerReplacing m = .ok (r', old) → Built r'

theorem insert_cons (m y : Migration) (ys : List Migration) :
    (insert m (y :: ys)).1 =
      if before y m.source m.target then y :: (insert m ys).1
      else if y.source == m.source && y.target == m.target then m :: ys else m :: y :: ys := by
  simp only [insert]
  split
  · rfl
  · split <;> rfl

theorem mem_insert {m x : Migration} {xs : List Migration} (h : x ∈ (insert m xs).1) : x = m ∨ x ∈ xs := by
  induction xs with
  | nil => simpa [insert] using h
  | cons y ys ih =>
    rw [insert_cons] at h
    split at h
    · rcases List.mem_cons.mp h with rfl | h
      · exact .inr List.mem_cons_self
      · exact (ih h).imp_right (List.mem_cons_of_mem _)
    · split at h
      · exact (List.mem_cons.mp h).imp_right (List.mem_cons_of_mem _)
      · exact List.mem_cons.mp h

/-- Inserting keeps the order: `m` goes after every pair below its own and replaces a
migration of its pair. -/
theorem insert_ordered (m : Migration) {xs : List Migration} (h : OrderedSteps xs) :
    OrderedSteps (insert m xs).1 := by
  induction xs with
  | nil => simp [insert, OrderedSteps]
  | cons y ys ih =>
    obtain ⟨hy, hys⟩ := List.pairwise_cons.mp h
    rw [OrderedSteps, insert_cons]
    split
    · rename_i hym
      refine List.pairwise_cons.mpr ⟨fun z hz => ?_, ih hys⟩
      rcases mem_insert hz with rfl | hz
      · exact hym
      · exact hy z hz
    · rename_i hym
      split
      · rename_i hsame
        simp only [Bool.and_eq_true, beq_iff_eq] at hsame
        refine List.pairwise_cons.mpr ⟨fun z hz => ?_, hys⟩
        have := hy z hz
        simp only [before_iff] at this ⊢
        omega
      · rename_i hsame
        simp only [Bool.and_eq_true, beq_iff_eq, not_and] at hsame
        simp only [before_iff, not_or, not_and, Nat.not_lt] at hym
        have hmy : before m y.source y.target = true := by
          simp only [before_iff]
          by_cases e : y.source = m.source
          · exact .inr ⟨e.symm, by have := hym.2 e; have := hsame e; omega⟩
          · exact .inl (by omega)
        refine List.pairwise_cons.mpr ⟨fun z hz => ?_, h⟩
        rcases List.mem_cons.mp hz with rfl | hz
        · exact hmy
        · have := hy z hz
          simp only [before_iff] at this hmy ⊢
          omega

/-- The edge check refuses a migration exactly when it keeps the version. -/
theorem checkEdge_eq (m : Migration) :
    checkEdge m = if m.source = m.target then throw (.selfLoop m.name) else pure () := by
  simp only [checkEdge, beq_iff_eq]

theorem register_ok {r r' : Registry} {m : Migration} (h : r.register m = .ok r') :
    m.source ≠ m.target ∧ r.get m.source m.target = none ∧ r' = ⟨(insert m r.steps).1⟩ := by
  unfold register at h
  rw [checkEdge_eq] at h
  by_cases hl : m.source = m.target
  · simp [hl] at h
    cases h
  · by_cases hg : (r.get m.source m.target).isSome
    · simp [hl, hg] at h
      cases h
    · simp only [Option.not_isSome_iff_eq_none] at hg
      simp [hl, hg] at h
      injection h with h
      exact ⟨hl, hg, h.symm⟩

theorem registerReplacing_ok {r r' : Registry} {m : Migration} {old : Option Migration}
    (h : r.registerReplacing m = .ok (r', old)) :
    m.source ≠ m.target ∧ r' = ⟨(insert m r.steps).1⟩ ∧ old = (insert m r.steps).2 := by
  unfold registerReplacing at h
  rw [checkEdge_eq] at h
  by_cases hl : m.source = m.target
  · simp [hl] at h
    cases h
  · simp [hl] at h
    injection h with h
    simp only [Prod.mk.injEq] at h
    exact ⟨hl, h.1.symm, h.2.symm⟩

/-- Every registry a program builds keeps its migrations ordered. -/
theorem Built.ordered {r : Registry} (h : r.Built) : r.Ordered := by
  induction h with
  | empty => exact List.Pairwise.nil
  | register _ hr ih =>
    obtain ⟨-, -, rfl⟩ := register_ok hr
    exact insert_ordered _ ih
  | replace _ hr ih =>
    obtain ⟨-, rfl, -⟩ := registerReplacing_ok hr
    exact insert_ordered _ ih

/-! ## Lookups in an ordered registry -/

theorem mem_of_get {r : Registry} {a b : Nat} {m : Migration} (h : r.get a b = some m) :
    m ∈ r.steps ∧ m.source = a ∧ m.target = b := by
  have hp := List.find?_some h
  simp only [Bool.and_eq_true, beq_iff_eq] at hp
  exact ⟨List.mem_of_find?_eq_some h, hp⟩

/-- In an ordered registry each registered migration is the one `get` finds for its pair. -/
theorem get_of_mem {r : Registry} (ho : r.Ordered) {m : Migration} (hm : m ∈ r.steps) :
    r.get m.source m.target = some m := by
  obtain ⟨steps⟩ := r
  simp only [Ordered, OrderedSteps] at ho hm
  unfold get
  induction steps with
  | nil => cases hm
  | cons y ys ih =>
    obtain ⟨hy, hys⟩ := List.pairwise_cons.mp ho
    rw [List.find?_cons]
    rcases List.mem_cons.mp hm with rfl | hm
    · simp
    · have hlt := hy m hm
      simp only [before_iff] at hlt
      have hne : (y.source == m.source && y.target == m.target) = false := by
        simp only [Bool.and_eq_false_iff, beq_eq_false_iff_ne]
        omega
      rw [hne]
      exact ih hys hm

theorem mem_sourcesInto {r : Registry} {v s : Nat} :
    s ∈ r.sourcesInto v ↔ ∃ m ∈ r.steps, m.target = v ∧ m.source = s := by
  simp [sourcesInto, and_assoc]

/-- The migrations into a version come from distinct sources. -/
theorem sourcesInto_nodup {r : Registry} (ho : r.Ordered) (v : Nat) : (r.sourcesInto v).Nodup := by
  have hf : (r.steps.filter (·.target == v)).Pairwise fun x y => before x y.source y.target = true :=
    List.Pairwise.filter _ ho
  have hlt : ((r.steps.filter (·.target == v)).map (·.source)).Pairwise (· < ·) := by
    refine List.pairwise_map.mpr (hf.imp_of_mem fun {x y} hx hy hxy => ?_)
    simp only [List.mem_filter, beq_iff_eq] at hx hy
    simp only [before_iff] at hxy
    omega
  exact hlt.imp Nat.ne_of_lt

theorem mem_leaving {r : Registry} {v : Nat} {m : Migration} : m ∈ r.leaving v ↔ m ∈ r.steps ∧ m.source = v := by
  simp [leaving]

/-- The migrations leaving a version come by ascending target. -/
theorem leaving_sorted {r : Registry} (ho : r.Ordered) (v : Nat) :
    (r.leaving v).Pairwise fun x y => x.target < y.target := by
  refine (List.Pairwise.filter _ ho).imp_of_mem fun {x y} hx hy hxy => ?_
  simp only [leaving, List.mem_filter, beq_iff_eq] at hx hy
  simp only [before_iff] at hxy
  omega

/-! ## Chains and hop counts -/

/-- `c` is a chain of registered migrations leading from version `a` to version `b`. -/
def IsChain (r : Registry) : Nat → List Migration → Nat → Prop
  | a, [], b => a = b
  | a, m :: c, b => m ∈ r.steps ∧ m.source = a ∧ r.IsChain m.target c b

@[simp] theorem isChain_nil {r : Registry} {a b : Nat} : r.IsChain a [] b ↔ a = b := Iff.rfl

@[simp] theorem isChain_cons {r : Registry} {a b : Nat} {m : Migration} {c : List Migration} :
    r.IsChain a (m :: c) b ↔ m ∈ r.steps ∧ m.source = a ∧ r.IsChain m.target c b := Iff.rfl

theorem IsChain.mem {r : Registry} :
    ∀ {c : List Migration} {a b : Nat}, r.IsChain a c b → ∀ {m : Migration}, m ∈ c → m ∈ r.steps
  | [], _, _, _, _, hm => by cases hm
  | _ :: _, _, _, hc, _, hm => by
    rcases List.mem_cons.mp hm with rfl | hm
    · exact hc.1
    · exact IsChain.mem hc.2.2 hm

/-- Version `b` can be reached from version `a` along registered migrations. -/
def Reaches (r : Registry) (a b : Nat) : Prop := ∃ c, r.IsChain a c b

/-- The shortest chains from `v` to `t` have `k` migrations. -/
def Hops (r : Registry) (v t k : Nat) : Prop :=
  (∃ c, r.IsChain v c t ∧ c.length = k) ∧ ∀ c, r.IsChain v c t → k ≤ c.length

theorem Hops.unique {r : Registry} {v t k k' : Nat} (h : r.Hops v t k) (h' : r.Hops v t k') : k = k' := by
  obtain ⟨⟨c, hc, rfl⟩, hmin⟩ := h
  obtain ⟨⟨c', hc', rfl⟩, hmin'⟩ := h'
  exact Nat.le_antisymm (hmin c' hc') (hmin' c hc)

theorem Hops.reaches {r : Registry} {v t k : Nat} (h : r.Hops v t k) : r.Reaches v t :=
  let ⟨⟨c, hc, _⟩, _⟩ := h
  ⟨c, hc⟩

/-- A version that reaches `t` has a shortest count of hops to it. -/
theorem Reaches.hops {r : Registry} {v t : Nat} (h : r.Reaches v t) : ∃ k, r.Hops v t k := by
  classical
  have hex : ∃ k, ∃ c, r.IsChain v c t ∧ c.length = k := let ⟨c, hc⟩ := h; ⟨c.length, c, hc, rfl⟩
  exact ⟨Nat.find hex, Nat.find_spec hex, fun c hc => Nat.find_min' hex ⟨c, hc, rfl⟩⟩

theorem hops_zero_iff {r : Registry} {v t : Nat} : r.Hops v t 0 ↔ v = t := by
  constructor
  · rintro ⟨⟨c, hc, hlen⟩, -⟩
    rw [List.length_eq_zero_iff] at hlen
    subst hlen
    exact hc
  · rintro rfl
    exact ⟨⟨[], rfl, rfl⟩, fun _ _ => Nat.zero_le _⟩

/-- The first migration of a shortest chain leads one hop closer. -/
theorem Hops.next {r : Registry} {v t k : Nat} (h : r.Hops v t (k + 1)) {m : Migration} (hm : m ∈ r.steps)
    (hs : m.source = v) {c : List Migration} (hc : r.IsChain m.target c t) (hlen : c.length = k) :
    r.Hops m.target t k := by
  refine ⟨⟨c, hc, hlen⟩, fun c' hc' => ?_⟩
  have := h.2 (m :: c') ⟨hm, hs, hc'⟩
  simp only [List.length_cons] at this
  omega

end Registry

end DocStore
