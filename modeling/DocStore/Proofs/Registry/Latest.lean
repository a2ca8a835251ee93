import DocStore.Proofs.Registry.Path
import Mathlib.Order.Bounds.Defs
/-
  DocStore.Proofs.Registry.Latest — the forward search and the backward one agree.

  `latestFrom s` runs a breadth-first search forwards from `s` with a list of versions
  seen, then takes the greatest of them. Between two queue steps the seen list is
  `done ++ pending`: `done` holds the versions already expanded, `pending` the queue.
  `ReachInv` is what one step keeps (`ReachInv.step`): the seen versions are distinct and
  reachable from `s`, and every migration out of an expanded version ends at a seen one.

  Proved:
  - `searchOn_finishes`: the fuel lasts until the queue is empty, since each version is
    seen once and every seen version but `s` is the target of a migration.
  - `mem_searchOn_iff`: the finished search has seen exactly the versions `s` reaches.
  - `latestFrom_isGreatest`: `latestFrom s` is the greatest version reachable from `s`,
    and so the greatest `v` with `hasPath s v`, the one the backward search answers for
    (`latestFrom_hasPath_greatest`); from the first version there is a path to it.
-/

namespace DocStore

namespace Registry

/-! ## Chains, extended and ended -/

/-- A chain extends by a migration out of its last version. -/
theorem IsChain.snoc {r : Registry} {m : Migration} (hm : m ∈ r.steps) :
    ∀ {c : List Migration} {a b : Nat}, r.IsChain a c b → m.source = b → r.IsChain a (c ++ [m]) m.target
  | [], _, _, hc, hs => ⟨hm, hs.trans hc.symm, rfl⟩
  | _ :: _, _, _, hc, hs => ⟨hc.1, hc.2.1, IsChain.snoc hm hc.2.2 hs⟩

theorem Reaches.refl (r : Registry) (a : Nat) : r.Reaches a a := ⟨[], rfl⟩

theorem Reaches.step {r : Registry} {a b : Nat} {m : Migration} (h : r.Reaches a b) (hm : m ∈ r.steps)
    (hs : m.source = b) : r.Reaches a m.target :=
  let ⟨c, hc⟩ := h
  ⟨c ++ [m], hc.snoc hm hs⟩

/-- A chain ends where it starts, or at the target of a registered migration. -/
theorem IsChain.last_mem {r : Registry} :
    ∀ {c : List Migration} {a b : Nat}, r.IsChain a c b → a = b ∨ b ∈ r.steps.map (·.target)
  | [], _, _, hc => .inl hc
  | m :: c, _, _, hc => by
    rcases IsChain.last_mem hc.2.2 with he | hb
    · exact .inr (List.mem_map.mpr ⟨m, hc.1, he⟩)
    · exact .inr hb

/-! ## One step of the forward search -/

/-- The targets of migrations out of `v` not seen yet. -/
def unseen (r : Registry) (seen : List Nat) (v : Nat) : List Nat :=
  ((r.leaving v).map (·.target)).filter fun t => !seen.contains t

theorem searchOn_succ (r : Registry) (n v : Nat) (queue seen : List Nat) :
    r.searchOn (n + 1) (v :: queue) seen = r.searchOn n (queue ++ r.unseen seen v) (seen ++ r.unseen seen v) :=
  rfl

theorem mem_unseen {r : Registry} {seen : List Nat} {v t : Nat} :
    t ∈ r.unseen seen v ↔ (∃ m ∈ r.steps, m.source = v ∧ m.target = t) ∧ t ∉ seen := by
  simp [unseen, mem_leaving, and_assoc]

/-- The migrations out of a version end at distinct targets. -/
theorem unseen_nodup {r : Registry} (ho : r.Ordered) (seen : List Nat) (v : Nat) : (r.unseen seen v).Nodup :=
  ((List.pairwise_map.mpr (leaving_sorted ho v)).imp Nat.ne_of_lt).filter _

/-- What the forward search from `s` keeps between two queue steps. -/
structure ReachInv (r : Registry) (s : Nat) (done pending : List Nat) : Prop where
  nodup : (done ++ pending).Nodup
  start : s ∈ done ++ pending
  reached : ∀ v ∈ done ++ pending, r.Reaches s v
  /-- Every migration out of an expanded version ends at a seen one. -/
  closed : ∀ u ∈ done, ∀ m ∈ r.steps, m.source = u → m.target ∈ done ++ pending

theorem reachInv_start (r : Registry) (s : Nat) : ReachInv r s [] [s] where
  nodup := by simp
  start := by simp
  reached := by
    intro v hv
    simp only [List.nil_append, List.mem_singleton] at hv
    exact hv ▸ Reaches.refl r s
  closed := by simp

/-- Expanding the head `v` of the queue: the targets of its migrations not seen yet are
seen and queued. -/
theorem ReachInv.step {r : Registry} (ho : r.Ordered) {s v : Nat} {done rest : List Nat}
    (hi : ReachInv r s done (v :: rest)) :
    ReachInv r s (done ++ [v]) (rest ++ r.unseen (done ++ v :: rest) v) := by
  set seen := done ++ v :: rest
  have hsplit : done ++ [v] ++ (rest ++ r.unseen seen v) = seen ++ r.unseen seen v := by simp [seen]
  have hv : v ∈ seen := by simp [seen]
  constructor
  · rw [hsplit, List.nodup_append]
    exact ⟨hi.nodup, unseen_nodup ho seen v, fun a ha b hb e => (mem_unseen.mp hb).2 (e ▸ ha)⟩
  · exact hsplit ▸ List.mem_append_left _ hi.start
  · intro t ht
    rw [hsplit] at ht
    rcases List.mem_append.mp ht with ht | ht
    · exact hi.reached t ht
    · obtain ⟨⟨m, hm, hms, rfl⟩, -⟩ := mem_unseen.mp ht
      exact (hi.reached v hv).step hm hms
  · intro u hu m hm hmu
    rw [hsplit]
    rcases List.mem_append.mp hu with hu | hu
    · exact List.mem_append_left _ (hi.closed u hu m hm hmu)
    · -- `u` is the version just expanded: its targets were seen before or are new
      simp only [List.mem_singleton] at hu
      subst hu
      by_cases hs : m.target ∈ seen
      · exact List.mem_append_left _ hs
      · exact List.mem_append_right _ (mem_unseen.mpr ⟨⟨m, hm, hmu, rfl⟩, hs⟩)

/-! ## The search runs until the queue is empty -/

/-- Every seen version is `s` or the target of a migration, and is seen once. -/
theorem ReachInv.length_le {r : Registry} {s : Nat} {done pending : List Nat} (hi : ReachInv r s done pending) :
    (done ++ pending).length ≤ r.steps.length + 1 := by
  have hsub : done ++ pending ⊆ s :: r.steps.map (·.target) := by
    intro v hv
    obtain ⟨c, hc⟩ := hi.reached v hv
    rcases hc.last_mem with rfl | hv'
    · exact List.mem_cons_self
    · exact List.mem_cons_of_mem _ hv'
  simpa using (List.Nodup.subperm hi.nodup hsub).length_le

theorem searchOn_finishes {r : Registry} (ho : r.Ordered) {s : Nat} :
    ∀ (n : Nat) (done pending : List Nat), ReachInv r s done pending →
      r.steps.length + 2 ≤ done.length + n →
      ∃ result, ReachInv r s result [] ∧ r.searchOn n pending (done ++ pending) = result := by
  intro n
  induction n with
  | zero =>
    intro done pending hi hn
    cases pending with
    | nil => exact ⟨done, by simpa using hi, by simp [searchOn]⟩
    | cons v pending =>
      have := hi.length_le
      simp only [List.length_append, List.length_cons] at this
      omega
  | succ n ih =>
    intro done pending hi hn
    cases pending with
    | nil => exact ⟨done, by simpa using hi, by simp [searchOn]⟩
    | cons v rest =>
      have hn' : r.steps.length + 2 ≤ (done ++ [v]).length + n := by
        simp only [List.length_append, List.length_cons, List.length_nil]
        omega
      obtain ⟨result, hres, hrun⟩ := ih _ _ (hi.step ho) hn'
      refine ⟨result, hres, ?_⟩
      rw [searchOn_succ, ← hrun]
      simp

/-- A finished search has seen every version reachable from a seen one. -/
theorem ReachInv.mem_of_isChain {r : Registry} {s : Nat} {seen : List Nat} (hi : ReachInv r s seen []) :
    ∀ (c : List Migration) {a b : Nat}, a ∈ seen → r.IsChain a c b → b ∈ seen
  | [], _, _, ha, hc => hc ▸ ha
  | m :: c, _, _, ha, hc => by
    obtain ⟨hm, hms, hc⟩ := hc
    have hmt : m.target ∈ seen := by simpa using hi.closed _ ha m hm hms
    exact hi.mem_of_isChain c hmt hc

theorem searchOn_finished {r : Registry} (ho : r.Ordered) (s : Nat) :
    ∃ seen, ReachInv r s seen [] ∧ r.searchOn r.fuel [s] [s] = seen := by
  simpa using searchOn_finishes ho r.fuel [] [s] (reachInv_start r s) (by simp [fuel]; omega)

/-- The forward search from `s` sees exactly the versions `s` reaches. -/
theorem mem_searchOn_iff {r : Registry} (ho : r.Ordered) (s v : Nat) :
    v ∈ r.searchOn r.fuel [s] [s] ↔ r.Reaches s v := by
  obtain ⟨seen, hi, hrun⟩ := searchOn_finished ho s
  rw [hrun]
  refine ⟨fun hv => hi.reached v (by simpa using hv), fun ⟨c, hc⟩ => hi.mem_of_isChain c ?_ hc⟩
  simpa using hi.start

/-! ## The latest version -/

/-- The latest version from `s` is the greatest version `s` reaches. -/
theorem latestFrom_isGreatest {r : Registry} (ho : r.Ordered) (s : Nat) :
    IsGreatest {v | r.Reaches s v} (r.latestFrom s) := by
  -- the fold is the greatest element of `s` and the versions seen
  have hmax : (s :: r.searchOn r.fuel [s] [s]).max? = some (r.latestFrom s) := rfl
  obtain ⟨hmem, hle⟩ := List.max?_eq_some_iff.mp hmax
  have hseen : ∀ v, v ∈ s :: r.searchOn r.fuel [s] [s] ↔ r.Reaches s v := by
    intro v
    rw [List.mem_cons, mem_searchOn_iff ho]
    exact ⟨fun h => h.elim (fun e => e ▸ Reaches.refl r s) id, .inr⟩
  exact ⟨(hseen _).mp hmem, fun v hv => hle v ((hseen v).mpr hv)⟩

/-- The forward search and the backward one agree on every registry that registrations
build, cycles included: the latest version from `s` is the greatest `v` with a path from
`s`. From the first version the latest is never lower, and a path leads to it whenever
it is another version. -/
theorem latestFrom_hasPath_greatest (r : Registry) (hr : r.Built) (s : Nat) :
    IsGreatest {v | r.hasPath s v = true} (r.latestFrom s) ∧ initialVersion ≤ r.latest ∧
      (r.latest ≠ initialVersion → r.findPath initialVersion r.latest ≠ []) := by
  have ho := hr.ordered
  -- a path exists exactly where the forward search reaches
  have hpath : ∀ a v, r.hasPath a v = true ↔ r.Reaches a v := by
    intro a v
    rw [hasPath_iff ho]
    exact ⟨fun h => h.elim (fun e => e ▸ Reaches.refl r a) id, .inr⟩
  have hg : ∀ a, IsGreatest {v | r.hasPath a v = true} (r.latestFrom a) := by
    intro a
    simpa only [hpath] using latestFrom_isGreatest ho a
  refine ⟨hg s, (hg initialVersion).2 ((hpath _ _).mpr (Reaches.refl r _)), fun hne => ?_⟩
  rw [Ne, findPath_eq_nil_iff ho, not_or]
  exact ⟨fun e => hne e.symm, not_not.mpr ((hpath _ _).mp (hg initialVersion).1)⟩

/-- Registered as `1 → 2`, `2 → 1` and `2 → 3`: a cycle, and a way out of it. -/
def cycleOut : Registry := ⟨[bump "m1_2" 1 2, bump "m2_1" 2 1, bump "m2_3" 2 3]⟩

theorem cycleOut_built : cycleOut.Built :=
  have h1 : ({} : Registry).register (bump "m1_2" 1 2) = .ok ⟨[bump "m1_2" 1 2]⟩ := rfl
  have h2 : (⟨[bump "m1_2" 1 2]⟩ : Registry).register (bump "m2_1" 2 1) =
      .ok ⟨[bump "m1_2" 1 2, bump "m2_1" 2 1]⟩ := rfl
  have h3 : (⟨[bump "m1_2" 1 2, bump "m2_1" 2 1]⟩ : Registry).register (bump "m2_3" 2 3) = .ok cycleOut := rfl
  .register (.register (.register .empty h1) h2) h3

/-- Around the cycle the latest version is 3, the greatest with a path, reached in two
steps. -/
theorem cycleOut_latest :
    cycleOut.Built ∧ cycleOut.latest = 3 ∧ cycleOut.findPath initialVersion 3 ≠ [] ∧
      ∀ v, cycleOut.hasPath 2 v = true → v ≤ cycleOut.latestFrom 2 := by
  have h1 : ({} : Registry).register (bump "m1_2" 1 2) = .ok ⟨[bump "m1_2" 1 2]⟩ := rfl
  have h2 : (⟨[bump "m1_2" 1 2]⟩ : Registry).register (bump "m2_1" 2 1) =
      .ok ⟨[bump "m1_2" 1 2, bump "m2_1" 2 1]⟩ := rfl
  have h3 : (⟨[bump "m1_2" 1 2, bump "m2_1" 2 1]⟩ : Registry).register (bump "m2_3" 2 3) = .ok cycleOut := rfl
  have hb : cycleOut.Built := .register (.register (.register .empty h1) h2) h3
  have hspec := latestFrom_hasPath_greatest cycleOut hb 2
  have hlatest : cycleOut.latest = 3 := by decide
  exact ⟨hb, hlatest, hlatest ▸ hspec.2.2 (by rw [hlatest]; decide), hspec.1.2⟩

/-- Backwards from 3 around the cycle: 2 is one hop away and 1 two, though the cycle
gives chains of every odd length from 2. -/
theorem cycleOut_counts_hops :
    cycleOut.Built ∧ (cycleOut.distancesTo 3).lookup 1 = some 2 ∧ cycleOut.Hops 1 3 2 ∧
      cycleOut.Hops 2 3 1 := by
  have hspec := distancesTo_exact cycleOut cycleOut_built 3
  have h1 : (cycleOut.distancesTo 3).lookup 1 = some 2 := by decide
  have h2 : (cycleOut.distancesTo 3).lookup 2 = some 1 := by decide
  exact ⟨cycleOut_built, h1, (hspec.2.2.1 1 2).mp h1, (hspec.2.2.1 2 1).mp h2⟩

end Registry

end DocStore
