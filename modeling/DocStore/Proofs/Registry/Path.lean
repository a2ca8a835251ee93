import DocStore.Proofs.Registry.Search
import Mathlib.Data.List.Lex
/-
  DocStore.Proofs.Registry.Path — the migration path between two versions.

  `findPath a b` walks forwards from `a`, always to the smallest target one hop closer
  to `b` by the backward search's counts. Since those counts are exact
  (`lookup_distancesTo`), the walk never gets stuck where a count exists
  (`walk_spec`), and what it finds is a shortest chain from `a` to `b`, the least by
  its versions among the shortest ones (smallest next version at every step).

  Proved, for every registry that registrations build, cycles included
  (`findPath_shortest_least`): `hasPath` holds exactly when `b` is `a` or reachable
  from it; `findPath` is empty exactly when it is neither; otherwise it is a chain
  from `a` to `b` of registered migrations, each the one `get` finds for its pair, of
  the fewest migrations, least by versions among those. When each migration leaves
  what it produces at its target version, as `Migration.step` does, applying the path
  in order to a document at `a` finds every document at the source version of the
  migration that takes it, and ends at `b`.
-/

namespace DocStore

namespace Migration

/-- The migration's results are at its target version, as for every `Migration.step`. -/
def Stamps (m : Migration) : Prop := ∀ d d', (m.apply d).result = .ok d' → d'.version = m.target

theorem step_stamps (name : String) (source target : Nat) (transform : Document → StepRun) :
    (Migration.step name source target transform).Stamps := by
  intro d d' h
  simp only [Migration.step] at h
  cases hr : (transform d).result with
  | error e => simp [hr, Except.map] at h
  | ok d₁ =>
    simp only [hr, Except.map, Except.ok.injEq] at h
    rw [← h]
    rfl

@[simp] theorem stamps_describe (m : Migration) (text : String) : (m.describe text).Stamps ↔ m.Stamps := Iff.rfl

@[simp] theorem stamps_markReversible (m : Migration) (b : Bool) : (m.markReversible b).Stamps ↔ m.Stamps := Iff.rfl

@[simp] theorem stamps_withPrecondition (m : Migration) (p : Document → Bool) :
    (m.withPrecondition p).Stamps ↔ m.Stamps := Iff.rfl

@[simp] theorem stamps_withEstimate (m : Migration) (e : Document → Nat) : (m.withEstimate e).Stamps ↔ m.Stamps :=
  Iff.rfl

/-- Apply migrations in order, each only to a document at its own source version (the
version check of `canApply`): `none` when a migration meets another version, else the
first failure or the last document. -/
def applyGated : List Migration → Document → Option (Except StepFailure Document)
  | [], d => some (.ok d)
  | m :: ms, d =>
    if d.version = m.source then
      match (m.apply d).result with
      | .ok d' => applyGated ms d'
      | .error e => some (.error e)
    else none

end Migration

namespace Registry

open Migration

/-! ## The forward walk -/

/-- `find?` in a list sorted by target gives the smallest target that passes. -/
theorem find?_target_le {l : List Migration} (hs : l.Pairwise fun x y => x.target < y.target)
    {P : Migration → Bool} {x y : Migration} (hx : l.find? P = some x) (hy : y ∈ l) (hPy : P y = true) :
    x.target ≤ y.target := by
  induction l with
  | nil => cases hy
  | cons z l ih =>
    obtain ⟨hz, hl⟩ := List.pairwise_cons.mp hs
    rw [List.find?_cons] at hx
    by_cases hPz : P z = true
    · rw [hPz] at hx
      cases hx
      rcases List.mem_cons.mp hy with rfl | hy
      · exact Nat.le_refl _
      · exact Nat.le_of_lt (hz y hy)
    · rw [Bool.not_eq_true] at hPz
      rw [hPz] at hx
      rcases List.mem_cons.mp hy with rfl | hy
      · rw [hPz] at hPy; cases hPy
      · exact ih hl hx hy

theorem eq_of_same_pair {r : Registry} (ho : r.Ordered) {m m' : Migration} (hm : m ∈ r.steps) (hm' : m' ∈ r.steps)
    (hs : m.source = m'.source) (ht : m.target = m'.target) : m = m' := by
  have h := get_of_mem ho hm
  rw [hs, ht, get_of_mem ho hm'] at h
  exact (Option.some.inj h).symm

/-- From a version `k` hops from `t`, the walk of `k` hops finds a shortest chain to
    `t`, and no other shortest chain has smaller versions. -/
theorem walk_spec {r : Registry} (ho : r.Ordered) {t : Nat} :
    ∀ (k v : Nat), r.Hops v t k → ∃ p, r.walk (r.distancesTo t) k v = some p ∧ r.IsChain v p t ∧ p.length = k ∧
      ∀ c, r.IsChain v c t → c.length = k → p.map (·.target) ≤ c.map (·.target) := by
  intro k
  induction k with
  | zero =>
    intro v hv
    refine ⟨[], rfl, hops_zero_iff.mp hv, rfl, fun c _ hc => ?_⟩
    rw [List.length_eq_zero_iff.mp hc]
  | succ k ih =>
    intro v hv
    -- a migration one hop closer exists: the first one of any shortest chain
    have closer : ∀ m ∈ r.leaving v, (∃ c, r.IsChain m.target c t ∧ c.length = k) →
        ((r.distancesTo t).lookup m.target == some k) = true := by
      intro m hm ⟨c, hc, hlen⟩
      have hmv := mem_leaving.mp hm
      simpa using (lookup_distancesTo ho t m.target k).mpr (hv.next hmv.1 hmv.2 hc hlen)
    obtain ⟨⟨c₀, hc₀, hlen₀⟩, -⟩ := hv
    obtain ⟨m₀, c₀', rfl⟩ : ∃ m₀ c₀', c₀ = m₀ :: c₀' := List.exists_cons_of_length_eq_add_one hlen₀
    obtain ⟨hm₀, hs₀, hc₀'⟩ := hc₀
    have hfound := closer m₀ (mem_leaving.mpr ⟨hm₀, hs₀⟩) ⟨c₀', hc₀', by simpa using hlen₀⟩
    have hsome : ((r.leaving v).find? fun m => (r.distancesTo t).lookup m.target == some k).isSome :=
      List.find?_isSome.mpr ⟨m₀, mem_leaving.mpr ⟨hm₀, hs₀⟩, hfound⟩
    obtain ⟨m, hfind⟩ := Option.isSome_iff_exists.mp hsome
    have hmv := mem_leaving.mp (List.mem_of_find?_eq_some hfind)
    have hmk : r.Hops m.target t k := by
      have := List.find?_some hfind
      simpa using (lookup_distancesTo ho t m.target k).mp (by simpa using this)
    obtain ⟨p, hwalk, hp, hlen, hleast⟩ := ih m.target hmk
    refine ⟨m :: p, ?_, ⟨hmv.1, hmv.2, hp⟩, by simp [hlen], fun c hc hlenc => ?_⟩
    · simp only [walk, hfind, hwalk, Option.map_some]
    · obtain ⟨m', c', rfl⟩ : ∃ m' c', c = m' :: c' := List.exists_cons_of_length_eq_add_one hlenc
      obtain ⟨hm', hs', hc'⟩ := hc
      have hlen' : c'.length = k := by simpa using hlenc
      -- the walk took the smallest target one hop closer, so `m` comes no later than `m'`
      have hle := find?_target_le (leaving_sorted ho v) hfind (mem_leaving.mpr ⟨hm', hs'⟩)
        (closer m' (mem_leaving.mpr ⟨hm', hs'⟩) ⟨c', hc', hlen'⟩)
      simp only [List.map_cons]
      rcases Nat.lt_or_eq_of_le hle with hlt | heq
      · exact (show m.target :: p.map (·.target) < m'.target :: c'.map (·.target) from List.Lex.rel hlt).le
      · have := eq_of_same_pair ho hmv.1 hm' (hmv.2.trans hs'.symm) heq
        subst this
        exact List.cons_le_cons _ (hleast c' hc' hlen')

/-! ## The path -/

theorem findPath_self (r : Registry) (a : Nat) : r.findPath a a = [] := by
  simp [findPath]

/-- Between two versions `a ≠ b` where `b` is reachable, the path is what the walk finds
    from `a`, with the hop count of `a`. -/
theorem findPath_of_reaches {r : Registry} (ho : r.Ordered) {a b : Nat} (hab : a ≠ b) (h : r.Reaches a b) :
    ∃ p, r.findPath a b = p ∧ r.IsChain a p b ∧ r.Hops a b p.length ∧
      ∀ c, r.IsChain a c b → c.length = p.length → p.map (·.target) ≤ c.map (·.target) := by
  obtain ⟨k, hk⟩ := h.hops
  obtain ⟨p, hwalk, hp, hlen, hleast⟩ := walk_spec ho k a hk
  refine ⟨p, ?_, hp, hlen ▸ hk, hlen ▸ hleast⟩
  simp [findPath, hab, (lookup_distancesTo ho b a k).mpr hk, hwalk]

theorem findPath_of_not_reaches {r : Registry} (ho : r.Ordered) {a b : Nat} (h : ¬ r.Reaches a b) :
    r.findPath a b = [] := by
  have hnone : (r.distancesTo b).lookup a = none := by
    rw [← Option.not_isSome_iff_eq_none, lookup_distancesTo_isSome ho]
    exact h
  simp [findPath, hnone]

theorem hasPath_iff {r : Registry} (ho : r.Ordered) (a b : Nat) :
    r.hasPath a b = true ↔ a = b ∨ r.Reaches a b := by
  simp [hasPath, lookup_distancesTo_isSome ho]

theorem findPath_eq_nil_iff {r : Registry} (ho : r.Ordered) (a b : Nat) :
    r.findPath a b = [] ↔ a = b ∨ ¬ r.Reaches a b := by
  constructor
  · intro h
    by_cases hab : a = b
    · exact .inl hab
    · refine .inr fun hr => ?_
      obtain ⟨p, hp, hc, -, -⟩ := findPath_of_reaches ho hab hr
      rw [h] at hp
      subst hp
      exact hab hc
  · rintro (rfl | h)
    · exact findPath_self r a
    · exact findPath_of_not_reaches ho h

/-- A path that is not empty is a chain to the target. -/
theorem isChain_findPath {r : Registry} (ho : r.Ordered) {a b : Nat} (h : r.findPath a b ≠ []) :
    r.IsChain a (r.findPath a b) b := by
  have hab : a ≠ b := fun e => h (e ▸ findPath_self r a)
  have hreach : r.Reaches a b := by
    by_contra hn
    exact h (findPath_of_not_reaches ho hn)
  obtain ⟨p, hp, hc, -⟩ := findPath_of_reaches ho hab hreach
  rw [hp]
  exact hc

/-- Where the backward search counts `a`, the walk of that many hops never gets stuck. -/
theorem walk_isSome {r : Registry} (ho : r.Ordered) {a b total : Nat} (h : (r.distancesTo b).lookup a = some total) :
    (r.walk (r.distancesTo b) total a).isSome := by
  obtain ⟨p, hp, -⟩ := walk_spec ho total a ((lookup_distancesTo ho b a total).mp h)
  simp [hp]

/-- Applying a chain of stamping migrations in order passes every version check and
    ends at the chain's last version, unless a migration fails. -/
theorem applyGated_chain {r : Registry} (hst : ∀ m ∈ r.steps, m.Stamps) :
    ∀ (p : List Migration) (a b : Nat) (d : Document), r.IsChain a p b → d.version = a →
      (applyGated p d).isSome ∧ ∀ d', applyGated p d = some (.ok d') → d'.version = b := by
  intro p
  induction p with
  | nil =>
    intro a b d hc hd
    simp only [isChain_nil] at hc
    subst hc
    refine ⟨rfl, fun d' h => ?_⟩
    simp only [applyGated, Option.some.injEq, Except.ok.injEq] at h
    rw [← h, hd]
  | cons m p ih =>
    intro a b d hc hd
    obtain ⟨hm, hs, hc⟩ := hc
    have hv : d.version = m.source := hd.trans hs.symm
    simp only [applyGated, hv, if_true]
    cases hres : (m.apply d).result with
    | error e => exact ⟨rfl, fun d' h => by cases h⟩
    | ok d₁ => exact ih m.target b d₁ hc (hst m hm d d₁ hres)

/-- Path search is correct on every registry built by registrations, cycles included:
    reachability, emptiness, chain shape, registered members, fewest migrations, least
    versions, a walk that never gets stuck, and paths of stamping migrations applied in
    order reach their target. -/
theorem findPath_shortest_least (r : Registry) (hr : r.Built) (a b : Nat) :
    (r.hasPath a b = true ↔ a = b ∨ r.Reaches a b) ∧
    (r.findPath a b = [] ↔ a = b ∨ ¬ r.Reaches a b) ∧
    (a ≠ b → r.Reaches a b →
      r.IsChain a (r.findPath a b) b ∧
      (∀ m ∈ r.findPath a b, r.get m.source m.target = some m) ∧
      (∀ c, r.IsChain a c b → (r.findPath a b).length ≤ c.length) ∧
      (∀ c, r.IsChain a c b → c.length = (r.findPath a b).length →
        (r.findPath a b).map (·.target) ≤ c.map (·.target))) ∧
    (∀ total, (r.distancesTo b).lookup a = some total → (r.walk (r.distancesTo b) total a).isSome) ∧
    ((∀ m ∈ r.steps, m.Stamps) → r.hasPath a b = true → ∀ d : Document, d.version = a →
      (applyGated (r.findPath a b) d).isSome ∧
      ∀ d', applyGated (r.findPath a b) d = some (.ok d') → d'.version = b) := by
  have ho := hr.ordered
  -- the path is a chain from `a` to `b` whenever `b` is `a` or reachable from it
  have hchain : a = b ∨ r.Reaches a b → r.IsChain a (r.findPath a b) b := by
    rintro (rfl | hreach)
    · rw [findPath_self]; rfl
    · by_cases hab : a = b
      · subst hab; rw [findPath_self]; rfl
      · obtain ⟨p, rfl, hc, -⟩ := findPath_of_reaches ho hab hreach
        exact hc
  refine ⟨hasPath_iff ho a b, findPath_eq_nil_iff ho a b, fun hab hreach => ?_,
    fun total h => walk_isSome ho h, fun hst hpath d hd => ?_⟩
  · obtain ⟨p, hp, hc, hk, hleast⟩ := findPath_of_reaches ho hab hreach
    subst hp
    refine ⟨hc, fun m hm => get_of_mem ho ?_, hk.2, hleast⟩
    exact hc.mem hm
  · exact applyGated_chain hst _ a b d (hchain ((hasPath_iff ho a b).mp hpath)) hd

/-- A migration between two versions that changes nothing else. -/
def bump (name : String) (a b : Nat) : Migration := Migration.step name a b fun d => { result := .ok d }

/-- Registered as `1 → 2`, `2 → 3`, `3 → 4`, then the shortcut `1 → 3`. -/
def shortcut : Registry := ⟨[bump "m1_2" 1 2, bump "m1_3" 1 3, bump "m2_3" 2 3, bump "m3_4" 3 4]⟩

/-- The shortcut wins: the path from 1 to 4 is `m1_3, m3_4`, and no chain is shorter. -/
theorem shortcut_path :
    shortcut.Built ∧ (shortcut.findPath 1 4).map (·.name) = ["m1_3", "m3_4"] ∧
      ∀ c, shortcut.IsChain 1 c 4 → 2 ≤ c.length := by
  have h1 : ({} : Registry).register (bump "m1_2" 1 2) = .ok ⟨[bump "m1_2" 1 2]⟩ := rfl
  have h2 : (⟨[bump "m1_2" 1 2]⟩ : Registry).register (bump "m2_3" 2 3) =
      .ok ⟨[bump "m1_2" 1 2, bump "m2_3" 2 3]⟩ := rfl
  have h3 : (⟨[bump "m1_2" 1 2, bump "m2_3" 2 3]⟩ : Registry).register (bump "m3_4" 3 4) =
      .ok ⟨[bump "m1_2" 1 2, bump "m2_3" 2 3, bump "m3_4" 3 4]⟩ := rfl
  have h4 : (⟨[bump "m1_2" 1 2, bump "m2_3" 2 3, bump "m3_4" 3 4]⟩ : Registry).register (bump "m1_3" 1 3) =
      .ok shortcut := rfl
  have hb : shortcut.Built := .register (.register (.register (.register .empty h1) h2) h3) h4
  have hspec := findPath_shortest_least shortcut hb 1 4
  have hreach : shortcut.Reaches 1 4 := by
    rcases hspec.1.mp (by decide) with h | h
    · cases h
    · exact h
  have hlen : (shortcut.findPath 1 4).length = 2 := by decide
  refine ⟨hb, by decide, fun c hc => ?_⟩
  have := (hspec.2.2.1 (by decide) hreach).2.2.1 c hc
  omega

end Registry

end DocStore
