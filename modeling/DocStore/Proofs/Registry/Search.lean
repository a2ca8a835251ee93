import DocStore.Proofs.Registry.Chains
import Mathlib.Tactic.Set
import Mathlib.Data.List.Perm.Subperm
/-
  DocStore.Proofs.Registry.Search — the backward search gives exact hop counts.

  `distancesTo t` runs a breadth-first search from `t` over reversed migrations. Between
  two queue steps the counts found so far are `done ++ pending`: `done` holds the
  versions already expanded, `pending` those still queued, in queue order. `SearchInv`
  is what one step keeps (`SearchInv.step`): counts are lengths of real chains, the
  queue's counts never go down and stay within one of every count, and every migration
  into an expanded version has its source counted at most one hop further.

  Proved:
  - `searchBack_finishes`: the fuel of twice the number of migrations, plus two, always
    lasts until the queue is empty, since each version is queued once and there are at
    most one more versions than migrations.
  - `chain_bound`: once the queue is empty, every chain into `t` is at least as long as
    the count of its first version, which is therefore counted.
  - `lookup_distancesTo`: a version has count `k` exactly when its shortest chains to
    `t` have `k` migrations; it has none exactly when it does not reach `t`.
  - `distancesTo_exact`: all of it for every registry that registrations build, with
    `searchBack_add` (more fuel changes nothing) and the counts naming each version once.
-/

namespace DocStore

/-! ## Lists of keyed entries -/

section Keyed

variable {κ δ : Type} [DecidableEq κ]

theorem lookup_of_mem {l : List (κ × δ)} (hl : (l.map Prod.fst).Nodup) {k : κ} {d : δ} (h : (k, d) ∈ l) :
    l.lookup k = some d := by
  induction l with
  | nil => cases h
  | cons e l ih =>
    obtain ⟨k', d'⟩ := e
    simp only [List.map_cons, List.nodup_cons] at hl
    rw [List.lookup_cons]
    rcases List.mem_cons.mp h with he | h
    · cases he
      simp
    · have hk : k ≠ k' := fun e => hl.1 (e ▸ List.mem_map_of_mem h)
      simp only [beq_false_of_ne hk]
      exact ih hl.2 h

theorem mem_of_lookup {l : List (κ × δ)} {k : κ} {d : δ} (h : l.lookup k = some d) : (k, d) ∈ l := by
  obtain ⟨l₁, l₂, rfl, -⟩ := List.lookup_eq_some_iff.mp h
  simp

theorem lookup_eq_none {l : List (κ × δ)} {k : κ} : l.lookup k = none ↔ k ∉ l.map Prod.fst := by
  simp only [List.lookup_eq_none_iff, bne_iff_ne, ne_eq, List.mem_map, not_exists, not_and]
  exact ⟨fun h p hp e => h p hp e.symm, fun h p hp e => h p hp e.symm⟩

end Keyed

namespace Registry

/-! ## One step of the search -/

/-- The sources of migrations into `v` that have no count yet. -/
def fresh (r : Registry) (dist : List (Nat × Nat)) (v : Nat) : List Nat :=
  (r.sourcesInto v).filter fun s => (dist.lookup s).isNone

theorem searchBack_succ (r : Registry) (n v : Nat) (queue : List Nat) (dist : List (Nat × Nat)) :
    r.searchBack (n + 1) (v :: queue) dist =
      r.searchBack n (queue ++ r.fresh dist v) (dist ++ (r.fresh dist v).map fun s => (s, (dist.lookup v).getD 0 + 1)) :=
  rfl

theorem mem_fresh {r : Registry} {dist : List (Nat × Nat)} {v s : Nat} :
    s ∈ r.fresh dist v ↔ (∃ m ∈ r.steps, m.target = v ∧ m.source = s) ∧ s ∉ dist.map Prod.fst := by
  rw [fresh, List.mem_filter, mem_sourcesInto, Option.isNone_iff_eq_none, lookup_eq_none]

/-- What the backward search from `t` keeps between two queue steps. -/
structure SearchInv (r : Registry) (t : Nat) (done pending : List (Nat × Nat)) : Prop where
  nodup : ((done ++ pending).map Prod.fst).Nodup
  origin : (t, 0) ∈ done ++ pending
  /-- Every count is the length of a chain to `t`. -/
  attained : ∀ e ∈ done ++ pending, ∃ c, r.IsChain e.1 c t ∧ c.length = e.2
  sorted : (pending.map Prod.snd).Pairwise (· ≤ ·)
  /-- No count is more than one above the count at the head of the queue. -/
  gap : ∀ e ∈ done ++ pending, ∀ h ∈ pending.head?, e.2 ≤ h.2 + 1
  /-- The source of every migration into an expanded version is counted at most one
      hop further. -/
  frontier : ∀ e ∈ done, ∀ m ∈ r.steps, m.target = e.1 → ∃ d, (m.source, d) ∈ done ++ pending ∧ d ≤ e.2 + 1

theorem searchInv_start (r : Registry) (t : Nat) : SearchInv r t [] [(t, 0)] where
  nodup := by simp
  origin := by simp
  attained := by
    intro e he
    simp only [List.nil_append, List.mem_singleton] at he
    subst he
    exact ⟨[], rfl, rfl⟩
  sorted := by simp
  gap := by simp
  frontier := by simp

/-- Expanding the head `v` of the queue: its fresh sources are counted one hop further
    and queued. -/
theorem SearchInv.step {r : Registry} (ho : r.Ordered) {t : Nat} {done rest : List (Nat × Nat)} {v h : Nat}
    (hi : SearchInv r t done ((v, h) :: rest)) :
    SearchInv r t (done ++ [(v, h)])
      (rest ++ (r.fresh (done ++ (v, h) :: rest) v).map fun s => (s, h + 1)) := by
  set dist := done ++ (v, h) :: rest
  set F := r.fresh dist v
  have hsplit : done ++ [(v, h)] ++ (rest ++ F.map fun s => (s, h + 1)) = dist ++ F.map fun s => (s, h + 1) := by
    simp [dist]
  have hvh : (v, h) ∈ dist := by simp [dist]
  have hFnodup : F.Nodup := (sourcesInto_nodup ho v).filter _
  have hnew : ∀ e ∈ F.map (fun s => (s, h + 1)), e.1 ∈ F ∧ e.2 = h + 1 := by
    intro e he
    obtain ⟨s, hs, rfl⟩ := List.mem_map.mp he
    exact ⟨hs, rfl⟩
  -- every count so far is at most one above `h`, the count being expanded
  have hle : ∀ e ∈ dist, e.2 ≤ h + 1 := fun e he => hi.gap e he (v, h) rfl
  constructor
  · rw [hsplit, List.map_append, List.nodup_append]
    refine ⟨hi.nodup, by rwa [List.map_map, Function.comp_def, List.map_id'], fun a ha b hb => ?_⟩
    simp only [List.map_map, Function.comp_def, List.map_id'] at hb
    rintro rfl
    exact (mem_fresh.mp hb).2 ha
  · exact hsplit ▸ List.mem_append_left _ hi.origin
  · intro e he
    rw [hsplit] at he
    rcases List.mem_append.mp he with he | he
    · exact hi.attained e he
    · obtain ⟨hs, h2⟩ := hnew e he
      obtain ⟨⟨m, hm, hmt, hms⟩, -⟩ := mem_fresh.mp hs
      obtain ⟨c, hc, hlen⟩ := hi.attained (v, h) hvh
      exact ⟨m :: c, ⟨hm, hms, hmt ▸ hc⟩, by simp [hlen, h2]⟩
  · have hsorted := hi.sorted
    simp only [List.map_cons, List.pairwise_cons] at hsorted
    rw [List.map_append, List.pairwise_append]
    refine ⟨hsorted.2, ?_, fun a ha b hb => ?_⟩
    · simp only [List.map_map, Function.comp_def]
      exact List.pairwise_map.mpr (List.Pairwise.imp (fun _ => Nat.le_refl _) (hFnodup.imp fun _ => trivial))
    · obtain ⟨e, he, rfl⟩ := List.mem_map.mp ha
      obtain ⟨e', he', rfl⟩ := List.mem_map.mp hb
      rw [(hnew e' he').2]
      exact hle e (by simp [dist, he])
  · intro e he x hx
    rw [hsplit] at he
    rcases rest with _ | ⟨y, rest⟩
    · -- the queue now starts with a fresh source, counted `h + 1`
      simp only [List.nil_append] at hx
      obtain ⟨hx1, hx2⟩ := hnew x (List.mem_of_mem_head? hx)
      rcases List.mem_append.mp he with he | he
      · have := hle e he; omega
      · have := (hnew e he).2; omega
    · -- the queue now starts with `y`, whose count is at least `h`
      simp only [List.cons_append, List.head?_cons, Option.mem_def, Option.some.injEq] at hx
      subst hx
      have hhy : h ≤ y.2 := by
        have hsorted := hi.sorted
        simp only [List.map_cons, List.pairwise_cons, List.mem_cons] at hsorted
        exact hsorted.1 _ (.inl rfl)
      rcases List.mem_append.mp he with he | he
      · have := hle e he; omega
      · have := (hnew e he).2; omega
  · intro e he m hm hmt
    rw [hsplit]
    rcases List.mem_append.mp he with he | he
    · obtain ⟨d, hd, hle'⟩ := hi.frontier e he m hm hmt
      exact ⟨d, List.mem_append_left _ hd, hle'⟩
    · simp only [List.mem_singleton] at he
      subst he
      by_cases hs : m.source ∈ dist.map Prod.fst
      · obtain ⟨e', he', hk⟩ := List.mem_map.mp hs
        exact ⟨e'.2, List.mem_append_left _ (hk ▸ he'), hle e' he'⟩
      · have hF : m.source ∈ F := mem_fresh.mpr ⟨⟨m, hm, hmt, rfl⟩, hs⟩
        exact ⟨h + 1, List.mem_append_right _ (List.mem_map_of_mem hF), Nat.le_refl _⟩

/-! ## The search runs until the queue is empty -/

/-- Every counted version is `t` or the source of a migration, and is counted once, so
    there are at most one more counts than migrations. -/
theorem SearchInv.length_le {r : Registry} {t : Nat} {done pending : List (Nat × Nat)}
    (hi : SearchInv r t done pending) : (done ++ pending).length ≤ r.steps.length + 1 := by
  have hsub : (done ++ pending).map Prod.fst ⊆ t :: r.steps.map (·.source) := by
    intro v hv
    obtain ⟨e, he, rfl⟩ := List.mem_map.mp hv
    obtain ⟨c, hc, -⟩ := hi.attained e he
    cases c with
    | nil => exact List.mem_cons.mpr (.inl hc)
    | cons m c => exact List.mem_cons_of_mem _ (List.mem_map.mpr ⟨m, hc.1, hc.2.1⟩)
  have := (List.Nodup.subperm hi.nodup hsub).length_le
  simpa using this

theorem searchBack_finishes {r : Registry} (ho : r.Ordered) {t : Nat} :
    ∀ (n : Nat) (done pending : List (Nat × Nat)), SearchInv r t done pending →
      r.steps.length + 2 ≤ done.length + n →
      ∃ result, SearchInv r t result [] ∧ r.searchBack n (pending.map Prod.fst) (done ++ pending) = result := by
  intro n
  induction n with
  | zero =>
    intro done pending hi hn
    cases pending with
    | nil => exact ⟨done, by simpa using hi, by simp [searchBack]⟩
    | cons e pending =>
      have := hi.length_le
      simp only [List.length_append, List.length_cons] at this
      omega
  | succ n ih =>
    intro done pending hi hn
    cases pending with
    | nil => exact ⟨done, by simpa using hi, by simp [searchBack]⟩
    | cons e rest =>
      obtain ⟨v, h⟩ := e
      have hh : ((done ++ (v, h) :: rest).lookup v).getD 0 = h := by
        rw [lookup_of_mem hi.nodup (show (v, h) ∈ done ++ (v, h) :: rest by simp)]
        rfl
      have hn' : r.steps.length + 2 ≤ (done ++ [(v, h)]).length + n := by
        simp only [List.length_append, List.length_cons, List.length_nil]
        omega
      obtain ⟨result, hres, hrun⟩ := ih _ _ (hi.step ho) hn'
      refine ⟨result, hres, ?_⟩
      rw [List.map_cons, searchBack_succ, hh, ← hrun]
      simp [Function.comp_def]

theorem searchBack_nil (r : Registry) (n : Nat) (dist : List (Nat × Nat)) : r.searchBack n [] dist = dist := by
  cases n <;> rfl

/-- Fuel beyond what `searchBack_finishes` asks for changes nothing: the search stops
    because its queue is empty, not because the fuel ran out. -/
theorem searchBack_add {r : Registry} (ho : r.Ordered) {t : Nat} :
    ∀ (n : Nat) (done pending : List (Nat × Nat)), SearchInv r t done pending →
      r.steps.length + 2 ≤ done.length + n → ∀ k,
      r.searchBack (n + k) (pending.map Prod.fst) (done ++ pending) =
        r.searchBack n (pending.map Prod.fst) (done ++ pending) := by
  intro n
  induction n with
  | zero =>
    intro done pending hi hn k
    cases pending with
    | nil => simp [searchBack_nil]
    | cons e pending =>
      have := hi.length_le
      simp only [List.length_append, List.length_cons] at this
      omega
  | succ n ih =>
    intro done pending hi hn k
    cases pending with
    | nil => simp [searchBack_nil]
    | cons e rest =>
      obtain ⟨v, h⟩ := e
      have hh : ((done ++ (v, h) :: rest).lookup v).getD 0 = h := by
        rw [lookup_of_mem hi.nodup (show (v, h) ∈ done ++ (v, h) :: rest by simp)]
        rfl
      have hn' : r.steps.length + 2 ≤ (done ++ [(v, h)]).length + n := by
        simp only [List.length_append, List.length_cons, List.length_nil]
        omega
      -- both runs take the same first step, then agree by the induction
      have hstep := ih _ _ (hi.step ho) hn' k
      simp only [List.map_append, List.map_map, Function.comp_def, List.append_assoc, List.cons_append,
        List.nil_append] at hstep
      rw [Nat.add_right_comm, List.map_cons, searchBack_succ, searchBack_succ, hh]
      simpa [Function.comp_def] using hstep

/-! ## Hop counts are exact -/

/-- Once the queue is empty, the frontier bounds extend along every chain into `t`. -/
theorem chain_bound {r : Registry} {t : Nat} {done : List (Nat × Nat)} (hi : SearchInv r t done []) :
    ∀ (c : List Migration) (u : Nat), r.IsChain u c t → ∃ d, (u, d) ∈ done ∧ d ≤ c.length := by
  intro c
  induction c with
  | nil =>
    intro u hu
    simp only [isChain_nil] at hu
    subst hu
    exact ⟨0, by simpa using hi.origin, Nat.le_refl _⟩
  | cons m c ih =>
    intro u hu
    obtain ⟨hm, rfl, hc⟩ := hu
    obtain ⟨d, hd, hle⟩ := ih m.target hc
    obtain ⟨d', hd', hle'⟩ := hi.frontier _ hd m hm rfl
    exact ⟨d', by simpa using hd', by simp only [List.length_cons]; omega⟩

/-- The result of a finished search counts exactly the shortest chains. -/
theorem SearchInv.lookup_iff {r : Registry} {t : Nat} {done : List (Nat × Nat)} (hi : SearchInv r t done [])
    (v k : Nat) : done.lookup v = some k ↔ r.Hops v t k := by
  have hnd : (done.map Prod.fst).Nodup := by simpa using hi.nodup
  constructor
  · intro h
    have hvk := mem_of_lookup h
    refine ⟨by simpa using hi.attained (v, k) (by simpa using hvk), fun c hc => ?_⟩
    obtain ⟨d, hd, hle⟩ := chain_bound hi c v hc
    rw [lookup_of_mem hnd hd] at h
    cases h
    exact hle
  · rintro ⟨⟨c, hc, rfl⟩, hmin⟩
    obtain ⟨d, hd, hle⟩ := chain_bound hi c v hc
    obtain ⟨c', hc', hlen⟩ := hi.attained (v, d) (by simpa using hd)
    have := hmin c' hc'
    rw [lookup_of_mem hnd hd]
    simp only [Option.some.injEq]
    simp only at hlen
    omega

theorem distancesTo_finished {r : Registry} (ho : r.Ordered) (t : Nat) :
    ∃ result, SearchInv r t result [] ∧ r.distancesTo t = result := by
  obtain ⟨result, hi, hrun⟩ := searchBack_finishes ho r.fuel [] [(t, 0)] (searchInv_start r t)
    (by simp [fuel]; omega)
  exact ⟨result, hi, by simpa [distancesTo] using hrun⟩

/-- The backward search from `t` counts `k` for `v` exactly when the shortest chains
    from `v` to `t` have `k` migrations. -/
theorem lookup_distancesTo {r : Registry} (ho : r.Ordered) (t v k : Nat) :
    (r.distancesTo t).lookup v = some k ↔ r.Hops v t k := by
  obtain ⟨result, hi, hrun⟩ := distancesTo_finished ho t
  rw [hrun]
  exact hi.lookup_iff v k

/-- The backward search from `t` counts exactly the versions that reach `t`. -/
theorem lookup_distancesTo_isSome {r : Registry} (ho : r.Ordered) (t v : Nat) :
    ((r.distancesTo t).lookup v).isSome ↔ r.Reaches v t := by
  constructor
  · intro h
    obtain ⟨k, hk⟩ := Option.isSome_iff_exists.mp h
    exact ((lookup_distancesTo ho t v k).mp hk).reaches
  · intro h
    obtain ⟨k, hk⟩ := h.hops
    rw [(lookup_distancesTo ho t v k).mpr hk]
    rfl

/-- The backward search from `t` over any registry that registrations build, cycles
    included. It counts exactly the versions that reach `t` (`t` itself with none), each
    with the fewest migrations of a chain to `t`. Its loop ends because the queue empties
    (more fuel changes nothing), after one expansion per counted version. A version is
    queued exactly when its count is recorded, and the counts name distinct versions, at
    most one more than there are migrations: no version is queued twice. -/
theorem distancesTo_exact (r : Registry) (hr : r.Built) (t : Nat) :
    (∀ v, ((r.distancesTo t).lookup v).isSome ↔ r.Reaches v t) ∧
    (r.distancesTo t).lookup t = some 0 ∧
    (∀ v k, (r.distancesTo t).lookup v = some k ↔ r.Hops v t k) ∧
    ((r.distancesTo t).map Prod.fst).Nodup ∧
    (r.distancesTo t).length ≤ r.steps.length + 1 ∧
    ∀ k, r.searchBack (r.fuel + k) [t] [(t, 0)] = r.distancesTo t := by
  have ho := hr.ordered
  obtain ⟨result, hi, hrun⟩ := distancesTo_finished ho t
  have hfuel : r.steps.length + 2 ≤ ([] : List (Nat × Nat)).length + r.fuel := by simp [fuel]; omega
  refine ⟨lookup_distancesTo_isSome ho t, (lookup_distancesTo ho t t 0).mpr (hops_zero_iff.mpr rfl),
    lookup_distancesTo ho t, ?_, ?_, fun k => ?_⟩
  · simpa [hrun] using hi.nodup
  · simpa [hrun] using hi.length_le
  · simpa [distancesTo] using searchBack_add ho r.fuel [] [(t, 0)] (searchInv_start r t) hfuel k

end Registry

end DocStore
