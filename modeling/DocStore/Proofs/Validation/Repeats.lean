import Mathlib.Data.List.Nodup
import DocStore.Proofs.Validation.WellFormed
/-
  DocStore.Proofs.Validation.Repeats — which repeated keys the uniqueness rules report.

  `duplicates key vs` walks the values once with two key lists: `seen`, the keys met so
  far, and `reported`, the keys already reported; a value is reported when its key is
  seen and not yet reported. What the two lists stand for after a prefix of the values is
  the walk's invariant (`Tracks`): `seen` holds the prefix's keys, `reported` those that
  occur at least twice in it. So a value is reported exactly when its key occurs once
  before it, at the key's second occurrence.

  Proved, for every key function and every list of values (the uniqueness rules use the
  identity for ids and `Text.toLowerFull` for names):
  (1) one step of the walk reports a value exactly when its key occurred once before,
      and keeps the invariant (`Tracks.go_cons`);
  (2) the report is the values at the second occurrences of their keys, in the order of
      those positions (`duplicates_eq_seconds`);
  (3) a key is reported once if it occurs at least twice, and never otherwise
      (`count_map_duplicates`);
  (4) with `duplicates_eq_nil`, the whole rule (`duplicates_reports_second_occurrences`).
-/

namespace DocStore

theorem count_map_snoc (key : String → String) (pre : List String) (v k : String) :
    ((pre ++ [v]).map key).count k = (pre.map key).count k + if key v = k then 1 else 0 := by
  simp [List.count_append, List.count_singleton]

/-- What the key lists of `duplicates.go` stand for after the values `pre`: `seen` holds
their keys and `reported` the keys that occur at least twice among them. -/
structure Tracks (key : String → String) (pre seen reported : List String) : Prop where
  seen_iff : ∀ k, k ∈ seen ↔ 0 < (pre.map key).count k
  reported_iff : ∀ k, k ∈ reported ↔ 2 ≤ (pre.map key).count k

namespace Tracks

variable {key : String → String} {pre seen reported : List String}

theorem nil (key : String → String) : Tracks key [] [] [] := ⟨by simp, by simp⟩

/-- After one more value `v`, the invariant holds of lists that add `key v` to `seen`, and
to `reported` exactly when it occurred once before. -/
theorem snoc (h : Tracks key pre seen reported) (v : String) {seen' reported' : List String}
    (hs : ∀ k, k ∈ seen' ↔ k ∈ seen ∨ k = key v)
    (hr : ∀ k, k ∈ reported' ↔ k ∈ reported ∨ (k = key v ∧ (pre.map key).count k = 1)) :
    Tracks key (pre ++ [v]) seen' reported' := by
  constructor
  · intro k
    rw [hs, h.seen_iff, count_map_snoc]
    by_cases hk : key v = k
    · simp [hk]
    · simp [hk, Ne.symm hk]
  · intro k
    rw [hr, h.reported_iff, count_map_snoc]
    by_cases hk : key v = k
    · simp only [hk, if_true, true_and]
      omega
    · simp [hk, Ne.symm hk]

/-- One step of the walk: `v` is reported exactly when its key occurred once before it,
and the lists passed on track the prefix with `v`. -/
theorem go_cons (h : Tracks key pre seen reported) (v : String) :
    ∃ seen' reported', Tracks key (pre ++ [v]) seen' reported' ∧
      ∀ rest, duplicates.go key (v :: rest) seen reported =
        if (pre.map key).count (key v) = 1 then v :: duplicates.go key rest seen' reported'
        else duplicates.go key rest seen' reported' := by
  have hseen := h.seen_iff (key v)
  have hrep := h.reported_iff (key v)
  by_cases hs : key v ∈ seen
  · by_cases hr : key v ∈ reported
    · -- met twice already: both lists stay
      have h2 : (pre.map key).count (key v) ≠ 1 := by
        have := hrep.1 hr
        omega
      refine ⟨seen, reported, h.snoc v (by grind) (by grind), fun rest => ?_⟩
      simp [duplicates.go, hs, hr, h2]
    · -- met once: the second occurrence, reported now
      have h1 : (pre.map key).count (key v) = 1 := by
        have := hseen.1 hs
        have := hrep.not.1 hr
        omega
      refine ⟨seen, key v :: reported, h.snoc v (by grind) (by grind), fun rest => ?_⟩
      simp [duplicates.go, hs, hr, h1]
  · -- a first occurrence: only seen
    have h0 : (pre.map key).count (key v) ≠ 1 := by
      have := hseen.not.1 hs
      omega
    refine ⟨key v :: seen, reported, h.snoc v (by grind) (by grind), fun rest => ?_⟩
    simp [duplicates.go, hs, h0]

/-- From lists that track `pre`, the walk reports the values of `rest` whose key occurs
exactly once in `pre` and the part of `rest` before them, in order. -/
theorem go_eq_seconds (h : Tracks key pre seen reported) (rest : List String) :
    duplicates.go key rest seen reported =
      ((List.finRange rest.length).filter fun (i : Fin rest.length) =>
        ((pre ++ rest.take i).map key).count (key rest[i]) == 1).map
          fun (i : Fin rest.length) => rest[i] := by
  induction rest generalizing pre seen reported with
  | nil => simp [duplicates.go]
  | cons v rest ih =>
    obtain ⟨seen', reported', h', hgo⟩ := h.go_cons v
    rw [hgo, ih h']
    -- position 0 holds `v`; position `i + 1` is position `i` of `rest` after `pre ++ [v]`
    by_cases h1 : (pre.map key).count (key v) = 1 <;>
      simp [h1, List.finRange_succ, List.filter_map, Function.comp_def]

/-- From lists that track `pre`, the walk reports a key once if it occurs at least twice
in `pre ++ rest` and was not already reported within `pre`, and never otherwise. -/
theorem count_go (h : Tracks key pre seen reported) (rest : List String) (k : String) :
    ((duplicates.go key rest seen reported).map key).count k =
      if 2 ≤ ((pre ++ rest).map key).count k ∧ (pre.map key).count k < 2 then 1 else 0 := by
  induction rest generalizing pre seen reported with
  | nil =>
    -- nothing is left to report, and the condition cannot hold
    simp only [duplicates.go, List.map_nil, List.count_nil, List.append_nil]
    rw [if_neg (by omega)]
  | cons v rest ih =>
    obtain ⟨seen', reported', h', hgo⟩ := h.go_cons v
    have hrest := ih h'
    rw [List.append_assoc, List.singleton_append, count_map_snoc] at hrest
    rw [hgo]
    by_cases hk : key v = k
    · -- the value's own key: count its occurrences before, after and in all
      subst hk
      have hall : ((pre ++ v :: rest).map key).count (key v) =
          (pre.map key).count (key v) + (rest.map key).count (key v) + 1 := by
        simp [List.count_append]
        omega
      rw [hall, if_pos rfl] at hrest
      rw [hall]
      by_cases h1 : (pre.map key).count (key v) = 1
      · rw [if_pos h1, List.map_cons, List.count_cons_self, hrest]
        split_ifs <;> omega
      · rw [if_neg h1, hrest]
        split_ifs <;> omega
    · -- another key: `v` neither counts nor is counted
      split <;> simp [hk, hrest]

end Tracks

/-- The values reported are those at the second occurrence of their key, in order. -/
theorem duplicates_eq_seconds (key : String → String) (xs : List String) :
    duplicates key xs =
      ((List.finRange xs.length).filter fun (i : Fin xs.length) =>
        ((xs.take i).map key).count (key xs[i]) == 1).map fun (i : Fin xs.length) => xs[i] := by
  simpa [duplicates] using (Tracks.nil key).go_eq_seconds xs

/-- Each key that occurs at least twice is reported once, and no other key. -/
theorem count_map_duplicates (key : String → String) (xs : List String) (k : String) :
    ((duplicates key xs).map key).count k = if 2 ≤ (xs.map key).count k then 1 else 0 := by
  simpa [duplicates] using (Tracks.nil key).count_go xs k

/-- Repeated keys are reported once each, by the value at the key's second occurrence, in
the order of those occurrences; nothing is reported exactly when the keys are distinct. -/
theorem duplicates_reports_second_occurrences (key : String → String) (xs : List String) :
    duplicates key xs =
        ((List.finRange xs.length).filter fun (i : Fin xs.length) =>
          ((xs.take i).map key).count (key xs[i]) == 1).map (fun (i : Fin xs.length) => xs[i]) ∧
      (∀ k, ((duplicates key xs).map key).count k = if 2 ≤ (xs.map key).count k then 1 else 0) ∧
      (duplicates key xs = [] ↔ (xs.map key).Nodup) :=
  ⟨duplicates_eq_seconds key xs, count_map_duplicates key xs, duplicates_eq_nil key xs⟩

example : duplicates Text.toLowerFull ["Ann", "bob", "ANN", "ann", "Bob"] = ["ANN", "Bob"] := by
  decide +kernel

end DocStore
