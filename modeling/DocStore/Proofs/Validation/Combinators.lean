import DocStore.Proofs.Validation.Builders
import DocStore.Repo.Pipeline
/-
  DocStore.Proofs.Validation.Combinators — what the timed combinators answer when no
  deadline cuts them off.

  `Timed.check` runs a check with no deadline. Then nothing is cut off
  (`Timed.run_none_done`): a `timeout` inside answers its issue instead. A deadline
  only cuts runs off: whatever finishes before one finishes the same way before any
  later one, or with none (`Timed.run_later`), so a part that finishes within its time
  limit is answered as if there were no limit (`Timed.check_timeout_of_done`).

  With no deadline:
  - `Timed.check_all`: every part of an `all` runs, from the common start and in list
    order, the runtime passed from one to the next; the verdict is their issues in
    order and the finish the latest one (a left fold of `joinStep`);
  - `Timed.check_first`: the parts of a `first` run one after another until one finds
    issues, whose verdict is the answer; no later part runs (a left fold of `seqStep`);
  - `Timed.check_retry_counted`: a step whose `i`-th run finds `found i`, retried with
    `attempts`, runs `k` times and answers `found k`, for `k` the first run that passes
    or `max attempts 1`, whichever comes first;
  - `Repo.pipeline_check`: a repository check never times out and answers the field
    rule's issues when there are any, else every constraint's, in order.
-/

namespace DocStore

variable {σ α : Type}

@[simp] theorem pastDeadline_none (t : Nat) : pastDeadline none t = false := rfl

@[simp] theorem pastDeadline_some (d t : Nat) : pastDeadline (some d) t = decide (d < t) := rfl

/-! ## One run of a retry loop -/

section Retry

variable {runPart : Nat → Runtime σ → Ending × Runtime σ} {d : Option Nat} {delay t : Nat} {rt rt1 : Runtime σ}

theorem retryLoop_cut (left : Nat) (h : runPart t rt = (.cut, rt1)) :
    retryLoop runPart d delay left t rt = (.cut, rt1) := by
  rw [retryLoop, h]

theorem retryLoop_zero {v : Verdict} {e : Nat} (h : runPart t rt = (.done v e, rt1)) :
    retryLoop runPart d delay 0 t rt = (.done v e, rt1) := by
  rw [retryLoop, h]

theorem retryLoop_succ (n : Nat) {v : Verdict} {e : Nat} (h : runPart t rt = (.done v e, rt1)) :
    retryLoop runPart d delay (n + 1) t rt =
      if v.isValid then (.done v e, rt1)
      else if pastDeadline d (e + delay) then (.cut, rt1) else retryLoop runPart d delay n (e + delay) rt1 := by
  rw [retryLoop, h]

end Retry

/-! ## With no deadline nothing is cut off -/

theorem retryLoop_none_done (runPart : Nat → Runtime σ → Ending × Runtime σ) (delay : Nat)
    (h : ∀ t rt, ∃ v e rt', runPart t rt = (.done v e, rt')) :
    ∀ left t rt, ∃ v e rt', retryLoop runPart none delay left t rt = (.done v e, rt') := by
  intro left
  induction left with
  | zero =>
    intro t rt
    obtain ⟨v, e, rt', h1⟩ := h t rt
    exact ⟨v, e, rt', retryLoop_zero h1⟩
  | succ n ih =>
    intro t rt
    obtain ⟨v, e, rt', h1⟩ := h t rt
    rw [retryLoop_succ n h1]
    cases v.isValid
    · simpa using ih (e + delay) rt'
    · simp

mutual

theorem Timed.run_none_done (x : α) : (p : Timed σ α) → ∀ s rt, ∃ v e rt', p.run x s none rt = (.done v e, rt')
  | .leaf _ step, s, rt => by simp [Timed.run]
  | .lift _ rule, s, rt => by simp [Timed.run]
  | .all _ parts, s, rt => by simpa [Timed.run] using Timed.runAll_none_done x parts s rt
  | .first _ parts, s, rt => by simpa [Timed.run] using Timed.runFirst_none_done x parts s rt
  | .timeout limit part, s, rt => by
    -- a part its own limit cuts off answers the timeout issue, there being no outer deadline
    simp only [Timed.run, pastDeadline_none]
    rcases Timed.run x s (some (s + limit)) rt part with ⟨_ | _, rt1⟩ <;> simp
  | .retry attempts delay part, s, rt => by
    simp only [Timed.run, pastDeadline_none]
    exact retryLoop_none_done _ delay (fun t rt => Timed.run_none_done x part t rt) _ s rt
  | .memo cache ttl key part, s, rt => by
    simp only [Timed.run, pastDeadline_none]
    rcases (rt.cache cache).lookupAt ttl s (key x) with ⟨_ | v, c⟩
    · obtain ⟨v, e, rt1, h⟩ := Timed.run_none_done x part s (rt.setCache cache c)
      simp [h]
    · simp

theorem Timed.runAll_none_done (x : α) :
    (ps : List (Timed σ α)) → ∀ s rt, ∃ v e rt', Timed.runAll x s none rt ps = (.done v e, rt')
  | [], s, rt => ⟨_, _, _, rfl⟩
  | p :: ps, s, rt => by
    obtain ⟨v, e, rt1, h1⟩ := Timed.run_none_done x p s rt
    obtain ⟨w, f, rt2, h2⟩ := Timed.runAll_none_done x ps s rt1
    simp [Timed.runAll, h1, h2]

theorem Timed.runFirst_none_done (x : α) :
    (ps : List (Timed σ α)) → ∀ s rt, ∃ v e rt', Timed.runFirst x s none rt ps = (.done v e, rt')
  | [], s, rt => ⟨_, _, _, rfl⟩
  | p :: ps, s, rt => by
    obtain ⟨v, e, rt1, h1⟩ := Timed.run_none_done x p s rt
    cases hv : v.isValid
    · simp [Timed.runFirst, h1, hv]
    · obtain ⟨w, f, rt2, h2⟩ := Timed.runFirst_none_done x ps e rt1
      simp [Timed.runFirst, h1, hv, h2]

end

/-- With no deadline a run is what `check` answers. -/
theorem Timed.run_none_eq (x : α) (p : Timed σ α) (s : Nat) (rt : Runtime σ) :
    p.run x s none rt = (.done (p.check x s rt).1 (p.check x s rt).2.1, (p.check x s rt).2.2) := by
  obtain ⟨v, e, rt', h⟩ := p.run_none_done x s rt
  simp [Timed.check, h]

/-! ## A later deadline changes nothing that finished -/

/-- Deadline `d'` comes no earlier than `d`: a time past `d'` is past `d`. -/
def NoEarlier (d d' : Option Nat) : Prop := ∀ t, pastDeadline d' t = true → pastDeadline d t = true

theorem NoEarlier.not_past {d d' : Option Nat} (h : NoEarlier d d') {t : Nat} (ht : pastDeadline d t = false) :
    pastDeadline d' t = false := by
  cases h' : pastDeadline d' t
  · rfl
  · rw [h t h'] at ht
    cases ht

theorem noEarlier_none (d : Option Nat) : NoEarlier d none := by
  intro t ht
  cases ht

theorem noEarlier_some {a b : Nat} : NoEarlier (some a) (some b) ↔ a ≤ b := by
  constructor
  · intro h
    have := h (b + 1) (by simp)
    simp only [pastDeadline_some, decide_eq_true_eq] at this
    omega
  · intro h t ht
    simp only [pastDeadline_some, decide_eq_true_eq] at ht ⊢
    omega

/-- Nothing is past no deadline, so only no deadline comes no earlier than none. -/
theorem noEarlier_none_iff {d : Option Nat} : NoEarlier none d ↔ d = none := by
  constructor
  · intro h
    cases d with
    | none => rfl
    | some b => cases h (b + 1) (by simp)
  · rintro rfl
    exact noEarlier_none none

theorem retryLoop_later {runPart runPart' : Nat → Runtime σ → Ending × Runtime σ} {d d' : Option Nat} (delay : Nat)
    (hd : NoEarlier d d')
    (hpart : ∀ {t rt v e rt'}, runPart t rt = (.done v e, rt') → runPart' t rt = (.done v e, rt')) :
    ∀ {left t rt v e rt'}, retryLoop runPart d delay left t rt = (.done v e, rt') →
      retryLoop runPart' d' delay left t rt = (.done v e, rt') := by
  intro left
  induction left with
  | zero =>
    intro t rt v e rt' h
    rcases h1 : runPart t rt with ⟨⟨v1, e1⟩ | _, rt1⟩
    · rw [retryLoop_zero h1] at h
      rw [retryLoop_zero (hpart h1), h]
    · rw [retryLoop_cut 0 h1] at h
      cases h
  | succ n ih =>
    intro t rt v e rt' h
    rcases h1 : runPart t rt with ⟨⟨v1, e1⟩ | _, rt1⟩
    · rw [retryLoop_succ n h1] at h
      rw [retryLoop_succ n (hpart h1)]
      cases hv : v1.isValid <;> simp only [hv, Bool.false_eq_true, if_false, if_true] at h ⊢
      · -- a failed run waited for under `d` was not cut off by it, nor then by `d'`
        cases hp : pastDeadline d (e1 + delay) <;> simp only [hp, Bool.false_eq_true, if_false, if_true] at h
        · simp only [hd.not_past hp, Bool.false_eq_true, if_false]
          exact ih h
        · cases h
      · exact h
    · rw [retryLoop_cut _ h1] at h
      cases h

mutual

theorem Timed.run_later (x : α) :
    (p : Timed σ α) → ∀ (s : Nat) (rt : Runtime σ) (d d' : Option Nat) (v : Verdict) (e : Nat) (rt' : Runtime σ),
      NoEarlier d d' → p.run x s d rt = (.done v e, rt') → p.run x s d' rt = (.done v e, rt')
  | .leaf _ step, s, rt, d, d', v, e, rt', hd, h => by
    simp only [Timed.run] at h ⊢
    cases h1 : pastDeadline d s <;> simp [h1] at h
    cases h2 : pastDeadline d (s + (step rt.world x).2.1) <;> simp [h2] at h
    obtain ⟨⟨rfl, rfl⟩, rfl⟩ := h
    simp [hd.not_past h1, hd.not_past h2]
  | .lift _ rule, s, rt, d, d', v, e, rt', hd, h => by
    simp only [Timed.run] at h ⊢
    cases h1 : pastDeadline d s <;> simp [h1] at h
    obtain ⟨⟨rfl, rfl⟩, rfl⟩ := h
    simp [hd.not_past h1]
  | .all _ parts, s, rt, d, d', v, e, rt', hd, h => by
    simp only [Timed.run] at h ⊢
    cases h1 : pastDeadline d s <;> simp [h1] at h
    simp [hd.not_past h1, Timed.runAll_later x parts _ _ _ _ _ _ _ hd h]
  | .first _ parts, s, rt, d, d', v, e, rt', hd, h => by
    simp only [Timed.run] at h ⊢
    cases h1 : pastDeadline d s <;> simp [h1] at h
    simp [hd.not_past h1, Timed.runFirst_later x parts _ _ _ _ _ _ _ hd h]
  | .timeout limit part, s, rt, d, d', v, e, rt', hd, h => by
    simp only [Timed.run] at h ⊢
    cases h1 : pastDeadline d s <;> simp [h1] at h
    simp only [hd.not_past h1, Bool.false_eq_true, if_false]
    -- the part's own deadline is the earlier of `s + limit` and the outer one; a later outer
    -- deadline gives a later own one, and when the part was cut off at `s + limit` before
    -- the outer deadline, it is cut off there under the later one too
    cases d with
    | none =>
      rw [noEarlier_none_iff.mp hd]
      exact h
    | some a =>
      have hown : pastDeadline (some a) (s + limit) = false → min a (s + limit) = s + limit := by
        intro hp
        simp only [pastDeadline_some, decide_eq_false_iff_not, Nat.not_lt] at hp
        omega
      cases d' with
      | none =>
        simp only at h ⊢
        rcases h2 : Timed.run x s (some (min a (s + limit))) rt part with ⟨⟨w, f⟩ | _, rt1⟩ <;> rw [h2] at h
        · rw [Timed.run_later x part _ _ _ _ _ _ _ (noEarlier_some.mpr (Nat.min_le_right _ _)) h2]
          exact h
        · cases hp : pastDeadline (some a) (s + limit) <;> simp only [hp, Bool.false_eq_true, if_false] at h
          · rw [hown hp] at h2
            rw [h2]
            exact h
          · cases h
      | some b =>
        have hab := noEarlier_some.mp hd
        simp only at h ⊢
        rcases h2 : Timed.run x s (some (min a (s + limit))) rt part with ⟨⟨w, f⟩ | _, rt1⟩ <;> rw [h2] at h
        · rw [Timed.run_later x part _ _ _ _ _ _ _ (noEarlier_some.mpr (by omega)) h2]
          exact h
        · cases hp : pastDeadline (some a) (s + limit) <;> simp only [hp, Bool.false_eq_true, if_false] at h
          · have hb : min b (s + limit) = s + limit := by
              simp only [pastDeadline_some, decide_eq_false_iff_not, Nat.not_lt] at hp
              omega
            rw [hown hp] at h2
            rw [hb, h2]
            simp only [hd.not_past hp, Bool.false_eq_true, if_false]
            exact h
          · cases h
  | .retry attempts delay part, s, rt, d, d', v, e, rt', hd, h => by
    simp only [Timed.run] at h ⊢
    cases h1 : pastDeadline d s <;> simp [h1] at h
    simp only [hd.not_past h1, Bool.false_eq_true, if_false]
    exact retryLoop_later delay hd (fun h => Timed.run_later x part _ _ _ _ _ _ _ hd h) h
  | .memo cache ttl key part, s, rt, d, d', v, e, rt', hd, h => by
    simp only [Timed.run] at h ⊢
    cases h1 : pastDeadline d s <;> simp [h1] at h
    simp only [hd.not_past h1, Bool.false_eq_true, if_false]
    generalize (rt.cache cache).lookupAt ttl s (key x) = found at h ⊢
    rcases found with ⟨_ | w, c⟩ <;> simp only at h ⊢
    · -- nothing remembered: the part runs, and finishes the same way before either deadline
      rcases h2 : Timed.run x s d (rt.setCache cache c) part with ⟨⟨w, f⟩ | _, rt1⟩ <;> rw [h2] at h
      · rw [Timed.run_later x part _ _ _ _ _ _ _ hd h2]
        exact h
      · cases h
    · exact h

theorem Timed.runAll_later (x : α) :
    (ps : List (Timed σ α)) → ∀ (s : Nat) (rt : Runtime σ) (d d' : Option Nat) (v : Verdict) (e : Nat)
      (rt' : Runtime σ), NoEarlier d d' →
      Timed.runAll x s d rt ps = (.done v e, rt') → Timed.runAll x s d' rt ps = (.done v e, rt')
  | [], _, _, _, _, _, _, _, _, h => h
  | p :: ps, s, rt, d, d', v, e, rt', hd, h => by
    simp only [Timed.runAll] at h ⊢
    rcases h1 : Timed.run x s d rt p with ⟨⟨v1, e1⟩ | _, rt1⟩ <;> rw [h1] at h
    · rcases h2 : Timed.runAll x s d rt1 ps with ⟨⟨w, f⟩ | _, rt2⟩ <;> rw [h2] at h
      · rw [Timed.run_later x p _ _ _ _ _ _ _ hd h1]
        simp only
        rw [Timed.runAll_later x ps _ _ _ _ _ _ _ hd h2]
        exact h
      · cases h
    · cases h

theorem Timed.runFirst_later (x : α) :
    (ps : List (Timed σ α)) → ∀ (s : Nat) (rt : Runtime σ) (d d' : Option Nat) (v : Verdict) (e : Nat)
      (rt' : Runtime σ), NoEarlier d d' →
      Timed.runFirst x s d rt ps = (.done v e, rt') → Timed.runFirst x s d' rt ps = (.done v e, rt')
  | [], _, _, _, _, _, _, _, _, h => h
  | p :: ps, s, rt, d, d', v, e, rt', hd, h => by
    simp only [Timed.runFirst] at h ⊢
    rcases h1 : Timed.run x s d rt p with ⟨⟨v1, e1⟩ | _, rt1⟩ <;> rw [h1] at h
    · rw [Timed.run_later x p _ _ _ _ _ _ _ hd h1]
      simp only at h ⊢
      cases hv : v1.isValid <;> simp only [hv, Bool.false_eq_true, if_false, if_true] at h ⊢
      · exact h
      · exact Timed.runFirst_later x ps _ _ _ _ _ _ _ hd h
    · cases h

end

/-- A part that finishes within its time limit is answered as if no limit were set. -/
theorem Timed.check_timeout_of_done (x : α) (limit : Nat) (p : Timed σ α) (s : Nat) (rt : Runtime σ)
    {v : Verdict} {e : Nat} {rt' : Runtime σ} (h : p.run x s (some (s + limit)) rt = (.done v e, rt')) :
    (Timed.timeout limit p).check x s rt = p.check x s rt ∧ p.check x s rt = (v, e, rt') := by
  have hnone := Timed.run_later x p s rt _ none v e rt' (noEarlier_none _) h
  constructor
  · simp [Timed.check, Timed.run, h, hnone]
  · simp [Timed.check, hnone]

/-! ## All parts, or the first that finds issues -/

/-- One part of an `all`: checked from the common start with the runtime the parts before
it left; its issues come after theirs, and the finish is the later one. -/
def Timed.joinStep (x : α) (start : Nat) (acc : Verdict × Nat × Runtime σ) (p : Timed σ α) :
    Verdict × Nat × Runtime σ :=
  (acc.1.and (p.check x start acc.2.2).1, max acc.2.1 (p.check x start acc.2.2).2.1, (p.check x start acc.2.2).2.2)

/-- One part of a `first`: once a verdict has issues nothing more runs; until then each
part is checked from where the one before it finished. -/
def Timed.seqStep (x : α) (acc : Verdict × Nat × Runtime σ) (p : Timed σ α) : Verdict × Nat × Runtime σ :=
  if acc.1.isValid then p.check x acc.2.1 acc.2.2 else acc

/-- The right-nested run of an `all` is the left fold of `joinStep`, from any verdict and
any finish not before the start. -/
theorem Timed.runAll_foldl (x : α) (s : Nat) :
    ∀ (parts : List (Timed σ α)) (a : Verdict) (m : Nat) (rt : Runtime σ), s ≤ m →
      ∃ V E RT, s ≤ E ∧ Timed.runAll x s none rt parts = (.done V E, RT) ∧
        parts.foldl (Timed.joinStep x s) (a, m, rt) = (a.and V, max m E, RT)
  | [], a, m, rt, hm => ⟨.pass, s, rt, le_refl s, rfl, by simp [Verdict.and_pass, Nat.max_eq_left hm]⟩
  | p :: ps, a, m, rt, hm => by
    obtain ⟨V, E, RT, hE, hrun, hfold⟩ := Timed.runAll_foldl x s ps (a.and (p.check x s rt).1)
      (max m (p.check x s rt).2.1) (p.check x s rt).2.2 (le_trans hm (Nat.le_max_left _ _))
    refine ⟨(p.check x s rt).1.and V, max (p.check x s rt).2.1 E, RT, le_trans hE (Nat.le_max_right _ _), ?_, ?_⟩
    · simp only [Timed.runAll, Timed.run_none_eq, hrun]
    · rw [List.foldl_cons, Timed.joinStep, hfold, Verdict.and_assoc, Nat.max_assoc]

/-- Every part of an `all` runs, from the common start and in list order: the verdict is
their issues in order and the finish the latest one. -/
theorem Timed.check_all (x : α) (name : String) (parts : List (Timed σ α)) (s : Nat) (rt : Runtime σ) :
    (Timed.all name parts).check x s rt = parts.foldl (Timed.joinStep x s) (.pass, s, rt) := by
  obtain ⟨V, E, RT, hE, hrun, hfold⟩ := Timed.runAll_foldl x s parts .pass s rt (le_refl s)
  rw [hfold, Verdict.pass_and, Nat.max_eq_right hE]
  simp [Timed.check, Timed.run, hrun]

theorem Timed.foldl_seqStep_stuck (x : α) {acc : Verdict × Nat × Runtime σ} (h : acc.1.isValid = false) :
    ∀ parts : List (Timed σ α), parts.foldl (Timed.seqStep x) acc = acc
  | [] => rfl
  | p :: ps => by
    rw [List.foldl_cons, Timed.seqStep, if_neg (by simp [h])]
    exact Timed.foldl_seqStep_stuck x h ps

theorem Timed.runFirst_foldl (x : α) : ∀ (parts : List (Timed σ α)) (t : Nat) (rt : Runtime σ),
    Timed.runFirst x t none rt parts =
      (.done (parts.foldl (Timed.seqStep x) (.pass, t, rt)).1 (parts.foldl (Timed.seqStep x) (.pass, t, rt)).2.1,
        (parts.foldl (Timed.seqStep x) (.pass, t, rt)).2.2)
  | [], t, rt => rfl
  | p :: ps, t, rt => by
    have hstep : Timed.seqStep x (.pass, t, rt) p = p.check x t rt := if_pos rfl
    rw [Timed.runFirst, Timed.run_none_eq, List.foldl_cons, hstep]
    cases hv : (p.check x t rt).1.isValid
    · -- the part found issues: nothing after it runs
      simp [hv, Timed.foldl_seqStep_stuck x hv]
    · -- the part passed: its verdict is the passing one, and the rest run from its finish
      have hpass := Verdict.eq_pass_of_isValid hv
      simp only [hv, if_true]
      rw [Timed.runFirst_foldl x ps, ← hpass]

/-- The parts of a `first` run one after another, each from where the one before it
finished, until one finds issues: the verdict is the first one with issues, and no later
part runs; or the passing one. -/
theorem Timed.check_first (x : α) (name : String) (parts : List (Timed σ α)) (s : Nat) (rt : Runtime σ) :
    (Timed.first name parts).check x s rt = parts.foldl (Timed.seqStep x) (.pass, s, rt) := by
  simp [Timed.check, Timed.run, Timed.runFirst_foldl]

/-! ## Retrying a step -/

/-- A step that counts its runs in its world: run number `i` takes `took i` ms and finds
`found i`. -/
def Timed.counted (name : String) (took : Nat → Nat) (found : Nat → Verdict) : Timed Nat α :=
  .leaf name fun i _ => (i + 1, took (i + 1), found (i + 1))

section Counted

variable (x : α) (name : String) (took : Nat → Nat) (found : Nat → Verdict)

theorem Timed.run_counted (t w : Nat) (caches : List (Nat × MemoCache)) :
    (Timed.counted name took found).run x t none ⟨w, caches⟩ =
      (.done (found (w + 1)) (t + took (w + 1)), ⟨w + 1, caches⟩) := by
  simp [Timed.counted, Timed.run]

/-- Retrying a counted step after `w` runs: it runs up to `left + 1` more times and stops
at the first run that passes. -/
theorem retryLoop_counted (delay : Nat) (caches : List (Nat × MemoCache)) : ∀ (left t w : Nat), ∃ k e,
    w < k ∧ k ≤ w + left + 1 ∧ (∀ j, w < j → j < k → (found j).isValid = false) ∧
    ((found k).isValid = true ∨ k = w + left + 1) ∧
    retryLoop (fun t rt => (Timed.counted name took found).run x t none rt) none delay left t ⟨w, caches⟩ =
      (.done (found k) e, ⟨k, caches⟩)
  | 0, t, w => ⟨w + 1, _, by omega, by omega, fun j h1 h2 => by omega, .inr rfl,
      retryLoop_zero (Timed.run_counted x name took found t w caches)⟩
  | n + 1, t, w => by
    have hrun := Timed.run_counted x name took found t w caches
    cases hv : (found (w + 1)).isValid
    · -- the run failed: the loop goes on from the next run number
      obtain ⟨k, e, hlo, hhi, hfail, hend, hloop⟩ :=
        retryLoop_counted delay caches n (t + took (w + 1) + delay) (w + 1)
      refine ⟨k, e, by omega, by omega, fun j h1 h2 => ?_, hend.imp_right fun h => by omega, ?_⟩
      · by_cases hj : j = w + 1
        · exact hj ▸ hv
        · exact hfail j (by omega) h2
      · rw [retryLoop_succ n hrun, hv]
        simpa using hloop
    · exact ⟨w + 1, _, by omega, by omega, fun j h1 h2 => by omega, .inl hv,
        by rw [retryLoop_succ n hrun, hv]; rfl⟩

/-- Retrying a counted step runs it `k` times and answers the `k`-th run's verdict, where
`k` is the first run that passes, or the number of attempts (at least one) if none does
before. -/
theorem Timed.check_retry_counted (attempts delay s : Nat) (caches : List (Nat × MemoCache)) :
    ∃ k e, (Timed.retry attempts delay (Timed.counted name took found)).check x s ⟨0, caches⟩ =
        (found k, e, ⟨k, caches⟩) ∧
      1 ≤ k ∧ k ≤ max attempts 1 ∧ (∀ j, 1 ≤ j → j < k → (found j).isValid = false) ∧
      ((found k).isValid = true ∨ k = max attempts 1) := by
  obtain ⟨k, e, hlo, hhi, hfail, hend, hloop⟩ :=
    retryLoop_counted x name took found delay caches (max attempts 1 - 1) s 0
  have hmax : 1 ≤ max attempts 1 := Nat.le_max_right _ _
  refine ⟨k, e, ?_, hlo, by omega, fun j h1 h2 => hfail j h1 h2, hend.imp_right fun h => by omega⟩
  simp [Timed.check, Timed.run, hloop]

end Counted

/-! ## Rules that take no time, and the repository checks -/

section Instant

variable {β : Type} (x : α) (s : Nat) {d : Option Nat} (hd : pastDeadline d s = false) (rt : Runtime σ)
include hd

theorem Timed.run_lift (name : String) (rule : Rule α) :
    (Timed.lift name rule).run x s d rt = (.done (rule x) s, rt) := by
  simp [Timed.run, hd]

/-- Rules that take no time, all started at once, finish at once with their verdicts
combined in order. -/
theorem Timed.runAll_lifts (name : β → String) (rule : β → Rule α) :
    ∀ l : List β, Timed.runAll x s d rt (l.map fun q => .lift (name q) (rule q)) =
      (.done (Verdict.all (l.map fun q => rule q x)) s, rt)
  | [] => rfl
  | q :: l => by
    simp [Timed.runAll, Timed.run_lift x s hd, Timed.runAll_lifts name rule l, Verdict.all_cons]

end Instant

/-- A field rule, then constraints that take no time: under a time limit, the field
rule's verdict when it has issues, and otherwise the constraints' verdict. -/
theorem Timed.check_fields_first (x : α) (limit : Nat) (label fieldsName constraintsName : String)
    (fields : Rule α) (constraints : List (Timed σ α)) (verdict : Verdict) (s : Nat) (rt : Runtime σ)
    (hc : ∀ d, pastDeadline d s = false → Timed.runAll x s d rt constraints = (.done verdict s, rt)) :
    (Timed.timeout limit (.first label [.lift fieldsName fields, .all constraintsName constraints])).check x s rt =
      (if (fields x).isValid then verdict else fields x, s, rt) := by
  have hd : pastDeadline (some (s + limit)) s = false := by simp
  -- the field rule runs first; the constraints only when it passes
  have hinner : (Timed.first label [.lift fieldsName fields, .all constraintsName constraints]).run x s
      (some (s + limit)) rt = (.done (if (fields x).isValid then verdict else fields x) s, rt) := by
    simp only [Timed.run, hd, Bool.false_eq_true, if_false]
    simp only [Timed.runFirst, Timed.run_lift x s hd]
    cases hf : (fields x).isValid
    · rfl
    · simp only [if_true, Timed.run, hd, Bool.false_eq_true, if_false, hc _ hd]
      cases hv : verdict.isValid
      · rfl
      · simp only [if_true, Verdict.eq_pass_of_isValid hv]
  have ht := Timed.check_timeout_of_done x limit _ s rt hinner
  rw [ht.1, ht.2]

namespace Repo

/-- A repository check never times out, its rules taking no time. It answers the field
rule's verdict when that has issues, and otherwise the constraint rules' issues together,
in order. -/
theorem pipeline_check {ε : Type} (label : String) (fields : Rule (Proposed ε))
    (constraints : List (Rule (Proposed ε))) (limit : Nat) (p : Proposed ε) (s : Nat) (rt : Runtime Unit) :
    (pipeline label fields constraints limit).check p s rt =
      (if (fields p).isValid then Verdict.all (constraints.map fun c => c p) else fields p, s, rt) := by
  have hall : (constraints.zipIdx.map fun q => q.1 p) = constraints.map fun c => c p := by
    have h := congrArg (List.map fun c : Rule (Proposed ε) => c p) (List.zipIdx_map_fst 0 constraints)
    rw [List.map_map] at h
    exact h
  rw [pipeline]
  apply Timed.check_fields_first
  intro d hd
  have hlifts := Timed.runAll_lifts p s hd rt
    (fun q : Rule (Proposed ε) × Nat => label ++ ".constraint" ++ toString q.2) (fun q => q.1) constraints.zipIdx
  rw [hall] at hlifts
  exact hlifts

end Repo

/-- The timed combinators with no deadline over them, for every part, value, start and
runtime. An `all` runs every part from the common start in list order and answers their
issues in order (`joinStep`). A `first` runs the parts one after another until one finds
issues and answers that one's verdict, running nothing after it, or passes
(`seqStep`). A retried step whose `i`-th run finds `found i` runs exactly `k` times and
answers `found k`, `k` being the first run that passes or `max attempts 1`, whichever
comes first. A part that finishes within its time limit is answered as without the
limit. A repository check answers the field rule's issues when it has any, and otherwise
every constraint rule's issues in order. -/
theorem timed_combinators_compose {σ α ε : Type} :
    (∀ (x : α) (name : String) (parts : List (Timed σ α)) (s : Nat) (rt : Runtime σ),
      (Timed.all name parts).check x s rt = parts.foldl (Timed.joinStep x s) (.pass, s, rt)) ∧
    (∀ (x : α) (name : String) (parts : List (Timed σ α)) (s : Nat) (rt : Runtime σ),
      (Timed.first name parts).check x s rt = parts.foldl (Timed.seqStep x) (.pass, s, rt)) ∧
    (∀ (x : α) (name : String) (took : Nat → Nat) (found : Nat → Verdict) (attempts delay s : Nat)
      (caches : List (Nat × MemoCache)),
      ∃ k e, (Timed.retry attempts delay (Timed.counted name took found)).check x s ⟨0, caches⟩ =
          (found k, e, ⟨k, caches⟩) ∧
        1 ≤ k ∧ k ≤ max attempts 1 ∧ (∀ j, 1 ≤ j → j < k → (found j).isValid = false) ∧
        ((found k).isValid = true ∨ k = max attempts 1)) ∧
    (∀ (x : α) (limit : Nat) (p : Timed σ α) (s : Nat) (rt : Runtime σ) (v : Verdict) (e : Nat) (rt' : Runtime σ),
      p.run x s (some (s + limit)) rt = (.done v e, rt') → (Timed.timeout limit p).check x s rt = p.check x s rt) ∧
    ∀ (label : String) (fields : Rule (Proposed ε)) (constraints : List (Rule (Proposed ε))) (limit : Nat)
      (p : Proposed ε) (s : Nat) (rt : Runtime Unit),
      (Repo.pipeline label fields constraints limit).check p s rt =
        (if (fields p).isValid then Verdict.all (constraints.map fun c => c p) else fields p, s, rt) :=
  ⟨Timed.check_all, Timed.check_first, Timed.check_retry_counted,
    fun x limit p s rt _ _ _ h => (Timed.check_timeout_of_done x limit p s rt h).1, Repo.pipeline_check⟩

end DocStore
