import DocStore.Proofs.Migration.Run
/-
  DocStore.Proofs.Migration.Observed — what a migration or a rollback shows while it runs and
  what it logs, against how it ends.

  A vault keeps every progress value it has shown. `Trail v w ps es` says that from `v` to
  `w` it showed the values `ps` and logged the entries `es`, in order, and kept its
  migrations; trails compose. Reading, saving and the byte store's steps are `Silent`: they
  show nothing and log nothing. Showing a value and logging an entry are the only other
  primitive steps, and every way a run or a rollback ends is one of them or both.

  A step of a path shows only values of its own index while it migrates
  (`applyStep_shows`), so a path applied step by step shows its steps in order
  (`applyFrom_shows`).

  Proved (`migration_shows_and_logs`): for a run of a given document (as at start-up), a run
  of the loaded document, and a rollback, the states shown follow the order of a run, each
  appears exactly when the run got that far, and the last one shown and the single log
  entry (none for a skip) agree with how the call ended.
-/

namespace DocStore

namespace ProgressChannel

@[simp] theorem shown_send (c : ProgressChannel) (p : Progress) : (c.send p).shown = c.shown ++ [p] := by
  simp [send, shown]

/-- A reader sees the last value shown. -/
theorem latest_eq (c : ProgressChannel) : c.latest = c.shown.getLast?.getD {} := by
  unfold latest shown
  cases c.newestFirst <;> simp

end ProgressChannel

/-! ## What a call may show and log -/

/-- The state a run shows last, by how it ended. -/
def MigrationOutcome.endState : MigrationOutcome → RunState
  | .success _ => .completed
  | .skipped _ => .skipped
  | .failure _ => .failed

/-- Whether a run ended in success; a skip is not one. -/
def MigrationOutcome.succeeded : MigrationOutcome → Bool
  | .success _ => true
  | _ => false

/-- The state a rollback shows last, by how it ended. -/
def RollbackOutcome.endState : RollbackOutcome → RunState
  | .restored _ => .completed
  | .failure _ => .failed

def RollbackOutcome.succeeded : RollbackOutcome → Bool
  | .restored _ => true
  | .failure _ => false

/-- The order of the states one migration call shows: it may validate first; then it skips,
or fails, or may take a backup, shows its steps, may validate the result, and completes or
fails. -/
def RunOrder (states : List RunState) : Prop :=
  ∃ (validates : Bool) (rest : List RunState), states = (if validates then [.validating] else []) ++ rest ∧
    (rest = [.skipped] ∨ rest = [.failed] ∨
      ∃ (backs checks : Bool) (k : Nat) (last : RunState), (last = .completed ∨ last = .failed) ∧
        rest = (if backs then [.backingUp] else []) ++ List.replicate k .migrating ++
          (if checks then [.finalValidating] else []) ++ [last])

/-- A run of `d` got as far as looking for its path, and found one: `d` passed validation if
that was asked for, was not at the target, and a path leads from it to the target. -/
def PathFound (opts : RunOptions) (reg : Registry) (d : Document) : Prop :=
  ((opts.forceValidation || decide (d.version < opts.target)) = true → d.validate.isValid = true) ∧
    d.version ≠ opts.target ∧ reg.findPath d.version opts.target ≠ []

/-- What one migration call showed (`ps`) and logged (`es`), in order, against how it ended
(`o`). `loaded` is the document it ran on (none when reading it failed), `reg` its migrations.
A state is shown exactly when the run got that far; the steps are shown in order, each at an
index of the path; the last state shown and the one entry logged (none for a skip) say how the
run ended. -/
structure RunAgrees (opts : RunOptions) (reg : Registry) (loaded : Option Document)
    (ps : List Progress) (es : List LogEntry) (o : MigrationOutcome) : Prop where
  order : RunOrder (ps.map (·.state))
  validating : .validating ∈ ps.map (·.state) ↔
    ∃ d, loaded = some d ∧ (opts.forceValidation || decide (d.version < opts.target)) = true
  backingUp : .backingUp ∈ ps.map (·.state) ↔ opts.createBackup = true ∧ ∃ d, loaded = some d ∧ PathFound opts reg d
  steps : ∀ p ∈ ps, p.state = .migrating → ∃ d, loaded = some d ∧
    p.stepIndex < p.totalSteps ∧ p.totalSteps = (reg.findPath d.version opts.target).length
  stepsOrdered : ps.Pairwise fun p q => p.state = .migrating → q.state = .migrating → p.stepIndex ≤ q.stepIndex
  last : ps.getLast?.map (·.state) = some o.endState
  logged : es.length = if o.endState = .skipped then 0 else 1
  entry : ∀ e ∈ es, e.success = o.succeeded ∧ e.operation = .migrate ∧ e.toVersion = opts.target ∧
    e.fromVersion = loaded.map (·.version)

/-- What one rollback showed and logged, against how it ended: a failure before it chose its
backup, or a restore it began and then finished or gave up; one entry either way. -/
structure RollbackAgrees (ps : List Progress) (es : List LogEntry) (o : RollbackOutcome) : Prop where
  order : ps.map (·.state) = [.failed] ∨ ps.map (·.state) = [.validating, o.endState]
  last : ps.getLast?.map (·.state) = some o.endState
  logged : es.length = 1
  entry : ∀ e ∈ es, e.success = o.succeeded ∧ e.operation = .rollback

namespace RunAgrees

variable {opts : RunOptions} {reg : Registry} {d : Document} {pre bs ms tail : List Progress} {p : Progress}
  {e : LogEntry} {o : MigrationOutcome}

/-- Values whose states are listed without a step are no steps. -/
theorem not_migrating {l : List Progress} {xs : List RunState} (h : l.map (·.state) = xs) (hx : .migrating ∉ xs) :
    ∀ q ∈ l, q.state ≠ .migrating :=
  fun q hq hs => hx (h ▸ List.mem_map.mpr ⟨q, hq, hs⟩)

/-- Steps in order, with no other step around them, are shown in order. -/
theorem stepsOrdered_append {xs ys : List Progress} (hx : ∀ q ∈ xs, q.state ≠ .migrating)
    (hms : ms.Pairwise fun p q => p.stepIndex ≤ q.stepIndex) (hy : ∀ q ∈ ys, q.state ≠ .migrating) :
    (xs ++ ms ++ ys).Pairwise fun p q => p.state = .migrating → q.state = .migrating → p.stepIndex ≤ q.stepIndex := by
  refine List.pairwise_append.mpr ⟨List.pairwise_append.mpr ⟨?_, hms.imp fun h _ _ => h, ?_⟩, ?_, ?_⟩
  · exact List.pairwise_of_forall_mem_list fun q hq _ _ h => absurd h (hx q hq)
  · exact fun q hq _ _ h => absurd h (hx q hq)
  · exact List.pairwise_of_forall_mem_list fun _ _ q hq _ h => absurd h (hy q hq)
  · exact fun _ _ q hq _ h => absurd h (hy q hq)

theorem mem_optional_iff {s : RunState} {b : Bool} {rest : List RunState} (h : s ∉ rest) :
    s ∈ (if b then [s] else []) ++ rest ↔ b = true := by
  cases b <;> simp [h]

/-- A run at its target skips, after validating when it was asked to. -/
theorem skip (hpre : pre.map (·.state) =
      if (opts.forceValidation || decide (d.version < opts.target)) then [.validating] else [])
    (ht : d.version = opts.target) (hp : p.state = .skipped) :
    RunAgrees opts reg (some d) (pre ++ [p]) [] (.skipped d.version) := by
  have hs : (pre ++ [p]).map (·.state) =
      (if (opts.forceValidation || decide (d.version < opts.target)) then [.validating] else []) ++ [.skipped] := by
    rw [List.map_append, hpre, List.map_singleton, hp]
  have hno : ∀ q ∈ pre ++ [p], q.state ≠ .migrating := not_migrating hs (by split <;> simp)
  refine ⟨⟨_, _, hs, .inl rfl⟩, ?_, ?_, fun q hq h => absurd h (hno q hq),
    List.pairwise_of_forall_mem_list fun q hq _ _ h => absurd h (hno q hq), by simp [hp, MigrationOutcome.endState],
    rfl, fun _ h => nomatch h⟩
  · rw [hs, mem_optional_iff (by simp)]
    simp
  · rw [hs]
    simp [PathFound, ht]

/-- A run that fails before its steps (its document failed validation, or no path leads to the
target) shows the failure right after its validation. -/
theorem early (hpre : pre.map (·.state) =
      if (opts.forceValidation || decide (d.version < opts.target)) then [.validating] else [])
    (hnf : ¬PathFound opts reg d) (hp : p.state = .failed)
    (he : e.success = false ∧ e.operation = .migrate ∧ e.toVersion = opts.target ∧ e.fromVersion = some d.version)
    (err : StoreError) : RunAgrees opts reg (some d) (pre ++ [p]) [e] (.failure err) := by
  have hs : (pre ++ [p]).map (·.state) =
      (if (opts.forceValidation || decide (d.version < opts.target)) then [.validating] else []) ++ [.failed] := by
    rw [List.map_append, hpre, List.map_singleton, hp]
  have hno : ∀ q ∈ pre ++ [p], q.state ≠ .migrating := not_migrating hs (by split <;> simp)
  refine ⟨⟨_, _, hs, .inr (.inl rfl)⟩, ?_, ?_, fun q hq h => absurd h (hno q hq),
    List.pairwise_of_forall_mem_list fun q hq _ _ h => absurd h (hno q hq), by simp [hp, MigrationOutcome.endState],
    rfl, fun e' he' => ?_⟩
  · rw [hs, mem_optional_iff (by simp)]
    simp
  · rw [hs]
    simp [hnf]
  · rw [List.mem_singleton.mp he']
    exact he

/-- A run that found its path shows its backup when it takes one, its steps in order, and then
its end, after validating the result when every step went through. -/
theorem stepped (hpre : pre.map (·.state) =
      if (opts.forceValidation || decide (d.version < opts.target)) then [.validating] else [])
    (hf : PathFound opts reg d) (hbs : bs.map (·.state) = if opts.createBackup then [.backingUp] else [])
    (hms : ∀ q ∈ ms, q.state = .migrating ∧ q.stepIndex < q.totalSteps ∧
      q.totalSteps = (reg.findPath d.version opts.target).length)
    (hord : ms.Pairwise fun p q => p.stepIndex ≤ q.stepIndex) (checks : Bool)
    (htail : tail.map (·.state) = (if checks then [.finalValidating] else []) ++ [o.endState])
    (hend : o.endState = .completed ∨ o.endState = .failed)
    (he : e.success = o.succeeded ∧ e.operation = .migrate ∧ e.toVersion = opts.target ∧
      e.fromVersion = some d.version) :
    RunAgrees opts reg (some d) (pre ++ bs ++ ms ++ tail) [e] o := by
  have hmstates : ms.map (·.state) = List.replicate ms.length .migrating := by
    refine List.eq_replicate_iff.mpr ⟨List.length_map _, fun s hs => ?_⟩
    obtain ⟨q, hq, rfl⟩ := List.mem_map.mp hs
    exact (hms q hq).1
  set rest : List RunState := (if opts.createBackup then [.backingUp] else []) ++ List.replicate ms.length .migrating ++
    (if checks then [.finalValidating] else []) ++ [o.endState] with hrest
  have hs : (pre ++ bs ++ ms ++ tail).map (·.state) =
      (if (opts.forceValidation || decide (d.version < opts.target)) then [.validating] else []) ++ rest := by
    simp only [List.map_append, hpre, hbs, hmstates, htail, hrest, List.append_assoc]
  -- only the values of `ms` are steps
  have hfirst : ∀ q ∈ pre ++ bs, q.state ≠ .migrating :=
    not_migrating (by rw [List.map_append, hpre, hbs]) (by split <;> split <;> simp)
  have hlast : ∀ q ∈ tail, q.state ≠ .migrating :=
    not_migrating htail (by rcases hend with h | h <;> split <;> simp [h])
  refine ⟨⟨_, _, hs, .inr (.inr ⟨_, _, _, _, hend, rfl⟩)⟩, ?_, ?_, fun q hq h => ?_,
    stepsOrdered_append hfirst hord hlast, ?_, ?_, fun e' he' => ?_⟩
  · rw [hs, mem_optional_iff (by rcases hend with h | h <;> simp [hrest, h, List.mem_replicate])]
    simp
  · rw [hs, hrest]
    cases opts.createBackup <;> cases checks <;> rcases hend with h | h <;> simp [h, hf, List.mem_replicate]
  · rcases List.mem_append.mp hq with hq | hq
    · rcases List.mem_append.mp hq with hq | hq
      · exact absurd h (hfirst q hq)
      · exact ⟨d, rfl, (hms q hq).2⟩
    · exact absurd h (hlast q hq)
  · rw [← List.getLast?_map, hs]
    simp [hrest]
  · rcases hend with h | h <;> simp [h]
  · rw [List.mem_singleton.mp he']
    exact he

/-- A call that could not read its document fails at once. -/
theorem unloaded (hp : p.state = .failed)
    (he : e.success = false ∧ e.operation = .migrate ∧ e.toVersion = opts.target ∧ e.fromVersion = none)
    (err : StoreError) : RunAgrees opts reg none [p] [e] (.failure err) := by
  have hs : [p].map (·.state) = (if false then [.validating] else []) ++ [.failed] := by simp [hp]
  refine ⟨⟨false, _, hs, .inr (.inl rfl)⟩, by simp [hp], by simp [hp], fun q hq h => ?_, List.pairwise_singleton _ _,
    by simp [hp, MigrationOutcome.endState], rfl, fun e' he' => ?_⟩
  · rw [List.mem_singleton.mp hq, hp] at h
    cases h
  · rw [List.mem_singleton.mp he']
    exact he

end RunAgrees

namespace RollbackAgrees

variable {p q : Progress} {e : LogEntry} {o : RollbackOutcome}

/-- A rollback that could not choose its backup fails at once. -/
theorem unchosen (hp : p.state = .failed) (he : e.success = false ∧ e.operation = .rollback) (err : StoreError) :
    RollbackAgrees [p] [e] (.failure err) :=
  ⟨.inl (by simp [hp]), by simp [hp, RollbackOutcome.endState], rfl, fun e' he' => by
    rw [List.mem_singleton.mp he']
    exact he⟩

/-- A rollback that began its restore shows it, then how it ended. -/
theorem begun (hp : p.state = .validating) (hq : q.state = o.endState)
    (he : e.success = o.succeeded ∧ e.operation = .rollback) : RollbackAgrees [p, q] [e] o :=
  ⟨.inr (by simp [hp, hq]), by simp [hq], rfl, fun e' he' => by
    rw [List.mem_singleton.mp he']
    exact he⟩

end RollbackAgrees

namespace Vault

variable {u v w : Vault} {ps qs : List Progress} {es fs : List LogEntry} {now : Instant}

/-! ## Trails -/

/-- From `v` to `w` a vault showed the values `ps` and logged the entries `es`, in order, and
kept its migrations. -/
structure Trail (v w : Vault) (ps : List Progress) (es : List LogEntry) : Prop where
  shown : w.progress.shown = v.progress.shown ++ ps
  history : w.history = es.foldl History.push v.history
  registry : w.registry = v.registry

theorem Trail.of_eq (hp : w.progress = v.progress) (hh : w.history = v.history) (hr : w.registry = v.registry) :
    Trail v w [] [] :=
  ⟨by rw [hp, List.append_nil], hh, hr⟩

theorem Trail.refl (v : Vault) : Trail v v [] [] := Trail.of_eq rfl rfl rfl

theorem Trail.trans (h₁ : Trail u v ps es) (h₂ : Trail v w qs fs) : Trail u w (ps ++ qs) (es ++ fs) :=
  ⟨by rw [h₂.shown, h₁.shown, List.append_assoc], by rw [h₂.history, h₁.history, List.foldl_append],
    h₂.registry.trans h₁.registry⟩

/-- The last value a vault shows after a trail that showed something is that trail's last. -/
theorem Trail.latest (h : Trail v w ps es) {p : Progress} (hp : ps.getLast? = some p) : w.progress.latest = p := by
  rw [ProgressChannel.latest_eq, h.shown, List.getLast?_append, hp]
  rfl

theorem Trail.latest_state (h : Trail v w ps es) {s : RunState} (hs : ps.getLast?.map (·.state) = some s) :
    w.progress.latest.state = s := by
  obtain ⟨p, hp, rfl⟩ := Option.map_eq_some_iff.mp hs
  rw [h.latest hp]

theorem trail_setProgress (s : RunState) (i n : Nat) (desc : String) (v : Vault) :
    Trail v ((setProgress s i n desc).run v).2 [⟨s, i, n, desc⟩] [] := by
  rw [setProgress_run]
  exact ⟨ProgressChannel.shown_send _ _, rfl, rfl⟩

theorem trail_record (e : LogEntry) (v : Vault) : Trail v ((record e).run v).2 [] [e] := by
  rw [record_run]
  exact ⟨(List.append_nil _).symm, rfl, rfl⟩

/-- A failed run shows that it failed and logs the failure. -/
theorem trail_failRun (vs : Option Nat × Nat) (b : Option String) (e : StoreError) (v : Vault) :
    Trail v ((failRun now vs b e).run v).2 [⟨.failed, 0, 0, e.userMessage⟩]
      [.ofRun now vs false b (some e.message) .migrate] := by
  rw [failRun_run]
  exact ⟨ProgressChannel.shown_send _ _, rfl, rfl⟩

theorem trail_failRollback (src : Option Nat) (b : Option String) (e : StoreError) (v : Vault) :
    Trail v ((failRollback now src b e).run v).2 [⟨.failed, 0, 0, e.userMessage⟩]
      [.ofRun now (src, src.getD 0) false b (some e.message) .rollback] := by
  rw [failRollback_run]
  exact ⟨ProgressChannel.shown_send _ _, rfl, rfl⟩

/-! ## Steps that show and log nothing -/

/-- A step that shows nothing, logs nothing and keeps the migrations. -/
def Silent (x : StateM Vault α) : Prop := ∀ v, Trail v (x.run v).2 [] []

namespace Silent

theorem pure (a : α) : Silent (Pure.pure a : StateM Vault α) := Trail.refl

theorem bind {x : StateM Vault α} {f : α → StateM Vault β} (hx : Silent x) (hf : ∀ a, Silent (f a)) :
    Silent (x >>= f) := fun v => (hx v).trans (hf _ _)

theorem onBlobs (op : BlobOp α) : Silent (Vault.onBlobs op) := by
  intro v
  rw [onBlobs_run]
  exact Trail.of_eq rfl rfl rfl

section Except

variable {ε : Type}

theorem except_pure (a : α) : Silent (Pure.pure a : ExceptT ε (StateM Vault) α).run := Trail.refl

theorem throw (e : ε) : Silent (MonadExcept.throw e : ExceptT ε (StateM Vault) α).run := Trail.refl

theorem except_get : Silent (MonadState.get : ExceptT ε (StateM Vault) Vault).run := Trail.refl

theorem lift {x : StateM Vault α} (hx : Silent x) : Silent (liftM x : ExceptT ε (StateM Vault) α).run := hx

theorem except_bind {x : ExceptT ε (StateM Vault) α} {f : α → ExceptT ε (StateM Vault) β} (hx : Silent x.run)
    (hf : ∀ a, Silent (f a).run) : Silent (x >>= f).run := by
  rw [ExceptT.run_bind]
  refine bind hx fun r => ?_
  cases r with
  | error e => exact pure _
  | ok a => exact hf a

end Except

end Silent

theorem silent_raw : Silent raw.run := by
  unfold raw
  refine Silent.except_bind Silent.except_get fun v' => ?_
  refine Silent.except_bind (Silent.lift (Silent.onBlobs _)) fun r => ?_
  cases r with
  | ok bytes => exact Silent.except_pure _
  | error e => exact Silent.throw _

theorem silent_publish (d : Document) : Silent (publish d).run := fun _ => Trail.of_eq rfl rfl rfl

theorem silent_load (now : Instant) : Silent (load now).run := by
  unfold load
  refine Silent.except_bind Silent.except_get fun v' => ?_
  split
  · exact Silent.except_pure _
  · refine Silent.except_bind Silent.except_get fun v'' => ?_
    refine Silent.except_bind ?_ fun stored => ?_
    · unfold readStored
      refine Silent.except_bind silent_raw fun bytes => ?_
      cases bytes with
      | none => exact Silent.except_pure _
      | some b =>
        refine Silent.except_bind ?_ fun d => Silent.except_pure _
        cases decode now b with
        | ok d => exact Silent.except_pure _
        | error e => exact Silent.throw _
    · cases stored with
      | none => exact Silent.throw _
      | some d =>
        dsimp only
        have hpub : Silent (publish d >>= fun _ => pure d : VaultOp Document).run :=
          Silent.except_bind (silent_publish d) fun _ => Silent.except_pure _
        split
        · exact Silent.except_bind (Silent.throw _) fun _ => hpub
        · exact hpub

theorem silent_save (now : Instant) (d : Document) : Silent (save now d).run := by
  unfold save
  extract_lets verdict stamped write
  -- the write after the check, whatever the check gave
  have hwrite : ∀ u, Silent (write u).run := by
    intro u
    dsimp -zeta only [write]
    refine Silent.except_bind Silent.except_get fun v' => ?_
    refine Silent.except_bind (Silent.lift (Silent.onBlobs _)) fun r => ?_
    cases r with
    | error e => exact Silent.throw _
    | ok u => exact Silent.except_bind (silent_publish _) fun _ => Silent.except_pure _
  split
  · exact Silent.except_bind (Silent.throw _) hwrite
  · exact hwrite ()

theorem silent_reload (now : Instant) : Silent (reload now).run :=
  Silent.except_bind (fun _ => Trail.of_eq rfl rfl rfl) fun _ => silent_load now

theorem silent_restoreRaw (bytes : Option String) : Silent (restoreRaw bytes).run := by
  unfold restoreRaw
  refine Silent.except_bind Silent.except_get fun v' => ?_
  extract_lets key finish
  have hfinish : ∀ r, Silent (finish r).run := by
    intro r
    dsimp -zeta only [finish]
    refine Silent.except_bind (fun _ => Trail.of_eq rfl rfl rfl) fun _ => ?_
    cases r with
    | ok u => exact Silent.except_pure _
    | error e => exact Silent.throw _
  cases bytes <;> exact Silent.except_bind (Silent.lift (Silent.onBlobs _)) hfinish

theorem silent_defaultBackup : Silent defaultBackup.run := by
  unfold defaultBackup
  refine Silent.except_bind (Silent.lift (Silent.onBlobs _)) fun r => ?_
  extract_lets choose
  have hchoose : ∀ available, Silent (choose available).run := by
    intro available
    dsimp -zeta only [choose]
    refine Silent.except_bind Silent.except_get fun v' => ?_
    dsimp only
    split <;> exact Silent.except_pure _
  cases r with
  | ok names => exact Silent.except_bind (Silent.except_pure _) hchoose
  | error e => exact Silent.except_bind (Silent.throw _) hchoose

/-! ## The steps of a path -/

/-- `x` logs nothing, keeps the migrations, and every value it shows satisfies `P`. -/
def ShowsOnly (P : Progress → Prop) (x : StateM Vault α) : Prop :=
  ∀ v, ∃ ps, Trail v (x.run v).2 ps [] ∧ ∀ p ∈ ps, P p

namespace ShowsOnly

variable {P : Progress → Prop}

theorem pure (a : α) : ShowsOnly P (Pure.pure a : StateM Vault α) :=
  fun v => ⟨[], Trail.refl v, fun _ h => nomatch h⟩

theorem bind {x : StateM Vault α} {f : α → StateM Vault β} (hx : ShowsOnly P x) (hf : ∀ a, ShowsOnly P (f a)) :
    ShowsOnly P (x >>= f) := by
  intro v
  obtain ⟨ps, hps, hP⟩ := hx v
  obtain ⟨qs, hqs, hQ⟩ := hf (x.run v).1 (x.run v).2
  refine ⟨ps ++ qs, hps.trans hqs, fun p hp => ?_⟩
  rcases List.mem_append.mp hp with hp | hp
  · exact hP p hp
  · exact hQ p hp

theorem setProgress {s : RunState} {i n : Nat} {desc : String} (h : P ⟨s, i, n, desc⟩) :
    ShowsOnly P (Vault.setProgress s i n desc) :=
  fun v => ⟨_, trail_setProgress s i n desc v, fun p hp => by rw [List.mem_singleton.mp hp]; exact h⟩

theorem forIn {l : List α} {b : β} {f : α → β → StateM Vault (ForInStep β)} (hf : ∀ a b, ShowsOnly P (f a b)) :
    ShowsOnly P (forIn l b f) := by
  induction l generalizing b with
  | nil => exact pure b
  | cons a l ih =>
    rw [List.forIn_cons]
    refine bind (hf a b) fun r => ?_
    cases r with
    | done b' => exact pure b'
    | yield b' => exact ih

end ShowsOnly

/-- The values step `i` of `n` shows while it migrates. -/
def MigratingAt (i n : Nat) (p : Progress) : Prop := p.state = .migrating ∧ p.stepIndex = i ∧ p.totalSteps = n

/-- A step shows that it migrates, and then each report of its migration, all at its own index. -/
theorem applyStep_shows (i n : Nat) (m : Migration) (d : Document) : ShowsOnly (MigratingAt i n) (applyStep i n m d) := by
  unfold applyStep
  split
  · exact .pure _
  · refine .bind (.setProgress ⟨rfl, rfl, rfl⟩) fun _ => ?_
    refine .bind (.forIn fun _ _ => .bind (.setProgress ⟨rfl, rfl, rfl⟩) fun _ => .pure _) fun _ => ?_
    split
    · exact .pure _
    · exact .pure _
    · simp only
      split <;> exact .pure _

/-- Steps applied in the order of their indices show migrating values only, of those indices,
in order. -/
theorem applyFrom_shows (n : Nat) (d : Document) (v : Vault) :
    ∀ (l : List (Migration × Nat)), (l.map Prod.snd).Pairwise (· ≤ ·) →
      ∃ ps, Trail v ((applyFrom n l d).run v).2 ps [] ∧
        (∀ p ∈ ps, p.state = .migrating ∧ p.totalSteps = n ∧ p.stepIndex ∈ l.map Prod.snd) ∧
        ps.Pairwise fun p q => p.stepIndex ≤ q.stepIndex
  | [], _ => ⟨[], Trail.refl v, (fun _ h => nomatch h), .nil⟩
  | (m, i) :: rest, hl => by
    rw [List.map_cons, List.pairwise_cons] at hl
    rw [applyFrom, state_bind]
    -- the step itself shows values at index `i` only
    obtain ⟨ps, hps, hat⟩ := applyStep_shows i n m d v
    have hfirst : ∀ p ∈ ps, p.state = .migrating ∧ p.totalSteps = n ∧ p.stepIndex ∈ ((m, i) :: rest).map Prod.snd :=
      fun p hp => ⟨(hat p hp).1, (hat p hp).2.2, by simp [(hat p hp).2.1]⟩
    have hsame : ps.Pairwise fun p q => p.stepIndex ≤ q.stepIndex :=
      List.pairwise_of_forall_mem_list fun p hp q hq => by rw [(hat p hp).2.1, (hat q hq).2.1]
    cases ((applyStep i n m d).run v).1 with
    | error e => exact ⟨ps, hps, hfirst, hsame⟩
    | ok d' =>
      -- the rest shows later indices, each at least `i`
      obtain ⟨qs, hqs, hlater, hord⟩ := applyFrom_shows n d' _ rest hl.2
      refine ⟨ps ++ qs, hps.trans hqs, fun p hp => ?_, ?_⟩
      · rcases List.mem_append.mp hp with hp | hp
        · exact hfirst p hp
        · obtain ⟨h₁, h₂, h₃⟩ := hlater p hp
          exact ⟨h₁, h₂, List.mem_cons_of_mem _ h₃⟩
      · refine List.pairwise_append.mpr ⟨hsame, hord, fun p hp q hq => ?_⟩
        rw [(hat p hp).2.1]
        exact hl.1 _ (hlater q hq).2.2

/-! ## Runs -/

/-- A run of `d` shows and logs what `RunAgrees` allows: this is the run a migration makes of
the loaded document, and the one start-up makes of the stored one. -/
theorem run_agrees (now : Instant) (d : Document) (opts : RunOptions) (v : Vault) :
    ∃ ps es, Trail v ((run now d opts).run v).2 ps es ∧
      RunAgrees opts v.registry (some d) ps es ((run now d opts).run v).1 := by
  unfold Vault.run
  extract_lets source versions finish verdict
  -- the run once its validation, if it made one, passed: from a vault that showed `pre`
  have hfinish : ∀ w pre, Trail v w pre [] →
      pre.map (·.state) = (if (opts.forceValidation || decide (d.version < opts.target)) then [.validating] else []) →
      ((opts.forceValidation || decide (d.version < opts.target)) = true → d.validate.isValid = true) →
      ∃ ps es, Trail v ((finish ()).run w).2 ps es ∧
        RunAgrees opts v.registry (some d) ps es ((finish ()).run w).1 := by
    intro w pre hw hpre hvalid
    dsimp -zeta only [finish]
    split
    · -- already at the target
      rename_i ht
      rw [state_bind]
      exact ⟨_, _, hw.trans (trail_setProgress _ _ _ _ w), RunAgrees.skip hpre (by simpa using ht) rfl⟩
    · rename_i ht
      rw [state_bind, state_get]
      dsimp -zeta only
      extract_lets path afterBackup
      have hpath : path = v.registry.findPath d.version opts.target := by
        rw [← hw.registry]
      split
      · -- no path: the run fails before its steps
        rename_i hnil
        refine ⟨_, _, hw.trans (trail_failRun _ _ _ w), RunAgrees.early hpre ?_ rfl ⟨rfl, rfl, rfl, rfl⟩ _⟩
        exact fun hf => hf.2.2 (by rw [← hpath]; simpa using hnil)
      · rename_i hne
        have hfound : PathFound opts v.registry d :=
          ⟨hvalid, by simpa using ht, by rw [← hpath]; simpa using hne⟩
        -- once the backup is settled, from a vault that showed `pre` and the backup
        have hafter : ∀ b bs w', Trail v w' (pre ++ bs) [] →
            bs.map (·.state) = (if opts.createBackup then [.backingUp] else []) →
            ∃ ps es, Trail v ((afterBackup b).run w').2 ps es ∧
              RunAgrees opts v.registry (some d) ps es ((afterBackup b).run w').1 := by
          intro b bs w' hw' hbs
          dsimp -zeta only [afterBackup]
          rw [state_bind, applyPath_eq]
          obtain ⟨ms, hms, hmig, hord⟩ := applyFrom_shows path.length d w' path.zipIdx
            (by rw [List.zipIdx_map_snd]; exact List.Pairwise.imp Nat.le_of_lt List.pairwise_lt_range')
          have hsteps : ∀ q ∈ ms, q.state = .migrating ∧ q.stepIndex < q.totalSteps ∧
              q.totalSteps = (v.registry.findPath d.version opts.target).length := by
            intro q hq
            obtain ⟨h₁, h₂, h₃⟩ := hmig q hq
            rw [List.zipIdx_map_snd, List.mem_range'_1] at h₃
            exact ⟨h₁, by omega, by rw [h₂, hpath]⟩
          have hms' := hw'.trans hms
          cases ((applyFrom path.length path.zipIdx d).run w').1 with
          | error e =>
            exact ⟨_, _, hms'.trans (trail_failRun _ _ _ _),
              RunAgrees.stepped hpre hfound hbs hsteps hord false rfl (.inr rfl) ⟨rfl, rfl, rfl, rfl⟩⟩
          | ok dn =>
            dsimp only
            rw [state_bind]
            have hfv := trail_setProgress .finalValidating path.length path.length "validating result"
              ((applyFrom path.length path.zipIdx d).run w').2
            split
            · exact ⟨_, _, hms'.trans (hfv.trans (trail_failRun _ _ _ _)),
                RunAgrees.stepped hpre hfound hbs hsteps hord true rfl (.inr rfl) ⟨rfl, rfl, rfl, rfl⟩⟩
            · rw [state_bind]
              have hsave := silent_save now dn (setProgress .finalValidating path.length path.length
                "validating result" |>.run ((applyFrom path.length path.zipIdx d).run w').2).2
              split
              · exact ⟨_, _, hms'.trans (hfv.trans (hsave.trans (trail_failRun _ _ _ _))),
                  RunAgrees.stepped hpre hfound hbs hsteps hord true rfl (.inr rfl) ⟨rfl, rfl, rfl, rfl⟩⟩
              · rw [state_bind, state_bind]
                exact ⟨_, _, hms'.trans (hfv.trans (hsave.trans ((trail_record _ _).trans (trail_setProgress _ _ _ _ _)))),
                  RunAgrees.stepped hpre hfound hbs hsteps hord true rfl (.inl rfl) ⟨rfl, rfl, rfl, rfl⟩⟩
        split
        · -- a backup first; a failed one only leaves the run without one
          rename_i hcb
          rw [state_bind, state_bind]
          have hbk := (trail_setProgress .backingUp 0 path.length "creating backup" w).trans
            (Silent.onBlobs (Blobs.createBackup now) _)
          have hbs : ([⟨.backingUp, 0, path.length, "creating backup"⟩] ++ [] : List Progress).map (·.state) =
              if opts.createBackup then [.backingUp] else [] := by
            simp [hcb]
          split
          · exact hafter _ _ _ (hw.trans hbk) hbs
          · exact hafter _ _ _ (hw.trans hbk) hbs
        · rename_i hcb
          exact hafter none [] w (by simpa using hw) (by simp [hcb])
  split
  · -- validating first
    rename_i hV
    have hV' : (opts.forceValidation || decide (d.version < opts.target)) = true := hV
    rw [state_bind]
    have hval := trail_setProgress .validating 0 0 "validating current document" v
    split
    · rename_i hinv
      refine ⟨_, _, hval.trans (trail_failRun _ _ _ _), RunAgrees.early (by simp [hV']) ?_ rfl ⟨rfl, rfl, rfl, rfl⟩ _⟩
      intro hf
      have hvalid : d.validate.isValid = true := hf.1 hV'
      simp [verdict, hvalid] at hinv
    · rename_i hok
      exact hfinish _ _ hval (by simp [hV']) fun _ => by simpa [verdict] using hok
  · rename_i hV
    have hV' : ¬(opts.forceValidation || decide (d.version < opts.target)) = true := hV
    exact hfinish v [] (Trail.refl v) (by simp [hV']) fun h => absurd h hV'
/-- A migration of the loaded document shows and logs what `RunAgrees` allows; when the
document cannot be read it fails at once, with no version to log. -/
theorem migrate_agrees (now : Instant) (opts : RunOptions) (v : Vault) :
    ∃ ps es, Trail v ((migrate now opts).run v).2 ps es ∧
      RunAgrees opts v.registry ((load now).run.run v).1.toOption ps es ((migrate now opts).run v).1 := by
  unfold migrate
  rw [state_bind]
  have hl := silent_load now v
  cases ((load now).run.run v).1 with
  | error e => exact ⟨_, _, hl.trans (trail_failRun _ _ _ _), RunAgrees.unloaded rfl ⟨rfl, rfl, rfl, rfl⟩ _⟩
  | ok d =>
    -- reading shows and logs nothing, and keeps the migrations the run looks its path up in
    obtain ⟨ps, es, htr, hag⟩ := run_agrees now d opts ((load now).run.run v).2
    rw [hl.registry] at hag
    exact ⟨ps, es, hl.trans htr, hag⟩

theorem rollback_agrees (now : Instant) (backup : Option String) (v : Vault) :
    ∃ ps es, Trail v ((rollback now backup).run v).2 ps es ∧ RollbackAgrees ps es ((rollback now backup).run v).1 := by
  unfold rollback
  extract_lets restore
  -- the restore of a chosen backup, from any vault
  have hrestore : ∀ name w, ∃ ps es, Trail w ((restore name).run w).2 ps es ∧
      RollbackAgrees ps es ((restore name).run w).1 := by
    intro name w
    dsimp -zeta only [restore]
    rw [state_bind, state_bind]
    have hval := trail_setProgress .validating 0 1 ("restoring " ++ name) w
    have hraw := hval.trans (silent_raw _)
    split
    · rw [state_bind, state_pure]
      dsimp -zeta only
      rw [state_bind]
      have hrb := hraw.trans (Silent.onBlobs (Blobs.restoreBackup name) _)
      split
      · rw [state_bind]
        have hrl := hrb.trans (silent_reload now _)
        split
        · -- the backup does not load: the previous bytes are put back
          rw [state_bind, state_bind]
          exact ⟨_, _, hrl.trans ((silent_restoreRaw _ _).trans ((silent_load now _).trans (trail_failRollback _ _ _ _))),
            RollbackAgrees.begun rfl rfl ⟨rfl, rfl⟩⟩
        · rw [state_bind, state_bind]
          exact ⟨_, _, hrl.trans ((trail_record _ _).trans (trail_setProgress _ _ _ _ _)),
            RollbackAgrees.begun rfl rfl ⟨rfl, rfl⟩⟩
      · exact ⟨_, _, hrb.trans (trail_failRollback _ _ _ _), RollbackAgrees.begun rfl rfl ⟨rfl, rfl⟩⟩
      · exact ⟨_, _, hrb.trans (trail_failRollback _ _ _ _), RollbackAgrees.begun rfl rfl ⟨rfl, rfl⟩⟩
    · exact ⟨_, _, hraw.trans (trail_failRollback _ _ _ _), RollbackAgrees.begun rfl rfl ⟨rfl, rfl⟩⟩
  cases backup with
  | some n => exact hrestore n v
  | none =>
    dsimp only
    rw [state_bind]
    have hdb := silent_defaultBackup v
    split
    · obtain ⟨ps, es, h, hag⟩ := hrestore _ (defaultBackup.run.run v).2
      exact ⟨ps, es, hdb.trans h, hag⟩
    · exact ⟨_, _, hdb.trans (trail_failRollback _ _ _ _), RollbackAgrees.unchosen rfl ⟨rfl, rfl⟩ _⟩
    · exact ⟨_, _, hdb.trans (trail_failRollback _ _ _ _), RollbackAgrees.unchosen rfl ⟨rfl, rfl⟩ _⟩
/-- One migration call, of a given document (as at start-up) or of the loaded one, shows its
states in the order of a run, each exactly when the run got that far, its steps in order at
indices of its path, and last the state that says how it ended, which is what a reader then
sees; it logs one entry that says the same, none for a skip; and no run is in progress once it
returns. A rollback shows that it began a restore when it chose a backup, then how it ended,
and logs one entry. -/
theorem migration_shows_and_logs (now : Instant) (opts : RunOptions) (v : Vault) :
    (∀ d, let r := (run now d opts).run v
      ∃ ps es, Trail v r.2 ps es ∧ RunAgrees opts v.registry (some d) ps es r.1 ∧
        r.2.progress.latest.state = r.1.endState ∧ r.2.isMigrating = false) ∧
    (let r := (migrate now opts).run v
      ∃ ps es, Trail v r.2 ps es ∧ RunAgrees opts v.registry ((load now).run.run v).1.toOption ps es r.1 ∧
        r.2.progress.latest.state = r.1.endState ∧ r.2.isMigrating = false) ∧
    ∀ backup, let r := (rollback now backup).run v
      ∃ ps es, Trail v r.2 ps es ∧ RollbackAgrees ps es r.1 ∧
        r.2.progress.latest.state = r.1.endState ∧ r.2.isMigrating = false := by
  refine ⟨fun d => ?_, ?_, fun backup => ?_⟩
  · obtain ⟨ps, es, h, hag⟩ := run_agrees now d opts v
    exact ⟨ps, es, h, hag, h.latest_state hag.last, rfl⟩
  · obtain ⟨ps, es, h, hag⟩ := migrate_agrees now opts v
    exact ⟨ps, es, h, hag, h.latest_state hag.last, rfl⟩
  · obtain ⟨ps, es, h, hag⟩ := rollback_agrees now backup v
    exact ⟨ps, es, h, hag, h.latest_state hag.last, rfl⟩

end Vault

end DocStore
