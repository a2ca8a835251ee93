import DocStore.Proofs.Migration.Run
import DocStore.Store.Lifecycle
import Mathlib.Data.List.Chain
/-
  DocStore.Proofs.Migration.Plan — a plan says what a migration run does.

  A plan and a run decide by separate code: the plan compares the document's version with
  the target and looks for a path; the run validates, skips, looks for the same path, and
  applies it. `Follows d t p o` says how a run of `d` to `t` may end under the plan `p`:
  nothing to do is a skip; no path is the run's own "no migration path" failure; a path
  ends in a success that reports the path's names, or in a failure of another kind, met while
  applying, checking or saving. A run of a valid document follows its plan
  (`run_follows_plan`).

  Proved (`plan_describes_run`): over any store whose loaded document is valid and any
  registry built by registrations, for every target and run options, the plan is "no action"
  exactly when migrating skips, and "incompatible" exactly when migrating fails for want of a
  path from the document's version to the target. A required plan lists a non-empty chain of
  registered migrations from the document's version to the target, each migration step
  estimating at least one unit of work; a successful run reports exactly its names. Planning
  writes nothing: it leaves the store as loading it does.
-/

namespace DocStore

/-! ## Migration steps estimate some work -/

namespace Migration

/-- The migrations `Migration.step` builds, with any of its builders applied after. -/
inductive IsStep : Migration → Prop
  | step (name : String) (source target : Nat) (transform : Document → StepRun) :
      IsStep (Migration.step name source target transform)
  | describe {m : Migration} (text : String) : IsStep m → IsStep (m.describe text)
  | markReversible {m : Migration} (r : Bool) : IsStep m → IsStep (m.markReversible r)
  | withPrecondition {m : Migration} (p : Document → Bool) : IsStep m → IsStep (m.withPrecondition p)
  | withEstimate {m : Migration} (e : Document → Nat) : IsStep m → IsStep (m.withEstimate e)

/-- A migration step estimates at least one unit of work on every document. -/
theorem IsStep.estimate_pos {m : Migration} (h : m.IsStep) (d : Document) : 1 ≤ m.estimate d := by
  induction h with
  | step => exact Nat.le_refl 1
  | describe _ _ ih => exact ih
  | markReversible _ _ ih => exact ih
  | withPrecondition _ _ ih => exact ih
  | withEstimate e _ _ => exact Nat.le_max_left 1 (e d)

end Migration

/-! ## Chains read step by step -/

namespace Registry

/-- A non-empty chain starts at its first version, each migration starts where the one before
it ended, and it ends at its last version. -/
theorem IsChain.links {r : Registry} :
    ∀ {c : List Migration} {a b : Nat}, r.IsChain a c b → c ≠ [] →
      c.head?.map (·.source) = some a ∧ c.IsChain (fun x y => x.target = y.source) ∧
        c.getLast?.map (·.target) = some b
  | [], _, _, _, hne => absurd rfl hne
  | [m], _, _, hc, _ => by
    obtain ⟨-, hs, hend⟩ := hc
    exact ⟨by simp [hs], List.IsChain.singleton m, by simpa using hend⟩
  | m :: m' :: c, _, _, hc, _ => by
    obtain ⟨-, hs, hrest⟩ := hc
    obtain ⟨hhead, hlinks, hlast⟩ := IsChain.links hrest (List.cons_ne_nil m' c)
    simp only [List.head?_cons, Option.map_some, Option.some.injEq] at hhead
    refine ⟨by simp [hs], List.isChain_cons_cons.mpr ⟨hhead.symm, hlinks⟩, ?_⟩
    rw [List.getLast?_cons_cons]
    exact hlast

end Registry

/-! ## The errors of a run -/

/-- Whether an error says that no migration path exists. -/
def StoreError.missingPath : StoreError → Bool
  | .migrationNotFound _ _ => true
  | _ => false

namespace Vault

variable {now : Instant} {v w : Vault} {d : Document} {e : StoreError}

theorem applyStep_error {i n : Nat} {m : Migration} (h : ((applyStep i n m d).run v).1 = .error e) :
    e.missingPath = false := by
  unfold applyStep at h
  split at h
  · cases h
    rfl
  · simp only [state_bind] at h
    split at h
    · cases h
      rfl
    · cases h
      rfl
    · split at h
      · cases h
      · cases h
        rfl

/-- Applying a path fails only in one of its steps, never for want of a path. -/
theorem applyFrom_error {total : Nat} {l : List (Migration × Nat)}
    (h : ((applyFrom total l d).run v).1 = .error e) : e.missingPath = false := by
  induction l generalizing d v with
  | nil => cases h
  | cons x l ih =>
    obtain ⟨m, i⟩ := x
    rw [applyFrom, state_bind] at h
    cases hs : ((applyStep i total m d).run v).1 with
    | error e' =>
      rw [hs] at h
      cases h
      exact applyStep_error hs
    | ok d₁ =>
      rw [hs] at h
      exact ih h

/-- Saving fails only on a document that does not validate, or on a failed write. -/
theorem save_error (h : ((save now d).run.run v).1 = .error e) : e.missingPath = false := by
  by_cases hv : d.validate.isValid = true
  · simp only [Vault.save, hv, Bool.not_true, Bool.false_eq_true, if_false] at h
    rw [op_bind_ok _ (op_get v), op_bind_ok _ (op_liftM _ v)] at h
    generalize (onBlobs (Blobs.put v.config.documentKey (Document.encode { d with lastModified := now }))).run v = r at h
    obtain ⟨_ | u, w₁⟩ := r
    · cases h
      rfl
    · cases h
  · simp only [Vault.save, hv, Bool.not_false, if_true] at h
    rw [op_bind_error (x := throw (StoreError.validationFailure d.validate.issues)) _ rfl] at h
    cases h
    rfl

/-! ## A run follows its plan -/

/-- How a run of `d` to `t` may end under the plan `p`. -/
def Follows (d : Document) (t : Nat) : MigrationPlan → MigrationOutcome → Prop
  | .noAction, o => o = .skipped d.version
  | .incompatible _, o => o = .failure (.migrationNotFound d.version t)
  | .required steps, .success rep => rep.steps = steps.map (·.name)
  | .required _, .failure e => e.missingPath = false
  | .required _, .skipped _ => False

/-- A run of a valid document ends as its plan says. -/
theorem run_follows_plan (now : Instant) (d : Document) (opts : RunOptions) (v : Vault)
    (hv : d.validate.isValid = true) :
    Follows d opts.target (v.plan d opts.target) ((run now d opts).run v).1 := by
  unfold Vault.run
  extract_lets source versions finish verdict
  -- the run once its validation, if it made one, passed: over the same migrations
  have hfinish : ∀ w : Vault, w.registry = v.registry →
      Follows d opts.target (v.plan d opts.target) ((finish ()).run w).1 := by
    intro w hw
    dsimp -zeta only [finish]
    split
    · -- at the target: the plan has nothing to do, and the run skips
      rename_i ht
      have ht' : d.version = opts.target := by simpa [source] using ht
      have hplan : v.plan d opts.target = .noAction := by simp [Vault.plan, ht']
      rw [hplan, state_bind, setProgress_run]
      rfl
    · rename_i ht
      have ht' : d.version ≠ opts.target := by simpa [source] using ht
      rw [state_bind, state_get]
      dsimp -zeta only
      extract_lets path afterBackup
      have hpath : path = v.registry.findPath d.version opts.target := by rw [← hw]
      split
      · -- no path: the plan says so, and the run fails for it
        rename_i hnil
        have hp : v.registry.findPath d.version opts.target = [] := by rw [← hpath]; simpa using hnil
        rw [failRun_run]
        simp [Vault.plan, ht', hp, Follows, source]
      · rename_i hne
        have hp : v.registry.findPath d.version opts.target ≠ [] := by rw [← hpath]; simpa using hne
        rw [show v.plan d opts.target = .required (path.map fun m =>
            ⟨m.name, m.description, m.source, m.target, m.reversible, m.estimate d⟩) by
          simp [Vault.plan, ht', hp, hpath]]
        -- once the backup is settled, the path is applied, checked and saved
        have hafter : ∀ b w', Follows d opts.target (.required (path.map fun m =>
            ⟨m.name, m.description, m.source, m.target, m.reversible, m.estimate d⟩)) ((afterBackup b).run w').1 := by
          intro b w'
          dsimp -zeta only [afterBackup]
          rw [state_bind, applyPath_eq]
          cases happ : ((applyFrom path.length path.zipIdx d).run w').1 with
          | error e =>
            rw [failRun_run]
            exact applyFrom_error happ
          | ok dn =>
            dsimp only
            rw [state_bind, setProgress_run]
            split
            · rw [failRun_run]
              rfl
            · rw [state_bind]
              split
              · rename_i e hs
                rw [failRun_run]
                exact save_error hs
              · rw [state_bind, record_run, state_bind, setProgress_run]
                show path.map (·.name) = (path.map _).map PlannedStep.name
                rw [List.map_map]
                rfl
        split
        · rw [state_bind, setProgress_run, state_bind]
          split <;> exact hafter _ _
        · exact hafter _ _
  split
  · rw [state_bind, setProgress_run]
    split
    · rename_i hinv
      simp [verdict, hv] at hinv
    · exact hfinish _ rfl
  · exact hfinish v rfl


/-! ## Loading writes nothing -/

end Vault

/-- A file step whose two halves keep the store keeps it. -/
theorem FileBlobs.keeps_bind {x : FileOp α} {k : α → FileOp β} (hx : ∀ f, (x.run.run f).2 = f)
    (hk : ∀ a f, ((k a).run.run f).2 = f) (f : FileBlobs) : ((x >>= k).run.run f).2 = f := by
  have hxf := hx f
  revert hxf
  simp only [ExceptT.run_bind, StateT.run_bind]
  rcases x.run.run f with ⟨_ | a, g⟩
  · intro h
    exact h
  · intro h
    simp only at h
    subst h
    exact hk a _

theorem FileBlobs.get_keeps (key : String) (f : FileBlobs) : ((FileBlobs.get key).run.run f).2 = f := by
  unfold FileBlobs.get
  -- the key check, the two reads of the store and the answer on the read bytes
  refine keeps_bind ?_ (fun _ => keeps_bind (fun _ => rfl) fun _ =>
    keeps_bind (fun _ => rfl) fun r g => ?_) f
  · intro g
    unfold Blob.checkKey
    split <;> rfl
  · split <;> rfl

/-- Reading a blob changes no store, in memory or on files. -/
theorem Blobs.get_keeps (key : String) (b : Blobs) : ((Blobs.get key).run.run b).2 = b := by
  cases b with
  | memory m => rw [Blobs.get_memory]
  | files f =>
    show Blobs.files ((FileBlobs.get key).run.run f).2 = _
    rw [FileBlobs.get_keeps]

namespace Vault

theorem raw_state (v : Vault) : (raw.run.run v).2 = v := by
  rw [raw, op_bind_ok _ (op_get v), op_bind_ok _ (op_liftM _ v), onBlobs_run, Blobs.get_keeps]
  dsimp only
  split <;> rfl

theorem readStored_state (now : Instant) (v : Vault) : ((readStored now).run.run v).2 = v := by
  have hraw : raw.run.run v = ((raw.run.run v).1, v) := Prod.ext rfl (raw_state v)
  rw [readStored]
  cases hr : (raw.run.run v).1 with
  | error e =>
    rw [hr] at hraw
    rw [op_bind_error _ hraw]
  | ok bytes =>
    rw [hr] at hraw
    rw [op_bind_ok _ hraw]
    cases bytes with
    | none => rfl
    | some b =>
      dsimp only
      cases decode now b <;> rfl

/-- Loading writes nothing: at most it caches and publishes what it read. -/
theorem load_frame (now : Instant) (v : Vault) :
    ∃ c p, ((load now).run.run v).2 = { v with cache := c, published := p } := by
  cases hc : v.cache with
  | some d =>
    rw [load_cached d hc]
    exact ⟨v.cache, v.published, rfl⟩
  | none =>
    have hread : (readStored now).run.run v = (((readStored now).run.run v).1, v) :=
      Prod.ext rfl (readStored_state now v)
    rw [load, op_bind_ok _ (op_get v), hc]
    dsimp only
    rw [op_bind_ok _ (op_get v)]
    cases hr : ((readStored now).run.run v).1 with
    | error e =>
      rw [hr] at hread
      rw [op_bind_error _ hread]
      exact ⟨v.cache, v.published, rfl⟩
    | ok stored =>
      rw [hr] at hread
      rw [op_bind_ok _ hread]
      cases stored with
      | none => exact ⟨v.cache, v.published, rfl⟩
      | some d =>
        dsimp only
        by_cases hv : d.validate.isValid = true
        · simp only [hv, Bool.not_true, Bool.false_eq_true, if_false]
          exact ⟨some d, some d, rfl⟩
        · simp only [hv, Bool.not_false, if_true]
          exact ⟨v.cache, v.published, rfl⟩


/-! ## The plan against the run -/

/-- A migration plan describes exactly what a run does. Take any store whose loaded document
`D` is valid, a registry built by registrations, and any run options with target `t`.
Planning answers the plan and leaves the store as loading it does, which writes nothing but
the cache and what observers see. The plan is "no action" exactly when migrating skips, and
"incompatible" exactly when migrating fails with no migration path from `D.version` to `t`.
A required plan is non-empty, starts at `D.version`, chains each step's target to the next
step's source, and ends at `t`; a step whose registered migration is a migration step
estimates at least one unit of work; a successful migration reports exactly the plan's
names, in order. -/
theorem plan_describes_run (now : Instant) (opts : RunOptions) (v w : Vault) (D : Document)
    (hr : v.registry.Built) (hD : D.validate.isValid = true) (hload : (load now).run.run v = (.ok D, w)) :
    let p := v.plan D opts.target
    let o := ((migrate now opts).run v).1
    (planFor now (some opts.target)).run.run v = (.ok p, w) ∧
      (∃ c q, w = { v with cache := c, published := q }) ∧
      (p = .noAction ↔ ∃ s, o = .skipped s) ∧
      ((∃ reason, p = .incompatible reason) ↔ o = .failure (.migrationNotFound D.version opts.target)) ∧
      ∀ steps, p = .required steps →
        steps ≠ [] ∧ steps.head?.map (·.source) = some D.version ∧
        steps.IsChain (fun a b => a.target = b.source) ∧ steps.getLast?.map (·.target) = some opts.target ∧
        (∀ s ∈ steps, ∀ m, v.registry.get s.source s.target = some m → m.IsStep → 1 ≤ s.estimate) ∧
        ∀ rep, o = .success rep → rep.steps = steps.map (·.name) := by
  intro p o
  obtain ⟨c, q, hw⟩ := load_frame now v
  rw [hload] at hw
  dsimp only at hw
  have hplan : (planFor now (some opts.target)).run.run v = (.ok p, w) := by
    rw [planFor, op_bind_ok _ hload, op_bind_ok _ (op_get w), hw]
    rfl
  -- migrating runs the loaded document over the same migrations, so it follows the plan
  have hfollow : Follows D opts.target p o := by
    have ho : o = ((run now D opts).run w).1 := by
      show ((migrate now opts).run v).1 = _
      rw [migrate, state_bind, hload]
    rw [ho, hw]
    -- loading kept the migrations, so the plan over the loaded store is the same
    exact run_follows_plan now D opts { v with cache := c, published := q } hD
  refine ⟨hplan, ⟨c, q, hw⟩, ⟨fun hp => ⟨_, by rw [hp] at hfollow; exact hfollow⟩, ?_⟩,
    ⟨fun ⟨_, hp⟩ => by rw [hp] at hfollow; exact hfollow, ?_⟩, fun steps hsteps => ?_⟩
  · -- a skip is what the plan allows only when it has nothing to do
    rintro ⟨s, hs⟩
    cases hp : p with
    | noAction => rfl
    | incompatible _ => rw [hp, hs] at hfollow; cases hfollow
    | required _ => rw [hp, hs] at hfollow; cases hfollow
  · -- the run's missing-path failure is what the plan allows only when it finds no path
    intro hs
    cases hp : p with
    | noAction => rw [hp, hs] at hfollow; cases hfollow
    | incompatible reason => exact ⟨reason, rfl⟩
    | required _ => rw [hp, hs] at hfollow; cases hfollow
  · -- a required plan lists the path the registry finds
    have hdef := hsteps
    simp only [p, Vault.plan] at hdef
    split at hdef
    · cases hdef
    · split at hdef
      · cases hdef
      · rename_i hne
        cases hdef
        have hne' : v.registry.findPath D.version opts.target ≠ [] := by simpa using hne
        have hchain := Registry.isChain_findPath hr.ordered hne'
        obtain ⟨hhead, hlinks, hlast⟩ := hchain.links hne'
        refine ⟨by simpa using hne', ?_, ?_, ?_, fun s hs m hm hstep => ?_, fun rep hrep => ?_⟩
        · rw [List.head?_map, Option.map_map]
          exact hhead
        · rw [List.isChain_map]
          exact hlinks
        · rw [List.getLast?_map, Option.map_map]
          exact hlast
        · -- one migration per pair, so the registered one is the path's
          obtain ⟨m₀, hm₀, rfl⟩ := List.mem_map.mp hs
          rw [Registry.get_of_mem hr.ordered (hchain.mem hm₀)] at hm
          cases hm
          exact hstep.estimate_pos D
        · rw [hsteps, hrep] at hfollow
          exact hfollow

/-- One registered migration from 1 to 2 over a fresh cached document: planning and migrating
to 2 agree on whether there is anything to do. -/
theorem fresh_document_plan_agrees :
    let D := Document.fresh Instant.epoch
    let r : Registry := ⟨[Registry.bump "m1_2" 1 2]⟩
    let v : Vault := { Vault.create (.memory {}) r {} with cache := some D }
    r.Built ∧ D.validate.isValid = true ∧ (load Instant.epoch).run.run v = (.ok D, v) ∧
      (planFor Instant.epoch (some 2)).run.run v = (.ok (v.plan D 2), v) ∧
      (v.plan D 2 = .noAction ↔ ∃ s, ((migrate Instant.epoch ⟨2, false, false⟩).run v).1 = .skipped s) := by
  intro D r v
  have hr : r.Built := .register .empty (rfl : ({} : Registry).register (Registry.bump "m1_2" 1 2) = .ok r)
  have hD : D.validate.isValid = true := by decide
  have hload : (load Instant.epoch).run.run v = (.ok D, v) := load_cached D rfl
  obtain ⟨hplan, -, hskip, -⟩ := plan_describes_run Instant.epoch ⟨2, false, false⟩ v v D hr hD hload
  exact ⟨hr, hD, hload, hplan, hskip⟩

end Vault

end DocStore
