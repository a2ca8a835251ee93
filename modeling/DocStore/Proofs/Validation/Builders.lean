import DocStore.Proofs.Validation.WellFormed
/-
  DocStore.Proofs.Validation.Builders — validators as the builder calls assemble them.

  A validator is started empty and grows by four calls: `rule` registers a check,
  `ruleIf` a check under a guard, `withRule` a rule built beforehand, and `extend` every
  rule of another validator after its own. A rule is a plain check, a rule under a guard
  (`Rule.when`), two rules joined (`Rule.both`), or a whole validator used as one rule
  (`Validator.toRule`). `RuleTerm` and `ValidatorTerm` are these calls as syntax, nested
  to any depth, and `build` makes them the rules and validators they stand for.

  `issues` reads a term's issues off its shape: a guarded rule reports nothing when its
  guard fails, two joined rules report the first one's issues then the second's, and a
  validator reports its rules' issues in the order they were registered (`registered`).
  Proved:
  - `build_rules`: a built validator holds the registered rules, in order;
  - `RuleTerm.build_issues`, `ValidatorTerm.validate_issues`: running what a term builds
    reports exactly its `issues`, at every depth;
  - `validate_collects_in_order`: validating concatenates the registered rules' issues,
    passes exactly when every rule does, and `Verdict.and` is a monoid, so how the fold
    groups the verdicts changes nothing (`Verdict.all_flatten`).
-/

namespace DocStore

mutual

/-- A rule as the builder calls put it together. -/
inductive RuleTerm (α : Type) where
  | plain (check : Rule α)
  /-- The rule, skipped when the guard fails. -/
  | guarded (rule : RuleTerm α) (guard : α → Bool)
  /-- Both rules, the first one's issues first. -/
  | both (first second : RuleTerm α)
  /-- A whole validator used as one rule. -/
  | nested (validator : ValidatorTerm α)

/-- A validator as the builder calls put it together, from the empty one. -/
inductive ValidatorTerm (α : Type) where
  | empty
  | rule (validator : ValidatorTerm α) (check : Rule α)
  | ruleIf (validator : ValidatorTerm α) (guard : α → Bool) (check : Rule α)
  | withRule (validator : ValidatorTerm α) (rule : RuleTerm α)
  | extend (validator other : ValidatorTerm α)

end

variable {α : Type}

mutual

/-- The rule a term stands for. -/
def RuleTerm.build : RuleTerm α → Rule α
  | .plain c => c
  | .guarded r g => r.build.when g
  | .both r s => r.build.both s.build
  | .nested v => v.build.toRule

/-- The validator a term stands for. -/
def ValidatorTerm.build : ValidatorTerm α → Validator α
  | .empty => {}
  | .rule v c => v.build.rule c
  | .ruleIf v g c => v.build.ruleIf g c
  | .withRule v r => v.build.rule r.build
  | .extend v w => v.build.extend w.build

end

mutual

/-- The issues a rule term reports on `x`, read off its shape. -/
def RuleTerm.issues (x : α) : RuleTerm α → List Issue
  | .plain c => (c x).issues
  | .guarded r g => if g x then r.issues x else []
  | .both r s => r.issues x ++ s.issues x
  | .nested v => v.issues x

/-- The issues a validator term reports on `x`: its rules', in registration order. -/
def ValidatorTerm.issues (x : α) : ValidatorTerm α → List Issue
  | .empty => []
  | .rule v c => v.issues x ++ (c x).issues
  | .ruleIf v g c => v.issues x ++ if g x then (c x).issues else []
  | .withRule v r => v.issues x ++ r.issues x
  | .extend v w => v.issues x ++ w.issues x

end

/-- The rules a validator term registers, in the order of the calls. -/
def ValidatorTerm.registered : ValidatorTerm α → List (RuleTerm α)
  | .empty => []
  | .rule v c => v.registered ++ [.plain c]
  | .ruleIf v g c => v.registered ++ [.guarded (.plain c) g]
  | .withRule v r => v.registered ++ [r]
  | .extend v w => v.registered ++ w.registered

/-! ## Folding verdicts -/

namespace Verdict

theorem ext_issues {v w : Verdict} (h : v.issues = w.issues) : v = w := by
  cases v
  cases w
  cases h
  rfl

theorem all_append (vs ws : List Verdict) : all (vs ++ ws) = (all vs).and (all ws) :=
  ext_issues (by simp [all_issues, Verdict.and])

theorem all_cons (v : Verdict) (vs : List Verdict) : all (v :: vs) = v.and (all vs) := by
  rw [← List.singleton_append, all_append]
  rfl

/-- A verdict without issues is the passing one. -/
theorem eq_pass_of_isValid {v : Verdict} (h : v.isValid = true) : v = pass :=
  ext_issues ((isValid_iff v).mp h)

/-- Folding groups of verdicts, then the groups' verdicts, is folding them all at once. -/
theorem all_flatten (vss : List (List Verdict)) : all (vss.map all) = all vss.flatten := by
  induction vss with
  | nil => rfl
  | cons vs vss ih =>
    -- the group `vs` folds to one verdict, which a fold of one passes through
    rw [List.map_cons, List.flatten_cons, all_append, ← ih, ← List.singleton_append, all_append]
    rfl

end Verdict

theorem Validator.validate_issues (v : Validator α) (x : α) :
    (v.validate x).issues = v.rules.flatMap fun r => (r x).issues := by
  simp [validate, Verdict.all_issues, List.flatMap_map]

/-! ## What a term builds -/

namespace ValidatorTerm

theorem build_rules : (v : ValidatorTerm α) → v.build.rules = v.registered.map RuleTerm.build
  | .empty => rfl
  | .rule v c => by simp [build, registered, build_rules v, RuleTerm.build]
  | .ruleIf v g c => by simp [build, registered, build_rules v, Validator.ruleIf, RuleTerm.build]
  | .withRule v r => by simp [build, registered, build_rules v]
  | .extend v w => by simp [build, registered, build_rules v, build_rules w]

theorem issues_registered (x : α) : (v : ValidatorTerm α) → v.issues x = v.registered.flatMap (·.issues x)
  | .empty => rfl
  | .rule v c => by simp [issues, registered, issues_registered x v, RuleTerm.issues]
  | .ruleIf v g c => by simp [issues, registered, issues_registered x v, RuleTerm.issues]
  | .withRule v r => by simp [issues, registered, issues_registered x v]
  | .extend v w => by simp [issues, registered, issues_registered x v, issues_registered x w]

end ValidatorTerm

-- One recursion over both kinds of term: a nested validator is checked by the
-- validator lemma, and a validator's `withRule` by the rule lemma.
mutual

theorem RuleTerm.build_issues (x : α) : (r : RuleTerm α) → (r.build x).issues = r.issues x
  | .plain _ => rfl
  | .guarded r g => by
    by_cases hg : g x = true
    · simp [RuleTerm.build, RuleTerm.issues, Rule.when, hg, RuleTerm.build_issues x r]
    · simp [RuleTerm.build, RuleTerm.issues, Rule.when, hg, Verdict.pass]
  | .both r s => by
    simp [RuleTerm.build, RuleTerm.issues, Rule.both, Verdict.and, RuleTerm.build_issues x r,
      RuleTerm.build_issues x s]
  | .nested v => by
    simp [RuleTerm.build, RuleTerm.issues, Validator.toRule, ValidatorTerm.validate_issues x v]

theorem ValidatorTerm.validate_issues (x : α) : (v : ValidatorTerm α) → (v.build.validate x).issues = v.issues x
  | .empty => rfl
  | .rule v c => by
    simp [ValidatorTerm.build, ValidatorTerm.issues, Validator.validate_issues,
      ← ValidatorTerm.validate_issues x v]
  | .ruleIf v g c => by
    by_cases hg : g x = true
    · simp [ValidatorTerm.build, ValidatorTerm.issues, Validator.validate_issues, Validator.ruleIf, Rule.when,
        hg, ← ValidatorTerm.validate_issues x v]
    · simp [ValidatorTerm.build, ValidatorTerm.issues, Validator.validate_issues, Validator.ruleIf, Rule.when,
        hg, Verdict.pass, ← ValidatorTerm.validate_issues x v]
  | .withRule v r => by
    simp [ValidatorTerm.build, ValidatorTerm.issues, Validator.validate_issues,
      ← ValidatorTerm.validate_issues x v, RuleTerm.build_issues x r]
  | .extend v w => by
    simp [ValidatorTerm.build, ValidatorTerm.issues, Validator.validate_issues,
      ← ValidatorTerm.validate_issues x v, ← ValidatorTerm.validate_issues x w]

end

/-- Every validator the builder calls assemble, nested to any depth, and every value. The
validator holds the registered rules in order, and validating reports their issues one
rule after another; each rule reports what its shape says (a guarded rule nothing when
its guard fails, two joined rules both in order, a nested validator its own registered
rules' issues in order). Validating passes exactly when every registered rule passes.
Combining verdicts is associative with the passing verdict as unit, so the fold over
them does not depend on how they are grouped. -/
theorem validate_collects_in_order (v : ValidatorTerm α) (x : α) :
    v.build.rules = v.registered.map RuleTerm.build ∧
    (v.build.validate x).issues = v.registered.flatMap (fun r => (r.build x).issues) ∧
    (∀ r ∈ v.registered, (r.build x).issues = r.issues x) ∧
    (∀ w : ValidatorTerm α, w.issues x = w.registered.flatMap (·.issues x)) ∧
    ((v.build.validate x).isValid = true ↔ ∀ r ∈ v.registered, (r.build x).isValid = true) ∧
    (∀ a b c : Verdict, (a.and b).and c = a.and (b.and c)) ∧
    (∀ a : Verdict, Verdict.pass.and a = a ∧ a.and .pass = a) ∧
    ∀ vss : List (List Verdict), Verdict.all (vss.map Verdict.all) = Verdict.all vss.flatten := by
  have hrules := v.build_rules
  refine ⟨hrules, ?_, fun r _ => r.build_issues x, ValidatorTerm.issues_registered x, ?_, Verdict.and_assoc,
    fun a => ⟨Verdict.pass_and a, Verdict.and_pass a⟩, Verdict.all_flatten⟩
  · rw [Validator.validate_issues, hrules, List.flatMap_map]
  · rw [Validator.isValid_validate, hrules, List.all_map, List.all_eq_true]
    rfl

end DocStore
