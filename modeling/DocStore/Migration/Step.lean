import DocStore.Model.Document
/-
  DocStore.Migration.Step — one edge of the version graph: a migration from a source
  version to a target version.

  A migration has a name and a description, says whether a backup taken before it can be
  restored afterwards without losing what it introduced, says whether it can apply to a
  document, estimates how many steps it takes, and applies: it reports progress as it
  goes and ends with the new document, its own error, or a crash. A crash carries a text
  when it was raised with one.

  `Migration.step` builds the usual kind: applicable exactly at its source version (and
  when an extra precondition holds), estimating at least one step, and stamping the
  target version on what its transform returns.
-/

namespace DocStore

/-- A progress report from inside a migration: `completed` of `total`, and what was done. -/
structure StepReport where
  completed : Nat
  total : Nat
  detail : String
  deriving Repr, DecidableEq

/-- How applying a migration can fail. -/
inductive StepFailure where
  /-- The migration's own error, with its message. -/
  | error (message : String)
  /-- The migration crashed, with the text it crashed with if any. -/
  | crash (payload : Option String)
  deriving Repr, DecidableEq

/-- The text a crash is described by. -/
def StepFailure.crashText : Option String → String
  | some t => t
  | none => "unknown panic"

/-- What applying a migration gives: its progress reports in order, then the result. -/
structure StepRun where
  reports : List StepReport := []
  result : Except StepFailure Document

/-- One edge of the version graph. -/
structure Migration where
  name : String
  description : String := name
  source : Nat
  target : Nat
  reversible : Bool := false
  canApply : Document → Bool := fun d => d.version == source
  estimate : Document → Nat := fun _ => 1
  apply : Document → StepRun

namespace Migration

/-- A migration through `transform`, whose result is stamped with the target version. -/
def step (name : String) (source target : Nat) (transform : Document → StepRun) : Migration where
  name := name
  source := source
  target := target
  apply d :=
    let run := transform d
    { run with result := run.result.map fun d' => { d' with version := target } }

def describe (m : Migration) (text : String) : Migration := { m with description := text }

def markReversible (m : Migration) (r : Bool) : Migration := { m with reversible := r }

/-- Applicable only at the source version and when `p` holds. -/
def withPrecondition (m : Migration) (p : Document → Bool) : Migration :=
  { m with canApply := fun d => d.version == m.source && p d }

/-- Estimated by `e`, at least one step. -/
def withEstimate (m : Migration) (e : Document → Nat) : Migration :=
  { m with estimate := fun d => max 1 (e d) }

/-- `NAME (FROM -> TO)`. -/
def label (m : Migration) : String :=
  m.name ++ " (" ++ toString m.source ++ " -> " ++ toString m.target ++ ")"

end Migration

end DocStore
