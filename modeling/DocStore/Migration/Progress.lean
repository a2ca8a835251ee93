import DocStore.Json.Value
/-
  DocStore.Migration.Progress — where a migration run or a rollback stands.

  A run moves through validating, then skipped (nothing to do) or backing up and
  migrating step by step, then final validation, and ends completed or failed. Each
  state comes with the step it is at, the number of steps, and a line describing it.
-/

namespace DocStore

/-- The phase of a run. -/
inductive RunState where
  | idle
  | validating
  | skipped
  | backingUp
  | migrating
  | finalValidating
  | completed
  | failed
  deriving DecidableEq, Repr, Inhabited

namespace RunState

/-- The name of the state in data: `backing_up`. -/
def name : RunState → String
  | .idle => "idle"
  | .validating => "validating"
  | .skipped => "skipped"
  | .backingUp => "backing_up"
  | .migrating => "migrating"
  | .finalValidating => "final_validating"
  | .completed => "completed"
  | .failed => "failed"

/-- The state as shown to a reader: `backing up`. -/
def title : RunState → String
  | .idle => "idle"
  | .validating => "validating"
  | .skipped => "skipped"
  | .backingUp => "backing up"
  | .migrating => "migrating"
  | .finalValidating => "final validation"
  | .completed => "completed"
  | .failed => "failed"

end RunState

/-- The latest progress of a run. -/
structure Progress where
  state : RunState := .idle
  stepIndex : Nat := 0
  totalSteps : Nat := 0
  description : String := ""
  deriving DecidableEq, Repr, Inhabited

def Progress.toJson (p : Progress) : Json :=
  .obj [("state", .str p.state.name), ("step_index", .num (.nat p.stepIndex)),
    ("total_steps", .num (.nat p.totalSteps)), ("description", .str p.description)]

/-- Every progress value a vault has shown, newest first. A reader sees only the newest;
one that watches throughout sees them all. -/
structure ProgressChannel where
  newestFirst : List Progress := []
  deriving DecidableEq, Repr, Inhabited

namespace ProgressChannel

/-- Show one more value. -/
def send (c : ProgressChannel) (p : Progress) : ProgressChannel := ⟨p :: c.newestFirst⟩

/-- What a reader sees: the newest value shown, idle before any. -/
def latest (c : ProgressChannel) : Progress := c.newestFirst.headD {}

/-- The values shown, in the order they were shown. -/
def shown (c : ProgressChannel) : List Progress := c.newestFirst.reverse

end ProgressChannel

end DocStore
