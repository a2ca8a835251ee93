import DocStore.Store.Lifecycle
import DocStore.Validation.Codec
/-
  DocStore.Store.Report — the JSON forms in which a store reports its errors, runs,
  rollbacks, plans and progress.

  A store error carries its variant, kind, text and user text, and its issues when it is
  a validation failure. A repository error carries what it is about: the entity and the
  name or id, the issues of an invalid entity, or the store error underneath. Documents
  inside reports are written by a function the caller chooses, so a report can carry a
  full document or a summary of it.
-/

namespace DocStore

def EntityCounts.toJson (c : EntityCounts) : Json :=
  .obj [("identities", .ofNat c.identities), ("messages", .ofNat c.messages),
    ("projects", .ofNat c.projects), ("server_profiles", .ofNat c.serverProfiles)]

/-- The kind, texts and (for a validation failure) issues of a store error. -/
def StoreError.fields (e : StoreError) : List (String × Json) :=
  [("kind", .str e.kind), ("message", .str e.message), ("user_message", .str e.userMessage)] ++
    (if e.isValidationFailure then [("errors", .arr (e.issues.map Issue.toJson))] else [])

def StoreError.toJson (e : StoreError) : Json := .obj (("error", .str e.name) :: e.fields)

def RepoError.toJson (e : RepoError) : Json :=
  let msg := ("message", Json.str e.message)
  let err := ("error", Json.str e.name)
  match e with
  | .duplicateName en n => .obj [err, ("entity", .str en), ("name", .str n), msg]
  | .notFound en id => .obj [err, ("entity", .str en), ("id", .str id), msg]
  | .constraint _ => .obj [err, msg]
  | .invalid en is => .obj [err, ("entity", .str en), ("errors", .arr (is.map Issue.toJson)), msg]
  | .store se => .obj ([err, ("store_error", .str se.name)] ++ se.fields)

/-- A run's outcome, its document written by `doc`. -/
def MigrationOutcome.toJson (doc : Document → Json) : MigrationOutcome → Json
  | .success r => .obj [("outcome", .str "success"), ("from", .ofNat r.source), ("to", .ofNat r.target),
      ("steps", Json.ofStrings r.steps), ("backup", Json.opt .str r.backup), ("document", doc r.document)]
  | .skipped v => .obj [("outcome", .str "skipped"), ("version", .ofNat v)]
  | .failure e => .obj (("outcome", .str "failure") :: ("error", .str e.name) :: e.fields)

/-- What a run gives as a result: a report, nothing, or an error. -/
def MigrationOutcome.resultKind (o : MigrationOutcome) : String :=
  match o.toExcept with
  | .ok (some _) => "report"
  | .ok none => "none"
  | .error _ => "error"

def RollbackOutcome.toJson (doc : Document → Json) : RollbackOutcome → Json
  | .restored r => .obj [("outcome", .str "restored"), ("backup", .str r.backup),
      ("from", Json.opt .ofNat r.source), ("to", .ofNat r.target), ("document", doc r.document)]
  | .failure e => .obj (("outcome", .str "failure") :: ("error", .str e.name) :: e.fields)

def PlannedStep.toJson (s : PlannedStep) : Json :=
  .obj [("name", .str s.name), ("description", .str s.description), ("from_version", .ofNat s.source),
    ("to_version", .ofNat s.target), ("reversible", .bool s.reversible), ("estimated_steps", .ofNat s.estimate)]

def MigrationPlan.toJson : MigrationPlan → Json
  | .noAction => .obj [("plan", .str "no_action_required")]
  | .required steps => .obj [("plan", .str "migration_required"), ("steps", .arr (steps.map PlannedStep.toJson))]
  | .incompatible reason => .obj [("plan", .str "incompatible"), ("reason", .str reason)]

/-- The progress of the latest run, its state as shown to a reader, and whether a run
is going on. -/
def Vault.progressJson (v : Vault) : Json :=
  .obj [("progress", v.progress.latest.toJson), ("state_text", .str v.progress.latest.state.title),
    ("is_migrating", .bool v.isMigrating)]

end DocStore
