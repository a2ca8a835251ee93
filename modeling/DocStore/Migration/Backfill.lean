import DocStore.Migration.Step
/-
  DocStore.Migration.Backfill — the built-in migration from version 1 to version 2.

  Every message list is put in timestamp order (a stable sort, so messages with equal
  timestamps keep their order), then every project records the time of its newest
  message as its last activity, keeping a later recorded activity; a newest message from
  before the project's creation is ignored. It reports one step per message list (in
  key order) and one per project.
-/

namespace DocStore

/-- A message list in timestamp order, equal timestamps keeping their order. -/
def sortByTime (ms : List Message) : List Message :=
  ms.mergeSort fun a b => decide (a.timestamp ≤ b.timestamp)

/-- The later of a recorded activity and a new one. -/
def laterActivity (current : Option Instant) (newest : Instant) : Instant :=
  match current with
  | some c => if newest ≤ c then c else newest
  | none => newest

/-- A project's activity after its messages `ms` (in timestamp order). -/
def backfillProject (ms : List Message) (p : Project) : Project :=
  match ms.getLast? with
  | some m =>
    if p.createdAt ≤ m.timestamp then { p with lastActivity := some (laterActivity p.lastActivity m.timestamp) }
    else p
  | none => p

/-- Order every message list and backfill every project's activity. -/
def backfillActivity (d : Document) : StepRun :=
  let total := d.messages.length + d.projects.length
  let messages := d.messages.map fun (k, ms) => (k, sortByTime ms)
  let ordered := (List.range messages.length).zip messages |>.map fun (i, (k, _)) =>
    ({ completed := i + 1, total, detail := "ordered messages for " ++ k } : StepReport)
  let projects := d.projects.map fun p => backfillProject ((messages.lookup p.id).getD []) p
  let filled := (List.range d.projects.length).zip d.projects |>.map fun (j, p) =>
    ({ completed := messages.length + j + 1, total, detail := "backfilled activity for " ++ p.name } : StepReport)
  { reports := ordered ++ filled, result := .ok { d with messages, projects } }

/-- The built-in migration from version 1 to version 2. -/
def backfillMigration : Migration :=
  (Migration.step "backfill_project_activity" initialVersion 2 backfillActivity)
    |>.describe "Order messages by timestamp and backfill project activity"
    |>.markReversible true
    |>.withEstimate fun d => d.messages.length + d.projects.length

end DocStore
