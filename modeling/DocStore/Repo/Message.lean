import DocStore.Repo.Pipeline
import DocStore.Validation.Transition
/-
  DocStore.Repo.Message — the message lists of projects (and of `system`).

  (1) Appending keeps a list in timestamp order: the new message goes after every
  message not later than it. A list keeps at most `maxMessagesPerProject` messages, the
  oldest going first; the answer says how many went and whether the new message itself
  stayed. A message no earlier than its project's creation moves the project's
  `lastActivity` forward.

  (2) A message's key must be an existing project or `system`, its id must be unique
  across all lists, and all lists together hold at most `maxTotalMessages`. A status
  change must follow the message transitions. Deleting the last message of a list
  removes the list.
-/

namespace DocStore.Repo.Messages

def entity : String := "message"

def notFound (id : String) : RepoError := .notFound entity id

/-- The list a message is under belongs to a project or is the system list. -/
def ownerExists (d : Document) (m : Message) : Verdict :=
  Verdict.check (m.projectId == systemKey || (d.project? m.projectId).isSome)
    (Issue.relationship "projectId" ("project '" ++ m.projectId ++ "' does not exist"))

/-- The message's id occurs once across all lists. -/
def uniqueId (d : Document) (m : Message) : Verdict :=
  Verdict.check ((d.allMessages.filter (·.id == m.id)).length ≤ 1)
    ((Issue.business ("message id '" ++ m.id ++ "' is already in use")).on "id"
      |>.withCode IssueCode.duplicateId)

def fields (p : Proposed Message) : Verdict :=
  match p.previous with
  | some old => p.entity.validate.and (messageTransition old p.entity)
  | none => p.entity.validate

def check (limit : Nat) : Timed Unit (Proposed Message) :=
  pipeline entity fields
    [fun p => ownerExists p.document p.entity,
     fun p => uniqueId p.document p.entity,
     fun p => capacity "messages" p.document.totalMessages maxTotalMessages]
    limit

def timeout : RepoOp Nat := do pure (← get).config.validationTimeoutMs

/-- The messages under `key`; a key that is neither a project nor `system` is not found. -/
def list (now : Instant) (key : String) : RepoOp (List Message) := do
  let d ← ofStore (Vault.load now)
  if key != systemKey && (d.project? key).isNone then throw (.notFound "project" key)
  pure (d.messagesAt key)

def find (now : Instant) (id : String) : RepoOp Message := do
  match (← ofStore (Vault.load now)).allMessages.find? (·.id == id) with
  | some m => pure m
  | none => throw (notFound id)

/-- What an append did. -/
structure Appended where
  message : Message
  evicted : Nat
  retained : Bool

/-- Insert `m` after every message not later than it, then drop the oldest beyond the
limit: the new list, how many were dropped, and whether `m` stayed. -/
def insertBounded (m : Message) (ms : List Message) : List Message × Nat × Bool :=
  let position := (ms.takeWhile fun x => x.timestamp ≤ m.timestamp).length
  let all := ms.take position ++ m :: ms.drop position
  let evicted := all.length - maxMessagesPerProject
  (all.drop evicted, evicted, decide (position ≥ evicted))

/-- Move a project's `lastActivity` to `t` when `t` is no earlier than its creation and
later than its last activity. -/
def advanceActivity (t : Instant) (p : Project) : Project :=
  if p.createdAt ≤ t && p.lastActivity.all (· < t) then { p with lastActivity := some t } else p

/-- Apply `f` to the first project with id `id`. -/
def updateFirst (id : String) (f : Project → Project) : List Project → List Project
  | [] => []
  | p :: ps => if p.id == id then f p :: ps else p :: updateFirst id f ps

def append (now : Instant) (m : Message) : RepoOp Appended := do
  let d ← ofStore (Vault.load now)
  let key := m.projectId
  let (items, evicted, retained) := insertBounded m (d.messagesAt key)
  let next := { d with messages := putKey key items d.messages,
                       projects := updateFirst key (advanceActivity m.timestamp) d.projects }
  let _ ← commit now (check (← timeout)) entity m.id { entity := m, document := next }
  pure ⟨m, evicted, retained⟩

def update (now : Instant) (m : Message) : RepoOp Message := do
  let d ← ofStore (Vault.load now)
  let some (old, items) := replaceFirst (·.id) m (d.messagesAt m.projectId) | throw (notFound m.id)
  let _ ← commit now (check (← timeout)) entity m.id
    { entity := m, previous := some old, document := { d with messages := putKey m.projectId items d.messages } }
  pure m

def updateStatus (now : Instant) (id : String) (status : MessageStatus) : RepoOp Message := do
  let m ← find now id
  update now { m with status }

def delete (now : Instant) (id : String) : RepoOp Unit := do
  let d ← ofStore (Vault.load now)
  if !(d.allMessages.any (·.id == id)) then throw (notFound id)
  let lists := d.messages.map fun (k, ms) => (k, ms.filter (·.id != id))
  let _ ← ofStore (Vault.save now { d with messages := lists.filter fun (_, ms) => !ms.isEmpty })

/-- Remove the list under `key`: how many messages it held (0, and nothing saved, when
there is no such list). -/
def clear (now : Instant) (key : String) : RepoOp Nat := do
  let d ← ofStore (Vault.load now)
  match d.messages.find? (·.1 == key) with
  | none => pure 0
  | some (_, ms) =>
    let _ ← ofStore (Vault.save now { d with messages := dropKey key d.messages })
    pure ms.length

def search (now : Instant) (query : String) (key : Option String) : RepoOp (List Message) := do
  let d ← ofStore (Vault.load now)
  let lists := d.messages.filter fun (k, _) => key.all (· == k)
  pure ((lists.flatMap (·.2)).filter fun m => containsFolded m.content query)

def observed (key : String) (v : Vault) : Option (List Message) := v.published.map (·.messagesAt key)

end DocStore.Repo.Messages
