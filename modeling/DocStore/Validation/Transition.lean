import DocStore.Validation.Verdict
import DocStore.Model.Entity
/-
  DocStore.Validation.Transition — state changes and the order of timestamps.

  A transition table lists, for some states, the states they may move to; staying in
  a state is always allowed. Projects move active ⇄ paused, either to archived, and
  archived back to active. Messages move pending → sent or failed, sent → delivered or
  failed, failed → pending; delivered is final.

  Timestamps: an entity's later stamps (last use, last connection, last activity, archive
  time) may not precede its creation; a project records an archive time exactly when it
  is archived; a message list is in non-decreasing timestamp order.
-/

namespace DocStore

/-- Allowed moves between states of type `σ`. -/
structure TransitionTable (σ : Type) where
  moves : List (σ × List σ) := []

namespace TransitionTable

variable {σ : Type} [DecidableEq σ]

/-- The states `s` may move to. -/
def nextStates (t : TransitionTable σ) (s : σ) : List σ :=
  ((t.moves.find? (·.1 = s)).map (·.2)).getD []

def allows (t : TransitionTable σ) (a b : σ) : Bool := (t.nextStates a).contains b

/-- A change of `field` from `a` to `b`: fine when equal or allowed, else an issue naming
both states by `title`. -/
def check (t : TransitionTable σ) (title : σ → String) (field : String) (a b : σ) : Verdict :=
  Verdict.check (a = b || t.allows a b)
    ((Issue.business (field ++ " cannot change from " ++ title a ++ " to " ++ title b)).on field
      |>.withCode IssueCode.invalidTransition)

end TransitionTable

def projectTransitions : TransitionTable ProjectStatus :=
  ⟨[(.active, [.paused, .archived]), (.paused, [.active, .archived]), (.archived, [.active])]⟩

def messageTransitions : TransitionTable MessageStatus :=
  ⟨[(.pending, [.sent, .failed]), (.sent, [.delivered, .failed]), (.failed, [.pending])]⟩

/-- A project's status change. -/
def projectTransition (before after : Project) : Verdict :=
  projectTransitions.check ProjectStatus.title "status" before.status after.status

/-- A message's status change. -/
def messageTransition (before after : Message) : Verdict :=
  messageTransitions.check MessageStatus.title "status" before.status after.status

/-- `t` is absent or not before `start`. -/
def notBefore (t : Option Instant) (start : Instant) : Bool :=
  match t with
  | some x => decide (start ≤ x)
  | none => true

/-- An archive time exactly when archived; activity and archive time not before creation. -/
def projectCoherence (p : Project) : Verdict :=
  let archived := p.status = .archived
  let stamp := Verdict.check (archived == p.archivedAt.isSome)
    ((Issue.business (if archived then "archived project must record archivedAt"
      else "only archived projects may record archivedAt")).on "archivedAt")
  let activity := Verdict.check (notBefore p.lastActivity p.createdAt)
    ((Issue.business "lastActivity precedes createdAt").on "lastActivity")
  let archiveOrder := Verdict.check (notBefore p.archivedAt p.createdAt)
    ((Issue.business "archivedAt precedes createdAt").on "archivedAt")
  (stamp.and activity).and archiveOrder

def identityTimestamps (i : Identity) : Verdict :=
  Verdict.check (notBefore i.lastUsed i.createdAt) ((Issue.business "lastUsed precedes createdAt").on "lastUsed")

def profileTimestamps (p : ServerProfile) : Verdict :=
  Verdict.check (notBefore p.lastConnected p.createdAt)
    ((Issue.business "lastConnected precedes createdAt").on "lastConnected")

/-- The first position `i ≥ 1` whose timestamp is earlier than the one before it. -/
def firstOutOfOrder : List Message → Nat → Option Nat
  | a :: b :: rest, i => if b.timestamp < a.timestamp then some (i + 1) else firstOutOfOrder (b :: rest) (i + 1)
  | _, _ => none

/-- The messages under `key` are in timestamp order. -/
def messageOrdering (key : String) (ms : List Message) : Verdict :=
  match firstOutOfOrder ms 0 with
  | none => .pass
  | some i =>
    .fail ((Issue.business ("messages for '" ++ key ++ "' are out of timestamp order at position " ++
      toString i)).on ("messages." ++ key))

end DocStore
