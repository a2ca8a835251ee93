import DocStore.Migration.Backfill
import DocStore.Error
/-
  DocStore.Migration.Registry — the version graph: at most one migration per
  (source, target) pair, kept in that order.

  A path from `a` to `b` is a shortest chain of migrations; among equally short chains
  the smallest next version wins at every step. It is found by a breadth-first search
  backwards from `b` (hop counts to `b`), then a walk forwards from `a` that always takes
  the smallest target one hop closer. The latest version from `s` is the greatest version
  reachable from `s` (`s` itself included).

  The searches are bounded by fuel: every version enters a queue at most once and there
  are at most twice as many versions as migrations, plus the start.
-/

namespace DocStore

/-- Registered migrations, ordered by (source, target), one per pair. -/
structure Registry where
  steps : List Migration := []

namespace Registry

/-- Whether `m` comes before the pair (`a`, `b`). -/
def before (m : Migration) (a b : Nat) : Bool := m.source < a || (m.source == a && m.target < b)

/-- Insert `m` in order, replacing a migration of the same pair; the replaced one too. -/
def insert (m : Migration) : List Migration → List Migration × Option Migration
  | [] => ([m], none)
  | x :: xs =>
    if before x m.source m.target then
      let (rest, old) := insert m xs
      (x :: rest, old)
    else if x.source == m.source && x.target == m.target then (m :: xs, some x)
    else (m :: x :: xs, none)

/-- The migration for the pair (`a`, `b`). -/
def get (r : Registry) (a b : Nat) : Option Migration :=
  r.steps.find? fun m => m.source == a && m.target == b

def len (r : Registry) : Nat := r.steps.length

def isEmpty (r : Registry) : Bool := r.steps.isEmpty

/-- A migration that does not change the version is refused. -/
def checkEdge (m : Migration) : Except RegistryError Unit :=
  if m.source == m.target then throw (.selfLoop m.name) else pure ()

/-- Add `m`, refusing a second migration for its pair. -/
def register (r : Registry) (m : Migration) : Except RegistryError Registry := do
  checkEdge m
  if (r.get m.source m.target).isSome then throw (.duplicate m.source m.target)
  pure ⟨(insert m r.steps).1⟩

/-- Add `m`, giving back the migration it replaced. -/
def registerReplacing (r : Registry) (m : Migration) : Except RegistryError (Registry × Option Migration) := do
  checkEdge m
  let (steps, old) := insert m r.steps
  pure (⟨steps⟩, old)

/-- Migrations leaving `v`, by ascending target. -/
def leaving (r : Registry) (v : Nat) : List Migration := r.steps.filter (·.source == v)

/-- Versions with a migration into `v`, ascending. -/
def sourcesInto (r : Registry) (v : Nat) : List Nat := (r.steps.filter (·.target == v)).map (·.source)

/-- Enough queue steps for any search of the graph. -/
def fuel (r : Registry) : Nat := 2 * r.steps.length + 2

/-- Breadth-first search backwards: `dist` holds the hop counts found so far. -/
def searchBack (r : Registry) : Nat → List Nat → List (Nat × Nat) → List (Nat × Nat)
  | 0, _, dist => dist
  | _ + 1, [], dist => dist
  | n + 1, v :: queue, dist =>
    let hops := (dist.lookup v).getD 0
    let fresh := (r.sourcesInto v).filter fun s => (dist.lookup s).isNone
    searchBack r n (queue ++ fresh) (dist ++ fresh.map fun s => (s, hops + 1))

/-- Hops from each version that reaches `t` to `t` (`t` itself at 0). -/
def distancesTo (r : Registry) (t : Nat) : List (Nat × Nat) := r.searchBack r.fuel [t] [(t, 0)]

def hasPath (r : Registry) (a b : Nat) : Bool := a == b || ((r.distancesTo b).lookup a).isSome

/-- Walk forwards `k` hops, always to the smallest target one hop closer. -/
def walk (r : Registry) (dist : List (Nat × Nat)) : Nat → Nat → Option (List Migration)
  | 0, _ => some []
  | k + 1, v =>
    match (r.leaving v).find? fun m => dist.lookup m.target == some k with
    | some m => (walk r dist k m.target).map (m :: ·)
    | none => none

/-- The shortest chain from `a` to `b`, ties to the smallest next version; empty when
`a = b` or `b` is unreachable. -/
def findPath (r : Registry) (a b : Nat) : List Migration :=
  if a == b then []
  else
    let dist := r.distancesTo b
    match dist.lookup a with
    | some total => (r.walk dist total a).getD []
    | none => []

/-- Breadth-first search forwards: the versions seen so far. -/
def searchOn (r : Registry) : Nat → List Nat → List Nat → List Nat
  | 0, _, seen => seen
  | _ + 1, [], seen => seen
  | n + 1, v :: queue, seen =>
    let fresh := ((r.leaving v).map (·.target)).filter fun t => !seen.contains t
    searchOn r n (queue ++ fresh) (seen ++ fresh)

/-- The greatest version reachable from `s`, `s` included. -/
def latestFrom (r : Registry) (s : Nat) : Nat := (r.searchOn r.fuel [s] [s]).foldl max s

/-- The greatest version reachable from the first one. -/
def latest (r : Registry) : Nat := r.latestFrom initialVersion

end Registry

/-- The registry of the built-in migrations. -/
def builtinRegistry : Registry := ⟨[backfillMigration]⟩

end DocStore
