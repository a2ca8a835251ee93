import DocStore.Validation.Verdict
/-
  DocStore.Validation.Timed — checks that take time, and the combinators built from them.

  A timed check runs on a logical clock in milliseconds. A step (`leaf`) takes some time
  and may change the state of its own world `σ`; a lifted rule takes none. `all` starts
  every part at once and collects every issue, in part order, finishing with the slowest
  part; `first` runs parts one after another and stops at the first that finds an issue.
  `timeout` gives up when its part has not finished `limit` ms after it started, with an
  internal issue coded `VALIDATION_TIMEOUT`; a part finishing exactly at the deadline
  still counts, so a zero timeout lets an instant part through. `retry` runs its part
  again after `delay` ms while it finds issues, at most `attempts` times in all (0 counts
  as 1), and gives the last verdict. `memo` remembers verdicts by a key of the value in a
  cache of its own for `ttl` ms; a cache entry of age `ttl` or more is stale.

  A part that a deadline cuts off is dropped where it stands: what it did before the
  deadline stays done (a step that started has counted itself), nothing after happens,
  and no verdict is remembered for it.
-/

namespace DocStore

/-- A timed check of values of type `α`, whose steps live in a world `σ`. -/
inductive Timed (σ α : Type) where
  /-- A step: from the world and the value, the new world, the time taken and the verdict. -/
  | leaf (name : String) (step : σ → α → σ × Nat × Verdict)
  /-- A rule that takes no time. -/
  | lift (name : String) (rule : Rule α)
  | all (name : String) (parts : List (Timed σ α))
  | first (name : String) (parts : List (Timed σ α))
  | timeout (limit : Nat) (part : Timed σ α)
  | retry (attempts delay : Nat) (part : Timed σ α)
  /-- Remembered verdicts in cache number `cache`, keyed by `key`. -/
  | memo (cache ttl : Nat) (key : α → String) (part : Timed σ α)

namespace Timed

/-- The name a check goes by: wrappers take their part's name. -/
def name : Timed σ α → String
  | .leaf n _ | .lift n _ | .all n _ | .first n _ => n
  | .timeout _ p | .retry _ _ p | .memo _ _ _ p => p.name

/-- The issue of a check that ran out of time. -/
def timeoutIssue (name : String) (limit : Nat) : Issue :=
  { message := "validation '" ++ name ++ "' exceeded " ++ toString limit ++ "ms", kind := .internal,
    code := some IssueCode.timeout }

end Timed

/-- A memo cache: key, when the verdict was stored, the verdict. -/
abbrev MemoCache := List (String × Nat × Verdict)

/-- What timed checks run against: the world of their steps and the memo caches. -/
structure Runtime (σ : Type) where
  world : σ
  caches : List (Nat × MemoCache) := []

namespace Runtime

def cache (r : Runtime σ) (i : Nat) : MemoCache := (r.caches.lookup i).getD []

def setCache (r : Runtime σ) (i : Nat) (c : MemoCache) : Runtime σ :=
  { r with caches := (i, c) :: r.caches.filter (·.1 != i) }

end Runtime

/-- How a timed check ended: with a verdict at a time, or cut off by a deadline. -/
inductive Ending where
  | done (verdict : Verdict) (at_ : Nat)
  | cut
  deriving Inhabited

/-- Whether time `t` is past the deadline. -/
def pastDeadline (deadline : Option Nat) (t : Nat) : Bool :=
  match deadline with
  | some d => d < t
  | none => false

/-- The verdict remembered under `key` at time `now`, dropping a stale one. -/
def MemoCache.lookupAt (c : MemoCache) (ttl now : Nat) (key : String) : Option Verdict × MemoCache :=
  match c.find? (·.1 == key) with
  | some (_, stored, v) => if now - stored < ttl then (some v, c) else (none, c.filter (·.1 != key))
  | none => (none, c)

/-- Remember `v` under `key` at time `now`, first dropping every stale entry. -/
def MemoCache.storeAt (c : MemoCache) (ttl now : Nat) (key : String) (v : Verdict) : MemoCache :=
  (c.filter fun (k, stored, _) => now - stored < ttl && k != key) ++ [(key, now, v)]

/-- Run a part (through `runPart`, from a given time) at `start`, then again after `delay`
while it finds issues, `left` more times. -/
def retryLoop (runPart : Nat → Runtime σ → Ending × Runtime σ) (deadline : Option Nat) (delay : Nat) :
    Nat → Nat → Runtime σ → Ending × Runtime σ
  | left, start, rt =>
    match runPart start rt with
    | (.done v e, rt) =>
      match left with
      | 0 => (.done v e, rt)
      | n + 1 =>
        if v.isValid then (.done v e, rt)
        else if pastDeadline deadline (e + delay) then (.cut, rt)
        else retryLoop runPart deadline delay n (e + delay) rt
    | (.cut, rt) => (.cut, rt)

mutual

/-- Run a check on `x` from time `start`, to be cut off after `deadline`. -/
def Timed.run (x : α) (start : Nat) (deadline : Option Nat) (rt : Runtime σ) :
    Timed σ α → Ending × Runtime σ
  | .leaf _ step =>
    if pastDeadline deadline start then (.cut, rt) else
    let (w, took, v) := step rt.world x
    let rt := { rt with world := w }
    if pastDeadline deadline (start + took) then (.cut, rt) else (.done v (start + took), rt)
  | .lift _ rule => if pastDeadline deadline start then (.cut, rt) else (.done (rule x) start, rt)
  | .all _ parts =>
    if pastDeadline deadline start then (.cut, rt) else Timed.runAll x start deadline rt parts
  | .first _ parts =>
    if pastDeadline deadline start then (.cut, rt) else Timed.runFirst x start deadline rt parts
  | .timeout limit part =>
    if pastDeadline deadline start then (.cut, rt) else
    let own := start + limit
    let eff := match deadline with
      | some d => min d own
      | none => own
    match Timed.run x start (some eff) rt part with
    | (.done v e, rt) => (.done v e, rt)
    | (.cut, rt) =>
      if pastDeadline deadline own then (.cut, rt)
      else (.done (.fail (Timed.timeoutIssue part.name limit)) own, rt)
  | .retry attempts delay part =>
    if pastDeadline deadline start then (.cut, rt) else
    retryLoop (fun t rt => Timed.run x t deadline rt part) deadline delay (max attempts 1 - 1) start rt
  | .memo cache ttl key part =>
    if pastDeadline deadline start then (.cut, rt) else
    let k := key x
    match (rt.cache cache).lookupAt ttl start k with
    | (some v, _) => (.done v start, rt)
    | (none, c) =>
      let rt := rt.setCache cache c
      match Timed.run x start deadline rt part with
      | (.done v e, rt) => (.done v e, rt.setCache cache ((rt.cache cache).storeAt ttl e k v))
      | (.cut, rt) => (.cut, rt)

/-- Every part from `start`; the verdicts combined, finishing with the slowest. -/
def Timed.runAll (x : α) (start : Nat) (deadline : Option Nat) (rt : Runtime σ) :
    List (Timed σ α) → Ending × Runtime σ
  | [] => (.done .pass start, rt)
  | p :: ps =>
    let (head, rt) := Timed.run x start deadline rt p
    let (tail, rt) := Timed.runAll x start deadline rt ps
    match head, tail with
    | .done v e, .done w f => (.done (v.and w) (max e f), rt)
    | _, _ => (.cut, rt)

/-- Parts one after another until one finds an issue. -/
def Timed.runFirst (x : α) (start : Nat) (deadline : Option Nat) (rt : Runtime σ) :
    List (Timed σ α) → Ending × Runtime σ
  | [] => (.done .pass start, rt)
  | p :: ps =>
    match Timed.run x start deadline rt p with
    | (.done v e, rt) => if v.isValid then Timed.runFirst x e deadline rt ps else (.done v e, rt)
    | (.cut, rt) => (.cut, rt)

end

/-- Check `x` at time `start` with no deadline: the verdict, when it was reached, and the
runtime after. -/
def Timed.check (c : Timed σ α) (x : α) (start : Nat) (rt : Runtime σ) : Verdict × Nat × Runtime σ :=
  match c.run x start none rt with
  | (.done v e, rt) => (v, e, rt)
  | (.cut, rt) => (.pass, start, rt)

end DocStore
