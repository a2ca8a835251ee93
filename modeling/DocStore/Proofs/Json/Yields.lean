import DocStore.Proofs.Json.Values
/-
  DocStore.Proofs.Json.Yields — what the readers give, whatever text they read.

  `Yields r n P`: run from any cursor with `n` levels of nesting left, every success of `r`
  gives a value with `P` and leaves `n` levels again. Failures are not looked at, so the
  relation is built up along the readers as `Reads` is, one step after another
  (`Yields.bind`), and a reader that never succeeds (`wrongKind`, `failPeek`, `reject`)
  yields anything. Only `nested` changes the level, and its body gives it back
  (`nested_ok`).

  Proved: the value reader gives canonical values with fewer levels of nesting than it had
  (`Yields.value`); arrays give lists of what their items give (`Yields.list`); maps give
  entries with strictly increasing keys (`Yields.keyedMap`); members read into a state keep
  whatever each step keeps (`Yields.membersOf`); numbers are within their bounds and
  timestamps are valid (`Yields.natUpTo`, `Yields.instant`).
-/

namespace DocStore

open JsonText

namespace Json

/-- A value the reader can give with `n` levels of nesting left: canonical, and nesting less
deeply than that. -/
def Fits (n : Nat) (v : Json) : Prop := v.Canonical ∧ v.depth < n

theorem depthItems_lt {m : Nat} (hm : 0 < m) : ∀ {xs : List Json}, (∀ x ∈ xs, x.depth < m) →
    depth.depthItems xs < m
  | [], _ => hm
  | x :: xs, h => by
    simp only [depth.depthItems]
    exact Nat.max_lt.2 ⟨h x List.mem_cons_self, depthItems_lt hm fun y hy => h y (List.mem_cons_of_mem x hy)⟩

theorem depthMembers_lt {m : Nat} (hm : 0 < m) : ∀ {ms : List (String × Json)}, (∀ p ∈ ms, p.2.depth < m) →
    depth.depthMembers ms < m
  | [], _ => hm
  | (k, v) :: ms, h => by
    simp only [depth.depthMembers]
    exact Nat.max_lt.2 ⟨h (k, v) List.mem_cons_self, depthMembers_lt hm fun p hp => h p (List.mem_cons_of_mem _ hp)⟩

end Json

namespace JsonRead

/-! ## Keys in increasing order -/

/-- Entries whose keys strictly increase and whose values have `P`: what a map's reader
collects. -/
def Keyed {α : Type} (P : α → Prop) (l : List (String × α)) : Prop :=
  l.Pairwise (fun p q => p.1 < q.1) ∧ ∀ p ∈ l, P p.2

variable {α β : Type} {P : α → Prop}

theorem mem_insertKey {key : String} {v : α} :
    ∀ {l : List (String × α)} {p : String × α}, p ∈ insertKey key v l → p = (key, v) ∨ p ∈ l
  | [], p, h => .inl (List.mem_singleton.1 h)
  | (k', v') :: rest, p, h => by
    unfold insertKey at h
    split_ifs at h
    · simpa using h
    · rcases List.mem_cons.1 h with h | h
      · exact .inl h
      · exact .inr (List.mem_cons_of_mem _ h)
    · rcases List.mem_cons.1 h with h | h
      · exact .inr (h ▸ List.mem_cons_self)
      · exact (mem_insertKey h).imp_right (List.mem_cons_of_mem _)

/-- Inserting an entry keeps the keys strictly increasing. -/
theorem Keyed.insertKey {l : List (String × α)} (hl : Keyed P l) (key : String) {v : α} (hv : P v) :
    Keyed P (JsonRead.insertKey key v l) := by
  induction l with
  | nil => exact ⟨List.pairwise_singleton _ _, List.forall_mem_singleton.2 hv⟩
  | cons e rest ih =>
    obtain ⟨k', v'⟩ := e
    obtain ⟨hsorted, hvals⟩ := hl
    have hk' : ∀ q ∈ rest, k' < q.1 := (List.pairwise_cons.1 hsorted).1
    have hrest : Keyed P rest := ⟨(List.pairwise_cons.1 hsorted).2, fun p hp => hvals p (List.mem_cons_of_mem _ hp)⟩
    unfold JsonRead.insertKey
    split_ifs with hlt heq
    · -- in front of a greater key
      refine ⟨List.pairwise_cons.2 ⟨fun q hq => ?_, hsorted⟩, ?_⟩
      · rcases List.mem_cons.1 hq with rfl | hq
        · exact hlt
        · exact lt_trans hlt (hk' q hq)
      · exact List.forall_mem_cons.2 ⟨hv, hvals⟩
    · -- in place of an equal key
      subst heq
      exact ⟨List.pairwise_cons.2 ⟨hk', hrest.1⟩, List.forall_mem_cons.2 ⟨hv, hrest.2⟩⟩
    · -- after a smaller key
      have hgt : k' < key := lt_of_le_of_ne (not_lt.1 hlt) (Ne.symm heq)
      obtain ⟨hs', hv'⟩ := ih hrest
      refine ⟨List.pairwise_cons.2 ⟨fun q hq => ?_, hs'⟩, ?_⟩
      · rcases mem_insertKey hq with rfl | hq
        · exact hgt
        · exact hk' q hq
      · intro p hp
        rcases List.mem_cons.1 hp with rfl | hp
        · exact hvals _ List.mem_cons_self
        · exact hv' p hp

theorem Keyed.foldl_insertKey {acc : List (String × α)} (hacc : Keyed P acc) :
    ∀ {ms : List (String × α)}, (∀ p ∈ ms, P p.2) →
      Keyed P (ms.foldl (fun acc p => JsonRead.insertKey p.1 p.2 acc) acc)
  | [], _ => hacc
  | m :: ms, h => by
    rw [List.foldl_cons]
    exact (hacc.insertKey m.1 (h m List.mem_cons_self)).foldl_insertKey fun p hp => h p (List.mem_cons_of_mem _ hp)

theorem sortedObj_eq (ms : List (String × Json)) :
    Json.sortedObj ms = .obj (ms.foldl (fun acc p => JsonRead.insertKey p.1 p.2 acc) []) := by
  unfold Json.sortedObj
  congr 1
  congr 1
  funext acc p
  exact Json.insertSorted_eq_insertKey p.1 p.2 acc

/-- An object built from members that fit one level further in fits. -/
theorem sortedObj_fits {n : Nat} {ms : List (String × Json)} (hn : 2 ≤ n) (h : ∀ p ∈ ms, (p.2).Fits (n - 1)) :
    (Json.sortedObj ms).Fits n := by
  obtain ⟨hsorted, hvals⟩ := (show Keyed (Json.Fits (n - 1)) [] by simp [Keyed]).foldl_insertKey h
  rw [sortedObj_eq]
  refine ⟨.obj hsorted fun p hp => (hvals p hp).1, ?_⟩
  have := Json.depthMembers_lt (show 0 < n - 1 by omega) fun p hp => (hvals p hp).2
  simp only [Json.depth]
  omega

/-! ## Readers that succeed -/

/-- An attempt gives a value only as the reader does. -/
theorem attempt_ok {x : JsonRead α} {a : α} {k k' : Cursor} (h : runFrom (attempt x) k = (.ok (.ok a), k')) :
    runFrom x k = (.ok a, k') := by
  unfold attempt at h
  rw [runFrom_tryCatch] at h
  split at h
  · rename_i r k₁ hx
    obtain ⟨a', hx', rfl⟩ := ok_of_map hx
    cases h
    exact hx'
  · rw [runFrom_pure] at h
    cases h

/-- A body run nested succeeds only from two levels or more, with one level fewer, which it
gives back. -/
theorem nested_ok {body : JsonRead α} {a : α} {k k' : Cursor} (h : runFrom (nested body) k = (.ok a, k')) :
    2 ≤ k.depth ∧ ∃ k₁, runFrom body { k with depth := k.depth - 1 } = (.ok a, k₁) ∧
      k' = { k₁ with depth := k₁.depth + 1 } := by
  unfold nested at h
  rw [runFrom_bind_ok _ (runFrom_get k)] at h
  dsimp only at h
  split at h
  · obtain ⟨_, _, hf, -⟩ := ok_of_bind h
    exact absurd hf (runFrom_failPeek_ne _ _)
  · rw [runFrom_bind_ok _ (runFrom_set _ k)] at h
    obtain ⟨r, k₁, hr, h⟩ := ok_of_bind h
    rw [runFrom_bind_ok _ (runFrom_modify _ k₁)] at h
    split at h
    · rename_i a'
      rw [runFrom_pure] at h
      cases h
      exact ⟨by omega, k₁, attempt_ok hr, rfl⟩
    · exact absurd h (runFrom_throw_ne _ _)

/-! ## The relation -/

/-- Run from any cursor with `n` levels of nesting left, every success of `r` gives a value
with `P` and leaves `n` levels again. -/
def Yields (r : JsonRead α) (n : Nat) (P : α → Prop) : Prop :=
  ∀ k a k', k.depth = n → runFrom r k = (.ok a, k') → k'.depth = n ∧ P a

@[simp] theorem depth_bump (k : Cursor) : k.bump.depth = k.depth := by
  unfold Cursor.bump
  split <;> rfl

namespace Yields

variable {n : Nat} {Q : β → Prop}

theorem mono {r : JsonRead α} (h : Yields r n P) {P' : α → Prop} (hP : ∀ a, P a → P' a) : Yields r n P' :=
  fun k a k' hk hr => (h k a k' hk hr).imp_right (hP a)

theorem pure {a : α} (ha : P a) : Yields (Pure.pure a) n P := by
  intro k a' k' hk h
  rw [runFrom_pure] at h
  cases h
  exact ⟨hk, ha⟩

theorem bind {x : JsonRead α} {f : α → JsonRead β} (hx : Yields x n P) (hf : ∀ a, P a → Yields (f a) n Q) :
    Yields (x >>= f) n Q := by
  intro k b k' hk h
  obtain ⟨a, k₁, h₁, h₂⟩ := ok_of_bind h
  obtain ⟨hk₁, ha⟩ := hx k a k₁ hk h₁
  exact hf a ha k₁ b k' hk₁ h₂

theorem map {x : JsonRead α} {f : α → β} (hx : Yields x n P) (hf : ∀ a, P a → Q (f a)) : Yields (f <$> x) n Q := by
  intro k b k' hk h
  obtain ⟨a, h₁, rfl⟩ := ok_of_map h
  obtain ⟨hk', ha⟩ := hx k a k' hk h₁
  exact ⟨hk', hf a ha⟩

theorem placed {x : JsonRead α} (hx : Yields x n P) : Yields (JsonRead.placed x) n P :=
  fun k a k' hk h => hx k a k' hk (ok_of_placed h)

theorem throw (e : ReadError) : Yields (MonadExcept.throw e : JsonRead α) n P :=
  fun _ a _ _ h => absurd h (runFrom_throw_ne e a)

theorem failPeek (f : SyntaxFault) : Yields (JsonRead.failPeek f : JsonRead α) n P :=
  fun _ a _ _ h => absurd h (runFrom_failPeek_ne f a)

theorem fail (f : SyntaxFault) : Yields (JsonRead.fail f : JsonRead α) n P := by
  intro k a k' _ h
  unfold JsonRead.fail at h
  obtain ⟨_, _, _, h⟩ := ok_of_bind h
  exact absurd h (runFrom_throw_ne _ a)

theorem reject (i : ReadIssue) : Yields (JsonRead.reject i : JsonRead α) n P :=
  throw _

/-- A reader after one that never succeeds yields anything. -/
theorem after_failure {x : JsonRead α} {f : α → JsonRead β} (hx : Yields x n fun _ => False) :
    Yields (x >>= f) n Q :=
  hx.bind fun _ h => h.elim

/-- Each branch of a test yields what the test's outcome lets it. -/
theorem ifThenElse {p : Prop} [Decidable p] {a b : JsonRead α} (ha : p → Yields a n P) (hb : ¬p → Yields b n P) :
    Yields (if p then a else b) n P := by
  split
  · exact ha ‹_›
  · exact hb ‹_›

theorem get_bind {f : Cursor → JsonRead α} (hf : ∀ k : Cursor, k.depth = n → Yields (f k) n P) :
    Yields (get >>= f) n P := by
  intro k a k' hk h
  rw [runFrom_bind_ok _ (runFrom_get k)] at h
  exact hf k hk k a k' hk h

theorem set {k₀ : Cursor} (hk : k₀.depth = n) : Yields (MonadStateOf.set k₀ : JsonRead PUnit) n fun _ => True := by
  intro k a k' _ h
  rw [runFrom_set] at h
  cases h
  exact ⟨hk, trivial⟩

/-! ### Steps that keep the level -/

theorem skipBlanks : Yields JsonRead.skipBlanks n fun _ => True := by
  intro k a k' hk h
  rw [runFrom_skipBlanks_go] at h
  cases h
  exact ⟨hk, trivial⟩

theorem bump : Yields JsonRead.bump n fun _ => True := by
  intro k a k' hk h
  rw [runFrom_bump] at h
  cases h
  exact ⟨by rw [depth_bump, hk], trivial⟩

theorem peek : Yields JsonRead.peek n fun _ => True := by
  intro k a k' hk h
  rw [runFrom_peek] at h
  cases h
  exact ⟨hk, trivial⟩

theorem fuelFor : Yields JsonRead.fuelFor n fun _ => True := by
  intro k a k' hk h
  rw [show runFrom JsonRead.fuelFor k = (.ok k.budget, k) from rfl] at h
  cases h
  exact ⟨hk, trivial⟩

theorem keywordTail : ∀ cs : List Char, Yields (JsonRead.keywordTail cs) n fun _ => True
  | [] => by
    rw [JsonRead.keywordTail]
    exact pure trivial
  | c :: more => by
    rw [JsonRead.keywordTail]
    refine peek.bind fun d _ => ?_
    split
    · exact fail _
    · exact bump.bind fun _ _ => ifThenElse (fun _ => keywordTail more) fun _ => fail _

theorem string : Yields JsonRead.string n fun _ => True := by
  unfold JsonRead.string
  refine get_bind fun k hk => ?_
  -- the cursor is set to where the scanner stopped, at the same level
  split
  · exact (set (by exact hk)).bind fun _ _ => pure trivial
  · exact (set (by exact hk)).bind fun _ _ => throw _

theorem skipStringBody : Yields JsonRead.skipStringBody n fun _ => True := by
  unfold JsonRead.skipStringBody
  refine get_bind fun k hk => ?_
  split
  · exact set (by exact hk)
  · exact (set (by exact hk)).bind fun _ _ => throw _

/-- The scanner's numbers are within their widths. -/
theorem number (positive : Bool) : Yields (JsonRead.number positive) n JsonScan.InRange := by
  unfold JsonRead.number
  refine get_bind fun k hk => ?_
  split
  · rename_i hs
    exact (set (by exact hk)).bind fun _ _ => pure (JsonScan.number_inRange hs)
  · exact (set (by exact hk)).bind fun _ _ => throw _

theorem skipNumberText : Yields JsonRead.skipNumberText n fun _ => True := by
  unfold JsonRead.skipNumberText
  refine get_bind fun k hk => ?_
  split
  · exact set (by exact hk)
  · exact (set (by exact hk)).bind fun _ _ => throw _

/-- Naming what was found instead never succeeds. -/
theorem wrongKind (expected : String) : Yields (JsonRead.wrongKind expected : JsonRead α) n P := by
  unfold JsonRead.wrongKind
  refine placed (peek.bind fun c _ => ?_)
  -- a scalar is read to name it, then refused
  split
  · exact bump.bind fun _ _ => (keywordTail _).bind fun _ _ => reject _
  · exact bump.bind fun _ _ => (keywordTail _).bind fun _ _ => reject _
  · exact bump.bind fun _ _ => (keywordTail _).bind fun _ _ => reject _
  · exact bump.bind fun _ _ => (number _).bind fun _ _ => reject _
  · exact bump.bind fun _ _ => string.bind fun _ _ => reject _
  · exact reject _
  · exact reject _
  · split
    · exact (number _).bind fun _ _ => reject _
    · exact failPeek _
  · exact failPeek _

theorem nextElement (first : Bool) : Yields (JsonRead.nextElement first) n fun _ => True := by
  unfold JsonRead.nextElement
  refine skipBlanks.bind fun c _ => ?_
  dsimp only
  -- after a separator, one more peek decides: a closing bracket there is a trailing comma
  split
  · exact pure trivial
  · split
    · refine (pure (P := fun _ => True) trivial).bind fun c _ => ?_
      split <;> first | exact failPeek _ | exact pure trivial
    · refine bump.bind fun _ _ => skipBlanks.bind fun c _ => ?_
      split <;> first | exact failPeek _ | exact pure trivial
  · split
    · refine (pure (P := fun _ => True) trivial).bind fun c _ => ?_
      split <;> first | exact failPeek _ | exact pure trivial
    · exact after_failure (failPeek _)
  · exact after_failure (failPeek _)

theorem nextKey (first : Bool) : Yields (JsonRead.nextKey first) n fun _ => True := by
  unfold JsonRead.nextKey
  refine skipBlanks.bind fun c _ => ?_
  dsimp only
  -- what follows a separator must be a key: its quote, then the string
  split
  · exact pure trivial
  · split
    · refine (pure (P := fun _ => True) trivial).bind fun c _ => ?_
      split <;> first | exact failPeek _ | exact bump.bind fun _ _ => string.map fun _ _ => trivial
    · refine bump.bind fun _ _ => skipBlanks.bind fun c _ => ?_
      split <;> first | exact failPeek _ | exact bump.bind fun _ _ => string.map fun _ _ => trivial
  · split
    · refine (pure (P := fun _ => True) trivial).bind fun c _ => ?_
      split <;> first | exact failPeek _ | exact bump.bind fun _ _ => string.map fun _ _ => trivial
    · exact after_failure (failPeek _)
  · exact after_failure (failPeek _)

theorem colon : Yields JsonRead.colon n fun _ => True := by
  unfold JsonRead.colon
  refine skipBlanks.bind fun c _ => ?_
  split
  · exact bump
  all_goals exact failPeek _

theorem endArray : Yields JsonRead.endArray n fun _ => True := by
  unfold JsonRead.endArray
  refine skipBlanks.bind fun c _ => ?_
  split
  · exact bump
  · refine bump.bind fun _ _ => skipBlanks.bind fun c _ => ?_
    split <;> exact failPeek _
  all_goals exact failPeek _

theorem endObject : Yields JsonRead.endObject n fun _ => True := by
  unfold JsonRead.endObject
  refine skipBlanks.bind fun c _ => ?_
  split
  · exact bump
  all_goals exact failPeek _

/-! ### Nesting -/

/-- A nested body is read one level further in. -/
theorem nested {body : JsonRead α} (hb : 2 ≤ n → Yields body (n - 1) P) : Yields (JsonRead.nested body) n P := by
  intro k a k' hk h
  obtain ⟨h2, k₁, h₁, rfl⟩ := nested_ok h
  obtain ⟨hk₁, ha⟩ := hb (hk ▸ h2) _ a k₁ (by simp [hk]) h₁
  exact ⟨by simp only [hk₁]; omega, ha⟩

/-- A bracketed body is read one level further in, and gives its value only when the close
succeeds after it. -/
theorem bracketed {body : JsonRead α} {close : JsonRead Unit} (hb : 2 ≤ n → Yields body (n - 1) P)
    (hc : Yields close n fun _ => True) : Yields (JsonRead.bracketed body close) n P := by
  intro k a k' hk h
  unfold JsonRead.bracketed at h
  obtain ⟨r, k₁, hr, h⟩ := ok_of_bind h
  obtain ⟨c, k₂, hcl, h⟩ := ok_of_bind h
  split at h
  · rename_i a'
    rw [runFrom_pure] at h
    cases h
    obtain ⟨h2, k₃, hbody, rfl⟩ := nested_ok hr
    obtain ⟨_, k₄, hbump, hatt⟩ := ok_of_bind hbody
    rw [runFrom_bump] at hbump
    cases hbump
    obtain ⟨hk₃, ha⟩ := hb (hk ▸ h2) _ a k₃ (by simp [hk]) (attempt_ok hatt)
    obtain ⟨hk₂, -⟩ := hc _ () k' (by simp only [hk₃]; omega) (attempt_ok hcl)
    exact ⟨hk₂, ha⟩
  · exact absurd h (runFrom_throw_ne _ _)
  · exact absurd h (runFrom_throw_ne _ _)

/-! ### Values of every kind -/

/-- The value reader gives values that fit the level it reads at, and so do the items and
members it collects; by induction on the steps, each kind of value from the kinds inside it. -/
theorem value_items_members : ∀ fuel : Nat,
    (∀ n, 1 ≤ n → Yields (JsonRead.value fuel) n (Json.Fits n)) ∧
    (∀ n first acc, 1 ≤ n → (∀ x ∈ acc, x.Fits n) →
      Yields (JsonRead.items fuel first acc) n fun xs => ∀ x ∈ xs, x.Fits n) ∧
    (∀ n first acc, 1 ≤ n → (∀ p ∈ acc, (p.2).Fits n) →
      Yields (JsonRead.members fuel first acc) n fun ms => ∀ p ∈ ms, (p.2).Fits n) := by
  intro fuel
  induction fuel with
  | zero =>
    refine ⟨fun n _ => ?_, fun n first acc _ _ => ?_, fun n first acc _ _ => ?_⟩
    · rw [JsonRead.value]
      exact failPeek _
    · rw [JsonRead.items]
      exact failPeek _
    · rw [JsonRead.members]
      exact failPeek _
  | succ fuel ih =>
    obtain ⟨hvalue, hitems, hmembers⟩ := ih
    refine ⟨fun n hn => ?_, fun n first acc hn hacc => ?_, fun n first acc hn hacc => ?_⟩
    · rw [JsonRead.value]
      refine placed (skipBlanks.bind fun c _ => ?_)
      split
      · exact failPeek _
      -- a scalar takes no level; an array or object is read one level further in
      refine ifThenElse (fun _ => bump.bind fun _ _ => (keywordTail _).bind fun _ _ => pure ⟨.null, hn⟩) fun _ => ?_
      refine ifThenElse (fun _ => bump.bind fun _ _ => (keywordTail _).bind fun _ _ => pure ⟨.bool true, hn⟩)
        fun _ => ?_
      refine ifThenElse (fun _ => bump.bind fun _ _ => (keywordTail _).bind fun _ _ => pure ⟨.bool false, hn⟩)
        fun _ => ?_
      refine ifThenElse (fun _ => bump.bind fun _ _ => (number false).map fun _ h => ⟨.num h, hn⟩) fun _ => ?_
      refine ifThenElse (fun _ => (number true).map fun _ h => ⟨.num h, hn⟩) fun _ => ?_
      refine ifThenElse (fun _ => bump.bind fun _ _ => string.map fun s _ => ⟨.str s, hn⟩) fun _ => ?_
      refine ifThenElse (fun _ => ?_) fun _ => ifThenElse (fun _ => ?_) fun _ => failPeek _
      · have hbody : 2 ≤ n → Yields (JsonRead.items fuel true []) (n - 1)
            fun xs => 2 ≤ n ∧ ∀ x ∈ xs, x.Fits (n - 1) :=
          fun h2 => (hitems (n - 1) true [] (by omega) (by simp)).mono fun _ hxs => ⟨h2, hxs⟩
        refine (bracketed hbody endArray).map fun xs h => ⟨.arr fun x hx => (h.2 x hx).1, ?_⟩
        have := Json.depthItems_lt (show 0 < n - 1 by omega) fun x hx => (h.2 x hx).2
        simp only [Json.depth]
        omega
      · have hbody : 2 ≤ n → Yields (JsonRead.members fuel true []) (n - 1)
            fun ms => 2 ≤ n ∧ ∀ p ∈ ms, (p.2).Fits (n - 1) :=
          fun h2 => (hmembers (n - 1) true [] (by omega) (by simp)).mono fun _ hms => ⟨h2, hms⟩
        exact (bracketed hbody endObject).map fun ms h => sortedObj_fits h.1 h.2
    · rw [JsonRead.items]
      refine (nextElement first).bind fun b _ => ?_
      split
      · exact (hvalue n hn).bind fun x hx => hitems n false (x :: acc) hn (List.forall_mem_cons.2 ⟨hx, hacc⟩)
      · exact pure fun x hx => hacc x (List.mem_reverse.1 hx)
    · rw [JsonRead.members]
      refine (nextKey first).bind fun key _ => ?_
      split
      · exact pure fun p hp => hacc p (List.mem_reverse.1 hp)
      · exact colon.bind fun _ _ => (hvalue n hn).bind fun x hx =>
          hmembers n false (_ :: acc) hn (List.forall_mem_cons.2 ⟨hx, hacc⟩)

/-- The value reader gives canonical values with fewer levels of nesting than it has left. -/
theorem value (fuel : Nat) (hn : 1 ≤ n) : Yields (JsonRead.value fuel) n (Json.Fits n) :=
  (value_items_members fuel).1 n hn

theorem anyValue (hn : 1 ≤ n) : Yields JsonRead.anyValue n (Json.Fits n) :=
  fuelFor.bind fun fuel _ => value fuel hn

/-! ### Values checked and dropped -/

/-- Skipping a value takes no level: it is checked without nesting. -/
theorem skip_all : ∀ fuel : Nat,
    Yields (JsonRead.skip fuel) n (fun _ => True) ∧
    (∀ first, Yields (JsonRead.skip.skipItems fuel first) n fun _ => True) ∧
    (∀ first, Yields (JsonRead.skip.skipMembers fuel first) n fun _ => True) ∧
    Yields (JsonRead.skip.skipMember fuel) n fun _ => True := by
  intro fuel
  induction fuel with
  | zero =>
    refine ⟨?_, fun _ => ?_, fun _ => ?_, ?_⟩
    · rw [JsonRead.skip]
      exact failPeek _
    · rw [JsonRead.skip.skipItems]
      exact failPeek _
    · rw [JsonRead.skip.skipMembers]
      exact failPeek _
    · rw [JsonRead.skip.skipMember]
      exact failPeek _
  | succ fuel ih =>
    obtain ⟨hskip, hitems, hmembers, hmember⟩ := ih
    refine ⟨?_, fun first => ?_, fun first => ?_, ?_⟩
    · rw [JsonRead.skip]
      refine skipBlanks.bind fun c _ => ?_
      split
      · exact failPeek _
      refine ifThenElse (fun _ => bump.bind fun _ _ => keywordTail _) fun _ => ?_
      refine ifThenElse (fun _ => bump.bind fun _ _ => keywordTail _) fun _ => ?_
      refine ifThenElse (fun _ => bump.bind fun _ _ => keywordTail _) fun _ => ?_
      refine ifThenElse (fun _ => bump.bind fun _ _ => skipNumberText) fun _ => ?_
      refine ifThenElse (fun _ => skipNumberText) fun _ => ?_
      refine ifThenElse (fun _ => bump.bind fun _ _ => skipStringBody) fun _ => ?_
      refine ifThenElse (fun _ => bump.bind fun _ _ => hitems true) fun _ => ?_
      exact ifThenElse (fun _ => bump.bind fun _ _ => hmembers true) fun _ => failPeek _
    · rw [JsonRead.skip.skipItems]
      refine skipBlanks.bind fun c _ => ?_
      split
      · exact bump
      · split
        · rw [seqRight_eq_bind]
          exact hskip.bind fun _ _ => hitems false
        · exact bump.bind fun _ _ => hskip.bind fun _ _ => hitems false
      · split
        · exact hskip.bind fun _ _ => hitems false
        · exact failPeek _
      · exact failPeek _
    · rw [JsonRead.skip.skipMembers]
      refine skipBlanks.bind fun c _ => ?_
      split
      · exact bump
      · split
        · exact failPeek _
        · exact bump.bind fun _ _ => hmember.bind fun _ _ => hmembers false
      · split
        · exact hmember.bind fun _ _ => hmembers false
        · exact failPeek _
      · exact failPeek _
    · rw [JsonRead.skip.skipMember]
      refine skipBlanks.bind fun c _ => ?_
      split
      · refine bump.bind fun _ _ => skipStringBody.bind fun _ _ => skipBlanks.bind fun c _ => ?_
        dsimp only
        split
        · exact bump.bind fun _ _ => hskip
        · exact after_failure (failPeek _)
        · exact after_failure (failPeek _)
      · exact failPeek _
      · exact failPeek _

theorem skipAny : Yields JsonRead.skipAny n fun _ => True :=
  fuelFor.bind fun fuel _ => (skip_all fuel).1

theorem skipMember : Yields JsonRead.skipMember n fun _ => True :=
  colon.bind fun _ _ => skipAny

/-! ### Typed readers -/

theorem text : Yields JsonRead.text n fun _ => True := by
  unfold JsonRead.text
  refine placed (skipBlanks.bind fun c _ => ?_)
  split
  · exact failPeek _
  · exact bump.bind fun _ _ => string
  · exact wrongKind _

/-- `null` gives nothing; anything else is read by the reader given. -/
theorem optional {x : JsonRead α} (hx : Yields x n P) : Yields (JsonRead.optional x) n fun o => ∀ a ∈ o, P a := by
  unfold JsonRead.optional
  refine skipBlanks.bind fun c _ => ?_
  split
  · exact bump.bind fun _ _ => (keywordTail _).bind fun _ _ => pure fun _ h => nomatch h
  · exact hx.map fun a ha a' h => Option.some.inj h ▸ ha

/-- A timestamp read is valid. -/
theorem instant : Yields JsonRead.instant n Instant.Valid := by
  unfold JsonRead.instant
  refine placed (skipBlanks.bind fun c _ => ?_)
  split
  · exact failPeek _
  · refine bump.bind fun _ _ => string.bind fun s _ => ?_
    split
    · rename_i t ht
      exact pure (Instant.parse_valid ht)
    · exact reject _
  · exact wrongKind _

/-- A number read for a field of width `max` is at most `max`. -/
theorem natUpTo (max : Nat) (expected : String) : Yields (JsonRead.natUpTo max expected) n (· ≤ max) := by
  unfold JsonRead.natUpTo
  dsimp only
  refine placed (skipBlanks.bind fun c _ => ?_)
  -- only a natural number within the bound passes the check after the number
  split
  · exact failPeek _
  · refine bump.bind fun _ _ => (number false).bind fun m _ => ?_
    split <;> (try split) <;> first | exact pure ‹_› | exact reject _
  · split
    · refine (number true).bind fun m _ => ?_
      split <;> (try split) <;> first | exact pure ‹_› | exact reject _
    · exact wrongKind _

theorem variantName (variants : List (String × α)) : Yields (JsonRead.variantName variants) n fun _ => True := by
  unfold JsonRead.variantName
  refine placed (skipBlanks.bind fun c _ => ?_)
  split
  · exact failPeek _
  · refine bump.bind fun _ _ => string.bind fun s _ => ?_
    split
    · exact pure trivial
    · exact reject _
  · exact wrongKind _

theorem unitValue : Yields JsonRead.unitValue n fun _ => True := by
  unfold JsonRead.unitValue
  refine placed (skipBlanks.bind fun c _ => ?_)
  split
  · exact failPeek _
  · exact bump.bind fun _ _ => keywordTail _
  · exact wrongKind _

/-- An enumeration is read at the level it starts at, also as a one-key object. -/
theorem enumeration (variants : List (String × α)) : Yields (JsonRead.enumeration variants) n fun _ => True := by
  unfold JsonRead.enumeration
  refine skipBlanks.bind fun c _ => ?_
  split
  · exact failPeek _
  · exact variantName variants
  · -- the one key and its null are read one level further in
    refine (nested (P := fun _ => True) fun _ => ?_).bind fun v _ => skipBlanks.bind fun c _ => ?_
    · exact bump.bind fun _ _ => (variantName variants).bind fun _ _ =>
        colon.bind fun _ _ => unitValue.bind fun _ _ => pure trivial
    split
    · exact bump.bind fun _ _ => pure trivial
    · exact fail _
    · exact fail _
  · exact failPeek _

/-! ### Arrays, maps and records -/

theorem itemsOf {item : JsonRead α} (hi : Yields item n P) :
    ∀ fuel first acc, (∀ x ∈ acc, P x) → Yields (JsonRead.itemsOf item fuel first acc) n fun xs => ∀ x ∈ xs, P x
  | 0, _, _, _ => by
    rw [JsonRead.itemsOf]
    exact failPeek _
  | fuel + 1, first, acc, hacc => by
    rw [JsonRead.itemsOf]
    refine (nextElement first).bind fun b _ => ?_
    split
    · exact hi.bind fun x hx => itemsOf hi fuel false (x :: acc) (List.forall_mem_cons.2 ⟨hx, hacc⟩)
    · exact pure fun x hx => hacc x (List.mem_reverse.1 hx)

/-- An array gives a list of what its items give, read one level further in. -/
theorem list {item : JsonRead α} (hi : 2 ≤ n → Yields item (n - 1) P) :
    Yields (JsonRead.list item) n fun xs => ∀ x ∈ xs, P x := by
  unfold JsonRead.list
  refine placed (skipBlanks.bind fun c _ => ?_)
  split
  · exact failPeek _
  · exact bracketed (fun h2 => fuelFor.bind fun fuel _ => itemsOf (hi h2) fuel true [] (by simp)) endArray
  · exact wrongKind _

theorem entriesOf {val : JsonRead α} (hv : Yields val n P) :
    ∀ fuel first acc, Keyed P acc → Yields (JsonRead.entriesOf val fuel first acc) n (Keyed P)
  | 0, _, _, _ => by
    rw [JsonRead.entriesOf]
    exact failPeek _
  | fuel + 1, first, acc, hacc => by
    rw [JsonRead.entriesOf]
    refine (nextKey first).bind fun key _ => ?_
    split
    · exact pure hacc
    · exact colon.bind fun _ _ => hv.bind fun v hv' => entriesOf hv fuel false _ (hacc.insertKey _ hv')

/-- A map gives entries with strictly increasing keys, its values read one level further in. -/
theorem keyedMap {val : JsonRead α} (hv : 2 ≤ n → Yields val (n - 1) P) :
    Yields (JsonRead.keyedMap val) n (Keyed P) := by
  unfold JsonRead.keyedMap
  refine placed (skipBlanks.bind fun c _ => ?_)
  split
  · exact failPeek _
  · exact bracketed (fun h2 => fuelFor.bind fun fuel _ => entriesOf (hv h2) fuel true [] (by simp [Keyed])) endObject
  · exact wrongKind _

/-- Members read into a state keep every invariant that each step keeps. -/
theorem membersOf {σ : Type} {step : σ → String → JsonRead σ} {I : σ → Prop}
    (hstep : ∀ s key, I s → Yields (step s key) n I) :
    ∀ fuel first s, I s → Yields (JsonRead.membersOf step fuel first s) n I
  | 0, _, _, _ => by
    rw [JsonRead.membersOf]
    exact failPeek _
  | fuel + 1, first, s, hs => by
    rw [JsonRead.membersOf]
    refine (nextKey first).bind fun key _ => ?_
    split
    · exact pure hs
    · exact (hstep s _ hs).bind fun s' hs' => membersOf hstep fuel false s' hs'

/-- A record, from an object or from an array, is read one level further in. -/
theorem record (name : String) {fm fi : JsonRead α} (hm : 2 ≤ n → Yields fm (n - 1) P)
    (hi : 2 ≤ n → Yields fi (n - 1) P) : Yields (JsonRead.record name fm fi) n P := by
  unfold JsonRead.record
  refine placed (skipBlanks.bind fun c _ => ?_)
  split
  · exact failPeek _
  · exact bracketed hi endArray
  · exact bracketed hm endObject
  · exact wrongKind _

theorem objectRecord (name : String) {fm : JsonRead α} (hm : 2 ≤ n → Yields fm (n - 1) P) :
    Yields (JsonRead.objectRecord name fm) n P := by
  unfold JsonRead.objectRecord
  refine placed (skipBlanks.bind fun c _ => ?_)
  split
  · exact failPeek _
  · exact bracketed hm endObject
  · exact wrongKind _

/-- A field is read after its colon, and only once. -/
theorem fieldOnce (name : String) (given : Option α) {read : JsonRead α} (hr : Yields read n P) :
    Yields (JsonRead.fieldOnce name given read) n P := by
  unfold JsonRead.fieldOnce
  dsimp only
  split
  · exact after_failure (reject _)
  · exact colon.bind fun _ _ => hr

/-- A step that reads a field and sets it in a draft keeps whatever setting the field keeps. -/
theorem fieldStep {σ : Type} {I : σ → Prop} {read : JsonRead α} (hr : Yields read n P) {name : String}
    {given : Option α} {update : α → σ} (hu : ∀ a, P a → I (update a)) :
    Yields (JsonRead.fieldOnce name given read >>= fun a => Pure.pure (update a)) n I :=
  (fieldOnce name given hr).bind fun a ha => pure (hu a ha)

/-- A required field gives the value it was read with. -/
theorem required (name : String) (o : Option α) : Yields (JsonRead.required name o) n fun a => o = some a := by
  cases o with
  | some v => exact pure rfl
  | none => exact reject _

/-- A field of a record read from an array: the item, or the default when the array has
ended. -/
theorem positional {read : JsonRead α} (hr : Yields read n P) {dflt : Option α} (hd : ∀ a ∈ dflt, P a)
    (index : Nat) (expecting : String) (first : Bool) :
    Yields (JsonRead.positional read dflt index expecting first) n P := by
  unfold JsonRead.positional
  refine (nextElement first).bind fun b _ => ?_
  split
  · exact hr
  · split
    · exact pure (hd _ rfl)
    · exact reject _

end Yields

end JsonRead

end DocStore
