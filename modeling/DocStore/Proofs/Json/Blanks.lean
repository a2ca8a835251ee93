import DocStore.Proofs.Json.Reads
/-
  DocStore.Proofs.Json.Blanks — the readers take back a text written with blanks between
  its tokens, as the indented writer puts them.

  (1) A reader that starts by skipping blanks does, from before a run of blanks, what it
  does from after it (`SkipsBlanks`); so what it reads, it reads with blanks in front
  (`Reads.blanks`). The token readers are such readers; a key after a comma takes the
  blanks after the comma too (`Reads.nextKey_sep`).

  (2) The members of an object, laid out with blanks and commas (`MembersLaid`), are read
  one by one by `membersOf` from a state, whatever follows each member (`StepsAlong`,
  `Reads.membersOf_laid`). The entries of a keyed map are such members, each inserted in
  key order (`entriesOf_eq_membersOf`), so an object of strings written in any layout reads
  back as its entries inserted by key (`Reads.keyedMap_written`).
-/

namespace DocStore.JsonRead

open JsonText

variable {α β : Type} {F : List Char → Prop} {d b : Nat}

/-! ## Skipping blanks -/

/-- Scanning over a run of blanks stops at the first character that is no blank. -/
theorem skipBlanks_go_blank {bl rest : List Char} (hbl : Blank bl) (hr : NoLeadingBlank rest) (line col : Nat) :
    ∃ l c, skipBlanks.go (bl ++ rest) line col = (rest, l, c) := by
  induction bl generalizing line col with
  | nil => exact ⟨line, col, skipBlanks_go_of_noLeadingBlank hr line col⟩
  | cons x bl ih =>
    have hx : IsBlank x := hbl x List.mem_cons_self
    have hbl' : Blank bl := fun c hc => hbl c (List.mem_cons_of_mem x hc)
    rcases hx with rfl | rfl | rfl | rfl
    · obtain ⟨l, c, h⟩ := ih hbl' line (col + 1)
      exact ⟨l, c, by simp [skipBlanks.go, h]⟩
    · obtain ⟨l, c, h⟩ := ih hbl' line (col + 1)
      exact ⟨l, c, by simp [skipBlanks.go, h]⟩
    · obtain ⟨l, c, h⟩ := ih hbl' (line + 1) 0
      exact ⟨l, c, by simp [skipBlanks.go, h]⟩
    · obtain ⟨l, c, h⟩ := ih hbl' line (col + 1)
      exact ⟨l, c, by simp [skipBlanks.go, h]⟩

theorem runFrom_skipBlanks_blank {k : Cursor} {bl rest : List Char} (hbl : Blank bl) (hr : NoLeadingBlank rest)
    (hk : k.rest = bl ++ rest) :
    ∃ l c, runFrom skipBlanks k = (.ok rest.head?, { k with rest := rest, line := l, column := c }) := by
  obtain ⟨l, c, hgo⟩ := skipBlanks_go_blank hbl hr k.line k.column
  refine ⟨l, c, ?_⟩
  unfold skipBlanks
  rw [runFrom_bind_ok _ (runFrom_get k)]
  simp only [hk, hgo]
  rfl

theorem runFrom_tryCatch (x : JsonRead α) (h : ReadError → JsonRead α) (k : Cursor) :
    runFrom (tryCatch x h) k =
      match runFrom x k with
      | (.ok a, k') => (.ok a, k')
      | (.error e, k') => runFrom (h e) k' := by
  unfold runFrom
  rw [ExceptT.run_tryCatch, StateT.run_bind]
  rcases (ExceptT.run x).run k with ⟨_ | _, k'⟩ <;> rfl

theorem runFrom_bind (x : JsonRead α) (f : α → JsonRead β) (k : Cursor) :
    runFrom (x >>= f) k =
      match runFrom x k with
      | (.ok a, k') => runFrom (f a) k'
      | (.error e, k') => (.error e, k') := by
  unfold runFrom
  simp only [ExceptT.run_bind, StateT.run_bind]
  rcases (ExceptT.run x).run k with ⟨_ | _, k'⟩ <;> rfl

/-- A reader that skips blanks first: run before a run of blanks, it does what it does from
the first character after them (only the line and column differ). -/
def SkipsBlanks (r : JsonRead α) : Prop :=
  ∀ (k : Cursor) (bl rest : List Char), Blank bl → NoLeadingBlank rest → k.rest = bl ++ rest →
    ∃ l c, runFrom r k = runFrom r { k with rest := rest, line := l, column := c }

namespace SkipsBlanks

theorem skipBlanks_bind (f : Option Char → JsonRead α) : SkipsBlanks (skipBlanks >>= f) := by
  intro k bl rest hbl hr hk
  obtain ⟨l, c, hs⟩ := runFrom_skipBlanks_blank hbl hr hk
  -- after the blanks the skip takes nothing more
  have hs' : runFrom skipBlanks { k with rest := rest, line := l, column := c } =
      (.ok rest.head?, { k with rest := rest, line := l, column := c }) :=
    runFrom_skipBlanks hr
  exact ⟨l, c, by rw [runFrom_bind_ok f hs, runFrom_bind_ok f hs']⟩

theorem bind {x : JsonRead α} (h : SkipsBlanks x) (f : α → JsonRead β) : SkipsBlanks (x >>= f) := by
  intro k bl rest hbl hr hk
  obtain ⟨l, c, hx⟩ := h k bl rest hbl hr hk
  exact ⟨l, c, by rw [runFrom_bind, runFrom_bind, hx]⟩

theorem placed {x : JsonRead α} (h : SkipsBlanks x) : SkipsBlanks (placed x) := by
  intro k bl rest hbl hr hk
  obtain ⟨l, c, hx⟩ := h k bl rest hbl hr hk
  exact ⟨l, c, by unfold JsonRead.placed; rw [runFrom_tryCatch, runFrom_tryCatch, hx]⟩

end SkipsBlanks

namespace Reads

/-- What a reader that skips blanks first reads, it reads with blanks in front. -/
theorem blanks {r : JsonRead α} {t bl : List Char} {a : α} (hr : SkipsBlanks r) (h : Reads F d b r t a)
    (hbl : Blank bl) (hnb : ∀ rest, F rest → NoLeadingBlank (t ++ rest)) : Reads F d b r (bl ++ t) a := by
  intro k rest hF hk hdk hbk
  obtain ⟨l, c, hrun⟩ := hr k bl (t ++ rest) hbl (hnb rest hF) (by simp [hk])
  rw [hrun]
  exact h { k with rest := t ++ rest, line := l, column := c } rest hF rfl hdk hbk

end Reads

theorem text_skipsBlanks : SkipsBlanks text := by
  unfold text
  exact (SkipsBlanks.skipBlanks_bind _).placed

theorem colon_skipsBlanks : SkipsBlanks colon := by
  unfold colon
  exact SkipsBlanks.skipBlanks_bind _

theorem nextKey_skipsBlanks (first : Bool) : SkipsBlanks (nextKey first) := by
  unfold nextKey
  exact SkipsBlanks.skipBlanks_bind _

theorem keyedMap_skipsBlanks (val : JsonRead α) : SkipsBlanks (keyedMap val) := by
  unfold keyedMap
  exact (SkipsBlanks.skipBlanks_bind _).placed

theorem record_skipsBlanks (name : String) (fm fi : JsonRead α) : SkipsBlanks (record name fm fi) := by
  unfold record
  exact (SkipsBlanks.skipBlanks_bind _).placed

namespace Reads

/-- The key of a member, after the blanks before it and, unless it is the first, a comma and
the blanks after that. -/
theorem nextKey_sep {first : Bool} {bl sp : List Char} (key : String) (hbl : Blank bl) (hsp : JsonText.Sep first sp) :
    Reads F d b (nextKey first) (bl ++ sp ++ (quote key).toList) (some key) := by
  have hkey : Reads F d b (JsonRead.bump >>= fun _ => some <$> JsonRead.string) (quote key).toList (some key) := by
    rw [toList_quote]
    exact (bump (F := fun _ => True) '"').bind ((string key).map some) (fun _ _ => trivial)
  rw [List.append_assoc]
  refine blanks (nextKey_skipsBlanks first) ?_ hbl ?_
  · cases first
    · -- a comma, then blanks, then the key
      obtain ⟨b', hb', rfl⟩ := hsp
      unfold nextKey
      refine skipBlanks_bind (by simp [IsBlank]) ?_
      split
      · rename_i h
        simp at h
      · rw [if_neg (by decide)]
        refine (bump (F := fun _ => True) ',').bind ?_ (fun _ _ => trivial)
        refine blanks (SkipsBlanks.skipBlanks_bind _) ?_ hb' (fun _ _ => by simp [toList_quote, NoLeadingBlank, IsBlank])
        rw [toList_quote] at hkey ⊢
        exact skipBlanks_bind (by simp [IsBlank]) hkey
      · rename_i _ hne h
        exact absurd (Option.some.inj h).symm hne
      · rename_i h
        simp at h
    · simp only [JsonText.Sep, if_true] at hsp
      subst hsp
      simpa using nextKey_key (F := F) (d := d) (b := b) true key
  · intro rest _
    cases first
    · obtain ⟨b', _, rfl⟩ := hsp
      simp [NoLeadingBlank, IsBlank]
    · simp only [JsonText.Sep, if_true] at hsp
      subst hsp
      simp [toList_quote, NoLeadingBlank, IsBlank]

/-- A field given once, its colon after blanks. -/
theorem fieldOnce_sep {read : JsonRead α} {t bl : List Char} {a : α} (name : String) (hbl : Blank bl)
    (h : Reads F d b read t a) : Reads F d b (JsonRead.fieldOnce name none read) (bl ++ ':' :: t) a := by
  have hcolon := blanks colon_skipsBlanks (colon (F := fun _ => True) (d := d) (b := b)) hbl
    (fun _ _ => by simp [NoLeadingBlank, IsBlank])
  unfold JsonRead.fieldOnce
  rw [show bl ++ ':' :: t = (bl ++ [':']) ++ t by simp]
  exact hcolon.bind h (fun _ _ => trivial)

end Reads

/-! ## Members laid out with blanks -/

/-- `t` lays out members, each a key and the text `u` after it: blanks before every key
and before the end, a comma before every key but the first. -/
inductive MembersLaid : Bool → List (String × List Char) → List Char → Prop
  | done {first : Bool} {bl : List Char} : Blank bl → MembersLaid first [] bl
  | next {first : Bool} {key : String} {u : List Char} {ms : List (String × List Char)} {bl sp t : List Char} :
      Blank bl → JsonText.Sep first sp → MembersLaid false ms t →
      MembersLaid first ((key, u) :: ms) (bl ++ sp ++ (quote key).toList ++ u ++ t)

/-- Members read by `step` from state `s` to `s'`, each from the text after its key, whatever
follows that text. -/
inductive StepsAlong {σ : Type} (step : σ → String → JsonRead σ) (d b : Nat) :
    σ → List (String × List Char) → σ → Prop
  | nil (s : σ) : StepsAlong step d b s [] s
  | cons {s s₁ s' : σ} {key : String} {u : List Char} {ms : List (String × List Char)} :
      (∀ F, Reads F d b (step s key) u s₁) → StepsAlong step d b s₁ ms s' →
      StepsAlong step d b s ((key, u) :: ms) s'

namespace Reads

theorem membersOf_laid {σ : Type} {step : σ → String → JsonRead σ} {s s' : σ} {ms : List (String × List Char)}
    (h : StepsAlong step d b s ms s') :
    ∀ {first : Bool} {t : List Char} (fuel : Nat), MembersLaid first ms t → ms.length < fuel →
      Reads (ClosesWith '}') d b (JsonRead.membersOf step fuel first s) t s' := by
  induction h with
  | nil s =>
    intro first t fuel hl hfuel
    obtain ⟨fuel, rfl⟩ : ∃ f, fuel = f + 1 := ⟨fuel - 1, by simp at hfuel; omega⟩
    cases hl with
    | done hbl =>
      unfold JsonRead.membersOf
      have hend := blanks (nextKey_skipsBlanks first) (nextKey_close (d := d) (b := b) first) hbl
        (fun rest hclose => by
          obtain ⟨r', hr⟩ := hclose
          simp [hr, NoLeadingBlank, IsBlank])
      rw [List.append_nil] at hend
      rw [← List.append_nil t]
      refine hend.bind ?_ ?_
      · exact Reads.pure s
      · exact fun _ h => h
  | @cons s s₁ s' key u ms hstep _ ih =>
    intro first t fuel hl hfuel
    obtain ⟨fuel, rfl⟩ : ∃ f, fuel = f + 1 := ⟨fuel - 1, by omega⟩
    cases hl with
    | @next _ _ _ _ bl sp t' hbl hsp hl' =>
      unfold JsonRead.membersOf
      have hrest := (hstep (fun _ => True)).bind (f := fun s₁ => JsonRead.membersOf step fuel false s₁)
        (ih fuel hl' (by simp at hfuel; omega)) (fun _ _ => trivial)
      have htext : bl ++ sp ++ (quote key).toList ++ u ++ t' = (bl ++ sp ++ (quote key).toList) ++ (u ++ t') := by
        simp
      rw [htext]
      exact (nextKey_sep (F := fun _ => True) key hbl hsp).bind hrest (fun _ _ => trivial)

end Reads

/-! ## Keyed maps -/

/-- One entry of a keyed map after its key: the colon, the value, and the entry inserted. -/
def entryStep (val : JsonRead α) (acc : List (String × α)) (key : String) : JsonRead (List (String × α)) := do
  colon
  let v ← val
  pure (insertKey key v acc)

/-- The entries of a keyed map are its members, each inserted by key. -/
theorem entriesOf_eq_membersOf (val : JsonRead α) :
    ∀ (fuel : Nat) (first : Bool) (acc : List (String × α)),
      entriesOf val fuel first acc = JsonRead.membersOf (entryStep val) fuel first acc
  | 0, _, _ => rfl
  | fuel + 1, first, acc => by
    rw [entriesOf, JsonRead.membersOf]
    congr 1
    funext c
    cases c with
    | none => rfl
    | some key => simp [entryStep, entriesOf_eq_membersOf val fuel]

/-- An object of strings, written in any layout, is laid out as members whose texts the
entry step reads, inserting each entry by key. -/
theorem laid_of_written (es : List (String × String)) :
    ∀ {first : Bool} {t : List Char} (acc : List (String × String)),
      Json.MembersWritten first (es.map fun p => (p.1, .str p.2)) t →
      ∃ ms, MembersLaid first ms t ∧ ms.length = es.length ∧
        StepsAlong (entryStep text) d b acc ms (es.foldl (fun acc p => insertKey p.1 p.2 acc) acc) := by
  induction es with
  | nil =>
    intro first t acc hw
    cases hw with
    | done hbl => exact ⟨[], .done hbl, rfl, .nil acc⟩
  | cons e es ih =>
    intro first t acc hw
    obtain ⟨key, v⟩ := e
    cases hw with
    | @next _ _ _ _ bl sp b₁ b₂ tv t' hbl hsp hb₁ hb₂ hwv hw' =>
      cases hwv
      obtain ⟨ms, hl, hlen, hsteps⟩ := ih (insertKey key v acc) hw'
      -- the entry's text: blanks, the colon, blanks, the quoted value
      have hentry : ∀ F, Reads F d b (entryStep text acc key) (b₁ ++ ':' :: b₂ ++ (quote v).toList)
          (insertKey key v acc) := by
        intro F
        have hcolon := Reads.blanks colon_skipsBlanks (Reads.colon (F := fun _ => True) (d := d) (b := b)) hb₁
          (fun rest _ => by simp [NoLeadingBlank, IsBlank])
        have hval := Reads.blanks text_skipsBlanks (Reads.text (F := F) (d := d) (b := b) v) hb₂
          (fun _ _ => by simp [toList_quote, NoLeadingBlank, IsBlank])
        have htext : b₁ ++ ':' :: b₂ ++ (quote v).toList = (b₁ ++ [':']) ++ ((b₂ ++ (quote v).toList) ++ []) := by
          simp
        unfold entryStep
        rw [htext]
        refine hcolon.bind (hval.bind (Reads.pure _) ?_) (fun _ _ => trivial)
        exact fun _ h => h
      refine ⟨(key, b₁ ++ ':' :: b₂ ++ (quote v).toList) :: ms, ?_, by simp [hlen], .cons hentry hsteps⟩
      have hnext : MembersLaid first ((key, b₁ ++ ':' :: b₂ ++ (quote v).toList) :: ms)
          (bl ++ sp ++ (quote key).toList ++ (b₁ ++ ':' :: b₂ ++ (quote v).toList) ++ t') :=
        .next hbl hsp hl
      simpa using hnext

/-- Every member's text holds at least its key's quotes. -/
theorem length_le_of_membersWritten :
    ∀ {ms : List (String × Json)} {first : Bool} {t : List Char}, Json.MembersWritten first ms t → ms.length ≤ t.length
  | [], _, _, _ => Nat.zero_le _
  | _ :: _, _, _, hw => by
    cases hw with
    | next _ _ _ _ _ hw' =>
      have := length_le_of_membersWritten hw'
      simp [toList_quote]
      omega

/-- An entry whose key sorts after every key so far goes at the end. -/
theorem insertKey_of_lt {key : String} {v : α} :
    ∀ {acc : List (String × α)}, (∀ p ∈ acc, p.1 < key) → insertKey key v acc = acc ++ [(key, v)]
  | [], _ => rfl
  | (k', v') :: rest, h => by
    have hk' : k' < key := h (k', v') List.mem_cons_self
    rw [insertKey, if_neg (lt_asymm hk'), if_neg (ne_of_gt hk'),
      insertKey_of_lt fun p hp => h p (List.mem_cons_of_mem _ hp)]
    rfl

/-- Entries given in key order are inserted as they come. -/
theorem foldl_insertKey_sorted :
    ∀ {es acc : List (String × α)}, es.Pairwise (fun p q => p.1 < q.1) → (∀ p ∈ acc, ∀ q ∈ es, p.1 < q.1) →
      es.foldl (fun acc p => insertKey p.1 p.2 acc) acc = acc ++ es
  | [], acc, _, _ => by simp
  | e :: es, acc, hs, hacc => by
    have he : ∀ p ∈ acc, p.1 < e.1 := fun p hp => hacc p hp e List.mem_cons_self
    rw [List.foldl_cons, insertKey_of_lt he, foldl_insertKey_sorted (List.pairwise_cons.1 hs).2]
    · simp
    · intro p hp q hq
      rcases List.mem_append.1 hp with hp | hp
      · exact hacc p hp q (List.mem_cons_of_mem e hq)
      · rw [List.mem_singleton.1 hp]
        exact (List.pairwise_cons.1 hs).1 q hq

namespace Reads

/-- A keyed map of strings, written in any layout, reads back as its entries inserted by key. -/
theorem keyedMap_written {es : List (String × String)} {t : List Char}
    (hw : Json.Written (.obj (es.map fun p => (p.1, .str p.2))) t) (hd : 1 ≤ d) (hb : es.length < b) :
    Reads F (d + 1) b (keyedMap JsonRead.text) t (es.foldl (fun acc p => insertKey p.1 p.2 acc) []) := by
  cases hw with
  | obj hmw =>
    obtain ⟨ms, hl, hlen, hsteps⟩ := laid_of_written (d := d) (b := b) es [] hmw
    unfold keyedMap
    refine placed (skipBlanks_bind (by simp [IsBlank]) ?_)
    split
    · rename_i h
      simp at h
    · have hbody : Reads (ClosesWith '}') d b (fuelFor >>= fun n => entriesOf JsonRead.text n true []) _
          (es.foldl (fun acc p => insertKey p.1 p.2 acc) []) :=
        fuelFor_bind fun n hn => by
          rw [entriesOf_eq_membersOf]
          exact membersOf_laid hsteps n hl (by omega)
      exact bracketed hd hbody endObject (fun rest _ => ⟨rest, rfl⟩)
    · rename_i hne h
      exact absurd (Option.some.inj h).symm hne

end Reads

end DocStore.JsonRead
