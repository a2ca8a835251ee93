import DocStore.Proofs.Json.Values
/-
  DocStore.Proofs.Json.Fields — the typed readers take back the values they are given, from
  every text of them.

  `Decodes read d b v a`: after any blanks and then any text of the value `v` (`Json.Written`),
  `read` gives `a` and stops right after the text, whatever may follow a value there. Strings,
  timestamps, variant names, bounded numbers, optional strings and any value at all decode so
  (`Decodes.text`, `Decodes.instant`, `Decodes.enumeration`, `Decodes.natUpTo`,
  `Decodes.optional`, `Decodes.anyValue`); so do arrays of decoded items (`Decodes.list`) and
  objects of decoded entries in key order (`Decodes.keyedMap`).

  A record is read member by member: a step takes the text after each key, its colon and its
  value, into a draft (`MemberStep`), and `StepsOver` chains the steps along a list of members.
  A field read once (`memberStep_field`) and an entry kept after its colon (`memberStep_colon`)
  are such steps. Members so read, in any layout, make the object a record is read from
  (`Reads.membersOf_written`, `Reads.membersBody`, `Decodes.record`, `Decodes.objectRecord`).
-/

namespace DocStore.JsonRead

open JsonText

variable {α β σ : Type} {F : List Char → Prop} {d b : Nat}

/-! ## Readers that start with blanks -/

theorem instant_skipsBlanks : SkipsBlanks instant := by
  unfold instant
  exact (SkipsBlanks.skipBlanks_bind _).placed

theorem natUpTo_skipsBlanks (max : Nat) (expected : String) : SkipsBlanks (natUpTo max expected) := by
  unfold natUpTo
  exact (SkipsBlanks.skipBlanks_bind _).placed

theorem optional_skipsBlanks (x : JsonRead α) : SkipsBlanks (optional x) := by
  unfold optional
  exact SkipsBlanks.skipBlanks_bind _

theorem enumeration_skipsBlanks (vs : List (String × α)) : SkipsBlanks (enumeration vs) := by
  unfold enumeration
  exact SkipsBlanks.skipBlanks_bind _

theorem list_skipsBlanks (item : JsonRead α) : SkipsBlanks (list item) := by
  unfold list
  exact (SkipsBlanks.skipBlanks_bind _).placed

theorem objectRecord_skipsBlanks (name : String) (fm : JsonRead α) : SkipsBlanks (objectRecord name fm) := by
  unfold objectRecord
  exact (SkipsBlanks.skipBlanks_bind _).placed

namespace Reads

/-- A number below a bound, before whatever cannot extend its digits. -/
theorem natUpTo_of_ends {n max : Nat} (expected : String) (hn : n ≤ max) (hmax : max ≤ JsonScan.u64Max)
    (hF : ∀ r, F r → JsonScan.Ends r) : Reads F d b (JsonRead.natUpTo max expected) (Nat.toDigits 10 n) n := by
  obtain ⟨c, cs, hcs⟩ := List.exists_cons_of_ne_nil (Nat.toDigits_ne_nil (n := n) (b := 10))
  have hc : c.isDigit = true := Nat.isDigit_of_mem_toDigits (by omega) (by omega) (hcs ▸ List.mem_cons_self)
  have hscan : JsonScan.number true (Nat.toDigits 10 n) = .ok (.nat n, [], (Nat.toDigits 10 n).length) := by
    simpa using JsonScan.number_toDigits (Nat.le_trans hn hmax) (show JsonScan.Closes [] from trivial)
  unfold JsonRead.natUpTo
  rw [hcs]
  refine placed (skipBlanks_bind (not_isBlank_of_isDigit hc) ?_)
  split
  · rename_i h
    simp at h
  · rename_i h
    obtain rfl := Option.some.inj h
    simp at hc
  · rename_i h
    obtain rfl := Option.some.inj h
    rw [if_pos hc, ← hcs]
    refine (scanned hscan hF).bind_pure ?_
    simp only [if_pos hn]

/-- A record that can only be an object, written as one. -/
theorem objectRecord {fm : JsonRead α} {t : List Char} {a : α} (name : String) (hd : 1 ≤ d)
    (h : Reads (ClosesWith '}') d b fm t a) : Reads F (d + 1) b (objectRecord name fm) ('{' :: t ++ ['}']) a := by
  unfold JsonRead.objectRecord
  refine placed (skipBlanks_bind (by simp [IsBlank]) ?_)
  split
  · rename_i h
    simp at h
  · exact bracketed hd h endObject (fun rest _ => ⟨rest, rfl⟩)
  · rename_i hne h
    exact absurd (Option.some.inj h).symm hne

end Reads

/-! ## Decoding a value -/

/-- `read` takes back the value `v` as `a`: after any blanks, from every text of `v`, whatever
may follow a value. -/
def Decodes (read : JsonRead α) (d b : Nat) (v : Json) (a : α) : Prop :=
  ∀ bl t, Blank bl → Json.Written v t → Reads Stops d b read (bl ++ t) a

namespace Decodes

variable {read : JsonRead α} {v : Json} {a : α}

/-- A reader that starts by skipping blanks decodes what it reads from each text alone. -/
theorem of_skipsBlanks (hs : SkipsBlanks read) (h : ∀ t, Json.Written v t → Reads Stops d b read t a) :
    Decodes read d b v a :=
  fun _ t hbl hw => Reads.blanks hs (h t hw) hbl (fun rest _ => hw.noLeadingBlank rest)

theorem reads (h : Decodes read d b v a) {t : List Char} (hw : Json.Written v t) : Reads Stops d b read t a := by
  simpa using h [] t (fun _ h => absurd h List.not_mem_nil) hw

theorem mono (h : Decodes read d b v a) {d' b' : Nat} (hd : d ≤ d') (hb : b ≤ b') : Decodes read d' b' v a :=
  fun bl t hbl hw => (h bl t hbl hw).mono (fun _ h => h) hd hb

theorem text (s : String) : Decodes text d b (.str s) s :=
  of_skipsBlanks text_skipsBlanks fun _ hw => by
    cases hw
    exact Reads.text s

theorem instant {s : String} {t : Instant} (ht : Instant.parse s = .ok t) : Decodes instant d b (.str s) t :=
  of_skipsBlanks instant_skipsBlanks fun _ hw => by
    cases hw
    exact Reads.instant ht

theorem enumeration {vs : List (String × α)} {s s' : String} (h : vs.find? (·.1 == s) = some (s', a)) :
    Decodes (enumeration vs) d b (.str s) a :=
  of_skipsBlanks (enumeration_skipsBlanks vs) fun _ hw => by
    cases hw
    exact Reads.enumeration h

theorem natUpTo {n max : Nat} (expected : String) (hn : n ≤ max) (hmax : max ≤ JsonScan.u64Max) :
    Decodes (natUpTo max expected) d b (Json.ofNat n) n :=
  of_skipsBlanks (natUpTo_skipsBlanks max expected) fun _ hw => by
    cases hw
    rw [JsonScan.toList_number_nat]
    exact Reads.natUpTo_of_ends expected hn hmax fun _ h => h.ends

/-- A present optional string: it does not start as `null` does. -/
theorem optional {x : JsonRead α} {s : String} (h : Decodes x d b (.str s) a) :
    Decodes (optional x) d b (.str s) (some a) :=
  of_skipsBlanks (optional_skipsBlanks x) fun t hw => by
    have hx := h.reads hw
    cases hw
    rw [toList_quote] at hx ⊢
    exact Reads.optional_some hx (by simp [IsBlank]) (by decide)

/-- Any value as the reader gives it, with the steps and levels of nesting it needs. -/
theorem anyValue (hc : v.Canonical) (hf : v.FloatsRead) (hs : v.steps ≤ b) (hd : v.depth < d) :
    Decodes anyValue d b v v := by
  intro bl t hbl hw
  unfold JsonRead.anyValue
  refine Reads.fuelFor_bind fun n hn => ?_
  obtain ⟨f, rfl⟩ : ∃ f, n = f + 1 := ⟨n - 1, by have := Json.steps_pos v; omega⟩
  exact Reads.blanks (value_skipsBlanks f) (Reads.value_written hw hc hf (by omega) hd) hbl
    (fun rest _ => hw.noLeadingBlank rest)

end Decodes

/-! ## Arrays -/

namespace Reads

/-- Items read one by one, each decoded from its own text, until the closing bracket. -/
theorem itemsOf_written {item : JsonRead α} {f : α → Json} :
    ∀ {es : List α}, (∀ e ∈ es, Decodes item d b (f e) e) →
      ∀ {first : Bool} {t : List Char} (acc : List α) (fuel : Nat), Json.ItemsWritten first (es.map f) t →
        es.length < fuel → Reads (ClosesWith ']') d b (JsonRead.itemsOf item fuel first acc) t (acc.reverse ++ es)
  | _, _, _, _, _, 0, _, hlen => absurd hlen (Nat.not_lt_zero _)
  | [], _, first, _, acc, fuel + 1, hw, _ => by
    cases hw with
    | done hbl =>
      unfold JsonRead.itemsOf
      rw [List.append_nil]
      exact (nextElement_blank first hbl).bind_pure rfl
  | e :: es, hes, first, _, acc, fuel + 1, hw, hlen => by
    rw [List.map_cons] at hw
    cases hw with
    | next hbl hsep hx hrest =>
      have ih := itemsOf_written (fun e' he' => hes e' (List.mem_cons_of_mem e he')) (e :: acc) fuel hrest
        (by simp at hlen; omega)
      unfold JsonRead.itemsOf
      rw [show acc.reverse ++ e :: es = (e :: acc).reverse ++ es by simp,
        show ∀ p q r u : List Char, p ++ q ++ r ++ u = (p ++ q) ++ (r ++ u) from fun _ _ _ _ => by simp]
      refine (nextElement_sep hbl hsep).bind ?_ (fun rest _ => by rw [List.append_assoc]; exact hx.startsItem _)
      rw [if_pos rfl]
      exact ((hes e List.mem_cons_self).reads hx).bind ih (fun rest hr => Json.ItemsWritten.stops hrest hr)

end Reads

/-- An array whose items each decode within the steps they take. -/
theorem Decodes.list {item : JsonRead α} {f : α → Json} {es : List α} (hd : 1 ≤ d)
    (hes : ∀ e ∈ es, (f e).steps < b → Decodes item d b (f e) e) (hb : (Json.arr (es.map f)).steps ≤ b) :
    Decodes (list item) (d + 1) b (.arr (es.map f)) es :=
  Decodes.of_skipsBlanks (list_skipsBlanks item) fun _ hw => by
    have hitem : ∀ e ∈ es, Decodes item d b (f e) e := fun e he =>
      hes e he (Nat.lt_of_lt_of_le (Json.steps_lt_arr (List.mem_map_of_mem he)) hb)
    have hlen : es.length < b := by
      have := Json.length_lt_arr (es.map f)
      rw [List.length_map] at this
      omega
    cases hw with
    | arr hitems =>
      unfold JsonRead.list
      refine Reads.placed (Reads.skipBlanks_bind (by simp [IsBlank]) ?_)
      split
      · rename_i h
        simp at h
      · have hbody : Reads (ClosesWith ']') d b (fuelFor >>= fun n => itemsOf item n true []) _ es :=
          Reads.fuelFor_bind fun n hn => by simpa using Reads.itemsOf_written hitem [] n hitems (by omega)
        exact Reads.bracketed hd hbody Reads.endArray (fun rest _ => ⟨rest, rfl⟩)
      · rename_i hne h
        exact absurd (Option.some.inj h).symm hne

/-! ## Members -/

/-- `step`, from the draft `s`, takes the text after the key `k` of a member whose value is
`v` (blanks, the colon, blanks and any text of `v`) and comes to the draft `s'`. -/
def MemberStep (step : σ → String → JsonRead σ) (d b : Nat) (s : σ) (k : String) (v : Json) (s' : σ) :
    Prop :=
  ∀ b₁ b₂ tv, Blank b₁ → Blank b₂ → Json.Written v tv → Reads Stops d b (step s k) (b₁ ++ ':' :: b₂ ++ tv) s'

/-- `step` takes the members `ms`, one after another, from the draft `s` to `s'`. -/
inductive StepsOver (step : σ → String → JsonRead σ) (d b : Nat) : σ → List (String × Json) → σ → Prop
  | nil (s : σ) : StepsOver step d b s [] s
  | cons {s s₁ s' : σ} {k : String} {v : Json} {ms : List (String × Json)} :
      MemberStep step d b s k v s₁ → StepsOver step d b s₁ ms s' → StepsOver step d b s ((k, v) :: ms) s'

variable {step : σ → String → JsonRead σ} {s s₁ s' : σ} {k : String} {v : Json} {a : α}

/-- A step to a draft is a step to any draft equal to it (for drafts written another way). -/
theorem MemberStep.of_eq (h : MemberStep step d b s k v s₁) (he : s₁ = s') : MemberStep step d b s k v s' :=
  he ▸ h

theorem StepsOver.append {ms₁ ms₂ : List (String × Json)} (h₁ : StepsOver step d b s ms₁ s₁)
    (h₂ : StepsOver step d b s₁ ms₂ s') : StepsOver step d b s (ms₁ ++ ms₂) s' := by
  induction h₁ with
  | nil => exact h₂
  | cons h _ ih => exact .cons h (ih h₂)

theorem StepsOver.single (h : MemberStep step d b s k v s') : StepsOver step d b s [(k, v)] s' :=
  .cons h (.nil s')

/-- A member kept only when there is a value for it; the draft records what there is, and is
unchanged when there is nothing. -/
theorem StepsOver.option {o : Option β} {f : β → Json} {u : σ → Option β → σ} (hnone : u s none = s)
    (hsome : ∀ x, o = some x → MemberStep step d b s k (f x) (u s (some x))) :
    StepsOver step d b s (o.map fun x => (k, f x)).toList (u s o) := by
  cases o with
  | none =>
    rw [hnone]
    exact .nil s
  | some x => exact .single (hsome x rfl)

/-- A field given once: its colon and value, after blanks, make the new draft. -/
theorem memberStep_field {read : JsonRead α} {g : α → σ} (name : String)
    (hstep : step s k = (fieldOnce name none read >>= fun x => pure (g x))) (h : Decodes read d b v a) :
    MemberStep step d b s k v (g a) := by
  intro b₁ b₂ tv hb₁ hb₂ hw
  rw [hstep, show b₁ ++ ':' :: b₂ ++ tv = b₁ ++ ':' :: (b₂ ++ tv) by simp]
  exact (Reads.fieldOnce_sep name hb₁ (h b₂ tv hb₂ hw)).bind_pure rfl

/-- An entry kept after its colon, whatever the draft holds. -/
theorem memberStep_colon {read : JsonRead α} {g : α → σ}
    (hstep : step s k = (colon >>= fun _ => read >>= fun x => pure (g x))) (h : Decodes read d b v a) :
    MemberStep step d b s k v (g a) := by
  intro b₁ b₂ tv hb₁ hb₂ hw
  have hcolon := Reads.blanks colon_skipsBlanks (Reads.colon (F := fun _ => True) (d := d) (b := b)) hb₁
    (fun _ _ => by simp [NoLeadingBlank, IsBlank])
  rw [hstep, show b₁ ++ ':' :: b₂ ++ tv = (b₁ ++ [':']) ++ (b₂ ++ tv) by simp]
  exact hcolon.bind ((h b₂ tv hb₂ hw).bind_pure rfl) (fun _ _ => trivial)

namespace Reads

/-- Members taken one by one by `step`, in any layout, until the closing brace. -/
theorem membersOf_written {ms : List (String × Json)} (h : StepsOver step d b s ms s') :
    ∀ {first : Bool} {t : List Char} (fuel : Nat), Json.MembersWritten first ms t → ms.length < fuel →
      Reads (ClosesWith '}') d b (JsonRead.membersOf step fuel first s) t s' := by
  induction h with
  | nil s =>
    intro first t fuel hw hfuel
    obtain ⟨fuel, rfl⟩ : ∃ f, fuel = f + 1 := ⟨fuel - 1, by simp at hfuel; omega⟩
    cases hw with
    | done hbl =>
      unfold JsonRead.membersOf
      rw [← List.append_nil t]
      exact (nextKey_blank first hbl).bind (Reads.pure s) (fun _ h => h)
  | @cons s s₁ s' k v ms hstep _ ih =>
    intro first t fuel hw hfuel
    obtain ⟨fuel, rfl⟩ : ∃ f, fuel = f + 1 := ⟨fuel - 1, by omega⟩
    cases hw with
    | @next _ _ _ _ bl sp b₁ b₂ tv t' hbl hsp hb₁ hb₂ hv hrest =>
      unfold JsonRead.membersOf
      have hrest' := (hstep b₁ b₂ tv hb₁ hb₂ hv).bind (f := fun s₁ => JsonRead.membersOf step fuel false s₁)
        (ih fuel hrest (by simp at hfuel; omega)) (fun rest hr => Json.MembersWritten.stops hrest hr)
      have htext : bl ++ sp ++ (quote k).toList ++ b₁ ++ ':' :: b₂ ++ tv ++ t' =
          (bl ++ sp ++ (quote k).toList) ++ (b₁ ++ ':' :: b₂ ++ tv ++ t') := by
        simp
      rw [htext]
      exact (nextKey_sep (F := fun _ => True) k hbl hsp).bind hrest' (fun _ _ => trivial)

/-- The body of a record read from an object: its members taken into a draft, with as many
steps as the cursor allows, and the record made from the draft. -/
theorem membersBody {ms : List (String × Json)} {finish : σ → JsonRead α} {t : List Char}
    (h : StepsOver step d b s ms s') (hfin : finish s' = Pure.pure a) (hb : ms.length < b)
    (hw : Json.MembersWritten true ms t) :
    Reads (ClosesWith '}') d b (do let r ← JsonRead.membersOf step (← fuelFor) true s; finish r) t a :=
  fuelFor_bind fun n hn => (membersOf_written h n hw (by omega)).bind_pure hfin

end Reads

namespace Decodes

theorem record {fm fi : JsonRead α} {ms : List (String × Json)} (name : String) (hd : 1 ≤ d)
    (h : ∀ t, Json.MembersWritten true ms t → Reads (ClosesWith '}') d b fm t a) :
    Decodes (record name fm fi) (d + 1) b (.obj ms) a :=
  of_skipsBlanks (record_skipsBlanks name fm fi) fun _ hw => by
    cases hw with
    | obj hm => exact Reads.record name hd (h _ hm)

theorem objectRecord {fm : JsonRead α} {ms : List (String × Json)} (name : String) (hd : 1 ≤ d)
    (h : ∀ t, Json.MembersWritten true ms t → Reads (ClosesWith '}') d b fm t a) :
    Decodes (objectRecord name fm) (d + 1) b (.obj ms) a :=
  of_skipsBlanks (objectRecord_skipsBlanks name fm) fun _ hw => by
    cases hw with
    | obj hm => exact Reads.objectRecord name hd (h _ hm)

end Decodes

/-! ## Keyed maps -/

/-- The entries of a map, each decoded after its colon, inserted one by one by key. -/
theorem stepsOver_entries {val : JsonRead α} {f : α → Json} (es : List (String × α)) :
    ∀ acc : List (String × α), (∀ p ∈ es, Decodes val d b (f p.2) p.2) →
      StepsOver (entryStep val) d b acc (es.map fun p => (p.1, f p.2))
        (es.foldl (fun acc p => insertKey p.1 p.2 acc) acc) := by
  induction es with
  | nil => exact fun acc _ => .nil acc
  | cons e es ih =>
    intro acc h
    exact .cons (memberStep_colon rfl (h e List.mem_cons_self)) (ih _ fun p hp => h p (List.mem_cons_of_mem _ hp))

/-- A map whose keys are in order, and whose values each decode within the steps they take,
reads back as its entries. -/
theorem Decodes.keyedMap {val : JsonRead α} {f : α → Json} {es : List (String × α)} (hd : 1 ≤ d)
    (hes : ∀ p ∈ es, (f p.2).steps < b → Decodes val d b (f p.2) p.2) (hsorted : es.Pairwise (fun p q => p.1 < q.1))
    (hb : (Json.obj (es.map fun p => (p.1, f p.2))).steps ≤ b) :
    Decodes (keyedMap val) (d + 1) b (.obj (es.map fun p => (p.1, f p.2))) es :=
  Decodes.of_skipsBlanks (keyedMap_skipsBlanks val) fun _ hw => by
    have hval : ∀ p ∈ es, Decodes val d b (f p.2) p.2 := fun p hp =>
      hes p hp (Nat.lt_of_lt_of_le (Json.steps_lt_obj (List.mem_map_of_mem (f := fun p => (p.1, f p.2)) hp)) hb)
    have hlen : es.length < b := by
      have := Json.length_lt_obj (es.map fun p => (p.1, f p.2))
      rw [List.length_map] at this
      omega
    cases hw with
    | obj hm =>
      unfold JsonRead.keyedMap
      refine Reads.placed (Reads.skipBlanks_bind (by simp [IsBlank]) ?_)
      split
      · rename_i h
        simp at h
      · have hbody : Reads (ClosesWith '}') d b (fuelFor >>= fun n => entriesOf val n true []) _ es :=
          Reads.fuelFor_bind fun n hn => by
            rw [entriesOf_eq_membersOf]
            have h := Reads.membersOf_written (stepsOver_entries es [] hval) n hm (by simp; omega)
            rwa [foldl_insertKey_sorted hsorted (by simp), List.nil_append] at h
        exact Reads.bracketed hd hbody Reads.endObject (fun rest _ => ⟨rest, rfl⟩)
      · rename_i hne h
        exact absurd (Option.some.inj h).symm hne

end DocStore.JsonRead
