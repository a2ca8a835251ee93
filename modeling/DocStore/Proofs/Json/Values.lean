import DocStore.Proofs.Json.Numbers
/-
  DocStore.Proofs.Json.Values — a value the reader can give is read back from every text
  that spells it.

  What the reader gives is `Json.Canonical`: its integers are within their widths, and the
  keys of every object strictly increase (the reader sorts an object's members, the last of a
  repeated key winning). To be read back, a value needs besides as many levels of nesting
  as it has (`Json.depth`), enough steps (`Json.steps`, never more than the length of any of
  its texts), and that each of its doubles reads back from its own text (`Json.FloatsRead`).

  Proved: `Reads.value_written` — from every text of such a value, whatever blanks it has
  between its tokens (`Json.Written`; the compact and the indented texts are two), the reader
  gives the value back and stops right after it; with `Reads.items_written` and
  `Reads.members_written` for the insides of arrays and objects.
-/

namespace DocStore

open JsonText

namespace Json

/-- How deeply arrays and objects nest in a value; a scalar takes no level. -/
def depth : Json → Nat
  | .arr xs => depthItems xs + 1
  | .obj ms => depthMembers ms + 1
  | _ => 0
where
  depthItems : List Json → Nat
    | [] => 0
    | x :: xs => max x.depth (depthItems xs)
  depthMembers : List (String × Json) → Nat
    | [] => 0
    | (_, v) :: ms => max v.depth (depthMembers ms)

/-- The steps the reader takes over a value: one for a scalar; for an array or object, one
more than its items, where each item needs one step more than it and the items after it. -/
def steps : Json → Nat
  | .arr xs => stepsItems xs + 1
  | .obj ms => stepsMembers ms + 1
  | _ => 1
where
  stepsItems : List Json → Nat
    | [] => 1
    | x :: xs => max x.steps (stepsItems xs) + 1
  stepsMembers : List (String × Json) → Nat
    | [] => 1
    | (_, v) :: ms => max v.steps (stepsMembers ms) + 1

theorem steps_pos (v : Json) : 0 < v.steps := by
  cases v <;> simp [steps]

/-- The items of an array take a step each, and one more for the closing bracket. -/
theorem length_lt_stepsItems : ∀ xs : List Json, xs.length < steps.stepsItems xs
  | [] => by simp [steps.stepsItems]
  | x :: xs => by
    have := length_lt_stepsItems xs
    simp only [steps.stepsItems, List.length_cons]
    omega

theorem steps_lt_stepsItems : ∀ {xs : List Json} {x : Json}, x ∈ xs → x.steps < steps.stepsItems xs
  | y :: xs, x, h => by
    simp only [steps.stepsItems]
    rcases List.mem_cons.1 h with rfl | h
    · omega
    · have := steps_lt_stepsItems h
      omega

theorem length_lt_stepsMembers : ∀ ms : List (String × Json), ms.length < steps.stepsMembers ms
  | [] => by simp [steps.stepsMembers]
  | (_, v) :: ms => by
    have := length_lt_stepsMembers ms
    simp only [steps.stepsMembers, List.length_cons]
    omega

theorem steps_lt_stepsMembers : ∀ {ms : List (String × Json)} {p : String × Json}, p ∈ ms →
    p.2.steps < steps.stepsMembers ms
  | (k, v) :: ms, p, h => by
    simp only [steps.stepsMembers]
    rcases List.mem_cons.1 h with rfl | h
    · dsimp only
      omega
    · have := steps_lt_stepsMembers h
      omega

theorem steps_lt_arr {xs : List Json} {x : Json} (h : x ∈ xs) : x.steps < (Json.arr xs).steps :=
  Nat.lt_succ_of_lt (steps_lt_stepsItems h)

theorem length_lt_arr (xs : List Json) : xs.length < (Json.arr xs).steps :=
  Nat.lt_succ_of_lt (length_lt_stepsItems xs)

theorem steps_lt_obj {ms : List (String × Json)} {p : String × Json} (h : p ∈ ms) : p.2.steps < (Json.obj ms).steps :=
  Nat.lt_succ_of_lt (steps_lt_stepsMembers h)

theorem length_lt_obj (ms : List (String × Json)) : ms.length < (Json.obj ms).steps :=
  Nat.lt_succ_of_lt (length_lt_stepsMembers ms)

/-- The doubles of a value, in order. -/
def floats : Json → List UInt64
  | .num (.float b) => [b]
  | .arr xs => floatsItems xs
  | .obj ms => floatsMembers ms
  | _ => []
where
  floatsItems : List Json → List UInt64
    | [] => []
    | x :: xs => x.floats ++ floatsItems xs
  floatsMembers : List (String × Json) → List UInt64
    | [] => []
    | (_, v) :: ms => v.floats ++ floatsMembers ms

/-- Every double of the value reads back from its own text. -/
def FloatsRead (v : Json) : Prop := ∀ b ∈ v.floats, (JsonNumber.float b).ReadsBack

/-- A value as the reader gives it: integers within their widths, and the keys of every object
strictly increasing. -/
inductive Canonical : Json → Prop
  | null : Canonical .null
  | bool (v : Bool) : Canonical (.bool v)
  | num {n : JsonNumber} : JsonScan.InRange n → Canonical (.num n)
  | str (s : String) : Canonical (.str s)
  | arr {xs : List Json} : (∀ x ∈ xs, Canonical x) → Canonical (.arr xs)
  | obj {ms : List (String × Json)} : ms.Pairwise (fun p q => p.1 < q.1) → (∀ p ∈ ms, Canonical p.2) →
      Canonical (.obj ms)

theorem insertSorted_eq_insertKey (k : String) (v : Json) :
    ∀ l, insertSorted k v l = JsonRead.insertKey k v l
  | [] => rfl
  | (k', v') :: rest => by
    simp only [insertSorted, JsonRead.insertKey, insertSorted_eq_insertKey k v rest]

/-- A fold that puts each member after those before it when its key is greater builds, from
members in key order, the list itself. -/
theorem foldl_eq_append {f : List (String × Json) → String × Json → List (String × Json)}
    (hf : ∀ acc k v, (∀ p ∈ acc, p.1 < k) → f acc (k, v) = acc ++ [(k, v)]) :
    ∀ (es acc : List (String × Json)), es.Pairwise (fun p q => p.1 < q.1) →
      (∀ p ∈ acc, ∀ q ∈ es, p.1 < q.1) → es.foldl f acc = acc ++ es
  | [], acc, _, _ => by simp
  | (k, v) :: es, acc, hs, hacc => by
    have hlt : ∀ p ∈ acc, p.1 < k := fun p hp => hacc p hp (k, v) List.mem_cons_self
    rw [List.foldl_cons, hf acc k v hlt, foldl_eq_append hf es _ (List.pairwise_cons.1 hs).2]
    · simp
    · intro p hp q hq
      rcases List.mem_append.1 hp with hp | hp
      · exact hacc p hp q (List.mem_cons_of_mem _ hq)
      · rw [List.mem_singleton.1 hp]
        exact (List.pairwise_cons.1 hs).1 q hq

/-- Members already in key order make the object as they are. -/
theorem sortedObj_of_sorted {ms : List (String × Json)} (h : ms.Pairwise (fun p q => p.1 < q.1)) :
    sortedObj ms = .obj ms := by
  unfold sortedObj
  rw [foldl_eq_append ?_ ms [] h (by simp), List.nil_append]
  intro acc k v hlt
  exact (insertSorted_eq_insertKey k v acc).trans (JsonRead.insertKey_of_lt hlt)

end Json

/-! ## Texts of values -/

namespace JsonText

theorem jsonText_ne_nil (f : Float) : (Text.Decimal.jsonText f).toList ≠ [] := by
  have hds : ∀ d, Text.Decimal.digitsOf d ≠ "" := by
    intro d h
    have := congrArg String.toList h
    simp [Text.Decimal.digitsOf, Nat.toString_eq_repr, Nat.toList_repr, Nat.toDigits_ne_nil] at this
  unfold Text.Decimal.jsonText
  split
  · simp
  · simp
  · dsimp only
    split_ifs <;> simp [Text.Decimal.place] <;> split_ifs <;> simp [hds]

theorem number_ne_nil : ∀ n : JsonNumber, (JsonText.number n).toList ≠ []
  | .nat n => by simp [JsonText.number, Nat.toString_eq_repr, Nat.toList_repr, Nat.toDigits_ne_nil]
  | .neg i => by
    simp only [JsonText.number, Int.toString_eq_repr, Int.repr_eq_if]
    split <;> simp [Nat.toList_repr, Nat.toDigits_ne_nil]
  | .float b => jsonText_ne_nil _

end JsonText

namespace JsonRead

theorem Stops.of_blank {bl rest : List Char} (hb : Blank bl) (h : Stops rest) : Stops (bl ++ rest) := by
  cases bl with
  | nil => simpa using h
  | cons c bl =>
    simp only [List.cons_append, Stops]
    exact .inl (hb c List.mem_cons_self)

theorem Stops.sep {s rest : List Char} (hs : Sep false s) : Stops (s ++ rest) := by
  obtain ⟨b', _, rfl⟩ := hs
  simp [Stops]

end JsonRead

namespace Json

/-- A value's text starts with a character of a token. -/
theorem Written.head {v : Json} {t : List Char} (h : Written v t) : ∃ c r, t = c :: r ∧ Inside c := by
  cases h with
  | null => exact ⟨'n', _, rfl, by simp [Inside, IsBlank]⟩
  | bool b =>
    cases b
    · exact ⟨'f', ['a', 'l', 's', 'e'], rfl, by simp [Inside, IsBlank]⟩
    · exact ⟨'t', ['r', 'u', 'e'], rfl, by simp [Inside, IsBlank]⟩
  | num n =>
    obtain ⟨c, r, hcr⟩ := List.exists_cons_of_ne_nil (number_ne_nil n)
    exact ⟨c, r, hcr, solid_number n c (by simp [hcr])⟩
  | str s => exact ⟨'"', _, JsonRead.toList_quote s, by simp [Inside, IsBlank]⟩
  | arr _ => exact ⟨'[', _, rfl, by simp [Inside, IsBlank]⟩
  | obj _ => exact ⟨'{', _, rfl, by simp [Inside, IsBlank]⟩

theorem Written.startsItem {v : Json} {t : List Char} (h : Written v t) (rest : List Char) :
    JsonRead.StartsItem (t ++ rest) := by
  obtain ⟨c, r, rfl, hc⟩ := h.head
  exact ⟨c, r ++ rest, rfl, hc⟩

theorem Written.noLeadingBlank {v : Json} {t : List Char} (h : Written v t) (rest : List Char) :
    JsonRead.NoLeadingBlank (t ++ rest) := by
  obtain ⟨c, r, rfl, hc⟩ := h.head
  exact hc.1

/-- After the items that follow the first, before the closing bracket, comes a blank, a comma
or the bracket itself. -/
theorem ItemsWritten.stops {xs : List Json} {t rest : List Char} (h : ItemsWritten false xs t)
    (hr : JsonRead.ClosesWith ']' rest) : JsonRead.Stops (t ++ rest) := by
  obtain ⟨r, rfl⟩ := hr
  cases h with
  | done hb => exact JsonRead.Stops.of_blank hb (by simp [JsonRead.Stops])
  | next hb hs _ _ => simpa only [List.append_assoc] using JsonRead.Stops.of_blank hb (JsonRead.Stops.sep hs)

/-- After the members that follow the first, before the closing brace, comes a blank, a comma
or the brace itself. -/
theorem MembersWritten.stops {ms : List (String × Json)} {t rest : List Char} (h : MembersWritten false ms t)
    (hr : JsonRead.ClosesWith '}' rest) : JsonRead.Stops (t ++ rest) := by
  obtain ⟨r, rfl⟩ := hr
  cases h with
  | done hb => exact JsonRead.Stops.of_blank hb (by simp [JsonRead.Stops])
  | next hb hs _ _ _ _ => simpa only [List.append_assoc] using JsonRead.Stops.of_blank hb (JsonRead.Stops.sep hs)

end Json

/-! ## Steps -/

namespace Json

mutual

/-- A value takes no more steps than its text has characters. -/
theorem Written.steps_le : ∀ {v : Json} {t : List Char}, Written v t → v.steps ≤ t.length
  | _, _, .null => by simp [steps]
  | _, _, .bool b => by cases b <;> simp [steps]
  | _, _, .num n => by
    have := List.length_pos_of_ne_nil (number_ne_nil n)
    simp only [steps]
    omega
  | _, _, .str s => by simp [steps, JsonRead.toList_quote]
  | _, _, .arr h => by
    have := ItemsWritten.steps_le h
    simp only [steps, List.length_cons, List.length_append]
    omega
  | _, _, .obj h => by
    have := MembersWritten.steps_le h
    simp only [steps, List.length_cons, List.length_append]
    omega

theorem ItemsWritten.steps_le : ∀ {first : Bool} {xs : List Json} {t : List Char},
    ItemsWritten first xs t → steps.stepsItems xs ≤ t.length + 1
  | _, _, _, .done _ => by simp [steps.stepsItems]
  | _, _, _, .next _ _ hx ht => by
    have h₁ := Written.steps_le hx
    have h₂ := ItemsWritten.steps_le ht
    obtain ⟨c, r, rfl, -⟩ := hx.head
    simp only [steps.stepsItems, List.length_append, List.length_cons] at h₁ ⊢
    omega

theorem MembersWritten.steps_le : ∀ {first : Bool} {ms : List (String × Json)} {t : List Char},
    MembersWritten first ms t → steps.stepsMembers ms ≤ t.length + 1
  | _, _, _, .done _ => by simp [steps.stepsMembers]
  | _, _, _, .next _ _ _ _ hv ht => by
    have h₁ := Written.steps_le hv
    have h₂ := MembersWritten.steps_le ht
    simp only [steps.stepsMembers, List.length_append, List.length_cons] at h₁ ⊢
    omega

end

end Json

/-! ## Reading a value back -/

namespace JsonRead

variable {d b : Nat}

theorem value_skipsBlanks (fuel : Nat) : SkipsBlanks (value (fuel + 1)) := by
  rw [value]
  exact (SkipsBlanks.skipBlanks_bind _).placed

theorem nextElement_skipsBlanks (first : Bool) : SkipsBlanks (nextElement first) := by
  unfold nextElement
  exact SkipsBlanks.skipBlanks_bind _

namespace Reads

/-- The end of an array's items, after blanks. -/
theorem nextElement_blank (first : Bool) {bl : List Char} (hbl : Blank bl) :
    Reads (ClosesWith ']') d b (nextElement first) bl false := by
  have h := blanks (nextElement_skipsBlanks first) (nextElement_close (d := d) (b := b) first) hbl
    (fun rest hr => by obtain ⟨r', rfl⟩ := hr; simp [NoLeadingBlank, IsBlank])
  simpa using h

/-- The end of an object's members, after blanks. -/
theorem nextKey_blank (first : Bool) {bl : List Char} (hbl : Blank bl) :
    Reads (ClosesWith '}') d b (nextKey first) bl none := by
  have h := blanks (nextKey_skipsBlanks first) (nextKey_close (d := d) (b := b) first) hbl
    (fun rest hr => by obtain ⟨r', rfl⟩ := hr; simp [NoLeadingBlank, IsBlank])
  simpa using h

/-- The start of an item: blanks and, unless it is the first, a comma and blanks. -/
theorem nextElement_sep {first : Bool} {bl s : List Char} (hbl : Blank bl) (hs : Sep first s) :
    Reads StartsItem d b (nextElement first) (bl ++ s) true := by
  refine blanks (nextElement_skipsBlanks first) ?_ hbl ?_
  · cases first
    · obtain ⟨b', hb', rfl⟩ := hs
      rintro k rest ⟨c, r', rfl, hcb, hc1, hc2, hc3⟩ hk _ _
      -- the comma, then the blanks after it, then the item's first character
      obtain ⟨l, col, hskip⟩ := runFrom_skipBlanks_blank (k := k.bump) hb' (show NoLeadingBlank (c :: r') from hcb)
        (by simp [Cursor.bump, hk])
      refine ⟨{ k.bump with rest := c :: r', line := l, column := col }, ?_, rfl, by simp [Cursor.bump, hk],
        by simp [Cursor.bump, hk]⟩
      unfold nextElement
      rw [runFrom_bind_ok _ (runFrom_skipBlanks (by rw [hk]; simp [NoLeadingBlank, IsBlank])), hk]
      simp only [List.head?_cons, List.cons_append, Bool.false_eq_true, if_false]
      rw [runFrom_bind_ok _ (runFrom_bump k), runFrom_bind_ok _ hskip]
      simp only [List.head?_cons]
      rfl
    · simp only [JsonText.Sep, if_true] at hs
      subst hs
      simpa using nextElement_item (d := d) (b := b) true
  · intro rest hr
    cases first
    · obtain ⟨b', _, rfl⟩ := hs
      simp [NoLeadingBlank, IsBlank]
    · simp only [JsonText.Sep, if_true] at hs
      subst hs
      obtain ⟨c, r', rfl, hcb, -⟩ := hr
      exact hcb

end Reads

namespace Reads

mutual

/-- A value the reader could have given is read back from any of its texts. -/
theorem value_written : ∀ {v : Json} {t : List Char}, Json.Written v t →
    ∀ {D fuel : Nat}, v.Canonical → v.FloatsRead → v.steps ≤ fuel → v.depth < D →
      Reads Stops D b (value fuel) t v
  | _, _, .null, D, fuel, _, _, hs, _ => by
    obtain ⟨fuel, rfl⟩ : ∃ f, fuel = f + 1 := ⟨fuel - 1, by simp only [Json.steps] at hs; omega⟩
    rw [value, show "null".toList = ['n', 'u', 'l', 'l'] from rfl]
    refine placed (skipBlanks_bind (by simp [IsBlank]) ?_)
    dsimp only
    rw [if_pos rfl]
    exact (bump (F := fun _ => True) 'n').bind ((keywordTail (F := fun _ => True) _).bind (Reads.pure Json.null)
      (fun _ _ => trivial)) (fun _ _ => trivial)
  | _, _, .bool v, D, fuel, _, _, hs, _ => by
    obtain ⟨fuel, rfl⟩ : ∃ f, fuel = f + 1 := ⟨fuel - 1, by simp only [Json.steps] at hs; omega⟩
    rw [value]
    cases v
    · rw [if_neg Bool.false_ne_true, show "false".toList = ['f', 'a', 'l', 's', 'e'] from rfl]
      refine placed (skipBlanks_bind (by simp [IsBlank]) ?_)
      dsimp only
      rw [if_neg (by decide), if_neg (by decide), if_pos rfl]
      exact (bump (F := fun _ => True) 'f').bind ((keywordTail (F := fun _ => True) _).bind (Reads.pure _)
        (fun _ _ => trivial)) (fun _ _ => trivial)
    · rw [if_pos rfl, show "true".toList = ['t', 'r', 'u', 'e'] from rfl]
      refine placed (skipBlanks_bind (by simp [IsBlank]) ?_)
      dsimp only
      rw [if_neg (by decide), if_pos rfl]
      exact (bump (F := fun _ => True) 't').bind ((keywordTail (F := fun _ => True) _).bind (Reads.pure _)
        (fun _ _ => trivial)) (fun _ _ => trivial)
  | _, _, .num n, D, fuel, hc, hf, hs, _ => by
    obtain ⟨fuel, rfl⟩ : ∃ f, fuel = f + 1 := ⟨fuel - 1, by simp only [Json.steps] at hs; omega⟩
    -- integers within their widths are scanned back; a double by the assumption on it
    have hscan : JsonScan.ScansTo n (JsonText.number n).toList := by
      cases hc with
      | num hr =>
        cases n with
        | nat m => exact JsonScan.scansTo_nat hr
        | neg i => exact JsonScan.scansTo_neg hr
        | float x => exact (hf x (by simp [Json.floats])).scansTo
    exact value_number hscan fuel
  | _, _, .str s, D, fuel, _, _, hs, _ => by
    obtain ⟨fuel, rfl⟩ : ∃ f, fuel = f + 1 := ⟨fuel - 1, by simp only [Json.steps] at hs; omega⟩
    rw [value, toList_quote]
    refine placed (skipBlanks_bind (by simp [IsBlank]) ?_)
    dsimp only
    rw [if_neg (by decide), if_neg (by decide), if_neg (by decide), if_neg (by decide), if_neg (by decide),
      if_pos rfl]
    exact (bump (F := fun _ => True) '"').bind ((string s).map _) (fun _ _ => trivial)
  | _, _, .arr hw, D, fuel, hc, hf, hs, hd => by
    obtain ⟨fuel, rfl⟩ : ∃ f, fuel = f + 1 := ⟨fuel - 1, by simp only [Json.steps] at hs; omega⟩
    obtain ⟨D, rfl⟩ : ∃ D', D = D' + 1 := ⟨D - 1, by simp only [Json.depth] at hd; omega⟩
    simp only [Json.steps, Json.depth] at hs hd
    cases hc with
    | arr hcs =>
      rw [value]
      refine placed (skipBlanks_bind (by simp [IsBlank]) ?_)
      dsimp only
      rw [if_neg (by decide), if_neg (by decide), if_neg (by decide), if_neg (by decide), if_neg (by decide),
        if_neg (by decide), if_pos rfl]
      have hitems := items_written hw [] hcs (fun x hx => hf x (by simpa [Json.floats] using hx))
        (show Json.steps.stepsItems _ ≤ fuel by omega) (show Json.depth.depthItems _ < D by omega)
      rw [List.reverse_nil, List.nil_append] at hitems
      exact (bracketed (by omega) hitems endArray fun rest _ => ⟨rest, rfl⟩).map _
  | _, _, .obj hw, D, fuel, hc, hf, hs, hd => by
    obtain ⟨fuel, rfl⟩ : ∃ f, fuel = f + 1 := ⟨fuel - 1, by simp only [Json.steps] at hs; omega⟩
    obtain ⟨D, rfl⟩ : ∃ D', D = D' + 1 := ⟨D - 1, by simp only [Json.depth] at hd; omega⟩
    simp only [Json.steps, Json.depth] at hs hd
    cases hc with
    | obj hsorted hcs =>
      rw [value]
      refine placed (skipBlanks_bind (by simp [IsBlank]) ?_)
      dsimp only
      rw [if_neg (by decide), if_neg (by decide), if_neg (by decide), if_neg (by decide), if_neg (by decide),
        if_neg (by decide), if_neg (by decide), if_pos rfl]
      have hmembers := members_written hw [] hcs (fun x hx => hf x (by simpa [Json.floats] using hx))
        (show Json.steps.stepsMembers _ ≤ fuel by omega) (show Json.depth.depthMembers _ < D by omega)
      rw [List.reverse_nil, List.nil_append] at hmembers
      -- the reader sorts the members, which are in key order already
      rw [← Json.sortedObj_of_sorted hsorted]
      exact (bracketed (by omega) hmembers endObject fun rest _ => ⟨rest, rfl⟩).map Json.sortedObj

/-- The items of an array, each read back from its text. -/
theorem items_written : ∀ {first : Bool} {xs : List Json} {t : List Char}, Json.ItemsWritten first xs t →
    ∀ {D fuel : Nat} (acc : List Json), (∀ x ∈ xs, x.Canonical) →
      (∀ b ∈ Json.floats.floatsItems xs, (JsonNumber.float b).ReadsBack) →
      Json.steps.stepsItems xs ≤ fuel → Json.depth.depthItems xs < D →
      Reads (ClosesWith ']') D b (items fuel first acc) t (acc.reverse ++ xs)
  | first, _, _, .done hbl, D, fuel, acc, _, _, hs, _ => by
    obtain ⟨fuel, rfl⟩ : ∃ f, fuel = f + 1 := ⟨fuel - 1, by simp only [Json.steps.stepsItems] at hs; omega⟩
    rw [items, List.append_nil]
    exact (nextElement_blank first hbl).bind_pure rfl
  | first, _, _, @Json.ItemsWritten.next _ x xs _ _ _ _ hbl hsep hx hrest, D, fuel, acc, hc, hf, hs, hd => by
    obtain ⟨fuel, rfl⟩ : ∃ f, fuel = f + 1 := ⟨fuel - 1, by simp only [Json.steps.stepsItems] at hs; omega⟩
    simp only [Json.steps.stepsItems, Json.depth.depthItems, Json.floats.floatsItems] at hs hd hf
    have hv := value_written hx (hc x List.mem_cons_self) (fun b hb => hf b (List.mem_append_left _ hb))
      (show x.steps ≤ fuel by omega) (show x.depth < D by omega)
    have hrest' := items_written hrest (x :: acc) (fun y hy => hc y (List.mem_cons_of_mem x hy))
      (fun b hb => hf b (List.mem_append_right _ hb)) (show Json.steps.stepsItems xs ≤ fuel by omega)
      (show Json.depth.depthItems xs < D by omega)
    rw [items, show acc.reverse ++ x :: xs = (x :: acc).reverse ++ xs by simp,
      show ∀ p q r u : List Char, p ++ q ++ r ++ u = (p ++ q) ++ (r ++ u) from fun _ _ _ _ => by simp]
    refine (nextElement_sep hbl hsep).bind ?_ (fun rest _ => by rw [List.append_assoc]; exact hx.startsItem _)
    rw [if_pos rfl]
    exact hv.bind hrest' (fun rest hr => Json.ItemsWritten.stops hrest hr)

/-- The members of an object, each key and value read back from its text. -/
theorem members_written : ∀ {first : Bool} {ms : List (String × Json)} {t : List Char},
    Json.MembersWritten first ms t →
    ∀ {D fuel : Nat} (acc : List (String × Json)), (∀ p ∈ ms, p.2.Canonical) →
      (∀ b ∈ Json.floats.floatsMembers ms, (JsonNumber.float b).ReadsBack) →
      Json.steps.stepsMembers ms ≤ fuel → Json.depth.depthMembers ms < D →
      Reads (ClosesWith '}') D b (members fuel first acc) t (acc.reverse ++ ms)
  | first, _, _, .done hbl, D, fuel, acc, _, _, hs, _ => by
    obtain ⟨fuel, rfl⟩ : ∃ f, fuel = f + 1 := ⟨fuel - 1, by simp only [Json.steps.stepsMembers] at hs; omega⟩
    rw [members, List.append_nil]
    exact (nextKey_blank first hbl).bind_pure rfl
  | first, _, _, @Json.MembersWritten.next _ k v ms _ _ _ _ _ _ hbl hsep hb₁ hb₂ hv hrest, D, fuel, acc, hc, hf, hs, hd => by
    obtain ⟨fuel, rfl⟩ : ∃ f, fuel = f + 1 := ⟨fuel - 1, by simp only [Json.steps.stepsMembers] at hs; omega⟩
    simp only [Json.steps.stepsMembers, Json.depth.depthMembers, Json.floats.floatsMembers] at hs hd hf
    -- the value after the colon needs a step of its own
    obtain ⟨fuel, rfl⟩ : ∃ f, fuel = f + 1 := ⟨fuel - 1, by have := Json.steps_pos v; omega⟩
    have hval := value_written hv (hc (k, v) List.mem_cons_self) (fun b hb => hf b (List.mem_append_left _ hb))
      (show v.steps ≤ fuel + 1 by omega) (show v.depth < D by omega)
    have hrest' := members_written hrest ((k, v) :: acc) (fun p hp => hc p (List.mem_cons_of_mem _ hp))
      (fun b hb => hf b (List.mem_append_right _ hb)) (show Json.steps.stepsMembers ms ≤ fuel + 1 by omega)
      (show Json.depth.depthMembers ms < D by omega)
    -- the colon and the value may each follow blanks
    have hcolon := blanks colon_skipsBlanks (colon (F := fun _ => True) (d := D) (b := b)) hb₁
      (fun _ _ => by simp [NoLeadingBlank, IsBlank])
    have hvalue := blanks (value_skipsBlanks fuel) hval hb₂ (fun rest _ => hv.noLeadingBlank rest)
    rw [members]
    rw [show acc.reverse ++ (k, v) :: ms = ((k, v) :: acc).reverse ++ ms by simp]
    have htext : ∀ (bl sp b₁ b₂ tv t : List Char),
        bl ++ sp ++ (quote k).toList ++ b₁ ++ ':' :: b₂ ++ tv ++ t =
          (bl ++ sp ++ (quote k).toList) ++ ((b₁ ++ [':']) ++ ((b₂ ++ tv) ++ t)) := by
      intros
      simp
    rw [htext]
    exact (nextKey_sep (F := fun _ => True) k hbl hsep).bind
      (hcolon.bind (hvalue.bind hrest' (fun rest hr => Json.MembersWritten.stops hrest hr)) (fun _ _ => trivial))
      (fun _ _ => trivial)

end

end Reads

end JsonRead

end DocStore
