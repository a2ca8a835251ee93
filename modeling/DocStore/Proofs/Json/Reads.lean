import DocStore.Proofs.Json.Layout
import DocStore.Json.Decode
import DocStore.Proofs.Time.Text
/-
  DocStore.Proofs.Json.Reads — the readers take back what the compact writer writes.

  `Reads F depth budget r t a`: run from a cursor that stands before the text `t`, with a
  continuation after it that `F` admits and at least `depth` levels of nesting and `budget`
  steps left, the reader `r` gives `a` and stops right after `t`. The relation is built up
  along the readers: one step after another (`Reads.bind`), skipping no blanks, single
  characters and keywords, strings with their escapes, numbers below 2^64, optional values,
  timestamps, variant names, arrays of items, and objects whose members are read one by one
  into a state (`StepsThrough`).

  A compact text has no blanks, so the continuation of every value is the end, a comma or a
  closing bracket (`JsonScan.Closes`), and that of a separator starts the next item
  (`StartsItem`). `run_of_reads` turns a reading of the whole text into the result of `run`.
-/

namespace DocStore.JsonScan

open JsonText

/-! ## Strings -/

theorem hexVal_hexDigit : ∀ n, n < 16 → hexVal (hexDigit n) = some n := by
  decide

/-- Scanning one escaped character takes it back, whatever follows. -/
theorem scanString_escapeChar (x : Char) (more acc : List Char) (line col : Nat) :
    ∃ l c, scanString (escapeChar x ++ more) acc line col = scanString more (x :: acc) l c := by
  unfold escapeChar
  split_ifs with hq hb hc h8 ht hn hf hr
  · subst hq
    exact ⟨line, col + 2, by rw [scanString.eq_def]; simp⟩
  · subst hb
    exact ⟨line, col + 2, by rw [scanString.eq_def]; simp⟩
  · subst h8
    exact ⟨line, col + 2, by rw [scanString.eq_def]; simp⟩
  · subst ht
    exact ⟨line, col + 2, by rw [scanString.eq_def]; simp⟩
  · subst hn
    exact ⟨line, col + 2, by rw [scanString.eq_def]; simp⟩
  · subst hf
    exact ⟨line, col + 2, by rw [scanString.eq_def]; simp⟩
  · subst hr
    exact ⟨line, col + 2, by rw [scanString.eq_def]; simp⟩
  · -- a control character without a short escape: four hex digits of its code
    refine ⟨line, col + 2 + 4, ?_⟩
    have h1 := hexVal_hexDigit (x.toNat / 16) (by omega)
    have h2 := hexVal_hexDigit (x.toNat % 16) (by omega)
    have hx : x.toNat / 16 * 16 + x.toNat % 16 = x.toNat := by omega
    rw [scanString.eq_def]
    simp [hex4, h1, h2, show hexVal '0' = some 0 from rfl, codeChar]
    rw [hx, if_neg (by omega), if_pos (by omega), Char.ofNat_toNat]
  · refine ⟨line, col + x.utf8Size, ?_⟩
    rw [scanString.eq_def]
    simp [hq, hb, hc]

/-- The escaped text of a string, then its closing quote, scans back to the string. -/
theorem scanString_escaped (s : List Char) (rest acc : List Char) (line col : Nat) :
    ∃ l c, scanString (s.flatMap escapeChar ++ '"' :: rest) acc line col = .closed (s.reverse ++ acc) rest l c := by
  induction s generalizing acc line col with
  | nil => exact ⟨line, col + 1, by rw [scanString.eq_def]; simp⟩
  | cons x xs ih =>
    obtain ⟨l, c, h⟩ := scanString_escapeChar x (xs.flatMap escapeChar ++ '"' :: rest) acc line col
    obtain ⟨l', c', h'⟩ := ih (x :: acc) l c
    refine ⟨l', c', ?_⟩
    rw [List.flatMap_cons, List.append_assoc, h, h']
    simp

/-! ## Numbers -/

/-- What may follow a value in a compact text: its end, or a comma or a closing bracket. -/
def Closes : List Char → Prop
  | [] => True
  | c :: _ => c = ',' ∨ c = ']' ∨ c = '}'

theorem overflows_iff {acc d limit : Nat} (hd : d < 10) :
    overflows acc d limit = true ↔ limit < acc * 10 + d := by
  unfold overflows
  simp only [Bool.and_eq_true, Bool.or_eq_true, decide_eq_true_eq]
  omega

theorem ofDigitChars_lt {cs : List Char} (h : ∀ c ∈ cs, c.isDigit = true) :
    Nat.ofDigitChars 10 cs 0 < 10 ^ cs.length := by
  induction cs with
  | nil => simp
  | cons c cs ih =>
    have hc := Char.isDigit_iff_toNat.1 (h c (by simp))
    simp only [Char.reduceToNat] at hc
    have ih' := ih (fun x hx => h x (by simp [hx]))
    rw [Nat.ofDigitChars_cons, Nat.ofDigitChars_eq_ofDigitChars_zero, List.length_cons, Nat.pow_succ]
    have : 10 ^ cs.length * (10 * 0 + (c.toNat - '0'.toNat)) ≤ 10 ^ cs.length * 9 :=
      Nat.mul_le_mul_left _ (by simp only [Char.reduceToNat]; omega)
    omega

/-- The decimal digits of a positive number do not start with a zero. -/
theorem toDigits_ne_zero_cons {n : Nat} (hn : n ≠ 0) (cs : List Char) : Nat.toDigits 10 n ≠ '0' :: cs := by
  intro h
  have hdig : ∀ c ∈ cs, c.isDigit = true := fun c hc =>
    Nat.isDigit_of_mem_toDigits (by omega) (by omega) (h ▸ List.mem_cons_of_mem _ hc)
  have hval : n = Nat.ofDigitChars 10 cs 0 := by
    have := Nat.ofDigitChars_ten_toDigits (n := n)
    rw [h, Nat.ofDigitChars_cons] at this
    simpa using this.symm
  rcases cs with _ | ⟨c, cs'⟩
  · simp at hval
    exact hn hval
  · have hlt := ofDigitChars_lt hdig
    have hlen := (Nat.length_toDigits_le_iff (n := n) (by omega) (by simp)).2 (hval ▸ hlt)
    rw [h] at hlen
    simp at hlen

theorem integerDigits_digits (positive : Bool) (rest : List Char) :
    ∀ (ds : List Char) (sig off : Nat), (∀ c ∈ ds, c.isDigit = true) → Nat.ofDigitChars 10 ds sig ≤ u64Max →
      integerDigits positive sig (ds ++ rest) off =
        integerDigits positive (Nat.ofDigitChars 10 ds sig) rest (off + ds.length)
  | [], sig, off, _, _ => by simp
  | c :: ds, sig, off, hd, hle => by
    have hc := hd c (by simp)
    have hc9 := Char.isDigit_iff_toNat.1 hc
    simp only [Char.reduceToNat] at hc9
    have hnext : Nat.ofDigitChars 10 (c :: ds) sig = Nat.ofDigitChars 10 ds (sig * 10 + (c.toNat - '0'.toNat)) := by
      rw [Nat.ofDigitChars_cons, Nat.mul_comm]
    rw [hnext] at hle ⊢
    have hmono := TimeText.le_ofDigitChars ds (sig * 10 + (c.toNat - '0'.toNat))
    have hno : overflows sig (c.toNat - '0'.toNat) u64Max = false := by
      rw [Bool.eq_false_iff, ne_eq, overflows_iff (by simp only [Char.reduceToNat]; omega)]
      omega
    rw [List.cons_append, integerDigits, if_pos hc]
    simp only [hno, Bool.false_eq_true, if_false]
    rw [integerDigits_digits positive rest ds _ _ (fun x hx => hd x (by simp [hx])) hle]
    simp only [List.length_cons]
    congr 1
    omega

theorem integerDigits_closes {sig off : Nat} {rest : List Char} (hr : Closes rest) :
    integerDigits true sig rest off = .ok (.nat sig, rest, off) := by
  cases rest with
  | nil => rfl
  | cons c r =>
    simp only [Closes] at hr
    rcases hr with rfl | rfl | rfl <;> rfl

/-- The decimal digits of a number below 2^64, before a comma, a closing bracket or the end,
scan as that number. -/
theorem number_toDigits {n : Nat} (hn : n ≤ u64Max) {rest : List Char} (hr : Closes rest) :
    number true (Nat.toDigits 10 n ++ rest) = .ok (.nat n, rest, (Nat.toDigits 10 n).length) := by
  rcases Nat.eq_zero_or_pos n with rfl | hpos
  · rw [Nat.toDigits_zero]
    cases rest with
    | nil => rfl
    | cons c r =>
      simp only [Closes] at hr
      rcases hr with rfl | rfl | rfl <;> rfl
  · obtain ⟨c, cs, hcs⟩ := List.exists_cons_of_ne_nil (Nat.toDigits_ne_nil (n := n) (b := 10))
    have hdig : ∀ x ∈ c :: cs, x.isDigit = true := fun x hx =>
      Nat.isDigit_of_mem_toDigits (by omega) (by omega) (hcs ▸ hx)
    have hc0 : c ≠ '0' := fun h => toDigits_ne_zero_cons (by omega) cs (h ▸ hcs)
    have hval : Nat.ofDigitChars 10 cs (c.toNat - '0'.toNat) = n := by
      have := Nat.ofDigitChars_ten_toDigits (n := n)
      rw [hcs, Nat.ofDigitChars_cons] at this
      simpa using this
    rw [hcs, List.cons_append]
    unfold number
    split
    · rename_i h
      simp at h
    · rename_i h
      exact absurd (List.cons.inj h).1 hc0
    · rename_i h
      obtain ⟨rfl, rfl⟩ := List.cons.inj h
      rw [if_pos (hdig _ (by simp)), integerDigits_digits true rest cs _ 1 (fun x hx => hdig x (by simp [hx]))
        (hval ▸ hn), hval, integerDigits_closes hr]
      simp [Nat.add_comm]

end DocStore.JsonScan

namespace DocStore.JsonRead

open JsonText

variable {α β : Type} {k : Cursor}

/-! ## Running a reader from a cursor -/

/-- A reader run from cursor `k`: what it gives and where it stops. -/
def runFrom (x : JsonRead α) (k : Cursor) : Except ReadError α × Cursor := (ExceptT.run x).run k

theorem runFrom_bind_ok {x : JsonRead α} {a : α} {k' : Cursor} (f : α → JsonRead β)
    (h : runFrom x k = (.ok a, k')) : runFrom (x >>= f) k = runFrom (f a) k' := by
  unfold runFrom at h ⊢
  simp only [ExceptT.run_bind, StateT.run_bind, h]
  rfl

theorem runFrom_pure (a : α) (k : Cursor) : runFrom (pure a : JsonRead α) k = (.ok a, k) := rfl

theorem runFrom_get (k : Cursor) : runFrom (get : JsonRead Cursor) k = (.ok k, k) := rfl

theorem runFrom_bump (k : Cursor) : runFrom bump k = (.ok (), k.bump) := rfl

theorem runFrom_peek (k : Cursor) : runFrom peek k = (.ok k.rest.head?, k) := rfl

theorem runFrom_set (k' k : Cursor) : runFrom (set k' : JsonRead PUnit) k = (.ok ⟨⟩, k') := rfl

theorem runFrom_modify (f : Cursor → Cursor) (k : Cursor) :
    runFrom (modify f : JsonRead PUnit) k = (.ok ⟨⟩, f k) := rfl

theorem runFrom_tryCatch_ok {x : JsonRead α} {a : α} {k k' : Cursor} {h : ReadError → JsonRead α}
    (hx : runFrom x k = (.ok a, k')) : runFrom (tryCatch x h) k = (.ok a, k') := by
  unfold runFrom at hx ⊢
  rw [ExceptT.run_tryCatch, StateT.run_bind, hx]
  rfl

theorem runFrom_attempt_ok {x : JsonRead α} {a : α} {k k' : Cursor} (hx : runFrom x k = (.ok a, k')) :
    runFrom (attempt x) k = (.ok (.ok a), k') := by
  unfold attempt
  refine runFrom_tryCatch_ok ?_
  unfold runFrom at hx ⊢
  simp only [ExceptT.run_map, StateT.run_map, hx]
  rfl

/-- A text that does not start with a blank. -/
def NoLeadingBlank : List Char → Prop
  | [] => True
  | c :: _ => ¬ IsBlank c

theorem skipBlanks_go_of_noLeadingBlank {rest : List Char} (h : NoLeadingBlank rest) (line col : Nat) :
    skipBlanks.go rest line col = (rest, line, col) := by
  cases rest with
  | nil => rfl
  | cons c r =>
    simp only [NoLeadingBlank, IsBlank, not_or] at h
    obtain ⟨h1, h2, h3, h4⟩ := h
    simp [skipBlanks.go, h1, h2, h3, h4]

theorem runFrom_skipBlanks (h : NoLeadingBlank k.rest) : runFrom skipBlanks k = (.ok k.rest.head?, k) := by
  unfold skipBlanks
  rw [runFrom_bind_ok _ (runFrom_get k)]
  simp only [skipBlanks_go_of_noLeadingBlank h]
  rfl

theorem toList_quote (s : String) : (quote s).toList = '"' :: (s.toList.flatMap escapeChar ++ ['"']) := by
  simp [quote]

theorem not_isBlank_of_isDigit {c : Char} (h : c.isDigit = true) : ¬ IsBlank c := by
  have hc := Char.isDigit_iff_toNat.1 h
  simp only [Char.reduceToNat] at hc
  simp only [IsBlank]
  rintro (rfl | rfl | rfl | rfl) <;> simp at hc

/-! ## Reading a text -/

/-- `r` reads `t` as `a`: from a cursor standing before `t` and a continuation that `F`
admits, with at least `depth` levels of nesting and `budget` steps left, it gives `a` and
stops right after `t`, its depth and budget as they were. -/
def Reads (F : List Char → Prop) (depth budget : Nat) (r : JsonRead α) (t : List Char) (a : α) : Prop :=
  ∀ (k : Cursor) (rest : List Char), F rest → k.rest = t ++ rest → depth ≤ k.depth → budget ≤ k.budget →
    ∃ k' : Cursor, runFrom r k = (.ok a, k') ∧ k'.rest = rest ∧ k'.depth = k.depth ∧ k'.budget = k.budget

variable {F G : List Char → Prop} {d b : Nat}

namespace Reads

theorem mono {r : JsonRead α} {t : List Char} {a : α} (h : Reads F d b r t a) {F' : List Char → Prop} {d' b' : Nat}
    (hF : ∀ rest, F' rest → F rest) (hd : d ≤ d') (hb : b ≤ b') : Reads F' d' b' r t a := by
  intro k rest hr hk hdk hbk
  exact h k rest (hF rest hr) hk (by omega) (by omega)

theorem pure (a : α) : Reads F d b (pure a) [] a := by
  intro k rest _ hk _ _
  exact ⟨k, rfl, by simpa using hk, rfl, rfl⟩

/-- Reading `t` then, from what it gave, `u`, reads `t ++ u`; the first reader's continuation
is the second's text followed by the second's continuation. -/
theorem bind {x : JsonRead α} {f : α → JsonRead β} {t u : List Char} {a : α} {c : β}
    (hx : Reads G d b x t a) (hf : Reads F d b (f a) u c) (hFG : ∀ rest, F rest → G (u ++ rest)) :
    Reads F d b (x >>= f) (t ++ u) c := by
  intro k rest hr hk hdk hbk
  obtain ⟨k₁, h₁, hr₁, hd₁, hb₁⟩ := hx k (u ++ rest) (hFG rest hr) (by simp [hk]) hdk hbk
  obtain ⟨k₂, h₂, hr₂, hd₂, hb₂⟩ := hf k₁ rest hr hr₁ (by omega) (by omega)
  exact ⟨k₂, by rw [runFrom_bind_ok f h₁, h₂], hr₂, by omega, by omega⟩

/-- A step whose answer is turned into a result without reading more. -/
theorem bind_pure {x : JsonRead α} {f : α → JsonRead β} {t : List Char} {a : α} {c : β}
    (hx : Reads F d b x t a) (hf : f a = Pure.pure c) : Reads F d b (x >>= f) t c := by
  intro k rest hr hk hdk hbk
  obtain ⟨k₁, h₁, hr₁, hd₁, hb₁⟩ := hx k rest hr hk hdk hbk
  exact ⟨k₁, by rw [runFrom_bind_ok f h₁, hf]; rfl, hr₁, hd₁, hb₁⟩

theorem map {x : JsonRead α} {t : List Char} {a : α} (hx : Reads F d b x t a) (f : α → β) :
    Reads F d b (f <$> x) t (f a) := by
  intro k rest hr hk hdk hbk
  obtain ⟨k₁, h₁, hr₁, hd₁, hb₁⟩ := hx k rest hr hk hdk hbk
  refine ⟨k₁, ?_, hr₁, hd₁, hb₁⟩
  unfold runFrom at h₁ ⊢
  simp only [ExceptT.run_map, StateT.run_map, h₁]
  rfl

theorem placed {x : JsonRead α} {t : List Char} {a : α} (hx : Reads F d b x t a) :
    Reads F d b (placed x) t a := by
  intro k rest hr hk hdk hbk
  obtain ⟨k₁, h₁, hr₁, hd₁, hb₁⟩ := hx k rest hr hk hdk hbk
  exact ⟨k₁, runFrom_tryCatch_ok h₁, hr₁, hd₁, hb₁⟩

theorem attempt {x : JsonRead α} {t : List Char} {a : α} (h : Reads F d b x t a) :
    Reads F d b (attempt x) t (.ok a) := by
  intro k rest hr hk hdk hbk
  obtain ⟨k₁, h₁, hr₁, hd₁, hb₁⟩ := h k rest hr hk hdk hbk
  exact ⟨k₁, runFrom_attempt_ok h₁, hr₁, hd₁, hb₁⟩

/-- A body read one level deeper reads inside `nested`, which gives the level back. -/
theorem nested {body : JsonRead α} {t : List Char} {a : α} (hd : 1 ≤ d) (h : Reads F d b body t a) :
    Reads F (d + 1) b (nested body) t a := by
  intro k rest hr hk hdk hbk
  obtain ⟨k₁, h₁, hr₁, hd₁, hb₁⟩ := h { k with depth := k.depth - 1 } rest hr hk (by simp; omega) hbk
  refine ⟨{ k₁ with depth := k₁.depth + 1 }, ?_, hr₁, by simp [hd₁]; omega, hb₁⟩
  unfold JsonRead.nested
  rw [runFrom_bind_ok _ (runFrom_get k)]
  dsimp only
  rw [if_neg (by omega)]
  simp only [runFrom_bind_ok _ (runFrom_set _ k), runFrom_bind_ok _ (runFrom_attempt_ok h₁),
    runFrom_bind_ok _ (runFrom_modify _ k₁)]
  rfl

theorem fuelFor_bind {f : Nat → JsonRead α} {t : List Char} {a : α} (hf : ∀ n, b ≤ n → Reads F d b (f n) t a) :
    Reads F d b (fuelFor >>= f) t a := by
  intro k rest hr hk hdk hbk
  have hfuel : runFrom fuelFor k = (.ok k.budget, k) := rfl
  rw [runFrom_bind_ok f hfuel]
  exact hf k.budget hbk k rest hr hk hdk hbk

/-! ## Tokens -/

/-- A step after the blanks are skipped reads what it reads when no blank stands first. -/
theorem skipBlanks_bind {c : Char} {t : List Char} {f : Option Char → JsonRead α} {a : α} (hc : ¬ IsBlank c)
    (hf : Reads F d b (f (some c)) (c :: t) a) : Reads F d b (skipBlanks >>= f) (c :: t) a := by
  intro k rest hr hk hdk hbk
  have hs : runFrom skipBlanks k = (.ok (some c), k) := by
    rw [runFrom_skipBlanks (by rw [hk]; exact hc), hk]
    rfl
  rw [runFrom_bind_ok f hs]
  exact hf k rest hr hk hdk hbk

theorem peek_bind {c : Char} {t : List Char} {f : Option Char → JsonRead α} {a : α}
    (hf : Reads F d b (f (some c)) (c :: t) a) : Reads F d b (peek >>= f) (c :: t) a := by
  intro k rest hr hk hdk hbk
  have hs : runFrom peek k = (.ok (some c), k) := by
    rw [runFrom_peek, hk]
    rfl
  rw [runFrom_bind_ok f hs]
  exact hf k rest hr hk hdk hbk

theorem bump (c : Char) : Reads F d b bump [c] () := by
  intro k rest _ hk _ _
  refine ⟨k.bump, rfl, ?_, ?_, ?_⟩ <;> simp [Cursor.bump, hk]

theorem keywordTail : ∀ cs : List Char, Reads F d b (keywordTail cs) cs ()
  | [] => Reads.pure ()
  | c :: more => by
    unfold JsonRead.keywordTail
    refine peek_bind ?_
    have h := (bump (F := fun r => ∃ r', r = more ++ r' ∧ F r') (d := d) (b := b) c).bind
      (f := fun _ => if c = c then JsonRead.keywordTail more else fail .expectedIdent)
      (by simpa using keywordTail more) (fun rest hr => ⟨rest, rfl, hr⟩)
    simpa using h

theorem colon : Reads F d b colon [':'] () := by
  unfold JsonRead.colon
  refine skipBlanks_bind (by simp [IsBlank]) ?_
  split
  · exact bump ':'
  · rename_i hne h
    exact absurd (Option.some.inj h).symm hne
  · rename_i h
    simp at h

theorem endArray : Reads F d b endArray [']'] () := by
  unfold JsonRead.endArray
  refine skipBlanks_bind (by simp [IsBlank]) ?_
  split
  · exact bump ']'
  · rename_i h
    simp at h
  · rename_i hne _ h
    exact absurd (Option.some.inj h).symm hne
  · rename_i h
    simp at h

theorem endObject : Reads F d b endObject ['}'] () := by
  unfold JsonRead.endObject
  refine skipBlanks_bind (by simp [IsBlank]) ?_
  split
  · exact bump '}'
  · rename_i h
    simp at h
  · rename_i hne _ h
    exact absurd (Option.some.inj h).symm hne
  · rename_i h
    simp at h

/-! ## Scalars -/

/-- The string reader reads a string's escaped text and closing quote back to the string. -/
theorem string (s : String) : Reads F d b JsonRead.string (s.toList.flatMap escapeChar ++ ['"']) s := by
  intro k rest hr hk hdk hbk
  obtain ⟨l, c, hs⟩ := JsonScan.scanString_escaped s.toList rest [] k.line k.column
  refine ⟨{ k with rest := rest, line := l, column := c }, ?_, rfl, rfl, rfl⟩
  unfold JsonRead.string
  rw [runFrom_bind_ok _ (runFrom_get k)]
  simp only [hk, List.append_assoc, List.cons_append, List.nil_append, hs]
  simp [runFrom]
  rfl

theorem text (s : String) : Reads F d b text (quote s).toList s := by
  unfold JsonRead.text
  rw [toList_quote]
  refine placed (skipBlanks_bind (by simp [IsBlank]) ?_)
  show Reads F d b (JsonRead.bump >>= fun _ => JsonRead.string) _ s
  exact (bump (F := fun _ => True) '"').bind (string s) (fun _ _ => trivial)

theorem boolean (v : Bool) : Reads F d b boolean (if v then "true" else "false").toList v := by
  unfold JsonRead.boolean
  cases v
  · rw [if_neg Bool.false_ne_true, show "false".toList = ['f', 'a', 'l', 's', 'e'] from rfl]
    refine placed (skipBlanks_bind (by simp [IsBlank]) ?_)
    show Reads F d b (JsonRead.bump >>= fun _ => JsonRead.keywordTail ['a', 'l', 's', 'e'] >>= fun _ => Pure.pure false) _ _
    exact (bump (F := fun _ => True) 'f').bind ((keywordTail (F := fun _ => True) _).bind (Reads.pure false)
      (fun _ _ => trivial)) (fun _ _ => trivial)
  · rw [if_pos rfl, show "true".toList = ['t', 'r', 'u', 'e'] from rfl]
    refine placed (skipBlanks_bind (by simp [IsBlank]) ?_)
    show Reads F d b (JsonRead.bump >>= fun _ => JsonRead.keywordTail ['r', 'u', 'e'] >>= fun _ => Pure.pure true) _ _
    exact (bump (F := fun _ => True) 't').bind ((keywordTail (F := fun _ => True) _).bind (Reads.pure true)
      (fun _ _ => trivial)) (fun _ _ => trivial)

theorem number {n : Nat} (hn : n ≤ JsonScan.u64Max) :
    Reads JsonScan.Closes d b (JsonRead.number true) (Nat.toDigits 10 n) (.nat n) := by
  intro k rest hr hk _ _
  refine ⟨{ k with rest := rest, column := k.column + (Nat.toDigits 10 n).length }, ?_, rfl, rfl, rfl⟩
  unfold JsonRead.number
  rw [runFrom_bind_ok _ (runFrom_get k)]
  simp only [hk, JsonScan.number_toDigits hn hr]
  rfl

theorem natUpTo {n max : Nat} (expected : String) (hn : n ≤ max) (hmax : max ≤ JsonScan.u64Max) :
    Reads JsonScan.Closes d b (JsonRead.natUpTo max expected) (Nat.toDigits 10 n) n := by
  obtain ⟨c, cs, hcs⟩ := List.exists_cons_of_ne_nil (Nat.toDigits_ne_nil (n := n) (b := 10))
  have hc : c.isDigit = true := Nat.isDigit_of_mem_toDigits (by omega) (by omega) (hcs ▸ List.mem_cons_self)
  unfold JsonRead.natUpTo
  rw [hcs]
  refine placed (skipBlanks_bind (not_isBlank_of_isDigit hc) ?_)
  split
  · rename_i h
    simp at h
  · rename_i h
    obtain rfl := Option.some.inj h
    simp at hc
  · rename_i h
    obtain rfl := Option.some.inj h
    rw [if_pos hc, ← hcs]
    refine (number (Nat.le_trans hn hmax)).bind_pure ?_
    simp only [if_pos hn]

theorem optional_null (x : JsonRead α) : Reads F d b (optional x) ['n', 'u', 'l', 'l'] none := by
  unfold JsonRead.optional
  refine skipBlanks_bind (by simp [IsBlank]) ?_
  split
  · exact (bump (F := fun _ => True) 'n').bind ((keywordTail (F := fun _ => True) _).bind (Reads.pure none)
      (fun _ _ => trivial)) (fun _ _ => trivial)
  · rename_i h
    exact absurd rfl h

theorem optional_some {x : JsonRead α} {c : Char} {t : List Char} {a : α} (hx : Reads F d b x (c :: t) a)
    (hc : ¬ IsBlank c) (hn : c ≠ 'n') : Reads F d b (optional x) (c :: t) (some a) := by
  unfold JsonRead.optional
  refine skipBlanks_bind hc ?_
  split
  · rename_i h
    exact absurd (Option.some.inj h) hn
  · exact hx.map some

theorem optional_natUpTo {n max : Nat} (expected : String) (hn : n ≤ max) (hmax : max ≤ JsonScan.u64Max) :
    Reads JsonScan.Closes d b (optional (JsonRead.natUpTo max expected)) (Nat.toDigits 10 n) (some n) := by
  obtain ⟨c, cs, hcs⟩ := List.exists_cons_of_ne_nil (Nat.toDigits_ne_nil (n := n) (b := 10))
  have hc : c.isDigit = true := Nat.isDigit_of_mem_toDigits (by omega) (by omega) (hcs ▸ List.mem_cons_self)
  have hx := natUpTo (d := d) (b := b) expected hn hmax
  rw [hcs] at hx ⊢
  refine optional_some hx (not_isBlank_of_isDigit hc) ?_
  rintro rfl
  simp at hc

theorem optional_text (s : String) : Reads F d b (optional JsonRead.text) (quote s).toList (some s) := by
  have hx := text (F := F) (d := d) (b := b) s
  rw [toList_quote] at hx ⊢
  exact optional_some hx (by simp [IsBlank]) (by decide)

theorem instant {s : String} {t : Instant} (ht : Instant.parse s = .ok t) :
    Reads F d b instant (quote s).toList t := by
  unfold JsonRead.instant
  rw [toList_quote]
  refine placed (skipBlanks_bind (by simp [IsBlank]) ?_)
  split
  · rename_i h
    simp at h
  · exact (bump (F := fun _ => True) '"').bind ((string s).bind_pure (by simp only [ht]))
      (fun _ _ => trivial)
  · rename_i hne h
    exact absurd (Option.some.inj h).symm hne

theorem variantName {vs : List (String × α)} {s s' : String} {v : α} (h : vs.find? (·.1 == s) = some (s', v)) :
    Reads F d b (variantName vs) (quote s).toList v := by
  unfold JsonRead.variantName
  rw [toList_quote]
  refine placed (skipBlanks_bind (by simp [IsBlank]) ?_)
  split
  · rename_i h
    simp at h
  · exact (bump (F := fun _ => True) '"').bind ((string s).bind_pure (by simp only [h]))
      (fun _ _ => trivial)
  · rename_i hne h
    exact absurd (Option.some.inj h).symm hne

/-- A variant written as its name reads as the variant of that name. -/
theorem enumeration {vs : List (String × α)} {s s' : String} {v : α} (h : vs.find? (·.1 == s) = some (s', v)) :
    Reads F d b (enumeration vs) (quote s).toList v := by
  unfold JsonRead.enumeration
  have hv := variantName (F := F) (d := d) (b := b) h
  rw [toList_quote] at hv ⊢
  refine skipBlanks_bind (by simp [IsBlank]) ?_
  split
  · rename_i h
    simp at h
  · exact hv
  · rename_i h
    simp at h
  · rename_i hne _ h
    exact absurd (Option.some.inj h).symm hne

theorem fieldOnce {read : JsonRead α} {t : List Char} {a : α} (name : String) (h : Reads F d b read t a) :
    Reads F d b (fieldOnce name none read) (':' :: t) a := by
  unfold JsonRead.fieldOnce
  exact (colon (F := fun _ => True)).bind h (fun _ _ => trivial)

end Reads

/-! ## Arrays and objects -/

/-- A continuation that starts an item or a member: a character that is no blank, no comma and
no closing bracket. -/
def StartsItem (r : List Char) : Prop :=
  ∃ c r', r = c :: r' ∧ ¬ IsBlank c ∧ c ≠ ']' ∧ c ≠ '}' ∧ c ≠ ','

/-- A continuation that closes with `c`. -/
def ClosesWith (c : Char) (r : List Char) : Prop := ∃ r', r = c :: r'

theorem closes_joinText_append {ts : List (List Char)} {rest : List Char} (h : ClosesWith ']' rest ∨ ClosesWith '}' rest) :
    JsonScan.Closes (joinText false ts ++ rest) := by
  cases ts with
  | nil =>
    rcases h with ⟨r, rfl⟩ | ⟨r, rfl⟩ <;> simp [joinText, JsonScan.Closes]
  | cons t ts => simp [joinText, JsonScan.Closes]

theorem StartsItem.append {t : List Char} (h : StartsItem t) (r : List Char) : StartsItem (t ++ r) := by
  obtain ⟨c, t', rfl, h⟩ := h
  exact ⟨c, t' ++ r, rfl, h⟩

namespace Reads

theorem nextElement_close (first : Bool) : Reads (ClosesWith ']') d b (nextElement first) [] false := by
  rintro k rest ⟨r', rfl⟩ hk _ _
  simp only [List.nil_append] at hk
  refine ⟨k, ?_, hk, rfl, rfl⟩
  unfold nextElement
  rw [runFrom_bind_ok _ (runFrom_skipBlanks (by rw [hk]; simp [NoLeadingBlank, IsBlank])), hk]
  rfl

theorem nextElement_item (first : Bool) :
    Reads StartsItem d b (nextElement first) (if first then [] else [',']) true := by
  rintro k rest ⟨c, r', rfl, hcb, hc1, hc2, hc3⟩ hk _ _
  cases first
  · -- a comma, then the item
    simp only [Bool.false_eq_true, if_false, List.cons_append, List.nil_append] at hk
    refine ⟨{ k.bump with }, ?_, by simp [Cursor.bump, hk], by simp [Cursor.bump, hk], by simp [Cursor.bump, hk]⟩
    unfold nextElement
    rw [runFrom_bind_ok _ (runFrom_skipBlanks (by rw [hk]; simp [NoLeadingBlank, IsBlank])), hk]
    simp only [List.head?_cons, Bool.false_eq_true, if_false]
    rw [runFrom_bind_ok _ (runFrom_bump k),
      runFrom_bind_ok _ (runFrom_skipBlanks (by simp [Cursor.bump, hk, NoLeadingBlank, hcb]))]
    simp only [Cursor.bump, hk, List.head?_cons]
    rfl
  · -- the first item, nothing before it
    simp only [if_true, List.nil_append] at hk
    refine ⟨k, ?_, hk, rfl, rfl⟩
    unfold nextElement
    rw [runFrom_bind_ok _ (runFrom_skipBlanks (by rw [hk]; exact hcb)), hk]
    dsimp only
    split
    · rename_i h
      exact absurd (Option.some.inj h) hc1
    · rename_i h
      exact absurd (Option.some.inj h) hc3
    · rename_i c' _ _ h
      obtain rfl := Option.some.inj h
      rw [if_pos rfl, runFrom_bind_ok _ (runFrom_pure _ k)]
      split
      · rename_i h
        exact absurd (Option.some.inj h) hc1
      · rfl
      · rename_i h
        simp at h
    · rename_i h
      simp at h

theorem nextKey_close (first : Bool) : Reads (ClosesWith '}') d b (nextKey first) [] none := by
  rintro k rest ⟨r', rfl⟩ hk _ _
  simp only [List.nil_append] at hk
  refine ⟨k, ?_, hk, rfl, rfl⟩
  unfold nextKey
  rw [runFrom_bind_ok _ (runFrom_skipBlanks (by rw [hk]; simp [NoLeadingBlank, IsBlank])), hk]
  rfl

/-- The key of a member, after a comma unless it is the first. -/
theorem nextKey_key (first : Bool) (key : String) :
    Reads F d b (nextKey first) ((if first then [] else [',']) ++ (quote key).toList) (some key) := by
  have hkey : Reads F d b (JsonRead.bump >>= fun _ => some <$> JsonRead.string) (quote key).toList (some key) := by
    rw [toList_quote]
    exact (bump (F := fun _ => True) '"').bind ((string key).map some) (fun _ _ => trivial)
  cases first
  · -- a comma, then the key
    simp only [Bool.false_eq_true, if_false, List.cons_append, List.nil_append]
    unfold nextKey
    rw [toList_quote] at hkey ⊢
    refine skipBlanks_bind (by simp [IsBlank]) ?_
    split
    · rename_i h
      simp at h
    · rw [if_neg (by decide)]
      exact (bump (F := fun _ => True) ',').bind (skipBlanks_bind (by simp [IsBlank]) hkey) (fun _ _ => trivial)
    · rename_i _ hne h
      exact absurd (Option.some.inj h).symm hne
    · rename_i h
      simp at h
  · -- the first key, nothing before it
    simp only [if_true, List.nil_append]
    unfold nextKey
    rw [toList_quote] at hkey ⊢
    refine skipBlanks_bind (by simp [IsBlank]) ?_
    split
    · rename_i h
      simp at h
    · rename_i h
      simp at h
    · rename_i _ _ h
      obtain rfl := Option.some.inj h
      rw [if_pos rfl, pure_bind]
      exact hkey
    · rename_i h
      simp at h

/-- A bracketed body: the opening bracket is taken one level deeper, the body read, and the
closing part read back at the outer level. -/
theorem bracketed {G : List Char → Prop} {body : JsonRead α} {close : JsonRead Unit} {o : Char}
    {t u : List Char} {a : α} (hd : 1 ≤ d) (hb : Reads G d b body t a) (hc : Reads F (d + 1) b close u ())
    (hG : ∀ rest, F rest → G (u ++ rest)) : Reads F (d + 1) b (bracketed body close) (o :: t ++ u) a :=
  (nested hd ((bump (F := fun _ => True) o).bind hb.attempt (fun _ _ => trivial))).bind
    (hc.attempt.bind_pure rfl) hG

/-- Items read one by one, each by `item` from its own text, until the closing bracket. -/
theorem itemsOf {item : JsonRead α} :
    ∀ (xs : List (List Char × α)) (first : Bool) (acc : List α) (fuel : Nat),
      (∀ p ∈ xs, Reads JsonScan.Closes d b item p.1 p.2 ∧ StartsItem p.1) → xs.length < fuel →
      Reads (ClosesWith ']') d b (itemsOf item fuel first acc) (joinText first (xs.map (·.1)))
        (acc.reverse ++ xs.map (·.2))
  | [], first, acc, fuel + 1, _, _ => by
    unfold JsonRead.itemsOf
    simp only [List.map_nil, List.append_nil, joinText]
    exact (nextElement_close first).bind (Reads.pure acc.reverse) (fun _ h => h)
  | (t, a) :: xs, first, acc, fuel + 1, hxs, hlen => by
    obtain ⟨ht, hstart⟩ : Reads JsonScan.Closes d b item t a ∧ StartsItem t := hxs (t, a) (by simp)
    have ih := itemsOf xs false (a :: acc) fuel (fun p hp => hxs p (by simp [hp])) (by simp at hlen; omega)
    unfold JsonRead.itemsOf
    simp only [List.map_cons, joinText]
    refine (nextElement_item first).bind ?_ (fun rest _ => by rw [List.append_assoc]; exact hstart.append _)
    rw [if_pos rfl]
    have h := ht.bind (f := fun v => JsonRead.itemsOf item fuel false (v :: acc)) ih
      (fun rest hr => closes_joinText_append (.inl hr))
    simpa using h

/-- An array of items, each read by `item` from its own text, with enough steps for all of them. -/
theorem list {item : JsonRead α} {xs : List (List Char × α)} (hd : 1 ≤ d)
    (hxs : ∀ p ∈ xs, Reads JsonScan.Closes d b item p.1 p.2 ∧ StartsItem p.1) (hb : xs.length < b) :
    Reads F (d + 1) b (list item) ('[' :: joinText true (xs.map (·.1)) ++ [']']) (xs.map (·.2)) := by
  unfold JsonRead.list
  refine placed (skipBlanks_bind (by simp [IsBlank]) ?_)
  split
  · rename_i h
    simp at h
  · have hbody : Reads (ClosesWith ']') d b (fuelFor >>= fun n => JsonRead.itemsOf item n true [])
        (joinText true (xs.map (·.1))) (xs.map (·.2)) :=
      fuelFor_bind fun n hn => by simpa using itemsOf xs true [] n hxs (by omega)
    exact bracketed hd hbody endArray (fun rest _ => ⟨rest, rfl⟩)
  · rename_i hne h
    exact absurd (Option.some.inj h).symm hne

end Reads

/-- Members of an object read by `step`, from state `s` to state `s'`: each member's key, then
the text after the key (its colon and value), read by `step` from the state so far. -/
inductive StepsThrough {σ : Type} (step : σ → String → JsonRead σ) (d b : Nat) :
    σ → List (String × List Char) → σ → Prop
  | nil (s : σ) : StepsThrough step d b s [] s
  | cons {s s₁ s' : σ} {key : String} {t : List Char} {ms : List (String × List Char)} :
      Reads JsonScan.Closes d b (step s key) t s₁ → StepsThrough step d b s₁ ms s' →
      StepsThrough step d b s ((key, t) :: ms) s'

theorem StepsThrough.append {σ : Type} {step : σ → String → JsonRead σ} {s s₁ s₂ : σ}
    {ms₁ ms₂ : List (String × List Char)} (h₁ : StepsThrough step d b s ms₁ s₁)
    (h₂ : StepsThrough step d b s₁ ms₂ s₂) : StepsThrough step d b s (ms₁ ++ ms₂) s₂ := by
  induction h₁ with
  | nil => exact h₂
  | cons h _ ih => exact .cons h (ih h₂)

theorem StepsThrough.single {σ : Type} {step : σ → String → JsonRead σ} {s s' : σ} {key : String}
    {t : List Char} (h : Reads JsonScan.Closes d b (step s key) t s') : StepsThrough step d b s [(key, t)] s' :=
  .cons h (.nil s')

/-- The text of members: each quoted key followed by its own text. -/
def membersText (first : Bool) (ms : List (String × List Char)) : List Char :=
  joinText first (ms.map fun p => (quote p.1).toList ++ p.2)

namespace Reads

theorem membersOf {σ : Type} {step : σ → String → JsonRead σ} {s s' : σ} {ms : List (String × List Char)}
    (h : StepsThrough step d b s ms s') :
    ∀ (first : Bool) (fuel : Nat), ms.length < fuel →
      Reads (ClosesWith '}') d b (membersOf step fuel first s) (membersText first ms) s' := by
  induction h with
  | nil s =>
    intro first fuel hfuel
    obtain ⟨fuel, rfl⟩ : ∃ f, fuel = f + 1 := ⟨fuel - 1, by simp at hfuel; omega⟩
    unfold JsonRead.membersOf
    exact (nextKey_close first).bind (Reads.pure s) (fun _ h => h)
  | @cons s s₁ s' key t ms hstep _ ih =>
    intro first fuel hfuel
    obtain ⟨fuel, rfl⟩ : ∃ f, fuel = f + 1 := ⟨fuel - 1, by omega⟩
    unfold JsonRead.membersOf
    have hrest := hstep.bind (f := fun s₁ => JsonRead.membersOf step fuel false s₁) (ih false fuel (by simp at hfuel; omega))
      (fun rest hr => closes_joinText_append (.inr hr))
    have htext : membersText first ((key, t) :: ms) =
        ((if first then [] else [',']) ++ (quote key).toList) ++ (t ++ membersText false ms) := by
      simp [membersText, joinText]
    rw [htext]
    exact (nextKey_key (F := fun _ => True) first key).bind hrest (fun _ _ => trivial)

/-- A record written as an object, its members read by `fromMembers`. -/
theorem record {fm fi : JsonRead α} {t : List Char} {a : α} (name : String) (hd : 1 ≤ d)
    (h : Reads (ClosesWith '}') d b fm t a) : Reads F (d + 1) b (record name fm fi) ('{' :: t ++ ['}']) a := by
  unfold JsonRead.record
  refine placed (skipBlanks_bind (by simp [IsBlank]) ?_)
  split
  · rename_i h
    simp at h
  · rename_i h
    simp at h
  · exact bracketed hd h endObject (fun rest _ => ⟨rest, rfl⟩)
  · rename_i _ hne h
    exact absurd (Option.some.inj h).symm hne

end Reads

/-! ## Whole texts -/

/-- A reader that reads a whole text, with no more depth and steps than a run starts with,
gives its value when run on the text. -/
theorem run_of_reads {r : JsonRead α} {s : String} {a : α} (h : Reads (· = []) d b r s.toList a)
    (hd : d ≤ 128) (hb : b ≤ 2 * s.length + 4) : run r s = .ok a := by
  obtain ⟨k', h₁, hr, -, -⟩ := h (Cursor.start s) [] rfl (by simp [Cursor.start]) hd
    (by simp only [Cursor.start, String.length_toList]; omega)
  have hfinish : runFrom finish k' = (.ok (), k') := by
    unfold finish
    rw [runFrom_bind_ok _ (runFrom_skipBlanks (by rw [hr]; trivial)), hr]
    rfl
  show (runFrom (r >>= fun a => finish >>= fun _ => Pure.pure a) (Cursor.start s)).1 = .ok a
  rw [runFrom_bind_ok _ h₁, runFrom_bind_ok _ hfinish]
  rfl

end DocStore.JsonRead
