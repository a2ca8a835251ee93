import Mathlib
import DocStore.Error
import DocStore.Proofs.Repo.Edits
/-
  DocStore.Proofs.Text.Redaction — redaction leaves no secret, and a second run changes
  nothing (see `DocStore.Text.Redact`).

  `Redacted afterWord cs` says that `cs` shows no secret: wherever a secret can start, at a
  word start, the secret found there reads `NAME=[REDACTED]`. The argument has three parts.
  - A secret is found again where it was replaced: its name is kept, `=[REDACTED]` is a
    separator and a value, and what followed the old value cannot continue the new one,
    since values are taken whole (`secretAt_redacted`).
  - Nothing new is found before a replacement: a name is made of word characters, so a
    match that fails at one word start cannot reach past the next word start, where the
    first change is made (`secretAt_cons_append_eq_none`, `redactChars_eq_or_first_change`).
  - After a replacement the text goes on at a character that is neither a word character
    nor part of a value, so the boundary does not matter there (`redacted_of_not_word`).
  Main statements: `redacted_redactChars` (the output is redacted),
  `redactChars_of_redacted` (redacted text is left as it is), and
  `redact_leaves_no_secret`, which adds the user message of every store error.
-/

namespace DocStore.Text

/-! ## Characters -/

theorem le_iff_toNat_le {a b : Char} : a ≤ b ↔ a.toNat ≤ b.toNat := Iff.rfl

theorem toNat_of_isLower {c : Char} (h : c.isLower = true) : 97 ≤ c.toNat ∧ c.toNat ≤ 122 := by
  simp only [Char.isLower, Bool.and_eq_true, decide_eq_true_eq] at h
  exact h

theorem isWordChar_of_isAlpha {c : Char} (h : c.isAlpha = true) : isWordChar c = true := by
  have hz : c.toNat ≤ 'z'.toNat := by
    simp only [Char.isAlpha, Char.isUpper, Char.isLower, Bool.or_eq_true, Bool.and_eq_true, decide_eq_true_eq] at h
    rcases h with ⟨-, h⟩ | ⟨-, h⟩
    · exact Nat.le_trans h (by decide)
    · exact h
  have : c.toNat < 0x80 := by simp at hz; omega
  simp [isWordChar, this, Char.isAlphanum, h]

/-- What folds to a lower-case letter is a word character: an ASCII letter, the Kelvin sign
or the long s. -/
theorem isWordChar_of_foldsTo {c p : Char} (hp : p.isLower = true) (h : foldsTo c p = true) :
    isWordChar c = true := by
  simp only [foldsTo, Bool.or_eq_true, Bool.and_eq_true, beq_iff_eq, decide_eq_true_eq] at h
  rcases h with ((rfl | ⟨hu, -⟩) | ⟨-, hk⟩) | ⟨-, hs⟩
  · exact isWordChar_of_isAlpha (by simp [Char.isAlpha, hp])
  · exact isWordChar_of_isAlpha (by
      simp only [Char.isAlpha, Char.isUpper, Bool.or_eq_true, decide_eq_true_eq]
      exact Or.inl hu)
  · rw [← Char.ofNat_toNat c, hk]
    decide +kernel
  · rw [← Char.ofNat_toNat c, hs]
    decide +kernel

/-- A character folds to at most one lower-case letter. -/
theorem eq_of_foldsTo {c p q : Char} (hp : p.isLower = true) (hq : q.isLower = true)
    (h1 : foldsTo c p = true) (h2 : foldsTo c q = true) : p = q := by
  have hp' := toNat_of_isLower hp
  have hq' := toNat_of_isLower hq
  simp only [foldsTo, Bool.or_eq_true, Bool.and_eq_true, beq_iff_eq, decide_eq_true_eq,
    le_iff_toNat_le] at h1 h2
  -- the four ways to fold are an equal letter, an upper-case ASCII letter, the Kelvin sign
  -- and the long s, and their code points are apart
  rcases h1 with ((rfl | ⟨hu, rfl⟩) | ⟨rfl, hk⟩) | ⟨rfl, hs⟩ <;>
    rcases h2 with ((rfl | ⟨hv, rfl⟩) | ⟨rfl, hk'⟩) | ⟨rfl, hs'⟩ <;>
    first | rfl | (simp at *; omega)

/-- No blank is a word character. -/
theorem isWordChar_eq_false_of_isBlank {c : Char} (h : isBlank c = true) : isWordChar c = false := by
  -- the blanks are two runs of code points and nine single ones; one evaluation checks them all
  have hall : (∀ i < 5, isWordChar (Char.ofNat (0x9 + i)) = false) ∧
      (∀ i < 11, isWordChar (Char.ofNat (0x2000 + i)) = false) ∧
      ∀ n ∈ [0x20, 0x85, 0xA0, 0x1680, 0x2028, 0x2029, 0x202F, 0x205F, 0x3000], isWordChar (Char.ofNat n) = false := by
    decide +kernel
  rw [← Char.ofNat_toNat c]
  simp only [isBlank, Bool.or_eq_true, Bool.and_eq_true, decide_eq_true_eq, beq_iff_eq] at h
  rcases h with ((((((((((hrun | h) | h) | h) | h) | hrun') | h) | h) | h) | h) | h)
  any_goals rw [h]; exact hall.2.2 _ (by simp)
  · obtain ⟨i, hi, hc⟩ : ∃ i < 5, c.toNat = 0x9 + i := ⟨c.toNat - 0x9, by omega, by omega⟩
    rw [hc]
    exact hall.1 i hi
  · obtain ⟨i, hi, hc⟩ : ∃ i < 11, c.toNat = 0x2000 + i := ⟨c.toNat - 0x2000, by omega, by omega⟩
    rw [hc]
    exact hall.2.1 i hi

theorem isBlank_eq_false_of_isWordChar {c : Char} (h : isWordChar c = true) : isBlank c = false :=
  Bool.eq_false_iff.mpr fun hb => by simp [isWordChar_eq_false_of_isBlank hb] at h

theorem isWordChar_sep {c : Char} (h : isWordChar c = true) : (c == ':' || c == '=') = false := by
  rw [Bool.eq_false_iff]
  intro hc
  simp only [Bool.or_eq_true, beq_iff_eq] at hc
  rcases hc with rfl | rfl <;> simp [isWordChar] at h

theorem isValueChar_of_isWordChar {c : Char} (h : isWordChar c = true) : isValueChar c = true := by
  have hcomma : c ≠ ',' := by
    rintro rfl
    simp [isWordChar] at h
  have hsemi : c ≠ ';' := by
    rintro rfl
    simp [isWordChar] at h
  simp [isValueChar, isBlank_eq_false_of_isWordChar h, hcomma, hsemi]

theorem isWordChar_eq_false_of_isValueChar {c : Char} (h : isValueChar c = false) : isWordChar c = false :=
  Bool.eq_false_iff.mpr fun hw => by simp [isValueChar_of_isWordChar hw] at h

/-- Whether the character before what follows `cs` is a word character, where `afterWord`
says it of the character before `cs`. -/
def wordAfter : Bool → List Char → Bool
  | afterWord, [] => afterWord
  | _, c :: cs => wordAfter (isWordChar c) cs

@[simp] theorem wordAfter_nil (afterWord : Bool) : wordAfter afterWord [] = afterWord := rfl

@[simp] theorem wordAfter_cons (afterWord : Bool) (c : Char) (cs : List Char) :
    wordAfter afterWord (c :: cs) = wordAfter (isWordChar c) cs := rfl

theorem wordAfter_append (afterWord : Bool) (cs ds : List Char) :
    wordAfter afterWord (cs ++ ds) = wordAfter (wordAfter afterWord cs) ds := by
  induction cs generalizing afterWord with
  | nil => rfl
  | cons c cs ih => exact ih _

theorem wordAfter_of_getLast? {afterWord : Bool} {cs : List Char} {c : Char} (h : cs.getLast? = some c) :
    wordAfter afterWord cs = isWordChar c := by
  obtain ⟨ds, rfl⟩ := List.getLast?_eq_some_iff.mp h
  simp [wordAfter_append]

/-! ## Names -/

@[simp] theorem startsWithName_nil (cs : List Char) : startsWithName [] cs = true := by
  simp [startsWithName]

@[simp] theorem startsWithName_cons_nil (p : Char) (name : List Char) : startsWithName (p :: name) [] = false := by
  simp [startsWithName]

@[simp] theorem startsWithName_cons_cons (p c : Char) (name cs : List Char) :
    startsWithName (p :: name) (c :: cs) = (foldsTo c p && startsWithName name cs) := by
  simp [startsWithName, Bool.and_left_comm]

theorem sensitiveNames_lower : ∀ n ∈ sensitiveNames, ∀ p ∈ n.toList, p.isLower = true := by
  simp [sensitiveNames]

theorem sensitiveNames_ne_nil : ∀ n ∈ sensitiveNames, n.toList ≠ [] := by
  decide

theorem length_le_of_startsWithName {name cs : List Char} (h : startsWithName name cs = true) :
    name.length ≤ cs.length := by
  simp only [startsWithName, Bool.and_eq_true, decide_eq_true_eq] at h
  exact h.1

/-- Two lower-case names that start one text: one is a prefix of the other. -/
theorem prefix_of_startsWithName {name name' cs : List Char}
    (hl : ∀ p ∈ name, p.isLower = true) (hl' : ∀ p ∈ name', p.isLower = true)
    (h : startsWithName name cs = true) (h' : startsWithName name' cs = true) :
    name <+: name' ∨ name' <+: name := by
  induction cs generalizing name name' with
  | nil =>
    cases name with
    | nil => exact .inl List.nil_prefix
    | cons p name => simp at h
  | cons c cs ih =>
    cases name with
    | nil => exact .inl List.nil_prefix
    | cons p name =>
      cases name' with
      | nil => exact .inr List.nil_prefix
      | cons q name' =>
        simp only [startsWithName_cons_cons, Bool.and_eq_true] at h h'
        simp only [List.mem_cons, forall_eq_or_imp] at hl hl'
        obtain rfl := eq_of_foldsTo hl.1 hl'.1 h.1 h'.1
        simpa [List.cons_prefix_cons] using ih hl.2 hl'.2 h.2 h'.2

/-- At most one sensitive name starts a text. -/
theorem eq_of_startsWithName {n m : String} (hn : n ∈ sensitiveNames) (hm : m ∈ sensitiveNames) {cs : List Char}
    (h : startsWithName n.toList cs = true) (h' : startsWithName m.toList cs = true) : n = m := by
  -- no sensitive name is a prefix of another
  have hpre : ∀ n ∈ sensitiveNames, ∀ m ∈ sensitiveNames, n.toList <+: m.toList → n = m := by decide
  rcases prefix_of_startsWithName (sensitiveNames_lower n hn) (sensitiveNames_lower m hm) h h' with hp | hp
  · exact hpre n hn m hm hp
  · exact (hpre m hm n hn hp).symm

theorem startsWithName_take {name cs : List Char} (h : startsWithName name cs = true) :
    startsWithName name (cs.take name.length) = true := by
  induction cs generalizing name with
  | nil => cases name <;> simp_all
  | cons c cs ih =>
    cases name with
    | nil => simp
    | cons p name =>
      simp only [startsWithName_cons_cons, Bool.and_eq_true] at h
      simp [h.1, ih h.2]

theorem startsWithName_append {name cs : List Char} (h : startsWithName name cs = true) (rest : List Char) :
    startsWithName name (cs ++ rest) = true := by
  induction cs generalizing name with
  | nil => cases name <;> simp_all
  | cons c cs ih =>
    cases name with
    | nil => simp
    | cons p name =>
      simp only [startsWithName_cons_cons, Bool.and_eq_true] at h
      simp [h.1, ih h.2]

/-- A name that already fails on what fits of it in `cs` fails whatever follows `cs`. -/
theorem startsWithName_append_eq_false {name cs : List Char} (h : startsWithName (name.take cs.length) cs = false)
    (rest : List Char) : startsWithName name (cs ++ rest) = false := by
  induction cs generalizing name with
  | nil => simp at h
  | cons c cs ih =>
    cases name with
    | nil => simp at h
    | cons p name =>
      simp only [List.length_cons, List.take_succ_cons, startsWithName_cons_cons] at h
      cases hc : foldsTo c p
      · simp [hc]
      · simp only [hc, Bool.true_and] at h
        simp [hc, ih h]

/-- A name whose letters fold to word characters cannot match across a non-word
character: whether it starts `c :: cs ++ rest` does not depend on `rest` when the last
character of `c :: cs` is not a word character. -/
theorem startsWithName_cons_append {name cs : List Char} {c : Char} (rest : List Char)
    (hl : ∀ p ∈ name, p.isLower = true) (hcs : wordAfter (isWordChar c) cs = false) :
    startsWithName name (c :: cs ++ rest) = (decide (name.length ≤ cs.length + 1) && startsWithName name (c :: cs)) := by
  induction cs generalizing c name with
  | nil =>
    cases name with
    | nil => simp
    | cons p name =>
      have : foldsTo c p = false := by
        rw [Bool.eq_false_iff]
        intro h
        have := isWordChar_of_foldsTo (hl p (.head name)) h
        simp_all
      simp [this]
  | cons d cs ih =>
    cases name with
    | nil => simp
    | cons p name =>
      have := ih (fun q hq => hl q (.tail p hq)) hcs
      simp only [List.cons_append, startsWithName_cons_cons] at this ⊢
      rw [this]
      simp only [List.length_cons, Nat.add_le_add_iff_right]
      cases foldsTo c p <;> simp

/-- What a lower-case name matches is made of word characters. -/
theorem isWordChar_of_mem_take {name cs : List Char} (hl : ∀ p ∈ name, p.isLower = true)
    (h : startsWithName name cs = true) : ∀ c ∈ cs.take name.length, isWordChar c = true := by
  induction cs generalizing name with
  | nil => simp
  | cons c cs ih =>
    cases name with
    | nil => simp
    | cons p name =>
      simp only [startsWithName_cons_cons, Bool.and_eq_true] at h
      simp only [List.length_cons, List.take_succ_cons, List.mem_cons, forall_eq_or_imp]
      exact ⟨isWordChar_of_foldsTo (hl p (.head name)) h.1, ih (fun q hq => hl q (.tail p hq)) h.2⟩

/-! ## The separator and the value -/

/-- Whether a separator and a value follow: the first non-blank character is `:` or `=`,
and the first non-blank one after it may start a value. -/
def valueFollows (cs : List Char) : Bool :=
  match cs.dropWhile isBlank with
  | c :: rest => (c == ':' || c == '=') && (rest.dropWhile isBlank).head?.any isValueChar
  | [] => false

theorem isSome_getLast?_takeWhile {α : Type} (p : α → Bool) (l : List α) :
    (l.takeWhile p).getLast?.isSome = l.head?.any p := by
  cases l with
  | nil => rfl
  | cons a l => cases h : p a <;> simp [h]

theorem separatedValue_isSome (cs : List Char) : (separatedValue cs).isSome = valueFollows cs := by
  simp only [separatedValue, valueFollows, Repo.Messages.drop_length_takeWhile]
  generalize cs.dropWhile isBlank = ds
  cases ds with
  | nil => rfl
  | cons c rest =>
    cases hsep : (c == ':' || c == '=')
    · simp [hsep]
    · simp [hsep, isSome_getLast?_takeWhile]

theorem dropWhile_append_cons {α : Type} {p : α → Bool} {w : α} (hw : p w = false) (l rest : List α) :
    (l ++ w :: rest).dropWhile p = l.dropWhile p ++ w :: rest := by
  rw [List.dropWhile_append]
  split
  · rename_i h
    rw [List.isEmpty_iff.mp h, List.dropWhile_cons_of_neg (by simp [hw]), List.nil_append]
  · rfl

/-- A word character ends the blanks and the separator before it, so what follows it
cannot change whether a value follows. -/
theorem valueFollows_append_cons {w : Char} (hw : isWordChar w = true) (cs rest rest' : List Char) :
    valueFollows (cs ++ w :: rest) = valueFollows (cs ++ w :: rest') := by
  have hb := isBlank_eq_false_of_isWordChar hw
  simp only [valueFollows, dropWhile_append_cons hb]
  cases cs.dropWhile isBlank with
  | nil => simp [isWordChar_sep hw]
  | cons c ds => simp [dropWhile_append_cons hb, List.head?_append]

theorem head?_dropWhile {α : Type} (p : α → Bool) (l : List α) : ∀ d ∈ (l.dropWhile p).head?, p d = false := by
  intro d hd
  have := List.head?_dropWhile_not p l
  rwa [Option.mem_def.mp hd] at this

/-- A value is taken whole: what follows it cannot continue it. -/
theorem separatedValue_eq_some {cs : List Char} {k : Nat} {last : Char} (h : separatedValue cs = some (k, last)) :
    0 < k ∧ (cs.take k).getLast? = some last ∧ ∀ d ∈ (cs.drop k).head?, isValueChar d = false := by
  simp only [separatedValue, Repo.Messages.drop_length_takeWhile] at h
  have hcs : cs = cs.takeWhile isBlank ++ cs.dropWhile isBlank := List.takeWhile_append_dropWhile.symm
  generalize cs.takeWhile isBlank = blanks at h hcs
  generalize cs.dropWhile isBlank = ds at h hcs
  subst hcs
  cases ds with
  | nil => simp at h
  | cons c rest =>
    simp only at h
    split at h
    · -- blanks, the separator `c`, blanks, the value, then what stops it
      have hrest : rest = rest.takeWhile isBlank ++ ((rest.dropWhile isBlank).takeWhile isValueChar ++
          (rest.dropWhile isBlank).dropWhile isValueChar) := by simp
      have hstop := head?_dropWhile isValueChar (rest.dropWhile isBlank)
      generalize (rest.dropWhile isBlank).takeWhile isValueChar = value at h hrest
      generalize (rest.dropWhile isBlank).dropWhile isValueChar = after at hrest hstop
      generalize rest.takeWhile isBlank = blanks' at h hrest
      subst hrest
      obtain ⟨l, hl, heq⟩ := Option.map_eq_some_iff.mp h
      simp only [Prod.mk.injEq] at heq
      obtain ⟨rfl, rfl⟩ := heq
      have hsplit : blanks ++ c :: (blanks' ++ (value ++ after)) = (blanks ++ c :: blanks' ++ value) ++ after := by
        simp
      have hlen : (blanks ++ c :: blanks' ++ value).length = blanks.length + 1 + blanks'.length + value.length := by
        simp
        omega
      rw [hsplit, List.take_left' hlen, List.drop_left' hlen, List.getLast?_append, hl]
      exact ⟨by omega, rfl, hstop⟩
    · simp at h

/-- `=[REDACTED]` is a separator and a whole value when what follows cannot continue it. -/
theorem separatedValue_redacted {rest : List Char} (h : ∀ d ∈ rest.head?, isValueChar d = false) :
    separatedValue ("=[REDACTED]".toList ++ rest) = some (11, ']') := by
  cases rest with
  | nil => decide
  | cons d rest =>
    simp only [Option.mem_def, List.head?_cons, Option.some.injEq, forall_eq'] at h
    simp +decide [separatedValue, h]

/-! ## Finding a secret -/

/-- A search over a list where at most one element passes the guard: what `g` gives at
that element. -/
theorem findSome?_guard {β γ : Type} {l : List β} {P : β → Bool} {g : β → Option γ}
    (h : ∀ a ∈ l, ∀ b ∈ l, P a = true → P b = true → a = b) :
    l.findSome? (fun a => if P a then g a else none) = (l.find? P).bind g := by
  induction l with
  | nil => rfl
  | cons a l ih =>
    have ih' := ih fun x hx y hy => h x (.tail a hx) y (.tail a hy)
    by_cases ha : P a = true
    · cases hg : g a with
      | none =>
        -- `a` is the only element that passes, and `g` gives nothing there
        have hrest : ∀ b ∈ l, (if P b then g b else none) = none := by
          intro b hb
          by_cases hb' : P b = true
          · obtain rfl := h a (.head l) b (.tail a hb) ha hb'
            simp [hg]
          · simp [hb']
        simp [ha, hg, List.findSome?_eq_none_iff.mpr hrest]
      | some x => simp [ha, hg]
    · simp [ha, ih']

theorem secretAt_eq_none_iff (cs : List Char) :
    secretAt cs = none ↔ ∀ n ∈ sensitiveNames, startsWithName n.toList cs = true →
      separatedValue (cs.drop n.toList.length) = none := by
  simp [secretAt, List.findSome?_eq_none_iff]

theorem secretAt_of_startsWithName {n : String} {cs : List Char} (hn : n ∈ sensitiveNames)
    (h : startsWithName n.toList cs = true) :
    secretAt cs = (separatedValue (cs.drop n.toList.length)).map
      fun r => (cs.take n.toList.length, n.toList.length + r.1, r.2) := by
  have hfind : sensitiveNames.find? (fun m => startsWithName m.toList cs) = some n := by
    cases hf : sensitiveNames.find? (fun m => startsWithName m.toList cs) with
    | none => exact absurd h (by simpa using List.find?_eq_none.mp hf n hn)
    | some m =>
      have hm : startsWithName m.toList cs = true := by simpa using List.find?_some hf
      rw [eq_of_startsWithName (List.mem_of_find?_eq_some hf) hn hm h]
  unfold secretAt
  rw [findSome?_guard (fun a ha b hb => eq_of_startsWithName ha hb), hfind]
  rfl

theorem secretAt_eq_some {cs name : List Char} {k : Nat} {last : Char} (h : secretAt cs = some (name, k, last)) :
    ∃ n ∈ sensitiveNames, startsWithName n.toList cs = true ∧ name = cs.take n.toList.length ∧
      ∃ j, separatedValue (cs.drop n.toList.length) = some (j, last) ∧ k = n.toList.length + j := by
  obtain ⟨n, hn, hsome⟩ := List.exists_of_findSome?_eq_some h
  by_cases hsw : startsWithName n.toList cs = true
  · simp only [hsw, if_true, Option.map_eq_some_iff] at hsome
    obtain ⟨⟨j, l⟩, hsv, heq⟩ := hsome
    simp only [Prod.mk.injEq] at heq
    obtain ⟨rfl, rfl, rfl⟩ := heq
    exact ⟨n, hn, hsw, rfl, j, hsv, rfl⟩
  · simp [hsw] at hsome

/-- What a secret found at the front of `cs` covers: a sensitive name as written, then a
separator and a value ending in `last`, taken whole. -/
theorem secretAt_spec {cs name : List Char} {k : Nat} {last : Char} (h : secretAt cs = some (name, k, last)) :
    ∃ n ∈ sensitiveNames, startsWithName n.toList cs = true ∧ name = cs.take n.toList.length ∧
      n.toList.length < k ∧ (cs.take k).getLast? = some last ∧ ∀ d ∈ (cs.drop k).head?, isValueChar d = false := by
  obtain ⟨n, hn, hsw, rfl, j, hsv, rfl⟩ := secretAt_eq_some h
  obtain ⟨hj, hlast, hstop⟩ := separatedValue_eq_some hsv
  refine ⟨n, hn, hsw, rfl, by omega, ?_, ?_⟩
  · rw [List.take_add, List.getLast?_append, hlast]
    rfl
  · rwa [← List.drop_drop]

/-- A secret starts with a word character. -/
theorem secretAt_eq_none_of_not_word {c : Char} (rest : List Char) (hc : isWordChar c = false) :
    secretAt (c :: rest) = none := by
  rw [secretAt_eq_none_iff]
  intro n hn hsw
  have hw := isWordChar_of_mem_take (sensitiveNames_lower n hn) hsw
  cases hname : n.toList with
  | nil => exact absurd hname (sensitiveNames_ne_nil n hn)
  | cons p name =>
    have := hw c (by simp [hname])
    simp [hc] at this

/-- The name of a secret found at the front of `c :: rest` is written in word characters,
`c` first. -/
theorem secretAt_name {c : Char} {rest name : List Char} {k : Nat} {last : Char}
    (h : secretAt (c :: rest) = some (name, k, last)) : (∃ name', name = c :: name') ∧ ∀ x ∈ name, isWordChar x = true := by
  obtain ⟨n, hn, hsw, rfl, -⟩ := secretAt_spec h
  refine ⟨?_, isWordChar_of_mem_take (sensitiveNames_lower n hn) hsw⟩
  cases hlen : n.toList.length with
  | zero => exact absurd (List.length_eq_zero_iff.mp hlen) (sensitiveNames_ne_nil n hn)
  | succ m => exact ⟨rest.take m, rfl⟩

/-- Past a non-word character a match cannot reach the word character that follows it, so
changing what comes after that word character leaves a failed match failed. -/
theorem secretAt_cons_append_eq_none {c w : Char} {pre rest : List Char} (rest' : List Char)
    (hpre : wordAfter (isWordChar c) pre = false) (hw : isWordChar w = true)
    (h : secretAt (c :: pre ++ w :: rest) = none) : secretAt (c :: pre ++ w :: rest') = none := by
  rw [secretAt_eq_none_iff] at h ⊢
  intro n hn hsw
  have hl := sensitiveNames_lower n hn
  rw [startsWithName_cons_append _ hl hpre] at hsw
  have hsw' : startsWithName n.toList (c :: pre ++ w :: rest) = true := by
    rw [startsWithName_cons_append _ hl hpre]
    exact hsw
  have hlen : n.toList.length ≤ (c :: pre).length := by
    simp only [Bool.and_eq_true, decide_eq_true_eq] at hsw
    simpa using hsw.1
  have hfail := h n hn hsw'
  rw [List.drop_append_of_le_length hlen] at hfail ⊢
  have hsome : (separatedValue ((c :: pre).drop n.toList.length ++ w :: rest')).isSome =
      (separatedValue ((c :: pre).drop n.toList.length ++ w :: rest)).isSome := by
    rw [separatedValue_isSome, separatedValue_isSome, valueFollows_append_cons hw]
  simpa [hfail] using hsome

/-- A replaced secret is found again, and covers exactly `NAME=[REDACTED]`. -/
theorem secretAt_redacted {n : String} {name rest : List Char} (hn : n ∈ sensitiveNames)
    (hsw : startsWithName n.toList name = true) (hlen : name.length = n.toList.length)
    (hrest : ∀ d ∈ rest.head?, isValueChar d = false) :
    secretAt (name ++ "=[REDACTED]".toList ++ rest) = some (name, name.length + 11, ']') := by
  rw [List.append_assoc, secretAt_of_startsWithName hn (startsWithName_append hsw _), ← hlen, List.drop_left,
    List.take_left, separatedValue_redacted hrest]
  rfl

/-! ## One step of redaction -/

@[simp] theorem redactChars_nil (afterWord : Bool) : redactChars afterWord [] = [] := by
  rw [redactChars]

theorem redactChars_cons_of_none {afterWord : Bool} {c : Char} {rest : List Char}
    (h : afterWord = true ∨ secretAt (c :: rest) = none) :
    redactChars afterWord (c :: rest) = c :: redactChars (isWordChar c) rest := by
  rw [redactChars]
  rcases h with rfl | h
  · simp
  · simp [h]

theorem redactChars_cons_of_some {c : Char} {rest name : List Char} {k : Nat} {last : Char}
    (h : secretAt (c :: rest) = some (name, k, last)) :
    redactChars false (c :: rest) =
      name ++ "=[REDACTED]".toList ++ redactChars (isWordChar last) ((c :: rest).drop k) := by
  obtain ⟨n, -, -, -, hk, -⟩ := secretAt_spec h
  rw [redactChars]
  simp [h, show 0 < k by omega]

theorem redactChars_cons_of_not_word (afterWord : Bool) {c : Char} (rest : List Char) (hc : isWordChar c = false) :
    redactChars afterWord (c :: rest) = c :: redactChars false rest := by
  rw [redactChars_cons_of_none (.inr (secretAt_eq_none_of_not_word rest hc)), hc]

/-- Induction along redaction's steps: the empty text, a secret at the front, replaced
and followed by the rest after it, or a character kept. -/
theorem redactChars_induct {motive : Bool → List Char → Prop}
    (nil : ∀ afterWord, motive afterWord [])
    (secret : ∀ c rest name k last, secretAt (c :: rest) = some (name, k, last) →
      motive (isWordChar last) ((c :: rest).drop k) → motive false (c :: rest))
    (keep : ∀ afterWord c rest, (afterWord = true ∨ secretAt (c :: rest) = none) →
      motive (isWordChar c) rest → motive afterWord (c :: rest))
    (afterWord : Bool) (cs : List Char) : motive afterWord cs := by
  induction afterWord, cs using redactChars.induct with
  | case1 afterWord => exact nil afterWord
  | case2 afterWord c rest name k last h _ ih =>
    cases afterWord
    · exact secret c rest name k last (by simpa using h) ih
    · simp at h
  | case3 afterWord c rest name k last h hk _ =>
    -- a secret covers at least its name, so this branch of the definition is never taken
    cases afterWord
    · obtain ⟨n, -, -, -, hlt, -⟩ := secretAt_spec (by simpa using h)
      omega
    · simp at h
  | case4 afterWord c rest h ih =>
    refine keep afterWord c rest ?_ ih
    cases afterWord
    · simpa using h
    · simp

/-- Where redaction first changes a text: at a word character after a non-word one (or
at the front), which it keeps. -/
theorem redactChars_eq_or_first_change (afterWord : Bool) (cs : List Char) :
    redactChars afterWord cs = cs ∨ ∃ pre w rest rest', cs = pre ++ w :: rest ∧
      redactChars afterWord cs = pre ++ w :: rest' ∧ isWordChar w = true ∧ wordAfter afterWord pre = false := by
  induction afterWord, cs using redactChars_induct with
  | nil => simp
  | secret c rest name k last h _ =>
    obtain ⟨⟨name', rfl⟩, hws⟩ := secretAt_name h
    refine .inr ⟨[], c, rest, name' ++ "=[REDACTED]".toList ++ redactChars (isWordChar last) ((c :: rest).drop k),
      rfl, ?_, hws c (.head _), rfl⟩
    rw [redactChars_cons_of_some h]
    rfl
  | keep afterWord c rest hnone ih =>
    rw [redactChars_cons_of_none hnone]
    rcases ih with ih | ⟨pre, w, rest₁, rest₂, rfl, hout, hw, hpre⟩
    · exact .inl (by rw [ih])
    · exact .inr ⟨c :: pre, w, rest₁, rest₂, rfl, by rw [hout]; rfl, hw, hpre⟩

/-! ## Redacted text -/

/-- `cs` shows no secret: at every word start (`afterWord` tells whether the character
before `cs` is a word character), a secret found there reads `NAME=[REDACTED]`. -/
def Redacted (afterWord : Bool) (cs : List Char) : Prop :=
  ∀ i name k last, wordAfter afterWord (cs.take i) = false → secretAt (cs.drop i) = some (name, k, last) →
    (cs.drop i).take k = name ++ "=[REDACTED]".toList

theorem secretAt_nil : secretAt [] = none := by
  decide

@[simp] theorem redacted_nil (afterWord : Bool) : Redacted afterWord [] := by
  intro i name k last _ h
  simp [secretAt_nil] at h

theorem redacted_cons {afterWord : Bool} {c : Char} {rest : List Char} :
    Redacted afterWord (c :: rest) ↔
      (afterWord = false → ∀ name k last, secretAt (c :: rest) = some (name, k, last) →
        (c :: rest).take k = name ++ "=[REDACTED]".toList) ∧ Redacted (isWordChar c) rest := by
  constructor
  · intro h
    exact ⟨fun hf name k last => h 0 name k last (by simpa using hf), fun i => h (i + 1)⟩
  · rintro ⟨hhead, hrest⟩ (_ | i)
    · intro name k last hf
      exact hhead (by simpa using hf) name k last
    · exact hrest i

theorem redacted_cons_of_none {afterWord : Bool} {c : Char} {rest : List Char} (h : secretAt (c :: rest) = none) :
    Redacted afterWord (c :: rest) ↔ Redacted (isWordChar c) rest := by
  simp [redacted_cons, h]

/-- Before a non-word character, whether the character before it is a word character
does not matter. -/
theorem redacted_of_not_word {cs : List Char} (hcs : ∀ d ∈ cs.head?, isWordChar d = false) (afterWord afterWord' : Bool) :
    Redacted afterWord cs ↔ Redacted afterWord' cs := by
  cases cs with
  | nil => simp
  | cons d cs =>
    have hd : isWordChar d = false := hcs d rfl
    rw [redacted_cons_of_none (secretAt_eq_none_of_not_word cs hd),
      redacted_cons_of_none (secretAt_eq_none_of_not_word cs hd)]

theorem redacted_drop {afterWord : Bool} {cs : List Char} (h : Redacted afterWord cs) (k : Nat) :
    Redacted (wordAfter afterWord (cs.take k)) (cs.drop k) := by
  intro i name j last hi hs
  rw [List.drop_drop] at hs ⊢
  refine h (k + i) name j last ?_ hs
  rw [List.take_add, wordAfter_append, hi]

/-- Word characters after a word character start nothing. -/
theorem redacted_words_append {ws rest : List Char} (hws : ∀ c ∈ ws, isWordChar c = true)
    (hrest : Redacted true rest) : Redacted true (ws ++ rest) := by
  induction ws with
  | nil => exact hrest
  | cons c ws ih =>
    simp only [List.mem_cons, forall_eq_or_imp] at hws
    rw [List.cons_append, redacted_cons, hws.1]
    exact ⟨by simp, ih hws.2⟩

/-- No secret can start at a word start of `cs`, whatever follows: at each one every
sensitive name, cut to what is left of `cs`, fails to match. -/
def nameFree : Bool → List Char → Bool
  | _, [] => true
  | afterWord, c :: rest =>
    (afterWord || sensitiveNames.all fun n => !startsWithName (n.toList.take (rest.length + 1)) (c :: rest)) &&
      nameFree (isWordChar c) rest

theorem redacted_append_of_nameFree {afterWord : Bool} {pre rest : List Char} (h : nameFree afterWord pre = true)
    (hrest : Redacted (wordAfter afterWord pre) rest) : Redacted afterWord (pre ++ rest) := by
  induction pre generalizing afterWord with
  | nil => exact hrest
  | cons c pre ih =>
    simp only [nameFree, Bool.and_eq_true, Bool.or_eq_true] at h
    rw [List.cons_append, redacted_cons]
    refine ⟨?_, ih h.2 hrest⟩
    intro hf name k last hs
    have hnone : secretAt (c :: (pre ++ rest)) = none := by
      rw [secretAt_eq_none_iff]
      intro n hn hsw
      have hfree := (h.1.resolve_left (by simp [hf])) |> List.all_eq_true.mp
      have hcut : startsWithName (n.toList.take (c :: pre).length) (c :: pre) = false := by
        simpa using hfree n hn
      have := startsWithName_append_eq_false hcut rest
      rw [List.cons_append] at this
      simp [this] at hsw
    simp [hnone] at hs

/-- A replaced secret, then redacted text: redacted. -/
theorem redacted_secret {name rest : List Char} (hne : name ≠ []) (hws : ∀ x ∈ name, isWordChar x = true)
    (hsec : secretAt (name ++ "=[REDACTED]".toList ++ rest) = some (name, name.length + 11, ']'))
    (hrest : Redacted false rest) : Redacted false (name ++ "=[REDACTED]".toList ++ rest) := by
  obtain ⟨c, name, rfl⟩ := List.exists_cons_of_ne_nil hne
  simp only [List.mem_cons, forall_eq_or_imp] at hws
  have hsplit : c :: name ++ "=[REDACTED]".toList ++ rest = c :: (name ++ ("=[REDACTED]".toList ++ rest)) := by
    simp
  rw [hsplit, redacted_cons, hws.1]
  refine ⟨?_, redacted_words_append hws.2 (redacted_append_of_nameFree (by decide) ?_)⟩
  · intro _ name' k last hs
    rw [← hsplit, hsec] at hs
    simp only [Option.some.injEq, Prod.mk.injEq] at hs
    obtain ⟨rfl, rfl, -⟩ := hs
    rw [← hsplit]
    exact List.take_left' (by simp)
  · have hend : wordAfter true "=[REDACTED]".toList = false := by decide
    rwa [hend]

/-! ## Redaction -/

/-- Redaction leaves redacted text as it is. -/
theorem redactChars_of_redacted {afterWord : Bool} {cs : List Char} (h : Redacted afterWord cs) :
    redactChars afterWord cs = cs := by
  induction afterWord, cs using redactChars_induct with
  | nil => simp
  | secret c rest name k last hs ih =>
    obtain ⟨-, -, -, -, -, hlast, -⟩ := secretAt_spec hs
    have htake := (redacted_cons.mp h).1 rfl name k last hs
    have hrest := redacted_drop h k
    rw [wordAfter_of_getLast? hlast] at hrest
    rw [redactChars_cons_of_some hs, ih hrest, ← htake, List.take_append_drop]
  | keep afterWord c rest hnone ih =>
    rw [redactChars_cons_of_none hnone, ih (redacted_cons.mp h).2]

/-- Redaction keeps the first character of a text that starts with a non-word character. -/
theorem head?_redactChars (afterWord : Bool) {cs : List Char} (h : ∀ d ∈ cs.head?, isWordChar d = false) :
    (redactChars afterWord cs).head? = cs.head? := by
  cases cs with
  | nil => simp
  | cons d cs => rw [redactChars_cons_of_not_word afterWord cs (h d rfl)]; rfl

/-- What redaction writes is redacted. -/
theorem redacted_redactChars (afterWord : Bool) (cs : List Char) : Redacted afterWord (redactChars afterWord cs) := by
  induction afterWord, cs using redactChars_induct with
  | nil => simp
  | secret c rest name k last hs ih =>
    rw [redactChars_cons_of_some hs]
    have hne : name ≠ [] := by
      obtain ⟨⟨name', rfl⟩, -⟩ := secretAt_name hs
      simp
    obtain ⟨n, hn, hsw, rfl, -, -, hstop⟩ := secretAt_spec hs
    -- what follows the old value is neither a word character nor part of a value, and
    -- redaction keeps it
    have hnot : ∀ d ∈ ((c :: rest).drop k).head?, isWordChar d = false :=
      fun d hd => isWordChar_eq_false_of_isValueChar (hstop d hd)
    have hhead := head?_redactChars (isWordChar last) hnot
    have hrest : Redacted false (redactChars (isWordChar last) ((c :: rest).drop k)) :=
      (redacted_of_not_word (by rwa [hhead]) _ _).mp ih
    have hlen : ((c :: rest).take n.toList.length).length = n.toList.length :=
      List.length_take_of_le (length_le_of_startsWithName hsw)
    have hsec := secretAt_redacted hn (startsWithName_take hsw) hlen (by rw [hhead]; exact hstop)
    exact redacted_secret hne (isWordChar_of_mem_take (sensitiveNames_lower n hn) hsw) hsec hrest
  | keep afterWord c rest hnone ih =>
    rw [redactChars_cons_of_none hnone, redacted_cons]
    refine ⟨?_, ih⟩
    rintro rfl name k last hsome
    have hnone : secretAt (c :: rest) = none := by simpa using hnone
    -- nothing is found in front of the first change, where the old text had nothing
    have hnew : secretAt (c :: redactChars (isWordChar c) rest) = none := by
      rcases redactChars_eq_or_first_change (isWordChar c) rest with heq | ⟨pre, w, rest₁, rest₂, hr, hout, hw, hpre⟩
      · rwa [heq]
      · rw [hout]
        rw [hr] at hnone
        exact secretAt_cons_append_eq_none rest₂ hpre hw hnone
    simp [hnew] at hsome

/-- A second redaction changes nothing. -/
theorem redactChars_redactChars (afterWord : Bool) (cs : List Char) :
    redactChars afterWord (redactChars afterWord cs) = redactChars afterWord cs :=
  redactChars_of_redacted (redacted_redactChars afterWord cs)

end DocStore.Text

namespace DocStore

/-- No secret starts in the label in front of a user message, and the label ends with a
blank. -/
theorem StoreError.kind_label_nameFree (e : StoreError) :
    Text.nameFree false (e.kind ++ ": ").toList = true ∧ Text.wordAfter false (e.kind ++ ": ").toList = false := by
  cases e <;> simp only [StoreError.kind] <;> decide

theorem StoreError.userMessage_redacted (e : StoreError) : Text.Redacted false e.userMessage.toList := by
  obtain ⟨hfree, hend⟩ := e.kind_label_nameFree
  rw [StoreError.userMessage, String.toList_append, Text.redact, String.toList_ofList]
  refine Text.redacted_append_of_nameFree hfree ?_
  rw [hend]
  exact Text.redacted_redactChars false _

/-- Redaction is idempotent and complete: a second run changes nothing, and in what it
writes, as in every store error's user message, a secret found at any word start reads
`NAME=[REDACTED]`, so no value of one is shown. -/
theorem redact_leaves_no_secret :
    (∀ s : String, Text.redact (Text.redact s) = Text.redact s) ∧
    (∀ s : String, Text.Redacted false (Text.redact s).toList) ∧
    ∀ e : StoreError, Text.Redacted false e.userMessage.toList := by
  refine ⟨fun s => ?_, fun s => ?_, StoreError.userMessage_redacted⟩
  · rw [Text.redact, Text.redact, String.toList_ofList, Text.redactChars_redactChars]
  · rw [Text.redact, String.toList_ofList]
    exact Text.redacted_redactChars false _

end DocStore
