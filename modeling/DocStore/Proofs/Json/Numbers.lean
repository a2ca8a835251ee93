import DocStore.Proofs.Json.Blanks
/-
  DocStore.Proofs.Json.Numbers — what the number scanner gives, and what may follow a number.

  Every step of the scanner reads from the front of the text and stops at the first
  character that cannot continue the number (`Scans`): what it leaves is a suffix of its
  text, and a character that is no digit, point or exponent letter (`Ends`) may follow the
  text without changing the result. An integer comes back within its width (below 2^64, or
  a negative number of at least -2^63); every other number is a double.

  A double is written as the shortest decimal that reads back as it; whether the scanner,
  which rounds at each scaling step, reads that text back to the same double is a fact of
  each double (`JsonNumber.ReadsBack`), not proved here. What is proved is what follows from
  it: the text of such a number, followed by a blank, a comma, a closing bracket or nothing
  (`Stops`), is read back as the number by the value reader (`Reads.value_number`), as are the
  texts of integers within their widths (`scansTo_nat`, `scansTo_neg`).
-/

namespace DocStore

open JsonText

namespace JsonScan

/-- What may follow the text of a number without extending it. -/
def Ends : List Char → Prop
  | [] => True
  | c :: _ => c.isDigit = false ∧ c ≠ '.' ∧ c ≠ 'e' ∧ c ≠ 'E'

/-- The numbers the scanner gives: integers within their widths, and doubles. -/
def InRange : JsonNumber → Prop
  | .nat n => n ≤ u64Max
  | .neg i => -2 ^ 63 ≤ i ∧ i < 0
  | .float _ => True

/-- A double. -/
def IsFloat : JsonNumber → Prop
  | .float _ => True
  | _ => False

theorem IsFloat.inRange {n : JsonNumber} (h : IsFloat n) : InRange n := by
  cases n <;> simp_all [IsFloat, InRange]

/-- A scanning step from an offset: on success its answer has `P`, it leaves a suffix of its
text, and whatever cannot extend a number may follow the text. -/
def Scans (g : List Char → Nat → NumResult) (P : JsonNumber → Prop) : Prop :=
  ∀ cs off n r o, g cs off = .ok (n, r, o) →
    P n ∧ r <:+ cs ∧ ∀ rest, Ends rest → g (cs ++ rest) off = .ok (n, r ++ rest, o)

theorem Scans.mono {g : List Char → Nat → NumResult} {P Q : JsonNumber → Prop} (h : Scans g P)
    (hPQ : ∀ n, P n → Q n) : Scans g Q := by
  intro cs off n r o hg
  obtain ⟨hp, hs, hl⟩ := h cs off n r o hg
  exact ⟨hPQ n hp, hs, hl⟩

theorem skipDigits_append : ∀ (cs : List Char) (off : Nat) {rest : List Char}, Ends rest →
    skipDigits (cs ++ rest) off = ((skipDigits cs off).1 ++ rest, (skipDigits cs off).2) ∧
      (skipDigits cs off).1 <:+ cs
  | [], off, rest, hr => by
    refine ⟨?_, List.suffix_refl []⟩
    cases rest with
    | nil => rfl
    | cons c r => simp [skipDigits, hr.1]
  | c :: cs, off, rest, hr => by
    by_cases hc : c.isDigit = true
    · obtain ⟨h₁, h₂⟩ := skipDigits_append cs (off + 1) hr
      simp only [List.cons_append, skipDigits, hc, if_true]
      exact ⟨h₁, h₂.trans (List.suffix_cons c cs)⟩
    · simp [skipDigits, hc]

theorem finishFloat_scans (positive : Bool) (sig : Nat) (e : Int) :
    Scans (finishFloat positive sig e) IsFloat := by
  intro cs off n r o h
  unfold finishFloat at h ⊢
  split at h
  · rename_i f _
    obtain ⟨rfl, rfl, rfl⟩ : JsonNumber.float f.toBits = n ∧ cs = r ∧ off = o := by
      simp only [Except.ok.injEq, Prod.mk.injEq] at h
      exact h
    exact ⟨trivial, List.suffix_refl _, fun rest _ => by simp⟩
  · cases h

theorem exponentDigits_scans (positive : Bool) (sig : Nat) (startExp : Int) (positiveExp : Bool) :
    ∀ exp, Scans (exponentDigits positive sig startExp positiveExp exp) IsFloat := by
  intro exp cs
  induction cs generalizing exp with
  | nil =>
    intro off n r o h
    obtain ⟨hp, hs, hl⟩ := finishFloat_scans positive sig _ [] off n r o h
    refine ⟨hp, hs, fun rest hr => ?_⟩
    -- nothing of the exponent is left: what follows ends it
    cases rest with
    | nil => simpa using h
    | cons c rest => simpa [exponentDigits, hr.1] using hl (c :: rest) hr
  | cons c cs ih =>
    intro off n r o h
    by_cases hc : c.isDigit = true
    · simp only [exponentDigits, hc, if_true] at h
      split at h
      · split at h
        · cases h
        · obtain ⟨rfl, rfl, rfl⟩ : _ = n ∧ _ = r ∧ _ = o := by
            simp only [Except.ok.injEq, Prod.mk.injEq] at h
            exact h
          have hs := (skipDigits_append cs (off + 1) (show Ends [] from trivial)).2
          refine ⟨trivial, hs.trans (List.suffix_cons c cs), fun rest hr => ?_⟩
          rename_i hover hno
          have hno' : (decide (sig ≠ 0) && positiveExp) = false := by simpa using hno
          simp only [List.cons_append, exponentDigits, hc, if_true, hover, hno', Bool.false_eq_true, if_false]
          rw [(skipDigits_append cs (off + 1) hr).1]
      · rename_i hno
        obtain ⟨hp, hs, hl⟩ := ih _ _ n r o h
        refine ⟨hp, hs.trans (List.suffix_cons c cs), fun rest hr => ?_⟩
        simp only [List.cons_append, exponentDigits, hc, if_true, hno]
        exact hl rest hr
    · rw [exponentDigits, if_neg hc] at h
      obtain ⟨hp, hs, hl⟩ := finishFloat_scans _ _ _ _ _ _ _ _ h
      refine ⟨hp, hs, fun rest hr => ?_⟩
      rw [List.cons_append, exponentDigits, if_neg hc]
      exact hl rest hr

theorem exponentPart_scans (positive : Bool) (sig : Nat) (startExp : Int) :
    Scans (exponentPart positive sig startExp) IsFloat := by
  -- after the sign, a digit must start the exponent's digits
  have digits : ∀ (pe : Bool) (d : Char) (ds : List Char) (off n r o), d.isDigit = true →
      exponentDigits positive sig startExp pe (d.toNat - '0'.toNat) ds off = .ok (n, r, o) →
      IsFloat n ∧ r <:+ d :: ds ∧ ∀ rest, Ends rest →
        exponentDigits positive sig startExp pe (d.toNat - '0'.toNat) (ds ++ rest) off = .ok (n, r ++ rest, o) := by
    intro pe d ds off n r o _ h
    obtain ⟨hp, hs, hl⟩ := exponentDigits_scans positive sig startExp pe _ ds off n r o h
    exact ⟨hp, hs.trans (List.suffix_cons d ds), hl⟩
  intro cs off n r o h
  rcases cs with _ | ⟨c, cs⟩
  · simp [exponentPart] at h
  by_cases hplus : c = '+'
  · subst hplus
    rcases cs with _ | ⟨d, ds⟩
    · simp [exponentPart] at h
    by_cases hd : d.isDigit = true
    · obtain ⟨hp, hs, hl⟩ := digits true d ds _ n r o hd (by simpa [exponentPart, hd] using h)
      exact ⟨hp, hs.trans (List.suffix_cons _ _), fun rest hr => by simpa [exponentPart, hd] using hl rest hr⟩
    · simp [exponentPart, hd] at h
  by_cases hminus : c = '-'
  · subst hminus
    rcases cs with _ | ⟨d, ds⟩
    · simp [exponentPart] at h
    by_cases hd : d.isDigit = true
    · obtain ⟨hp, hs, hl⟩ := digits false d ds _ n r o hd (by simpa [exponentPart, hd] using h)
      exact ⟨hp, hs.trans (List.suffix_cons _ _), fun rest hr => by simpa [exponentPart, hd] using hl rest hr⟩
    · simp [exponentPart, hd] at h
  by_cases hc : c.isDigit = true
  · obtain ⟨hp, hs, hl⟩ := digits true c cs _ n r o hc (by simpa [exponentPart, hplus, hminus, hc] using h)
    exact ⟨hp, hs, fun rest hr => by simpa [exponentPart, hplus, hminus, hc] using hl rest hr⟩
  · simp [exponentPart, hplus, hminus, hc] at h

theorem afterDigits_scans (positive : Bool) (sig : Nat) (e : Int) :
    Scans (afterDigits positive sig e) IsFloat := by
  intro cs off n r o h
  rcases cs with _ | ⟨c, cs⟩
  · obtain ⟨hp, hs, hl⟩ := finishFloat_scans positive sig e [] off n r o h
    refine ⟨hp, hs, fun rest hr => ?_⟩
    cases rest with
    | nil => simpa using h
    | cons c rest => simpa [afterDigits, hr.2.2.1, hr.2.2.2] using hl (c :: rest) hr
  by_cases he : (c = 'e' || c = 'E') = true
  · rw [afterDigits, if_pos he] at h
    obtain ⟨hp, hs, hl⟩ := exponentPart_scans positive sig e cs _ n r o h
    refine ⟨hp, hs.trans (List.suffix_cons c cs), fun rest hr => ?_⟩
    rw [List.cons_append, afterDigits, if_pos he]
    exact hl rest hr
  · rw [afterDigits, if_neg he] at h
    obtain ⟨hp, hs, hl⟩ := finishFloat_scans positive sig e _ off n r o h
    refine ⟨hp, hs, fun rest hr => ?_⟩
    rw [List.cons_append, afterDigits, if_neg he]
    exact hl rest hr

theorem fractionDigits_scans (positive : Bool) (expBefore : Int) :
    ∀ sig fracExp, Scans (fractionDigits positive expBefore sig fracExp) IsFloat := by
  intro sig fracExp cs
  induction cs generalizing sig fracExp with
  | nil =>
    intro off n r o h
    by_cases hf : fracExp = 0
    · simp [fractionDigits, hf] at h
    rw [fractionDigits, if_neg hf] at h
    obtain ⟨hp, hs, hl⟩ := afterDigits_scans positive sig _ [] off n r o h
    refine ⟨hp, hs, fun rest hr => ?_⟩
    cases rest with
    | nil => simpa [fractionDigits, hf] using h
    | cons c rest =>
      have := hl (c :: rest) hr
      rw [List.nil_append, fractionDigits, if_neg (by simp [hr.1]), if_neg hf]
      exact this
  | cons c cs ih =>
    intro off n r o h
    by_cases hc : c.isDigit = true
    · by_cases hover : overflows sig (c.toNat - '0'.toNat) u64Max = true
      · -- the significand is full: the remaining digits are skipped
        simp only [fractionDigits, hc, hover, if_true] at h
        obtain ⟨hp, hs, hl⟩ := afterDigits_scans positive sig _ _ _ n r o h
        have hskip := (skipDigits_append (c :: cs) off (show Ends [] from trivial)).2
        refine ⟨hp, hs.trans hskip, fun rest hr => ?_⟩
        have hs' := (skipDigits_append (c :: cs) off hr).1
        rw [List.cons_append] at hs'
        simp only [List.cons_append, fractionDigits, hc, hover, if_true, hs']
        exact hl rest hr
      · simp only [fractionDigits, hc, hover, if_true, Bool.false_eq_true, if_false] at h
        obtain ⟨hp, hs, hl⟩ := ih _ _ _ n r o h
        refine ⟨hp, hs.trans (List.suffix_cons c cs), fun rest hr => ?_⟩
        simp only [List.cons_append, fractionDigits, hc, hover, if_true, Bool.false_eq_true, if_false]
        exact hl rest hr
    · by_cases hf : fracExp = 0
      · simp [fractionDigits, hc, hf] at h
      rw [fractionDigits, if_neg hc, if_neg hf] at h
      obtain ⟨hp, hs, hl⟩ := afterDigits_scans positive sig _ _ off n r o h
      refine ⟨hp, hs, fun rest hr => ?_⟩
      rw [List.cons_append, fractionDigits, if_neg hc, if_neg hf]
      exact hl rest hr

theorem longDigits_scans (positive : Bool) (sig : Nat) : ∀ e, Scans (longDigits positive sig e) IsFloat := by
  intro e cs
  induction cs generalizing e with
  | nil =>
    intro off n r o h
    obtain ⟨hp, hs, hl⟩ := finishFloat_scans positive sig e [] off n r o h
    refine ⟨hp, hs, fun rest hr => ?_⟩
    cases rest with
    | nil => simpa using h
    | cons c rest => simpa [longDigits, hr.1, hr.2.1, hr.2.2.1, hr.2.2.2] using hl (c :: rest) hr
  | cons c cs ih =>
    intro off n r o h
    by_cases hc : c.isDigit = true
    · rw [longDigits, if_pos hc] at h
      obtain ⟨hp, hs, hl⟩ := ih _ _ n r o h
      refine ⟨hp, hs.trans (List.suffix_cons c cs), fun rest hr => ?_⟩
      rw [List.cons_append, longDigits, if_pos hc]
      exact hl rest hr
    by_cases hpt : c = '.'
    · rw [longDigits, if_neg hc, if_pos hpt] at h
      obtain ⟨hp, hs, hl⟩ := fractionDigits_scans positive e sig 0 cs _ n r o h
      refine ⟨hp, hs.trans (List.suffix_cons c cs), fun rest hr => ?_⟩
      rw [List.cons_append, longDigits, if_neg hc, if_pos hpt]
      exact hl rest hr
    by_cases he : (c = 'e' || c = 'E') = true
    · rw [longDigits, if_neg hc, if_neg hpt, if_pos he] at h
      obtain ⟨hp, hs, hl⟩ := exponentPart_scans positive sig e cs _ n r o h
      refine ⟨hp, hs.trans (List.suffix_cons c cs), fun rest hr => ?_⟩
      rw [List.cons_append, longDigits, if_neg hc, if_neg hpt, if_pos he]
      exact hl rest hr
    · rw [longDigits, if_neg hc, if_neg hpt, if_neg he] at h
      obtain ⟨hp, hs, hl⟩ := finishFloat_scans positive sig e _ off n r o h
      refine ⟨hp, hs, fun rest hr => ?_⟩
      rw [List.cons_append, longDigits, if_neg hc, if_neg hpt, if_neg he]
      exact hl rest hr

theorem afterInteger_scans (positive : Bool) {sig : Nat} (hsig : sig ≤ u64Max) :
    Scans (afterInteger positive sig) InRange := by
  -- an integer that ends here: exact within its width, else a double
  have plain : ∀ cs off n r o, (∀ c cs', cs = c :: cs' → c ≠ '.' ∧ c ≠ 'e' ∧ c ≠ 'E') →
      afterInteger positive sig cs off = .ok (n, r, o) →
      InRange n ∧ r = cs ∧ ∀ rest, Ends rest → afterInteger positive sig (cs ++ rest) off = .ok (n, r ++ rest, o) := by
    intro cs off n r o hcs h
    have heq : ∀ cs', (∀ c cs'', cs' = c :: cs'' → c ≠ '.' ∧ c ≠ 'e' ∧ c ≠ 'E') →
        afterInteger positive sig cs' off =
          if positive then .ok (.nat sig, cs', off)
          else if 0 < sig && sig ≤ Nat.pow 2 63 then .ok (.neg (-(sig : Int)), cs', off)
          else .ok (.float (-(UInt64.ofNat sig).toFloat).toBits, cs', off) := by
      intro cs' hcs'
      rcases cs' with _ | ⟨c, cs''⟩
      · rfl
      · obtain ⟨h1, h2, h3⟩ := hcs' c cs'' rfl
        simp [afterInteger, h1, h2, h3]
    rw [heq cs hcs] at h
    have hends : ∀ rest, Ends rest → ∀ c cs'', cs ++ rest = c :: cs'' → c ≠ '.' ∧ c ≠ 'e' ∧ c ≠ 'E' := by
      intro rest hr c cs'' he
      rcases cs with _ | ⟨c', cs'⟩
      · subst he
        exact hr.2
      · obtain ⟨rfl, -⟩ := List.cons.inj he
        exact hcs _ cs' rfl
    cases positive
    · by_cases hneg : (0 < sig && sig ≤ Nat.pow 2 63) = true
      · simp only [Bool.false_eq_true, if_false, hneg, if_true, Except.ok.injEq, Prod.mk.injEq] at h
        obtain ⟨rfl, rfl, rfl⟩ := h
        refine ⟨?_, rfl, fun rest hr => ?_⟩
        · simp only [Bool.and_eq_true, decide_eq_true_eq] at hneg
          simp only [InRange]
          have : (sig : Int) ≤ 2 ^ 63 := by exact_mod_cast hneg.2
          omega
        · rw [heq _ (hends rest hr)]
          simp [hneg]
      · simp only [Bool.false_eq_true, if_false, hneg, Except.ok.injEq, Prod.mk.injEq] at h
        obtain ⟨rfl, rfl, rfl⟩ := h
        refine ⟨trivial, rfl, fun rest hr => ?_⟩
        rw [heq _ (hends rest hr)]
        simp [hneg]
    · simp only [if_true, Except.ok.injEq, Prod.mk.injEq] at h
      obtain ⟨rfl, rfl, rfl⟩ := h
      refine ⟨hsig, rfl, fun rest hr => ?_⟩
      rw [heq _ (hends rest hr)]
      simp
  intro cs off n r o h
  rcases cs with _ | ⟨c, cs⟩
  · obtain ⟨hp, rfl, hl⟩ := plain [] off n r o (by simp) h
    exact ⟨hp, List.suffix_refl _, hl⟩
  by_cases hpt : c = '.'
  · subst hpt
    simp only [afterInteger] at h
    obtain ⟨hp, hs, hl⟩ := fractionDigits_scans positive 0 sig 0 cs _ n r o h
    exact ⟨hp.inRange, hs.trans (List.suffix_cons _ cs), fun rest hr => by simpa [afterInteger] using hl rest hr⟩
  by_cases he : c = 'e' ∨ c = 'E'
  · have h' : exponentPart positive sig 0 cs (off + 1) = .ok (n, r, o) := by
      rcases he with rfl | rfl <;> simpa [afterInteger] using h
    obtain ⟨hp, hs, hl⟩ := exponentPart_scans positive sig 0 cs _ n r o h'
    refine ⟨hp.inRange, hs.trans (List.suffix_cons _ cs), fun rest hr => ?_⟩
    rcases he with rfl | rfl <;> simpa [afterInteger] using hl rest hr
  · obtain ⟨hp, rfl, hl⟩ := plain (c :: cs) off n r o
      (fun c' cs' hc' => by obtain ⟨rfl, -⟩ := List.cons.inj hc'; exact ⟨hpt, fun h => he (.inl h), fun h => he (.inr h)⟩) h
    exact ⟨hp, List.suffix_refl _, hl⟩

theorem integerDigits_scans (positive : Bool) :
    ∀ sig, sig ≤ u64Max → Scans (integerDigits positive sig) InRange := by
  intro sig hsig cs
  induction cs generalizing sig with
  | nil =>
    intro off n r o h
    obtain ⟨hp, hs, hl⟩ := afterInteger_scans positive hsig [] off n r o h
    refine ⟨hp, hs, fun rest hr => ?_⟩
    cases rest with
    | nil => simpa using h
    | cons c rest => simpa [integerDigits, hr.1] using hl (c :: rest) hr
  | cons c cs ih =>
    intro off n r o h
    by_cases hc : c.isDigit = true
    · have hd : c.toNat - '0'.toNat < 10 := by
        have := Char.isDigit_iff_toNat.1 hc
        simp only [Char.reduceToNat] at this ⊢
        omega
      by_cases hover : overflows sig (c.toNat - '0'.toNat) u64Max = true
      · -- past 64 bits the integer becomes a double
        simp only [integerDigits, hc, hover, if_true] at h
        obtain ⟨hp, hs, hl⟩ := longDigits_scans positive sig 0 (c :: cs) off n r o h
        refine ⟨hp.inRange, hs, fun rest hr => ?_⟩
        simp only [List.cons_append, integerDigits, hc, hover, if_true]
        exact hl rest hr
      · have hle : sig * 10 + (c.toNat - '0'.toNat) ≤ u64Max := by
          rw [Bool.not_eq_true, ← Bool.not_eq_true, overflows_iff hd] at hover
          omega
        simp only [integerDigits, hc, hover, if_true, Bool.false_eq_true, if_false] at h
        obtain ⟨hp, hs, hl⟩ := ih _ hle _ n r o h
        refine ⟨hp, hs.trans (List.suffix_cons c cs), fun rest hr => ?_⟩
        simp only [List.cons_append, integerDigits, hc, hover, if_true, Bool.false_eq_true, if_false]
        exact hl rest hr
    · rw [integerDigits, if_neg hc] at h
      obtain ⟨hp, hs, hl⟩ := afterInteger_scans positive hsig _ off n r o h
      refine ⟨hp, hs, fun rest hr => ?_⟩
      rw [List.cons_append, integerDigits, if_neg hc]
      exact hl rest hr

/-- The number scanner: an integer within its width or a double, read from the front of the
text up to the first character that cannot continue it. -/
theorem number_scans (positive : Bool) : Scans (fun cs _ => number positive cs) InRange := by
  intro cs _ n r o h
  simp only at h ⊢
  rcases cs with _ | ⟨c, cs⟩
  · simp [number] at h
  by_cases hz : c = '0'
  · subst hz
    -- a leading zero stands alone
    have hz0 : (0 : Nat) ≤ u64Max := Nat.zero_le _
    rcases cs with _ | ⟨d, ds⟩
    · obtain ⟨hp, hs, hl⟩ := afterInteger_scans positive hz0 [] 1 n r o (by simpa [number] using h)
      refine ⟨hp, hs.trans (List.suffix_cons _ _), fun rest hr => ?_⟩
      have := hl rest hr
      cases rest with
      | nil => simpa [number] using this
      | cons c rest => simpa [number, hr.1] using this
    · by_cases hd : d.isDigit = true
      · simp [number, hd] at h
      · obtain ⟨hp, hs, hl⟩ := afterInteger_scans positive hz0 (d :: ds) 1 n r o (by simpa [number, hd] using h)
        exact ⟨hp, hs.trans (List.suffix_cons _ _), fun rest hr => by simpa [number, hd] using hl rest hr⟩
  · by_cases hc : c.isDigit = true
    · have hd : c.toNat - '0'.toNat ≤ u64Max := by
        have := Char.isDigit_iff_toNat.1 hc
        simp only [Char.reduceToNat] at this ⊢
        exact Nat.le_trans (by omega : c.toNat - 48 ≤ 9) (by decide)
      obtain ⟨hp, hs, hl⟩ := integerDigits_scans positive _ hd cs 1 n r o (by simpa [number, hz, hc] using h)
      exact ⟨hp, hs.trans (List.suffix_cons _ _), fun rest hr => by simpa [number, hz, hc] using hl rest hr⟩
    · simp [number, hc] at h

theorem number_append {positive : Bool} {cs r rest : List Char} {n : JsonNumber} {o : Nat}
    (h : number positive cs = .ok (n, r, o)) (hr : Ends rest) : number positive (cs ++ rest) = .ok (n, r ++ rest, o) :=
  (number_scans positive cs 0 n r o h).2.2 rest hr

theorem number_suffix {positive : Bool} {cs r : List Char} {n : JsonNumber} {o : Nat}
    (h : number positive cs = .ok (n, r, o)) : r <:+ cs :=
  (number_scans positive cs 0 n r o h).2.1

theorem number_inRange {positive : Bool} {cs r : List Char} {n : JsonNumber} {o : Nat}
    (h : number positive cs = .ok (n, r, o)) : InRange n :=
  (number_scans positive cs 0 n r o h).1

/-- A number starts with a digit. -/
theorem number_ok_head {positive : Bool} {c : Char} {cs : List Char} {x : JsonNumber × List Char × Nat}
    (h : number positive (c :: cs) = .ok x) : c.isDigit = true := by
  by_cases hz : c = '0'
  · subst hz
    decide
  · unfold number at h
    split at h
    · simp at *
    · rename_i heq
      exact absurd (List.cons.inj heq).1 hz
    · rename_i heq
      obtain ⟨rfl, rfl⟩ := List.cons.inj heq
      by_contra hc
      rw [if_neg hc] at h
      cases h

end JsonScan

/-! ## The texts of numbers -/

namespace JsonScan

/-- The scanner reads all of `t` as `n`: after a minus sign, or from a digit. -/
def ScansTo (n : JsonNumber) (t : List Char) : Prop :=
  (∃ ds o, t = '-' :: ds ∧ number false ds = .ok (n, [], o)) ∨ ∃ o, number true t = .ok (n, [], o)

theorem toList_number_nat (n : Nat) : (JsonText.number (.nat n)).toList = Nat.toDigits 10 n := by
  simp [JsonText.number, Nat.toString_eq_repr, Nat.toList_repr]

theorem toList_number_neg {i : Int} (hi : i < 0) :
    (JsonText.number (.neg i)).toList = '-' :: Nat.toDigits 10 i.natAbs := by
  have habs : (-i).toNat = i.natAbs := by omega
  simp [JsonText.number, Int.repr_eq_if, if_neg (Int.not_le.2 hi), habs, Nat.toList_repr]

theorem scansTo_nat {n : Nat} (hn : n ≤ u64Max) : ScansTo (.nat n) (JsonText.number (.nat n)).toList := by
  refine .inr ⟨(Nat.toDigits 10 n).length, ?_⟩
  rw [toList_number_nat]
  simpa using number_toDigits hn (show Closes [] from trivial)

/-- The digits of a magnitude up to 2^63, after a minus sign, scan as the negative integer. -/
theorem number_false_toDigits {m : Nat} (h0 : 0 < m) (hm : m ≤ 2 ^ 63) :
    ∃ o, number false (Nat.toDigits 10 m) = .ok (.neg (-(m : Int)), [], o) := by
  obtain ⟨c, cs, hcs⟩ := List.exists_cons_of_ne_nil (Nat.toDigits_ne_nil (n := m) (b := 10))
  have hdig : ∀ x ∈ c :: cs, x.isDigit = true := fun x hx =>
    Nat.isDigit_of_mem_toDigits (by omega) (by omega) (hcs ▸ hx)
  have hc0 : c ≠ '0' := fun h => toDigits_ne_zero_cons (by omega) cs (h ▸ hcs)
  have hval : Nat.ofDigitChars 10 cs (c.toNat - '0'.toNat) = m := by
    have := Nat.ofDigitChars_ten_toDigits (n := m)
    rw [hcs, Nat.ofDigitChars_cons] at this
    simpa using this
  have hle : m ≤ u64Max := Nat.le_trans hm (by decide)
  have hrun := integerDigits_digits false [] cs (c.toNat - '0'.toNat) 1
    (fun x hx => hdig x (List.mem_cons_of_mem c hx)) (hval ▸ hle)
  rw [List.append_nil, hval] at hrun
  refine ⟨1 + cs.length, ?_⟩
  rw [hcs]
  unfold number
  split
  · rename_i h
    simp at h
  · rename_i h
    exact absurd (List.cons.inj h).1 hc0
  · rename_i h
    obtain ⟨rfl, rfl⟩ := List.cons.inj h
    rw [if_pos (hdig _ List.mem_cons_self), hrun]
    have hpow : m ≤ Nat.pow 2 63 := hm
    simp [integerDigits, afterInteger, h0, hpow]

theorem scansTo_neg {i : Int} (hi : InRange (.neg i)) : ScansTo (.neg i) (JsonText.number (.neg i)).toList := by
  obtain ⟨hlo, hneg⟩ := hi
  obtain ⟨o, ho⟩ := number_false_toDigits (m := i.natAbs) (by omega) (by omega)
  have hi' : -(i.natAbs : Int) = i := by omega
  rw [hi'] at ho
  exact .inl ⟨_, o, toList_number_neg hneg, ho⟩

end JsonScan

/-! ## Number texts hold nothing that ends a value -/

namespace JsonText

/-- A character that can stand inside a token: no blank, closing bracket or comma. -/
def Inside (c : Char) : Prop := ¬ IsBlank c ∧ c ≠ ']' ∧ c ≠ '}' ∧ c ≠ ','

/-- A text with nothing in it that ends a value. -/
def Solid (s : String) : Prop := ∀ c ∈ s.toList, Inside c

theorem inside_of_isDigit {c : Char} (h : c.isDigit = true) : Inside c := by
  have hc := Char.isDigit_iff_toNat.1 h
  simp only [Char.reduceToNat] at hc
  refine ⟨JsonRead.not_isBlank_of_isDigit h, ?_, ?_, ?_⟩ <;> rintro rfl <;> simp at hc

@[simp] theorem solid_append {a b : String} : Solid (a ++ b) ↔ Solid a ∧ Solid b := by
  unfold Solid
  rw [String.toList_append]
  exact List.forall_mem_append

theorem solid_ofList {cs : List Char} (h : ∀ c ∈ cs, Inside c) : Solid (String.ofList cs) := by
  intro c hc
  rw [String.toList_ofList] at hc
  exact h c hc

@[simp] theorem solid_repr (n : Nat) : Solid n.repr := by
  intro c hc
  rw [Nat.toList_repr] at hc
  exact inside_of_isDigit (Nat.isDigit_of_mem_toDigits (by omega) (by omega) hc)

@[simp] theorem solid_toString (n : Nat) : Solid (toString n) := by
  rw [Nat.toString_eq_repr]
  exact solid_repr n

@[simp] theorem solid_int_repr (i : Int) : Solid i.repr := by
  rw [Int.repr_eq_if]
  split
  · exact solid_repr _
  · exact solid_append.2 ⟨by simp [Solid, Inside, IsBlank], solid_repr _⟩

@[simp] theorem solid_zeros (n : Nat) : Solid (Text.Decimal.zeros n) :=
  solid_ofList fun c hc => by simp [List.eq_of_mem_replicate hc, Inside, IsBlank]

theorem solid_place {ds : String} (h : Solid ds) (point : Int) : Solid (Text.Decimal.place ds point) := by
  unfold Text.Decimal.place
  dsimp only
  split
  · simp [h]
  split
  · exact solid_append.2 ⟨solid_append.2 ⟨by simp [Solid, Inside, IsBlank], solid_zeros _⟩, h⟩
  · simp only [solid_append]
    refine ⟨⟨solid_ofList fun c hc => h c (List.mem_of_mem_take hc), by simp [Solid, Inside, IsBlank]⟩,
      solid_ofList fun c hc => h c (List.mem_of_mem_drop hc)⟩

theorem solid_jsonText (f : Float) : Solid (Text.Decimal.jsonText f) := by
  have hlit : Solid "null" ∧ Solid "0.0" ∧ Solid ".0" ∧ Solid "e" ∧ Solid "-" ∧ Solid "+" ∧ Solid "" := by
    simp [Solid, Inside, IsBlank]
  obtain ⟨h1, h2, h3, h4, h5, h6, h7⟩ := hlit
  unfold Text.Decimal.jsonText
  split
  · exact h1
  · exact h1
  · -- a sign, the shortest digits laid out, and perhaps an exponent
    rename_i p _
    dsimp only
    generalize hs : (if p.negative = true then "-" else "") = sign
    have hsign : Solid sign := by
      rw [← hs]
      split
      · exact h5
      · exact h7
    split_ifs <;> simp [Text.Decimal.digitsOf, solid_place, *]

/-- No number is written with a blank, a comma or a closing bracket in it. -/
theorem solid_number : ∀ n : JsonNumber, Solid (JsonText.number n)
  | .nat n => solid_toString n
  | .neg i => solid_int_repr i
  | .float _ => solid_jsonText _

end JsonText

/-! ## A number's text read alone -/

namespace JsonRead

variable {α β : Type} {k k' : Cursor}

theorem runFrom_throw_ne (e : ReadError) (a : α) : runFrom (throw e : JsonRead α) k ≠ (.ok a, k') := by
  simp [runFrom, throw, throwThe, MonadExceptOf.throw, ExceptT.mk]
  intro h
  cases h

theorem runFrom_failPeek_ne (f : SyntaxFault) (a : α) : runFrom (failPeek f : JsonRead α) k ≠ (.ok a, k') := by
  unfold failPeek
  rw [runFrom_bind]
  exact runFrom_throw_ne _ a

theorem ok_of_bind {x : JsonRead α} {f : α → JsonRead β} {b : β} (h : runFrom (x >>= f) k = (.ok b, k')) :
    ∃ a k₁, runFrom x k = (.ok a, k₁) ∧ runFrom (f a) k₁ = (.ok b, k') := by
  rw [runFrom_bind] at h
  split at h
  · rename_i a k₁ hx
    exact ⟨a, k₁, hx, h⟩
  · cases h

theorem ok_of_map {x : JsonRead α} {f : α → β} {b : β} (h : runFrom (f <$> x) k = (.ok b, k')) :
    ∃ a, runFrom x k = (.ok a, k') ∧ b = f a := by
  unfold runFrom at h ⊢
  simp only [ExceptT.run_map, StateT.run_map] at h
  revert h
  rcases (ExceptT.run x).run k with ⟨_ | a, k₁⟩
  · intro h
    cases h
  · intro h
    simp only [Except.map] at h
    obtain ⟨rfl, rfl⟩ := h
    exact ⟨a, rfl, rfl⟩

/-- A placed reader succeeds only as the reader does: placing only turns failures into failures. -/
theorem ok_of_placed {x : JsonRead α} {a : α} (h : runFrom (placed x) k = (.ok a, k')) : runFrom x k = (.ok a, k') := by
  unfold placed at h
  rw [runFrom_tryCatch] at h
  split at h
  · rename_i b k₁ hx
    obtain ⟨rfl, rfl⟩ : b = a ∧ k₁ = k' := by simpa using h
    exact hx
  · rename_i e k₁ _
    exfalso
    revert h
    split
    · exact runFrom_throw_ne _ a
    · rw [runFrom_bind]
      exact runFrom_throw_ne _ a

theorem ok_of_number {positive : Bool} {n : JsonNumber} (h : runFrom (number positive) k = (.ok n, k')) :
    ∃ o, JsonScan.number positive k.rest = .ok (n, k'.rest, o) := by
  unfold number at h
  rw [runFrom_bind_ok _ (runFrom_get k)] at h
  split at h
  · rename_i m rest off hs
    obtain ⟨_, hset, rfl⟩ := ok_of_map h
    rw [runFrom_set] at hset
    obtain ⟨-, rfl⟩ := Prod.mk.inj hset
    exact ⟨off, hs⟩
  · rw [runFrom_bind_ok _ (runFrom_set _ k)] at h
    exact absurd h (runFrom_throw_ne _ n)

/-- A value read as a number from a text with no blank in front: its digits, after a minus sign
or from the first digit, scanned up to where the reader stops. -/
theorem value_num {fuel : Nat} {n : JsonNumber} (hk : NoLeadingBlank k.rest)
    (h : runFrom (value fuel) k = (.ok (.num n), k')) :
    ∃ o, (∃ ds, k.rest = '-' :: ds ∧ JsonScan.number false ds = .ok (n, k'.rest, o)) ∨
      JsonScan.number true k.rest = .ok (n, k'.rest, o) := by
  cases fuel with
  | zero => exact absurd h (by rw [value]; exact runFrom_failPeek_ne _ _)
  | succ fuel =>
    rw [value] at h
    have hx := ok_of_placed h
    rw [runFrom_bind_ok _ (runFrom_skipBlanks hk)] at hx
    rcases hrest : k.rest with _ | ⟨c, cs⟩
    · rw [hrest] at hx
      exact absurd hx (runFrom_failPeek_ne _ _)
    rw [hrest] at hx
    dsimp only [List.head?_cons] at hx
    -- the first character chooses the kind of value; only a minus sign or a digit gives a number
    split_ifs at hx with hn ht hf hm hd hq hb hc
    · obtain ⟨_, _, _, hnull⟩ := ok_of_bind hx
      obtain ⟨_, _, _, hnull⟩ := ok_of_bind hnull
      simp [runFrom_pure] at hnull
    · obtain ⟨_, _, _, htrue⟩ := ok_of_bind hx
      obtain ⟨_, _, _, htrue⟩ := ok_of_bind htrue
      simp [runFrom_pure] at htrue
    · obtain ⟨_, _, _, hfalse⟩ := ok_of_bind hx
      obtain ⟨_, _, _, hfalse⟩ := ok_of_bind hfalse
      simp [runFrom_pure] at hfalse
    · subst hm
      obtain ⟨_, k₁, hbump, hnum⟩ := ok_of_bind hx
      obtain ⟨m, hm, hmn⟩ := ok_of_map hnum
      cases hmn
      obtain ⟨o, ho⟩ := ok_of_number hm
      have hk₁ : k₁.rest = cs := by
        rw [runFrom_bump] at hbump
        obtain ⟨-, rfl⟩ := Prod.mk.inj hbump
        simp [Cursor.bump, hrest]
      exact ⟨o, .inl ⟨cs, rfl, hk₁ ▸ ho⟩⟩
    · obtain ⟨m, hm, hmn⟩ := ok_of_map hx
      cases hmn
      obtain ⟨o, ho⟩ := ok_of_number hm
      exact ⟨o, .inr (hrest ▸ ho)⟩
    · obtain ⟨_, _, _, hstr⟩ := ok_of_bind hx
      obtain ⟨_, _, hv⟩ := ok_of_map hstr
      cases hv
    · obtain ⟨_, _, hv⟩ := ok_of_map hx
      cases hv
    · obtain ⟨ms, _, hv⟩ := ok_of_map hx
      simp [Json.sortedObj] at hv
    · exact absurd hx (runFrom_failPeek_ne _ _)

/-- Skipping blanks takes a run of blanks and stops at what is not one. -/
theorem skipBlanks_go_split : ∀ (rest : List Char) (line col : Nat),
    ∃ bl, Blank bl ∧ rest = bl ++ (skipBlanks.go rest line col).1 ∧ NoLeadingBlank (skipBlanks.go rest line col).1
  | [], _, _ => ⟨[], blank_nil, rfl, trivial⟩
  | c :: more, line, col => by
    by_cases hc : IsBlank c
    · have hgo : skipBlanks.go (c :: more) line col =
          skipBlanks.go more (if c = '\n' then line + 1 else line) (if c = '\n' then 0 else col + 1) := by
        rcases hc with rfl | rfl | rfl | rfl <;> simp [skipBlanks.go]
      obtain ⟨bl, hbl, he, hn⟩ := skipBlanks_go_split more (if c = '\n' then line + 1 else line)
        (if c = '\n' then 0 else col + 1)
      rw [hgo]
      exact ⟨c :: bl, hbl.cons hc, by rw [List.cons_append, ← he], hn⟩
    · have hgo : skipBlanks.go (c :: more) line col = (c :: more, line, col) :=
        skipBlanks_go_of_noLeadingBlank (show NoLeadingBlank (c :: more) from hc) line col
      rw [hgo]
      exact ⟨[], blank_nil, rfl, hc⟩

theorem runFrom_skipBlanks_go (k : Cursor) :
    runFrom skipBlanks k = (.ok (skipBlanks.go k.rest k.line k.column).1.head?,
      { k with rest := (skipBlanks.go k.rest k.line k.column).1, line := (skipBlanks.go k.rest k.line k.column).2.1,
               column := (skipBlanks.go k.rest k.line k.column).2.2 }) := rfl

/-- The end of a text passes only over blanks. -/
theorem blank_of_finish {u : Unit} (h : runFrom finish k = (.ok u, k')) : Blank k.rest := by
  obtain ⟨bl, hbl, he, -⟩ := skipBlanks_go_split k.rest k.line k.column
  unfold finish at h
  rw [runFrom_bind, runFrom_skipBlanks_go] at h
  dsimp only at h
  revert h he
  rcases (skipBlanks.go k.rest k.line k.column).1 with _ | ⟨c, more⟩
  · intro _ he
    rw [he, List.append_nil]
    exact hbl
  · intro h _
    exact absurd h (runFrom_failPeek_ne _ _)

/-- A whole text read by `r`: what `r` reads from its start, with only blanks after it. -/
theorem ok_of_run {r : JsonRead α} {s : String} {a : α} (h : run r s = .ok a) :
    ∃ k', runFrom r (Cursor.start s) = (.ok a, k') ∧ Blank k'.rest := by
  have h' : (runFrom (r >>= fun a => finish >>= fun _ => Pure.pure a) (Cursor.start s)).1 = .ok a := h
  obtain ⟨k₂, hwhole⟩ : ∃ k₂, runFrom (r >>= fun a => finish >>= fun _ => Pure.pure a) (Cursor.start s) =
      (.ok a, k₂) := by
    revert h'
    rcases runFrom (r >>= fun a => finish >>= fun _ => Pure.pure a) (Cursor.start s) with ⟨res, k₂⟩
    intro h'
    exact ⟨k₂, by rw [show res = .ok a from h']⟩
  obtain ⟨a', k₁, hr, hrest⟩ := ok_of_bind hwhole
  obtain ⟨u, k₃, hfin, hpure⟩ := ok_of_bind hrest
  obtain ⟨rfl, -⟩ : a' = a ∧ k₃ = k₂ := by simpa [runFrom_pure] using hpure
  exact ⟨k₁, hr, blank_of_finish hfin⟩

end JsonRead

/-- The text of `n`, read as a JSON text, is `n` again. Integers within their widths always
are; for a double it is the property that the reader's rounding gives back the double its
shortest text names. -/
def JsonNumber.ReadsBack (n : JsonNumber) : Prop :=
  JsonRead.parse (JsonText.number n) = .ok (.num n)

/-- A number that reads back from its text is scanned from all of it. -/
theorem JsonNumber.ReadsBack.scansTo {n : JsonNumber} (h : n.ReadsBack) :
    JsonScan.ScansTo n (JsonText.number n).toList := by
  obtain ⟨k', hrun, hblank⟩ := JsonRead.ok_of_run h
  rw [JsonRead.runFrom_bind_ok _ (show JsonRead.runFrom JsonRead.fuelFor (Cursor.start (JsonText.number n)) =
    (.ok _, Cursor.start (JsonText.number n)) from rfl)] at hrun
  have hnb := JsonText.solid_number n
  have hstart : (Cursor.start (JsonText.number n)).rest = (JsonText.number n).toList := rfl
  have hlead : JsonRead.NoLeadingBlank (Cursor.start (JsonText.number n)).rest := by
    rw [hstart]
    cases hcs : (JsonText.number n).toList with
    | nil => trivial
    | cons c _ => exact (hnb c (hcs ▸ List.mem_cons_self)).1
  obtain ⟨o, hscan⟩ := JsonRead.value_num hlead hrun
  rw [hstart] at hscan
  -- what is left is blank, and a suffix of a text without blanks: nothing
  have hnil : k'.rest = [] := by
    rcases hr : k'.rest with _ | ⟨c, more⟩
    · rfl
    · have hc : IsBlank c := hblank c (by simp [hr])
      have hsuf : k'.rest <:+ (JsonText.number n).toList := by
        rcases hscan with ⟨ds, hds, hs⟩ | hs
        · rw [hds]
          exact (JsonScan.number_suffix hs).trans (List.suffix_cons _ _)
        · exact JsonScan.number_suffix hs
      exact absurd hc (hnb c (hsuf.subset (by simp [hr]))).1
  rw [hnil] at hscan
  rcases hscan with ⟨ds, hds, hs⟩ | hs
  · exact .inl ⟨ds, o, hds, hs⟩
  · exact .inr ⟨o, hs⟩

/-! ## Reading numbers inside a text -/

namespace JsonRead

variable {F : List Char → Prop} {d b : Nat}

/-- What may follow a value inside a text: a blank, a comma, a closing bracket, or nothing. -/
def Stops : List Char → Prop
  | [] => True
  | c :: _ => IsBlank c ∨ c = ',' ∨ c = ']' ∨ c = '}'

theorem Stops.ends {r : List Char} (h : Stops r) : JsonScan.Ends r := by
  cases r with
  | nil => trivial
  | cons c r =>
    simp only [Stops, IsBlank] at h
    refine ⟨?_, ?_, ?_, ?_⟩ <;> rcases h with (rfl | rfl | rfl | rfl) | rfl | rfl | rfl <;> decide

namespace Reads

/-- Digits the scanner takes whole are read as their number, before whatever ends a number. -/
theorem scanned {positive : Bool} {t : List Char} {n : JsonNumber} {o : Nat}
    (h : JsonScan.number positive t = .ok (n, [], o)) (hF : ∀ r, F r → JsonScan.Ends r) :
    Reads F d b (JsonRead.number positive) t n := by
  intro k rest hr hk _ _
  refine ⟨{ k with rest := rest, column := k.column + o }, ?_, rfl, rfl, rfl⟩
  have hs := JsonScan.number_append h (hF rest hr)
  unfold JsonRead.number
  rw [runFrom_bind_ok _ (runFrom_get k)]
  simp only [hk, hs, List.nil_append]
  rfl

/-- The text of a number the scanner takes whole is read as that number. -/
theorem value_number {n : JsonNumber} {t : List Char} (h : JsonScan.ScansTo n t) (fuel : Nat) :
    Reads Stops d b (value (fuel + 1)) t (.num n) := by
  rw [value]
  refine placed ?_
  rcases h with ⟨ds, o, rfl, hs⟩ | ⟨o, hs⟩
  · refine skipBlanks_bind (by simp [IsBlank]) ?_
    dsimp only
    rw [if_neg (by decide), if_neg (by decide), if_neg (by decide), if_pos rfl]
    exact (bump (F := fun _ => True) '-').bind ((scanned hs fun _ h => h.ends).map _) (fun _ _ => trivial)
  · -- a number the scanner takes from its first character starts with a digit
    obtain ⟨c, cs, rfl, hc⟩ : ∃ c cs, t = c :: cs ∧ c.isDigit = true := by
      rcases t with _ | ⟨c, cs⟩
      · simp [JsonScan.number] at hs
      · exact ⟨c, cs, rfl, JsonScan.number_ok_head hs⟩
    have hne : c ≠ 'n' ∧ c ≠ 't' ∧ c ≠ 'f' ∧ c ≠ '-' := by
      refine ⟨?_, ?_, ?_, ?_⟩ <;> rintro rfl <;> simp at hc
    refine skipBlanks_bind (not_isBlank_of_isDigit hc) ?_
    dsimp only
    rw [if_neg hne.1, if_neg hne.2.1, if_neg hne.2.2.1, if_neg hne.2.2.2, if_pos hc]
    exact (scanned hs fun _ h => h.ends).map _

end Reads

end JsonRead

end DocStore
