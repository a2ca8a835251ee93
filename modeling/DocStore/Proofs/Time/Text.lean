import Mathlib.Tactic.SplitIfs
import DocStore.Time.Parse
import DocStore.Proofs.Time.Calendar
/-
  DocStore.Proofs.Time.Text — an instant's RFC 3339 text reads back as the instant.

  The text is the calendar date of the instant's day, the time of day, a fraction of
  three, six or nine digits when there is one, and `Z`. Each part is read back by the
  step of the reader that takes it: a run of digits (`number_pad`), a two-digit field
  within its bounds (`field_pad`), the year, signed outside 0..9999 (`year_yearText`),
  the fraction scaled to nanoseconds (`fraction_fractionText`), and the zone.

  An instant's text reads back when it is `Valid`: its year is one a calendar date may
  have, and a leap second (nanoseconds of one billion or more) falls on the last second
  of a minute, the only place the second 60 can be written.

  Proved: `read_text` (the fields come back from their text), `toInstant_fields` (the
  fields make the instant again, through `civilFromDays_spec`) and `parse_toText`. Conversely
  `parse_valid`: every instant the reader gives is valid, since a fraction is under a second
  (`fraction_lt`) and an offset is in whole minutes (`zone_ok`).
-/

namespace DocStore

namespace Instant

theorem toList_pad (w n : Nat) :
    (pad w n).toList = List.replicate (w - (toString n).length) '0' ++ Nat.toDigits 10 n := by
  simp [pad, Nat.toString_eq_repr, Nat.toList_repr]

/-- A zero-padded number reads back as the number: the zeros in front add nothing. -/
theorem ofDigitChars_pad (w n : Nat) : Nat.ofDigitChars 10 (pad w n).toList 0 = n := by
  rw [toList_pad, Nat.ofDigitChars_append, Nat.ofDigitChars_replicate_zero, Nat.mul_zero,
    Nat.ofDigitChars_ten_toDigits]

theorem pad_ne_nil (w n : Nat) : (pad w n).toList ≠ [] := by
  rw [toList_pad]
  simp

theorem isDigit_of_mem_pad {w n : Nat} {c : Char} (h : c ∈ (pad w n).toList) : c.isDigit = true := by
  rw [toList_pad] at h
  rcases List.mem_append.1 h with h | h
  · rw [List.eq_of_mem_replicate h]
    rfl
  · exact Nat.isDigit_of_mem_toDigits (by omega) (by omega) h

theorem isDigit_of_pad_append {w n : Nat} {x r : List Char} {c : Char}
    (h : (pad w n).toList ++ x = c :: r) : c.isDigit = true := by
  obtain ⟨d, ds, hds⟩ := List.exists_cons_of_ne_nil (pad_ne_nil w n)
  rw [hds, List.cons_append, List.cons.injEq] at h
  exact isDigit_of_mem_pad (by rw [hds, h.1]; simp)

/-- A number with at most `k` digits, padded to `w ≤ k`, takes at most `k` characters. -/
theorem length_pad_le {w n k : Nat} (hw : w ≤ k) (hk : 0 < k) (hn : n < 10 ^ k) :
    (pad w n).toList.length ≤ k := by
  have hlen := (Nat.length_toDigits_le_iff (n := n) (by omega) hk).2 hn
  rw [toList_pad]
  simp only [List.length_append, List.length_replicate, Nat.toString_eq_repr, ← String.length_toList,
    Nat.toList_repr]
  omega

/-- A number with at most `w` digits is padded to exactly `w`. -/
theorem length_pad {w n : Nat} (hw : 0 < w) (hn : n < 10 ^ w) : (pad w n).toList.length = w := by
  have hlen := (Nat.length_toDigits_le_iff (n := n) (by omega) hw).2 hn
  rw [toList_pad]
  simp only [List.length_append, List.length_replicate, Nat.toString_eq_repr, ← String.length_toList,
    Nat.toList_repr]
  omega

end Instant

namespace TimeText

/-! ## Runs of digits -/

/-- What may follow a run of digits read as a number: the end, or a character that is not a digit. -/
def EndsDigits : List Char → Prop
  | [] => True
  | c :: _ => c.isDigit = false

@[simp] theorem endsDigits_cons {c : Char} {r : List Char} : EndsDigits (c :: r) ↔ c.isDigit = false :=
  Iff.rfl

theorem le_foldl_utf8 (cs : List Char) (n : Nat) : n ≤ cs.foldl (fun n c => n + c.utf8Size) n := by
  induction cs generalizing n with
  | nil => simp
  | cons c cs ih =>
    have := ih (n + c.utf8Size)
    simp only [List.foldl_cons]
    omega

theorem byteLen_cons_pos (c : Char) (cs : List Char) : 0 < byteLen (c :: cs) := by
  have h := le_foldl_utf8 cs (0 + c.utf8Size)
  have hc := c.utf8Size_pos
  simp only [byteLen, List.foldl_cons]
  omega

theorem le_ofDigitChars (ds : List Char) (acc : Nat) : acc ≤ Nat.ofDigitChars 10 ds acc := by
  rw [Nat.ofDigitChars_eq_ofDigitChars_zero]
  have := Nat.le_mul_of_pos_left acc (show 0 < 10 ^ ds.length from Nat.pow_pos (by omega))
  omega

/-- The digit loop reads a run of digits as the number they spell, when the run fits in the
loop's steps, stops before a non-digit (or fills them), and stays below the overflow bound;
every value on the way is at most the last, so the bound is never hit. -/
theorem go_digits {min : Nat} : ∀ (ds rest : List Char) (i acc fuel : Nat),
    (∀ c ∈ ds, c.isDigit = true) → ds.length ≤ fuel → (ds.length < fuel → EndsDigits rest) →
    min ≤ i + ds.length → Nat.ofDigitChars 10 ds acc < 2 ^ 63 →
    number.go min (ds ++ rest) i acc fuel = .ok (Nat.ofDigitChars 10 ds acc, rest)
  | [], rest, i, acc, 0, _, _, _, _, _ => by simp [number.go]
  | [], [], i, acc, fuel + 1, _, _, _, _, _ => by simp [number.go]
  | [], c :: rest, i, acc, fuel + 1, _, _, hend, hmin, _ => by
    have hc : c.isDigit = false := hend (by simp)
    simp [number.go, hc]
    omega
  | d :: ds, rest, i, acc, fuel + 1, hdig, hlen, hend, hmin, hbig => by
    have hd : d.isDigit = true := hdig d (by simp)
    have hnext : Nat.ofDigitChars 10 (d :: ds) acc =
        Nat.ofDigitChars 10 ds (acc * 10 + (d.toNat - 48)) := by
      rw [Nat.ofDigitChars_cons, Nat.mul_comm]
      rfl
    rw [hnext] at hbig ⊢
    have hle := le_ofDigitChars ds (acc * 10 + (d.toNat - 48))
    have ih := @go_digits min ds rest (i + 1) (acc * 10 + (d.toNat - 48)) fuel
      (fun c hc => hdig c (by simp [hc])) (by simp at hlen; omega) (fun h => hend (by simp; omega))
      (by simp at hmin; omega) hbig
    simp only [List.cons_append, number.go, hd, if_true]
    rw [if_neg (by simp [Nat.pow_eq]; omega)]
    exact ih

/-- `pad w n` read as a number of `1` to `max` digits gives `n` back, when its digits are at
most `max` and a non-digit follows unless `max` digits were read. -/
theorem number_pad {w n max : Nat} {rest : List Char} (hmax : (Instant.pad w n).toList.length ≤ max)
    (hend : (Instant.pad w n).toList.length < max → EndsDigits rest) (hbig : n < 2 ^ 63) :
    number ((Instant.pad w n).toList ++ rest) 1 max = .ok (n, rest) := by
  obtain ⟨c, cs, hcs⟩ := List.exists_cons_of_ne_nil (Instant.pad_ne_nil w n)
  unfold number
  rw [if_neg (by rw [hcs, List.cons_append]; have := byteLen_cons_pos c (cs ++ rest); omega)]
  have h := @go_digits 1 (Instant.pad w n).toList rest 0 0 max
    (fun _ => Instant.isDigit_of_mem_pad) hmax hend (by rw [hcs]; simp)
    (by rw [Instant.ofDigitChars_pad]; exact hbig)
  rwa [Instant.ofDigitChars_pad] at h

/-! ## Fields -/

theorem isBlank_of_isDigit {c : Char} (h : c.isDigit = true) : Text.isBlank c = false := by
  have hc := Char.isDigit_iff_toNat.1 h
  simp only [Char.reduceToNat] at hc
  simp only [Text.isBlank]
  grind

theorem dropBlanks_cons {c : Char} (hc : Text.isBlank c = false) (cs : List Char) :
    Text.dropBlanks (c :: cs) = c :: cs := by
  simp [Text.dropBlanks, hc]

theorem dropBlanks_pad (w n : Nat) (rest : List Char) :
    Text.dropBlanks ((Instant.pad w n).toList ++ rest) = (Instant.pad w n).toList ++ rest := by
  obtain ⟨c, cs, hcs⟩ := List.exists_cons_of_ne_nil (Instant.pad_ne_nil w n)
  rw [hcs, List.cons_append, dropBlanks_cons (isBlank_of_isDigit (Instant.isDigit_of_mem_pad (w := w) (n := n)
    (by rw [hcs]; simp)))]

@[simp] theorem literal_cons (c : Char) (cs : List Char) : literal c (c :: cs) = .ok cs := by
  simp [literal]

/-- A two-digit field within its bounds reads back. -/
theorem field_pad {n lo hi : Nat} (rest : List Char) (hlo : lo ≤ n) (hhi : n ≤ hi) (hn : n < 100) :
    field ((Instant.pad 2 n).toList ++ rest) 2 lo hi = .ok (n, rest) := by
  have hlen := Instant.length_pad (w := 2) (n := n) (by omega) (by simpa using hn)
  simp only [field, dropBlanks_pad, number_pad (Nat.le_of_eq hlen) (fun h => absurd h (by omega)) (by omega)]
  simp [bind, Except.bind, pure, Except.pure]
  exact ⟨hlo, hhi⟩

/-- A year the calendar allows reads back from its text, before the dash of the month. -/
theorem year_yearText {y : Int} (hy : yearInRange y = true) (rest : List Char) :
    year ((Instant.yearText y).toList ++ '-' :: rest) = .ok (y, '-' :: rest) := by
  simp only [yearInRange, Bool.and_eq_true, decide_eq_true_eq] at hy
  unfold Instant.yearText
  by_cases hsmall : 0 ≤ y ∧ y ≤ 9999
  · -- four digits, no sign
    rw [if_pos (by simpa using hsmall)]
    have hlen := Instant.length_pad (w := 4) (n := y.toNat) (by omega) (by simp; omega)
    unfold year
    rw [dropBlanks_pad]
    dsimp only
    split
    · rename_i h
      exact absurd (Instant.isDigit_of_pad_append h) (by decide)
    · rename_i h
      exact absurd (Instant.isDigit_of_pad_append h) (by decide)
    · rw [number_pad (Nat.le_of_eq hlen) (fun h => absurd h (by omega)) (by omega)]
      simp [bind, Except.bind, pure, Except.pure]
      rw [if_neg (by omega), show max y 0 = y by omega]
  · -- a sign, then the digits of the magnitude, at least four and at most six
    have hlen := Instant.length_pad_le (w := 4) (n := y.natAbs) (k := 6) (by omega) (by omega) (by simp; omega)
    have hend : EndsDigits ('-' :: rest) := show Char.isDigit '-' = false from rfl
    have hnum : number ((Instant.pad 4 y.natAbs).toList ++ '-' :: rest) 1 (Nat.pow 2 64) =
        .ok (y.natAbs, '-' :: rest) := number_pad (by simp [Nat.pow_eq]; omega) (fun _ => hend) (by omega)
    rw [if_neg (by simpa using hsmall)]
    unfold year
    by_cases hneg : y < 0
    · simp only [if_pos hneg, String.toList_append, show "-".toList = ['-'] from rfl,
        List.cons_append, List.nil_append]
      rw [dropBlanks_cons (by decide)]
      split
      · rename_i h
        obtain ⟨-, rfl⟩ := List.cons.inj h
        simp only [hnum, bind, Except.bind, pure, Except.pure]
        rw [if_neg (by simp only [Bool.or_eq_true, decide_eq_true_eq]; omega), show -(y.natAbs : Int) = y by omega]
      · rename_i h
        simp at h
      · rename_i h _
        exact absurd (h _ rfl) id
    · simp only [if_neg hneg, String.toList_append, show "+".toList = ['+'] from rfl,
        List.cons_append, List.nil_append]
      rw [dropBlanks_cons (by decide)]
      split
      · rename_i h
        simp at h
      · rename_i h
        obtain ⟨-, rfl⟩ := List.cons.inj h
        simp only [hnum, bind, Except.bind, pure, Except.pure]
        rw [if_neg (by simp only [Bool.or_eq_true, decide_eq_true_eq]; omega), show (y.natAbs : Int) = y by omega]
      · rename_i _ h
        exact absurd (h _ rfl) id

/-- `w` fraction digits, then the zone, read as nanoseconds. -/
theorem fraction_pad {w v : Nat} (hw : 0 < w) (hw9 : w ≤ 9) (hv : v < 10 ^ w) (r : List Char) :
    fraction ('.' :: ((Instant.pad w v).toList ++ 'Z' :: r)) = .ok (v * 10 ^ (9 - w), 'Z' :: r) := by
  have hlen := Instant.length_pad hw hv
  have hbig : v < 2 ^ 63 := Nat.lt_of_lt_of_le hv
    (Nat.le_trans (Nat.pow_le_pow_right (by omega) hw9) (by decide))
  unfold fraction
  have hZ : EndsDigits ('Z' :: r) := endsDigits_cons.2 rfl
  have hnum : number ((Instant.pad w v).toList ++ 'Z' :: r) 1 9 = .ok (v, 'Z' :: r) :=
    number_pad (by omega) (fun _ => hZ) hbig
  simp only [hnum]
  simp [bind, Except.bind, pure, Except.pure, hlen, Nat.pow_eq]

/-- The fraction of a second reads back from its text, before the zone. -/
theorem fraction_fractionText {nano : Nat} (h : nano < 1000000000) (r : List Char) :
    fraction ((Instant.fractionText nano).toList ++ 'Z' :: r) = .ok (nano, 'Z' :: r) := by
  unfold Instant.fractionText
  split_ifs with h0 h6 h3
  · subst h0
    rfl
  -- three, six or nine digits, each scaled back by the power of ten it was divided by
  all_goals
    simp only [String.toList_append, show ".".toList = ['.'] from rfl, List.cons_append, List.nil_append]
    rw [fraction_pad (by omega) (by omega) (by omega)]
    congr 3
    omega

theorem zone_Z : zone ['Z'] = .ok (0, []) := rfl

/-- A date and time within their fields' bounds read back from the text the writer gives them,
with a zero offset. -/
theorem read_text {y : Int} {mo d h mi s nano : Nat} (hy : yearInRange y = true) (hmo : 1 ≤ mo ∧ mo ≤ 12)
    (hd : 1 ≤ d ∧ d ≤ 31) (hh : h ≤ 23) (hmi : mi ≤ 59) (hs : s ≤ 60) (hn : nano < 1000000000) :
    read ((Instant.yearText y).toList ++ '-' :: (Instant.pad 2 mo).toList ++ '-' :: (Instant.pad 2 d).toList ++
        'T' :: (Instant.pad 2 h).toList ++ ':' :: (Instant.pad 2 mi).toList ++ ':' ::
        (Instant.pad 2 s).toList ++ (Instant.fractionText nano).toList ++ ['Z']) =
      .ok ⟨y, mo, d, h, mi, s, nano, 0⟩ := by
  simp only [List.append_assoc, List.cons_append]
  unfold read
  simp only [year_yearText hy, dropBlanks_cons (c := '-') (by decide), dropBlanks_cons (c := ':') (by decide),
    literal_cons, field_pad _ hmo.1 hmo.2 (by omega), field_pad _ hd.1 hd.2 (by omega),
    field_pad _ (Nat.zero_le h) hh (by omega), field_pad _ (Nat.zero_le mi) hmi (by omega),
    field_pad _ (Nat.zero_le s) hs (by omega), fraction_fractionText hn, zone_Z, bind, Except.bind,
    pure, Except.pure, decide_true, Bool.true_or, if_true]
  rfl

/-- Fields with a zero offset make the instant whose seconds and nanoseconds they spell, when
the date exists and the instant's own date is one the calendar allows. -/
theorem toInstant_eq {r : Reading} {t : Instant} (hyear : yearInRange r.year = true)
    (hday : r.day ≤ Instant.daysInMonth r.year r.month) (hoff : r.offset = 0)
    (hsec : Instant.daysFromCivil r.year r.month r.day * 86400 +
        ((r.hour : Int) * 3600 + (r.minute : Int) * 60 + ((if r.second = 60 then 59 else r.second : Nat) : Int)) =
          t.sec)
    (hnano : (if r.second = 60 then r.nano + 1000000000 else r.nano) = t.nano)
    (hutc : yearInRange (Instant.civilFromDays (t.sec / 86400)).1 = true) :
    toInstant r = .ok t := by
  unfold toInstant
  simp only [hyear, Bool.not_true, Bool.false_or, decide_eq_true_eq, gt_iff_lt, Nat.not_lt.2 hday,
    if_false, hoff]
  simp only [Int.sub_zero, hsec, hutc, hnano]
  simp [t.nano_lt]
  rfl

end TimeText

namespace Instant

/-- An instant whose text reads back: its year is one a calendar date may have, and a leap
second falls on the last second of a minute. -/
structure Valid (t : Instant) : Prop where
  inRange : TimeText.yearInRange t.fields.year = true
  leapLast : 1000000000 ≤ t.nano → t.sec % 60 = 59

theorem fields_eq (t : Instant) :
    t.fields =
      { year := (civilFromDays (t.sec / 86400)).1, month := (civilFromDays (t.sec / 86400)).2.1,
        day := (civilFromDays (t.sec / 86400)).2.2, hour := (t.sec % 86400).toNat / 3600,
        minute := (t.sec % 86400).toNat / 60 % 60,
        second := (t.sec % 86400).toNat % 60 + (if t.nano ≥ 1000000000 then 1 else 0),
        nano := if t.nano ≥ 1000000000 then t.nano - 1000000000 else t.nano } :=
  rfl

/-- The fields of a valid instant make the instant again. -/
theorem toInstant_fields {t : Instant} (ht : t.Valid) :
    TimeText.toInstant ⟨t.fields.year, t.fields.month, t.fields.day, t.fields.hour, t.fields.minute,
      t.fields.second, t.fields.nano, 0⟩ = .ok t := by
  have hy := ht.inRange
  obtain ⟨-, ⟨-, hday⟩, hz⟩ := civilFromDays_spec (t.sec / 86400)
  rw [fields_eq] at hy ⊢
  have hsecs : ((t.sec % 86400).toNat : Int) = t.sec % 86400 := Int.toNat_of_nonneg (by omega)
  refine TimeText.toInstant_eq hy hday rfl ?_ ?_ hy
  · -- the day's first second and the time of day; a leap second is written as second 60
    -- and counted as the 59th
    dsimp only
    rw [hz]
    by_cases hl : 1000000000 ≤ t.nano
    · have h59 := ht.leapLast hl
      rw [if_pos hl, if_pos (by omega)]
      omega
    · rw [if_neg hl, if_neg (by omega)]
      omega
  · -- the excess nanoseconds of a leap second come back with it
    dsimp only
    by_cases hl : 1000000000 ≤ t.nano
    · have h59 := ht.leapLast hl
      rw [if_pos hl, if_pos hl, if_pos (by omega)]
      omega
    · rw [if_neg hl, if_neg hl, if_neg (by omega)]

theorem daysInMonth_le (y : Int) (m : Nat) : daysInMonth y m ≤ 31 := by
  unfold daysInMonth
  split <;> (try split) <;> omega

/-- The fields of an instant are within the bounds its text allows. -/
theorem fields_bounds (t : Instant) :
    (1 ≤ t.fields.month ∧ t.fields.month ≤ 12) ∧ (1 ≤ t.fields.day ∧ t.fields.day ≤ 31) ∧ t.fields.hour ≤ 23 ∧
      t.fields.minute ≤ 59 ∧ t.fields.second ≤ 60 ∧ t.fields.nano < 1000000000 := by
  obtain ⟨hm, ⟨hd1, hd2⟩, -⟩ := civilFromDays_spec (t.sec / 86400)
  have hdim := daysInMonth_le (civilFromDays (t.sec / 86400)).1 (civilFromDays (t.sec / 86400)).2.1
  have hlt := t.nano_lt
  rw [fields_eq]
  dsimp only
  refine ⟨hm, ⟨hd1, by omega⟩, by omega, by omega, ?_, ?_⟩
  · split_ifs <;> omega
  · split_ifs <;> omega

theorem toList_toText (t : Instant) :
    t.toText.toList =
      (yearText t.fields.year).toList ++ '-' :: (pad 2 t.fields.month).toList ++ '-' ::
        (pad 2 t.fields.day).toList ++ 'T' :: (pad 2 t.fields.hour).toList ++ ':' ::
        (pad 2 t.fields.minute).toList ++ ':' :: (pad 2 t.fields.second).toList ++
        (fractionText t.fields.nano).toList ++ ['Z'] := by
  simp [toText, localText, String.toList_append, show "-".toList = ['-'] from rfl,
    show "T".toList = ['T'] from rfl, show ":".toList = [':'] from rfl, show "Z".toList = ['Z'] from rfl]

/-- A valid instant reads back from its text. -/
theorem parse_toText {t : Instant} (ht : t.Valid) : Instant.parse t.toText = .ok t := by
  obtain ⟨hm, hd, hh, hmi, hs, hn⟩ := fields_bounds t
  unfold Instant.parse
  rw [toList_toText, TimeText.read_text ht.inRange hm hd hh hmi hs hn]
  exact toInstant_fields ht

end Instant

/-! ## The instants the reader gives -/

namespace TimeText

theorem except_bind_ok {ε α β : Type} {x : Except ε α} {f : α → Except ε β} {b : β}
    (h : (x >>= f) = .ok b) : ∃ a, x = .ok a ∧ f a = .ok b := by
  cases x with
  | error e => cases h
  | ok a => exact ⟨a, rfl, h⟩

/-- The digit loop takes a run of digits in front of what it leaves, no more than its steps, and
its value stays below the next power of ten above the value it started from. -/
theorem go_ok {min : Nat} : ∀ (fuel : Nat) (cs : List Char) (i acc v : Nat) (rest : List Char),
    number.go min cs i acc fuel = .ok (v, rest) →
      ∃ ds, cs = ds ++ rest ∧ ds.length ≤ fuel ∧ v < (acc + 1) * 10 ^ ds.length
  | 0, cs, i, acc, v, rest, h => by
    simp only [number.go, Except.ok.injEq, Prod.mk.injEq] at h
    obtain ⟨rfl, rfl⟩ := h
    exact ⟨[], rfl, by simp, by simp⟩
  | fuel + 1, [], i, acc, v, rest, h => by
    simp only [number.go, Except.ok.injEq, Prod.mk.injEq] at h
    obtain ⟨rfl, rfl⟩ := h
    exact ⟨[], rfl, by simp, by simp⟩
  | fuel + 1, c :: more, i, acc, v, rest, h => by
    simp only [number.go] at h
    split_ifs at h with hc hbig hmin
    · obtain ⟨ds, rfl, hlen, hv⟩ := go_ok fuel more (i + 1) _ v rest h
      have hd : c.toNat - '0'.toNat ≤ 9 := by
        have := Char.isDigit_iff_toNat.1 hc
        simp only [Char.reduceToNat] at this ⊢
        omega
      refine ⟨c :: ds, rfl, by simp; omega, ?_⟩
      calc v < (acc * 10 + (c.toNat - '0'.toNat) + 1) * 10 ^ ds.length := hv
        _ ≤ (acc + 1) * 10 * 10 ^ ds.length := Nat.mul_le_mul_right _ (by omega)
        _ = (acc + 1) * 10 ^ (c :: ds).length := by
          rw [List.length_cons, Nat.pow_succ, Nat.mul_assoc, Nat.mul_comm 10]
    · simp only [Except.ok.injEq, Prod.mk.injEq] at h
      obtain ⟨rfl, rfl⟩ := h
      exact ⟨[], rfl, by simp, by simp⟩

/-- A fraction is less than a second: at most nine digits, scaled up to nine. -/
theorem fraction_lt {cs : List Char} {p : Nat × List Char} (h : fraction cs = .ok p) : p.1 < 1000000000 := by
  unfold fraction at h
  split at h
  · rename_i r
    obtain ⟨⟨v, rest⟩, hnum, h⟩ := except_bind_ok h
    unfold number at hnum
    split_ifs at hnum
    obtain ⟨ds, rfl, hlen, hv⟩ := go_ok 9 _ 0 0 v rest hnum
    cases h
    have hused : (ds ++ rest).length - rest.length = ds.length := by simp
    dsimp only
    rw [hused]
    calc v * Nat.pow 10 (9 - ds.length) < 10 ^ ds.length * 10 ^ (9 - ds.length) := by
          rw [Nat.pow_eq]; exact Nat.mul_lt_mul_of_pos_right (by simpa using hv) (by positivity)
      _ = 1000000000 := by rw [← Nat.pow_add, Nat.add_sub_cancel' hlen]
  · cases h
    simp

/-- An offset is in whole minutes. -/
theorem signed_ok {negative : Bool} {cs : List Char} {p : Int × List Char}
    (h : zone.signed negative cs = .ok p) : p.1 % 60 = 0 := by
  unfold zone.signed at h
  simp only [bind, Except.bind, pure, Except.pure, throw, throwThe, MonadExceptOf.throw] at h
  -- every way through ends in a refusal or in hours and minutes of sixty seconds each
  repeat' split at h
  all_goals cases h
  all_goals omega

theorem offset_ok {cs : List Char} {p : Int × List Char} (h : zone.offset cs = .ok p) : p.1 % 60 = 0 := by
  unfold zone.offset at h
  split at h
  · cases h
    rfl
  · cases h
    rfl
  · split_ifs at h
    · exact signed_ok h
    · exact signed_ok h
  · cases h

theorem zone_ok {cs : List Char} {p : Int × List Char} (h : zone cs = .ok p) : p.1 % 60 = 0 := by
  unfold zone at h
  dsimp only at h
  split at h
  · split_ifs at h
    · cases h
      rfl
    · exact offset_ok h
  · exact offset_ok h

/-- The fields read from a text: a fraction less than a second, and an offset in whole minutes. -/
theorem read_ok {cs : List Char} {r : Reading} (h : read cs = .ok r) : r.nano < 1000000000 ∧ r.offset % 60 = 0 := by
  unfold read at h
  simp only [bind, Except.bind, pure, Except.pure, throw, throwThe, MonadExceptOf.throw] at h
  -- the one way through every field's check ends in the reading built from what the fraction
  -- and the zone gave
  repeat' split at h
  all_goals cases h
  exact ⟨fraction_lt ‹_›, zone_ok ‹_›⟩

end TimeText

namespace Instant

theorem toInstant_valid {r : TimeText.Reading} {t : Instant} (h : TimeText.toInstant r = .ok t)
    (hnano : r.nano < 1000000000) (hoff : r.offset % 60 = 0) : t.Valid := by
  unfold TimeText.toInstant at h
  simp only [bind, Except.bind, pure, Except.pure, throw, throwThe, MonadExceptOf.throw] at h
  split_ifs at h <;> cases h
  -- a leap second, then an ordinary one: the year is the one checked last, and a leap second
  -- keeps its minute's last second whatever whole minutes the offset takes away
  · refine ⟨by rw [fields_eq]; simpa using ‹¬(!TimeText.yearInRange _) = true›, fun _ => ?_⟩
    dsimp only
    omega
  · refine ⟨by rw [fields_eq]; simpa using ‹¬(!TimeText.yearInRange _) = true›, fun hl => ?_⟩
    dsimp only at hl
    omega

/-- Every instant the reader gives is valid, so its own text reads back as it. -/
theorem parse_valid {s : String} {t : Instant} (h : Instant.parse s = .ok t) : t.Valid := by
  obtain ⟨r, hr, ht⟩ := TimeText.except_bind_ok h
  obtain ⟨hnano, hoff⟩ := TimeText.read_ok hr
  exact toInstant_valid ht hnano hoff

end Instant

end DocStore
