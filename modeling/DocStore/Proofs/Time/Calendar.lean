import Mathlib.Tactic.IntervalCases
import DocStore.Time.Instant
/-
  DocStore.Proofs.Time.Calendar — the day count of a date and the date of a day count
  are inverse.

  `civilFromDays` cuts a day count into 400-year eras of 146097 days, then finds the
  year of the era by discounting the leap days (`commonDays`: one every 1460 days, back
  one every 36524, one more every 146096) and the day of a year that starts in March,
  where the leap day is the last. The year's first day is `yearStart`.

  Proved:
  - `yearOfEra_spec`: the year found holds the day: it starts on or before it, and the
    next one starts after it (or the day is the era's last, the leap day of its 400th year).
  - `civilFromDays_spec`: the date of any day count has a month in 1..12 and a day within
    its month, February 29 only in a leap year, and counting its days gives the count back.
-/

namespace DocStore.Instant

/-- The days of an era before day `n`, less its leap days: a multiple of 365 exactly at the
start of each year of the era. -/
def commonDays (n : Int) : Int := n - n / 1460 + n / 36524 - n / 146096

/-- The first day of year `y` of an era (years counted from March). -/
def yearStart (y : Int) : Int := 365 * y + y / 4 - y / 100

theorem commonDays_le_succ {n : Int} (h0 : 0 ≤ n) (h1 : n < 146096) :
    commonDays n ≤ commonDays (n + 1) := by
  unfold commonDays
  omega

theorem commonDays_mono {n n' : Int} (h0 : 0 ≤ n) (h : n ≤ n') (h1 : n' ≤ 146096) :
    commonDays n ≤ commonDays n' := by
  obtain ⟨k, rfl⟩ : ∃ k : Nat, n' = n + k := ⟨(n' - n).toNat, by omega⟩
  induction k with
  | zero => simp
  | succ k ih =>
    have hstep := commonDays_le_succ (n := n + k) (by omega) (by omega)
    have hk := ih (by omega) (by omega)
    rw [Nat.cast_succ, ← Int.add_assoc]
    omega

/-- Every year of an era starts where its common days reach a multiple of 365, and the day
before it is still short of that. -/
theorem commonDays_yearStart : ∀ y : Nat, y < 400 →
    commonDays (yearStart y) = 365 * (y : Int) ∧
      (0 < y → commonDays (yearStart y - 1) < 365 * (y : Int)) := by
  decide +kernel

theorem yearOfEra_spec {n : Int} (h0 : 0 ≤ n) (h1 : n ≤ 146096) :
    0 ≤ commonDays n / 365 ∧ commonDays n / 365 ≤ 399 ∧ yearStart (commonDays n / 365) ≤ n ∧
      (n < yearStart (commonDays n / 365 + 1) ∨ commonDays n / 365 = 399 ∧ n = 146096) := by
  have hF0 : 0 ≤ commonDays n / 365 := by unfold commonDays; omega
  have hF1 : commonDays n / 365 ≤ 399 := by unfold commonDays; omega
  obtain ⟨y, hy⟩ : ∃ y : Nat, commonDays n / 365 = y := ⟨(commonDays n / 365).toNat, by omega⟩
  have hy4 : y < 400 := by omega
  rw [hy] at hF0 hF1 ⊢
  refine ⟨hF0, hF1, ?_, ?_⟩
  · -- a day before the year's first counts fewer common days than the year's start
    obtain ⟨-, hbefore⟩ := commonDays_yearStart y hy4
    by_contra hlt
    rcases Nat.eq_zero_or_pos y with rfl | hpos
    · simp [yearStart] at hlt
      omega
    · have := commonDays_mono h0 (show n ≤ yearStart y - 1 by omega) (by unfold yearStart; omega)
      have := hbefore hpos
      omega
  · by_cases hlast : y = 399
    · subst hlast
      by_cases hn : n = 146096
      · exact .inr ⟨rfl, hn⟩
      · left
        simp [yearStart]
        omega
    · -- a day from the next year's first on counts at least the next year's start
      left
      by_contra hge
      obtain ⟨hnext, -⟩ := commonDays_yearStart (y + 1) (by omega)
      have hcast : ((y + 1 : Nat) : Int) = (y : Int) + 1 := by push_cast; rfl
      rw [hcast] at hnext
      have := commonDays_mono (show 0 ≤ yearStart ((y : Int) + 1) by unfold yearStart; omega)
        (show yearStart ((y : Int) + 1) ≤ n by omega) h1
      omega

/-- A year of 366 days ends where a leap day belongs: the next year is a leap year. -/
theorem leap_of_long_year {y : Int} (h : yearStart y + 365 < yearStart (y + 1)) :
    (y + 1) % 4 = 0 ∧ (y + 1) % 100 ≠ 0 := by
  unfold yearStart at h
  have h4 : (y + 1) / 4 = y / 4 + 1 := by omega
  refine ⟨by omega, fun h100 => ?_⟩
  have : (y + 1) / 100 = y / 100 + 1 := by omega
  omega

theorem isLeapYear_iff (y : Int) : isLeapYear y = true ↔ (y % 4 = 0 ∧ y % 100 ≠ 0) ∨ y % 400 = 0 := by
  simp [isLeapYear]

theorem civilFromDays_eq (z : Int) :
    civilFromDays z =
      let era := (z + 719468) / 146097
      let doe := z + 719468 - era * 146097
      let yoe := commonDays doe / 365
      let doy := doe - yearStart yoe
      let mp := (5 * doy + 2) / 153
      let d := doy - (153 * mp + 2) / 5 + 1
      let m := if mp < 10 then mp + 3 else mp - 9
      (if m ≤ 2 then yoe + era * 400 + 1 else yoe + era * 400, m.toNat, d.toNat) :=
  rfl

/-- The date of a day count is a real date, and counting its days gives the count back. -/
theorem civilFromDays_spec (z : Int) :
    let c := civilFromDays z
    (1 ≤ c.2.1 ∧ c.2.1 ≤ 12) ∧ (1 ≤ c.2.2 ∧ c.2.2 ≤ daysInMonth c.1 c.2.1) ∧
      daysFromCivil c.1 c.2.1 c.2.2 = z := by
  intro c
  simp only [c, civilFromDays_eq]
  -- the day of the era, the year of the era and the day of that year, each with its bounds
  have hdoe0 : 0 ≤ z + 719468 - (z + 719468) / 146097 * 146097 := by omega
  have hdoe1 : z + 719468 - (z + 719468) / 146097 * 146097 ≤ 146096 := by omega
  have hz : z + 719468 = (z + 719468) / 146097 * 146097 +
      (z + 719468 - (z + 719468) / 146097 * 146097) := by omega
  generalize (z + 719468) / 146097 = era at hdoe0 hdoe1 hz ⊢
  generalize z + 719468 - era * 146097 = doe at hdoe0 hdoe1 hz ⊢
  obtain ⟨hy0, hy1, hys, hye⟩ := yearOfEra_spec hdoe0 hdoe1
  generalize commonDays doe / 365 = yoe at hy0 hy1 hys hye ⊢
  have hdoy0 : 0 ≤ doe - yearStart yoe := by omega
  have hdoy1 : doe - yearStart yoe ≤ 365 := by unfold yearStart at *; omega
  generalize hdoy : doe - yearStart yoe = doy at hdoy0 hdoy1 ⊢
  generalize hmp : (5 * doy + 2) / 153 = mp
  generalize hd : doy - (153 * mp + 2) / 5 + 1 = d
  have hmp0 : 0 ≤ mp := by omega
  have hmp1 : mp ≤ 11 := by omega
  have hd0 : 1 ≤ d := by omega
  unfold yearStart at hys hye hdoy
  have hera : (yoe + era * 400) / 400 = era := by omega
  -- one case per month, counted from March
  interval_cases mp
  case «11» =>
    simp [daysInMonth, daysFromCivil, hera]
    split_ifs with hleap
    · omega
    · -- only a leap year reaches the 366th day of its March-based year
      have h28 : d ≤ 28 := by
        by_contra h29
        refine hleap ((isLeapYear_iff _).2 ?_)
        rcases hye with hlt | ⟨rfl, rfl⟩
        · obtain ⟨h4, h100⟩ := leap_of_long_year (y := yoe) (by unfold yearStart; omega)
          left
          omega
        · right
          omega
      omega
  all_goals simp [daysInMonth, daysFromCivil, hera]
  all_goals omega

end DocStore.Instant
