import MetricRelay.Time.Civil

-- The calendar keeps the order of the days: a later day has a later date, by year, month and day.

namespace MetricRelay.Date

def Before (d e : Date) : Prop :=
  d.year < e.year ∨ d.year = e.year ∧ (d.month < e.month ∨ d.month = e.month ∧ d.day < e.day)

-- Where a day stands in the calendar that counts its years from March: 400 years make an era.

def era (days : Int) : Int := (days + 719468) / 146097

def dayOfEra (days : Int) : Nat := ((days + 719468) % 146097).toNat

def yearOfEra (n : Nat) : Nat := (n - n / 1460 + n / 36524 - n / 146096) / 365

-- The day of an era on which a year of it begins.
def yearStart (year : Nat) : Nat := 365 * year + year / 4 - year / 100

def dayOfYear (n : Nat) : Nat := n - yearStart (yearOfEra n)

def monthFromMarch (n : Nat) : Nat := (5 * dayOfYear n + 2) / 153

theorem dayOfEra_lt (days : Int) : dayOfEra days < 146097 := by
  unfold dayOfEra
  omega

section

variable {m n : Nat}

-- The last day of an era stands alone, as the only one of its fifth century.
theorem yearOfEra_spec (hn : n < 146097) :
    yearOfEra n < 400 ∧ yearStart (yearOfEra n) ≤ n ∧ n ≤ yearStart (yearOfEra n) + 365 := by
  by_cases hlast : n = 146096
  · subst hlast
    decide
  · have hcentury : n / 36524 = 0 ∨ n / 36524 = 1 ∨ n / 36524 = 2 ∨ n / 36524 = 3 := by omega
    have hleap : n / 146096 = 0 := by omega
    have hyear : yearOfEra n / 100 = n / 36524 := by
      unfold yearOfEra
      omega
    unfold yearStart
    unfold yearOfEra at hyear ⊢
    omega

theorem yearOfEra_mono (h : m < n) (hn : n < 146097) : yearOfEra m ≤ yearOfEra n := by
  apply Nat.div_le_div_right
  omega

theorem monthFromMarch_lt (hn : n < 146097) : monthFromMarch n < 12 := by
  have hspec := yearOfEra_spec hn
  unfold monthFromMarch dayOfYear
  omega

end

theorem year_ofDays (days : Int) :
    (ofDays days).year = yearOfEra (dayOfEra days) + era days * 400 +
      (if (ofDays days).month ≤ 2 then 1 else 0) := rfl

theorem month_ofDays (days : Int) :
    (ofDays days).month =
      if monthFromMarch (dayOfEra days) < 10 then monthFromMarch (dayOfEra days) + 3
      else monthFromMarch (dayOfEra days) - 9 := rfl

theorem day_ofDays (days : Int) :
    (ofDays days).day =
      dayOfYear (dayOfEra days) - (153 * monthFromMarch (dayOfEra days) + 2) / 5 + 1 := rfl

theorem month_bounds (days : Int) : 1 ≤ (ofDays days).month ∧ (ofDays days).month ≤ 12 := by
  have hmonth := monthFromMarch_lt (dayOfEra_lt days)
  rw [month_ofDays]
  split <;> omega

theorem day_le (days : Int) : (ofDays days).day ≤ 31 := by
  have hmonth : monthFromMarch (dayOfEra days) = (5 * dayOfYear (dayOfEra days) + 2) / 153 := rfl
  rw [day_ofDays]
  omega

-- Counted in months, the two beginnings of a year are three months apart.
theorem months_ofDays (days : Int) :
    12 * (ofDays days).year + (ofDays days).month =
      12 * (yearOfEra (dayOfEra days) + era days * 400) + monthFromMarch (dayOfEra days) + 3 := by
  have hmonth := monthFromMarch_lt (dayOfEra_lt days)
  rw [year_ofDays, month_ofDays]
  split <;> split <;> omega

theorem ofDays_before {m n : Int} (h : m < n) : (ofDays m).Before (ofDays n) := by
  have hm := month_bounds m
  have hn := month_bounds n
  -- the months in order, or the days of one month
  have horder : 12 * (ofDays m).year + (ofDays m).month <
        12 * (ofDays n).year + (ofDays n).month ∨
      12 * (ofDays m).year + (ofDays m).month = 12 * (ofDays n).year + (ofDays n).month ∧
        (ofDays m).day < (ofDays n).day := by
    rw [months_ofDays, months_ofDays, day_ofDays, day_ofDays]
    have hlast := yearOfEra_spec (dayOfEra_lt m)
    have hfirst := yearOfEra_spec (dayOfEra_lt n)
    have hmonth := monthFromMarch_lt (dayOfEra_lt m)
    have hera : era m < era n ∨ era m = era n ∧ dayOfEra m < dayOfEra n := by
      unfold era dayOfEra
      omega
    rcases hera with hera | ⟨hera, hday⟩
    · omega
    · have hyear := yearOfEra_mono hday (dayOfEra_lt n)
      rcases Nat.lt_or_eq_of_le hyear with hyear | hyear
      · omega
      · rw [hyear] at hlast
        have hdays : dayOfYear (dayOfEra m) < dayOfYear (dayOfEra n) := by
          rw [dayOfYear, dayOfYear, hyear]
          omega
        have hmarch : ∀ k, monthFromMarch k = (5 * dayOfYear k + 2) / 153 := fun _ => rfl
        rw [hmarch, hmarch, hera, hyear]
        omega
  unfold Before
  omega

end MetricRelay.Date
