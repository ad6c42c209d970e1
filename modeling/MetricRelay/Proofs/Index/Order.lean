import Mathlib.Algebra.Ring.Nat
import MetricRelay.Proofs.Index.Name
import MetricRelay.Proofs.Text.Bytes
import MetricRelay.Proofs.Time.Civil

-- The order of index names. Names of days sort as the days do, as long as years have four digits,
-- and so do those that are made of readings of a clock; the name of a generation stands before a
-- day's or after it as its first four digits, taken for a year, would have it.

namespace MetricRelay

namespace Decimal

theorem digitValue_lt_ten {c : Char} (h : c.isDigit = true) : digitValue c < 10 := by
  simp only [Char.isDigit, Bool.and_eq_true, decide_eq_true_eq, ge_iff_le,
    UInt32.le_iff_toNat_le] at h
  change c.val.toNat - 48 < 10
  have htop : ('9' : Char).val.toNat = 57 := rfl
  omega

theorem toNat_eq_digitValue {c : Char} (h : c.isDigit = true) : c.toNat = digitValue c + 48 := by
  simp only [Char.isDigit, Bool.and_eq_true, decide_eq_true_eq, ge_iff_le,
    UInt32.le_iff_toNat_le] at h
  change c.val.toNat = c.val.toNat - 48 + 48
  have hbase : ('0' : Char).val.toNat = 48 := rfl
  omega

theorem lt_iff_digitValue_lt {c d : Char} (hc : c.isDigit = true) (hd : d.isDigit = true) :
    c < d ↔ digitValue c < digitValue d := by
  rw [Char.lt_def, UInt32.lt_iff_toNat_lt]
  change c.toNat < d.toNat ↔ _
  rw [toNat_eq_digitValue hc, toNat_eq_digitValue hd]
  omega

theorem eq_of_digitValue_eq {c d : Char} (hc : c.isDigit = true) (hd : d.isDigit = true)
    (h : digitValue c = digitValue d) : c = d := by
  apply Char.toNat_inj.mp
  rw [toNat_eq_digitValue hc, toNat_eq_digitValue hd, h]

variable {cs ds s t : List Char}

-- The induction carries the numbers read so far: once they differ, nothing behind them counts.
private theorem foldl_digits_lt (hcs : ∀ c ∈ cs, c.isDigit = true)
    (hds : ∀ d ∈ ds, d.isDigit = true) (hlength : cs.length = ds.length) {i j : Nat}
    (h : cs.foldl (fun n c => 10 * n + digitValue c) i <
        ds.foldl (fun n c => 10 * n + digitValue c) j ∨
      cs.foldl (fun n c => 10 * n + digitValue c) i =
        ds.foldl (fun n c => 10 * n + digitValue c) j ∧ s < t) :
    i < j ∨ i = j ∧ cs ++ s < ds ++ t := by
  induction cs generalizing ds i j with
  | nil =>
    obtain rfl := List.length_eq_zero_iff.mp hlength.symm
    exact h
  | cons c cs ih =>
    cases ds with
    | nil => cases hlength
    | cons d ds =>
      have hc := hcs c List.mem_cons_self
      have hd := hds d List.mem_cons_self
      simp only [List.foldl_cons] at h
      have hcten := digitValue_lt_ten hc
      have hdten := digitValue_lt_ten hd
      rw [List.cons_append, List.cons_append, List.cons_lt_cons_iff, lt_iff_digitValue_lt hc hd]
      rcases ih (fun e he => hcs e (List.mem_cons_of_mem c he))
          (fun e he => hds e (List.mem_cons_of_mem d he)) (Nat.succ.inj hlength) h with
        hlt | ⟨heq, hrest⟩
      · omega
      · have hij : i = j := by omega
        exact .inr ⟨hij, .inr ⟨eq_of_digitValue_eq hc hd (by omega), hrest⟩⟩

-- Digits sort as the numbers that they are, if there are as many of them.
theorem digits_append_lt (hcs : ∀ c ∈ cs, c.isDigit = true) (hds : ∀ d ∈ ds, d.isDigit = true)
    (hlength : cs.length = ds.length)
    (h : readDigits cs < readDigits ds ∨ readDigits cs = readDigits ds ∧ s < t) :
    cs ++ s < ds ++ t := by
  rcases foldl_digits_lt hcs hds hlength h with hlt | ⟨_, hlt⟩
  · cases hlt
  · exact hlt

end Decimal

namespace Date

theorem length_padded {width n : Nat} (hwidth : 0 < width) (hn : n < 10 ^ width) :
    (padded width n).length = width := by
  have hdigits : (Nat.toDigits 10 n).length ≤ width :=
    (Nat.length_toDigits_le_iff (by omega) hwidth).mpr hn
  rw [padded, List.length_append, List.length_replicate]
  omega

theorem padded_append_lt {width m n : Nat} {s t : List Char} (hwidth : 0 < width)
    (hm : m < 10 ^ width) (hn : n < 10 ^ width) (h : m < n ∨ m = n ∧ s < t) :
    padded width m ++ s < padded width n ++ t := by
  refine Decimal.digits_append_lt (fun _ => isDigit_of_mem_padded)
    (fun _ => isDigit_of_mem_padded) ?_ ?_
  · rw [length_padded hwidth hm, length_padded hwidth hn]
  · rw [readDigits_padded, readDigits_padded]
    exact h

-- Years that are written with four digits and no sign.
def Unsigned (d : Date) : Prop := 0 ≤ d.year ∧ d.year ≤ 9999

instance (d : Date) : Decidable d.Unsigned :=
  inferInstanceAs (Decidable (0 ≤ d.year ∧ d.year ≤ 9999))

theorem dotted_of_unsigned {d : Date} (h : d.Unsigned) :
    d.dotted = padded 4 d.year.toNat ++ '.' :: (padded 2 d.month ++ '.' :: padded 2 d.day) := by
  obtain ⟨hlow, hhigh⟩ := h
  rw [dotted, yearChars, if_pos ⟨hlow, hhigh⟩]

theorem dotted_lt {m n : Int} (hm : (ofDays m).Unsigned) (hn : (ofDays n).Unsigned)
    (h : m < n) : (ofDays m).dotted < (ofDays n).dotted := by
  have hmonth := month_bounds m
  have hmonth' := month_bounds n
  have hday := day_le m
  have hday' := day_le n
  rw [dotted_of_unsigned hm, dotted_of_unsigned hn]
  obtain ⟨_, _⟩ := hm
  obtain ⟨_, _⟩ := hn
  refine padded_append_lt (by omega) (by omega) (by omega) ?_
  rcases ofDays_before h with hyear | ⟨hyear, hrest⟩
  · exact .inl (by omega)
  · refine .inr ⟨by omega, List.cons_lt_cons_iff.mpr (.inr ⟨rfl, ?_⟩)⟩
    refine padded_append_lt (by omega) (by omega) (by omega) ?_
    rcases hrest with hmonths | ⟨hmonths, hdays⟩
    · exact .inl hmonths
    · refine .inr ⟨hmonths, List.cons_lt_cons_iff.mpr (.inr ⟨rfl, ?_⟩)⟩
      have hlast : padded 2 (ofDays m).day ++ [] < padded 2 (ofDays n).day ++ [] :=
        padded_append_lt (by omega) (by omega) (by omega) (.inl hdays)
      rwa [List.append_nil, List.append_nil] at hlast

end Date

-- Years of four digits are in the calendar.
theorem Instant.date_of_unsigned {ms : Int} (h : (Date.ofDays (ms / 86400000)).Unsigned) :
    date ms = Date.ofDays (ms / 86400000) := by
  have hcalendar : inCalendar ms = true := by
    obtain ⟨hlow, hhigh⟩ := h
    change decide (-262143 ≤ (Date.ofDays (ms / 86400000)).year ∧
      (Date.ofDays (ms / 86400000)).year ≤ 262142) = true
    exact decide_eq_true (by omega)
  rw [date, clamp, if_pos hcalendar]
  rfl

namespace Index

variable {aliasName index other : String}

private theorem lt_of_suffix_lt {suffix suffix' : List Char}
    (hi : index.toList = (aliasName.toList ++ ['-']) ++ suffix)
    (ho : other.toList = (aliasName.toList ++ ['-']) ++ suffix') (h : suffix < suffix') :
    index < other := by
  rw [String.lt_iff, hi, ho]
  exact List.append_left_lt h

private theorem le_of_lt (h : index < other) : index ≤ other :=
  String.not_lt.mp fun hgt => String.lt_asymm hgt h

theorem dailyName_lt {m n : Int} (hm : (Date.ofDays m).Unsigned) (hn : (Date.ofDays n).Unsigned)
    (h : m < n) : dailyName aliasName (.ofDays m) < dailyName aliasName (.ofDays n) :=
  lt_of_suffix_lt (toList_dailyName _ _) (toList_dailyName _ _) (Date.dotted_lt hm hn h)

theorem dailyName_le_iff {m n : Int} (hm : (Date.ofDays m).Unsigned)
    (hn : (Date.ofDays n).Unsigned) :
    dailyName aliasName (.ofDays m) ≤ dailyName aliasName (.ofDays n) ↔ m ≤ n := by
  constructor
  · intro hle
    exact Int.not_lt.mp fun hlt => String.not_le.mpr (dailyName_lt hn hm hlt) hle
  · intro hle
    rcases Int.lt_or_eq_of_le hle with hlt | rfl
    · exact le_of_lt (dailyName_lt hm hn hlt)
    · exact String.le_refl _

theorem dailyName_eq_iff {m n : Int} (hm : (Date.ofDays m).Unsigned)
    (hn : (Date.ofDays n).Unsigned) :
    dailyName aliasName (.ofDays m) = dailyName aliasName (.ofDays n) ↔ m = n := by
  refine ⟨fun h => ?_, fun h => by rw [h]⟩
  have hle := (@dailyName_le_iff aliasName _ _ hm hn).mp h.le
  have hge := (@dailyName_le_iff aliasName _ _ hn hm).mp h.symm.le
  omega

-- Whatever the time of day, and also before 1970, where readings are negative: a later reading never
-- makes a name whose bytes come earlier, and two readings make one name exactly if they are of one
-- UTC day.
theorem dailyName_follows_clock (aliasName : String) (t u : Int64)
    (ht : (Date.ofDays (t.toInt / 86400000)).Unsigned)
    (hu : (Date.ofDays (u.toInt / 86400000)).Unsigned) :
    let name (ms : Int64) := dailyName aliasName (Instant.date ms.toInt)
    (t ≤ u → (name t).toUTF8.data.toList ≤ (name u).toUTF8.data.toList) ∧
    ((name t).toUTF8.data.toList ≤ (name u).toUTF8.data.toList ↔
      t.toInt / 86400000 ≤ u.toInt / 86400000) ∧
    (name t = name u ↔ t.toInt / 86400000 = u.toInt / 86400000) := by
  intro name
  have horder : (name t).toUTF8.data.toList ≤ (name u).toUTF8.data.toList ↔
      t.toInt / 86400000 ≤ u.toInt / 86400000 := by
    rw [← Text.le_iff_bytes_le, ← dailyName_le_iff ht hu, ← Instant.date_of_unsigned ht,
      ← Instant.date_of_unsigned hu]
  refine ⟨fun hle => ?_, horder, ?_⟩
  · have hdays : t.toInt / 86400000 ≤ u.toInt / 86400000 :=
      Int.ediv_le_ediv (by omega) (Int64.le_iff_toInt_le.mp hle)
    exact horder.mpr hdays
  · rw [← dailyName_eq_iff ht hu, ← Instant.date_of_unsigned ht, ← Instant.date_of_unsigned hu]

-- The last millisecond before 1970 belongs to the last day of 1969, as its first one does.
theorem dailyName_follows_clock_of_new_year :
    let name (ms : Int64) := dailyName "m" (Instant.date ms.toInt)
    name (-86400000) = name (-1) ∧ name (-1) ≠ name 0 ∧
      (name (-1)).toUTF8.data.toList ≤ (name 0).toUTF8.data.toList := by
  have hfirst : (Date.ofDays ((-86400000 : Int64).toInt / 86400000)).Unsigned := by decide
  have hlast : (Date.ofDays ((-1 : Int64).toInt / 86400000)).Unsigned := by decide
  have hnext : (Date.ofDays ((0 : Int64).toInt / 86400000)).Unsigned := by decide
  obtain ⟨-, -, hday⟩ := dailyName_follows_clock "m" (-86400000) (-1) hfirst hlast
  obtain ⟨hlater, -, hdays⟩ := dailyName_follows_clock "m" (-1) 0 hlast hnext
  exact ⟨hday.mpr (by decide), fun h => absurd (hdays.mp h) (by decide), hlater (by decide)⟩

-- The digits of a generation's name that stand where a day's name has its year.

def yearDigits (generation : Nat) : List Char :=
  (Date.padded generationWidth generation).take 4

def leadingYear (generation : Nat) : Nat := Decimal.readDigits (yearDigits generation)

section

variable (g : Nat)

theorem isDigit_of_mem_yearDigits {c : Char} (h : c ∈ yearDigits g) : c.isDigit = true :=
  Date.isDigit_of_mem_padded (List.mem_of_mem_take h)

theorem length_yearDigits : (yearDigits g).length = 4 := by
  have hwidth := Date.le_length_padded generationWidth g
  rw [yearDigits, List.length_take]
  unfold generationWidth at *
  omega

-- At least two digits follow, and a dot sorts before every digit.
theorem dot_lt_drop (suffix : List Char) :
    '.' :: suffix < (Date.padded generationWidth g).drop 4 := by
  cases hdrop : (Date.padded generationWidth g).drop 4 with
  | nil =>
    have hwidth := Date.le_length_padded generationWidth g
    have hlength := congrArg List.length hdrop
    rw [List.length_drop, List.length_nil] at hlength
    unfold generationWidth at *
    omega
  | cons c cs =>
    have hmem := List.mem_of_mem_drop (hdrop ▸ List.mem_cons_self)
    have hc := Decimal.toNat_eq_digitValue (Date.isDigit_of_mem_padded hmem)
    refine List.cons_lt_cons_iff.mpr (.inl ?_)
    rw [Char.lt_def, UInt32.lt_iff_toNat_lt]
    change 46 < c.toNat
    omega

theorem dailyName_le_generationName_iff {day : Date} (hday : day.Unsigned) :
    dailyName aliasName day ≤ generationName aliasName g ↔ day.year ≤ leadingYear g := by
  have hgeneration := toList_generationName aliasName g
  rw [← List.take_append_drop 4 (Date.padded generationWidth g)] at hgeneration
  have hdaily := toList_dailyName aliasName day
  rw [Date.dotted_of_unsigned hday] at hdaily
  obtain ⟨_, _⟩ := hday
  have hdigits : ∀ c ∈ yearDigits g, c.isDigit = true := fun _ => isDigit_of_mem_yearDigits g
  have hyear : ∀ c ∈ Date.padded 4 day.year.toNat, c.isDigit = true :=
    fun _ => Date.isDigit_of_mem_padded
  have hlength : (yearDigits g).length = (Date.padded 4 day.year.toNat).length := by
    rw [length_yearDigits, Date.length_padded (by omega) (by omega)]
  constructor
  · intro hle
    refine Int.not_lt.mp fun hlt => String.not_le.mpr (lt_of_suffix_lt hgeneration hdaily ?_) hle
    refine Decimal.digits_append_lt hdigits hyear hlength (.inl ?_)
    rw [Date.readDigits_padded]
    change leadingYear g < _
    omega
  · intro hle
    refine le_of_lt (lt_of_suffix_lt hdaily hgeneration ?_)
    refine Decimal.digits_append_lt hyear hdigits hlength.symm ?_
    rw [Date.readDigits_padded]
    change day.year.toNat < leadingYear g ∨ day.year.toNat = leadingYear g ∧ _
    have hle' : day.year.toNat ≤ leadingYear g := by omega
    exact (Nat.lt_or_eq_of_le hle').imp id fun heq => ⟨heq, dot_lt_drop g _⟩

theorem generationName_ne_dailyName (day : Date) :
    generationName aliasName g ≠ dailyName aliasName day := by
  intro he
  have hlist := congrArg String.toList he
  rw [toList_generationName, toList_dailyName, List.append_cancel_left_eq] at hlist
  have hdot : '.' ∈ Date.padded generationWidth g := hlist ▸ Date.dot_mem_dotted day
  exact absurd (Date.isDigit_of_mem_padded hdot) (by decide)

end

end Index

end MetricRelay
