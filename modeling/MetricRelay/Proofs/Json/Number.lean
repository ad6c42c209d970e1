import MetricRelay.Json.Printer
import MetricRelay.Json.Spelling

-- Numbers as they are written and read. Every number that is written, whole or with a fraction or
-- an exponent, follows the grammar of JSON, and a reader takes all of it and nothing more.

namespace MetricRelay

-- Digits.

-- A run of digits that is not empty.
def Digits (cs : List Char) : Prop := cs ≠ [] ∧ ∀ c ∈ cs, c.isDigit = true

namespace Decimal

theorem digits_digitChars (n : Nat) : Digits (digitChars n) :=
  ⟨Nat.toDigits_ne_nil, fun _ => Nat.isDigit_of_mem_toDigits (by omega) (by omega)⟩

-- Only zero starts with a zero.
theorem eq_zero_of_head_digitChars {n : Nat} (h : (digitChars n).head? = some '0') : n = 0 := by
  induction n using Nat.strongRecOn with
  | ind n ih =>
    rw [digitChars, Nat.toDigits_eq_if (by omega)] at h
    split at h
    · simpa using h
    · rename_i hmore
      rw [List.head?_append, Option.or_of_isSome (List.isSome_head?.mpr Nat.toDigits_ne_nil)] at h
      have htenth : n / 10 = 0 := ih (n / 10) (by omega) h
      omega

theorem readDigits_digitChars (n : Nat) : readDigits (digitChars n) = n :=
  Nat.ofDigitChars_ten_toDigits

end Decimal

namespace Json

-- What may follow a number: nothing that the number could go on with.
def Stops (rest : List Char) : Prop :=
  ∀ c ∈ rest.head?, c.isDigit = false ∧ c ≠ '.' ∧ c ≠ 'e' ∧ c ≠ 'E'

theorem stops_nil : Stops [] := by simp [Stops]

theorem splitDigits_append {ds rest : List Char} (hds : ∀ c ∈ ds, c.isDigit = true)
    (hrest : ∀ c ∈ rest.head?, c.isDigit = false) : splitDigits (ds ++ rest) = (ds, rest) := by
  have htake : rest.takeWhile Char.isDigit = [] ∧ rest.dropWhile Char.isDigit = rest := by
    cases rest with
    | nil => exact ⟨rfl, rfl⟩
    | cons c rest => simp [hrest c rfl]
  rw [splitDigits, List.takeWhile_append_of_pos hds, List.dropWhile_append_of_pos hds, htake.1,
    htake.2, List.append_nil]

namespace NumberText

-- A number as it is spelled, its exponent always with a sign.

def fractionChars : Option (List Char) → List Char
  | none => []
  | some digits => '.' :: digits

def exponentChars : Option (Bool × List Char) → List Char
  | none => []
  | some (negative, digits) => 'e' :: (if negative then '-' else '+') :: digits

def chars (t : NumberText) : List Char :=
  Decimal.signChars t.negative ++
    (t.whole ++ (fractionChars t.fraction ++ exponentChars t.exponent))

-- The grammar of JSON.
structure WellFormed (t : NumberText) : Prop where
  whole : Digits t.whole
  leading : ∀ c rest, t.whole ≠ '0' :: c :: rest
  fraction : ∀ digits ∈ t.fraction, Digits digits
  exponent : ∀ e ∈ t.exponent, Digits e.2

theorem exponent?_exponentChars {e : Option (Bool × List Char)} {rest : List Char}
    (he : ∀ p ∈ e, Digits p.2) (hrest : Stops rest) :
    exponent? (exponentChars e ++ rest) = some (e, rest) := by
  cases e with
  | none =>
    cases rest with
    | nil => rfl
    | cons c rest =>
      obtain ⟨_, _, hlower, hupper⟩ := hrest c rfl
      show exponent? (c :: rest) = some (none, c :: rest)
      simp [exponent?, hlower, hupper]
  | some p =>
    obtain ⟨negative, digits⟩ := p
    obtain ⟨hne, hdigits⟩ := he _ rfl
    have hsplit := splitDigits_append hdigits fun c hc => (hrest c hc).1
    cases negative <;>
      simp [exponentChars, exponent?, Decimal.splitSign, hsplit, hne]

theorem fraction?_fractionChars {f : Option (List Char)} {rest : List Char}
    (hf : ∀ digits ∈ f, Digits digits)
    (hrest : ∀ c ∈ rest.head?, c.isDigit = false ∧ c ≠ '.') :
    fraction? (fractionChars f ++ rest) = some (f, rest) := by
  cases f with
  | none =>
    cases rest with
    | nil => rfl
    | cons c rest =>
      have hpoint := (hrest c rfl).2
      show fraction? (c :: rest) = some (none, c :: rest)
      unfold fraction?
      split
      · rename_i h
        cases h
        exact absurd rfl hpoint
      · rfl
  | some digits =>
    obtain ⟨hne, hdigits⟩ := hf digits rfl
    have hsplit := splitDigits_append hdigits fun c hc => (hrest c hc).1
    simp [fractionChars, fraction?, hsplit, hne]

-- An exponent starts with its letter, so the digits in front of it end there.
theorem head_exponentChars {e : Option (Bool × List Char)} {rest : List Char}
    (hrest : Stops rest) :
    ∀ c ∈ (exponentChars e ++ rest).head?, c.isDigit = false ∧ c ≠ '.' := by
  intro c hc
  cases e with
  | none => exact ⟨(hrest c hc).1, (hrest c hc).2.1⟩
  | some p =>
    simp only [exponentChars, List.cons_append, List.head?_cons, Option.mem_some_iff] at hc
    subst hc
    decide

theorem head_fractionChars {f : Option (List Char)} {rest : List Char}
    (hrest : ∀ c ∈ rest.head?, c.isDigit = false ∧ c ≠ '.') :
    ∀ c ∈ (fractionChars f ++ rest).head?, c.isDigit = false := by
  intro c hc
  cases f with
  | none => exact (hrest c hc).1
  | some digits =>
    simp only [fractionChars, List.cons_append, List.head?_cons, Option.mem_some_iff] at hc
    subst hc
    decide

theorem number?_chars {t : NumberText} {rest : List Char} (ht : t.WellFormed)
    (hrest : Stops rest) : number? (t.chars ++ rest) = some (t, rest) := by
  obtain ⟨negative, whole, fraction, exponent⟩ := t
  obtain ⟨⟨hne, hwhole⟩, hleading, hfraction, hexponent⟩ := ht
  simp only at hne hwhole hleading hfraction hexponent
  have hexp := exponent?_exponentChars hexponent hrest
  have hhead := head_exponentChars (e := exponent) hrest
  have hfrac := fraction?_fractionChars hfraction hhead
  have hsplit := splitDigits_append hwhole (head_fractionChars (f := fraction) hhead)
  have hunsigned : ∀ cs, whole ++ (fractionChars fraction ++ (exponentChars exponent ++ rest)) ≠
      '-' :: cs := by
    intro cs hcs
    obtain ⟨c, more, rfl⟩ := List.exists_cons_of_ne_nil hne
    rw [List.cons_append, List.cons.injEq] at hcs
    exact absurd (hwhole '-' (hcs.1 ▸ List.mem_cons_self)) (by decide)
  simp only [chars, List.append_assoc]
  cases negative
  case' false => rw [Decimal.signChars, if_neg Bool.false_ne_true, List.nil_append, number?]
  case' true => rw [Decimal.signChars, if_pos rfl, List.singleton_append, number?]
  case x_1 => exact hunsigned
  all_goals
    rw [hsplit]
    -- the whole part is neither empty nor a zero before another digit
    simp only [hfrac, hexp, Option.bind_eq_bind, Option.bind_some, Option.pure_def]

-- A number starts with its sign or with a digit.
theorem chars_head {t : NumberText} (ht : t.WellFormed) (rest : List Char) :
    ∃ c more, t.chars ++ rest = c :: more ∧ (c = '-' ∨ c.isDigit = true) := by
  obtain ⟨d, others, hd⟩ := List.exists_cons_of_ne_nil ht.whole.1
  have hdigit : d.isDigit = true := ht.whole.2 d (hd ▸ List.mem_cons_self)
  cases hsign : t.negative with
  | false =>
    exact ⟨d, others ++ (fractionChars t.fraction ++ exponentChars t.exponent) ++ rest,
      by simp [chars, hsign, hd, Decimal.signChars], .inr hdigit⟩
  | true =>
    exact ⟨'-', t.whole ++ (fractionChars t.fraction ++ exponentChars t.exponent) ++ rest,
      by simp [chars, hsign, Decimal.signChars], .inl rfl⟩

end NumberText

-- The numbers that are written.

def intNumber (i : Int) : NumberText :=
  ⟨decide (i < 0), Decimal.digitChars i.natAbs, none, none⟩

theorem chars_intNumber (i : Int) : (intNumber i).chars = intChars i := by
  by_cases hi : i < 0 <;>
    simp [NumberText.chars, intNumber, intChars, hi, Decimal.signChars,
      NumberText.fractionChars, NumberText.exponentChars]

theorem intNumber_wellFormed (i : Int) : (intNumber i).WellFormed where
  whole := Decimal.digits_digitChars i.natAbs
  leading := by
    intro c rest h
    have hzero : i.natAbs = 0 := Decimal.eq_zero_of_head_digitChars (congrArg List.head? h)
    rw [intNumber, hzero] at h
    cases h
  fraction := by simp [intNumber]
  exponent := by simp [intNumber]

-- The parts of a positional decimal: its digits have a point among them, or zeros up to it.
def positionalNumber (negative : Bool) (digits : List Char) (lead : Int) : NumberText :=
  if lead < 0 then
    ⟨negative, ['0'], some (List.replicate (-lead - 1).toNat '0' ++ digits), none⟩
  else
    let whole := lead.toNat + 1
    if digits.length ≤ whole then
      ⟨negative, digits ++ List.replicate (whole - digits.length) '0', some ['0'], none⟩
    else ⟨negative, digits.take whole, some (digits.drop whole), none⟩

theorem chars_positionalNumber (negative : Bool) (digits : List Char) (lead : Int) :
    (positionalNumber negative digits lead).chars =
      Decimal.signChars negative ++ Decimal.positional digits lead := by
  unfold positionalNumber Decimal.positional NumberText.chars
  split
  · simp [NumberText.fractionChars, NumberText.exponentChars]
  · simp only
    split <;> simp [NumberText.fractionChars, NumberText.exponentChars]

theorem isDigit_of_mem_zeros {k : Nat} {c : Char} (h : c ∈ List.replicate k '0') :
    c.isDigit = true := by
  rw [List.eq_of_mem_replicate h]
  rfl

theorem isDigit_of_mem_append {cs ds : List Char} (hcs : ∀ c ∈ cs, c.isDigit = true)
    (hds : ∀ c ∈ ds, c.isDigit = true) : ∀ c ∈ cs ++ ds, c.isDigit = true := by
  intro c hc
  rcases List.mem_append.mp hc with h | h
  · exact hcs c h
  · exact hds c h

-- Zero has its only digit before the point.
theorem positionalNumber_wellFormed (negative : Bool) {n : Nat} {lead : Int}
    (hlead : n = 0 → lead = 0) :
    (positionalNumber negative (Decimal.digitChars n) lead).WellFormed := by
  obtain ⟨hne, hdigits⟩ := Decimal.digits_digitChars n
  have hzeros : ∀ k, ∀ c ∈ List.replicate k '0', c.isDigit = true := fun k c => isDigit_of_mem_zeros
  unfold positionalNumber
  split
  · refine ⟨⟨by simp, by simp⟩, by simp, ?_, by simp⟩
    rintro digits ⟨rfl⟩
    exact ⟨by simp [hne], isDigit_of_mem_append (hzeros _) hdigits⟩
  · simp only
    split
    · rename_i hlong
      refine ⟨⟨by simp [hne], isDigit_of_mem_append hdigits (hzeros _)⟩, ?_, ?_, by simp⟩
      · intro c rest h
        have hhead := congrArg List.head? h
        rw [List.head?_append, Option.or_of_isSome (List.isSome_head?.mpr hne)] at hhead
        have hzero := Decimal.eq_zero_of_head_digitChars hhead
        rw [hzero, hlead hzero] at h
        cases h
      · rintro digits ⟨rfl⟩
        exact ⟨by simp, by simp⟩
    · rename_i hlong
      refine ⟨⟨?_, fun c hc => hdigits c (List.mem_of_mem_take hc)⟩, ?_, ?_, by simp⟩
      · simp [hne]
      · intro c rest h
        have hhead := congrArg List.head? h
        rw [List.head?_take, if_neg (by omega)] at hhead
        have hzero := Decimal.eq_zero_of_head_digitChars hhead
        rw [hzero, hlead hzero] at hlong
        exact hlong (by decide)
      · rintro digits ⟨rfl⟩
        refine ⟨?_, fun c hc => hdigits c (List.mem_of_mem_drop hc)⟩
        rw [Ne, List.drop_eq_nil_iff]
        exact hlong

-- The parts of a decimal with an exponent.
def exponentialNumber (negative : Bool) (digits : List Char) (lead : Int) : NumberText :=
  ⟨negative, digits.take 1, if digits.length ≤ 1 then none else some (digits.drop 1),
    some (decide (lead < 0), Decimal.digitChars lead.natAbs)⟩

theorem chars_exponentialNumber (negative : Bool) (digits : List Char) (lead : Int) :
    (exponentialNumber negative digits lead).chars =
      Decimal.signChars negative ++ Decimal.exponential .json digits lead := by
  have hsign : (if decide (lead < 0) = true then '-' else '+') ::
      Decimal.digitChars lead.natAbs =
        (if lead < 0 then ['-'] else if Decimal.Style.json.plus then ['+'] else []) ++
          Decimal.digitChars lead.natAbs := by
    by_cases hlead : lead < 0 <;> simp [hlead, Decimal.Style.json]
  simp only [exponentialNumber, NumberText.chars, NumberText.exponentChars, hsign,
    Decimal.exponential]
  match digits with
  | [] => rfl
  | [d] => rfl
  | d :: e :: rest => simp [NumberText.fractionChars]

theorem exponentialNumber_wellFormed (negative : Bool) (n : Nat) (lead : Int) :
    (exponentialNumber negative (Decimal.digitChars n) lead).WellFormed := by
  obtain ⟨hne, hdigits⟩ := Decimal.digits_digitChars n
  refine ⟨⟨by simp [exponentialNumber, hne], fun c hc => hdigits c (List.mem_of_mem_take hc)⟩,
    ?_, ?_, ?_⟩
  · intro c rest h
    have hlength := congrArg List.length h
    simp only [exponentialNumber, List.length_take, List.length_cons] at hlength
    omega
  · intro digits hmem
    simp only [exponentialNumber] at hmem
    split at hmem
    · cases hmem
    · rename_i hlong
      obtain ⟨rfl⟩ := hmem
      refine ⟨?_, fun c hc => hdigits c (List.mem_of_mem_drop hc)⟩
      rw [Ne, List.drop_eq_nil_iff]
      exact hlong
  · rintro e ⟨rfl⟩
    exact Decimal.digits_digitChars _

-- The parts of a finite number as it is written.
def realNumber (x : Binary64) : NumberText :=
  let s := Decimal.shortest x
  let digits := Decimal.digitChars s.digits
  let lead := if s.digits = 0 then 0 else s.exponent + digits.length - 1
  if Decimal.Style.json.least ≤ lead ∧ lead ≤ Decimal.Style.json.greatest then
    positionalNumber x.isNegative digits lead
  else exponentialNumber x.isNegative digits lead

theorem chars_realNumber (x : Binary64) :
    (realNumber x).chars = Decimal.finiteChars .json x := by
  unfold realNumber Decimal.finiteChars
  simp only
  split <;> split <;> simp only [chars_positionalNumber, chars_exponentialNumber]

theorem realNumber_wellFormed (x : Binary64) : (realNumber x).WellFormed := by
  simp only [realNumber]
  by_cases hzero : (Decimal.shortest x).digits = 0
  · rw [if_pos hzero]
    split
    · exact positionalNumber_wellFormed _ fun _ => rfl
    · exact exponentialNumber_wellFormed _ _ _
  · rw [if_neg hzero]
    split
    · exact positionalNumber_wellFormed _ fun h => absurd h hzero
    · exact exponentialNumber_wellFormed _ _ _

end Json

end MetricRelay
