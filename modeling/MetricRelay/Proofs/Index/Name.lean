import MetricRelay.Index.Name

-- What the names of indices tell. A generation's name gives back its alias and its number, whatever
-- the alias is made of; a day's name is a generation of no alias.

namespace MetricRelay

theorem Date.readDigits_padded (width n : Nat) :
    Decimal.readDigits (Date.padded width n) = n := by
  have h : ∀ cs, Decimal.readDigits cs = Nat.ofDigitChars 10 cs 0 := fun _ => rfl
  rw [h, padded, Nat.ofDigitChars_append, Nat.ofDigitChars_replicate_zero, Nat.mul_zero,
    Nat.ofDigitChars_ten_toDigits]

theorem Date.isDigit_of_mem_padded {width n : Nat} {c : Char} (h : c ∈ Date.padded width n) :
    c.isDigit = true := by
  rcases List.mem_append.mp h with h | h
  · rw [List.eq_of_mem_replicate h]
    rfl
  · exact Nat.isDigit_of_mem_toDigits (by omega) (by omega) h

theorem Date.le_length_padded (width n : Nat) : width ≤ (Date.padded width n).length := by
  rw [padded, List.length_append, List.length_replicate]
  omega

theorem Date.dot_mem_dotted (d : Date) : '.' ∈ d.dotted := by
  simp [dotted]

namespace Index

-- The alias and a dash, then at least six decimal digits that make the number, and nothing else.
inductive Numbered (aliasName : String) (g : Nat) (index : String) : Prop
  | intro {digits : List Char} (whole : index.toList = aliasName.toList ++ '-' :: digits)
      (wide : 6 ≤ digits.length) (decimal : ∀ c ∈ digits, c.isDigit = true)
      (number : Nat.ofDigitChars 10 digits 0 = g)

section

variable {aliasName other index : String} {g k : Nat}

theorem after?_eq_some_iff {head cs rest : List Char} :
    after? head cs = some rest ↔ cs = head ++ rest := by
  rw [after?, Option.ite_none_right_eq_some, List.isPrefixOf_iff_prefix]
  constructor
  · rintro ⟨⟨suffix, rfl⟩, h⟩
    rw [List.drop_left, Option.some.injEq] at h
    rw [h]
  · rintro rfl
    exact ⟨List.prefix_append head rest, by rw [List.drop_left]⟩

-- Numbers of more than sixty-four bits are not read.
theorem generation?_eq_some_iff :
    generation? aliasName index = some g ↔ g < UInt64.size ∧ Numbered aliasName g index := by
  have hread : generation? aliasName index = some g ↔ ∃ digits,
      after? (aliasName.toList ++ ['-']) index.toList = some digits ∧
        ¬(digits.length < generationWidth || !digits.all Char.isDigit) = true ∧
        Nat.ofDigitChars 10 digits 0 < UInt64.size ∧ Nat.ofDigitChars 10 digits 0 = g := by
    simp only [generation?, Option.bind_eq_bind, Option.bind_eq_some_iff,
      Option.ite_none_left_eq_some, Option.ite_none_right_eq_some, Option.some.injEq]
    rfl
  simp only [hread, after?_eq_some_iff, List.append_assoc, List.singleton_append,
    Bool.or_eq_true, decide_eq_true_eq, Bool.not_eq_true', not_or, Nat.not_lt,
    Bool.not_eq_false, List.all_eq_true]
  constructor
  · rintro ⟨digits, hwhole, ⟨hwide, hdecimal⟩, hsize, rfl⟩
    exact ⟨hsize, hwhole, hwide, hdecimal, rfl⟩
  · rintro ⟨hsize, hwhole, hwide, hdecimal, rfl⟩
    exact ⟨_, hwhole, ⟨hwide, hdecimal⟩, hsize, rfl⟩

theorem toList_generationName (aliasName : String) (g : Nat) :
    (generationName aliasName g).toList =
      (aliasName.toList ++ ['-']) ++ Date.padded generationWidth g := by
  simp [generationName]

theorem toList_dailyName (aliasName : String) (day : Date) :
    (dailyName aliasName day).toList = (aliasName.toList ++ ['-']) ++ day.dotted := by
  simp [dailyName]

theorem numbered_generationName (aliasName : String) (g : Nat) :
    Numbered aliasName g (generationName aliasName g) := by
  refine ⟨?_, Date.le_length_padded generationWidth g, fun c => Date.isDigit_of_mem_padded,
    Date.readDigits_padded generationWidth g⟩
  rw [toList_generationName, List.append_assoc, List.singleton_append]

-- A text is split in one way only if what stands on the right has neither separator.
theorem append_cons_inj_of_right {a b s t : List Char} {x y : Char} (hx : x ∉ t) (hy : y ∉ s)
    (h : a ++ x :: s = b ++ y :: t) : a = b ∧ x = y ∧ s = t := by
  rcases List.append_eq_append_iff.mp h with ⟨more, rfl, hright⟩ | ⟨more, rfl, hright⟩
  · cases more with
    | nil => simpa using hright
    | cons c more =>
      obtain ⟨-, rfl⟩ := List.cons.inj hright
      exact absurd (List.mem_append_right more List.mem_cons_self) hy
  · cases more with
    | nil => simpa [eq_comm] using hright
    | cons c more =>
      obtain ⟨-, rfl⟩ := List.cons.inj hright
      exact absurd (List.mem_append_right more List.mem_cons_self) hx

-- The last dash of the name ends the alias, and the alias may have dashes and digits of its own.
theorem Numbered.unique (h : Numbered aliasName g index) (h' : Numbered other k index) :
    aliasName = other ∧ g = k := by
  obtain ⟨hwhole, -, hdecimal, rfl⟩ := h
  obtain ⟨hwhole', -, hdecimal', rfl⟩ := h'
  obtain ⟨halias, -, rfl⟩ := append_cons_inj_of_right
    (fun hdash => absurd (hdecimal' _ hdash) (by decide))
    (fun hdash => absurd (hdecimal _ hdash) (by decide)) (hwhole.symm.trans hwhole')
  exact ⟨String.toList_inj.mp halias, rfl⟩

-- The day of the month follows a dot, and no dash follows that.
theorem not_numbered_dailyName (aliasName other : String) (day : Date) (g : Nat) :
    ¬Numbered other g (dailyName aliasName day) := by
  rintro ⟨hwhole, -, hdecimal, -⟩
  have hdotted : (dailyName aliasName day).toList =
      (aliasName.toList ++ '-' :: (Date.yearChars day.year ++ '.' :: Date.padded 2 day.month)) ++
        '.' :: Date.padded 2 day.day := by
    simp [toList_dailyName, Date.dotted]
  obtain ⟨-, hsame, -⟩ := append_cons_inj_of_right
    (fun hdot => absurd (hdecimal _ hdot) (by decide))
    (fun hdash => absurd (Date.isDigit_of_mem_padded hdash) (by decide))
    (hdotted.symm.trans hwhole)
  exact absurd hsame (by decide)

theorem generationName_eq_iff :
    generationName aliasName g = generationName other k ↔ aliasName = other ∧ g = k := by
  refine ⟨fun h => ?_, fun ⟨halias, hg⟩ => by rw [halias, hg]⟩
  exact (numbered_generationName aliasName g).unique (h ▸ numbered_generationName other k)

-- Different numbers make different names, however large they are.
theorem generationName_inj : generationName aliasName g = generationName aliasName k ↔ g = k := by
  rw [generationName_eq_iff, and_iff_right rfl]

theorem generation?_generationName_eq (aliasName : String) (g : Nat) :
    generation? aliasName (generationName aliasName g) =
      if g < UInt64.size then some g else none := by
  have hname := numbered_generationName aliasName g
  refine Option.ext fun k => ?_
  rw [generation?_eq_some_iff, Option.ite_none_right_eq_some, Option.some.injEq]
  constructor
  · rintro ⟨hk, hnumbered⟩
    obtain ⟨-, rfl⟩ := hname.unique hnumbered
    exact ⟨hk, rfl⟩
  · rintro ⟨hg, rfl⟩
    exact ⟨hg, hname⟩

theorem generation?_dailyName (aliasName other : String) (day : Date) :
    generation? other (dailyName aliasName day) = none := by
  refine Option.eq_none_iff_forall_ne_some.mpr fun g h => ?_
  exact not_numbered_dailyName aliasName other day g (generation?_eq_some_iff.mp h).2

end

-- An index is a generation of the alias exactly if its name is the alias, a dash and six digits or
-- more, and its number is what they make, up to sixty-four bits. All these numbers are read from the
-- names they make, no two generations have one name, be it of two aliases, and no alias takes a day
-- for a generation.
theorem names_tell_generations (aliasName index : String) :
    (∀ g, generation? aliasName index = some g ↔
      g < UInt64.size ∧ Numbered aliasName g index) ∧
    (∀ g : UInt64, generation? aliasName (generationName aliasName g.toNat) = some g.toNat) ∧
    (∀ other g k, generationName aliasName g = generationName other k ↔
      aliasName = other ∧ g = k) ∧
    ∀ other day, generation? aliasName (dailyName other day) = none := by
  refine ⟨fun g => generation?_eq_some_iff, fun g => ?_, fun other g k => generationName_eq_iff,
    fun other day => generation?_dailyName other aliasName day⟩
  exact generation?_eq_some_iff.mpr ⟨g.toNat_lt_size, numbered_generationName aliasName g.toNat⟩

-- More digits than are needed make no other number, and the alias is not cut short.
example : generation? "m-1" "m-1-00000042" = some 42 ∧ generation? "m" "m-1-00000042" = none := by
  decide

private theorem ne_aliasName {aliasName index : String} {rest : List Char}
    (h : index.toList = (aliasName.toList ++ ['-']) ++ rest) : index ≠ aliasName := by
  intro he
  have hlen := congrArg List.length h
  rw [he] at hlen
  simp only [List.length_append, List.length_cons, List.length_nil] at hlen
  omega

theorem generationName_ne (aliasName : String) (g : Nat) :
    generationName aliasName g ≠ aliasName :=
  ne_aliasName (toList_generationName aliasName g)

theorem dailyName_ne (aliasName : String) (day : Date) : dailyName aliasName day ≠ aliasName :=
  ne_aliasName (toList_dailyName aliasName day)

end Index

end MetricRelay
