import MetricRelay.Quantity
import MetricRelay.Proofs.Text.Blank

-- Durations and byte sizes are read exactly: digits, a unit and nothing else but blanks around
-- them, as long as the number and what it comes to have at most sixty-four bits. No other text is
-- read.

namespace MetricRelay.Quantity

-- The units in small letters, each with how many of the least one it is. No unit at all is the
-- least one.

def timeUnits : List (String × Nat) :=
  [("", 1), ("s", 1), ("m", 60), ("h", 3600), ("d", 86400), ("w", 604800)]

def sizeUnits : List (String × Nat) :=
  [("", 1), ("b", 1), ("k", 1024), ("kb", 1024), ("m", Nat.pow 1024 2), ("mb", Nat.pow 1024 2),
    ("g", Nat.pow 1024 3), ("gb", Nat.pow 1024 3), ("t", Nat.pow 1024 4), ("tb", Nat.pow 1024 4)]

-- The text says `n` in a unit worth `k`: decimal digits, then a listed unit in small or capital
-- letters, with blanks on both sides or none.
inductive Spells (units : List (String × Nat)) (raw : String) (n k : Nat) : Prop
  | intro {before digits letters after : List Char}
      (whole : raw.toList = before ++ ((digits ++ letters) ++ after))
      (blank : ∀ c ∈ before ++ after, Text.isBlank c = true)
      (present : digits ≠ []) (decimal : ∀ c ∈ digits, c.isDigit = true)
      (number : Nat.ofDigitChars 10 digits 0 = n)
      (listed : (Text.lowerAscii (String.ofList letters), k) ∈ units)

section

variable {what unit raw : String} {per? : String → Option Nat} {units : List (String × Nat)}
  {digits letters : List Char} {n k m : Nat} {e : Error}

theorem secondsPer?_eq_some_iff : secondsPer? unit = some k ↔ (unit, k) ∈ timeUnits := by
  unfold secondsPer? timeUnits
  split_ifs <;> simp_all
  all_goals grind

theorem bytesPer?_eq_some_iff : bytesPer? unit = some k ↔ (unit, k) ∈ sizeUnits := by
  unfold bytesPer? sizeUnits
  split_ifs <;> simp_all
  all_goals grind

theorem number?_eq_some_iff :
    number? digits = some n ↔
      digits ≠ [] ∧ Nat.ofDigitChars 10 digits 0 = n ∧ n < UInt64.size := by
  have hvalue : Decimal.readDigits digits = Nat.ofDigitChars 10 digits 0 := rfl
  grind [number?]

theorem split_append (hdigits : ∀ c ∈ digits, c.isDigit = true)
    (hletters : ∀ c ∈ letters, c.isDigit = false) :
    split (String.ofList (digits ++ letters)) = (digits, String.ofList letters) := by
  have htake : letters.takeWhile Char.isDigit = [] :=
    List.takeWhile_eq_nil_iff.mpr fun h => by simp [hletters]
  have hdrop : letters.dropWhile Char.isDigit = letters :=
    List.dropWhile_eq_self_iff.mpr fun h => by simp [hletters]
  rw [split, String.toList_ofList, List.takeWhile_append_of_pos hdigits,
    List.dropWhile_append_of_pos hdigits, htake, hdrop, List.append_nil]

theorem not_isBlank_of_bounds (hdigits : ∀ c ∈ digits, c.isDigit = true)
    (hletters : ∀ c ∈ letters, 65 ≤ c.toNat ∧ c.toNat ≤ 122) :
    ∀ c ∈ digits ++ letters, Text.isBlank c = false := by
  intro c hc
  rcases List.mem_append.mp hc with hc | hc
  · exact Text.not_isBlank_of_isDigit (hdigits c hc)
  · obtain ⟨hlow, hhigh⟩ := hletters c hc
    exact Text.not_isBlank_of_between (by omega) (by omega)

-- What the trimmed text splits into decides what is read.
theorem parse_of_split {trimmed : List Char} (htrim : Text.trimChars raw.toList = trimmed)
    (hsplit : split (String.ofList trimmed) = (digits, String.ofList letters)) :
    parse what per? raw = .ok m ↔ ∃ n k, number? digits = some n ∧
      per? (Text.lowerAscii (String.ofList letters)) = some k ∧ n * k < UInt64.size ∧ n * k = m := by
  rw [parse, Text.trim, htrim, hsplit]
  grind

theorem spells_of_parse (hper : ∀ unit k, per? unit = some k ↔ (unit, k) ∈ units)
    (h : parse what per? raw = .ok m) :
    ∃ n k, Spells units raw n k ∧ n < UInt64.size ∧ n * k < UInt64.size ∧ m = n * k := by
  obtain ⟨before, after, hwhole, hblank⟩ := Text.exists_trimChars raw.toList
  have hsplit : split (String.ofList (Text.trimChars raw.toList)) =
      ((Text.trimChars raw.toList).takeWhile Char.isDigit,
        String.ofList ((Text.trimChars raw.toList).dropWhile Char.isDigit)) := by
    rw [split, String.toList_ofList]
  obtain ⟨n, k, hnumber, hunit, hrange, rfl⟩ := (parse_of_split rfl hsplit).mp h
  obtain ⟨hsome, hvalue, hn⟩ := number?_eq_some_iff.mp hnumber
  have hspells : Spells units raw n k := by
    refine .intro ?_ hblank hsome ?_ hvalue ((hper _ k).mp hunit)
    · rw [List.takeWhile_append_dropWhile]
      exact hwhole
    · exact fun c hc => List.mem_takeWhile_imp hc
  exact ⟨n, k, hspells, hn, hrange, rfl⟩

theorem Spells.parse_eq_ok (hspells : Spells units raw n k)
    (hper : ∀ unit k, per? unit = some k ↔ (unit, k) ∈ units)
    (hsmall : units.all (fun e => e.1.toList.all Char.isLower) = true)
    (hn : n < UInt64.size) (hrange : n * k < UInt64.size) :
    parse what per? raw = .ok (n * k) := by
  obtain ⟨hwhole, hblank, hsome, hdecimal, hvalue, hlisted⟩ := hspells
  rename_i before digits letters after
  have hlower : ∀ c ∈ (Text.lowerAscii (String.ofList letters)).toList, c.isLower = true :=
    List.all_eq_true.mp
      (List.all_eq_true.mp hsmall (Text.lowerAscii (String.ofList letters), k) hlisted)
  have hletters : ∀ c ∈ letters, 65 ≤ c.toNat ∧ c.toNat ≤ 122 :=
    Text.bounds_of_isLower_lowerAscii hlower
  have hcore := not_isBlank_of_bounds hdecimal hletters
  have htrim : Text.trimChars raw.toList = digits ++ letters := by
    rw [hwhole]
    exact Text.trimChars_surrounded hblank hcore (by simp [hsome])
  have hsplit := split_append hdecimal fun c hc => Text.not_isDigit_of_le (hletters c hc).1
  exact (parse_of_split htrim hsplit).mpr
    ⟨n, k, number?_eq_some_iff.mpr ⟨hsome, hvalue, hn⟩, (hper _ k).mpr hlisted, hrange, rfl⟩

theorem parse_eq_ok_iff (hper : ∀ unit k, per? unit = some k ↔ (unit, k) ∈ units)
    (hsmall : units.all (fun e => e.1.toList.all Char.isLower) = true) :
    parse what per? raw = .ok m ↔
      ∃ n k, Spells units raw n k ∧ n < UInt64.size ∧ n * k < UInt64.size ∧ m = n * k := by
  constructor
  · exact spells_of_parse hper
  · rintro ⟨n, k, hspells, hn, hrange, rfl⟩
    exact hspells.parse_eq_ok hper hsmall hn hrange

-- What is not read is a fault of the configuration.
theorem config_of_parse (h : parse what per? raw = .error e) : ∃ reason, e = .config reason := by
  grind [parse]

theorem parseDuration_eq_ok_iff {d : Duration} :
    parseDuration raw = .ok d ↔ ∃ n k, Spells timeUnits raw n k ∧
      n < UInt64.size ∧ n * k < UInt64.size ∧ d = .ofSeconds (n * k) := by
  have hmap : parseDuration raw = .ok d ↔
      ∃ s, parse "duration" secondsPer? raw = .ok s ∧ d = .ofSeconds s := by
    rw [parseDuration]
    cases parse "duration" secondsPer? raw <;> simp [Except.map, eq_comm]
  have hread (s : Nat) := @parse_eq_ok_iff "duration" raw secondsPer? timeUnits s
    (fun _ _ => secondsPer?_eq_some_iff) (by decide)
  simp only [hmap, hread]
  grind

theorem config_of_parseDuration (h : parseDuration raw = .error e) :
    ∃ reason, e = .config reason := by
  rw [parseDuration] at h
  cases hread : parse "duration" secondsPer? raw with
  | error fault =>
    rw [hread] at h
    cases h
    exact config_of_parse hread
  | ok s =>
    rw [hread] at h
    cases h

theorem parseByteSize_eq_ok_iff :
    parseByteSize raw = .ok m ↔ ∃ n k, Spells sizeUnits raw n k ∧
      n < UInt64.size ∧ n * k < UInt64.size ∧ m = n * k :=
  parse_eq_ok_iff (fun _ _ => bytesPer?_eq_some_iff) (by decide)

end

-- A length of time or a size is read from just those texts that spell it within sixty-four bits,
-- and it is the one they spell; every other text is a fault of the configuration.
theorem read_exactly (raw : String) :
    (∀ d, parseDuration raw = .ok d ↔ ∃ n k, Spells timeUnits raw n k ∧
      n < UInt64.size ∧ n * k < UInt64.size ∧ d = .ofSeconds (n * k)) ∧
    (∀ m, parseByteSize raw = .ok m ↔ ∃ n k, Spells sizeUnits raw n k ∧
      n < UInt64.size ∧ n * k < UInt64.size ∧ m = n * k) ∧
    (∀ e, parseDuration raw = .error e ∨ parseByteSize raw = .error e →
      ∃ reason, e = .config reason) := by
  refine ⟨fun d => parseDuration_eq_ok_iff, fun m => parseByteSize_eq_ok_iff, ?_⟩
  rintro e (hduration | hsize)
  · exact config_of_parseDuration hduration
  · exact config_of_parse hsize

theorem read_exactly_of_minutes :
    parseDuration "\u00a0015M\n" = .ok (.ofSeconds 900) ∧
    ∃ reason, parseByteSize "5 parsecs" = .error (.config reason) := by
  have hspells : Spells timeUnits "\u00a0015M\n" 15 60 :=
    @Spells.intro _ _ _ _ ['\u00a0'] ['0', '1', '5'] ['M'] ['\n'] (by decide)
      (List.all_eq_true.mp (by decide)) (by decide) (List.all_eq_true.mp (by decide)) (by decide)
      (by decide)
  refine ⟨((read_exactly _).1 _).mpr ⟨15, 60, hspells, by decide, by decide, rfl⟩, ?_⟩
  have herror : parseByteSize "5 parsecs" = .error _ := rfl
  obtain ⟨reason, hreason⟩ := (read_exactly _).2.2 _ (.inr herror)
  exact ⟨reason, hreason ▸ herror⟩

end MetricRelay.Quantity
