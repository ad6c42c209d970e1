import MetricRelay.Document
import MetricRelay.Proofs.Json.Spelling
import MetricRelay.Proofs.Keyed

-- Documents that are written are read back: every label, whatever characters it has, the timestamp,
-- and the value, which is a number when it is finite and a text when it is not.

namespace MetricRelay

-- Values.

-- A number that is neither finite nor NaN has nothing but its sign.
theorem Binary64.eq_infinity {x : Binary64} (hfinite : x.isFinite = false)
    (hnan : x.isNaN = false) : x = .infinity x.isNegative := by
  obtain ⟨bits⟩ := x
  have hbound := bits.toNat_lt
  simp only [isFinite, isNaN, exponentField, fraction, bne_eq_false_iff_eq, Bool.and_eq_false_iff,
    beq_eq_false_iff_ne, Nat.pow_eq] at hfinite hnan
  have hfraction : bits.toNat % 2 ^ 52 = 0 := by
    rcases hnan with h | h
    · exact absurd hfinite h
    · exact h
  have hsign : ∀ negative, (bits.toNat / 2 ^ 63 == 1) = negative →
      bits.toNat = (if negative then Nat.pow 2 63 else 0) + 2047 * Nat.pow 2 52 := by
    intro negative h
    cases negative <;> simp only [beq_iff_eq, beq_eq_false_iff_ne, ne_eq] at h <;>
      simp only [Nat.pow_eq, if_true, Bool.false_eq_true, if_false] <;> omega
  exact congrArg Binary64.mk (UInt64.ofNat_toNat.symm.trans (congrArg UInt64.ofNat (hsign _ rfl)))

theorem Binary64.not_isNaN_of_isFinite {x : Binary64} (h : x.isFinite = true) :
    x.isNaN = false := by
  simp only [isFinite, bne_iff_ne] at h
  simp [isNaN, h]

theorem Decimal.read?_valueText {x : Binary64} (hfinite : x.isFinite = false) :
    read? (valueText x).toList = some (if x.isNaN then .nan else x) := by
  rw [valueText, String.toList_ofList, valueChars, hfinite, if_neg Bool.false_ne_true]
  by_cases hnan : x.isNaN = true
  · rw [if_pos hnan, if_pos hnan]
    rfl
  · rw [Bool.not_eq_true] at hnan
    have hinfinity := Binary64.eq_infinity hfinite hnan
    rw [hnan, if_neg Bool.false_ne_true, if_neg Bool.false_ne_true]
    cases hsign : x.isNegative with
    | false =>
      rw [hinfinity, hsign]
      rfl
    | true =>
      rw [hinfinity, hsign]
      rfl

namespace Json

-- The text of a finite number is the number's spelling.
theorem valueText_spelling {x : Binary64} (hx : x.isFinite = true) :
    spelling? (Decimal.valueText x).toList = some (.number (realNumber x)) := by
  have h := spelling?_chars (.real x)
  rw [chars, if_pos hx, spelled, if_pos hx] at h
  rw [Decimal.valueText, String.toList_ofList, Decimal.valueChars, if_pos hx]
  exact h

theorem value?_realNumber {x : Binary64} (hx : x.isFinite = true)
    (hread : read? (Decimal.valueText x) = some (.real x)) :
    (realNumber x).value? = some (.real x) := by
  rw [read?, valueText_spelling hx] at hread
  have hdepth : ¬128 ≤ (Spelling.number (realNumber x)).depth := by
    simp [Spelling.depth]
  simp only [Option.bind_eq_bind, Option.bind_some, if_neg hdepth, Spelling.value?] at hread
  obtain ⟨j, hj, hsorted⟩ := Option.bind_eq_some_iff.mp hread
  cases j <;> simp_all [sorted, object]

theorem value?_intNumber {i : Int} (hleast : Int64.minValue.toInt ≤ i)
    (hgreatest : i ≤ Int64.maxValue.toInt) : (intNumber i).value? = some (.int i) := by
  have hmin : Int64.minValue.toInt = -2 ^ 63 := by decide
  have hmax : Int64.maxValue.toInt = 2 ^ 63 - 1 := by decide
  have hsize : UInt64.size = 2 ^ 64 := rfl
  simp only [intNumber, NumberText.value?, Decimal.readDigits_digitChars, Nat.pow_eq,
    decide_eq_true_eq]
  by_cases hi : i < 0
  · have hvalue : -Int.ofNat i.natAbs = i := by
      rw [Int.ofNat_eq_natCast]
      omega
    rw [if_pos hi, if_neg (by omega), if_pos (by omega), hvalue]
  · have hvalue : (i.natAbs : Int) = i := by omega
    rw [if_neg hi, if_pos (by omega), hvalue]

end Json

namespace Document

theorem valueField?_spelled {x : Binary64}
    (hread : x.isFinite = true → Json.read? (Decimal.valueText x) = some (.real x)) :
    valueField? (Json.spelled (valueJson x)) = some (if x.isNaN then .nan else x) := by
  by_cases hfinite : x.isFinite = true
  · have hvalue := Json.value?_realNumber hfinite (hread hfinite)
    rw [valueJson, if_pos hfinite, Json.spelled, if_pos hfinite, valueField?, Json.Spelling.value?,
      hvalue, Binary64.not_isNaN_of_isFinite hfinite]
    rfl
  · rw [Bool.not_eq_true] at hfinite
    rw [valueJson, hfinite, if_neg Bool.false_ne_true, Json.spelled, valueField?,
      Json.Spelling.value?, Option.map_some, Option.bind_some, valueOfJson?, String.ofList_toList]
    exact Decimal.read?_valueText hfinite

theorem timestampField?_spelled (t : Int64) :
    timestampField? (Json.spelled (.int t.toInt)) = some t := by
  have hvalue := Json.value?_intNumber t.minValue_le_toInt t.toInt_le
  rw [Json.spelled, timestampField?, Json.Spelling.value?, hvalue, Option.bind_some,
    timestampOfJson?, if_pos ⟨t.minValue_le_toInt, t.toInt_le⟩, Int64.ofInt_toInt]

theorem labelsOfSpelling?_spelled (entries : List (String × String)) :
    labelsOfSpelling? (Json.spelledMembers (entries.map fun (k, v) => (k, .str v))) =
      some (Keyed.ofList entries) := by
  rw [labelsOfSpelling?, Keyed.ofList]
  generalize Keyed.empty = labels
  induction entries generalizing labels with
  | nil => rfl
  | cons e entries ih =>
    rw [List.map_cons, Json.spelledMembers, List.foldlM_cons, List.foldl_cons]
    simp only [Json.spelled, String.ofList_toList, Option.bind_eq_bind, Option.bind_some]
    exact ih _

-- No key comes twice, so the labels are those that were written.
theorem labelsField?_spelled (labels : Labels) :
    labelsField? (Json.spelled (.obj (labels.toList.map fun (k, v) => (k, .str v)))) =
      some labels := by
  rw [Json.spelled, labelsField?, labelsOfSpelling?_spelled, Keyed.ofList_toList]

-- The three fields, each taken where it has not been given yet.

theorem member?_label {item : Json.Spelling} {labels : Labels}
    (h : labelsField? item = some labels) (value : Option Binary64) (timestamp : Option Int64) :
    Partial.member? ⟨none, value, timestamp⟩ (some labelField.toList) item =
      some ⟨some labels, value, timestamp⟩ := by
  simp [Partial.member?, h]

theorem member?_value {item : Json.Spelling} {value : Binary64}
    (h : valueField? item = some value) (labels : Option Labels) (timestamp : Option Int64) :
    Partial.member? ⟨labels, none, timestamp⟩ (some valueField.toList) item =
      some ⟨labels, some value, timestamp⟩ := by
  have hne : valueField.toList ≠ labelField.toList := by decide
  simp [Partial.member?, h, hne]

theorem member?_timestamp {item : Json.Spelling} {timestamp : Int64}
    (h : timestampField? item = some timestamp) (labels : Option Labels)
    (value : Option Binary64) :
    Partial.member? ⟨labels, value, none⟩ (some timestampField.toList) item =
      some ⟨labels, value, some timestamp⟩ := by
  have hlabel : timestampField.toList ≠ labelField.toList := by decide
  have hvalue : timestampField.toList ≠ valueField.toList := by decide
  simp [Partial.member?, h, hlabel, hvalue]

-- The one assumption is about the value's own text: it has to be read as the number it was
-- written for. Nothing is assumed of a value that is not finite.
theorem decode_render (d : Document)
    (hread : d.value.isFinite = true →
      Json.read? (Decimal.valueText d.value) = some (.real d.value)) :
    decode d.render = .ok { d with value := if d.value.isNaN then .nan else d.value } := by
  have hspelling : Json.spelling? d.render.toList = some (Json.spelled d.toJson) := by
    rw [render, Json.render, String.toList_ofList, Json.spelling?_chars]
  have hfields : ofSpelling? (Json.spelled d.toJson) =
      some { d with value := if d.value.isNaN then .nan else d.value } := by
    rw [toJson, Json.spelled]
    simp only [Json.spelledMembers, ofSpelling?, List.foldlM_cons, List.foldlM_nil,
      Option.bind_eq_bind, member?_label (labelsField?_spelled d.labels), Option.bind_some,
      member?_value (valueField?_spelled hread), member?_timestamp (timestampField?_spelled _),
      Option.pure_def]
  rw [decode, hspelling, Option.bind_some, hfields]

-- The assumption does not hold of every number: the digits are rounded before they are scaled, and
-- of these sixteen the number just below is made.
example : Json.read? (Decimal.valueText ⟨4696679098559476184⟩) =
    some (.real ⟨4696679098559476183⟩) := by decide +kernel

-- Minus one and a half, under labels that need every kind of escape.
def escaped : Document :=
  ⟨Keyed.ofList [("__name__", "up"), ("", "\"\\/"), ("a\nb", "\t\x01"), ("é", "😀")],
    Int64.minValue, ⟨0xBFF8000000000000⟩⟩

theorem escaped_read : decode escaped.render = .ok escaped :=
  decode_render escaped fun _ => by decide +kernel

end Document

end MetricRelay
