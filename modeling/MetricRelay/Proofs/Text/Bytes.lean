import Mathlib.Data.String.Basic

-- Texts and their UTF-8 bytes. The order by code points is the order by bytes.

namespace MetricRelay.Text

theorem bytes_eq (s : String) :
    s.toUTF8.data.toList = s.toList.flatMap String.utf8EncodeChar := by
  rw [String.toUTF8_eq_toByteArray, ← String.utf8Encode_toList, List.utf8Encode,
    List.data_toByteArray]

private theorem ofNat_lt_iff {m n : Nat} (hm : m < 256) (hn : n < 256) :
    UInt8.ofNat m < UInt8.ofNat n ↔ m < n := by
  rw [UInt8.lt_iff_toNat_lt, UInt8.toNat_ofNat_of_lt' hm, UInt8.toNat_ofNat_of_lt' hn]

private theorem ofNat_eq_iff {m n : Nat} (hm : m < 256) (hn : n < 256) :
    UInt8.ofNat m = UInt8.ofNat n ↔ m = n := by
  rw [← UInt8.toNat_inj, UInt8.toNat_ofNat_of_lt' hm, UInt8.toNat_ofNat_of_lt' hn]

-- A first byte tells how many follow, and more of them follow greater ones. Of as many bytes the
-- first different one decides, as digits do.
theorem utf8EncodeChar_append_lt {c d : Char} (h : c < d) (s t : List UInt8) :
    String.utf8EncodeChar c ++ s < String.utf8EncodeChar d ++ t := by
  have hvalue : c.val.toNat < d.val.toNat := UInt32.lt_iff_toNat_lt.mp h
  have hrange : d.val.toNat < 0x110000 := by
    rcases d.valid with hd | ⟨-, hd⟩ <;> omega
  unfold String.utf8EncodeChar
  generalize c.val.toNat = m at hvalue ⊢
  generalize d.val.toNat = n at hvalue hrange ⊢
  -- six bits go into each byte but the first
  have hshift : ∀ k, k / 64 / 64 = k / 4096 ∧ k / 4096 / 64 = k / 262144 := fun k => by
    rw [Nat.div_div_eq_div_mul, Nat.div_div_eq_div_mul]
    exact ⟨rfl, rfl⟩
  obtain ⟨hm, hm'⟩ := hshift m
  obtain ⟨hn, hn'⟩ := hshift n
  have hmono : ∀ k, m / k ≤ n / k := fun k => Nat.div_le_div_right hvalue.le
  have hlow := hmono 64
  have hmiddle := hmono 4096
  have hhigh := hmono 262144
  have hfirst : m / 262144 % 8 = m / 262144 ∧ n / 262144 % 8 = n / 262144 := by omega
  dsimp only
  repeat' split
  all_goals
    simp only [List.cons_append, List.nil_append, List.cons_lt_cons_iff]
    repeat rw [ofNat_lt_iff (by omega) (by omega)]
    repeat rw [ofNat_eq_iff (by omega) (by omega)]
    omega

theorem flatMap_utf8EncodeChar_lt {cs ds : List Char} (h : cs < ds) :
    cs.flatMap String.utf8EncodeChar < ds.flatMap String.utf8EncodeChar := by
  induction cs generalizing ds with
  | nil =>
    cases ds with
    | nil => exact absurd h (List.lt_irrefl _)
    | cons d ds =>
      have hbyte : String.utf8EncodeChar d ≠ [] := by
        unfold String.utf8EncodeChar
        dsimp only
        repeat' split
        all_goals simp
      obtain ⟨b, bs, hbs⟩ := List.exists_cons_of_ne_nil hbyte
      rw [List.flatMap_cons, hbs]
      exact List.nil_lt_cons b _
  | cons c cs ih =>
    cases ds with
    | nil => exact absurd h (List.not_lt_nil _)
    | cons d ds =>
      rw [List.flatMap_cons, List.flatMap_cons]
      rcases List.cons_lt_cons_iff.mp h with hlt | ⟨rfl, hrest⟩
      · exact utf8EncodeChar_append_lt hlt _ _
      · exact List.append_left_lt (ih hrest)

theorem lt_iff_bytes_lt (s t : String) :
    s < t ↔ s.toUTF8.data.toList < t.toUTF8.data.toList := by
  rw [bytes_eq, bytes_eq]
  constructor
  · intro h
    exact flatMap_utf8EncodeChar_lt (String.lt_iff.mp h)
  · intro h
    by_contra hnot
    rcases (String.not_lt.mp hnot).lt_or_eq with hgt | rfl
    · exact List.lt_asymm h (flatMap_utf8EncodeChar_lt (String.lt_iff.mp hgt))
    · exact List.lt_irrefl _ h

theorem le_iff_bytes_le (s t : String) :
    s ≤ t ↔ s.toUTF8.data.toList ≤ t.toUTF8.data.toList := by
  rw [← String.not_lt, ← List.not_lt, lt_iff_bytes_lt]

end MetricRelay.Text
