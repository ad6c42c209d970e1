import MetricRelay.Text.Blank
import Mathlib.Data.List.TakeWhile

-- What trimming takes off a text, and what it leaves: the text between the blanks at its ends. What
-- splitting makes of a text: the pieces that, joined by the separator, are the text again.

namespace MetricRelay.Text

-- Of the blanks below 128 none is past the space.
theorem not_isBlank_of_between {c : Char} (hlow : 32 < c.toNat) (hhigh : c.toNat < 128) :
    isBlank c = false := by
  simp only [isBlank, Bool.or_eq_false_iff, Bool.and_eq_false_iff, decide_eq_false_iff_not,
    beq_eq_false_iff_ne]
  omega

theorem not_isBlank_of_isDigit {c : Char} (h : c.isDigit = true) : isBlank c = false := by
  simp only [Char.isDigit, Bool.and_eq_true, decide_eq_true_eq, ge_iff_le,
    UInt32.le_iff_toNat_le] at h
  obtain ⟨hlow, hhigh⟩ := h
  exact not_isBlank_of_between (Nat.lt_of_lt_of_le (by decide) hlow)
    (Nat.lt_of_le_of_lt hhigh (by decide))

theorem not_isDigit_of_le {c : Char} (h : 65 ≤ c.toNat) : c.isDigit = false := by
  by_contra hdigit
  simp only [Bool.not_eq_false, Char.isDigit, Bool.and_eq_true, decide_eq_true_eq, ge_iff_le,
    UInt32.le_iff_toNat_le] at hdigit
  exact absurd (Nat.le_trans h hdigit.2) (by decide)

-- What is a small letter in lower case has its place among the letters.
theorem bounds_of_isLower_toLower {c : Char} (h : c.toLower.isLower = true) :
    65 ≤ c.toNat ∧ c.toNat ≤ 122 := by
  unfold Char.toLower at h
  split at h
  · rename_i hupper
    obtain ⟨hlow, hhigh⟩ := hupper
    exact ⟨UInt32.le_iff_toNat_le.mp hlow,
      Nat.le_trans (UInt32.le_iff_toNat_le.mp hhigh) (by decide)⟩
  · obtain ⟨hlow, hhigh⟩ : c.val ≥ 97 ∧ c.val ≤ 122 := by simpa using Bool.and_eq_true_iff.mp h
    exact ⟨Nat.le_trans (by decide) (UInt32.le_iff_toNat_le.mp hlow),
      UInt32.le_iff_toNat_le.mp hhigh⟩

theorem bounds_of_isLower_lowerAscii {word : List Char}
    (hsmall : ∀ c ∈ (lowerAscii (String.ofList word)).toList, c.isLower = true) :
    ∀ c ∈ word, 65 ≤ c.toNat ∧ c.toNat ≤ 122 := by
  intro c hc
  refine bounds_of_isLower_toLower (hsmall c.toLower ?_)
  rw [lowerAscii, String.toList_ofList, String.toList_ofList]
  exact List.mem_map_of_mem hc

theorem dropWhile_blanks {blanks core : List Char} (hblanks : ∀ c ∈ blanks, isBlank c = true)
    (hcore : ∀ c ∈ core, isBlank c = false) (hsome : core ≠ []) (rest : List Char) :
    (blanks ++ (core ++ rest)).dropWhile isBlank = core ++ rest := by
  obtain ⟨c, cs, rfl⟩ := List.exists_cons_of_ne_nil hsome
  rw [List.dropWhile_append_of_pos hblanks, List.cons_append, List.dropWhile_cons_of_neg]
  simp [hcore c List.mem_cons_self]

theorem trimChars_surrounded {before core after : List Char}
    (hblanks : ∀ c ∈ before ++ after, isBlank c = true)
    (hcore : ∀ c ∈ core, isBlank c = false) (hsome : core ≠ []) :
    trimChars (before ++ (core ++ after)) = core := by
  have hbefore := fun c hc => hblanks c (List.mem_append_left after hc)
  have hafter : ∀ c ∈ after.reverse, isBlank c = true := fun c hc =>
    hblanks c (List.mem_append_right before (List.mem_reverse.mp hc))
  have hcore' : ∀ c ∈ core.reverse, isBlank c = false :=
    fun c hc => hcore c (List.mem_reverse.mp hc)
  have hback := dropWhile_blanks hafter hcore' (by simpa using hsome) []
  rw [List.append_nil, ← List.reverse_append] at hback
  rw [trimChars, dropWhile_blanks hbefore hcore hsome, hback, List.reverse_reverse]

theorem exists_trimChars (cs : List Char) : ∃ before after,
    cs = before ++ (trimChars cs ++ after) ∧ ∀ c ∈ before ++ after, isBlank c = true := by
  refine ⟨cs.takeWhile isBlank, ((cs.dropWhile isBlank).reverse.takeWhile isBlank).reverse, ?_, ?_⟩
  · rw [trimChars, ← List.reverse_append, List.takeWhile_append_dropWhile, List.reverse_reverse,
      List.takeWhile_append_dropWhile]
  · intro c hc
    rcases List.mem_append.mp hc with hc | hc
    · exact List.mem_takeWhile_imp hc
    · exact List.mem_takeWhile_imp (List.mem_reverse.mp hc)

section

variable {sep : Char}

theorem splitAt_eq_splitOn (cs : List Char) : splitAt sep cs = cs.splitOn sep := by
  induction cs with
  | nil => rfl
  | cons c rest ih =>
    rw [splitAt, ih, List.splitOn_cons_eq_if_modifyHead]
    simp only [beq_iff_eq]
    cases hpieces : rest.splitOn sep with
    | nil => exact absurd hpieces (List.splitOn_ne_nil sep rest)
    | cons piece pieces => rfl

theorem not_mem_of_mem_splitAt {cs piece : List Char} (h : piece ∈ splitAt sep cs) :
    sep ∉ piece := by
  induction cs generalizing piece with
  | nil =>
    rw [List.mem_singleton.mp h]
    exact List.not_mem_nil
  | cons c rest ih =>
    rw [splitAt] at h
    split_ifs at h with hsep
    · rcases List.mem_cons.mp h with rfl | h
      · exact List.not_mem_nil
      · exact ih h
    · split at h
      · rw [List.mem_singleton.mp h, List.mem_singleton]
        exact Ne.symm hsep
      · rename_i first others hfirst
        rcases List.mem_cons.mp h with rfl | h
        · exact List.not_mem_cons_of_ne_of_not_mem (Ne.symm hsep)
            (ih (hfirst ▸ List.mem_cons_self))
        · exact ih (hfirst ▸ List.mem_cons_of_mem first h)

theorem pieces_eq_iff {s : String} {parts : List String} :
    pieces sep s = parts ↔ parts ≠ [] ∧ s = (String.singleton sep).intercalate parts ∧
      ∀ part ∈ parts, sep ∉ part.toList := by
  constructor
  · rintro rfl
    refine ⟨?_, ?_, ?_⟩
    · rw [pieces, splitAt_eq_splitOn, ne_eq, List.map_eq_nil_iff]
      exact List.splitOn_ne_nil sep s.toList
    · apply String.toList_inj.mp
      rw [String.toList_intercalate, String.toList_singleton, pieces, splitAt_eq_splitOn,
        List.map_map]
      simp [Function.comp_def, List.intercalate_splitOn]
    · intro part hpart
      obtain ⟨piece, hpiece, rfl⟩ := List.mem_map.mp hpart
      rw [String.toList_ofList]
      exact not_mem_of_mem_splitAt hpiece
  · rintro ⟨hsome, rfl, hbare⟩
    have hbare' : ∀ piece ∈ parts.map String.toList, sep ∉ piece := by simpa using hbare
    rw [pieces, splitAt_eq_splitOn, String.toList_intercalate, String.toList_singleton,
      List.splitOn_intercalate sep hbare' (by simpa using hsome), List.map_map]
    simp [Function.comp_def]

end

end MetricRelay.Text
