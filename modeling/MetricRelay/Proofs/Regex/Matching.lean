import Mathlib.Data.Finset.Card
import Mathlib.Logic.Function.Iterate
import MetricRelay.Regex.Basic

-- What it means that an expression matches a part of a text, and that the matcher finds exactly the
-- parts that match. The matcher goes from one set of positions to another; a repetition without a
-- limit only has to go on until the set grows no more.

namespace MetricRelay.Regex

-- The character in front of a position.
def before? (text : List Char) : Nat → Option Char
  | 0 => none
  | i + 1 => text[i]?

-- So many links of a relation in a row.
def Copies (link : Nat → Nat → Prop) : Nat → Nat → Nat → Prop
  | 0, i, j => j = i
  | n + 1, i, j => ∃ k, link i k ∧ Copies link n k j

-- The expression matches what stands between two positions of the text.
def Spans (text : List Char) : Regex → Nat → Nat → Prop
  | .empty, i, j => j = i
  | .chars set, i, j => (∃ c, text[i]? = some c ∧ set.mem c = true) ∧ j = i + 1
  | .look l, i, j => (i ≤ text.length ∧ l.holds (before? text i) text[i]? = true) ∧ j = i
  | .seq a b, i, j => ∃ k, Spans text a i k ∧ Spans text b k j
  | .alt a b, i, j => Spans text a i j ∨ Spans text b i j
  -- the least number of copies is allowed even where it is above the most
  | .repeated a least most, i, j =>
    ∃ n, (least ≤ n ∧ ∀ m, most = some m → n ≤ max least m) ∧ Copies (Spans text a) n i j

-- Copies.

section Copies

variable {link : Nat → Nat → Prop} {i j k m n : Nat}

theorem copies_add : Copies link (m + n) i j ↔ ∃ k, Copies link m i k ∧ Copies link n k j := by
  induction m generalizing i with
  | zero => simp [Copies]
  | succ m ih =>
    rw [Nat.succ_add]
    constructor
    · rintro ⟨k, hk, hrest⟩
      obtain ⟨l, hl, hj⟩ := ih.mp hrest
      exact ⟨l, ⟨k, hk, hl⟩, hj⟩
    · rintro ⟨l, ⟨k, hk, hl⟩, hj⟩
      exact ⟨k, hk, ih.mpr ⟨l, hl, hj⟩⟩

-- Links that may be left out.
theorem copies_or_stay :
    Copies (fun i j => j = i ∨ link i j) n i j ↔ ∃ m, m ≤ n ∧ Copies link m i j := by
  induction n generalizing i with
  | zero => simp [Copies]
  | succ n ih =>
    constructor
    · rintro ⟨k, rfl | hk, hrest⟩
      · obtain ⟨m, hm, hj⟩ := ih.mp hrest
        exact ⟨m, Nat.le_succ_of_le hm, hj⟩
      · obtain ⟨m, hm, hj⟩ := ih.mp hrest
        exact ⟨m + 1, Nat.succ_le_succ hm, k, hk, hj⟩
    · rintro ⟨m, hm, hj⟩
      cases m with
      | zero => exact ⟨i, .inl rfl, ih.mpr ⟨0, Nat.zero_le n, hj⟩⟩
      | succ m =>
        obtain ⟨k, hk, hj⟩ := hj
        exact ⟨k, .inr hk, ih.mpr ⟨m, Nat.le_of_succ_le_succ hm, hj⟩⟩

end Copies

-- Sets of positions.

theorem testBit_positions (l : List Bool) (i : Nat) : (positions l).testBit i = l.getD i false := by
  induction l generalizing i with
  | nil => simp [positions]
  | cons b rest ih =>
    have hhalf : (2 * positions rest + b.toNat) / 2 = positions rest := by
      cases b <;> simp
      omega
    cases i with
    | zero => cases b <;> simp [positions, Nat.testBit_zero]
    | succ i => rw [positions, Nat.testBit_succ, hhalf, ih, List.getD_cons_succ]

theorem iterate_eq (f : Nat → Nat) (n s : Nat) : iterate f n s = f^[n] s := by
  induction n generalizing s with
  | zero => rfl
  | succ n ih =>
    rw [iterate, Function.iterate_succ_apply]
    split
    case isTrue h => rw [h, Function.iterate_fixed h]
    case isFalse => exact ih (f s)

def Within (text : List Char) (s : Nat) : Prop := ∀ i, s.testBit i = true → i ≤ text.length

-- The function goes from a set of positions to those that are linked to one of them.
structure Carries (text : List Char) (f : Nat → Nat) (link : Nat → Nat → Prop) : Prop where
  within : ∀ {s}, Within text s → Within text (f s)
  mem : ∀ {s j}, Within text s → ((f s).testBit j = true ↔ ∃ i, s.testBit i = true ∧ link i j)

namespace Carries

variable {text : List Char} {f g : Nat → Nat} {r q : Nat → Nat → Prop}

theorem congr (h : Carries text f r) (hr : ∀ i j, r i j ↔ q i j) : Carries text f q :=
  ⟨h.within, fun hs => by simp only [h.mem hs, hr]⟩

theorem id : Carries text (fun s => s) fun i j => j = i :=
  ⟨fun hs => hs, fun _ => by simp⟩

theorem comp (hf : Carries text f r) (hg : Carries text g q) :
    Carries text (fun s => g (f s)) fun i j => ∃ k, r i k ∧ q k j where
  within hs := hg.within (hf.within hs)
  mem {s j} hs := by
    rw [hg.mem (hf.within hs)]
    constructor
    · rintro ⟨k, hk, hj⟩
      obtain ⟨i, hi, hlink⟩ := (hf.mem hs).mp hk
      exact ⟨i, hi, k, hlink, hj⟩
    · rintro ⟨i, hi, k, hlink, hj⟩
      exact ⟨k, (hf.mem hs).mpr ⟨i, hi, hlink⟩, hj⟩

theorem union (hf : Carries text f r) (hg : Carries text g q) :
    Carries text (fun s => f s ||| g s) fun i j => r i j ∨ q i j where
  within hs i hi := by
    rw [Nat.testBit_or, Bool.or_eq_true] at hi
    exact hi.elim (hf.within hs i) (hg.within hs i)
  mem {s j} hs := by
    rw [Nat.testBit_or, Bool.or_eq_true, hf.mem hs, hg.mem hs]
    simp only [and_or_left, exists_or]

theorem iterate (hf : Carries text f r) (n : Nat) : Carries text f^[n] (Copies r n) := by
  induction n with
  | zero => exact id
  | succ n ih =>
    have hsucc : f^[n + 1] = fun s => f^[n] (f s) :=
      funext fun s => Function.iterate_succ_apply f n s
    rw [hsucc]
    exact hf.comp ih

end Carries

-- Growing sets.

def grow (f : Nat → Nat) (s : Nat) : Nat := s ||| f s

-- The positions in a set.
def members (text : List Char) (s : Nat) : Finset Nat :=
  (Finset.range (text.length + 1)).filter fun i => s.testBit i = true

section Saturation

variable {text : List Char} {f : Nat → Nat} {r : Nat → Nat → Prop} {s t i m n : Nat}

theorem mem_members (hs : Within text s) : i ∈ members text s ↔ s.testBit i = true := by
  unfold members
  rw [Finset.mem_filter, Finset.mem_range, and_iff_right_iff_imp]
  exact fun hi => Nat.lt_succ_of_le (hs i hi)

theorem eq_of_members (hs : Within text s) (ht : Within text t)
    (h : members text s = members text t) : s = t := by
  refine Nat.eq_of_testBit_eq fun i => ?_
  rw [Bool.eq_iff_iff, ← mem_members hs, ← mem_members ht, h]

theorem testBit_grow (hi : s.testBit i = true) : (grow f s).testBit i = true := by
  rw [grow, Nat.testBit_or, hi, Bool.true_or]

theorem testBit_grow_iterate (hmn : m ≤ n) (hi : ((grow f)^[m] s).testBit i = true) :
    ((grow f)^[n] s).testBit i = true := by
  induction n, hmn using Nat.le_induction with
  | base => exact hi
  | succ n _ ih =>
    rw [Function.iterate_succ_apply']
    exact testBit_grow ih

theorem Carries.grow (hf : Carries text f r) :
    Carries text (Regex.grow f) fun i j => j = i ∨ r i j :=
  Carries.id.union hf

-- Each step adds a position until one adds nothing.
theorem members_card_or_fixed (hf : Carries text f r) (hs : Within text s) (n : Nat) :
    n ≤ (members text ((grow f)^[n] s)).card ∨
      ∃ m < n, grow f ((grow f)^[m] s) = (grow f)^[m] s := by
  have hwithin (n : Nat) : Within text ((grow f)^[n] s) := (hf.grow.iterate n).within hs
  induction n with
  | zero => exact .inl (Nat.zero_le _)
  | succ n ih =>
    obtain hcard | ⟨m, hm, hfixed⟩ := ih
    · by_cases heq : members text ((grow f)^[n + 1] s) = members text ((grow f)^[n] s)
      · refine .inr ⟨n, Nat.lt_succ_self n, ?_⟩
        rw [← Function.iterate_succ_apply' (grow f)]
        exact eq_of_members (hwithin (n + 1)) (hwithin n) heq
      · have hsub : members text ((grow f)^[n] s) ⊆ members text ((grow f)^[n + 1] s) :=
          fun i hi => (mem_members (hwithin (n + 1))).mpr
            (testBit_grow_iterate (Nat.le_succ n) ((mem_members (hwithin n)).mp hi))
        have hlt := Finset.card_lt_card (hsub.ssubset_of_ne fun h => heq h.symm)
        exact .inl (by omega)
    · exact .inr ⟨m, Nat.lt_succ_of_lt hm, hfixed⟩

-- There are no more positions than the text has characters and one.
theorem iterate_grow_saturated (hf : Carries text f r) (hs : Within text s)
    (hi : ((grow f)^[n] s).testBit i = true) :
    ((grow f)^[text.length + 1] s).testBit i = true := by
  have hroom : (members text ((grow f)^[text.length + 2] s)).card ≤ text.length + 1 :=
    (Finset.card_filter_le _ _).trans (Finset.card_range _).le
  obtain hcard | ⟨m, hm, hfixed⟩ := members_card_or_fixed hf hs (text.length + 2)
  · omega
  · have hstay (k : Nat) (hk : m ≤ k) : (grow f)^[k] s = (grow f)^[m] s := by
      obtain ⟨d, rfl⟩ := Nat.exists_eq_add_of_le' hk
      rw [Function.iterate_add_apply, Function.iterate_fixed hfixed]
    by_cases hn : n ≤ text.length + 1
    · exact testBit_grow_iterate hn hi
    · rw [hstay n (by omega)] at hi
      rw [hstay (text.length + 1) (by omega)]
      exact hi

-- A repetition without a limit.
theorem Carries.saturate (hf : Carries text f r) :
    Carries text (Regex.grow f)^[text.length + 1] fun i j => ∃ n, Copies r n i j where
  within := (hf.grow.iterate _).within
  mem {s j} hs := by
    constructor
    · intro hj
      obtain ⟨i, hi, hcopies⟩ := ((hf.grow.iterate _).mem hs).mp hj
      obtain ⟨m, _, hm⟩ := copies_or_stay.mp hcopies
      exact ⟨i, hi, m, hm⟩
    · rintro ⟨i, hi, n, hn⟩
      refine iterate_grow_saturated hf hs (n := n) ?_
      exact ((hf.grow.iterate n).mem hs).mpr ⟨i, hi, copies_or_stay.mpr ⟨n, Nat.le_refl n, hn⟩⟩

end Saturation

-- What surrounds a position.
theorem places_getElem? (text : List Char) {i : Nat} (hi : i ≤ text.length) :
    (places text)[i]? = some (before? text i, text[i]?) := by
  have hnext : (text.map some ++ [none])[i]? = some text[i]? := by
    rcases Nat.lt_or_eq_of_le hi with hlt | rfl
    · rw [List.getElem?_append_left (by simpa using hlt), List.getElem?_map,
        List.getElem?_eq_getElem hlt, Option.map_some]
    · simp
  have hprevious : (none :: text.map some)[i]? = some (before? text i) := by
    cases i with
    | zero => rfl
    | succ i =>
      rw [List.getElem?_cons_succ, List.getElem?_map, before?, List.getElem?_eq_getElem hi,
        Option.map_some]
  exact List.getElem?_zip_eq_some.mpr ⟨hprevious, hnext⟩

theorem places_length (text : List Char) : (places text).length = text.length + 1 := by
  simp [places]

-- Each kind of expression.

theorem getD_map_eq_true {α : Type} {p : α → Bool} {l : List α} {i : Nat} :
    (l.map p).getD i false = true ↔ ∃ a, l[i]? = some a ∧ p a = true := by
  rw [List.getD_eq_getElem?_getD, List.getElem?_map]
  cases l[i]? <;> simp

theorem carries_chars (text : List Char) (set : CharSet) :
    Carries text (advance text (.chars set)) (Spans text (.chars set)) := by
  have hmem (s j : Nat) : (advance text (.chars set) s).testBit j = true ↔
      ∃ i, s.testBit i = true ∧ Spans text (.chars set) i j := by
    simp only [advance, Nat.testBit_shiftLeft, Nat.testBit_and, testBit_positions,
      Bool.and_eq_true, decide_eq_true_eq, getD_map_eq_true, Spans]
    constructor
    · rintro ⟨hj, hs, hset⟩
      exact ⟨j - 1, hs, hset, by omega⟩
    · rintro ⟨i, hs, hset, rfl⟩
      exact ⟨Nat.le_add_left 1 i, hs, hset⟩
  refine ⟨fun hs j hj => ?_, fun _ => hmem _ _⟩
  obtain ⟨i, _, ⟨c, hc, _⟩, rfl⟩ := (hmem _ _).mp hj
  exact (List.getElem?_eq_some_iff.mp hc).1

theorem carries_look (text : List Char) (l : Look) :
    Carries text (advance text (.look l)) (Spans text (.look l)) := by
  have hmem (s j : Nat) : (advance text (.look l) s).testBit j = true ↔
      s.testBit j = true ∧ j ≤ text.length ∧ l.holds (before? text j) text[j]? = true := by
    rw [advance, Nat.testBit_and, testBit_positions, Bool.and_eq_true, getD_map_eq_true]
    refine and_congr_right fun _ => ?_
    constructor
    · rintro ⟨place, hplace, hholds⟩
      have hj : j ≤ text.length := by
        have hlt := (List.getElem?_eq_some_iff.mp hplace).1
        rw [places_length] at hlt
        omega
      rw [places_getElem? text hj, Option.some.injEq] at hplace
      subst hplace
      exact ⟨hj, hholds⟩
    · rintro ⟨hj, hholds⟩
      exact ⟨_, places_getElem? text hj, hholds⟩
  refine ⟨fun hs j hj => hs j ((hmem _ _).mp hj).1, fun _ => ?_⟩
  rw [hmem]
  simp [Spans]

theorem carries_repeated {text : List Char} {a : Regex}
    (h : Carries text (advance text a) (Spans text a)) (least : Nat) (most : Option Nat) :
    Carries text (advance text (.repeated a least most)) (Spans text (.repeated a least most)) := by
  have hleast := h.iterate least
  cases most with
  | none =>
    have hadvance : advance text (.repeated a least none) =
        fun s => (Regex.grow (advance text a))^[text.length + 1] ((advance text a)^[least] s) := by
      funext s
      rw [advance, iterate_eq, iterate_eq]
      rfl
    rw [hadvance]
    refine (hleast.comp h.saturate).congr fun i j => ?_
    simp only [Spans]
    constructor
    · rintro ⟨k, hk, n, hn⟩
      exact ⟨least + n, ⟨Nat.le_add_right _ _, fun _ h => nomatch h⟩,
        copies_add.mpr ⟨k, hk, hn⟩⟩
    · rintro ⟨n, ⟨hn, -⟩, hcopies⟩
      obtain ⟨d, rfl⟩ := Nat.exists_eq_add_of_le hn
      obtain ⟨k, hk, hd⟩ := copies_add.mp hcopies
      exact ⟨k, hk, d, hd⟩
  | some most =>
    have hadvance : advance text (.repeated a least (some most)) =
        fun s => (Regex.grow (advance text a))^[most - least] ((advance text a)^[least] s) := by
      funext s
      rw [advance, iterate_eq, iterate_eq]
      rfl
    rw [hadvance]
    refine (hleast.comp (h.grow.iterate (most - least))).congr fun i j => ?_
    simp only [Spans, copies_or_stay]
    constructor
    · rintro ⟨k, hk, d, hd, hcopies⟩
      exact ⟨least + d, ⟨Nat.le_add_right _ _, fun m hm => by cases hm; omega⟩,
        copies_add.mpr ⟨k, hk, hcopies⟩⟩
    · rintro ⟨n, ⟨hn, hmost⟩, hcopies⟩
      obtain ⟨d, rfl⟩ := Nat.exists_eq_add_of_le hn
      obtain ⟨k, hk, hd⟩ := copies_add.mp hcopies
      exact ⟨k, hk, d, by have := hmost most rfl; omega, hd⟩

-- The matcher is right about every expression.
theorem advance_carries (text : List Char) (r : Regex) :
    Carries text (advance text r) (Spans text r) := by
  induction r with
  | empty => exact Carries.id
  | chars set => exact carries_chars text set
  | look l => exact carries_look text l
  | seq a b ha hb => exact ha.comp hb
  | alt a b ha hb => exact ha.union hb
  | repeated a least most ha => exact carries_repeated ha least most

-- Some part of the text matches.
theorem holdsIn_iff (r : Regex) (text : String) :
    r.holdsIn text = true ↔ ∃ i j, i ≤ text.toList.length ∧ Spans text.toList r i j := by
  have hall (i : Nat) : (Nat.pow 2 (text.toList.length + 1) - 1).testBit i =
      decide (i < text.toList.length + 1) := Nat.testBit_two_pow_sub_one _ i
  have hwithin : Within text.toList (Nat.pow 2 (text.toList.length + 1) - 1) := fun i hi => by
    rw [hall, decide_eq_true_eq] at hi
    exact Nat.le_of_lt_succ hi
  have hbit (n : Nat) : n ≠ 0 ↔ ∃ j, n.testBit j = true := by
    constructor
    · exact Nat.exists_testBit_of_ne_zero
    · rintro ⟨j, hj⟩ rfl
      rw [Nat.zero_testBit] at hj
      exact Bool.noConfusion hj
  simp only [holdsIn, bne_iff_ne, hbit, (advance_carries text.toList r).mem hwithin, hall,
    decide_eq_true_eq, Nat.lt_succ_iff]
  exact exists_comm.trans (by simp only [exists_and_left])

theorem spans_textStart {text : List Char} {i j : Nat} :
    Spans text (.look .textStart) i j ↔ i = 0 ∧ j = 0 := by
  constructor
  · rintro ⟨⟨hi, hholds⟩, rfl⟩
    cases j with
    | zero => exact ⟨rfl, rfl⟩
    | succ j => simp [Look.holds, before?, List.getElem?_eq_getElem hi] at hholds
  · rintro ⟨rfl, rfl⟩
    exact ⟨⟨Nat.zero_le _, rfl⟩, rfl⟩

theorem spans_textEnd {text : List Char} {i j : Nat} :
    Spans text (.look .textEnd) i j ↔ i = text.length ∧ j = text.length := by
  constructor
  · rintro ⟨⟨hi, hholds⟩, rfl⟩
    have hge : text.length ≤ j := by simpa [Look.holds] using hholds
    exact ⟨Nat.le_antisymm hi hge, Nat.le_antisymm hi hge⟩
  · rintro ⟨rfl, rfl⟩
    exact ⟨⟨Nat.le_refl _, by simp [Look.holds]⟩, rfl⟩

-- An expression between the two ends of the text speaks of the whole text.
theorem holdsIn_whole (r : Regex) (text : String) :
    holdsIn (.seq (.look .textStart) (.seq r (.look .textEnd))) text = true ↔
      Spans text.toList r 0 text.toList.length := by
  rw [holdsIn_iff]
  constructor
  · rintro ⟨i, j, -, k, hstart, l, hr, hend⟩
    obtain ⟨-, rfl⟩ := spans_textStart.mp hstart
    obtain ⟨rfl, -⟩ := spans_textEnd.mp hend
    exact hr
  · intro hr
    exact ⟨0, _, Nat.zero_le _, 0, spans_textStart.mpr ⟨rfl, rfl⟩, _, hr,
      spans_textEnd.mpr ⟨rfl, rfl⟩⟩

end MetricRelay.Regex
