import MetricRelay.Keyed
import Mathlib.Data.List.Induction
import Mathlib.Data.List.Nodup
import Mathlib.Data.List.Sort

-- Looking up a key of a finite map after an insertion or an erasure, and in a map made of a list.

namespace MetricRelay.Keyed

variable {β : Type}

@[simp] theorem find?_empty (key : String) : (∅ : Keyed β).find? key = none := rfl

private theorem find?_insertEntry (key other : String) (value : β) (l : List (String × β))
    (hl : l.Pairwise fun a b => a.1 < b.1) :
    (insertEntry key value l).find? (fun e => e.1 == other) =
      if other = key then some (key, value) else l.find? fun e => e.1 == other := by
  induction l with
  | nil =>
    by_cases he : other = key
    · simp [insertEntry, he]
    · simp [insertEntry, he, Ne.symm he]
  | cons head rest ih =>
    obtain ⟨hhead, hrest⟩ := List.pairwise_cons.1 hl
    simp only [insertEntry]
    split
    · by_cases he : other = key
      · simp [he]
      · rw [List.find?_cons_of_neg (by simpa using Ne.symm he)]
        simp only [he, ite_false]
    · split
      · rename_i heq
        by_cases he : other = key
        · simp [he]
        · have hne : head.1 ≠ other := by rw [← heq]; exact Ne.symm he
          rw [List.find?_cons_of_neg (by simpa using Ne.symm he),
            List.find?_cons_of_neg (by simpa using hne)]
          simp only [he, ite_false]
      · rename_i hne
        by_cases hh : head.1 = other
        · have he : other ≠ key := by rw [← hh]; exact Ne.symm hne
          rw [List.find?_cons_of_pos (by simpa using hh),
            List.find?_cons_of_pos (by simpa using hh)]
          simp only [he, ite_false]
        · rw [List.find?_cons_of_neg (by simpa using hh),
            List.find?_cons_of_neg (by simpa using hh)]
          exact ih hrest

theorem find?_insert (m : Keyed β) (key other : String) (value : β) :
    (m.insert key value).find? other = if other = key then some value else m.find? other := by
  have h := find?_insertEntry key other value m.entries m.increasing
  unfold find? insert
  rw [h]
  split <;> rfl

@[simp] theorem find?_insert_self (m : Keyed β) (key : String) (value : β) :
    (m.insert key value).find? key = some value := by
  rw [find?_insert, if_pos rfl]

theorem find?_insert_of_ne (m : Keyed β) {key other : String} (value : β) (hne : other ≠ key) :
    (m.insert key value).find? other = m.find? other := by
  rw [find?_insert, if_neg hne]

theorem find?_erase (m : Keyed β) (key other : String) :
    (m.erase key).find? other = if other = key then none else m.find? other := by
  unfold find? erase
  rw [List.find?_filter]
  by_cases he : other = key
  · rw [if_pos he, List.find?_eq_none.mpr]
    · rfl
    · intro e _
      by_cases h : e.1 = key <;> simp [h, he]
  · rw [if_neg he]
    congr 2
    funext e
    by_cases h : e.1 = other
    · simp [h, he]
    · simp [h]

theorem contains_iff (m : Keyed β) (key : String) :
    m.contains key = true ↔ ∃ value, m.find? key = some value :=
  Option.isSome_iff_exists

theorem contains_of_find? {m : Keyed β} {key : String} {value : β}
    (h : m.find? key = some value) : m.contains key = true :=
  (contains_iff m key).mpr ⟨value, h⟩

theorem not_contains_iff (m : Keyed β) (key : String) :
    m.contains key = false ↔ m.find? key = none := by
  rw [contains, Option.isSome_eq_false_iff, Option.isNone_iff_eq_none]

theorem contains_insert (m : Keyed β) (key other : String) (value : β) :
    (m.insert key value).contains other = true ↔ other = key ∨ m.contains other = true := by
  unfold contains
  rw [find?_insert]
  by_cases he : other = key <;> simp [he]

theorem contains_erase (m : Keyed β) (key other : String) :
    (m.erase key).contains other = true ↔ other ≠ key ∧ m.contains other = true := by
  unfold contains
  rw [find?_erase]
  by_cases he : other = key <;> simp [he]

theorem mem_toList_iff (m : Keyed β) (key : String) (value : β) :
    (key, value) ∈ m.toList ↔ m.find? key = some value := by
  obtain ⟨l, hl⟩ := m
  unfold toList find?
  constructor
  · intro hm
    induction l with
    | nil => simp at hm
    | cons head rest ih =>
      obtain ⟨hhead, hrest⟩ := List.pairwise_cons.1 hl
      cases List.mem_cons.1 hm with
      | inl he => simp [← he]
      | inr hr =>
        have hne : head.1 ≠ key := fun he => String.lt_irrefl _ (he ▸ hhead _ hr)
        rw [List.find?_cons_of_neg (by simpa using hne)]
        exact ih hrest hr
  · intro hf
    obtain ⟨e, he, rfl⟩ := Option.map_eq_some_iff.mp hf
    have hk : e.1 = key := by simpa using List.find?_some he
    have hmem := List.mem_of_find?_eq_some he
    rw [← hk]
    exact hmem

theorem nodup_keys (m : Keyed β) : m.keys.Nodup := by
  apply List.Pairwise.map Prod.fst _ m.increasing
  intro a b hab he
  exact String.lt_irrefl _ (he ▸ hab)

theorem mem_keys_iff (m : Keyed β) (key : String) : key ∈ m.keys ↔ m.contains key = true := by
  rw [contains_iff]
  constructor
  · intro h
    obtain ⟨e, he, rfl⟩ := List.mem_map.mp h
    exact ⟨e.2, (mem_toList_iff m e.1 e.2).mp he⟩
  · rintro ⟨value, h⟩
    exact List.mem_map.mpr ⟨(key, value), (mem_toList_iff m key value).mpr h, rfl⟩

-- A new key is one more.
theorem keys_insert_perm (m : Keyed β) (key : String) (value : β) :
    (m.insert key value).keys.Perm (if m.contains key then m.keys else key :: m.keys) := by
  by_cases hc : m.contains key = true
  · rw [if_pos hc]
    refine (List.perm_ext_iff_of_nodup (nodup_keys _) (nodup_keys _)).mpr fun other => ?_
    rw [mem_keys_iff, mem_keys_iff, contains_insert]
    exact ⟨fun h => h.elim (fun he => he ▸ hc) id, .inr⟩
  · have hnodup : (key :: m.keys).Nodup :=
      List.nodup_cons.mpr ⟨fun h => hc ((mem_keys_iff m key).mp h), nodup_keys m⟩
    rw [if_neg hc]
    refine (List.perm_ext_iff_of_nodup (nodup_keys _) hnodup).mpr fun other => ?_
    rw [mem_keys_iff, contains_insert, List.mem_cons, mem_keys_iff]

theorem isEmpty_eq_false_iff (m : Keyed β) :
    m.isEmpty = false ↔ ∃ key, m.contains key = true := by
  simp only [← mem_keys_iff]
  unfold isEmpty keys
  cases m.entries with
  | nil => simp
  | cons e rest => exact ⟨fun _ => ⟨e.1, by simp⟩, fun _ => rfl⟩

-- Maps that answer alike are equal.
theorem ext_find? {m n : Keyed β} (h : ∀ key, m.find? key = n.find? key) : m = n := by
  have hnodup : ∀ l : Keyed β, l.toList.Nodup := fun l => (nodup_keys l).of_map Prod.fst
  have hperm : m.toList.Perm n.toList :=
    (List.perm_ext_iff_of_nodup (hnodup m) (hnodup n)).mpr fun ⟨key, value⟩ => by
      rw [mem_toList_iff, mem_toList_iff, h]
  refine ext (hperm.eq_of_pairwise ?_ m.increasing n.increasing)
  intro a b _ _ hab hba
  exact absurd (String.lt_trans hab hba) (String.lt_irrefl _)

theorem insert_eq_self {m : Keyed β} {key : String} {value : β}
    (h : m.find? key = some value) : m.insert key value = m := by
  refine ext_find? fun other => ?_
  rw [find?_insert]
  split
  · rename_i he
    rw [he, h]
  · rfl

theorem modify_of_find? {m : Keyed β} {key : String} {value : β} (h : m.find? key = some value)
    (f : β → β) : m.modify key f = m.insert key (f value) := by
  rw [modify, h]

-- Only the value of one key has a property.
theorem filter_values_eq_singleton {m : Keyed β} {p : β → Bool} {key : String} {value : β}
    (hfind : m.find? key = some value)
    (hp : ∀ other v, m.find? other = some v → (p v = true ↔ other = key)) :
    m.values.filter p = [value] := by
  have hnodup : (m.entries.filter (p ∘ Prod.snd)).Nodup :=
    (List.Nodup.of_map Prod.fst (nodup_keys m)).filter _
  have hperm : (m.entries.filter (p ∘ Prod.snd)).Perm [(key, value)] := by
    refine (List.perm_ext_iff_of_nodup hnodup (List.nodup_singleton _)).mpr fun ⟨other, v⟩ => ?_
    rw [List.mem_filter, List.mem_singleton, ← toList, mem_toList_iff]
    constructor
    · rintro ⟨hother, hpv⟩
      obtain rfl := (hp other v hother).mp hpv
      rw [hfind] at hother
      cases hother
      rfl
    · intro he
      cases he
      exact ⟨hfind, (hp key value hfind).mpr rfl⟩
  rw [values, List.filter_map, List.perm_singleton.mp hperm]
  rfl

-- Entries put in one after another.

theorem contains_foldl_insert (m : Keyed β) (l : List (String × β)) (key : String) :
    (l.foldl (fun m e => m.insert e.1 e.2) m).contains key = true ↔
      key ∈ l.map Prod.fst ∨ m.contains key = true := by
  induction l generalizing m with
  | nil => simp
  | cons e l ih =>
    rw [List.foldl_cons, ih, contains_insert, List.map_cons, List.mem_cons]
    tauto

theorem contains_ofList (l : List (String × β)) (key : String) :
    (ofList l).contains key = true ↔ key ∈ l.map Prod.fst := by
  rw [ofList, contains_foldl_insert]
  exact or_iff_left Bool.false_ne_true

-- Of a list without a repeated key nothing is lost.
theorem find?_ofList {l : List (String × β)} (hl : (l.map Prod.fst).Nodup) (key : String)
    (value : β) : (ofList l).find? key = some value ↔ (key, value) ∈ l := by
  induction l using List.reverseRecOn with
  | nil => simp [ofList, empty, find?]
  | append_singleton l e ih =>
    rw [List.map_append, List.nodup_append] at hl
    obtain ⟨hinit, _, hdisjoint⟩ := hl
    rw [ofList, List.foldl_append, List.foldl_cons, List.foldl_nil, find?_insert,
      List.mem_append, List.mem_singleton]
    by_cases hk : key = e.1
    · have hnot : (key, value) ∉ l := fun hmem =>
        hdisjoint key (List.mem_map.mpr ⟨_, hmem, rfl⟩) e.1 (by simp) hk
      rw [if_pos hk, Option.some.injEq, or_iff_right hnot, Prod.ext_iff]
      exact ⟨fun h => ⟨hk, h.symm⟩, fun h => h.2.symm⟩
    · have hne : (key, value) ≠ e := fun he => hk (congrArg Prod.fst he)
      rw [if_neg hk, or_iff_left hne]
      exact ih hinit

-- However the entries are ordered.
theorem ofList_perm {l l' : List (String × β)} (hl : (l.map Prod.fst).Nodup) (h : l'.Perm l) :
    ofList l' = ofList l := by
  have hl' : (l'.map Prod.fst).Nodup := (h.map Prod.fst).nodup_iff.mpr hl
  refine ext_find? fun key => Option.ext fun value => ?_
  rw [find?_ofList hl', find?_ofList hl, h.mem_iff]

theorem ofList_toList (m : Keyed β) : ofList m.toList = m := by
  refine ext_find? fun key => Option.ext fun value => ?_
  exact (find?_ofList (nodup_keys m) key value).trans (mem_toList_iff m key value)

end MetricRelay.Keyed
