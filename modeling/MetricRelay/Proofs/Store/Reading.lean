import MetricRelay.Proofs.Read.Service
import MetricRelay.Proofs.Store.Judging
import Mathlib.Data.List.Flatten

-- What a search finds of the documents that were just written to the same name. It finds them all,
-- unless the name is both an index's and an alias's and the index is no member of the alias: then
-- the write goes into the index, and the search looks only behind the alias.

namespace MetricRelay.Store

variable {s : Store} {target : String} {docs : List Document} {outcomes : List Outcome}

-- How many documents there are.
def population (s : Store) : Nat := (s.indices.keys.flatMap s.documents).length

-- A search without conditions.
def everything (target : String) (size : Nat) : Search :=
  ⟨target, Int64.minValue, Int64.maxValue, [], size⟩

-- An index hidden from searches by an alias of its name.
def Eclipsed (s : Store) (target : String) : Prop :=
  s.indices.contains target = true ∧
    ∃ members, s.aliases.find? target = some members ∧ members.contains target = false

-- What a bulk request does that is answered.
theorem bulk_of_ok (h : (s.bulk target docs).1 = .ok outcomes) :
    ∃ index data, s.writeTarget target = .ok index ∧ s.indices.find? index = some data ∧
      (s.bulk target docs).2.aliases = s.aliases ∧
      (s.bulk target docs).2.indices =
        s.indices.insert index (data.append (accepted docs outcomes)) := by
  obtain ⟨index, data, hindex, hdata, -, hafter⟩ := bulk_eq_of_ok h
  rw [hafter]
  exact ⟨index, data, hindex, hdata, rfl, rfl⟩

theorem documents_of_ok {index : String} {data : IndexData} {t : Store} {more : List Document}
    (hdata : s.indices.find? index = some data)
    (ht : t.indices = s.indices.insert index (data.append more)) (other : String) :
    t.documents other = s.documents other ++ if index = other then more else [] := by
  rw [documents_insert s t index other _ ht]
  by_cases he : other = index
  · subst he
    simp [IndexData.append, documents, hdata]
  · simp [he, Ne.symm he]

-- Where a search looks, an index that takes more documents makes no difference.
theorem readTargets_congr {t : Store} (haliases : t.aliases = s.aliases)
    (hindices : t.indices.contains target = s.indices.contains target) :
    t.readTargets target = s.readTargets target := by
  unfold readTargets
  rw [haliases, hindices]

theorem nodup_readTargets (s : Store) (target : String) : (s.readTargets target).Nodup := by
  unfold readTargets
  split
  · exact Keyed.nodup_keys _
  · split <;> simp

-- The index written to is looked into, unless it is eclipsed.
theorem mem_readTargets_iff {index : String} (h : s.writeTarget target = .ok index) :
    index ∈ s.readTargets target ↔ ¬s.Eclipsed target := by
  unfold writeTarget at h
  by_cases hindex : s.indices.contains target = true
  · rw [if_pos hindex] at h
    cases h
    unfold readTargets Eclipsed
    cases hmembers : s.aliases.find? target with
    | none => simp [hindex]
    | some members => simp [hindex, Keyed.mem_keys_iff]
  · -- an alias's write index is one of its members
    have hlight : ¬s.Eclipsed target := fun he => hindex he.1
    rw [if_neg hindex] at h
    split at h
    · cases hw : s.writeIndex? target with
      | none =>
        rw [hw] at h
        cases h
      | some writer =>
        rw [hw] at h
        cases h
        obtain ⟨members, hmembers, hhead⟩ := Option.bind_eq_some_iff.mp hw
        have hflag := (mem_writers_iff members index).mp (List.mem_of_head? hhead)
        rw [readTargets_of_find? hmembers, Keyed.mem_keys_iff]
        exact iff_of_true (Keyed.contains_of_find? hflag) hlight
    · cases h

-- No search finds more documents than there are.
theorem length_reachable_le (s : Store) (target : String) :
    (s.reachable target).length ≤ s.population := by
  have hpresent : s.reachable target =
      ((s.readTargets target).filter fun index => s.indices.contains index).flatMap
        s.documents := by
    unfold reachable
    induction s.readTargets target with
    | nil => rfl
    | cons index rest ih =>
      rw [List.flatMap_cons, ih, List.filter_cons]
      by_cases hindex : s.indices.contains index = true
      · rw [if_pos hindex, List.flatMap_cons]
      · have hnone := (Keyed.not_contains_iff _ _).mp (Bool.eq_false_iff.mpr hindex)
        rw [if_neg hindex, documents_of_not_contains hnone, List.nil_append]
  have hsub : ((s.readTargets target).filter fun index => s.indices.contains index).Subperm
      s.indices.keys := by
    refine List.subperm_of_subset ((nodup_readTargets s target).filter _) fun index hi => ?_
    exact (Keyed.mem_keys_iff _ _).mpr (List.mem_filter.mp hi).2
  obtain ⟨present, hperm, hsublist⟩ := hsub
  rw [hpresent, ← (hperm.flatMap_right s.documents).length_eq]
  exact (hsublist.flatMap s.documents).length_le

theorem everything_holds (d : Document) :
    Search.Compiled.holds ⟨Int64.minValue, Int64.maxValue, []⟩ d = true := by
  have hleast : Int64.minValue ≤ d.timestamp := Int64.minValue_le d.timestamp
  have hmost : d.timestamp ≤ Int64.maxValue := Int64.le_maxValue d.timestamp
  simp [Search.Compiled.holds, hleast, hmost]

-- With room for every document a search without conditions finds all that are behind its target.
theorem search_everything (s : Store) (target : String) {size : Nat} (hsize : s.population ≤ size) :
    ∃ hits, s.search (everything target size) = .ok hits ∧ hits.Perm (s.reachable target) := by
  have hcompile : (everything target size).compile =
      .ok ⟨Int64.minValue, Int64.maxValue, []⟩ := rfl
  have hall : (s.reachable target).filter
      (Search.Compiled.holds ⟨Int64.minValue, Int64.maxValue, []⟩) = s.reachable target :=
    List.filter_eq_self.mpr fun d _ => everything_holds d
  have hfew : ((s.reachable (everything target size).target).filter
      (Search.Compiled.holds ⟨Int64.minValue, Int64.maxValue, []⟩)).length ≤
        (everything target size).size := by
    show ((s.reachable target).filter _).length ≤ size
    have hlength := s.length_reachable_le target
    rw [hall]
    omega
  obtain ⟨hits, hhits, hperm⟩ := search_of_few hcompile hfew
  exact ⟨hits, hhits, hall ▸ hperm⟩

-- After a bulk request a search of the same target finds what it would have found before and, if
-- the target is not eclipsed, every document that was accepted. If it is, it finds none of them.
theorem search_after_bulk (h : (s.bulk target docs).1 = .ok outcomes) {size : Nat}
    (hsize : (s.bulk target docs).2.population ≤ size) :
    ∃ hits, (s.bulk target docs).2.search (everything target size) = .ok hits ∧
      (¬s.Eclipsed target → hits.Perm (s.reachable target ++ accepted docs outcomes)) ∧
      (s.Eclipsed target → hits.Perm (s.reachable target)) ∧
      ((s.reachable target ++ accepted docs outcomes).Subperm hits ↔
        ¬s.Eclipsed target ∨ accepted docs outcomes = []) := by
  obtain ⟨index, data, hindex, hdata, haliases, hindices⟩ := bulk_of_ok h
  obtain ⟨hits, hhits, hperm⟩ := search_everything _ target hsize
  have hdocuments := documents_of_ok hdata hindices
  have hcontains : (s.bulk target docs).2.indices.contains target =
      s.indices.contains target := by
    rw [Bool.eq_iff_iff, hindices, Keyed.contains_insert]
    refine ⟨fun hc => hc.elim (fun he => ?_) id, .inr⟩
    exact he ▸ Keyed.contains_of_find? hdata
  unfold reachable at hperm
  rw [readTargets_congr haliases hcontains] at hperm
  have hlight : ¬s.Eclipsed target →
      hits.Perm (s.reachable target ++ accepted docs outcomes) := fun hlight =>
    hperm.trans (flatMap_perm_append (nodup_readTargets s target)
      ((mem_readTargets_iff hindex).mpr hlight) hdocuments)
  have hdark : s.Eclipsed target → hits.Perm (s.reachable target) := by
    intro hdark
    have hsame : (s.readTargets target).flatMap (s.bulk target docs).2.documents =
        s.reachable target := by
      refine List.flatMap_congr fun other ho => ?_
      have hne : index ≠ other := by
        intro he
        subst he
        exact (mem_readTargets_iff hindex).mp ho hdark
      rw [hdocuments, if_neg hne, List.append_nil]
    exact hsame ▸ hperm
  refine ⟨hits, hhits, hlight, hdark, ?_⟩
  by_cases he : s.Eclipsed target
  · have hlength := (hdark he).length_eq
    constructor
    · intro hsub
      have hle := hsub.length_le
      rw [List.length_append] at hle
      exact .inr (List.length_eq_zero_iff.mp (by omega))
    · intro hcase
      rw [hcase.resolve_left (not_not.mpr he), List.append_nil]
      exact (hdark he).symm.subperm
  · exact iff_of_true (hlight he).symm.subperm (.inl he)

-- An index, and an alias of its name with another index behind it.
def eclipse : Store :=
  after [.ask 0 (.createIndex "m" none none), .ask 0 (.createIndex "a" none (some "m"))]

def plain : Document := ⟨∅, 5, .zero false⟩

-- The document is accepted and stored, and a search of the name it was written to finds nothing.
theorem accepted_not_found :
    (eclipse.bulk "m" [plain]).1 = .ok [.accepted] ∧
    (eclipse.bulk "m" [plain]).2.population = 1 ∧
    (eclipse.bulk "m" [plain]).2.search (everything "m" 1) = .ok [] := by
  decide +kernel

-- Without the index of that name.
def daylight : Store := after [.ask 0 (.createIndex "a" none (some "m"))]

theorem accepted_found :
    ∃ hits, (daylight.bulk "m" [plain]).2.search (everything "m" 1) = .ok hits ∧
      hits.Perm (daylight.reachable "m" ++ [plain]) := by
  have hbulk : (daylight.bulk "m" [plain]).1 = .ok [.accepted] := by rfl
  have hroom : (daylight.bulk "m" [plain]).2.population ≤ 1 := by decide +kernel
  obtain ⟨hits, hhits, hlight, _⟩ := search_after_bulk hbulk hroom
  exact ⟨hits, hhits, hlight fun hdark => absurd hdark.1 (by decide +kernel)⟩

end MetricRelay.Store
