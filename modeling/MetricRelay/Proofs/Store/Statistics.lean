import MetricRelay.Proofs.Store.Documents
import MetricRelay.Proofs.Store.Failure
import MetricRelay.Proofs.Store.Judging
import Mathlib.Algebra.Ring.Nat

-- The size that is told of an index is the total length of its documents, after any history of the
-- store. What a bulk request adds to it are the documents it accepts, in their order.

namespace MetricRelay.Store

variable {s : Store}

-- The total length of some documents' texts.
def extent (docs : List Document) : Nat := (docs.map Document.textBytes).sum

@[simp] theorem extent_nil : extent [] = 0 := rfl

theorem extent_append (docs more : List Document) :
    extent (docs ++ more) = extent docs + extent more := by
  rw [extent, List.map_append, List.sum_append]
  rfl

-- An index that tells its documents' total length.
def IndexData.Measured (data : IndexData) : Prop := data.bytes = extent data.documents

theorem bytes_append (data : IndexData) (docs : List Document) :
    (data.append docs).bytes = data.bytes + extent docs := by
  rw [extent, List.sum_eq_foldl, List.foldl_map]
  rfl

theorem IndexData.Measured.append {data : IndexData} (h : data.Measured) (docs : List Document) :
    (data.append docs).Measured := by
  unfold Measured at h ⊢
  rw [bytes_append, h, ← extent_append]
  rfl

def Measured (s : Store) : Prop :=
  ∀ index data, s.indices.find? index = some data → data.Measured

theorem empty_measured : empty.Measured := by
  intro index data hdata
  cases hdata

theorem Measured.congr {t : Store} (hs : s.Measured) (h : t.indices = s.indices) :
    t.Measured := by
  unfold Measured
  rw [h]
  exact hs

theorem Measured.insert {t : Store} {made : String} {data : IndexData} (hs : s.Measured)
    (hdata : data.Measured) (h : t.indices = s.indices.insert made data) : t.Measured := by
  intro index found hfound
  rw [h, Keyed.find?_insert] at hfound
  split at hfound
  · cases hfound
    exact hdata
  · exact hs index found hfound

theorem bulk_measured (hs : s.Measured) (target : String) (docs : List Document) :
    (s.bulk target docs).2.Measured := by
  cases hbulk : (s.bulk target docs).1 with
  | error e => exact hs.congr (bulk_harmless hbulk).alike.indices
  | ok outcomes =>
    obtain ⟨index, data, -, hdata, -, hafter⟩ := bulk_eq_of_ok hbulk
    rw [hafter]
    exact hs.insert ((hs index data hdata).append _) rfl

theorem createIndex_measured (hs : s.Measured) (now : Int64) (made : String)
    (asked : Option Index.Settings) (writeAlias : Option String) :
    (s.createIndex now made asked writeAlias).2.Measured := by
  rcases indices_createIndex s now made asked writeAlias with hsame | ⟨-, hmade⟩
  · exact hs.congr hsame
  · have hnew : (⟨s.settingsFor made asked, now, [], 0⟩ : IndexData).Measured := rfl
    exact hs.insert hnew hmade

theorem occur_measured (hs : s.Measured) (e : Event) : (s.occur e).Measured := by
  cases e with
  | inject faults => exact hs
  | ask now r =>
    cases r with
    | bulk target docs => exact bulk_measured hs target docs
    | createIndex made asked writeAlias => exact createIndex_measured hs now made asked writeAlias
    | updateAliases actions => exact hs.congr (indices_updateAliases s actions)
    | putTemplate template =>
      refine hs.congr ?_
      change (s.putTemplate template).2.indices = s.indices
      unfold putTemplate
      split <;> rfl
    | writeIndex _ => exact hs
    | indexStats _ => exact hs
    | search _ => exact hs
    | ping => exact hs

theorem after_measured (events : List Event) : (after events).Measured :=
  List.foldlRecOn events occur empty_measured fun _ hs e _ => occur_measured hs e

theorem indexStats_of_find? {index : String} {data : IndexData} (hs : s.Measured)
    (h : s.indices.find? index = some data) :
    s.indexStats index =
      .ok ⟨index, data.documents.length, extent data.documents, data.created⟩ := by
  unfold indexStats
  rw [h]
  dsimp only
  rw [hs index data h]

-- Nothing is told to take no space.
theorem bytes_of_empty {index : String} {stats : IndexStats} (hs : s.Measured)
    (h : s.indexStats index = .ok stats) (hempty : stats.documents = 0) : stats.bytes = 0 := by
  cases hdata : s.indices.find? index with
  | none =>
    rw [indexStats, hdata] at h
    cases h
  | some data =>
    rw [indexStats_of_find? hs hdata] at h
    cases h
    rw [List.length_eq_zero_iff.mp hempty]
    rfl

-- Statistics tell the number of an index's documents and their total length. A bulk request that
-- is answered has an outcome for each document. It adds the accepted ones to the index it goes to,
-- in their order, and leaves the other indices alone; it uses up an injected rejection for each
-- document that is to be sent again. Accepted are those behind the injected rejections whose value
-- is a number and whose content is not refused.
theorem statistics_exact (events : List Event) :
    let s := after events
    (∀ index data, s.indices.find? index = some data →
      data.bytes = extent data.documents ∧
      s.indexStats index =
        .ok ⟨index, data.documents.length, extent data.documents, data.created⟩) ∧
    ∀ target docs outcomes, (s.bulk target docs).1 = .ok outcomes →
      let t := (s.bulk target docs).2
      outcomes.length = docs.length ∧
      (∃ index data, s.writeTarget target = .ok index ∧ s.indices.find? index = some data ∧
        t.indices.find? index =
          some { data with documents := data.documents ++ accepted docs outcomes,
                           bytes := data.bytes + extent (accepted docs outcomes) } ∧
        ∀ other, other ≠ index → t.indices.find? other = s.indices.find? other) ∧
      accepted docs outcomes = (docs.drop s.faults.documents).filter (fun d =>
        d.value.isFinite = true ∧ s.faults.rejects d = none) ∧
      (∀ d ∈ accepted docs outcomes, d.value.isFinite = true) ∧
      s.faults.documents = t.faults.documents + outcomes.countP Outcome.isRetryable := by
  intro s
  have hs := after_measured events
  refine ⟨fun index data hdata => ⟨hs index data hdata, indexStats_of_find? hs hdata⟩,
    fun target docs outcomes h => ?_⟩
  obtain ⟨index, data, htarget, hdata, houtcomes, hafter⟩ := bulk_eq_of_ok h
  have haccepted : accepted docs outcomes = (docs.drop s.faults.documents).filter (fun d =>
      d.value.isFinite = true ∧ s.faults.rejects d = none) := by
    rw [houtcomes, accepted_judgeAll]
    simp only [verdict_eq_accepted_iff]
  refine ⟨?_, ⟨index, data, htarget, hdata, ?_, fun other hother => ?_⟩, haccepted,
    fun d hd => ?_, ?_⟩
  · rw [houtcomes, length_judgeAll]
  · rw [hafter, Keyed.find?_insert_self, ← bytes_append]
    rfl
  · rw [hafter, Keyed.find?_insert_of_ne _ _ hother]
  · rw [haccepted] at hd
    exact (of_decide_eq_true (List.mem_filter.mp hd).2).1
  · rw [hafter, houtcomes, countP_judgeAll, judgeAll_eq]
    dsimp only
    omega

-- An index behind an alias, with one rejection to come.
def strained : List Event :=
  [.ask 0 (.createIndex "m-000001" none (some "m")), .inject { Faults.none with documents := 1 }]

-- Of three documents the first is rejected, the second is stored and the third is no number.
theorem second_of_three_stored :
    let s := after strained
    let docs : List Document := [⟨∅, 4, .zero false⟩, ⟨∅, 5, .zero false⟩, ⟨∅, 6, .nan⟩]
    let t := (s.bulk "m" docs).2
    (∃ outcomes, (s.bulk "m" docs).1 = .ok outcomes ∧
      accepted docs outcomes = [⟨∅, 5, .zero false⟩] ∧
      s.faults.documents = t.faults.documents + outcomes.countP Outcome.isRetryable) ∧
    t.faults.documents = 0 := by
  intro s docs t
  have hbulk : (s.bulk "m" docs).1 = .ok [injected, .accepted,
      .permanent "mapper_parsing_exception: [value] supports only finite values"] := rfl
  obtain ⟨-, hstored⟩ := statistics_exact strained
  obtain ⟨-, -, haccepted, -, hused⟩ := hstored "m" docs _ hbulk
  refine ⟨⟨_, hbulk, haccepted.trans ?_, hused⟩, rfl⟩
  decide

end MetricRelay.Store
