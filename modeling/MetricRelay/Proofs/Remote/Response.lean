import MetricRelay.Proofs.Remote.Message
import MetricRelay.Proofs.Remote.Snappy
import MetricRelay.Remote.Body

-- The answer to a read: whoever reads it finds the series it was made from, query by query and in
-- their order, with the labels of each in the order of their names.

namespace MetricRelay.Remote

open Protobuf

-- A series as it stands in a message that was read.
theorem received_ofSeries (s : Series) :
    (ofSeries s).received = ⟨s.labels.toList, s.points.map received⟩ := rfl

-- Nothing is dropped for being empty: not a query without series, nor a series without labels
-- or points, nor a field that holds its default. Only a message that no length prefix could
-- count is left out of account, and what is compressed is always shorter.
theorem readResponse_readMessage (results : List (List Series))
    (hlength : (readMessage results).length < UInt64.size) :
    ((readMessage results).length ≤ Snappy.maxLength →
      Snappy.decode? (encodeRead results) = some (readMessage results)) ∧
    ∃ response, readResponse? (readMessage results) = some response ∧
      response = results.map (fun result =>
        result.map fun s => ⟨s.labels.toList, s.points.map received⟩) ∧
      ∀ result ∈ response, ∀ s ∈ result, s.labels.Pairwise fun l m => l.1 < m.1 := by
  refine ⟨Snappy.decode?_encode _, _, readResponse_read _ hlength, ?_, ?_⟩
  · rw [List.map_map]
    refine List.map_congr_left fun result _ => ?_
    rw [Function.comp_apply, List.map_map]
    exact List.map_congr_left fun s _ => received_ofSeries s
  · intro result hresult s hs
    rw [List.map_map] at hresult
    obtain ⟨given, _, rfl⟩ := List.mem_map.mp hresult
    rw [Function.comp_apply, List.map_map] at hs
    obtain ⟨origin, _, rfl⟩ := List.mem_map.mp hs
    exact origin.labels.increasing

-- A query without series, then one whose series have no labels, no points, a label without a
-- value, a point at the epoch and a negative zero.
def sparse : List (List Series) :=
  [[], [⟨∅, []⟩, ⟨Keyed.ofList [("__name__", "up"), ("job", "")],
    [⟨0, .nan⟩, ⟨0, .zero true⟩, ⟨-5, .zero false⟩]⟩, ⟨∅, [⟨7, .nan⟩]⟩], []]

theorem sparse_read :
    (readMessage sparse).length < UInt64.size ∧ (readMessage sparse).length ≤ Snappy.maxLength ∧
    Snappy.decode? (encodeRead sparse) = some (readMessage sparse) ∧
    readResponse? (readMessage sparse) = some [[], [⟨[], []⟩,
      ⟨[("__name__", "up"), ("job", "")], [⟨0, .nan⟩, ⟨0, .zero false⟩, ⟨-5, .zero false⟩]⟩,
      ⟨[], [⟨7, .nan⟩]⟩], []] := by
  have hlength : (readMessage sparse).length < UInt64.size := by decide +kernel
  have hblock : (readMessage sparse).length ≤ Snappy.maxLength := by decide +kernel
  obtain ⟨hcompressed, response, hread, rfl, _⟩ := readResponse_readMessage sparse hlength
  refine ⟨hlength, hblock, hcompressed hblock, hread.trans ?_⟩
  decide +kernel

end MetricRelay.Remote
