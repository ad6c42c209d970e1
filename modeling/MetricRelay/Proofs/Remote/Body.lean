import MetricRelay.Proofs.Remote.Message
import MetricRelay.Proofs.Remote.Snappy
import MetricRelay.Proofs.Sample
import MetricRelay.Remote.Body

-- What a written message stands for once it has been compressed and read: its samples, in the order
-- of its series and of the points in each, or what is wrong with the first series that has a point
-- and is no metric's.

namespace MetricRelay.Remote

open Protobuf

-- A series is sound when its points, should it have any, can be samples.
def TimeSeries.Sound (s : TimeSeries) : Prop := s.samples ≠ [] → WellLabelled s.labels

-- What a sample carries, its metric among the labels.
def content (s : Sample) : Labels × Int64 × Binary64 := (s.labelSet, s.timestamp, s.value)

-- What a series carries, point by point.
def TimeSeries.contents (s : TimeSeries) : List (Labels × Int64 × Binary64) :=
  s.samples.map fun p => (Keyed.ofList s.labels, p.timestamp, p.value)

theorem mapM_ofPairs {labels : List (String × String)} (h : WellLabelled labels)
    (points : List Point) : ∃ samples,
      points.mapM (fun p => Sample.ofPairs labels p.timestamp p.value) = .ok samples ∧
        samples.map content = points.map fun p => (Keyed.ofList labels, p.timestamp, p.value) := by
  induction points with
  | nil => exact ⟨[], rfl, rfl⟩
  | cons p points ih =>
    obtain ⟨s, hs, hlabels, htime, hvalue⟩ := Sample.ofPairs_eq_ok h p.timestamp p.value
    obtain ⟨samples, hsamples, hcontent⟩ := ih
    refine ⟨s :: samples, ?_, ?_⟩
    · rw [List.mapM_cons, hs, hsamples]
      rfl
    · rw [List.map_cons, List.map_cons, hcontent, content, hlabels, htime, hvalue]

theorem TimeSeries.toSamples_of_sound {s : TimeSeries} (h : s.Sound) : ∃ samples,
    s.toSamples = .ok samples ∧ samples.map content = s.contents := by
  by_cases hnone : s.samples = []
  · exact ⟨[], by rw [toSamples, hnone]; rfl, by rw [contents, hnone]; rfl⟩
  · exact mapM_ofPairs (h hnone) s.samples

-- The first point already fails.
theorem TimeSeries.toSamples_of_refused {s : TimeSeries} {e : Error} (hsome : s.samples ≠ [])
    (h : Refused s.labels e) : s.toSamples = .error e := by
  obtain ⟨p, points, hp⟩ := List.exists_cons_of_ne_nil hsome
  rw [toSamples, hp, List.mapM_cons, Sample.ofPairs_eq_error h]
  rfl

theorem mapM_toSamples {request : List TimeSeries} (h : ∀ s ∈ request, s.Sound) : ∃ samples,
    request.mapM TimeSeries.toSamples = .ok samples ∧
      samples.flatten.map content = request.flatMap TimeSeries.contents := by
  induction request with
  | nil => exact ⟨[], rfl, rfl⟩
  | cons s request ih =>
    obtain ⟨first, hfirst, hcontents⟩ := s.toSamples_of_sound (h s List.mem_cons_self)
    obtain ⟨rest, hrest, hall⟩ := ih fun t ht => h t (List.mem_cons_of_mem s ht)
    refine ⟨first :: rest, ?_, ?_⟩
    · rw [List.mapM_cons, hfirst, hrest]
      rfl
    · rw [List.flatten_cons, List.map_append, hcontents, hall, List.flatMap_cons]

theorem mapM_toSamples_of_refused {before after : List TimeSeries} {s : TimeSeries} {e : Error}
    (hbefore : ∀ t ∈ before, t.Sound) (hsome : s.samples ≠ []) (h : Refused s.labels e) :
    (before ++ s :: after).mapM TimeSeries.toSamples = .error e := by
  obtain ⟨samples, hsamples, _⟩ := mapM_toSamples hbefore
  rw [List.mapM_append, hsamples, List.mapM_cons, TimeSeries.toSamples_of_refused hsome h]
  rfl

theorem decodeWrite_of_decode? {body : Bytes} {request : List TimeSeries}
    (hbody : Snappy.decode? body = some (writeRequestBytes request))
    (hzero : ∀ s ∈ request, ∀ p ∈ s.samples, p.value ≠ .zero true) :
    decodeWrite body = (do return (← request.mapM TimeSeries.toSamples).flatten) := by
  have hmax : Snappy.maxLength < UInt64.size := by decide
  have hlength := Nat.lt_of_le_of_lt (Snappy.length_le_of_decode? hbody) hmax
  have hreceived : request.map TimeSeries.received = request := by
    refine (List.map_congr_left fun s hs => ?_).trans (List.map_id request)
    have hpoints : s.samples.map received = s.samples.map id :=
      List.map_congr_left fun p hp => received_eq_self (hzero s hs p hp)
    rw [TimeSeries.received, hpoints, List.map_id, id]
  rw [decodeWrite, hbody, Option.bind_some, writeRequest_read request hlength, hreceived]

-- Any compression of the message will do. The samples stand in the order of the series and then
-- of the points, each with the labels of its own series; or else the first series that has a
-- point and is not well labelled decides, before anything of the later ones is looked at.
theorem decodeWrite_writeRequestBytes (request : List TimeSeries) (body : Bytes)
    (hbody : Snappy.decode? body = some (writeRequestBytes request))
    (hzero : ∀ s ∈ request, ∀ p ∈ s.samples, p.value ≠ .zero true) :
    ((∀ s ∈ request, s.samples ≠ [] → WellLabelled s.labels) →
      ∃ samples, decodeWrite body = .ok samples ∧
        samples.map content = request.flatMap TimeSeries.contents) ∧
    ∀ before s after, request = before ++ s :: after →
      (∀ t ∈ before, t.samples ≠ [] → WellLabelled t.labels) →
      s.samples ≠ [] → ¬WellLabelled s.labels →
        ∃ e, Refused s.labels e ∧ decodeWrite body = .error e := by
  rw [decodeWrite_of_decode? hbody hzero]
  constructor
  · intro hsound
    obtain ⟨samples, hsamples, hcontents⟩ := mapM_toSamples hsound
    exact ⟨samples.flatten, by rw [hsamples]; rfl, hcontents⟩
  · rintro before s after rfl hbefore hsome hill
    obtain ⟨e, he⟩ := exists_refused hill
    exact ⟨e, he, by rw [mapM_toSamples_of_refused hbefore hsome he]; rfl⟩

-- A series of two points and one that has none, and whose labels do not matter.
def measured : List TimeSeries :=
  [⟨[("job", "api"), ("__name__", "up")], [⟨10, .nan⟩, ⟨-20, .zero false⟩]⟩, ⟨[("", "")], []⟩]

def doubled : TimeSeries := ⟨[("__name__", "up"), ("job", "a"), ("job", "b")], [⟨30, .nan⟩]⟩

theorem measured_read :
    (∃ samples, decodeWrite (Snappy.encode (writeRequestBytes measured)) = .ok samples ∧
      samples.map content =
        [(Keyed.ofList [("job", "api"), ("__name__", "up")], 10, .nan),
          (Keyed.ofList [("job", "api"), ("__name__", "up")], -20, .zero false)]) ∧
    ∃ e, Refused doubled.labels e ∧
      decodeWrite (Snappy.encode (writeRequestBytes (measured ++ [doubled]))) = .error e := by
  have hmeasured : ∀ s ∈ measured, s.samples ≠ [] → WellLabelled s.labels := by
    intro s hs hsome
    simp only [measured, List.mem_cons, List.not_mem_nil, or_false] at hs
    obtain rfl | rfl := hs
    · exact ⟨by decide, by decide, "up", by decide, by decide⟩
    · exact absurd rfl hsome
  have hdoubled : ¬WellLabelled doubled.labels := fun h => absurd h.distinct (by decide)
  have hblock := Snappy.decode?_encode (writeRequestBytes measured) (by decide +kernel)
  have hlonger := Snappy.decode?_encode (writeRequestBytes (measured ++ [doubled]))
    (by decide +kernel)
  exact ⟨(decodeWrite_writeRequestBytes measured _ hblock (by decide)).1 hmeasured,
    (decodeWrite_writeRequestBytes _ _ hlonger (by decide)).2 measured doubled [] rfl hmeasured
      (by decide) hdoubled⟩

end MetricRelay.Remote
