import MetricRelay.Proofs.Read.Series

-- Found documents sorted out into series. Every document of a metric is one point of the series of
-- its labels and every other counts for nothing; the order in which documents were found only shows
-- among those of one series and one instant.

namespace MetricRelay

-- Labels of a metric: it is named, and no label is without a name.
def Labels.isMetric (labels : Labels) : Bool :=
  (labels.find? nameLabel).any (· != "") && !labels.contains ""

theorem wellLabelled_toList_iff (labels : Labels) :
    WellLabelled labels.toList ↔ labels.isMetric = true := by
  unfold Labels.isMetric
  rw [Bool.and_eq_true, Bool.not_eq_true', Option.any_eq_true]
  constructor
  · rintro ⟨_, hfull, metric, hmem, hne⟩
    refine ⟨⟨metric, (Keyed.mem_toList_iff _ _ _).mp hmem, by simpa using hne⟩, ?_⟩
    rw [Keyed.not_contains_iff, Option.eq_none_iff_forall_ne_some]
    intro value hvalue
    exact hfull _ ((Keyed.mem_toList_iff _ _ _).mpr hvalue) rfl
  · rintro ⟨⟨metric, hfind, hne⟩, hempty⟩
    refine ⟨Keyed.nodup_keys labels, ?_, metric, (Keyed.mem_toList_iff _ _ _).mpr hfind,
      by simpa using hne⟩
    rintro ⟨name, value⟩ hl rfl
    rw [Keyed.not_contains_iff, (Keyed.mem_toList_iff _ _ _).mp hl] at hempty
    cases hempty

namespace Document

def point (d : Document) : Point := ⟨d.timestamp, d.value⟩

theorem toSample_of_metric {d : Document} (h : d.labels.isMetric = true) :
    ∃ s, d.toSample = .ok s ∧ s.labelSet = d.labels ∧ s.point = d.point := by
  obtain ⟨s, hs, hlabels, htimestamp, hvalue⟩ :=
    Sample.ofPairs_eq_ok ((wellLabelled_toList_iff d.labels).mpr h) d.timestamp d.value
  rw [Keyed.ofList_toList] at hlabels
  refine ⟨s, hs, hlabels, ?_⟩
  simp [Sample.point, point, htimestamp, hvalue]

theorem toSample_of_no_metric {d : Document} (h : ¬d.labels.isMetric = true) :
    ∃ e, d.toSample = .error e := by
  rw [← wellLabelled_toList_iff] at h
  obtain ⟨e, he⟩ := exists_refused h
  exact ⟨e, Sample.ofPairs_eq_error he d.timestamp d.value⟩

end Document

namespace Series

-- The points of the hits that have these labels, in the order of the hits.
def pointsFound (hits : List Document) (labels : Labels) : List Point :=
  (hits.filter fun d => d.labels.isMetric && decide (d.labels = labels)).map Document.point

theorem pointsOf_samplesOf (hits : List Document) (labels : Labels) :
    pointsOf (samplesOf hits) labels = pointsFound hits labels := by
  induction hits with
  | nil => rfl
  | cons d rest ih =>
    unfold pointsOf samplesOf pointsFound at ih ⊢
    by_cases hmetric : d.labels.isMetric = true
    · obtain ⟨s, hs, hlabels, hpoint⟩ := Document.toSample_of_metric hmetric
      have hsome : d.toSample.toOption = some s := by rw [hs]; rfl
      simp only [List.filterMap_cons, hsome, List.filter_cons, hlabels, hmetric, Bool.true_and]
      by_cases hl : d.labels = labels
      · simp [hl, hpoint, ih]
      · simp [hl, ih]
    · obtain ⟨e, he⟩ := Document.toSample_of_no_metric hmetric
      have hnone : d.toSample.toOption = none := by rw [he]; rfl
      simp [hnone, hmetric, ih]

theorem exists_sample_iff (hits : List Document) (labels : Labels) :
    (∃ s ∈ samplesOf hits, s.labelSet = labels) ↔
      ∃ d ∈ hits, d.labels.isMetric = true ∧ d.labels = labels := by
  unfold samplesOf
  simp only [List.mem_filterMap]
  constructor
  · rintro ⟨s, ⟨d, hd, hs⟩, hl⟩
    by_cases hmetric : d.labels.isMetric = true
    · obtain ⟨t, ht, hlabels, _⟩ := Document.toSample_of_metric hmetric
      rw [ht] at hs
      cases hs
      exact ⟨d, hd, hmetric, hlabels.symm.trans hl⟩
    · obtain ⟨e, he⟩ := Document.toSample_of_no_metric hmetric
      rw [he] at hs
      cases hs
  · rintro ⟨d, hd, hmetric, hl⟩
    obtain ⟨s, hs, hlabels, _⟩ := Document.toSample_of_metric hmetric
    exact ⟨s, ⟨d, hd, by rw [hs]; rfl⟩, hlabels.trans hl⟩

-- Points in the order of time.

def atInstant (t : Int64) (points : List Point) : List Point :=
  points.filter fun p => decide (p.timestamp = t)

theorem mem_atInstant {t : Int64} {points : List Point} {p : Point} :
    p ∈ atInstant t points ↔ p ∈ points ∧ p.timestamp = t := by
  simp [atInstant]

-- Sorting keeps the order of the points of one instant.
theorem atInstant_inTimeOrder (t : Int64) (points : List Point) :
    atInstant t (inTimeOrder points) = atInstant t points := by
  have hsame : (atInstant t points).Pairwise fun a b =>
      decide (a.timestamp ≤ b.timestamp) = true := by
    apply List.pairwise_of_forall_mem_list
    intro a ha b hb
    rw [(mem_atInstant.mp ha).2, (mem_atInstant.mp hb).2, decide_eq_true_eq]
    exact Int64.le_refl t
  have hsub : (atInstant t points).Sublist (inTimeOrder points) :=
    List.sublist_mergeSort (byTime_trans Point.timestamp) (byTime_total Point.timestamp) hsame
      List.filter_sublist
  have hkept : (atInstant t points).Sublist (atInstant t (inTimeOrder points)) := by
    have h := hsub.filter fun p => decide (p.timestamp = t)
    unfold atInstant at h ⊢
    rwa [List.filter_filter, List.filter_congr (q := fun p => decide (p.timestamp = t))
      (by simp)] at h
  have hperm : (atInstant t (inTimeOrder points)).Perm (atInstant t points) :=
    (inTimeOrder_perm points).filter _
  exact (hkept.eq_of_length hperm.length_eq.symm).symm

theorem mem_iff_of_atInstant {points others : List Point}
    (h : ∀ t, atInstant t points = atInstant t others) (p : Point) : p ∈ points ↔ p ∈ others := by
  have hp : p ∈ atInstant p.timestamp points ↔ p ∈ atInstant p.timestamp others := by
    rw [h]
  simpa [mem_atInstant] using hp

theorem head_le_of_mem {p q : Point} {rest : List Point}
    (h : (p :: rest).Pairwise fun a b => a.timestamp ≤ b.timestamp) (hq : q ∈ p :: rest) :
    p.timestamp ≤ q.timestamp := by
  cases List.mem_cons.mp hq with
  | inl he => exact he ▸ Int64.le_refl _
  | inr hr => exact List.rel_of_pairwise_cons h hr

-- Points in the order of time are determined by those of each instant.
theorem eq_of_atInstant {points others : List Point}
    (h : points.Pairwise fun a b => a.timestamp ≤ b.timestamp)
    (h' : others.Pairwise fun a b => a.timestamp ≤ b.timestamp)
    (hsame : ∀ t, atInstant t points = atInstant t others) : points = others := by
  have hmem := mem_iff_of_atInstant hsame
  induction points generalizing others with
  | nil =>
    cases others with
    | nil => rfl
    | cons q rest => simpa using hmem q
  | cons p rest ih =>
    cases others with
    | nil => simpa using hmem p
    | cons q more =>
      have htime : p.timestamp = q.timestamp := Int64.le_antisymm
        (head_le_of_mem h ((hmem q).mpr List.mem_cons_self))
        (head_le_of_mem h' ((hmem p).mp List.mem_cons_self))
      have hhead : p = q := by
        have hfirst := hsame p.timestamp
        unfold atInstant at hfirst
        rw [List.filter_cons_of_pos (by simp), List.filter_cons_of_pos (by simp [htime])] at hfirst
        exact (List.cons.inj hfirst).1
      subst hhead
      have htail : ∀ t, atInstant t rest = atInstant t more := by
        intro t
        have ht := hsame t
        unfold atInstant at ht ⊢
        rw [List.filter_cons, List.filter_cons] at ht
        split at ht
        · exact (List.cons.inj ht).2
        · exact ht
      rw [ih h.of_cons h'.of_cons htail (mem_iff_of_atInstant htail)]

-- Hits sorted out by their labels.
structure Groups (hits : List Document) (series : List Series) : Prop where
  -- by label, then by value; so no two series have the same labels
  increasing : series.Pairwise fun x y =>
    x.labels.toList.map toLex < y.labels.toList.map toLex
  labels : ∀ labels, labels ∈ series.map Series.labels ↔
    ∃ d ∈ hits, d.labels.isMetric = true ∧ d.labels = labels
  nonempty : ∀ x ∈ series, x.points ≠ []
  points : ∀ x ∈ series, x.points.Perm (pointsFound hits x.labels)
  inTime : ∀ x ∈ series, x.points.Pairwise fun p q => p.timestamp ≤ q.timestamp
  inHitOrder : ∀ x ∈ series, ∀ t, atInstant t x.points = atInstant t (pointsFound hits x.labels)

theorem ofDocuments_groups (hits : List Document) : Groups hits (ofDocuments hits) := by
  have hpartition := ofDocuments_partition hits
  have hpoints : ∀ x ∈ ofDocuments hits, x.points.Perm (pointsFound hits x.labels) := by
    intro x hx
    rw [← pointsOf_samplesOf]
    exact hpartition.points x hx
  have hlabels : ∀ labels, labels ∈ (ofDocuments hits).map Series.labels ↔
      ∃ d ∈ hits, d.labels.isMetric = true ∧ d.labels = labels := by
    intro labels
    rw [hpartition.labels, exists_sample_iff]
  refine ⟨?_, hlabels, ?_, hpoints, hpartition.inTime, ?_⟩
  · exact hpartition.ordered.imp fun h => (Labels.precedes_iff _ _).mp h
  · intro x hx hnone
    obtain ⟨d, hd, hmetric, hl⟩ := (hlabels x.labels).mp (List.mem_map_of_mem hx)
    have hfound : d.point ∈ pointsFound hits x.labels :=
      List.mem_map_of_mem (List.mem_filter.mpr ⟨hd, by simp [← hl, hmetric]⟩)
    rw [← (hpoints x hx).mem_iff, hnone] at hfound
    cases hfound
  · intro x hx t
    have hgathers := foldl_gathers hits
    unfold ofDocuments at hx
    dsimp only at hx
    generalize hits.foldl _ [] = all at hgathers hx
    obtain ⟨y, hy, rfl⟩ := List.mem_map.mp hx
    dsimp only
    rw [atInstant_inTimeOrder, hgathers.points y hy, pointsOf_samplesOf]

variable {hits others : List Document} {series : List Series}

-- There is one way to sort hits out.
theorem Groups.unique {more : List Series} (h : Groups hits series) (h' : Groups hits more) :
    series = more := by
  have hsub : ∀ {xs ys : List Series}, Groups hits xs → Groups hits ys → ∀ x ∈ xs, x ∈ ys := by
    intro xs ys hxs hys x hx
    obtain ⟨y, hy, hl⟩ := List.mem_map.mp ((hys.labels x.labels).mpr
      ((hxs.labels x.labels).mp (List.mem_map_of_mem hx)))
    have hpoints : x.points = y.points := by
      apply eq_of_atInstant (hxs.inTime x hx) (hys.inTime y hy)
      intro t
      rw [hxs.inHitOrder x hx, hys.inHitOrder y hy, hl]
    have hxy : x = y := by
      cases x
      cases y
      simp_all
    exact hxy ▸ hy
  have hnodup : ∀ {xs : List Series}, Groups hits xs → xs.Nodup := by
    intro xs hxs
    apply hxs.increasing.imp
    rintro x y hlt rfl
    exact lt_irrefl _ hlt
  have hperm : series.Perm more := (List.perm_ext_iff_of_nodup (hnodup h) (hnodup h')).mpr
    fun x => ⟨hsub h h' x, hsub h' h x⟩
  refine hperm.eq_of_pairwise ?_ h.increasing h'.increasing
  intro x y _ _ hxy hyx
  exact absurd (hxy.trans hyx) (lt_irrefl _)

-- At most one hit of a series is of any instant, so its place among the hits does not matter.
theorem Groups.perm (h : Groups hits series) (hperm : hits.Perm others)
    (hapart : hits.Pairwise fun d e => d.labels = e.labels → d.timestamp ≠ e.timestamp) :
    Groups others series := by
  have hfound : ∀ labels, (pointsFound hits labels).Perm (pointsFound others labels) :=
    fun labels => (hperm.filter _).map _
  have hlone : ∀ labels t, (atInstant t (pointsFound hits labels)).Pairwise fun _ _ => False := by
    intro labels t
    have hdistinct : (pointsFound hits labels).Pairwise fun p q => p.timestamp ≠ q.timestamp := by
      unfold pointsFound
      rw [List.pairwise_map]
      apply (hapart.filter _).imp_of_mem
      intro d e hd he hne
      simp only [List.mem_filter, Bool.and_eq_true, decide_eq_true_eq] at hd he
      exact hne (hd.2.2.trans he.2.2.symm)
    apply (hdistinct.filter _).imp_of_mem
    intro p q hp hq hne
    exact hne ((mem_atInstant.mp hp).2.trans (mem_atInstant.mp hq).2.symm)
  refine ⟨h.increasing, fun labels => ?_, h.nonempty, fun x hx => (h.points x hx).trans (hfound _),
    h.inTime, fun x hx t => ?_⟩
  · rw [h.labels]
    simp only [hperm.mem_iff]
  · rw [h.inHitOrder x hx]
    have hsame := (hfound x.labels).filter fun p => decide (p.timestamp = t)
    refine hsame.eq_of_pairwise (fun _ _ _ _ hf => hf.elim) (hlone x.labels t) ?_
    exact (hsame.pairwise_iff fun hf => hf).mp (hlone x.labels t)

theorem pointsFound_metrics (hits : List Document) (labels : Labels) :
    pointsFound (hits.filter fun d => d.labels.isMetric) labels = pointsFound hits labels := by
  unfold pointsFound
  rw [List.filter_filter]
  congr 2
  funext d
  cases d.labels.isMetric <;> simp

-- Hits that belong to no metric may as well be left out.
theorem Groups.metrics (h : Groups hits series) :
    Groups (hits.filter fun d => d.labels.isMetric) series := by
  refine ⟨h.increasing, fun labels => ?_, h.nonempty, ?_, h.inTime, ?_⟩
  · rw [h.labels]
    simp [and_assoc]
  · intro x hx
    rw [pointsFound_metrics]
    exact h.points x hx
  · intro x hx t
    rw [pointsFound_metrics]
    exact h.inHitOrder x hx t

theorem hits_partitioned (hits : List Document) :
    Groups hits (ofDocuments hits) ∧
    ofDocuments (hits.filter fun d => d.labels.isMetric) = ofDocuments hits ∧
    ∀ others, hits.Perm others →
      (hits.Pairwise fun d e => d.labels = e.labels → d.timestamp ≠ e.timestamp) →
      ofDocuments others = ofDocuments hits := by
  have h := ofDocuments_groups hits
  refine ⟨h, ?_, ?_⟩
  · exact (ofDocuments_groups _).unique h.metrics
  · intro others hperm hapart
    exact (ofDocuments_groups others).unique (h.perm hperm hapart)

-- Two series, a document without a name, and one of a label without a name.
def jobs : List Document :=
  [⟨Keyed.ofList [("__name__", "up"), ("job", "web")], 3, .zero false⟩,
    ⟨Keyed.ofList [("job", "web")], 3, .zero false⟩,
    ⟨Keyed.ofList [("__name__", "up"), ("job", "api")], 3, .zero true⟩,
    ⟨Keyed.ofList [("__name__", "up"), ("", "web")], 3, .zero false⟩,
    ⟨Keyed.ofList [("__name__", "up"), ("job", "web")], 1, .zero true⟩]

theorem jobs_in_any_order :
    jobs.Perm jobs.reverse ∧
    (jobs.Pairwise fun d e => d.labels = e.labels → d.timestamp ≠ e.timestamp) ∧
    ofDocuments jobs.reverse = ofDocuments jobs := by
  have hapart : jobs.Pairwise fun d e => d.labels = e.labels → d.timestamp ≠ e.timestamp := by
    decide +kernel
  exact ⟨(List.reverse_perm jobs).symm, hapart,
    (hits_partitioned jobs).2.2 jobs.reverse (List.reverse_perm jobs).symm hapart⟩

end Series

end MetricRelay
