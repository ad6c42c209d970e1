import MetricRelay.Proofs.Sample
import MetricRelay.Read.Series
import Mathlib.Data.List.Induction
import Mathlib.Data.List.Lex
import Mathlib.Data.Prod.Lex
import Mathlib.Data.String.Basic

-- Documents gathered into series. Every label set of a sample among them has one series, with the
-- points of the samples that have these labels and with no others.

namespace MetricRelay

def Sample.point (s : Sample) : Point := ⟨s.timestamp, s.value⟩

-- The order of label sets.

namespace Labels

theorem precedes_iff (a b : List (String × String)) :
    precedes a b = true ↔ a.map toLex < b.map toLex := by
  induction a generalizing b with
  | nil => cases b <;> simp [precedes]
  | cons e rest ih =>
    cases b with
    | nil => simp [precedes]
    | cons f others =>
      rw [List.map_cons, List.map_cons, List.cons_lt_cons_iff, Prod.Lex.toLex_lt_toLex, ← ih]
      obtain ⟨k, v⟩ := e
      obtain ⟨l, w⟩ := f
      simp only [precedes, Bool.or_eq_true, Bool.and_eq_true, decide_eq_true_eq, beq_iff_eq,
        toLex_inj, Prod.mk.injEq]
      tauto

theorem precedes_trans {a b c : List (String × String)} (h : precedes a b = true)
    (h' : precedes b c = true) : precedes a c = true := by
  rw [precedes_iff] at *
  exact h.trans h'

theorem ne_of_precedes {a b : List (String × String)} (h : precedes a b = true) : a ≠ b := by
  rintro rfl
  exact lt_irrefl _ ((precedes_iff a a).mp h)

theorem precedes_of_not {a b : List (String × String)} (hne : a ≠ b)
    (h : ¬precedes a b = true) : precedes b a = true := by
  rw [precedes_iff] at *
  have hmap : a.map toLex ≠ b.map toLex :=
    fun he => hne (List.map_injective_iff.mpr toLex.injective he)
  exact lt_of_le_of_ne (not_lt.mp h) hmap.symm

end Labels

namespace Series

variable {labels : Labels} {point : Point} {all : List Series}

def Precedes (x y : Series) : Prop := Labels.precedes x.labels.toList y.labels.toList = true

theorem Precedes.trans {x y z : Series} (h : Precedes x y) (h' : Precedes y z) : Precedes x z :=
  Labels.precedes_trans h h'

theorem Precedes.ne {x y : Series} (h : Precedes x y) : x.labels ≠ y.labels :=
  fun he => Labels.ne_of_precedes h (congrArg Keyed.toList he)

-- Adding one point.

theorem mem_labels_addPoint (other : Labels) :
    other ∈ (addPoint labels point all).map Series.labels ↔
      other = labels ∨ other ∈ all.map Series.labels := by
  induction all with
  | nil => simp [addPoint]
  | cons x rest ih =>
    unfold addPoint
    split
    · rename_i hsame
      simp [hsame]
    · split
      · simp
      · rw [List.map_cons, List.mem_cons, List.map_cons, List.mem_cons, ih]
        tauto

-- What comes before the first series comes before all of them.
theorem precedes_all {y : Series} {rest : List Series} (hfirst : ∀ z ∈ rest, Precedes y z)
    (hbefore : Labels.precedes labels.toList y.labels.toList = true) :
    ∀ z ∈ y :: rest, Labels.precedes labels.toList z.labels.toList = true := by
  intro z hz
  rcases List.mem_cons.mp hz with rfl | hz
  · exact hbefore
  · exact Labels.precedes_trans hbefore (hfirst z hz)

theorem ordered_addPoint (h : all.Pairwise Precedes) :
    (addPoint labels point all).Pairwise Precedes := by
  induction all with
  | nil => simp [addPoint]
  | cons x rest ih =>
    obtain ⟨hfirst, hrest⟩ := List.pairwise_cons.mp h
    unfold addPoint
    split
    · rename_i hsame
      subst hsame
      exact List.pairwise_cons.mpr ⟨hfirst, hrest⟩
    · rename_i hne
      split
      · rename_i hbefore
        exact List.pairwise_cons.mpr ⟨precedes_all hfirst hbefore, h⟩
      · rename_i hnot
        have hafter : Labels.precedes x.labels.toList labels.toList = true :=
          Labels.precedes_of_not (fun he => hne (Keyed.ext he.symm)) hnot
        refine List.pairwise_cons.mpr ⟨fun y hy => ?_, ih hrest⟩
        rcases (mem_labels_addPoint y.labels).mp (List.mem_map_of_mem hy) with hl | hl
        · unfold Precedes
          rw [hl]
          exact hafter
        · obtain ⟨z, hz, hzl⟩ := List.mem_map.mp hl
          unfold Precedes
          rw [← hzl]
          exact hfirst z hz

-- What a series with certain labels holds is given by `f`.
theorem points_addPoint {f : Labels → List Point} (hordered : all.Pairwise Precedes)
    (hpoints : ∀ x ∈ all, x.points = f x.labels)
    (hnew : labels ∉ all.map Series.labels → f labels = []) :
    ∀ x ∈ addPoint labels point all,
      x.points = f x.labels ++ if x.labels = labels then [point] else [] := by
  induction all with
  | nil =>
    intro x hx
    rw [List.mem_singleton.mp hx]
    simp [hnew (by simp)]
  | cons y rest ih =>
    obtain ⟨hfirst, hrest⟩ := List.pairwise_cons.mp hordered
    have hkeep : ∀ x ∈ y :: rest, x.labels ≠ labels →
        x.points = f x.labels ++ if x.labels = labels then [point] else [] := by
      intro x hx hne
      rw [hpoints x hx, if_neg hne, List.append_nil]
    intro x hx
    unfold addPoint at hx
    split at hx
    · rename_i hsame
      rcases List.mem_cons.mp hx with rfl | hx
      · simp [hpoints y List.mem_cons_self, hsame]
      · exact hkeep x (List.mem_cons_of_mem y hx) fun he => (hfirst x hx).ne (hsame.trans he.symm)
    · rename_i hne
      split at hx
      · rename_i hbefore
        have hlater : ∀ z ∈ y :: rest, z.labels ≠ labels := fun z hz he =>
          Labels.ne_of_precedes (precedes_all hfirst hbefore z hz)
            (congrArg Keyed.toList he.symm)
        rcases List.mem_cons.mp hx with rfl | hx
        · have hnone : f labels = [] := by
            refine hnew fun hm => ?_
            obtain ⟨z, hz, he⟩ := List.mem_map.mp hm
            exact hlater z hz he
          simp [hnone]
        · exact hkeep x hx (hlater x hx)
      · rcases List.mem_cons.mp hx with rfl | hx
        · exact hkeep x List.mem_cons_self hne
        · refine ih hrest (fun z hz => hpoints z (List.mem_cons_of_mem y hz)) (fun hm => ?_) x hx
          refine hnew fun hc => ?_
          rcases List.mem_cons.mp hc with he | hc
          · exact hne he.symm
          · exact hm hc

-- Adding many.

def pointsOf (samples : List Sample) (labels : Labels) : List Point :=
  (samples.filter fun s => decide (s.labelSet = labels)).map Sample.point

-- Series that hold the points of some samples.
structure Partition (samples : List Sample) (series : List Series) : Prop where
  ordered : series.Pairwise Precedes
  labels : ∀ labels, labels ∈ series.map Series.labels ↔ ∃ s ∈ samples, s.labelSet = labels
  points : ∀ x ∈ series, x.points.Perm (pointsOf samples x.labels)
  inTime : ∀ x ∈ series, x.points.Pairwise fun a b => a.timestamp ≤ b.timestamp

theorem Partition.perm {samples others : List Sample} {series : List Series}
    (h : Partition samples series) (hperm : samples.Perm others) : Partition others series where
  ordered := h.ordered
  labels labels := (h.labels labels).trans (by simp only [hperm.mem_iff])
  points x hx := (h.points x hx).trans ((hperm.filter _).map _)
  inTime := h.inTime

-- The same before the points are put in order.
structure Gathers (samples : List Sample) (all : List Series) : Prop where
  ordered : all.Pairwise Precedes
  labels : ∀ labels, labels ∈ all.map Series.labels ↔ ∃ s ∈ samples, s.labelSet = labels
  points : ∀ x ∈ all, x.points = pointsOf samples x.labels

theorem Gathers.addPoint {samples : List Sample} (h : Gathers samples all) (s : Sample) :
    Gathers (samples ++ [s]) (addPoint s.labelSet s.point all) := by
  refine ⟨ordered_addPoint h.ordered, fun labels => ?_, fun x hx => ?_⟩
  · rw [mem_labels_addPoint, h.labels]
    simp only [List.mem_append, List.mem_singleton]
    constructor
    · rintro (rfl | ⟨t, ht, hl⟩)
      · exact ⟨s, .inr rfl, rfl⟩
      · exact ⟨t, .inl ht, hl⟩
    · rintro ⟨t, ht | rfl, hl⟩
      · exact .inr ⟨t, ht, hl⟩
      · exact .inl hl.symm
  · have hnone : s.labelSet ∉ all.map Series.labels → pointsOf samples s.labelSet = [] := by
      intro hm
      unfold pointsOf
      rw [List.filter_eq_nil_iff.mpr fun t ht he => hm ((h.labels _).mpr ⟨t, ht, by simpa using he⟩)]
      rfl
    rw [points_addPoint h.ordered h.points hnone x hx]
    unfold pointsOf
    rw [List.filter_append, List.map_append]
    by_cases hl : s.labelSet = x.labels
    · simp [hl]
    · simp [hl, Ne.symm hl]

def samplesOf (documents : List Document) : List Sample :=
  documents.filterMap fun d => d.toSample.toOption

theorem samplesOf_map_ofSample (samples : List Sample) :
    samplesOf (samples.map .ofSample) = samples := by
  unfold samplesOf
  rw [List.filterMap_map]
  have hsame : ((fun d : Document => d.toSample.toOption) ∘ Document.ofSample) = some := by
    funext s
    rw [Function.comp_apply, Document.toSample_ofSample]
    rfl
  rw [hsame, List.filterMap_some]

theorem foldl_gathers (documents : List Document) :
    Gathers (samplesOf documents) (documents.foldl (fun (all : List Series) d =>
      match d.toSample with
      | .ok s => Series.addPoint s.labelSet ⟨s.timestamp, s.value⟩ all
      | .error _ => all) []) := by
  induction documents using List.reverseRecOn with
  | nil => exact ⟨.nil, fun labels => by simp [samplesOf], fun x hx => absurd hx List.not_mem_nil⟩
  | append_singleton documents d ih =>
    rw [List.foldl_append, List.foldl_cons, List.foldl_nil]
    have hsamples : samplesOf (documents ++ [d]) =
        samplesOf documents ++ d.toSample.toOption.toList := by
      unfold samplesOf
      rw [List.filterMap_append, List.filterMap_cons, List.filterMap_nil]
      cases d.toSample <;> rfl
    rw [hsamples]
    cases d.toSample with
    | ok s => exact ih.addPoint s
    | error e =>
      change Gathers (samplesOf documents ++ []) _
      rw [List.append_nil]
      exact ih

theorem inTimeOrder_perm (points : List Point) : (inTimeOrder points).Perm points :=
  List.mergeSort_perm points _

-- Whatever has an instant can be put in the order of time.
section

variable {α : Type} (time : α → Int64) (a b c : α)

theorem byTime_trans (hab : decide (time a ≤ time b) = true)
    (hbc : decide (time b ≤ time c) = true) : decide (time a ≤ time c) = true := by
  rw [decide_eq_true_eq] at *
  exact Int64.le_trans hab hbc

theorem byTime_total : (decide (time a ≤ time b) || decide (time b ≤ time a)) = true := by
  rw [Bool.or_eq_true, decide_eq_true_eq, decide_eq_true_eq]
  exact Int64.le_total (time a) (time b)

theorem mergeSort_inTime (found : List α) :
    (found.mergeSort fun x y => decide (time x ≤ time y)).Pairwise fun x y => time x ≤ time y :=
  (List.pairwise_mergeSort (byTime_trans time) (byTime_total time) found).imp fun h =>
    of_decide_eq_true h

end

theorem inTimeOrder_pairwise (points : List Point) :
    (inTimeOrder points).Pairwise fun a b => a.timestamp ≤ b.timestamp :=
  mergeSort_inTime Point.timestamp points

theorem ofDocuments_partition (documents : List Document) :
    Partition (samplesOf documents) (ofDocuments documents) := by
  have h := foldl_gathers documents
  unfold ofDocuments
  dsimp only
  generalize documents.foldl _ [] = all at h ⊢
  refine ⟨List.pairwise_map.mpr h.ordered, fun labels => ?_, fun x hx => ?_, fun x hx => ?_⟩
  · rw [← h.labels, List.map_map]
    rfl
  · obtain ⟨y, hy, rfl⟩ := List.mem_map.mp hx
    rw [← h.points y hy]
    exact inTimeOrder_perm y.points
  · obtain ⟨y, _, rfl⟩ := List.mem_map.mp hx
    exact inTimeOrder_pairwise y.points

end Series

end MetricRelay
