import MetricRelay.Document
import MetricRelay.Proofs.Keyed

-- Label lists and what a sample is made of. A list is either a metric's, and then every sample of
-- it keeps all its labels, or it is refused for one reason, whatever the time and the value are.
-- Nothing of a sample depends on the order of its labels, and its document makes the same sample
-- again.

namespace MetricRelay

-- No name stands twice, none is empty, and a metric is named.
structure WellLabelled (pairs : List (String × String)) : Prop where
  distinct : (pairs.map Prod.fst).Nodup
  named : ∀ l ∈ pairs, l.1 ≠ ""
  metric : ∃ metric, (nameLabel, metric) ∈ pairs ∧ metric ≠ ""

theorem WellLabelled.perm {pairs others : List (String × String)} (h : WellLabelled pairs)
    (hperm : others.Perm pairs) : WellLabelled others := by
  obtain ⟨hdistinct, hnamed, metric, hmem, hmetric⟩ := h
  exact ⟨(hperm.map Prod.fst).nodup_iff.mpr hdistinct, fun l hl => hnamed l (hperm.mem_iff.mp hl),
    metric, hperm.mem_iff.mpr hmem, hmetric⟩

-- What is reported of a list that is no metric's: the first name that stands a second time; with
-- none, that the metric is missing; and only then an empty name.
inductive Refused : List (String × String) → Error → Prop
  | repeated {before after : List (String × String)} {name value : String}
      (distinct : (before.map Prod.fst).Nodup) (again : name ∈ before.map Prod.fst) :
      Refused (before ++ (name, value) :: after) (.invalidSample ("duplicate label " ++ name))
  | unnamed {pairs : List (String × String)} (distinct : (pairs.map Prod.fst).Nodup)
      (missing : ∀ metric, (nameLabel, metric) ∈ pairs → metric = "") :
      Refused pairs .missingMetricName
  | blank {pairs : List (String × String)} {metric : String}
      (distinct : (pairs.map Prod.fst).Nodup) (named : (nameLabel, metric) ∈ pairs)
      (nonempty : metric ≠ "") (empty : "" ∈ pairs.map Prod.fst) :
      Refused pairs (.invalidSample ("empty label name \"\" on " ++ metric))

-- A list with a repeated name has a first one.
theorem exists_first_repeated {pairs : List (String × String)}
    (h : ¬(pairs.map Prod.fst).Nodup) : ∃ before name value after,
      pairs = before ++ (name, value) :: after ∧ (before.map Prod.fst).Nodup ∧
        name ∈ before.map Prod.fst := by
  induction pairs using List.reverseRecOn with
  | nil => simp at h
  | append_singleton init l ih =>
    by_cases hinit : (init.map Prod.fst).Nodup
    · refine ⟨init, l.1, l.2, [], rfl, hinit, ?_⟩
      by_contra hnew
      apply h
      rw [List.map_append, List.nodup_append]
      exact ⟨hinit, by simp, fun name hmem other hother he => by
        rw [List.map_singleton, List.mem_singleton] at hother
        exact hnew (hother ▸ he ▸ hmem)⟩
    · obtain ⟨before, name, value, after, rfl, hdistinct, hagain⟩ := ih hinit
      exact ⟨before, name, value, after ++ [l], by simp, hdistinct, hagain⟩

theorem exists_refused {pairs : List (String × String)} (h : ¬WellLabelled pairs) :
    ∃ e, Refused pairs e := by
  by_cases hdistinct : (pairs.map Prod.fst).Nodup
  · by_cases hmetric : ∃ metric, (nameLabel, metric) ∈ pairs ∧ metric ≠ ""
    · obtain ⟨metric, hmem, hne⟩ := hmetric
      have hempty : "" ∈ pairs.map Prod.fst := by
        by_contra hnone
        exact h ⟨hdistinct, fun l hl he => hnone (he ▸ List.mem_map_of_mem hl), metric, hmem, hne⟩
      exact ⟨_, .blank hdistinct hmem hne hempty⟩
    · exact ⟨_, .unnamed hdistinct fun metric hmem => by
        by_contra hne
        exact hmetric ⟨metric, hmem, hne⟩⟩
  · obtain ⟨before, name, value, after, rfl, hfirst, hagain⟩ := exists_first_repeated hdistinct
    exact ⟨_, .repeated hfirst hagain⟩

namespace Sample

-- Names that are new are taken one after another.
theorem collect_append (labels : Labels) (taken rest : List (String × String))
    (hnew : ∀ l ∈ taken, labels.contains l.1 = false) (hdistinct : (taken.map Prod.fst).Nodup) :
    collect labels (taken ++ rest) =
      collect (taken.foldl (fun m e => m.insert e.1 e.2) labels) rest := by
  induction taken generalizing labels with
  | nil => rfl
  | cons l taken ih =>
    obtain ⟨name, value⟩ := l
    rw [List.map_cons, List.nodup_cons] at hdistinct
    obtain ⟨hfirst, hrest⟩ := hdistinct
    have hfresh : labels.contains name = false := hnew (name, value) List.mem_cons_self
    have hstill : ∀ l ∈ taken, (labels.insert name value).contains l.1 = false := by
      intro l hl
      have hne : l.1 ≠ name := fun he => hfirst (List.mem_map.mpr ⟨l, hl, he⟩)
      rw [Keyed.not_contains_iff, Keyed.find?_insert_of_ne _ _ hne, ← Keyed.not_contains_iff]
      exact hnew l (List.mem_cons_of_mem _ hl)
    rw [List.cons_append, collect, hfresh, if_neg Bool.false_ne_true, ih _ hstill hrest,
      List.foldl_cons]

theorem collect_distinct {pairs : List (String × String)}
    (hdistinct : (pairs.map Prod.fst).Nodup) :
    collect .empty pairs = .ok (Keyed.ofList pairs) := by
  have h := collect_append .empty pairs [] (fun _ _ => rfl) hdistinct
  rwa [List.append_nil, collect] at h

theorem collect_toList (labels : Labels) : collect .empty labels.toList = .ok labels := by
  have hcollect : collect .empty labels.toList = .ok (Keyed.ofList labels.toList) :=
    collect_distinct (Keyed.nodup_keys labels)
  rw [hcollect, Keyed.ofList_toList]

theorem collect_repeated {before after : List (String × String)} {name value : String}
    (hdistinct : (before.map Prod.fst).Nodup) (hagain : name ∈ before.map Prod.fst) :
    collect .empty (before ++ (name, value) :: after) =
      .error (.invalidSample ("duplicate label " ++ name)) := by
  have hold := (Keyed.contains_ofList before name).mpr hagain
  rw [collect_append .empty _ _ (fun _ _ => rfl) hdistinct, collect]
  exact if_pos hold

-- The labels of a list without the name, which is looked at apart.
def unnamed (pairs : List (String × String)) : Labels := (Keyed.ofList pairs).erase nameLabel

theorem contains_unnamed (pairs : List (String × String)) (name : String) :
    (unnamed pairs).contains name = true ↔ name ≠ nameLabel ∧ name ∈ pairs.map Prod.fst := by
  rw [unnamed, Keyed.contains_erase, Keyed.contains_ofList]

theorem unnamed_contains_nameLabel (pairs : List (String × String)) :
    (unnamed pairs).contains nameLabel = false := by
  rw [← Bool.not_eq_true, contains_unnamed]
  exact fun h => h.1 rfl

theorem ofPairs_of_named {pairs : List (String × String)} {metric : String}
    (hdistinct : (pairs.map Prod.fst).Nodup) (hnamed : (nameLabel, metric) ∈ pairs)
    (timestamp : Int64) (value : Binary64) :
    ofPairs pairs timestamp value = make metric (unnamed pairs) timestamp value := by
  have hfind := (Keyed.find?_ofList hdistinct nameLabel metric).mpr hnamed
  rw [ofPairs, collect_distinct hdistinct]
  simp only [Except.bind, bind, hfind, unnamed]

-- A well labelled list has a sample at every time and with every value.
theorem ofPairs_eq_ok {pairs : List (String × String)} (h : WellLabelled pairs)
    (timestamp : Int64) (value : Binary64) : ∃ s, ofPairs pairs timestamp value = .ok s ∧
      s.labelSet = Keyed.ofList pairs ∧ s.timestamp = timestamp ∧ s.value = value := by
  obtain ⟨hdistinct, hfull, metric, hmem, hmetric⟩ := h
  have hname := unnamed_contains_nameLabel pairs
  have hempty : (unnamed pairs).contains "" = false := by
    rw [← Bool.not_eq_true, contains_unnamed]
    rintro ⟨_, hin⟩
    obtain ⟨l, hl, he⟩ := List.mem_map.mp hin
    exact hfull l hl he
  have hall : (unnamed pairs).insert nameLabel metric = Keyed.ofList pairs := by
    refine Keyed.ext_find? fun key => ?_
    rw [Keyed.find?_insert, unnamed, Keyed.find?_erase]
    split
    · rename_i hk
      rw [hk, (Keyed.find?_ofList hdistinct nameLabel metric).mpr hmem]
    · rfl
  refine ⟨⟨metric, _, timestamp, value, hmetric, hname, hempty⟩, ?_, hall, rfl, rfl⟩
  rw [ofPairs_of_named hdistinct hmem]
  simp only [make, hmetric, hname, hempty, dite_false, Bool.false_eq_true]

theorem ofPairs_eq_error {pairs : List (String × String)} {e : Error} (h : Refused pairs e)
    (timestamp : Int64) (value : Binary64) : ofPairs pairs timestamp value = .error e := by
  cases h with
  | repeated hdistinct hagain =>
    rw [ofPairs, collect_repeated hdistinct hagain]
    rfl
  | unnamed hdistinct hmissing =>
    cases hfind : (Keyed.ofList pairs).find? nameLabel with
    | none =>
      rw [ofPairs, collect_distinct hdistinct]
      simp only [Except.bind, bind, hfind]
    | some metric =>
      have hmem := (Keyed.find?_ofList hdistinct _ _).mp hfind
      rw [ofPairs_of_named hdistinct hmem, make, dif_pos (hmissing metric hmem)]
  | blank hdistinct hnamed hnonempty hempty =>
    have hname := unnamed_contains_nameLabel pairs
    have hblank := (contains_unnamed pairs "").mpr ⟨by decide, hempty⟩
    rw [ofPairs_of_named hdistinct hnamed]
    simp only [make, hnonempty, hname, hblank, dite_false, dite_true, Bool.false_eq_true]

-- All labels of a sample make the sample again.
theorem ofPairs_labelSet (s : Sample) :
    ofPairs s.labelSet.toList s.timestamp s.value = .ok s := by
  obtain ⟨hmetric, hname, hempty⟩ := s.valid
  have herase : s.labelSet.erase nameLabel = s.labels := by
    refine Keyed.ext_find? fun key => ?_
    rw [Keyed.find?_erase]
    by_cases hk : key = nameLabel
    · rw [if_pos hk, hk, (Keyed.not_contains_iff _ _).mp hname]
    · rw [if_neg hk, labelSet, Keyed.find?_insert_of_ne _ _ hk]
  have hfind : s.labelSet.find? nameLabel = some s.metric := Keyed.find?_insert_self _ _ _
  rw [ofPairs, collect_toList]
  simp only [Except.bind, bind, hfind, herase, make, hmetric, hname, hempty, dite_false,
    Bool.false_eq_true]

theorem eq_of_labelSet {s s' : Sample} (hlabels : s.labelSet = s'.labelSet)
    (htime : s.timestamp = s'.timestamp) (hvalue : s.value = s'.value) : s = s' := by
  have h := ofPairs_labelSet s
  rw [hlabels, htime, hvalue, ofPairs_labelSet s'] at h
  exact (Except.ok.inj h).symm

theorem ofPairs_eq_ok_iff {pairs : List (String × String)} {timestamp : Int64} {value : Binary64}
    {s : Sample} : ofPairs pairs timestamp value = .ok s ↔
      WellLabelled pairs ∧ s.labelSet = Keyed.ofList pairs ∧ s.timestamp = timestamp ∧
        s.value = value := by
  constructor
  · intro h
    by_cases hpairs : WellLabelled pairs
    · obtain ⟨s', hs', hlabels, htime, hvalue⟩ := ofPairs_eq_ok hpairs timestamp value
      obtain rfl : s' = s := Except.ok.inj (hs'.symm.trans h)
      exact ⟨hpairs, hlabels, htime, hvalue⟩
    · obtain ⟨e, he⟩ := exists_refused hpairs
      rw [ofPairs_eq_error he] at h
      cases h
  · rintro ⟨hpairs, hlabels, htime, hvalue⟩
    obtain ⟨s', hs', hlabels', htime', hvalue'⟩ := ofPairs_eq_ok hpairs timestamp value
    rw [hs', eq_of_labelSet (hlabels.trans hlabels'.symm) (htime.trans htime'.symm)
      (hvalue.trans hvalue'.symm)]

theorem ofPairs_perm {pairs others : List (String × String)} {timestamp : Int64}
    {value : Binary64} {s : Sample} (hperm : others.Perm pairs)
    (h : ofPairs pairs timestamp value = .ok s) : ofPairs others timestamp value = .ok s := by
  obtain ⟨hpairs, hlabels, htime, hvalue⟩ := ofPairs_eq_ok_iff.mp h
  refine ofPairs_eq_ok_iff.mpr ⟨hpairs.perm hperm, ?_, htime, hvalue⟩
  rw [hlabels, Keyed.ofList_perm hpairs.distinct hperm]

end Sample

theorem Document.toSample_ofSample (s : Sample) : (Document.ofSample s).toSample = .ok s :=
  Sample.ofPairs_labelSet s

namespace Sample

-- A list of labels makes a sample exactly if no name stands twice, none is empty and a metric is
-- named. The same labels in another order make the same sample or none, too. A sample has the labels
-- of its list and no others, and its document, whatever the sample was made of, makes it again.
theorem labels_kept (pairs : List (String × String)) (timestamp : Int64) (value : Binary64) :
    ((∃ s, ofPairs pairs timestamp value = .ok s) ↔ WellLabelled pairs) ∧
    (∀ others, others.Perm pairs → ∀ s,
      ofPairs others timestamp value = .ok s ↔ ofPairs pairs timestamp value = .ok s) ∧
    (∀ s, ofPairs pairs timestamp value = .ok s →
      s.timestamp = timestamp ∧ s.value = value ∧
        ∀ name text, s.labelSet.find? name = some text ↔ (name, text) ∈ pairs) ∧
    ∀ s, (Document.ofSample s).toSample = .ok s := by
  refine ⟨⟨?_, fun h => ?_⟩, fun others hperm s => ⟨ofPairs_perm hperm.symm, ofPairs_perm hperm⟩,
    fun s h => ?_, Document.toSample_ofSample⟩
  · rintro ⟨s, h⟩
    exact (ofPairs_eq_ok_iff.mp h).1
  · obtain ⟨s, h, -⟩ := ofPairs_eq_ok h timestamp value
    exact ⟨s, h⟩
  · obtain ⟨hpairs, hlabels, htime, hvalue⟩ := ofPairs_eq_ok_iff.mp h
    refine ⟨htime, hvalue, fun name text => ?_⟩
    rw [hlabels, Keyed.find?_ofList hpairs.distinct]

-- The metric's name may stand anywhere, and the value need not be a number.
theorem labels_kept_of_unordered :
    let pairs := [("job", "node"), (nameLabel, "up"), ("instance", "")]
    ∃ s, ofPairs pairs 5 .nan = .ok s ∧ ofPairs pairs.reverse 5 .nan = .ok s ∧
      s.labelSet.find? "job" = some "node" ∧ s.value = .nan ∧
      (Document.ofSample s).toSample = .ok s := by
  intro pairs
  obtain ⟨hok, horder, hkept, hagain⟩ := labels_kept pairs 5 .nan
  have hpairs : WellLabelled pairs :=
    ⟨by decide, by decide, "up", by decide, by decide⟩
  obtain ⟨s, hs⟩ := hok.mpr hpairs
  obtain ⟨-, hvalue, hlabels⟩ := hkept s hs
  exact ⟨s, hs, (horder _ pairs.reverse_perm s).mpr hs, (hlabels _ _).mpr (by decide), hvalue,
    hagain s⟩

end Sample

end MetricRelay
