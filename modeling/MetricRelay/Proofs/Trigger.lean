import MetricRelay.Trigger
import Mathlib.Data.List.Basic

-- Which limit is reported. Of the limits that are looked at and reached it is the first in the
-- order of precedence, with the value that has reached it. The order decides which one is reported,
-- never whether one is, and what is reported stays reported when values grow or more limits are
-- looked at.

namespace MetricRelay

namespace Precedence

-- How many kinds are looked at before this one.
def rank (p : Precedence) (k : TriggerKind) : Nat := p.order.idxOf k

theorem rank_inj (p : Precedence) {k l : TriggerKind} : p.rank k = p.rank l ↔ k = l :=
  List.idxOf_inj (p.mem_order k)

theorem pairwise_rank (p : Precedence) : p.order.Pairwise fun k l => p.rank k < p.rank l := by
  obtain ⟨a, b, c, hab, hbc, hac⟩ := p
  simp [order, rank, List.idxOf_cons, beq_false_of_ne hab, beq_false_of_ne hbc,
    beq_false_of_ne hac]

end Precedence

-- No value is greater.
instance : LE Measurement :=
  ⟨fun m m' => m.size ≤ m'.size ∧ m.count ≤ m'.count ∧ m.age ≤ m'.age⟩

namespace Thresholds

variable {t : Thresholds} {m m' : Measurement} {p : Precedence} {kinds : List TriggerKind}
  {k : TriggerKind} {trigger other : Trigger}

-- The limit of this kind is on, and the measured value has reached it.
def Reached (t : Thresholds) (m : Measurement) : TriggerKind → Prop
  | .size => ∃ limit, t.maxSize = some limit ∧ limit ≤ m.size
  | .count => ∃ limit, t.maxCount = some limit ∧ limit ≤ m.count
  | .age => ∃ limit, t.maxAge = some limit ∧ limit ≤ m.age

-- A trigger that tells the limit as it is set and the value as it was measured.
inductive Reports (t : Thresholds) (m : Measurement) : Trigger → Prop
  | size {limit : Nat} (on : t.maxSize = some limit) (reached : limit ≤ m.size) :
      Reports t m (.sizeExceeded limit m.size)
  | count {limit : Nat} (on : t.maxCount = some limit) (reached : limit ≤ m.count) :
      Reports t m (.countExceeded limit m.count)
  | age {limit : Duration} (on : t.maxAge = some limit) (reached : limit ≤ m.age) :
      Reports t m (.ageExceeded limit m.age)

theorem Reports.reached (h : t.Reports m trigger) : t.Reached m trigger.kind := by
  cases h with
  | size on reached => exact ⟨_, on, reached⟩
  | count on reached => exact ⟨_, on, reached⟩
  | age on reached => exact ⟨_, on, reached⟩

theorem Reached.exists_reports (h : t.Reached m k) :
    ∃ trigger, t.Reports m trigger ∧ trigger.kind = k := by
  cases k with
  | size => obtain ⟨limit, on, reached⟩ := h; exact ⟨_, .size on reached, rfl⟩
  | count => obtain ⟨limit, on, reached⟩ := h; exact ⟨_, .count on reached, rfl⟩
  | age => obtain ⟨limit, on, reached⟩ := h; exact ⟨_, .age on reached, rfl⟩

-- There is one thing to report of each kind.
theorem Reports.unique (h : t.Reports m trigger) (ho : t.Reports m other)
    (hkind : trigger.kind = other.kind) : trigger = other := by
  cases h with
  | size on _ => cases ho with
    | size on' _ => rw [Option.some.inj (on.symm.trans on')]
    | _ => cases hkind
  | count on _ => cases ho with
    | count on' _ => rw [Option.some.inj (on.symm.trans on')]
    | _ => cases hkind
  | age on _ => cases ho with
    | age on' _ => rw [Option.some.inj (on.symm.trans on')]
    | _ => cases hkind

theorem Reached.mono (hm : m ≤ m') (h : t.Reached m k) : t.Reached m' k := by
  obtain ⟨hsize, hcount, hage⟩ := hm
  cases k with
  | size => exact h.imp fun _ ⟨on, reached⟩ => ⟨on, Nat.le_trans reached hsize⟩
  | count => exact h.imp fun _ ⟨on, reached⟩ => ⟨on, Nat.le_trans reached hcount⟩
  | age => exact h.imp fun _ ⟨on, reached⟩ => ⟨on, Nat.le_trans reached hage⟩

theorem check_eq_some_iff :
    t.check m k = some trigger ↔ t.Reports m trigger ∧ trigger.kind = k := by
  constructor
  · intro h
    cases k with
    | size =>
      obtain ⟨limit, on, hreached⟩ := Option.bind_eq_some_iff.mp h
      obtain ⟨reached, ⟨⟩⟩ := Option.ite_none_right_eq_some.mp hreached
      exact ⟨.size on reached, rfl⟩
    | count =>
      obtain ⟨limit, on, hreached⟩ := Option.bind_eq_some_iff.mp h
      obtain ⟨reached, ⟨⟩⟩ := Option.ite_none_right_eq_some.mp hreached
      exact ⟨.count on reached, rfl⟩
    | age =>
      obtain ⟨limit, on, hreached⟩ := Option.bind_eq_some_iff.mp h
      obtain ⟨reached, ⟨⟩⟩ := Option.ite_none_right_eq_some.mp hreached
      exact ⟨.age on reached, rfl⟩
  · rintro ⟨h, rfl⟩
    cases h with
    | size on reached => simp [check, Trigger.kind, on, reached]
    | count on reached => simp [check, Trigger.kind, on, reached]
    | age on reached => simp [check, Trigger.kind, on, reached]

theorem check_eq_none_iff : t.check m k = none ↔ ¬t.Reached m k := by
  constructor
  · intro h hreached
    obtain ⟨trigger, hreports⟩ := hreached.exists_reports
    rw [check_eq_some_iff.mpr hreports] at h
    cases h
  · intro h
    refine Option.eq_none_iff_forall_ne_some.mpr fun trigger hcheck => h ?_
    obtain ⟨hreports, rfl⟩ := check_eq_some_iff.mp hcheck
    exact hreports.reached

theorem firstExceeded_eq_none_iff :
    t.firstExceeded m p kinds = none ↔ ∀ k ∈ kinds, ¬t.Reached m k := by
  rw [firstExceeded, List.findSome?_eq_none_iff]
  refine forall_congr' fun k => ?_
  rw [check_eq_none_iff, List.mem_filter, List.contains_iff_mem]
  exact ⟨fun h hk => h ⟨p.mem_order k, hk⟩, fun h hk => h hk.2⟩

-- What is reported, and that nothing that is looked at earlier has been reached.
theorem reports_of_firstExceeded (h : t.firstExceeded m p kinds = some trigger) :
    t.Reports m trigger ∧ trigger.kind ∈ kinds ∧
      ∀ k ∈ kinds, t.Reached m k → p.rank trigger.kind ≤ p.rank k := by
  obtain ⟨before, found, after, hsplit, hcheck, hbefore⟩ := List.findSome?_eq_some_iff.mp h
  obtain ⟨hreports, rfl⟩ := check_eq_some_iff.mp hcheck
  have hmem : trigger.kind ∈ p.order.filter (kinds.contains ·) := by
    rw [hsplit]
    exact List.mem_append_right before List.mem_cons_self
  refine ⟨hreports, List.contains_iff_mem.mp (List.mem_filter.mp hmem).2, fun k hk hreached => ?_⟩
  have hk : k ∈ before ++ trigger.kind :: after := by
    rw [← hsplit]
    exact List.mem_filter.mpr ⟨p.mem_order k, List.contains_iff_mem.mpr hk⟩
  have hsorted := p.pairwise_rank.filter (kinds.contains ·)
  rw [hsplit] at hsorted
  have hlater := (List.pairwise_cons.mp (List.pairwise_append.mp hsorted).2.1).1
  rcases List.mem_append.mp hk with hk | hk
  · exact absurd hreached (check_eq_none_iff.mp (hbefore k hk))
  · rcases List.mem_cons.mp hk with rfl | hk
    · exact Nat.le_refl _
    · exact Nat.le_of_lt (hlater k hk)

theorem firstExceeded_eq_some_iff :
    t.firstExceeded m p kinds = some trigger ↔
      t.Reports m trigger ∧ trigger.kind ∈ kinds ∧
        ∀ k ∈ kinds, t.Reached m k → p.rank trigger.kind ≤ p.rank k := by
  refine ⟨reports_of_firstExceeded, fun ⟨hreports, hmem, hfirst⟩ => ?_⟩
  cases hfound : t.firstExceeded m p kinds with
  | none => exact absurd hreports.reached (firstExceeded_eq_none_iff.mp hfound _ hmem)
  | some other =>
    -- each of the two comes no later than the other
    obtain ⟨hother, hmem', hfirst'⟩ := reports_of_firstExceeded hfound
    have hrank := Nat.le_antisymm (hfirst' _ hmem hreports.reached)
      (hfirst _ hmem' hother.reached)
    rw [hother.unique hreports (p.rank_inj.mp hrank)]

theorem evaluateOnly_eq_some_iff :
    t.evaluateOnly m p kinds = some trigger ↔
      0 < m.count ∧ t.Reports m trigger ∧ trigger.kind ∈ kinds ∧
        ∀ k ∈ kinds, t.Reached m k → p.rank trigger.kind ≤ p.rank k := by
  rw [evaluateOnly, Option.ite_none_left_eq_some, firstExceeded_eq_some_iff, Nat.pos_iff_ne_zero]

theorem evaluateOnly_isSome_iff :
    (t.evaluateOnly m p kinds).isSome = true ↔ 0 < m.count ∧ ∃ k ∈ kinds, t.Reached m k := by
  rw [Option.isSome_iff_ne_none, evaluateOnly, ne_eq, ite_eq_left_iff, firstExceeded_eq_none_iff,
    Nat.pos_iff_ne_zero]
  simp only [not_forall, not_not, exists_prop]

theorem evaluate_isSome_iff :
    (t.evaluate m p).isSome = true ↔ 0 < m.count ∧ ∃ k, t.Reached m k := by
  simp only [evaluate, evaluateOnly_isSome_iff, p.mem_order, true_and]

theorem evaluateIncludingEmpty_isSome_iff :
    (t.evaluateIncludingEmpty m p).isSome = true ↔ ∃ k, t.Reached m k := by
  rw [Option.isSome_iff_ne_none, evaluateIncludingEmpty, ne_eq, firstExceeded_eq_none_iff]
  simp only [p.mem_order, forall_const, not_forall, not_not]

-- Of a measurement in which nothing is reported, no limit is reached.
theorem not_reached_of_evaluate (hsome : m.count ≠ 0) (h : t.evaluate m p = none)
    (k : TriggerKind) : ¬t.Reached m k := by
  rw [evaluate, evaluateOnly, if_neg hsome] at h
  exact firstExceeded_eq_none_iff.mp h k (p.mem_order k)

-- Valid limits are not reached by nothing.
theorem pos_of_validate {what : String} (h : t.validate what = .ok ()) :
    (∀ limit, t.maxSize = some limit → 0 < limit) ∧
      ∀ limit, t.maxCount = some limit → 0 < limit := by
  unfold validate at h
  split at h
  · cases h
  · rename_i hpositive
    obtain ⟨hsize, hcount⟩ := not_or.mp hpositive
    exact ⟨fun limit on => Nat.pos_of_ne_zero fun hzero => hsize (hzero ▸ on),
      fun limit on => Nat.pos_of_ne_zero fun hzero => hcount (hzero ▸ on)⟩

-- Something is reported exactly of a measurement that is not empty and has reached a limit that is
-- looked at. It is the first such limit in the order of precedence, however the kinds are listed.
-- Whether anything is reported does not depend on that order, and stays so when values grow or
-- further kinds are listed.
theorem reports_first_reached (t : Thresholds) (m : Measurement) (p : Precedence)
    (kinds : List TriggerKind) :
    ((t.evaluateOnly m p kinds).isSome = true ↔
      0 < m.count ∧ ∃ k ∈ kinds, t.Reached m k) ∧
    (∀ trigger, t.evaluateOnly m p kinds = some trigger ↔
      0 < m.count ∧ t.Reports m trigger ∧ trigger.kind ∈ kinds ∧
        ∀ k ∈ kinds, t.Reached m k → p.rank trigger.kind ≤ p.rank k) ∧
    (∀ others, (∀ k, k ∈ others ↔ k ∈ kinds) →
      t.evaluateOnly m p others = t.evaluateOnly m p kinds) ∧
    (∀ q, (t.evaluateOnly m q kinds).isSome = (t.evaluateOnly m p kinds).isSome) ∧
    ∀ m' more, m ≤ m' → kinds ⊆ more → (t.evaluateOnly m p kinds).isSome = true →
      (t.evaluateOnly m' p more).isSome = true := by
  refine ⟨evaluateOnly_isSome_iff, fun _ => evaluateOnly_eq_some_iff, fun others hsame => ?_,
    fun q => ?_, fun m' more hm hmore h => ?_⟩
  · refine Option.ext fun trigger => ?_
    simp only [evaluateOnly_eq_some_iff, hsame]
  · rw [Bool.eq_iff_iff, evaluateOnly_isSome_iff, evaluateOnly_isSome_iff]
  · obtain ⟨hsome, k, hk, hreached⟩ := evaluateOnly_isSome_iff.mp h
    exact evaluateOnly_isSome_iff.mpr
      ⟨Nat.lt_of_lt_of_le hsome hm.2.1, k, hmore hk, hreached.mono hm⟩

-- A batch that is full and too old is closed as full, and so is any larger one.
theorem full_reported_before_old :
    let t : Thresholds := ⟨none, some 3, some (.ofSeconds 10)⟩
    let m : Measurement := ⟨20, 3, .ofSeconds 60⟩
    let larger : Measurement := ⟨200, 5, .ofSeconds 60⟩
    t.evaluateOnly m default [.age, .count, .age] = some (.countExceeded 3 3) ∧
      t.evaluateOnly m default [.count, .age] = some (.countExceeded 3 3) ∧ m ≤ larger ∧
      (t.evaluateOnly larger default [.size, .count, .age]).isSome = true := by
  intro t m larger
  have hfull : t.evaluateOnly m default [.age, .count, .age] = some (.countExceeded 3 3) := rfl
  have hm : m ≤ larger := ⟨by decide, by decide, by decide⟩
  obtain ⟨-, -, hlisted, -, hmore⟩ := reports_first_reached t m default [.age, .count, .age]
  refine ⟨hfull, ?_, hm, hmore larger _ hm (by simp) (by rw [hfull]; rfl)⟩
  rw [hlisted [.count, .age] (by simp), hfull]

end Thresholds

end MetricRelay
