import MetricRelay.Proofs.Traffic.Basic
import Mathlib.Data.List.Chain

-- The order in which indices take an alias's writes, and when it comes to one of them twice. Days
-- follow by the calendar and generations by their numbers; it is the change from the one to the
-- other that starts the numbers anew, and the end of what a machine word can count.

namespace MetricRelay.Traffic

open Lifecycle (First Follows Named nextGeneration)

def IsGeneration (aliasName index : String) : Prop :=
  (Index.generation? aliasName index).isSome = true

-- Every index followed the one before it.
structure Succession (aliasName : String) (indices : List String) : Prop where
  first : ∀ index, indices.head? = some index → First aliasName index
  chain : indices.IsChain fun current next => Follows aliasName current next ∧ next ≠ current

-- An index may take the writes after `current` without having had them `before`: a day that is
-- new, or a generation, unless the numbers start again. They do after a day, and once all of them
-- have been used.
def Fresh (aliasName : String) (before : List String) (current next : String) : Prop :=
  (¬ IsGeneration aliasName next → next ∉ before) ∧
    (IsGeneration aliasName next → ¬ IsGeneration aliasName current →
      ∀ index ∈ before, ¬ IsGeneration aliasName index) ∧
    (IsGeneration aliasName current → next ≠ Index.generationName aliasName 1)

section

variable {aliasName : String} {indices before after : List String} {current next : String}

theorem Succession.left (h : Succession aliasName (before ++ after)) :
    Succession aliasName before := by
  refine ⟨fun index hi => h.first index ?_, h.chain.left_of_append⟩
  rw [List.head?_append, hi]
  rfl

theorem Succession.follows (h : Succession aliasName (before ++ current :: next :: after)) :
    Follows aliasName current next ∧ next ≠ current :=
  (List.isChain_append_cons_cons.mp h.chain).2.1

theorem Succession.append (h : Succession aliasName indices)
    (hlast : indices.getLast? = some current) (hf : Follows aliasName current next)
    (hne : next ≠ current) : Succession aliasName (indices ++ [next]) := by
  refine ⟨fun index hi => h.first index ?_, ?_⟩
  · cases indices with
    | nil => cases hlast
    | cons head rest => exact hi
  · refine List.isChain_append.mpr ⟨h.chain, List.isChain_singleton next, ?_⟩
    intro other ho index hi
    rw [hlast] at ho
    cases ho
    cases hi
    exact ⟨hf, hne⟩

-- Names and their numbers.

theorem isGeneration_of_eq_some {index : String} {g : Nat}
    (h : Index.generation? aliasName index = some g) : IsGeneration aliasName index :=
  Option.isSome_iff_exists.mpr ⟨g, h⟩

theorem not_isGeneration_dailyName (aliasName : String) (day : Date) :
    ¬ IsGeneration aliasName (Index.dailyName aliasName day) := by
  unfold IsGeneration
  rw [Index.generation?_dailyName]
  exact Bool.false_ne_true

theorem eq_generationName_of_follows (h : Follows aliasName current next)
    (hg : IsGeneration aliasName next) :
    next = Index.generationName aliasName
      (((Index.generation? aliasName current).getD 0 + 1) % UInt64.size) := by
  rcases h with rfl | ⟨⟨day, rfl⟩, _⟩
  · rfl
  · exact absurd hg (not_isGeneration_dailyName aliasName day)

theorem eq_first_of_follows (h : Follows aliasName current next)
    (hg : IsGeneration aliasName next) (hc : ¬ IsGeneration aliasName current) :
    next = Index.generationName aliasName 1 := by
  rw [eq_generationName_of_follows h hg, Option.not_isSome_iff_eq_none.mp hc]
  rfl

-- Whatever generations there were, the first one was among them.
theorem first_mem (h : Succession aliasName indices)
    (hg : ∃ index ∈ indices, IsGeneration aliasName index) :
    Index.generationName aliasName 1 ∈ indices := by
  induction indices using List.reverseRecOn with
  | nil =>
    obtain ⟨_, hm, _⟩ := hg
    cases hm
  | append_singleton before last ih =>
    by_cases hbefore : ∃ index ∈ before, IsGeneration aliasName index
    · exact List.mem_append_left _ (ih h.left hbefore)
    · obtain ⟨index, hm, hgen⟩ := hg
      have hlast : index = last := by
        rcases List.mem_append.mp hm with hm | hm
        · exact absurd ⟨index, hm, hgen⟩ hbefore
        · exact List.mem_singleton.mp hm
      subst hlast
      refine List.mem_append_right _ (List.mem_singleton.mpr ?_)
      cases before using List.reverseRecOn with
      | nil =>
        rcases h.first index rfl with hfirst | ⟨day, rfl⟩
        · exact hfirst.symm
        · exact absurd hgen (not_isGeneration_dailyName aliasName day)
      | append_singleton earlier current =>
        rw [List.append_assoc] at h
        refine (eq_first_of_follows h.follows.1 hgen fun hc => hbefore ?_).symm
        exact ⟨current, by simp, hc⟩

-- The numbers in the order in which they are used: from one up, and zero after the largest.
def rank (n : Nat) : Nat := (n + (UInt64.size - 1)) % UInt64.size

theorem rank_succ {n : Nat} (h : (n + 1) % UInt64.size ≠ 1) :
    rank ((n + 1) % UInt64.size) = rank n + 1 := by
  unfold rank
  simp only [UInt64.size] at h ⊢
  omega

-- The generations among some indices come earlier in the order of numbers than a later one.
def Above (aliasName : String) (before : List String) (last : String) : Prop :=
  ∀ index ∈ before, ∀ g k, Index.generation? aliasName index = some g →
    Index.generation? aliasName last = some k → rank g < rank k

theorem Above.append (h : Above aliasName before current) (hf : Follows aliasName current next)
    (hfresh : Fresh aliasName before current next) :
    Above aliasName (before ++ [current]) next := by
  intro index hm g k hindex hnext
  have hgen := isGeneration_of_eq_some hnext
  by_cases hc : IsGeneration aliasName current
  · obtain ⟨top, htop⟩ := Option.isSome_iff_exists.mp hc
    have hname := eq_generationName_of_follows hf hgen
    rw [htop, Option.getD_some] at hname
    have hrank : rank k = rank top + 1 := by
      rw [hname, Index.generation?_generationName_eq, if_pos (Nat.mod_lt _ (by decide)),
        Option.some_inj] at hnext
      rw [← hnext]
      refine rank_succ fun hone => hfresh.2.2 hc ?_
      rw [hname, hone]
    rcases List.mem_append.mp hm with hm | hm
    · have hlt := h index hm g top hindex htop
      omega
    · rw [List.mem_singleton.mp hm, htop, Option.some_inj] at hindex
      rw [← hindex, hrank]
      exact Nat.lt_succ_self _
  · -- the numbers start again, so there were none before
    have hnot := isGeneration_of_eq_some hindex
    rcases List.mem_append.mp hm with hm | hm
    · exact absurd hnot (hfresh.2.1 hgen hc index hm)
    · rw [List.mem_singleton.mp hm] at hnot
      exact absurd hnot hc

theorem Above.not_mem (h : Above aliasName (before ++ [current]) next) (hne : next ≠ current)
    (hfresh : Fresh aliasName before current next) : next ∉ before ++ [current] := by
  intro hm
  by_cases hgen : IsGeneration aliasName next
  · obtain ⟨k, hk⟩ := Option.isSome_iff_exists.mp hgen
    exact absurd (h next hm k k hk hk) (Nat.lt_irrefl _)
  · rcases List.mem_append.mp hm with hm | hm
    · exact hfresh.1 hgen hm
    · exact hne (List.mem_singleton.mp hm)

-- While every change is fresh, numbers only grow and no index comes twice.
theorem nodup_of_fresh (h : Succession aliasName indices)
    (hfresh : ∀ before current next after, indices = before ++ current :: next :: after →
      Fresh aliasName before current next) :
    indices.Nodup ∧ ∀ before last, indices = before ++ [last] → Above aliasName before last := by
  induction indices using List.reverseRecOn with
  | nil => exact ⟨List.nodup_nil, fun before last he => by simp at he⟩
  | append_singleton before next ih =>
    obtain ⟨hnodup, habove⟩ := ih h.left fun earlier current last after he =>
      hfresh earlier current last (after ++ [next]) (by rw [he]; simp)
    have hnext : Above aliasName before next ∧ next ∉ before := by
      cases before using List.reverseRecOn with
      | nil => exact ⟨fun _ hm => absurd hm List.not_mem_nil, List.not_mem_nil⟩
      | append_singleton earlier current =>
        rw [List.append_assoc] at h
        have hfreshNext := hfresh earlier current next [] (by simp)
        have hgrows := (habove earlier current rfl).append h.follows.1 hfreshNext
        exact ⟨hgrows, hgrows.not_mem h.follows.2 hfreshNext⟩
    constructor
    · refine List.nodup_append.mpr ⟨hnodup, by simp, ?_⟩
      rintro index hm _ hn rfl
      rw [List.mem_singleton.mp hn] at hm
      exact hnext.2 hm
    · intro earlier last he
      obtain ⟨rfl, hlast⟩ := List.append_inj' he rfl
      cases hlast
      exact hnext.1

theorem nodup_iff_fresh (h : Succession aliasName indices) :
    indices.Nodup ↔ ∀ before current next after, indices = before ++ current :: next :: after →
      Fresh aliasName before current next := by
  refine ⟨fun hnodup before current next after he => ?_, fun hfresh => (nodup_of_fresh h hfresh).1⟩
  have hsplit : before ++ current :: next :: after =
      (before ++ [current]) ++ ([next] ++ after) := by simp
  rw [he] at h hnodup
  have hnew : next ∉ before ++ [current] := by
    rw [hsplit] at hnodup
    exact fun hm => (List.nodup_append.mp hnodup).2.2 next hm next (by simp) rfl
  have hfirst : (∃ index ∈ before ++ [current], IsGeneration aliasName index) →
      Index.generationName aliasName 1 ∈ before ++ [current] := by
    rw [hsplit] at h
    exact first_mem h.left
  refine ⟨fun _ hm => hnew (List.mem_append_left _ hm), fun hgen hc index hm hg => hnew ?_,
    fun hc heq => hnew ?_⟩
  · rw [eq_first_of_follows h.follows.1 hgen hc]
    exact hfirst ⟨index, List.mem_append_left _ hm, hg⟩
  · rw [heq]
    exact hfirst ⟨current, by simp, hc⟩

end

-- The indices that took the writes, as they were written down.
structure Past (aliasName : String) (t : Traffic) : Prop where
  succession : Succession aliasName t.writeIndices
  last : t.writeIndices.getLast? = t.store.writeIndex? aliasName

section

variable {aliasName : String} {t u : Traffic} {more : List Document} {index : String}

theorem Proceeds.past (h : Proceeds aliasName t more u) (ht : Sound aliasName t)
    (hp : Past aliasName t) : Past aliasName u := by
  have hsame : u.store.writeIndex? aliasName = t.store.writeIndex? aliasName →
      Past aliasName u := by
    intro heq
    have hindices : u.writeIndices = t.writeIndices := by
      rw [h.writeIndices, if_pos heq, List.append_nil]
    refine ⟨?_, ?_⟩
    · rw [hindices]
      exact hp.succession
    · rw [hindices, heq]
      exact hp.last
  have hlast := hp.last
  rcases h.store.writeIndex? ht.aliases with heq | ⟨hnone, index, hfirst, hnew⟩ |
    ⟨current, next, hcurrent, hfollows, hnew⟩
  · exact hsame heq
  · have hempty : t.writeIndices = [] := by
      rw [hnone] at hlast
      exact List.getLast?_eq_none_iff.mp hlast
    have hindices : u.writeIndices = [index] := by
      rw [h.writeIndices, hempty, hnew, hnone]
      simp
    refine ⟨⟨fun other ho => ?_, ?_⟩, ?_⟩
    · rw [hindices] at ho
      cases ho
      exact hfirst
    · rw [hindices]
      exact List.isChain_singleton index
    · rw [hindices, hnew]
      rfl
  · by_cases hne : next = current
    · exact hsame (by rw [hnew, hcurrent, hne])
    · have hindices : u.writeIndices = t.writeIndices ++ [next] := by
        rw [h.writeIndices, hnew, hcurrent, if_neg fun he => hne (Option.some.inj he)]
        rfl
      rw [hcurrent] at hlast
      refine ⟨?_, ?_⟩
      · rw [hindices]
        exact hp.succession.append hlast hfollows hne
      · rw [hindices, hnew]
        simp

-- An index that does not take the writes any more stays as it is, unless it comes back.
theorem Proceeds.retired (h : Proceeds aliasName t more u) (ht : Sound aliasName t)
    (hnodup : u.writeIndices.Nodup) (hm : index ∈ t.writeIndices)
    (hw : t.store.writeIndex? aliasName ≠ some index) :
    u.store.writeIndex? aliasName ≠ some index ∧
      u.store.documents index = t.store.documents index := by
  constructor
  · intro hback
    have hne : u.store.writeIndex? aliasName ≠ t.store.writeIndex? aliasName :=
      fun heq => hw (heq.symm.trans hback)
    rw [h.writeIndices, if_neg hne, hback] at hnodup
    exact (List.nodup_append.mp hnodup).2.2 index hm index (by simp) rfl
  · rw [h.store.documents ht.noIndex, if_neg hw, List.append_nil]

theorem run_keeps (ht : Sound aliasName t) (hp : Past aliasName t) (events : List Event) :
    Sound aliasName (events.foldl (step aliasName) t) ∧
      Past aliasName (events.foldl (step aliasName) t) ∧
      t.writeIndices <+: (events.foldl (step aliasName) t).writeIndices := by
  refine List.foldlRecOn (motive := fun u => Sound aliasName u ∧ Past aliasName u ∧
    t.writeIndices <+: u.writeIndices) events (step aliasName) ⟨ht, hp, List.prefix_refl _⟩ ?_
  rintro u ⟨hu, hpast, hprefix⟩ e _
  obtain ⟨more, h⟩ := step_proceeds hu e
  refine ⟨h.sound, h.past hu hpast, hprefix.trans ?_⟩
  rw [h.writeIndices]
  exact List.prefix_append _ _

theorem run_retired (ht : Sound aliasName t) (hp : Past aliasName t) (events : List Event)
    (hnodup : (events.foldl (step aliasName) t).writeIndices.Nodup)
    (hm : index ∈ t.writeIndices) (hw : t.store.writeIndex? aliasName ≠ some index) :
    (events.foldl (step aliasName) t).store.writeIndex? aliasName ≠ some index ∧
      (events.foldl (step aliasName) t).store.documents index = t.store.documents index := by
  induction events generalizing t with
  | nil => exact ⟨hw, rfl⟩
  | cons e rest ih =>
    obtain ⟨more, h⟩ := step_proceeds ht e
    have hpast := h.past ht hp
    obtain ⟨_, _, hprefix⟩ := run_keeps h.sound hpast rest
    obtain ⟨hw', hdocuments⟩ := h.retired ht (hnodup.sublist hprefix.sublist) hm hw
    have hm' : index ∈ (step aliasName t e).writeIndices := by
      rw [h.writeIndices]
      exact List.mem_append_left _ hm
    obtain ⟨hw'', hdocuments'⟩ := ih h.sound hpast hnodup hm' hw'
    exact ⟨hw'', hdocuments'.trans hdocuments⟩

end

theorem begin_past (aliasName : String) : Past aliasName (begin aliasName Store.empty) :=
  ⟨⟨fun _ h => (by cases h), List.isChain_nil⟩, rfl⟩

-- The indices that took an alias's writes differ exactly if a day index is never replaced by a
-- generation after there were others, no day comes back, and the numbers do not run out. Then the
-- retired ones are left alone.
theorem writeIndices_nodup_iff (aliasName : String) (events : List Event) :
    let t := after aliasName .empty events
    t.writeIndices.getLast? = t.store.writeIndex? aliasName ∧
    (t.writeIndices.Nodup ↔ ∀ before current next later,
      t.writeIndices = before ++ current :: next :: later →
        Fresh aliasName before current next) ∧
    (t.writeIndices.Nodup → ∀ early late, events = early ++ late →
      ∀ index ∈ (after aliasName .empty early).writeIndices,
        (after aliasName .empty early).store.writeIndex? aliasName ≠ some index →
        t.store.writeIndex? aliasName ≠ some index ∧
          t.store.documents index = (after aliasName .empty early).store.documents index) := by
  have hbegin : Sound aliasName (begin aliasName .empty) := begin_sound Store.empty_sound rfl
  have hruns := run_keeps hbegin (begin_past aliasName)
  obtain ⟨_, hpast, _⟩ := hruns events
  refine ⟨hpast.last, nodup_iff_fresh hpast.succession, ?_⟩
  rintro hnodup early late rfl index hm hw
  obtain ⟨hearly, hpast', _⟩ := hruns early
  have hsplit : after aliasName .empty (early ++ late) =
      late.foldl (step aliasName) (after aliasName .empty early) := by
    unfold after
    rw [List.foldl_append]
  rw [hsplit] at hnodup ⊢
  exact run_retired hearly hpast' late hnodup hm hw

-- A relay that rolls over by limits, one by the day, and again one by limits.

private def byLimits : Lifecycle.Config :=
  { (default : Lifecycle.Config) with
    policy := { (default : Lifecycle.Policy) with maxDocs := some 1 } }

private def oneSample : Write.Batch :=
  (Write.Batch.empty 0).push ⟨"queued", ∅, 0, .zero false, by decide⟩

private def serve (party steps : Nat) : List Event := List.replicate steps (.advance party 0 .served)

def toDay : List Event :=
  .start byLimits :: serve 0 4 ++ .look { byLimits with daily := true } :: serve 1 6

def backToLimits : List Event :=
  .deliver default oneSample :: serve 2 2 ++ .look byLimits :: serve 3 10 ++
    .deliver default oneSample :: serve 4 2

theorem retired_index_takes_writes_again :
    "m-000001" ∈ (after "m" .empty toDay).writeIndices ∧
    (after "m" .empty toDay).store.writeIndex? "m" = some "m-1970.01.01" ∧
    (after "m" .empty (toDay ++ backToLimits)).store.writeIndex? "m" = some "m-000001" ∧
    ((after "m" .empty toDay).store.documents "m-000001").length = 0 ∧
    ((after "m" .empty (toDay ++ backToLimits)).store.documents "m-000001").length = 1 := by
  decide +kernel

end MetricRelay.Traffic
