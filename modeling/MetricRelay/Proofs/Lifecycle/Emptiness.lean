import MetricRelay.Lifecycle.Policy
import MetricRelay.Proofs.Store.Statistics
import MetricRelay.Proofs.Trigger

-- When an index without documents is replaced: once it is too old, if empty ones may be replaced at
-- all. That holds as long as no other limit gets in first, as a limit on the size may where an
-- empty index has a size. In the store in memory it has none.

namespace MetricRelay.Lifecycle

variable {p : Policy} {s : IndexState} {now : Int64} {trigger : Trigger}

-- Empty indices may be replaced, and this one has reached the limit on the age.
structure Outlived (p : Policy) (s : IndexState) (now : Int64) (limit : Duration) : Prop where
  allowed : p.rollEmpty = true
  on : p.maxAge = some limit
  reached : limit ≤ s.age now

-- Another limit has been reached, and the one on the age has not or is looked at later.
def Forestalled (p : Policy) (s : IndexState) (now : Int64) : Prop :=
  ∃ k, k ≠ .age ∧ p.thresholds.Reached (s.measurement now) k ∧
    (p.thresholds.Reached (s.measurement now) .age → p.precedence.rank k < p.precedence.rank .age)

theorem evaluate_eq_some_iff_of_empty (hempty : s.docs = 0) :
    p.evaluate s now = some trigger ↔
      p.rollEmpty = true ∧ p.thresholds.Reports (s.measurement now) trigger ∧
        ∀ k, p.thresholds.Reached (s.measurement now) k →
          p.precedence.rank trigger.kind ≤ p.precedence.rank k := by
  have hall := p.precedence.mem_order
  unfold Policy.evaluate
  split
  · rename_i hallowed
    rw [Thresholds.evaluateIncludingEmpty, Thresholds.firstExceeded_eq_some_iff]
    simp [hallowed, hall]
  · rename_i hforbidden
    have hcount : (s.measurement now).count = 0 := hempty
    rw [Thresholds.evaluate, Thresholds.evaluateOnly, if_pos hcount]
    simp [hforbidden]

theorem evaluate_of_not_forestalled (hempty : s.docs = 0) (h : ¬Forestalled p s now) :
    p.evaluate s now = some trigger ↔
      ∃ limit, Outlived p s now limit ∧ trigger = .ageExceeded limit (s.age now) := by
  rw [evaluate_eq_some_iff_of_empty hempty]
  constructor
  · rintro ⟨hallowed, hreports, hfirst⟩
    by_cases hage : trigger.kind = .age
    · cases hreports with
      | size on reached => cases hage
      | count on reached => cases hage
      | age on reached => exact ⟨_, ⟨hallowed, on, reached⟩, rfl⟩
    · refine absurd ⟨trigger.kind, hage, hreports.reached, fun hold => ?_⟩ h
      exact (hfirst .age hold).lt_of_ne fun hrank => hage (p.precedence.rank_inj.mp hrank)
  · rintro ⟨limit, ⟨hallowed, on, reached⟩, rfl⟩
    refine ⟨hallowed, .age on reached, fun k hk => Nat.le_of_not_lt fun hearlier => h ?_⟩
    exact ⟨k, fun he => (he ▸ hearlier).false, hk, fun _ => hearlier⟩

-- Whatever gets in first is reported instead.
theorem evaluate_of_forestalled (hempty : s.docs = 0) (h : Forestalled p s now)
    (hallowed : p.rollEmpty = true) :
    ∃ trigger, p.evaluate s now = some trigger ∧ trigger.kind ≠ .age := by
  obtain ⟨k, -, hk, hbefore⟩ := h
  cases hfound : p.evaluate s now with
  | none =>
    rw [Policy.evaluate, if_pos hallowed, Thresholds.evaluateIncludingEmpty,
      Thresholds.firstExceeded_eq_none_iff] at hfound
    exact absurd hk (hfound k (p.precedence.mem_order k))
  | some trigger =>
    obtain ⟨-, hreports, hfirst⟩ := (evaluate_eq_some_iff_of_empty hempty).mp hfound
    refine ⟨trigger, rfl, fun hage => ?_⟩
    have hold := hbefore (hage ▸ hreports.reached)
    exact absurd (hage ▸ hfirst k hk) (Nat.not_le_of_lt hold)

-- Of valid limits only the one on the size can be reached by an index without documents.
theorem not_forestalled {what : String} (hempty : s.docs = 0)
    (hvalid : p.thresholds.validate what = .ok ())
    (hsize : ∀ limit, p.maxSize = some limit → s.bytes < limit) : ¬Forestalled p s now := by
  obtain ⟨-, hcount⟩ := Thresholds.pos_of_validate hvalid
  rintro ⟨k, hk, hreached, -⟩
  cases k with
  | size =>
    obtain ⟨limit, on, hle⟩ := hreached
    exact absurd hle (Nat.not_le_of_lt (hsize limit on))
  | count =>
    obtain ⟨limit, on, hle⟩ := hreached
    exact absurd (hempty ▸ hle : limit ≤ 0) (Nat.not_le_of_lt (hcount limit on))
  | age => exact hk rfl

-- An empty index is replaced exactly when empty ones may be and it has reached the limit on the
-- age, and that is what is reported, unless another limit forestalls it. Then that one is reported.
-- With valid limits only the one on the size can, and only if it is reached.
theorem empty_replaced_for_age (p : Policy) (now : Int64) (hempty : s.docs = 0) :
    (¬Forestalled p s now → ∀ trigger, p.evaluate s now = some trigger ↔
      ∃ limit, Outlived p s now limit ∧ trigger = .ageExceeded limit (s.age now)) ∧
    (Forestalled p s now → p.rollEmpty = true →
      ∃ trigger, p.evaluate s now = some trigger ∧ trigger.kind ≠ .age) ∧
    (p.rollEmpty = false → p.evaluate s now = none) ∧
    ∀ what, p.thresholds.validate what = .ok () →
      (∀ limit, p.maxSize = some limit → s.bytes < limit) → ¬Forestalled p s now := by
  refine ⟨fun h _ => evaluate_of_not_forestalled hempty h, evaluate_of_forestalled hempty,
    fun hforbidden => ?_, fun _ => not_forestalled hempty⟩
  refine Option.eq_none_iff_forall_ne_some.mpr fun trigger htrigger => ?_
  rw [((evaluate_eq_some_iff_of_empty hempty).mp htrigger).1] at hforbidden
  cases hforbidden

def emptied (bytes : Nat) : IndexState := ⟨"m", "m-000001", 0, bytes, 0, .active⟩

-- After eight days an empty index without a size is past its seven.
theorem empty_replaced_after_eight_days :
    let p : Policy := { (default : Policy) with rollEmpty := true, maxSize := some 1000 }
    let eightDays : Int64 := 691200000
    (emptied 0).docs = 0 ∧ p.evaluate (emptied 0) eightDays =
      some (.ageExceeded (.ofSeconds 604800) (.ofSeconds 691200)) := by
  intro p eightDays
  have hempty : (emptied 0).docs = 0 := rfl
  obtain ⟨hage, -, -, hvalid⟩ := empty_replaced_for_age p eightDays hempty
  have hfree := hvalid "index" rfl fun limit on => by
    cases on
    decide
  exact ⟨hempty, (hage hfree _).mpr ⟨.ofSeconds 604800, ⟨rfl, rfl, by decide⟩, by decide⟩⟩

-- A minute after it was made an empty index is replaced for its size.
theorem sized_empty_replaced :
    let p : Policy := { (default : Policy) with rollEmpty := true, maxSize := some 1000 }
    let minute : Int64 := 60000
    p.thresholds.validate "index" = .ok () ∧ (emptied 1248).docs = 0 ∧
      p.evaluate (emptied 1248) minute = some (.sizeExceeded 1000 1248) ∧
      ∀ limit, ¬Outlived p (emptied 1248) minute limit := by
  intro p minute
  refine ⟨rfl, rfl, rfl, fun limit h => ?_⟩
  obtain ⟨-, on, reached⟩ := h
  cases on
  exact absurd reached (by decide)

-- The store in memory tells no size of an empty index, whatever its history.
theorem stored_empty_replaced_for_age (events : List Store.Event) {index : String}
    {stats : Store.IndexStats} {what : String}
    (hstats : (Store.after events).indexStats index = .ok stats) (hempty : stats.documents = 0)
    (hvalid : p.thresholds.validate what = .ok ()) (aliasName : String) (phase : Phase)
    (now : Int64) :
    let s : IndexState :=
      ⟨aliasName, stats.index, stats.documents, stats.bytes, stats.created, phase⟩
    p.evaluate s now = some trigger ↔
      ∃ limit, Outlived p s now limit ∧ trigger = .ageExceeded limit (s.age now) := by
  intro s
  have hbytes : s.bytes = 0 := Store.bytes_of_empty (Store.after_measured events) hstats hempty
  refine evaluate_of_not_forestalled hempty (not_forestalled hempty hvalid fun limit on => ?_)
  rw [hbytes]
  exact (Thresholds.pos_of_validate hvalid).1 limit on

end MetricRelay.Lifecycle
