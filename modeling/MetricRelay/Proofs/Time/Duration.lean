import MetricRelay.Store.Link

-- Durations compare as their nanoseconds do. That there is a longest one goes unnoticed where one is
-- held against another.

namespace MetricRelay

namespace Duration

variable {d : Duration} {n : Nat}

theorem nanos_min (d e : Duration) : (min d e).nanos = min d.nanos e.nanos := by
  change (if d.nanos ≤ e.nanos then d else e).nanos = _
  by_cases h : d.nanos ≤ e.nanos
  · rw [if_pos h, Nat.min_eq_left h]
  · rw [if_neg h, Nat.min_eq_right (Nat.le_of_not_le h)]

theorem nanos_ofNanos_le (n : Nat) : (ofNanos n).nanos ≤ n := Nat.min_le_left _ _

theorem le_ofNanos_iff : d ≤ ofNanos n ↔ d.nanos ≤ n := by
  change d.nanos ≤ min n (limit - 1) ↔ _
  rw [Nat.le_min]
  exact and_iff_left (Nat.le_sub_one_of_lt d.bounded)

theorem nanos_pos (h : d ≠ zero) : 0 < d.nanos :=
  Nat.pos_of_ne_zero fun hzero => h (Duration.ext hzero)

end Duration

-- A timer does not fire before its moment, and fires as soon as it may.
theorem Timer.firing_le_iff {moment now : Nat} :
    firing moment ≤ now ↔ moment ≤ now * Duration.nanosPerMilli := by
  unfold firing Duration.nanosPerMilli
  omega

end MetricRelay
