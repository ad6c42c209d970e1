import MetricRelay.Proofs.Time.Duration
import MetricRelay.Write.Config
import Mathlib.Algebra.Order.Ring.Nat

-- Delays between attempts. Each is twice the one before until the greatest is reached, but there is
-- no doubling after the twentieth: from a small beginning the delays end below the greatest.

namespace MetricRelay

namespace Write.Backoff

variable {b : Backoff} {retry later : Nat}

-- The delay in nanoseconds, if doubling went on for ever.
def endless (b : Backoff) (retry : Nat) : Nat :=
  min (b.initial.nanos * 2 ^ (retry - 1)) b.max.nanos

-- A product past every duration is past the greatest delay, too.
theorem nanos_delay (b : Backoff) (retry : Nat) :
    (b.delay retry).nanos = min (b.initial.nanos * 2 ^ min (retry - 1) 20) b.max.nanos := by
  rw [delay, Duration.nanos_min, Nat.pow_eq]
  unfold Duration.times?
  split
  · rfl
  · rename_i hpast
    have hreached := b.max.bounded.le.trans (Nat.le_of_not_lt hpast)
    rw [Nat.min_eq_right hreached]
    exact Nat.min_self _

theorem delay_le_max (b : Backoff) (retry : Nat) : b.delay retry ≤ b.max := by
  change (b.delay retry).nanos ≤ _
  rw [delay, Duration.nanos_min]
  exact Nat.min_le_right _ _

theorem delay_mono (h : retry ≤ later) :
    b.delay retry ≤ b.delay later := by
  change (b.delay retry).nanos ≤ (b.delay later).nanos
  rw [nanos_delay b, nanos_delay b]
  have hdoublings : min (retry - 1) 20 ≤ min (later - 1) 20 := by omega
  exact min_le_min_right _ (Nat.mul_le_mul_left _ (Nat.pow_le_pow_right Nat.zero_lt_two hdoublings))

-- That doubling ends goes unnoticed if it has not ended yet, has nothing to double, or has reached
-- the greatest delay before.
theorem nanos_delay_eq_endless_iff (b : Backoff) (retry : Nat) :
    (b.delay retry).nanos = b.endless retry ↔
      retry ≤ 21 ∨ b.initial.nanos = 0 ∨ b.max.nanos ≤ b.initial.nanos * 2 ^ 20 := by
  rw [nanos_delay b, endless]
  by_cases hearly : retry ≤ 21
  · rw [Nat.min_eq_left (by omega : retry - 1 ≤ 20)]
    exact iff_of_true rfl (.inl hearly)
  · rw [Nat.min_eq_right (by omega : 20 ≤ retry - 1)]
    have hlonger : 2 ^ 20 < 2 ^ (retry - 1) := Nat.pow_lt_pow_right (by omega) (by omega)
    constructor
    · intro heq
      refine .inr (or_iff_not_imp_left.mpr fun hinitial => Nat.le_of_not_lt fun hroom => ?_)
      -- one more doubling fits below the greatest delay
      have hmore := Nat.mul_lt_mul_of_pos_left hlonger (Nat.pos_of_ne_zero hinitial)
      rw [Nat.min_eq_left hroom.le] at heq
      exact (lt_min hmore hroom).ne heq
    · rintro (hle | hinitial | hreached)
      · exact absurd hle hearly
      · rw [hinitial, Nat.zero_mul, Nat.zero_mul]
      · rw [Nat.min_eq_right hreached,
          Nat.min_eq_right (hreached.trans (Nat.mul_le_mul_left _ hlonger.le))]

theorem exists_delay_eq_max_iff (b : Backoff) :
    (∃ retry, 1 ≤ retry ∧ b.delay retry = b.max) ↔ b.max.nanos ≤ b.initial.nanos * 2 ^ 20 := by
  constructor
  · rintro ⟨retry, -, hretry⟩
    have hnanos := nanos_delay b retry
    rw [hretry] at hnanos
    calc b.max.nanos ≤ b.initial.nanos * 2 ^ min (retry - 1) 20 :=
          hnanos.trans_le (Nat.min_le_left _ _)
      _ ≤ b.initial.nanos * 2 ^ 20 :=
          Nat.mul_le_mul_left _ (Nat.pow_le_pow_right Nat.zero_lt_two (Nat.min_le_right _ _))
  · intro hreached
    refine ⟨21, by omega, Duration.ext ?_⟩
    rw [nanos_delay b]
    exact Nat.min_eq_right hreached

-- The delays grow, never past the greatest one. The first twenty-one are the initial one doubled each
-- time; the later ones go on doubling, and the greatest one is reached at all, only if it is at most
-- 2 ^ 20 times the initial one.
theorem delays_double (b : Backoff) :
    (∀ retry, (b.delay retry).nanos =
      min (b.initial.nanos * 2 ^ min (retry - 1) 20) b.max.nanos) ∧
    (∀ retry later, retry ≤ later → b.delay retry ≤ b.delay later) ∧
    (∀ retry, b.delay retry ≤ b.max) ∧
    (∀ retry, (b.delay retry).nanos = b.endless retry ↔
      retry ≤ 21 ∨ b.initial.nanos = 0 ∨ b.max.nanos ≤ b.initial.nanos * 2 ^ 20) ∧
    ((∃ retry, 1 ≤ retry ∧ b.delay retry = b.max) ↔
      b.max.nanos ≤ b.initial.nanos * 2 ^ 20) :=
  ⟨nanos_delay b, fun _ _ => delay_mono, delay_le_max b, nanos_delay_eq_endless_iff b,
    exists_delay_eq_max_iff b⟩

-- From a tenth of a second the greatest delay of five seconds is reached.
theorem default_delays_double :
    let b : Backoff := default
    (∀ retry, (b.delay retry).nanos = b.endless retry) ∧
      ∃ retry, 1 ≤ retry ∧ b.delay retry = b.max := by
  intro b
  obtain ⟨-, -, -, hendless, hreached⟩ := delays_double b
  exact ⟨fun retry => (hendless retry).mpr (.inr (.inr (by decide))), hreached.mpr (by decide)⟩

-- From a millisecond an hour is never reached, though doubling would get there at the twenty-third
-- retry.
theorem hour_never_reached :
    let b : Backoff := ⟨.ofMillis 1, .ofSeconds 3600⟩
    0 < b.initial.nanos ∧ b.endless 23 = b.max.nanos ∧ (b.delay 23).nanos ≠ b.endless 23 ∧
      ∀ retry, 1 ≤ retry → b.delay retry ≠ b.max := by
  intro b
  refine ⟨by decide, by decide, by decide, fun retry hretry heq => ?_⟩
  exact absurd ((exists_delay_eq_max_iff b).mp ⟨retry, hretry, heq⟩) (by decide)

end Write.Backoff

end MetricRelay
