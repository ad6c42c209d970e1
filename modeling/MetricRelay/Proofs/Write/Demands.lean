import MetricRelay.Proofs.Write.Ticks

-- What it takes to make the parts of a pipeline and to use them: places in a queue and in a channel
-- are counted in machine words, ticks need a period, and a moment of the clock has so many bits for
-- its seconds. A configuration that was checked leaves some of this open.

namespace MetricRelay.Write

open Store (Link)

-- A queue has one place at least. Of the word that counts its places three bits are taken.
def Intake.Makeable (capacity : Nat) : Prop := 0 < capacity ∧ capacity ≤ (UInt64.size - 1) / 8

-- So does a channel, and of its word one bit is taken.
def Channel.Makeable (capacity : Nat) : Prop := 0 < capacity ∧ capacity ≤ (UInt64.size - 1) / 2

-- The parts that a start makes.
structure Config.Makeable (c : Config) : Prop where
  queue : Intake.Makeable c.queueCapacity
  reports : Channel.Makeable c.failureCapacity

-- Whether the clock can show this moment, in nanoseconds: its whole seconds are a signed word.
def Representable (moment : Nat) : Prop := moment / Duration.nanosPerSecond < 2 ^ 63

instance (capacity : Nat) : Decidable (Intake.Makeable capacity) :=
  inferInstanceAs (Decidable (_ ∧ _))

instance (capacity : Nat) : Decidable (Channel.Makeable capacity) :=
  inferInstanceAs (Decidable (_ ∧ _))

instance (moment : Nat) : Decidable (Representable moment) :=
  inferInstanceAs (Decidable (_ < _))

-- Two capacities and the time to drain are looked at by nobody, but for an empty queue.
theorem Config.validate_unlooked {config : Config} (h : config.validate = .ok ())
    {queueCapacity : Nat} (hqueue : 0 < queueCapacity) (failureCapacity : Nat)
    (drainTimeout : Duration) :
    { config with queueCapacity, failureCapacity, drainTimeout }.validate = .ok () := by
  obtain ⟨hworkers, -, hinterval, hbatch⟩ := config.validate_eq_ok_iff.mp h
  exact validate_eq_ok_iff.mpr ⟨hworkers, Nat.ne_of_gt hqueue, hinterval, hbatch⟩

-- Before its first tick the age timer has a period.
def Activity.Positive : Activity → Prop
  | .starting period => 0 < period.nanos
  | _ => True

theorem Activity.positive_of_role {a : Activity} (h : a.role ≠ .timer) : a.Positive := by
  cases a with
  | starting period => exact absurd rfl h
  | _ => trivial

namespace Pipeline

section

variable {id : Nat} {p q : Pipeline} {n : Nat} {a : Activity}

theorem positive_of_own (hown : p.own id = [(id, a)]) (ha : a.Positive) :
    ∀ e ∈ p.own id, e.2.Positive := by
  rw [hown]
  intro e he
  rw [List.mem_singleton.mp he]
  exact ha

theorem set_positive (hd : p.Distinct) (ha : a.Positive) :
    ∀ e ∈ (p.set id a).own id, e.2.Positive :=
  positive_of_own (own_set hd id a) ha

theorem tick_positive (period : Duration) (fuel overtime due : Nat) (l : Link)
    (hd : p.Distinct) : ∀ e ∈ (tick id period fuel overtime due p l).2.1.own id, e.2.Positive := by
  induction fuel generalizing overtime due p with
  | zero => exact set_positive hd trivial
  | succ fuel ih =>
    unfold tick
    split
    · rw [own_finish]
      exact fun e he => absurd he List.not_mem_nil
    · split
      · exact set_positive hd trivial
      · dsimp only
        split
        · rename_i q hexpire
          exact ih _ _ ((expire_carries id hexpire).distinct hd)
        · rename_i trigger batch q hexpire
          have hexpired := (expire_carries id hexpire).distinct hd
          split
          · rename_i r hflush
            exact set_positive ((flush_carries hflush).distinct hexpired) trivial
          · rename_i offer r hne hflush
            exact ih _ _ ((flush_carries hflush).distinct hexpired)

theorem Turns.positive {role : Role} (h : Turns id role p n q) (hr : role ≠ .timer) :
    ∀ e ∈ q.own id, e.2.Positive :=
  fun e he => Activity.positive_of_role ((h.own e he).1.trans_ne hr)

theorem Ends.positive {result : Option Result} (h : Ends id p n result q) :
    ∀ e ∈ q.own id, e.2.Positive := by
  cases result with
  | none =>
    obtain ⟨-, stage, hat⟩ := h.goesOn rfl
    exact positive_of_own hat.here trivial
  | some r =>
    rw [(h.returns rfl).2.1]
    exact fun e he => absurd he List.not_mem_nil

-- A turn of the age timer.
theorem turn_positive (l : Link) (hd : p.Distinct) (hfind : p.find? id = some a)
    (hr : a.role = .timer) (ha : a.Positive) :
    ∀ e ∈ (p.turn l id).2.1.own id, e.2.Positive := by
  have hstay := positive_of_own (own_eq_of_find? hd hfind) ha
  unfold turn
  rw [hfind]
  cases a with
  | starting period => exact tick_positive period _ _ _ l hd
  | ticking period due next =>
    dsimp only
    split
    · exact hstay
    · exact tick_positive period _ _ _ l hd
  | tickFlushing period due batch =>
    dsimp only
    split
    · rename_i q hredeem
      rw [redeem_mustWait hredeem]
      exact hstay
    · rename_i offer q hne hredeem
      have hdq := (redeem_carries hredeem).distinct hd
      have hset := (carries_set id q 0 (.starting period)).trans (carries_senderGone id _ 0)
      exact tick_positive period _ _ _ l (hset.distinct hdq)
  | _ => cases hr

end

end Pipeline

namespace Course

open Pipeline

-- The moment that a shutdown works out as its deadline. The clock showed `origin` when the time of
-- the link began.
def drainEnd (origin : Duration) (c : Course) : Nat :=
  origin.nanos + c.link.now * Duration.nanosPerMilli + c.pipeline.config.drainTimeout.nanos

-- What it takes that an event can come about.
def Demands (origin : Duration) (c : Course) : Event → Prop
  | .turn id => ∀ period, c.pipeline.find? id = some (.starting period) → 0 < period.nanos
  | .shutDown => Representable (c.drainEnd origin)
  | _ => True

def Met (origin : Duration) : Course → List Event → Prop
  | _, [] => True
  | c, e :: rest => c.Demands origin e ∧ (c.step e).Met origin rest

-- A course of this configuration, the age timer of which has a period.
structure Periodic (config : Config) (c : Course) : Prop where
  sound : c.Sound
  paced : ∃ deadline post, c.Paced config deadline post
  positive : ∀ e ∈ c.pipeline.activities, e.2.Positive

section

variable {config : Config} {c : Course} {origin : Duration} {e : Event}

theorem own_positive_step (h : c.Periodic config) (e : Event) :
    ∀ a ∈ (c.step e).pipeline.own (c.actor e), a.2.Positive := by
  have hd := h.sound.distinct
  have hnew := own_next h.sound
  have hsame : ∀ a ∈ c.pipeline.own (c.actor e), a.2.Positive :=
    fun a ha => h.positive a (mem_own_iff.mp ha).1
  cases e with
  | add s => exact (add_turns _ s hd hnew).positive (by simp)
  | write samples => exact (write_turns _ _ samples hd hnew).positive (by simp)
  | tryAdd s => exact (tryAdd_turns _ s hnew).positive (by simp)
  | flushExpired => exact (flushExpired_turns _ hd hnew).positive (by simp)
  | turn id =>
    change ∀ a ∈ (c.pipeline.turn c.link id).2.1.own id, a.2.Positive
    cases hfind : c.pipeline.find? id with
    | none =>
      rw [turn_of_none c.link hfind]
      exact hsame
    | some a =>
      have ha := mem_of_find? hfind
      cases hrole : a.role with
      | timer => exact turn_positive c.link hd hfind hrole (h.positive _ ha)
      | shutdown =>
        obtain ⟨-, stage, rfl, hat⟩ := ending_of_role h.sound ha hrole
        rw [turn_of_ending c.link hfind]
        exact (endOn_ends c.link hd hat h.sound.plain).positive
      | _ =>
        exact (turn_turns c.link hd hfind (h.sound.sound _ ha) (by simp [hrole])).positive
          (by simp [hrole])
  | shutDown =>
    unfold step
    dsimp only
    split
    · rename_i hending
      have hduring := h.sound.during
      rw [hending] at hduring
      exact (shutDown_ends c.link hd hduring.1 hduring.2 h.sound.plain).positive
    · exact hsame
  | world l => exact hsame

theorem Periodic.step (h : c.Periodic config) (e : Event) : (c.step e).Periodic config := by
  obtain ⟨deadline, post, hpaced⟩ := h.paced
  obtain ⟨hsound, later, hkept⟩ := after_paced h.sound ⟨deadline, hpaced⟩ [e]
  refine ⟨hsound, ⟨later, post, hkept⟩, fun a ha => ?_⟩
  by_cases hact : a.1 = c.actor e
  · exact own_positive_step h e a (mem_own_iff.mpr ⟨ha, hact⟩)
  · have hother := mem_others_iff.mpr ⟨ha, hact⟩
    rw [others_step h.sound e] at hother
    exact h.positive a (mem_others_iff.mp hother).1

-- Only a shutdown may ask for too much.
theorem Periodic.demands_iff (h : c.Periodic config) :
    c.Demands origin e ↔ (e = .shutDown → Representable (c.drainEnd origin)) := by
  cases e with
  | turn id =>
    refine ⟨fun _ hshut => (by cases hshut), fun _ period hfind => ?_⟩
    exact h.positive _ (mem_of_find? hfind)
  | shutDown => exact ⟨fun hmet _ => hmet, fun hmet => hmet rfl⟩
  | _ => exact ⟨fun _ hshut => (by cases hshut), fun _ => trivial⟩

theorem Periodic.met_iff (h : c.Periodic config) (events : List Event) :
    c.Met origin events ↔ ∀ earlier later, events = earlier ++ .shutDown :: later →
      Representable ((c.after earlier).drainEnd origin) := by
  induction events generalizing c with
  | nil => simp [Met]
  | cons e rest ih =>
    rw [Met, h.demands_iff, ih (h.step e)]
    constructor
    · rintro ⟨hfirst, hrest⟩ earlier later heq
      cases earlier with
      | nil => exact hfirst (List.cons.inj heq).1
      | cons e' earlier =>
        obtain ⟨rfl, htail⟩ := List.cons.inj heq
        exact hrest earlier later htail
    · intro hall
      refine ⟨?_, fun earlier later heq => ?_⟩
      · rintro rfl
        exact hall [] rest rfl
      · exact hall (e :: earlier) later (by rw [heq]; rfl)

theorem Periodic.after (h : c.Periodic config) (events : List Event) :
    (c.after events).Periodic config :=
  List.foldlRecOn events Course.step h fun _ h e _ => h.step e

theorem periodic_begin (hv : config.validate = .ok ()) (target : String) (l : Link)
    (first : Nat) : ∃ c, begin config target l first = .ok c ∧ c.Periodic config ∧
      c.pipeline.intake = .ofCapacity config.queueCapacity ∧
      c.pipeline.record = .ofCapacity config.failureCapacity := by
  obtain ⟨c, hbegin, hsound, -, -, hpaced⟩ := begin_paced hv target l first
  suffices hmade : (∀ e ∈ c.pipeline.activities, e.2.Positive) ∧
      c.pipeline.intake = .ofCapacity config.queueCapacity ∧
      c.pipeline.record = .ofCapacity config.failureCapacity from
    ⟨c, hbegin, ⟨hsound, ⟨0, _, hpaced 0⟩, hmade.1⟩, hmade.2⟩
  have hperiod := Duration.nanos_pos (config.positive_of_valid hv).1
  unfold begin Pipeline.start at hbegin
  rw [hv] at hbegin
  cases hbegin
  refine ⟨fun e he => ?_, rfl, rfl⟩
  rcases List.mem_append.mp he with he | he
  · obtain ⟨worker, -, rfl⟩ := List.mem_map.mp he
    trivial
  · rw [List.mem_singleton.mp he]
    exact hperiod

end

-- When a checked configuration finds what it takes to start, and events whatever they take: the
-- queue and the channel must not be past their bounds, the channel not without a place, and the
-- clock has to show what a shutdown works out. The check has seen to the rest, an empty queue and
-- a period of nothing; it looks at none of these.
theorem met_iff_unlooked (config : Config) (hv : config.validate = .ok ()) (target : String)
    (l : Link) (first : Nat) :
    (∃ c, begin config target l first = .ok c ∧
      c.pipeline.intake = .ofCapacity config.queueCapacity ∧
      c.pipeline.record = .ofCapacity config.failureCapacity ∧ ∀ origin events,
      (config.Makeable ∧ c.Met origin events ↔
        config.queueCapacity ≤ (UInt64.size - 1) / 8 ∧
        0 < config.failureCapacity ∧ config.failureCapacity ≤ (UInt64.size - 1) / 2 ∧
        ∀ earlier later, events = earlier ++ .shutDown :: later →
          Representable (origin.nanos + (c.after earlier).link.now * Duration.nanosPerMilli +
            config.drainTimeout.nanos))) ∧
    ∀ queueCapacity failureCapacity drainTimeout, 0 < queueCapacity →
      { config with queueCapacity, failureCapacity, drainTimeout }.validate = .ok () := by
  obtain ⟨c, hbegin, hc, hqueue, hreports⟩ := periodic_begin hv target l first
  refine ⟨⟨c, hbegin, hqueue, hreports, fun origin events => ?_⟩, ?_⟩
  · have hdrain : ∀ earlier, (c.after earlier).drainEnd origin =
        origin.nanos + (c.after earlier).link.now * Duration.nanosPerMilli +
          config.drainTimeout.nanos := by
      intro earlier
      obtain ⟨_, _, hpaced⟩ := (hc.after earlier).paced
      rw [drainEnd, hpaced.config]
    have hplace := Nat.pos_of_ne_zero (config.validate_eq_ok_iff.mp hv).2.1
    simp only [hc.met_iff, hdrain]
    constructor
    · rintro ⟨⟨hqueue, hsome, hreports⟩, hmet⟩
      exact ⟨hqueue.2, hsome, hreports, hmet⟩
    · rintro ⟨hqueue, hsome, hreports, hmet⟩
      exact ⟨⟨⟨hplace, hqueue⟩, hsome, hreports⟩, hmet⟩
  · exact fun _ failureCapacity drainTimeout hqueue =>
      config.validate_unlooked hv hqueue failureCapacity drainTimeout

private def calmLink : Link := ⟨.empty, .manual 0, 0, ∅, [], 0, 0⟩

theorem met_of_default :
    (default : Config).validate = .ok () ∧ (default : Config).Makeable ∧
    ∃ c, begin default "metrics" calmLink 0 = .ok c ∧ c.Met .zero [.turn 1, .shutDown] := by
  have hv : (default : Config).validate = .ok () := rfl
  obtain ⟨⟨c, hbegin, -, -, hmet⟩, -⟩ := met_iff_unlooked default hv "metrics" calmLink 0
  have hfits : ∀ earlier later, [Event.turn 1, .shutDown] = earlier ++ .shutDown :: later →
      Representable (Duration.zero.nanos +
        (c.after earlier).link.now * Duration.nanosPerMilli +
          (default : Config).drainTimeout.nanos) := by
    intro earlier later heq
    obtain rfl : earlier = [.turn 1] := by
      match earlier, heq with
      | [], heq => cases heq
      | [e], heq => cases heq; rfl
      | _ :: _ :: _, heq => simp at heq
    cases hbegin
    decide +kernel
  obtain ⟨hmade, hkept⟩ := (hmet .zero [.turn 1, .shutDown]).mpr
    ⟨by decide, by decide, by decide, hfits⟩
  exact ⟨hv, hmade, c, hbegin, hkept⟩

-- Reports that have no place to go, a queue longer than a word can count, and a shutdown that is
-- to end after all time.
private def mute : Config := { (default : Config) with failureCapacity := 0 }
private def endless : Config := { (default : Config) with queueCapacity := 2 ^ 61 }
private def patient : Config := { (default : Config) with drainTimeout := .ofSeconds (2 ^ 64 - 1) }

theorem unlooked_not_met :
    mute.validate = .ok () ∧ ¬mute.Makeable ∧
    endless.validate = .ok () ∧ ¬endless.Makeable ∧
    patient.validate = .ok () ∧ patient.Makeable ∧
    ∃ c, begin patient "metrics" calmLink 0 = .ok c ∧ ¬c.Met .zero [.shutDown] := by
  refine ⟨rfl, fun h => absurd h.reports (by decide), rfl, fun h => absurd h.queue (by decide),
    rfl, ⟨by decide, by decide⟩, _, rfl, fun h => absurd h.1 ?_⟩
  change ¬Representable _
  decide +kernel

end Course

end MetricRelay.Write
