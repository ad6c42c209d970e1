import MetricRelay.Proofs.Write.Aging

-- The age timer, when time stands still while it has a tick to do. It ticks once a period, so a
-- batch with samples in it is never as old as the limit on its age and a period together.

namespace MetricRelay

theorem Thresholds.age_ne_zero {t : Thresholds} {limit : Duration} {what : String}
    (h : t.validate what = .ok ()) (hl : t.maxAge = some limit) : limit ≠ .zero := by
  rintro rfl
  unfold validate at h
  rw [if_pos hl] at h
  split at h <;> cases h

namespace Write

open Store (Link)

theorem Config.validate_eq_ok_iff {config : Config} : config.validate = .ok () ↔
    config.workers ≠ 0 ∧ config.queueCapacity ≠ 0 ∧ config.ageCheckInterval ≠ .zero ∧
      config.batch.validate "batch" = .ok () := by
  unfold validate
  split_ifs <;> simp_all

theorem Config.positive_of_valid {config : Config} (h : config.validate = .ok ()) :
    config.ageCheckInterval ≠ .zero ∧ config.batch.validate "batch" = .ok () :=
  (config.validate_eq_ok_iff.mp h).2.2

namespace Course

open Pipeline

-- The age timer has a tick to do.
def TickDue (timer : Nat) (c : Course) : Prop :=
  (∃ period, c.pipeline.find? timer = some (.starting period)) ∨
    ∃ period due next, c.pipeline.find? timer = some (.ticking period due next) ∧
      next.due ≤ c.link.now

-- Time passes while the age timer waits for its next tick, and not past that. When the timer ticks
-- there is room in the queue. Nobody begins a shutdown.
def Admits (timer : Nat) (c : Course) : Event → Prop
  | .world l => l.now = c.link.now ∨ c.link.now < l.now ∧
    ∃ period due next, c.pipeline.find? timer = some (.ticking period due next) ∧
      l.now ≤ next.due
  | .turn id => id = timer → c.TickDue timer → 0 < c.pipeline.intake.free
  | .shutDown => False
  | _ => True

def Punctual (timer : Nat) : Course → List Event → Prop
  | _, [] => True
  | c, e :: rest => c.Admits timer e ∧ (c.step e).Punctual timer rest

-- The timer waits for its next tick, which is due within a period after the last one; or the first
-- one is still to come. At its last tick the open batch was young, or has become so since then.
def Ticks (limit : Duration) (timer : Nat) (period : Duration) (c : Course) : Prop :=
  ∃ since, since ≤ c.link.now ∧ c.pipeline.batch.Young limit since ∧
    (since = c.link.now ∧ c.pipeline.find? timer = some (.starting period) ∨
      ∃ due next, c.pipeline.find? timer = some (.ticking period due next) ∧
        due ≤ since * Duration.nanosPerMilli + period.nanos ∧
        next.due = Timer.firing due ∧ c.link.now ≤ next.due)

-- A course of which the timer, of this number, is in charge of the open batch.
structure OnTime (config : Config) (limit : Duration) (timer : Nat) (c : Course) : Prop where
  sound : c.Sound
  paced : ∃ deadline, c.Paced config deadline timer
  welcoming : c.Welcoming
  notBegun : c.ending = .notBegun
  going : c.pipeline.timerStopped = false
  ticks : c.Ticks limit timer config.ageCheckInterval

section

variable {config : Config} {limit : Duration} {timer : Nat} {c : Course} {e : Event}

theorem OnTime.limited (h : c.OnTime config limit timer)
    (hl : config.batch.maxAge = some limit) : c.pipeline.config.batch.maxAge = some limit := by
  obtain ⟨_, hpaced⟩ := h.paced
  rw [hpaced.config]
  exact hl

theorem OnTime.accepts (h : c.OnTime config limit timer) : c.pipeline.accepts = true := by
  have hduring := h.sound.during
  rw [h.notBegun] at hduring
  rw [Pipeline.accepts, hduring.1, h.welcoming.closed h.notBegun]
  rfl

theorem notBegun_step (h : c.ending = .notBegun) (he : e ≠ .shutDown) :
    (c.step e).ending = .notBegun := by
  cases e with
  | turn id =>
    change c.ending.after id _ = .notBegun
    rw [h]
    rfl
  | shutDown => exact absurd rfl he
  | _ => exact h

theorem role_of_notBegun {id : Nat} {a : Activity} (hc : c.Sound) (h : c.ending = .notBegun)
    (hfind : c.pipeline.find? id = some a) : a.role ≠ .shutdown := by
  intro hr
  rw [(ending_of_role hc (mem_of_find? hfind) hr).1] at h
  cases h

-- Whatever anybody does at one instant.
theorem OnTime.ages (h : c.OnTime config limit timer) (hpos : limit ≠ .zero)
    (hl : config.batch.maxAge = some limit) (he : e ≠ .shutDown) :
    Ages limit c.link.now c.pipeline (c.step e).pipeline := by
  have hlimited := h.limited hl
  cases e with
  | add s => exact add_ages hpos hlimited _ _ s
  | write samples => exact write_ages hpos hlimited _ _ _ samples
  | tryAdd s => exact tryAdd_ages hpos hlimited _ _ s
  | flushExpired => exact flushExpired_ages hpos hlimited _ _
  | turn id =>
    change Ages limit c.link.now c.pipeline (c.pipeline.turn c.link id).2.1
    cases hfind : c.pipeline.find? id with
    | none =>
      rw [turn_of_none c.link hfind]
      exact (Lasts.refl _).ages
    | some a =>
      exact turn_ages hpos hlimited c.link hfind (role_of_notBegun h.sound h.notBegun hfind)
  | shutDown => exact absurd rfl he
  | world l => exact (Lasts.refl _).ages

theorem OnTime.going_step (h : c.OnTime config limit timer) (he : e ≠ .shutDown) :
    (c.step e).pipeline.timerStopped = false := by
  refine Eq.trans ?_ h.going
  cases e with
  | add s => exact (aside_add _ _ _ s).timerStopped
  | write samples => exact (aside_write _ _ _ samples _).timerStopped
  | tryAdd s => exact (aside_tryAdd _ _ _ s).timerStopped
  | flushExpired => exact (aside_flushExpired _ _ _).timerStopped
  | turn id =>
    change (c.pipeline.turn c.link id).2.1.timerStopped = _
    cases hfind : c.pipeline.find? id with
    | none => rw [turn_of_none c.link hfind]
    | some a =>
      obtain ⟨_, hpaced⟩ := h.paced
      exact (turn_reseats c.link h.sound.distinct hpaced.seated hfind
        (h.sound.sound _ (mem_of_find? hfind))
        (role_of_notBegun h.sound h.notBegun hfind)).timerStopped
  | shutDown => exact absurd rfl he
  | world l => rfl

theorem find?_step {a : Activity} (hc : c.Sound) (hne : c.actor e ≠ timer)
    (hfind : c.pipeline.find? timer = some a) :
    (c.step e).pipeline.find? timer = some a := by
  have hown := own_eq_of_find? hc.distinct hfind
  rw [← own_eq_of_others (others_step hc e) (Ne.symm hne)] at hown
  exact find?_of_mem (step_sound hc e).distinct ((mem_activities_iff hown _).mpr rfl)

-- What others do leaves the timer as it is.
theorem OnTime.ticks_others (h : c.OnTime config limit timer) (hpos : limit ≠ .zero)
    (hl : config.batch.maxAge = some limit) (he : e ≠ .shutDown) (hworld : ∀ l, e ≠ .world l)
    (hne : c.actor e ≠ timer) :
    (c.step e).Ticks limit timer config.ageCheckInterval := by
  obtain ⟨since, hsince, hyoung, hstate⟩ := h.ticks
  have hages := h.ages hpos hl he
  refine ⟨since, (now_step hworld).symm ▸ hsince, ?_, ?_⟩
  · rcases hages.batch with hsame | hnow
    · exact hsame.symm ▸ hyoung
    · exact hnow.before hsince
  · rw [now_step hworld]
    rcases hstate with ⟨hnow, hfind⟩ | ⟨due, next, hfind, hnext⟩
    · exact .inl ⟨hnow, find?_step h.sound hne hfind⟩
    · exact .inr ⟨due, next, find?_step h.sound hne hfind, hnext⟩

theorem OnTime.ticks_turn (h : c.OnTime config limit timer)
    (hl : config.batch.maxAge = some limit) (hperiod : 0 < config.ageCheckInterval.nanos)
    (hroom : c.TickDue timer → 0 < c.pipeline.intake.free) :
    (c.step (.turn timer)).Ticks limit timer config.ageCheckInterval ∧
      ¬(c.step (.turn timer)).TickDue timer := by
  obtain ⟨since, hsince, hyoung, hstate⟩ := h.ticks
  have hnow : (c.step (.turn timer)).link.now = c.link.now := now_turn c.pipeline c.link timer
  have hwaits : ∀ since due next, since ≤ c.link.now →
      (c.step (.turn timer)).pipeline.batch.Young limit since →
      (c.step (.turn timer)).pipeline.find? timer =
        some (.ticking config.ageCheckInterval due next) →
      due ≤ since * Duration.nanosPerMilli + config.ageCheckInterval.nanos →
      next.due = Timer.firing due → c.link.now < next.due →
      (c.step (.turn timer)).Ticks limit timer config.ageCheckInterval ∧
        ¬(c.step (.turn timer)).TickDue timer := by
    intro since due next hle hyoung hfind hdue hnext hahead
    refine ⟨⟨since, hnow.symm ▸ hle, hyoung, .inr ⟨due, next, hfind, hdue, hnext, ?_⟩⟩, ?_⟩
    · rw [hnow]
      exact Nat.le_of_lt hahead
    · rintro (⟨period, hstarting⟩ | ⟨period, later, other, hother, hover⟩)
      · rw [hfind] at hstarting
        cases hstarting
      · rw [hfind] at hother
        cases hother
        rw [hnow] at hover
        omega
  have hticks : ∀ due ≤ c.link.nanos, c.TickDue timer → c.pipeline.turn c.link timer =
      c.pipeline.runTimer c.link timer config.ageCheckInterval due →
      (c.step (.turn timer)).Ticks limit timer config.ageCheckInterval ∧
        ¬(c.step (.turn timer)).TickDue timer := by
    intro due hdue hover hturn
    obtain ⟨⟨later, next, hfind, hahead, hle, hnext⟩, hyoung⟩ := runTimer_ticks (h.limited hl)
      h.accepts h.going (hroom hover) c.link timer hperiod hdue
    rw [← hturn] at hfind hyoung
    refine hwaits c.link.now later next (Nat.le_refl _) hyoung hfind hle hnext ?_
    rw [hnext]
    exact Nat.lt_of_not_le fun hfires => Nat.not_le_of_lt hahead (Timer.firing_le_iff.mp hfires)
  rcases hstate with ⟨-, hfind⟩ | ⟨due, next, hfind, hdue, hnext, hle⟩
  · refine hticks c.link.nanos (Nat.le_refl _) (.inl ⟨_, hfind⟩) ?_
    unfold turn
    rw [hfind]
  · by_cases hfires : next.due ≤ c.link.now
    · refine hticks due (Timer.firing_le_iff.mp (hnext ▸ hfires))
        (.inr ⟨_, due, next, hfind, hfires⟩) ?_
      unfold turn
      rw [hfind]
      dsimp only
      rw [if_neg (by simpa [h.going] using hfires)]
    · have hstays : c.pipeline.turn c.link timer = (none, c.pipeline, c.link) := by
        unfold turn
        rw [hfind]
        dsimp only
        rw [if_pos (by simpa [h.going] using hfires)]
      have hsame : (c.step (.turn timer)).pipeline = c.pipeline := congrArg (·.2.1) hstays
      exact hwaits since due next hsince (hsame.symm ▸ hyoung) (hsame.symm ▸ hfind) hdue hnext
        (Nat.lt_of_not_le hfires)

theorem OnTime.step (h : c.OnTime config limit timer) (hpos : limit ≠ .zero)
    (hl : config.batch.maxAge = some limit) (hperiod : 0 < config.ageCheckInterval.nanos)
    (he : c.Admits timer e) : (c.step e).OnTime config limit timer := by
  have hshut : e ≠ .shutDown := by
    rintro rfl
    exact he
  obtain ⟨_, hpaced⟩ := h.paced
  have hkept := step_paced h.sound hpaced e fun hcalled => absurd hcalled hshut
  refine ⟨step_sound h.sound e, ⟨_, hkept⟩, step_welcoming h.sound h.welcoming e,
    notBegun_step h.notBegun hshut, h.going_step hshut, ?_⟩
  have hcall : (∀ l, e ≠ .world l) → c.actor e = c.next →
      (c.step e).Ticks limit timer config.ageCheckInterval := fun hworld hactor =>
    h.ticks_others hpos hl hshut hworld (hactor ▸ Nat.ne_of_gt hpaced.before)
  cases e with
  | turn id =>
    by_cases hid : id = timer
    · subst hid
      exact (h.ticks_turn hl hperiod (he rfl)).1
    · exact h.ticks_others hpos hl hshut (by simp) hid
  | world l =>
    obtain ⟨since, hsince, hyoung, hstate⟩ := h.ticks
    rcases he with hsame | ⟨hlater, _, due, next, hfind, hfires⟩
    · have hnow : (c.step (.world l)).link.now = c.link.now := hsame
      refine ⟨since, hnow.symm ▸ hsince, hyoung, ?_⟩
      rw [hnow]
      exact hstate
    · rcases hstate with ⟨-, hstarting⟩ | ⟨_, _, hother, hdue, hnext, -⟩
      · rw [hfind] at hstarting
        cases hstarting
      · rw [hfind] at hother
        cases hother
        exact ⟨since, Nat.le_trans hsince (Nat.le_of_lt hlater), hyoung,
          .inr ⟨due, next, hfind, hdue, hnext, hfires⟩⟩
  | shutDown => exact absurd rfl hshut
  | _ => exact hcall (by simp) rfl

theorem OnTime.after (h : c.OnTime config limit timer) (hpos : limit ≠ .zero)
    (hl : config.batch.maxAge = some limit) (hperiod : 0 < config.ageCheckInterval.nanos)
    {events : List Event} (he : c.Punctual timer events) :
    (c.after events).OnTime config limit timer := by
  induction events generalizing c with
  | nil => exact h
  | cons e rest ih => exact ih (h.step hpos hl hperiod he.1) he.2

-- Between two ticks the batch ages by less than a period.
theorem OnTime.age_lt (h : c.OnTime config limit timer) (hdue : ¬c.TickDue timer)
    (hsome : c.pipeline.batch.samples ≠ []) :
    (c.pipeline.batch.age c.link.now).nanos < limit.nanos + config.ageCheckInterval.nanos := by
  obtain ⟨since, hsince, hyoung, hstate⟩ := h.ticks
  rcases hstate with ⟨-, hfind⟩ | ⟨due, next, hfind, hle, hnext, -⟩
  · exact absurd (.inl ⟨_, hfind⟩) hdue
  · have hahead : c.link.now * Duration.nanosPerMilli < due := Nat.lt_of_not_le fun hover =>
      hdue (.inr ⟨_, due, next, hfind, hnext ▸ Timer.firing_le_iff.mpr hover⟩)
    have hless : (since - c.pipeline.batch.created) * Duration.nanosPerMilli < limit.nanos :=
      Nat.lt_of_not_le (mt Batch.le_age_iff.mpr (hyoung hsome))
    refine Nat.lt_of_le_of_lt (Duration.nanos_ofNanos_le _) ?_
    rw [Nat.sub_mul] at hless ⊢
    omega

end

theorem onTime_begin {config : Config} (hv : config.validate = .ok ()) (limit : Duration)
    (target : String) (l : Link) (first : Nat) :
    ∃ c, begin config target l first = .ok c ∧
      c.OnTime config limit (first + config.workers) := by
  obtain ⟨c, hbegin, hsound, hopen, -⟩ := begin_welcoming hv target l first
  obtain ⟨d, hsame, -, hnotBegun, -, hpaced⟩ := begin_paced hv target l first
  obtain rfl : d = c := Except.ok.inj (hsame.symm.trans hbegin)
  suffices hfirst : d.pipeline.timerStopped = false ∧ d.link.now = l.now ∧
      d.pipeline.batch = .empty l.now ∧ (first + config.workers,
        .starting config.ageCheckInterval) ∈ d.pipeline.activities by
    obtain ⟨hgoing, hnow, hbatch, htimer⟩ := hfirst
    exact ⟨d, hbegin, hsound, ⟨0, hpaced 0⟩, hopen, hnotBegun, hgoing, d.link.now, Nat.le_refl _,
      hbatch ▸ Batch.young_empty limit _ l.now, .inl ⟨rfl, find?_of_mem hsound.distinct htimer⟩⟩
  unfold begin Pipeline.start at hbegin
  rw [hv] at hbegin
  cases hbegin
  exact ⟨rfl, rfl, rfl, List.mem_append_right _ (List.mem_singleton.mpr rfl)⟩

-- As long as time passes only while the age timer waits, and there is room in the queue whenever
-- it ticks: at a moment at which no tick is due, an open batch with samples in it is younger than
-- the limit and the period of the timer together. A tick that is due is over with after one turn.
-- And nobody ever closes a batch for its age before it has reached the limit.
theorem open_batch_young (config : Config) (hv : config.validate = .ok ()) (limit : Duration)
    (hl : config.batch.maxAge = some limit) (target : String) (l : Link) (first : Nat) :
    ∃ c, begin config target l first = .ok c ∧
      ∀ events, c.Punctual (first + config.workers) events →
        let timer := first + config.workers
        let d := c.after events
        (¬d.TickDue timer → d.pipeline.batch.samples ≠ [] →
          (d.pipeline.batch.age d.link.now).nanos <
            limit.nanos + config.ageCheckInterval.nanos) ∧
        (0 < d.pipeline.intake.free → ¬(d.step (.turn timer)).TickDue timer) ∧
        ∀ e, e ≠ .shutDown → (d.step e).pipeline.agedOut = d.pipeline.agedOut ∨
          (d.step e).pipeline.agedOut = d.pipeline.agedOut + 1 ∧
            limit ≤ d.pipeline.batch.age d.link.now := by
  obtain ⟨hinterval, hbatch⟩ := config.positive_of_valid hv
  have hpos := Thresholds.age_ne_zero hbatch hl
  have hperiod := Duration.nanos_pos hinterval
  obtain ⟨c, hbegin, hc⟩ := onTime_begin hv limit target l first
  refine ⟨c, hbegin, fun events hpunctual => ?_⟩
  have hd := hc.after hpos hl hperiod hpunctual
  refine ⟨hd.age_lt, fun hroom => (hd.ticks_turn hl hperiod fun _ => hroom).2, fun e he => ?_⟩
  exact (hd.ages hpos hl he).agedOut.imp_right fun haged => ⟨haged.1, haged.2.1⟩

-- The age timer waits for its next tick.
private def WaitsUntil (timer : Nat) (next : Timer) (c : Course) : Prop :=
  (c.pipeline.find? timer).map (fun a => (a.role, a.timers)) = some (.timer, [next])

private instance (timer : Nat) (next : Timer) (c : Course) : Decidable (c.WaitsUntil timer next) :=
  inferInstanceAs (Decidable (_ = _))

private theorem WaitsUntil.ticking {timer : Nat} {next : Timer} {c : Course}
    (h : c.WaitsUntil timer next) :
    ∃ period due, c.pipeline.find? timer = some (.ticking period due next) := by
  obtain ⟨a, hfind, ha⟩ := Option.map_eq_some_iff.mp h
  rw [hfind]
  cases a <;> simp_all [Activity.role, Activity.timers]

-- Batches of any size, closed after a second, and a look at them every second.
private def brisk : Config :=
  { (default : Config) with batch := ⟨none, none, some (.ofSeconds 1)⟩ }

-- The store at some moment, after the timer was set once.
private def later (now : Nat) : Link := ⟨.empty, .manual 0, now, ∅, [], 1, 0⟩

private def straggler : Sample := ⟨"late", ∅, 0, .zero false, by decide⟩

-- The first tick comes before the sample, the second one not yet.
private def untilTick : List Event := [.turn 1, .add straggler, .world (later 999)]

theorem lone_sample_aged_out :
    brisk.validate = .ok () ∧ brisk.batch.maxAge = some (.ofSeconds 1) ∧
    ∃ c d e, begin brisk "metrics" (later 0) 0 = .ok c ∧ d = c.after untilTick ∧
      e = d.step (.world (later 1000)) ∧ c.Punctual 1 (untilTick ++ [.world (later 1000)]) ∧
      ¬d.TickDue 1 ∧ d.pipeline.batch.samples = [straggler] ∧
      (d.pipeline.batch.age d.link.now).nanos < 1000000000 + 1000000000 ∧
      (e.step (.turn 1)).pipeline.agedOut = e.pipeline.agedOut + 1 ∧
      .ofSeconds 1 ≤ e.pipeline.batch.age e.link.now ∧ ¬(e.step (.turn 1)).TickDue 1 := by
  have hv : brisk.validate = .ok () := rfl
  have hl : brisk.batch.maxAge = some (.ofSeconds 1) := rfl
  obtain ⟨c, hbegin, hyoung⟩ := open_batch_young brisk hv _ hl "metrics" (later 0) 0
  have hadded : (c.after [.turn 1, .add straggler]).WaitsUntil 1 ⟨1000, 1⟩ := by
    cases hbegin
    decide +kernel
  have htimer : (c.after untilTick).WaitsUntil 1 ⟨1000, 1⟩ ∧ (c.after untilTick).link.now = 999 ∧
      (c.after untilTick).pipeline.batch.samples = [straggler] := by
    cases hbegin
    exact ⟨by decide +kernel, rfl, rfl⟩
  have hpunctual : c.Punctual 1 (untilTick ++ [.world (later 1000)]) := by
    obtain ⟨period, due, hticking⟩ := hadded.ticking
    obtain ⟨period', due', hticking'⟩ := htimer.1.ticking
    cases hbegin
    exact ⟨fun _ _ => by decide, trivial, .inr ⟨by decide, period, due, _, hticking, by decide⟩,
      .inr ⟨by decide, period', due', _, hticking', by decide⟩, trivial⟩
  have hcounted : ((c.after (untilTick ++ [.world (later 1000)])).step (.turn 1)).pipeline.agedOut =
      (c.after (untilTick ++ [.world (later 1000)])).pipeline.agedOut + 1 ∧
      0 < (c.after (untilTick ++ [.world (later 1000)])).pipeline.intake.free := by
    cases hbegin
    exact ⟨by decide +kernel, by decide +kernel⟩
  obtain ⟨hwaits, hnow, hsamples⟩ := htimer
  obtain ⟨_, _, hfind⟩ := hwaits.ticking
  obtain ⟨hcount, hroom⟩ := hcounted
  have hearly : c.Punctual 1 untilTick := ⟨hpunctual.1, hpunctual.2.1, hpunctual.2.2.1, trivial⟩
  have hnot : ¬(c.after untilTick).TickDue 1 := by
    rintro (⟨period, hstarting⟩ | ⟨period, due, next, hticking, hdue⟩)
    · rw [hfind] at hstarting
      cases hstarting
    · rw [hfind] at hticking
      cases hticking
      rw [hnow] at hdue
      exact absurd hdue (by decide)
  obtain ⟨hless, -, -⟩ := hyoung _ hearly
  obtain ⟨-, hdone, haged⟩ := hyoung _ hpunctual
  refine ⟨hv, hl, c, _, _, hbegin, rfl, rfl, hpunctual, hnot, hsamples,
    hless hnot (by rw [hsamples]; simp), hcount, ?_, hdone hroom⟩
  exact ((haged (.turn 1) (by simp)).resolve_left (by omega)).2

end Course

end Write

end MetricRelay
