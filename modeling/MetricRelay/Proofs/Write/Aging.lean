import MetricRelay.Proofs.Time.Duration
import MetricRelay.Proofs.Trigger
import MetricRelay.Proofs.Write.Answers
import MetricRelay.Proofs.Write.Refusal

-- The age of the open batch, and what anybody may do to it at one instant. Whoever adds a sample
-- leaves a batch that has not reached the limit on its age, or a new one, and so does the age timer
-- when it ticks. Nobody closes a batch for its age before it has reached the limit.

namespace MetricRelay

namespace Thresholds

variable {t : Thresholds} {m : Measurement} {order : Precedence} {kinds : List TriggerKind}
  {limit : Duration}

-- What is not reported was not reached.
theorem not_le_age_of_evaluateOnly (hl : t.maxAge = some limit) (hk : .age ∈ kinds)
    (hsome : m.count ≠ 0) (h : t.evaluateOnly m order kinds = none) : ¬limit ≤ m.age := by
  intro hle
  rw [evaluateOnly, if_neg hsome] at h
  exact firstExceeded_eq_none_iff.mp h .age hk ⟨limit, hl, hle⟩

theorem le_age_of_evaluateOnly {trigger : Trigger} (hl : t.maxAge = some limit)
    (h : t.evaluateOnly m order kinds = some trigger) (hkind : trigger.kind = .age) :
    limit ≤ m.age := by
  obtain ⟨-, hreports, -⟩ := evaluateOnly_eq_some_iff.mp h
  cases hreports with
  | size on reached => cases hkind
  | count on reached => cases hkind
  | age on reached => exact Option.some.inj (on.symm.trans hl) ▸ reached

end Thresholds

namespace Write

open Store (Link)

namespace Batch

def age (b : Batch) (now : Nat) : Duration := (b.measure now).age

-- Without samples, or not yet as old as the limit.
def Young (limit : Duration) (now : Nat) (b : Batch) : Prop :=
  b.samples ≠ [] → ¬limit ≤ b.age now

section

variable {limit : Duration} {b : Batch} {now since : Nat}

theorem young_empty (limit : Duration) (now created : Nat) : (empty created).Young limit now :=
  fun hsome => absurd rfl hsome

theorem le_age_iff :
    limit ≤ b.age now ↔ limit.nanos ≤ (now - b.created) * Duration.nanosPerMilli :=
  Duration.le_ofNanos_iff

theorem Young.before (h : b.Young limit now) (hle : since ≤ now) : b.Young limit since := by
  intro hsome hreached
  refine h hsome (le_age_iff.mpr ((le_age_iff.mp hreached).trans ?_))
  exact Nat.mul_le_mul_right _ (Nat.sub_le_sub_right hle _)

-- A batch that is opened has no age.
theorem not_le_age_of_created (hpos : limit ≠ .zero) (h : b.created = now) :
    ¬limit ≤ b.age now := by
  rw [le_age_iff, h, Nat.sub_self, Nat.zero_mul]
  exact Nat.not_le_of_lt (Duration.nanos_pos hpos)

end

end Batch

namespace Pipeline

-- How many batches were closed for their age.
def agedOut (p : Pipeline) : Nat := p.record.stats.flushedByAge

-- The open batch stays, and none is closed for its age.
structure Lasts (p q : Pipeline) : Prop where
  batch : q.batch = p.batch
  agedOut : q.agedOut = p.agedOut

-- What may be done to the open batch at one instant: it stays, it is young afterwards, or it is
-- closed at an age past the limit and a new one opened.
structure Ages (limit : Duration) (now : Nat) (p q : Pipeline) : Prop where
  batch : q.batch = p.batch ∨ q.batch.Young limit now
  created : q.batch.created = p.batch.created ∨ q.batch.created = now
  agedOut : q.agedOut = p.agedOut ∨
    q.agedOut = p.agedOut + 1 ∧ limit ≤ p.batch.age now ∧ q.batch.created = now

section

variable {id now : Nat} {p q r : Pipeline} {limit : Duration} {batch : Batch} {offer : Offer}
  {s : Sample} {trigger : Trigger}

theorem Lasts.refl (p : Pipeline) : Lasts p p := ⟨rfl, rfl⟩

theorem Lasts.trans (h : Lasts p q) (h' : Lasts q r) : Lasts p r :=
  ⟨h'.batch.trans h.batch, h'.agedOut.trans h.agedOut⟩

theorem Shifts.lasts (h : Shifts id p q) : Lasts p q :=
  ⟨h.batch, congrArg (fun r : Record => r.stats.flushedByAge) h.record⟩

theorem lasts_settleOffer (p : Pipeline) (intake : Intake) (batch : Batch) (offer : Offer) :
    Lasts p ({ p with intake := intake }.settleOffer batch offer) := by
  cases offer <;> exact ⟨rfl, rfl⟩

theorem lasts_redeem (h : p.redeem id batch = (offer, q)) : Lasts p q := by
  cases h
  exact lasts_settleOffer p _ batch _

theorem lasts_worked : Worked Lasts where
  trans := .trans
  shift h := h.lasts
  pop _ := ⟨rfl, rfl⟩
  note p target owed note := by
    refine ⟨rfl, ?_⟩
    cases note with
    | settled written dropped reason left =>
      simp only [agedOut, Delivery.takeDown]
      split <;> rfl
    | retrying => rfl
    | failed samples attempts error => rfl
  giveUp _ _ := ⟨rfl, rfl⟩

theorem Lasts.ages (h : Lasts p q) : Ages limit now p q :=
  ⟨.inl h.batch, .inl (congrArg Batch.created h.batch), .inl h.agedOut⟩

-- Of the batches that are closed at one instant only the first can have any age.
theorem Ages.trans (hpos : limit ≠ .zero) (h : Ages limit now p q) (h' : Ages limit now q r) :
    Ages limit now p r := by
  refine ⟨?_, ?_, ?_⟩
  · rcases h'.batch with hsame | hyoung
    · rw [hsame]
      exact h.batch
    · exact .inr hyoung
  · rcases h'.created with hsame | hnow
    · rw [hsame]
      exact h.created
    · exact .inr hnow
  · have hcreated : q.batch.created = now → r.batch.created = now := fun hq =>
      h'.created.elim (fun hr => hr.trans hq) fun hr => hr
    rcases h'.agedOut with hsame | ⟨hmore, hreached, hnew⟩
    · rcases h.agedOut with hfirst | ⟨hfirst, hreached, hnew⟩
      · exact .inl (hsame.trans hfirst)
      · exact .inr ⟨hsame.trans hfirst, hreached, hcreated hnew⟩
    · have hold : q.batch.created ≠ now := fun hq =>
        Batch.not_le_age_of_created hpos hq hreached
      rcases h.agedOut with hfirst | ⟨-, -, hq⟩
      · have hsame := h.created.resolve_right hold
        unfold Batch.age Batch.measure at hreached ⊢
        rw [hsame] at hreached
        exact .inr ⟨hfirst ▸ hmore, hreached, hnew⟩
      · exact absurd hq hold

-- Closing a batch.

theorem agedOut_flush (h : p.flush id batch (some trigger) = (offer, q)) :
    q.agedOut = p.agedOut + if trigger.kind = .age then 1 else 0 := by
  cases h
  rw [(lasts_settleOffer _ _ batch _).agedOut]
  unfold agedOut update Record.update Stats.addFlush
  rw [Option.map_some]
  cases trigger.kind <;> rfl

theorem not_mustWait_of_room {reason : Option Trigger} (h : 0 < p.intake.free) :
    (p.flush id batch reason).1 ≠ .mustWait := by
  change (p.intake.offer id batch).1 ≠ .mustWait
  unfold Intake.offer
  rw [if_pos h]
  split <;> exact fun hwaits => by cases hwaits

theorem batch_flush {reason : Option Trigger} (h : p.flush id batch reason = (offer, q)) :
    q.batch = p.batch := by
  cases h
  exact (lasts_settleOffer _ _ batch _).batch

theorem ages_of_closed (hflush : q.flush id batch (some trigger) = (offer, r))
    (hbatch : q.batch = .empty now) (hsame : q.agedOut = p.agedOut)
    (hdue : trigger.kind = .age → limit ≤ p.batch.age now) : Ages limit now p r := by
  have hnew : r.batch = .empty now := (batch_flush hflush).trans hbatch
  have hcreated : r.batch.created = now := by rw [hnew]; rfl
  refine ⟨.inr (hnew ▸ Batch.young_empty limit now now), .inr hcreated, ?_⟩
  have hcount := agedOut_flush hflush
  by_cases hkind : trigger.kind = .age
  · rw [if_pos hkind, hsame] at hcount
    exact .inr ⟨hcount, hdue hkind, hcreated⟩
  · rw [if_neg hkind, hsame] at hcount
    exact .inl hcount

theorem ages_append (hl : p.config.batch.maxAge = some limit)
    (h : p.append now s = (none, q)) : Ages limit now p q := by
  unfold append at h
  dsimp only at h
  split at h
  · cases h
  · rename_i hnone
    cases h
    have hcount : ((p.batch.push s).measure now).count ≠ 0 := by
      rw [Batch.measure_push]
      exact Nat.succ_ne_zero _
    have hfits := Thresholds.not_le_age_of_evaluateOnly hl (Precedence.mem_order _ _) hcount hnone
    exact ⟨.inr fun _ => hfits, .inl rfl, .inl rfl⟩

theorem ages_append_flush (hl : p.config.batch.maxAge = some limit)
    (h : p.append now s = (some (trigger, batch), q))
    (hflush : q.flush id batch (some trigger) = (offer, r)) : Ages limit now p r := by
  unfold append at h
  dsimp only at h
  split at h
  · rename_i hdue
    cases h
    have hreached : trigger.kind = .age → limit ≤ ((p.batch.push s).measure now).age :=
      Thresholds.le_age_of_evaluateOnly hl hdue
    exact ages_of_closed hflush rfl rfl hreached
  · cases h

theorem ages_expire_flush (hl : p.config.batch.maxAge = some limit)
    (h : p.expire now = (some (trigger, batch), q))
    (hflush : q.flush id batch (some trigger) = (offer, r)) : Ages limit now p r := by
  unfold expire at h
  split at h
  · cases h
  · split at h
    · rename_i hdue
      cases h
      exact ages_of_closed hflush rfl rfl (Thresholds.le_age_of_evaluateOnly hl hdue)
    · cases h

theorem eq_of_expire (h : p.expire now = (none, q)) : q = p := by
  unfold expire at h
  split at h
  · cases h
    rfl
  · split at h
    · cases h
    · cases h
      rfl

theorem batch_of_expire (h : p.expire now = (some (trigger, batch), q)) :
    q.batch = .empty now := by
  unfold expire at h
  split at h
  · cases h
  · split at h
    · cases h
      rfl
    · cases h

-- What is young the age timer spares, and what it spares is young.

theorem expire_of_young (hl : p.config.batch.maxAge = some limit)
    (hyoung : p.batch.Young limit now) : p.expire now = (none, p) := by
  unfold expire
  split
  · rfl
  · split
    · rename_i trigger hdue
      obtain ⟨hsome, -, hkind, -⟩ := Thresholds.evaluateOnly_eq_some_iff.mp hdue
      have hreached := Thresholds.le_age_of_evaluateOnly hl hdue (List.mem_singleton.mp hkind)
      exact absurd hreached (hyoung (List.length_pos_iff.mp hsome))
    · rfl

theorem young_of_expire (hl : p.config.batch.maxAge = some limit) (ha : p.accepts = true)
    (h : p.expire now = (none, q)) : p.batch.Young limit now := by
  unfold expire at h
  rw [ha, Bool.not_true, if_neg Bool.false_ne_true] at h
  split at h
  · cases h
  · rename_i hnone
    intro hsome
    exact Thresholds.not_le_age_of_evaluateOnly hl (List.mem_singleton.mpr rfl)
      (mt List.length_eq_zero_iff.mp hsome) hnone

-- Clients.

theorem add_ages (hpos : limit ≠ .zero) (hl : p.config.batch.maxAge = some limit) (now id : Nat)
    (s : Sample) : Ages limit now p (p.add now id s).2 := by
  unfold add
  split
  · exact (Lasts.refl p).ages
  · split
    · rename_i happend
      exact ages_append hl happend
    · rename_i happend
      split
      · rename_i hflush
        exact ages_append_flush hl happend hflush
      · rename_i hflush
        exact ages_append_flush hl happend hflush
      · rename_i hflush
        exact (ages_append_flush hl happend hflush).trans hpos (shifts_set id _ _).lasts.ages

theorem tryAdd_ages (hpos : limit ≠ .zero) (hl : p.config.batch.maxAge = some limit)
    (now id : Nat) (s : Sample) : Ages limit now p (p.tryAdd now id s).2 := by
  have hadd := add_ages hpos hl now id s
  by_cases ha : p.accepts = true
  · by_cases hfills : p.Fills now s
    · by_cases hclosed : p.intake.closed = true
      · rw [tryAdd_of_fills id ha hfills, if_pos hclosed]
        exact (Lasts.refl p).ages
      · by_cases hfree : p.intake.free = 0
        · rw [tryAdd_of_fills id ha hfills, if_neg hclosed, if_pos hfree]
          exact Lasts.ages ⟨rfl, rfl⟩
        · rw [add_of_room id ha hfills ⟨Bool.eq_false_iff.mpr hclosed, Nat.pos_of_ne_zero hfree⟩]
            at hadd
          exact hadd
    · rw [add_of_not_fills id ha hfills] at hadd
      exact hadd
  · rw [tryAdd_of_not_accepts id (Bool.eq_false_iff.mpr ha)]
    exact (Lasts.refl p).ages

theorem write_ages (hpos : limit ≠ .zero) (hl : p.config.batch.maxAge = some limit)
    (now id total : Nat) (samples : List Sample) :
    Ages limit now p (write now id total samples p).2 := by
  induction samples generalizing p with
  | nil => exact (Lasts.refl p).ages
  | cons s rest ih =>
    unfold write
    split
    · exact (Lasts.refl p).ages
    · split
      · rename_i q happend
        have hlq : q.config.batch.maxAge = some limit := (aside_append happend).config ▸ hl
        exact (ages_append hl happend).trans hpos (ih hlq)
      · rename_i trigger batch q happend
        split
        · rename_i r hflush
          have hlr : r.config.batch.maxAge = some limit :=
            ((aside_append happend).trans (aside_flush hflush)).config ▸ hl
          exact (ages_append_flush hl happend hflush).trans hpos (ih hlr)
        · rename_i hflush
          exact ages_append_flush hl happend hflush
        · rename_i hflush
          exact (ages_append_flush hl happend hflush).trans hpos (shifts_set id _ _).lasts.ages

theorem flushExpired_ages (hpos : limit ≠ .zero) (hl : p.config.batch.maxAge = some limit)
    (now id : Nat) : Ages limit now p (p.flushExpired now id).2 := by
  unfold flushExpired
  split
  · rename_i q hexpire
    rw [eq_of_expire hexpire]
    exact (Lasts.refl p).ages
  · rename_i hexpire
    split
    · rename_i hflush
      exact ages_expire_flush hl hexpire hflush
    · rename_i hflush
      exact ages_expire_flush hl hexpire hflush
    · rename_i hflush
      exact (ages_expire_flush hl hexpire hflush).trans hpos (shifts_set id _ _).lasts.ages

-- The age timer.

theorem tick_ages (hpos : limit ≠ .zero) (hl : p.config.batch.maxAge = some limit)
    (id : Nat) (period : Duration) (fuel overtime due : Nat) (l : Link) :
    Ages limit l.now p (tick id period fuel overtime due p l).2.1 := by
  induction fuel generalizing overtime due p with
  | zero => exact (shifts_set id p _).lasts.ages
  | succ fuel ih =>
    unfold tick
    split
    · exact (shifts_finish id p).lasts.ages
    · split
      · exact (shifts_set id p _).lasts.ages
      · dsimp only
        split
        · rename_i q hexpire
          rw [eq_of_expire hexpire]
          exact ih hl _ _
        · rename_i trigger batch q hexpire
          split
          · rename_i hflush
            exact (ages_expire_flush hl hexpire hflush).trans hpos (shifts_set id _ _).lasts.ages
          · rename_i offer r hne hflush
            have hlr : r.config.batch.maxAge = some limit :=
              ((aside_expire hexpire).trans (aside_flush hflush)).config ▸ hl
            exact (ages_expire_flush hl hexpire hflush).trans hpos (ih hlr _ _)

-- A turn of anybody but the shutdown.
theorem turn_ages {a : Activity} (hpos : limit ≠ .zero) (hl : p.config.batch.maxAge = some limit)
    (l : Link) (h : p.find? id = some a) (hr : a.role ≠ .shutdown) :
    Ages limit l.now p (p.turn l id).2.1 := by
  have hfinished : ∀ q : Pipeline, Ages limit l.now q (q.finish id).senderGone := fun q =>
    ((shifts_finish id q).trans (shifts_senderGone id _)).lasts.ages
  unfold turn
  rw [h]
  cases a with
  | adding batch trigger | flushing batch trigger =>
    dsimp only
    cases hredeem : p.redeem id batch with
    | mk offer q =>
      have hredeemed : Ages limit l.now p q := (lasts_redeem hredeem).ages
      cases offer with
      | mustWait => exact hredeemed
      | _ => exact hredeemed.trans hpos (hfinished q)
  | writing batch rest total =>
    dsimp only
    cases hredeem : p.redeem id batch with
    | mk offer q =>
      have hredeemed : Ages limit l.now p q := (lasts_redeem hredeem).ages
      cases offer with
      | mustWait => exact hredeemed
      | refused => exact hredeemed.trans hpos (hfinished q)
      | sent =>
        have hgone := (shifts_remove id q).trans (shifts_senderGone id _)
        have haside := ((aside_redeem hredeem).trans (aside_remove q id)).trans
          (aside_senderGone _)
        exact (hredeemed.trans hpos hgone.lasts.ages).trans hpos
          (write_ages hpos (haside.config ▸ hl) l.now id total rest)
  | starting period => exact tick_ages hpos hl id period _ _ _ l
  | ticking period due next =>
    dsimp only
    split
    · exact (Lasts.refl p).ages
    · exact tick_ages hpos hl id period _ _ _ l
  | tickFlushing period due batch =>
    dsimp only
    cases hredeem : p.redeem id batch with
    | mk offer q =>
      have hredeemed : Ages limit l.now p q := (lasts_redeem hredeem).ages
      have hset := (shifts_set id q (.starting period)).trans (shifts_senderGone id _)
      have haside := ((aside_redeem hredeem).trans (aside_set q id (.starting period))).trans
        (aside_senderGone _)
      have hgoes := (hredeemed.trans hpos hset.lasts.ages).trans hpos
        (tick_ages hpos (haside.config ▸ hl) id period (l.nanos - due + 2) l.overtime due l)
      cases offer with
      | mustWait => exact hredeemed
      | _ => exact hgoes
  | working stage => exact (workOn_worked lasts_worked l stage).ages
  | closing batch limit => exact absurd rfl hr
  | ending stage => exact absurd rfl hr

-- The next tick is less late than this one, and no more than a period away.
theorem nextTick_bounds {now due : Nat} {period : Duration} (hperiod : 0 < period.nanos)
    (hdue : due ≤ now) :
    due < nextTick now period due ∧ nextTick now period due ≤ now + period.nanos := by
  unfold nextTick
  split <;> omega

-- With more fuel the age timer would do the same.

theorem tick_of_more_fuel {period : Duration} (hperiod : 0 < period.nanos) (id more : Nat)
    (l : Link) {fuel due : Nat} (overtime : Nat) (p : Pipeline) (hfuel : l.nanos < due + fuel) :
    tick id period (fuel + more + 1) overtime due p l =
      tick id period (fuel + 1) overtime due p l := by
  induction fuel generalizing overtime due p with
  | zero =>
    have hahead : l.nanos < due := hfuel
    unfold tick
    rw [if_pos hahead, if_pos hahead]
  | succ fuel ih =>
    have hsucc : fuel + 1 + more = fuel + more + 1 := by omega
    rw [hsucc]
    unfold tick
    by_cases hahead : l.nanos < due
    · rw [if_pos hahead, if_pos hahead]
    · have hlater := (nextTick_bounds hperiod (Nat.le_of_not_lt hahead)).1
      have hsame := fun q => ih (overtime - 1) q
        (by omega : l.nanos < nextTick l.nanos period due + fuel)
      simp only [hsame]

theorem runTimer_of_more_fuel {period : Duration} (hperiod : 0 < period.nanos) (p : Pipeline)
    (l : Link) (id due more : Nat) :
    tick id period (l.nanos - due + 1 + more + 1) l.overtime due p l =
      p.runTimer l id period due :=
  tick_of_more_fuel hperiod id more l l.overtime p (by omega)

-- A young batch is left alone by all ticks that are due.
theorem tick_of_young (hl : p.config.batch.maxAge = some limit) (hgoing : p.timerStopped = false)
    (hyoung : p.batch.Young limit l.now) {period : Duration} (hperiod : 0 < period.nanos)
    {fuel due : Nat} (id overtime : Nat) (hdue : due ≤ l.nanos + period.nanos)
    (hfuel : l.nanos < due + fuel) :
    ∃ next, l.nanos < next ∧ next ≤ l.nanos + period.nanos ∧
      tick id period fuel overtime due p l = p.awaitTick l id period next := by
  induction fuel generalizing overtime due with
  | zero => exact ⟨due, hfuel, hdue, rfl⟩
  | succ fuel ih =>
    unfold tick
    rw [hgoing, Bool.false_and, if_neg Bool.false_ne_true]
    by_cases hahead : l.nanos < due
    · rw [if_pos hahead]
      exact ⟨due, hahead, hdue, rfl⟩
    · obtain ⟨hlater, hnext⟩ := nextTick_bounds hperiod (Nat.le_of_not_lt hahead)
      rw [if_neg hahead]
      dsimp only
      rw [expire_of_young hl hyoung]
      exact ih (overtime - 1) hnext (by omega)

-- Ticks that are due are done, with room in the queue: the next one is ahead, by a period at most,
-- and the open batch is young.
theorem runTimer_ticks (hl : p.config.batch.maxAge = some limit) (ha : p.accepts = true)
    (hgoing : p.timerStopped = false) (hroom : 0 < p.intake.free) (l : Link) (id : Nat)
    {period : Duration} (hperiod : 0 < period.nanos) {due : Nat} (hdue : due ≤ l.nanos) :
    (∃ due' next, (p.runTimer l id period due).2.1.find? id = some (.ticking period due' next) ∧
      l.nanos < due' ∧ due' ≤ l.nanos + period.nanos ∧ next.due = Timer.firing due') ∧
    (p.runTimer l id period due).2.1.batch.Young limit l.now := by
  obtain ⟨hlater, hnext⟩ := nextTick_bounds hperiod hdue
  obtain ⟨fuel, hfuel, hleft⟩ : ∃ fuel, l.nanos - due + 2 = fuel + 1 ∧
      l.nanos < nextTick l.nanos period due + fuel := ⟨l.nanos - due + 1, by omega, by omega⟩
  have hawait : ∀ q : Pipeline, q.config.batch.maxAge = some limit → q.timerStopped = false →
      q.batch.Young limit l.now →
      let r := (tick id period fuel (l.overtime - 1) (nextTick l.nanos period due) q l).2.1
      (∃ due' next, r.find? id = some (.ticking period due' next) ∧ l.nanos < due' ∧
        due' ≤ l.nanos + period.nanos ∧ next.due = Timer.firing due') ∧
      r.batch.Young limit l.now := by
    intro q hlq hq hyoung
    obtain ⟨due', hahead, hle, htick⟩ :=
      tick_of_young hlq hq hyoung hperiod id (l.overtime - 1) hnext hleft
    dsimp only
    rw [htick]
    refine ⟨⟨due', _, find?_set q id _, hahead, hle, rfl⟩, ?_⟩
    exact (shifts_set id q _).batch.symm ▸ hyoung
  unfold runTimer
  rw [hfuel]
  unfold tick
  rw [hgoing, Bool.false_and, if_neg Bool.false_ne_true, if_neg (Nat.not_lt.mpr hdue)]
  dsimp only
  split
  · rename_i q hexpire
    have hyoung := young_of_expire hl ha hexpire
    rw [eq_of_expire hexpire]
    exact hawait p hl hgoing hyoung
  · rename_i trigger batch q hexpire
    have hfree : q.intake.free = p.intake.free := by
      rw [(expire_refilled hexpire).1.intake]
    split
    · rename_i r hflush
      have hwaits : (q.flush id batch (some trigger)).1 = .mustWait := by rw [hflush]
      exact absurd hwaits (not_mustWait_of_room (hfree ▸ hroom))
    · rename_i offer r hne hflush
      have haside := (aside_expire hexpire).trans (aside_flush hflush)
      refine hawait r (haside.config ▸ hl) (haside.timerStopped.trans hgoing) ?_
      rw [batch_flush hflush, batch_of_expire hexpire]
      exact Batch.young_empty limit l.now l.now

end

end Pipeline

end Write

end MetricRelay
