import MetricRelay.Proofs.Store.Standstill
import MetricRelay.Proofs.Write.Pace
import MetricRelay.Proofs.Write.Trace

-- What holds up a shutdown. No turn takes any time, and a turn of the shutdown either completes it,
-- or takes it to a later stage, or finds something to wait for.

namespace MetricRelay.Write

open Store (Link)

-- The stages come one after the other.
def ShutdownStage.rank : ShutdownStage → Nat
  | .awaitingTimer _ _ => 0
  | .closing _ _ _ => 1
  | .joining _ _ _ => 2
  | .dismissing _ _ => 3
  | .collecting _ => 4

namespace Pipeline

section

variable {id : Nat} {p q : Pipeline} {l : Link}

-- Turns take no time.

theorem now_tick (id : Nat) (period : Duration) (fuel overtime due : Nat) (p : Pipeline)
    (l : Link) : (tick id period fuel overtime due p l).2.2.now = l.now := by
  induction fuel generalizing overtime due p with
  | zero => rfl
  | succ fuel ih =>
    unfold tick
    split
    · rfl
    · split
      · rfl
      · dsimp only
        split
        · exact ih _ _ _
        · split
          · rfl
          · exact ih _ _ _

theorem now_deliverBatch (p : Pipeline) (l : Link) (batch : Batch) :
    (p.deliverBatch l batch).2.1.now = l.now :=
  Store.now_run _ l _ _

theorem now_receive {fuel : Nat}
    (hwork : ∀ (p : Pipeline) (l : Link), (work id fuel p l).2.2.now = l.now)
    (p : Pipeline) (l : Link) : (receive id fuel p l).2.2.now = l.now := by
  unfold receive
  split
  · rfl
  · split
    · split <;> rfl
    · rename_i batch told intake _
      dsimp only
      generalize ({ p with intake := intake }.wake told.toList).releaseReceiver = q
      have hdelivered := now_deliverBatch q l batch
      split
      · rename_i l' record _ hreached
        rw [hreached] at hdelivered
        exact (hwork _ l').trans hdelivered
      · rename_i hreached
        rw [hreached] at hdelivered
        exact hdelivered

theorem now_work (fuel : Nat) (p : Pipeline) (l : Link) :
    (work id fuel p l).2.2.now = l.now := by
  induction fuel generalizing p l with
  | zero =>
    unfold work
    rfl
  | succ fuel ih =>
    unfold work
    split
    · rfl
    · exact now_receive ih _ l

theorem now_workOn (p : Pipeline) (l : Link) (id : Nat) (stage : WorkerStage) :
    (p.workOn l id stage).2.2.now = l.now := by
  unfold workOn
  split
  · exact now_work _ p l
  · split
    · exact now_receive (now_work _) p l
    · rfl
  · exact now_receive (now_work _) p l
  · rename_i batch owed s
    have hresumed := Store.now_suspended_resume (Delivery.takeDown p.target) l (p.record, owed) s
    split
    · rfl
    · split
      · rename_i l' record _ hreached
        rw [hreached] at hresumed
        exact (now_work _ _ l').trans hresumed
      · rename_i hreached
        rw [hreached] at hresumed
        exact hresumed

-- Nor does the shutdown, which after its turn is over or stands at such a stage or a later one.
structure Advances (id rank : Nat) (l : Link) (turn : Option Result × Pipeline × Link) : Prop where
  now : turn.2.2.now = l.now
  stage : turn.1 = none →
    ∃ stage, turn.2.1.find? id = some (.ending stage) ∧ rank ≤ stage.rank

theorem Advances.earlier {rank earlier : Nat} {turn : Option Result × Pipeline × Link}
    (h : Advances id rank l turn) (hle : earlier ≤ rank) : Advances id earlier l turn := by
  refine ⟨h.now, fun hnone => ?_⟩
  obtain ⟨stage, hfind, hrank⟩ := h.stage hnone
  exact ⟨stage, hfind, Nat.le_trans hle hrank⟩

-- A turn that leads further is not one that leaves everything as it is.
theorem Advances.ne {stage : ShutdownStage} {l' : Link}
    (h : Advances id (stage.rank + 1) l (none, p, l'))
    (hfind : p.find? id = some (.ending stage)) : False := by
  obtain ⟨stage', hfind', hrank⟩ := h.stage rfl
  rw [hfind] at hfind'
  cases hfind'
  omega

theorem beginCollect_advances (p : Pipeline) (l : Link) (id : Nat) (report : Loss) :
    Advances id 4 l (p.beginCollect l id report) := by
  unfold beginCollect
  split
  · exact ⟨rfl, fun h => (by cases h)⟩
  · exact ⟨rfl, fun _ => ⟨_, find?_set _ id _, Nat.le_refl _⟩⟩

theorem beginDismiss_advances (p : Pipeline) (l : Link) (id : Nat) (workers : List Nat)
    (report : Loss) : Advances id 3 l (p.beginDismiss l id workers report) := by
  unfold beginDismiss
  dsimp only
  split
  · exact ⟨rfl, fun _ => ⟨_, find?_set _ id _, Nat.le_refl _⟩⟩
  · exact (beginCollect_advances _ l id report).earlier (by omega)

theorem drain_advances (p : Pipeline) (l : Link) (id deadline : Nat) (report : Loss) :
    Advances id 2 l (p.drain l id deadline report) := by
  unfold drain
  dsimp only
  split
  · exact (beginCollect_advances _ l id report).earlier (by omega)
  · split
    · have hdismissed := beginDismiss_advances { p with workers := [] } (l.setTimer deadline).2 id
        p.workers report
      exact ⟨hdismissed.now, (hdismissed.earlier (Nat.le_succ 2)).stage⟩
    · exact ⟨rfl, fun _ => ⟨_, find?_set _ id _, Nat.le_refl _⟩⟩

theorem now_close (p : Pipeline) (l : Link) (id deadline : Nat) :
    (p.close l id deadline).2.2.now = l.now := by
  unfold close
  split
  · rfl
  · split
    · rfl
    · rfl
    · dsimp only
      split <;> rfl

theorem beginClose_advances (p : Pipeline) (l : Link) (id deadline : Nat) :
    Advances id 1 l (p.beginClose l id deadline) := by
  have hnow := now_close p l id deadline
  have hwaits := (close_aside p l id deadline).2
  have hdrain : ∀ (q : Pipeline) (l' : Link) (report : Loss), l'.now = l.now →
      Advances id 1 l (q.drain l' id deadline report) := by
    intro q l' report hl
    have hdrained := drain_advances q l' id deadline report
    exact ⟨hdrained.now.trans hl, (hdrained.earlier (by omega)).stage⟩
  unfold beginClose
  split
  · rename_i hclose
    rw [hclose] at hnow
    exact hdrain _ _ _ hnow
  · rename_i hclose
    rw [hclose] at hnow
    exact hdrain _ _ _ hnow
  · rename_i hclose
    rw [hclose] at hnow hwaits
    obtain ⟨batch, limit, hfind, _⟩ := hwaits rfl
    dsimp only at hfind
    rw [hfind]
    exact ⟨hnow, fun _ => ⟨_, find?_set _ id _, Nat.le_refl _⟩⟩

theorem shutDown_advances (p : Pipeline) (l : Link) (id : Nat) :
    Advances id 0 l (p.shutDown l id) := by
  unfold shutDown
  dsimp only
  split
  · exact (beginClose_advances _ l id _).earlier (by omega)
  · split
    · exact ⟨rfl, fun _ => ⟨_, find?_set _ id _, Nat.le_refl _⟩⟩
    · exact (beginClose_advances _ l id _).earlier (by omega)

-- What a shutdown that stays at a stage waits for.
def HeldUp (p : Pipeline) (l : Link) (id : Nat) : ShutdownStage → Prop
  | .awaitingTimer _ timer => p.isActive timer = true
  | .closing _ _ limit => l.now < limit.due
  | .joining _ _ limit => l.now < limit.due
  | .dismissing workers _ => p.anyActive workers = true
  | .collecting _ => p.receiver ≠ some id

-- A turn takes the shutdown to a later stage, or leaves it where it is held up.
theorem endOn_advances (p : Pipeline) (l : Link) (id : Nat) (stage : ShutdownStage) :
    Advances id (stage.rank + 1) l (p.endOn l id stage) ∨
      (p.endOn l id stage = (none, p, l) ∧ p.HeldUp l id stage) := by
  unfold endOn
  cases stage with
  | awaitingTimer deadline timer =>
    dsimp only
    split
    · rename_i hactive
      exact .inr ⟨rfl, hactive⟩
    · exact .inl (beginClose_advances p l id deadline)
  | closing deadline batch limit =>
    dsimp only
    split
    · exact .inl (drain_advances _ l id deadline .none)
    · exact .inl (drain_advances _ l id deadline .none)
    · rename_i q hredeem
      split
      · exact .inl (drain_advances _ l id deadline _)
      · rename_i hearly
        rw [redeem_mustWait hredeem]
        exact .inr ⟨rfl, Nat.not_le.mp hearly⟩
  | joining workers report limit =>
    dsimp only
    split
    · exact .inl ((beginCollect_advances p l id report).earlier (by simp [ShutdownStage.rank]))
    · split
      · exact .inl (beginDismiss_advances p l id workers report)
      · rename_i hearly
        exact .inr ⟨rfl, Nat.not_le.mp hearly⟩
  | dismissing workers report =>
    dsimp only
    split
    · exact .inl (beginCollect_advances p l id report)
    · rename_i hactive
      have hheld : p.anyActive workers = true := by simpa using hactive
      exact .inr ⟨rfl, hheld⟩
  | collecting report =>
    dsimp only
    split
    · exact .inl ⟨rfl, fun h => (by cases h)⟩
    · rename_i hother
      exact .inr ⟨rfl, hother⟩

theorem now_turn (p : Pipeline) (l : Link) (id : Nat) : (p.turn l id).2.2.now = l.now := by
  unfold turn
  split
  · rfl
  · split <;> rfl
  · split <;> rfl
  · split <;> rfl
  · exact now_tick id _ _ _ _ p l
  · split
    · rfl
    · exact now_tick id _ _ _ _ p l
  · split
    · rfl
    · exact now_tick id _ _ _ _ _ l
  · split
    · rfl
    · rfl
    · split <;> rfl
  · rename_i stage _
    rcases endOn_advances p l id stage with hadvances | ⟨hstays, _⟩
    · exact hadvances.now
    · rw [hstays]
  · exact now_workOn p l id _

-- A worker that was told to give up and stays as it is stands in line.
theorem dismissed_stays {stage : WorkerStage} (hdismissed : p.dismissed = true)
    (hfind : p.find? id = some (.working stage)) (h : p.turn l id = (none, p, l)) :
    stage = .queued ∧ p.receiver ≠ some id := by
  have hreceive : ∀ (fuel : Nat) (q : Pipeline), q.dismissed = true →
      receive id fuel q l ≠ (none, p, l) := by
    intro fuel q hq heq
    rw [receive, if_pos hq] at heq
    cases heq
  unfold turn at h
  rw [hfind] at h
  cases stage with
  | new =>
    dsimp only [workOn, workFuel] at h
    rw [work] at h
    split at h
    · simp only [Prod.mk.injEq] at h
      have hqueued := congrArg (fun q => q.find? id) h.2.1
      rw [find?_set, hfind] at hqueued
      cases hqueued
    · rename_i q htake
      exact absurd h (hreceive _ q ((heeds_takeReceiver htake).dismissed.trans hdismissed))
  | queued =>
    refine ⟨rfl, fun hreceiver => ?_⟩
    dsimp only [workOn] at h
    rw [if_pos hreceiver] at h
    exact hreceive _ p hdismissed h
  | receiving => exact absurd h (hreceive _ p hdismissed)
  | delivering batch owed s =>
    dsimp only [workOn] at h
    rw [if_pos hdismissed] at h
    cases h

-- The age timer leaves a trace whenever it goes on.

theorem record_expire {closed : Option (Trigger × Batch)} (h : p.expire now = (closed, q)) :
    q.record = p.record := by
  unfold expire at h
  split at h
  · cases h
    rfl
  · split at h <;> cases h <;> rfl

theorem flushed_addFlush (s : Stats) (trigger : Option Trigger) :
    (s.addFlush trigger).flushed = s.flushed + 1 := by
  unfold Stats.addFlush
  dsimp only
  split <;> rfl

theorem flushed_settleOffer (p : Pipeline) (batch : Batch) (offer : Offer) :
    (p.settleOffer batch offer).record.stats.flushed = p.record.stats.flushed := by
  cases offer <;> rfl

theorem flushed_flush {batch : Batch} {trigger : Option Trigger} {offer : Offer}
    (h : p.flush id batch trigger = (offer, q)) :
    q.record.stats.flushed = p.record.stats.flushed + 1 := by
  cases h
  exact (flushed_settleOffer _ batch _).trans (flushed_addFlush _ trigger)

theorem flushed_redeem {batch : Batch} {offer : Offer} (h : p.redeem id batch = (offer, q)) :
    q.record.stats.flushed = p.record.stats.flushed := by
  cases h
  exact flushed_settleOffer _ batch _

-- It waits for a tick, for which it set a timer, or with a batch that it has closed.
theorem tick_goes_on {period : Duration} {fuel overtime due : Nat} {l' : Link}
    (h : tick id period fuel overtime due p l = (none, q, l')) :
    l'.stamp = l.stamp + 1 ∨ p.record.stats.flushed < q.record.stats.flushed := by
  induction fuel generalizing overtime due p with
  | zero =>
    cases h
    exact .inl rfl
  | succ fuel ih =>
    unfold tick at h
    split at h
    · cases h
    · split at h
      · cases h
        exact .inl rfl
      · dsimp only at h
        split at h
        · rename_i r hexpire
          rw [← record_expire hexpire]
          exact ih h
        · rename_i trigger batch r hexpire
          rw [← record_expire hexpire]
          split at h
          · rename_i w hflush
            cases h
            right
            rw [(shifts_set id w _).record, flushed_flush hflush]
            exact Nat.lt_succ_self _
          · rename_i offer w hne hflush
            refine (ih h).imp_right fun hmore => ?_
            rw [flushed_flush hflush] at hmore
            exact Nat.lt_of_succ_lt hmore

-- A timer that was told to stop and stays as it is has a batch that must wait.
theorem stopped_stays {a : Activity} (hstopped : p.timerStopped = true)
    (hfind : p.find? id = some a) (hr : a.role = .timer) (h : p.turn l id = (none, p, l)) :
    ∃ period due batch, a = .tickFlushing period due batch ∧
      p.redeem id batch = (.mustWait, p) := by
  have hrun : ∀ (period : Duration) (due : Nat) (q : Pipeline),
      q.record.stats.flushed = p.record.stats.flushed →
      q.runTimer l id period due ≠ (none, p, l) := by
    intro period due q hq heq
    rcases tick_goes_on heq with hset | hflushed
    · exact absurd hset (Nat.ne_of_lt (Nat.lt_succ_self _))
    · exact absurd hq (Nat.ne_of_lt hflushed)
  unfold turn at h
  rw [hfind] at h
  cases a with
  | starting period => exact absurd h (hrun _ _ p rfl)
  | ticking period due next =>
    have hgoes : (!p.timerStopped && decide (l.now < next.due)) = false := by simp [hstopped]
    dsimp only at h
    rw [if_neg (by simp [hgoes])] at h
    exact absurd h (hrun _ _ p rfl)
  | tickFlushing period due batch =>
    refine ⟨period, due, batch, rfl, ?_⟩
    dsimp only at h
    split at h
    · rename_i q hredeem
      rw [hredeem, redeem_mustWait hredeem]
    · rename_i q _ hredeem
      have hset := (shifts_set id q (.starting period)).trans (shifts_senderGone id _)
      refine absurd h (hrun _ _ _ ?_)
      rw [hset.record]
      exact flushed_redeem hredeem
  | _ => cases hr

-- Activities that surely have nothing to do.
def waits (p : Pipeline) (l : Link) (id : Nat) : Activity → Bool
  | .ticking _ _ next => !p.timerStopped && decide (l.now < next.due)
  | .tickFlushing _ _ _ => !p.intake.closed && !p.intake.granted.contains id
  | .ending (.awaitingTimer _ timer) => p.isActive timer
  | .working (.delivering _ _ (.onCall _ request _)) =>
    !p.dismissed && decide (l.now < request.arrival.due) &&
      !request.deadline.any (·.due ≤ l.now)
  | _ => false

theorem turn_of_waits {a : Activity} (hd : p.Distinct) (hfind : p.find? id = some a)
    (h : p.waits l id a = true) : p.turn l id = (none, p, l) := by
  unfold turn
  rw [hfind]
  unfold waits at h
  split at h
  · dsimp only
    rw [if_pos h]
  · rename_i period due batch
    have hoffer : (p.intake.redeem id batch).1 = .mustWait := by
      simp only [Bool.and_eq_true, Bool.not_eq_true'] at h
      unfold Intake.redeem
      rw [h.1, h.2]
      rfl
    have hredeem : p.redeem id batch = (.mustWait, p) := by
      have hwaits : p.redeem id batch = (.mustWait, (p.redeem id batch).2) :=
        Prod.ext hoffer rfl
      rw [hwaits, redeem_mustWait hwaits]
    dsimp only
    rw [hredeem]
  · dsimp only [endOn]
    rw [if_pos h]
  · rename_i batch owed call request next
    simp only [Bool.and_eq_true, Bool.not_eq_true', decide_eq_true_eq] at h
    obtain ⟨⟨hstays, harrival⟩, hdeadline⟩ := h
    have hresume : l.resume call request = (.waiting request, l) := by
      unfold Link.resume
      rw [if_neg (Nat.not_le.mpr harrival)]
      unfold Link.within
      dsimp only
      rw [hdeadline]
      rfl
    dsimp only [workOn, Store.Suspended.resume]
    rw [if_neg (by simp [hstays]), hresume]
    exact congrArg (fun q => (none, q, l)) (set_same hd hfind)
  · cases h

end

end Pipeline

end MetricRelay.Write
