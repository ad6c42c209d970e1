import MetricRelay.Proofs.Write.Pace
import Mathlib.Data.List.Induction

-- Shutting down a pipeline that is shut down already. There is nothing left to stop, to close or to
-- wait for, but the count of what was lost is still there, and it is recorded and reported again.

namespace MetricRelay.Write

open Store (Link)

-- What a shutdown returns that has lost so much.
def Loss.verdict (lost : Loss) : Result :=
  if lost.batches = 0 then .ok .shutDown
  else .error (.shutdownLoss lost.batches lost.samples)

-- A record to which a loss, if there is any, has been added and reported.
def Record.reckon (r : Record) (lost : Loss) : Record :=
  if lost.batches = 0 then r
  else (r.update fun s => s.addLoss lost.batches lost.samples).publish
    (.shutdownLoss lost.batches lost.samples)

namespace Pipeline

-- Neither the timer nor a worker is left, and nothing can get in any more.
structure Idle (p : Pipeline) : Prop where
  shut : p.Shut
  emptied : p.Emptied
  timer : p.timer = none
  workers : p.workers = []
  receiver : p.receiver = none
  line : p.line = []

-- What one more shutdown makes of such a pipeline.
structure Repeats (id : Nat) (p : Pipeline) (result : Option Result) (q : Pipeline) : Prop where
  result : result = some p.lost.verdict
  record : q.record = p.record.reckon p.lost
  lost : q.lost = p.lost
  others : q.others id = p.others id
  own : q.own id = []
  distinct : p.Distinct → q.Distinct
  idle : q.Idle

section

variable {id : Nat} {p q r : Pipeline} {result : Option Result}

theorem Idle.aside (h : p.Idle) (haside : Aside p q) (hframe : Frame p q) : q.Idle where
  shut := h.shut.frame hframe
  emptied := h.emptied.frame hframe
  timer := haside.timer.trans h.timer
  workers := hframe.workers.trans h.workers
  receiver := haside.receiver.trans h.receiver
  line := haside.line.trans h.line

theorem conclude_repeats (h : p.Idle) :
    Repeats id p (some (p.conclude id .none).1) (p.conclude id .none).2 := by
  have hsum : Loss.none.add p.lost = p.lost := by simp [Loss.none, Loss.add]
  have hfinish := carries_finish id p 0
  have hidle := h.aside (aside_finish p id) hfinish.toFrame
  unfold conclude
  rw [hsum]
  dsimp only
  split
  · rename_i hnone
    refine ⟨?_, ?_, hfinish.lost, hfinish.others, own_finish p id, hfinish.distinct, hidle⟩
    · rw [Loss.verdict, if_pos hnone]
    · rw [Record.reckon, if_pos hnone]
      rfl
  · rename_i hsome
    refine ⟨?_, ?_, hfinish.lost, hfinish.others, own_finish p id, hfinish.distinct, ?_⟩
    · rw [Loss.verdict, if_neg hsome]
    · rw [Record.reckon, if_neg hsome]
      rfl
    · exact ⟨⟨hidle.shut.closed, hidle.shut.empty⟩, ⟨hidle.emptied.closed, hidle.emptied.empty⟩,
        hidle.timer, hidle.workers, hidle.receiver, hidle.line⟩

-- The queue is empty, so there is nothing to collect.
theorem collect_repeats (h : ({ p with receiver := none } : Pipeline).Idle) :
    Repeats id p (some (p.collect id .none).1) (p.collect id .none).2 := by
  have hempty : p.intake.batches = [] := h.emptied.empty
  have hline : p.line = [] := h.line
  unfold collect
  dsimp only [Intake.close, Intake.clear]
  rw [hempty]
  dsimp only [List.foldl_nil]
  generalize hcleared : Pipeline.wake _ _ = q
  have hreleased : q.releaseReceiver = { q with receiver := none } := by
    subst hcleared
    exact releaseReceiver_of_alone hline
  have hidle : ({ q with receiver := none } : Pipeline).Idle := by
    subst hcleared
    exact ⟨⟨h.shut.closed, h.shut.empty⟩, ⟨rfl, rfl⟩, h.timer, h.workers, rfl, hline⟩
  have hrepeats : Repeats id { q with receiver := none }
      (some (Pipeline.conclude { q with receiver := none } id .none).1)
      (Pipeline.conclude { q with receiver := none } id .none).2 := conclude_repeats hidle
  rw [hreleased]
  subst hcleared
  exact ⟨hrepeats.result, hrepeats.record, hrepeats.lost, hrepeats.others, hrepeats.own,
    hrepeats.distinct, hrepeats.idle⟩

theorem beginCollect_repeats (l : Link) (h : p.Idle) :
    Repeats id p (p.beginCollect l id .none).1 (p.beginCollect l id .none).2.1 := by
  have htake : p.takeReceiver id = (true, { p with receiver := some id }) := by
    simp [takeReceiver, h.receiver]
  have hidle : ({ p with receiver := none } : Pipeline).Idle :=
    ⟨⟨h.shut.closed, h.shut.empty⟩, ⟨h.emptied.closed, h.emptied.empty⟩, h.timer, h.workers, rfl,
      h.line⟩
  have hrepeats : Repeats id { p with receiver := some id }
      (some (Pipeline.collect { p with receiver := some id } id .none).1)
      (Pipeline.collect { p with receiver := some id } id .none).2 := collect_repeats hidle
  unfold beginCollect
  rw [htake]
  exact ⟨hrepeats.result, hrepeats.record, hrepeats.lost, hrepeats.others, hrepeats.own,
    hrepeats.distinct, hrepeats.idle⟩

theorem drain_repeats (l : Link) (deadline : Nat) (h : p.Idle) :
    Repeats id p (p.drain l id deadline .none).1 (p.drain l id deadline .none).2.1 := by
  have hsame : ({ p with workers := [] } : Pipeline) = p := by
    rw [← h.workers]
  unfold drain
  dsimp only
  rw [hsame, h.workers]
  exact beginCollect_repeats l h

-- The intake is closed, and the open batch is empty.
theorem endIntake_idle (now : Nat) (h : p.Idle) :
    ∃ q, p.endIntake now = (none, q) ∧ q.Idle ∧ q.record = p.record ∧ q.lost = p.lost ∧
      q.activities = p.activities := by
  have hempty : p.batch.isEmpty = true := by
    have hsize : p.batch.samples.length = 0 := h.shut.empty
    simpa [Batch.isEmpty] using hsize
  have hend : p.endIntake now =
      (none, ({ p with hasSender := false, closed := true } : Pipeline).senderGone) := by
    simp [endIntake, hempty]
  have hidle : ({ p with hasSender := false, closed := true } : Pipeline).Idle :=
    ⟨⟨rfl, h.shut.empty⟩, ⟨h.emptied.closed, h.emptied.empty⟩, h.timer, h.workers, h.receiver,
      h.line⟩
  refine ⟨_, hend, hidle.aside (aside_senderGone _) (carries_senderGone 0 _ 0).toFrame, ?_, ?_, ?_⟩
  · unfold senderGone
    split <;> rfl
  · unfold senderGone
    split <;> rfl
  · exact activities_senderGone _

theorem shutDown_repeats (l : Link) (id : Nat) (h : p.Idle) :
    Repeats id p (p.shutDown l id).1 (p.shutDown l id).2.1 := by
  have hstopped : p.stopTimer.Idle :=
    ⟨⟨h.shut.closed, h.shut.empty⟩, ⟨h.emptied.closed, h.emptied.empty⟩, h.timer, h.workers,
      h.receiver, h.line⟩
  obtain ⟨q, hend, hidle, hrecord, hlost, hactivities⟩ := endIntake_idle l.now hstopped
  have hrepeats : Repeats id q _ _ :=
    drain_repeats l (l.now + p.config.drainTimeout.wholeMillis) hidle
  unfold shutDown
  dsimp only
  rw [hstopped.timer]
  dsimp only
  unfold beginClose close
  rw [hend]
  dsimp only
  have hothers : q.others id = p.others id := by
    unfold others
    rw [hactivities]
    rfl
  refine ⟨?_, ?_, hrepeats.lost.trans hlost, hrepeats.others.trans hothers, hrepeats.own,
    fun hd => hrepeats.distinct ?_, hrepeats.idle⟩
  · rw [hrepeats.result, hlost]
    rfl
  · rw [hrepeats.record, hlost, hrecord]
    rfl
  · unfold Distinct
    rw [hactivities]
    exact hd

end

end Pipeline

namespace Course

open Pipeline

-- What may go on once a shutdown has returned.
inductive Sequel
  | event (e : Event)
  -- the shutdown is called again
  | again

def Sequel.isAgain : Sequel → Bool
  | .event _ => false
  | .again => true

def follow (c : Course) : Sequel → Course
  | .event e => c.step e
  | .again =>
    let (_, p, l) := c.pipeline.shutDown c.link c.next
    { c with pipeline := p, link := l, next := c.next + 1 }

-- After so many repetitions the pool's losses have been recorded that much more often.
structure Ended (loss : Loss) (repeats : Nat) (c : Course) : Prop where
  returned : ∃ r, c.ending = .returned r
  idle : c.pipeline.Idle
  clients : ∀ e ∈ c.pipeline.activities, e.2.role = .client
  lost : c.pipeline.lost = loss
  plain : loss.Plain
  distinct : c.pipeline.Distinct
  fresh : ∀ e ∈ c.pipeline.activities, e.1 < c.next
  balance : c.pipeline.record.stats.accepted + repeats * loss.samples =
    c.pipeline.placed + held c.pipeline.activities

section

variable {config : Config} {deadline post id repeats : Nat} {loss : Loss} {c : Course}
  {q : Pipeline}

theorem ended_of_returned (hc : c.Sound) (hp : c.Paced config deadline post) {r : Result}
    (hr : c.ending = .returned r) : Ended c.pipeline.lost 0 c := by
  have hover := hc.during
  have hkeeping := hp.keeping
  have hbalance := hc.balance
  rw [hr] at hover hkeeping hbalance
  have hclients : ∀ e ∈ c.pipeline.activities, e.2.role = .client := by
    intro e he
    have hallows := hover.staffed e he
    cases hrole : e.2.role with
    | client => rfl
    | _ =>
      rw [hrole] at hallows
      cases hallows
  have hnobody : c.pipeline.receiver = none := by
    cases hreceiver : c.pipeline.receiver with
    | none => rfl
    | some other =>
      have hm : other ∈ c.pipeline.seats := by simp [seats, hreceiver]
      obtain ⟨a, ha, hseated⟩ := (hp.seated.each other).iff.mp hm
      rw [isSeated_of_role (.inl (hclients _ ha))] at hseated
      cases hseated
  refine ⟨⟨r, hr⟩, ⟨hover.shut, hover.emptied, hkeeping.1, hkeeping.2, hnobody,
    hp.seated.vacant hnobody⟩, hclients, rfl, hc.plain, hc.distinct, hc.fresh, ?_⟩
  simp only [unreported] at hbalance
  omega

-- Clients may still call, and those who wait may have their turns.
theorem Ended.turns (h : Ended loss repeats c) (l : Link) (next : Nat)
    (hturns : Turns id .client c.pipeline (held (c.pipeline.own id)) q)
    (haside : Aside c.pipeline q) (hid : id < next) (hnext : c.next ≤ next) :
    Ended loss repeats ⟨q, l, next, c.ending⟩ := by
  have hlost : q.lost = c.pipeline.lost := hturns.lost (by simp)
  have hactive : ∀ e ∈ q.activities, e.1 = id ∧ e.2.role = .client ∨ e ∈ c.pipeline.activities := by
    intro e he
    by_cases heq : e.1 = id
    · exact .inl ⟨heq, (hturns.own e (mem_own_iff.mpr ⟨he, heq⟩)).1⟩
    · have hother := mem_others_iff.mpr ⟨he, heq⟩
      rw [hturns.moves.others] at hother
      exact .inr (mem_others_iff.mp hother).1
  refine ⟨h.returned, h.idle.aside haside hturns.toFrame, fun e he => ?_, hlost.trans h.lost,
    h.plain, hturns.moves.distinct h.distinct, fun e he => ?_, ?_⟩
  · rcases hactive e he with ⟨_, hrole⟩ | hold
    · exact hrole
    · exact h.clients e hold
  · rcases hactive e he with ⟨heq, _⟩ | hold
    · exact heq ▸ hid
    · exact Nat.lt_of_lt_of_le (h.fresh e hold) hnext
  · have hmoved := hturns.moves.balance
    have hbefore := h.balance
    have hsplit := held_own_add_held_others c.pipeline id
    have hsplit' := held_own_add_held_others q id
    rw [hturns.moves.others] at hsplit'
    rw [hlost] at hmoved
    dsimp only
    omega

theorem Ended.own_next (h : Ended loss repeats c) : c.pipeline.own c.next = [] := by
  refine List.filter_eq_nil_iff.mpr fun e he hid => ?_
  have hlt := h.fresh e he
  have heq := beq_iff_eq.mp hid
  omega

theorem Ended.call (h : Ended loss repeats c) (hturns : Turns c.next .client c.pipeline 0 q)
    (haside : Aside c.pipeline q) : Ended loss repeats ⟨q, c.link, c.next + 1, c.ending⟩ := by
  refine h.turns c.link (c.next + 1) ?_ haside (Nat.lt_succ_self _) (Nat.le_succ _)
  rw [h.own_next]
  exact hturns

theorem Ended.step (h : Ended loss repeats c) (e : Event) : Ended loss repeats (c.step e) := by
  have hd := h.distinct
  have hnew := h.own_next
  cases e with
  | add s => exact h.call (add_turns _ s hd hnew) (aside_add _ _ _ s)
  | write samples => exact h.call (write_turns _ _ samples hd hnew) (aside_write _ _ _ samples _)
  | tryAdd s => exact h.call (tryAdd_turns _ s hnew) (aside_tryAdd _ _ _ s)
  | flushExpired => exact h.call (flushExpired_turns _ hd hnew) (aside_flushExpired _ _ _)
  | shutDown =>
    obtain ⟨r, hr⟩ := h.returned
    have hsame : c.step .shutDown = c := by
      unfold Course.step
      rw [hr]
    rw [hsame]
    exact h
  | world l => exact ⟨h.returned, h.idle, h.clients, h.lost, h.plain, hd, h.fresh, h.balance⟩
  | turn id =>
    obtain ⟨r, hr⟩ := h.returned
    have hafter : ∀ result, c.ending.after id result = c.ending := by
      intro result
      rw [hr]
      rfl
    change Ended loss repeats ⟨(c.pipeline.turn c.link id).2.1, (c.pipeline.turn c.link id).2.2,
      c.next, c.ending.after id (c.pipeline.turn c.link id).1⟩
    rw [hafter]
    cases hfind : c.pipeline.find? id with
    | none =>
      rw [turn_of_none c.link hfind]
      exact h
    | some a =>
      have ha := mem_of_find? hfind
      have hrole : a.role = .client := h.clients _ ha
      have hsound : a.Sound c.pipeline.target := by
        cases a with
        | working stage => cases hrole
        | _ => trivial
      have hturns := turn_turns c.link hd hfind hsound (by simp [hrole])
      have hheld : held (c.pipeline.own id) = a.samples := by
        rw [own_eq_of_find? hd hfind]
        simp [held]
      rw [hrole, ← hheld] at hturns
      exact h.turns _ c.next hturns (aside_turn c.link hfind (.inl hrole)) (h.fresh _ ha)
        (Nat.le_refl _)

theorem Ended.again (h : Ended loss repeats c) : Ended loss (repeats + 1) (c.follow .again) := by
  have hrepeats := shutDown_repeats c.link c.next h.idle
  change Ended loss (repeats + 1) ⟨(c.pipeline.shutDown c.link c.next).2.1,
    (c.pipeline.shutDown c.link c.next).2.2, c.next + 1, c.ending⟩
  generalize c.pipeline.shutDown c.link c.next = turn at hrepeats ⊢
  obtain ⟨result, q, l⟩ := turn
  dsimp only at hrepeats ⊢
  have hnone : ∀ e ∈ q.activities, e.1 ≠ c.next := by
    intro e he heq
    have hm := mem_own_iff.mpr ⟨he, heq⟩
    rw [hrepeats.own] at hm
    cases hm
  have hold : ∀ e ∈ q.activities, e ∈ c.pipeline.activities := by
    intro e he
    have hother := mem_others_iff.mpr ⟨he, hnone e he⟩
    rw [hrepeats.others] at hother
    exact (mem_others_iff.mp hother).1
  refine ⟨h.returned, hrepeats.idle, fun e he => h.clients e (hold e he),
    hrepeats.lost.trans h.lost, h.plain, hrepeats.distinct h.distinct,
    fun e he => Nat.lt_succ_of_lt (h.fresh e (hold e he)), ?_⟩
  have hheld : held q.activities = held c.pipeline.activities := by
    rw [← held_own_add_held_others q c.next, ← held_own_add_held_others c.pipeline c.next,
      hrepeats.own, hrepeats.others, h.own_next]
  have hplaced : ∀ p : Pipeline, p.Idle → p.placed = p.record.stats.settled := by
    intro p hp
    have hpending := hp.shut.empty
    simp [placed, hpending, queued, hp.emptied.empty]
  have hreckon : q.record.stats.accepted = c.pipeline.record.stats.accepted ∧
      q.record.stats.settled = c.pipeline.record.stats.settled + loss.samples := by
    rw [hrepeats.record, h.lost]
    unfold Record.reckon
    split
    · rename_i hzero
      exact ⟨rfl, by rw [h.plain hzero, Nat.add_zero]⟩
    · exact ⟨rfl, by simp only [Record.publish, Record.update, Stats.addLoss, Stats.settled]; omega⟩
  have hbefore := h.balance
  rw [hplaced _ h.idle] at hbefore
  rw [hplaced _ hrepeats.idle, hheld, hreckon.1, hreckon.2, Nat.succ_mul]
  omega

theorem Ended.follows (h : Ended loss 0 c) (sequels : List Sequel) :
    Ended loss (sequels.countP Sequel.isAgain) (sequels.foldl follow c) := by
  induction sequels using List.reverseRecOn with
  | nil => exact h
  | append_singleton before s ih =>
    rw [List.foldl_append, List.countP_append]
    cases s with
    | event e => exact ih.step e
    | again => exact ih.again

-- Those who wait have nothing but the batches that they wait with.
theorem held_clients {activities : List (Nat × Activity)}
    (h : ∀ e ∈ activities, e.2.role = .client) :
    held activities = (activities.map fun e => e.2.waiting).sum := by
  have hsame : ∀ e ∈ activities, e.2.samples = e.2.waiting := by
    intro e he
    have hrole := h e he
    cases ha : e.2 with
    | adding batch trigger => rfl
    | writing batch rest total => rfl
    | flushing batch trigger => rfl
    | _ =>
      rw [ha] at hrole
      cases hrole
  unfold held
  rw [List.map_congr_left hsame]

end

-- A shutdown that is called again returns at once. It records and reports once more what the
-- pool's workers gave up and what had been left in the queue, which changes nothing only if that
-- is nothing.
theorem shutDown_again (config : Config) (hv : config.validate = .ok ()) (target : String)
    (l : Link) (first : Nat) :
    ∃ c, begin config target l first = .ok c ∧ ∀ events r,
      (c.after events).ending = .returned r → ∀ sequels : List Sequel,
        let lost := (c.after events).pipeline.lost
        let d := sequels.foldl follow (c.after events)
        let stats := d.pipeline.record.stats
        (d.pipeline.shutDown d.link d.next).1 = some lost.verdict ∧
        (d.follow .again).pipeline.record = d.pipeline.record.reckon lost ∧
        ((d.follow .again).pipeline.record = d.pipeline.record ↔ lost.batches = 0) ∧
        stats.accepted + sequels.countP Sequel.isAgain * lost.samples =
          d.pipeline.waiting + stats.written + stats.dropped + stats.failed + stats.lost := by
  obtain ⟨c, hbegin, hc, _, _, hpaced⟩ := begin_paced hv target l first
  refine ⟨c, hbegin, fun events r hr sequels => ?_⟩
  obtain ⟨hsound, deadline, hkept⟩ := after_paced hc ⟨0, hpaced 0⟩ events
  have hended := (ended_of_returned hsound hkept hr).follows sequels
  generalize (c.after events).pipeline.lost = lost at hended
  generalize sequels.foldl follow (c.after events) = d at hended
  have hrepeats := shutDown_repeats d.link d.next hended.idle
  have hrecord : (d.follow .again).pipeline.record = d.pipeline.record.reckon lost := by
    rw [← hended.lost]
    exact hrepeats.record
  refine ⟨?_, hrecord, ?_, ?_⟩
  · rw [← hended.lost]
    exact hrepeats.result
  · rw [hrecord]
    unfold Record.reckon
    constructor
    · intro hsame
      by_contra hsome
      rw [if_neg hsome] at hsame
      have hlength := congrArg (fun record => record.published.length) hsame
      simp [Record.publish, Record.update] at hlength
    · intro hzero
      rw [if_pos hzero]
  · have hbalance := hended.balance
    have hpending := hended.idle.shut.empty
    rw [held_clients hended.clients] at hbalance
    simp only [placed, hpending, queued, hended.idle.emptied.empty, List.map_nil, List.sum_nil,
      Stats.settled] at hbalance
    unfold waiting
    omega

-- Batches of one sample, and no time for the workers at the end.
private def hasty : Config :=
  { (default : Config) with batch := ⟨none, some 1, none⟩, drainTimeout := .zero }

private def still : Link := ⟨.empty, .manual 0, 0, ∅, [], 0, 0⟩

private def lone : Sample := ⟨"hits", ∅, 0, .zero false, by decide⟩

-- A worker that has had no turn yet is told to give up, so that the only batch stays in the queue.
private def toTheEnd : List Event :=
  [.add lone, .shutDown, .turn 1, .turn 3] ++ [.turn 0, .turn 3]

-- The only sample that was accepted is lost once, and then counted as lost a second time.
theorem loss_counted_again :
    ∃ c, begin hasty "metrics" still 0 = .ok c ∧
      let d := c.after toTheEnd
      d.ending = .returned (.error (.shutdownLoss 1 1)) ∧
      d.pipeline.record.stats.accepted = 1 ∧ d.pipeline.record.stats.lost = 1 ∧
      d.pipeline.record.published.length = 1 ∧
      (d.follow .again).pipeline.record.stats.accepted = 1 ∧
      (d.follow .again).pipeline.record.stats.lost = 2 ∧
      (d.follow .again).pipeline.record.published.length = 2 := by
  refine ⟨_, rfl, ?_⟩
  generalize hc : Course.mk _ _ _ _ = c
  generalize hd : c.after [.add lone, .shutDown, .turn 1, .turn 3] = d
  obtain ⟨hnew, hdismissed, hnobody, hline⟩ : d.pipeline.isNew 0 = true ∧
      d.pipeline.dismissed = true ∧ d.pipeline.receiver = none ∧ d.pipeline.line = [] := by
    subst hd hc
    decide +kernel
  -- the worker's recursion is opened by hand, everything else is evaluated
  have hturn : d.step (.turn 0) = { d with
      pipeline := d.pipeline.finish 0
      ending := d.ending.after 0 (some (.ok .workerStopped)) } := by
    unfold Course.step
    dsimp only
    rw [turn_dismissed d.link hnew hdismissed hnobody hline]
  have hafter : c.after toTheEnd = (d.step (.turn 0)).step (.turn 3) := by
    unfold toTheEnd
    rw [after_append, hd]
    rfl
  rw [hafter, hturn]
  subst hd hc
  decide +kernel

theorem shutDown_again_of_hasty :
    hasty.validate = .ok () ∧ ∃ c, begin hasty "metrics" still 0 = .ok c ∧ ∀ events r,
      (c.after events).ending = .returned r → ∀ sequels : List Sequel,
        let lost := (c.after events).pipeline.lost
        let d := sequels.foldl follow (c.after events)
        let stats := d.pipeline.record.stats
        (d.pipeline.shutDown d.link d.next).1 = some lost.verdict ∧
        (d.follow .again).pipeline.record = d.pipeline.record.reckon lost ∧
        ((d.follow .again).pipeline.record = d.pipeline.record ↔ lost.batches = 0) ∧
        stats.accepted + sequels.countP Sequel.isAgain * lost.samples =
          d.pipeline.waiting + stats.written + stats.dropped + stats.failed + stats.lost :=
  have hv : hasty.validate = .ok () := by rfl
  ⟨hv, shutDown_again hasty hv "metrics" still 0⟩

end Course

end MetricRelay.Write
