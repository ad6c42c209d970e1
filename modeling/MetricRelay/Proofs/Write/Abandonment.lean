import MetricRelay.Proofs.Write.Conservation

-- A client that gives up its call while it waits for room in the queue. The batch goes with it, and
-- with the batch samples that were accepted, its own and those of other clients.

namespace MetricRelay.Write

open Store (Link)

-- Whoever has this to hand over does not wait for nothing.
def Activity.Laden (a : Activity) : Prop := ∃ batch, a.held? = some batch ∧ 0 < batch.size

namespace Pipeline

section

variable {id now : Nat} {p q : Pipeline} {a : Activity} {batch : Batch} {trigger : Trigger}

-- Nothing is written down when a call is given up. What the caller held is just not there any more.
theorem record_abandon (p : Pipeline) (id : Nat) : (p.abandon id).record = p.record := by
  unfold abandon senderGone
  split <;> rfl

theorem abandon_carries (n : Nat) (p : Pipeline) (id : Nat) : Carries id p n (p.abandon id) n :=
  ((withdraw_carries n).trans (carries_finish id _ n)).trans (carries_senderGone id _ n)

theorem own_abandon (p : Pipeline) (id : Nat) : (p.abandon id).own id = [] :=
  (own_senderGone _ id).trans (own_finish _ id)

theorem held_abandon (hd : p.Distinct) (hfind : p.find? id = some a)
    (hheld : a.held? = some batch) :
    held (p.abandon id).activities + batch.size = held p.activities := by
  have hothers := (abandon_carries 0 p id).others
  have hown : held (p.own id) = batch.size := by
    rw [own_eq_of_find? hd hfind]
    simpa [held] using Activity.samples_of_held hheld
  rw [← held_own_add_held_others (p.abandon id) id, ← held_own_add_held_others p id, hothers,
    own_abandon, hown]
  simp only [held, List.map_nil, List.sum_nil]
  omega

-- A close that finds no room in time gives its batch up as well. It says how much that was, but
-- it leaves the counting to its caller.
theorem late_closing_uncounted {limit : Timer} {l : Link} (hd : p.Distinct)
    (hfind : p.find? id = some (.closing batch limit))
    (hwaits : p.redeem id batch = (.mustWait, q)) (hlate : limit.due ≤ l.now) :
    p.turn l id = (some (.error (.shutdownLoss 1 batch.size)), p.abandon id, l) ∧
      (p.abandon id).record = p.record ∧
      held (p.abandon id).activities + batch.size = held p.activities := by
  refine ⟨?_, record_abandon p id, held_abandon hd hfind rfl⟩
  unfold turn
  rw [hfind]
  dsimp only
  rw [hwaits]
  dsimp only
  rw [if_pos hlate, redeem_mustWait hwaits]
  rfl

-- What a client waits with.

theorem size_pos_of_append {s : Sample} (h : p.append now s = (some (trigger, batch), q)) :
    0 < batch.size := by
  unfold append at h
  dsimp only at h
  split at h
  · cases h
    rw [size_push]
    exact Nat.succ_pos _
  · cases h

theorem size_pos_of_expire (h : p.expire now = (some (trigger, batch), q)) : 0 < batch.size := by
  unfold expire at h
  split at h
  · cases h
  · split at h
    · rename_i hdue
      cases h
      by_contra hempty
      have hcount : (p.batch.measure now).count = 0 := Nat.eq_zero_of_not_pos hempty
      rw [Thresholds.evaluateOnly, if_pos hcount] at hdue
      cases hdue
    · cases h

theorem laden_of_own_nil (h : p.own id = []) : ∀ e ∈ p.own id, e.2.Laden := by
  rw [h]
  exact fun e he => absurd he List.not_mem_nil

theorem laden_set (hd : p.Distinct) (hheld : a.held? = some batch) (hpos : 0 < batch.size) :
    ∀ e ∈ (p.set id a).own id, e.2.Laden := by
  rw [own_set hd]
  intro e he
  rw [List.mem_singleton.mp he]
  exact ⟨batch, hheld, hpos⟩

-- A batch that was just closed is queued or refused, or else its client waits with it.
theorem laden_of_flush {offer : Offer} {reason : Option Trigger} (hown : p.own id = [])
    (hflush : p.flush id batch reason = (offer, q)) : ∀ e ∈ q.own id, e.2.Laden :=
  laden_of_own_nil ((own_congr (activities_flush hflush)).trans hown)

theorem laden_of_wait {offer : Offer} {reason : Option Trigger} (hd : p.Distinct)
    (hflush : p.flush id batch reason = (offer, q)) (hheld : a.held? = some batch)
    (hpos : 0 < batch.size) : ∀ e ∈ (q.set id a).own id, e.2.Laden :=
  laden_set ((flush_carries hflush).distinct hd) hheld hpos

theorem add_laden (now : Nat) (s : Sample) (hd : p.Distinct) (hnew : p.own id = []) :
    ∀ e ∈ (p.add now id s).2.own id, e.2.Laden := by
  unfold add
  split
  · exact laden_of_own_nil hnew
  · rename_i ha
    split
    · rename_i q happend
      exact laden_of_own_nil ((own_congr (activities_append happend)).trans hnew)
    · rename_i trigger batch q happend
      have hown := (own_congr (activities_append happend)).trans hnew
      have hdq := (append_carries id (by simpa using ha) happend).distinct hd
      split
      · rename_i hflush
        exact laden_of_flush hown hflush
      · rename_i hflush
        exact laden_of_flush hown hflush
      · rename_i hflush
        exact laden_of_wait hdq hflush rfl (size_pos_of_append happend)

theorem tryAdd_laden (now : Nat) (s : Sample) (hnew : p.own id = []) :
    ∀ e ∈ (p.tryAdd now id s).2.own id, e.2.Laden := by
  unfold tryAdd
  split
  · exact laden_of_own_nil hnew
  · split
    · exact laden_of_own_nil hnew
    · split
      · exact laden_of_own_nil hnew
      · split
        · exact laden_of_own_nil hnew
        · split
          · rename_i q happend
            exact laden_of_own_nil ((own_congr (activities_append happend)).trans hnew)
          · rename_i trigger batch q happend
            exact laden_of_flush ((own_congr (activities_append happend)).trans hnew) rfl

theorem write_laden (now total : Nat) (samples : List Sample) (hd : p.Distinct)
    (hnew : p.own id = []) : ∀ e ∈ (write now id total samples p).2.own id, e.2.Laden := by
  induction samples generalizing p with
  | nil => exact laden_of_own_nil hnew
  | cons s rest ih =>
    unfold write
    split
    · exact laden_of_own_nil hnew
    · rename_i ha
      split
      · rename_i q happend
        have hdq := (append_carries id (by simpa using ha) happend).distinct hd
        exact ih hdq ((own_congr (activities_append happend)).trans hnew)
      · rename_i trigger batch q happend
        have hown := (own_congr (activities_append happend)).trans hnew
        have hdq := (append_carries id (by simpa using ha) happend).distinct hd
        split
        · rename_i hflush
          exact ih ((flush_carries hflush).distinct hdq)
            ((own_congr (activities_flush hflush)).trans hown)
        · rename_i hflush
          exact laden_of_flush hown hflush
        · rename_i hflush
          exact laden_of_wait hdq hflush rfl (size_pos_of_append happend)

theorem flushExpired_laden (now : Nat) (hd : p.Distinct) (hnew : p.own id = []) :
    ∀ e ∈ (p.flushExpired now id).2.own id, e.2.Laden := by
  unfold flushExpired
  split
  · rename_i q hexpire
    exact laden_of_own_nil ((own_congr (activities_expire hexpire)).trans hnew)
  · rename_i trigger batch q hexpire
    have hown := (own_congr (activities_expire hexpire)).trans hnew
    have hdq := (expire_carries id hexpire).distinct hd
    split
    · rename_i hflush
      exact laden_of_flush hown hflush
    · rename_i hflush
      exact laden_of_flush hown hflush
    · rename_i hflush
      exact laden_of_wait hdq hflush rfl (size_pos_of_expire hexpire)

theorem turn_laden (l : Link) (hd : p.Distinct) (hfind : p.find? id = some a)
    (hr : a.role = .client) (hladen : a.Laden) :
    ∀ e ∈ (p.turn l id).2.1.own id, e.2.Laden := by
  have hgone : ∀ q : Pipeline, ∀ e ∈ (q.finish id).senderGone.own id, e.2.Laden :=
    fun q => laden_of_own_nil ((own_senderGone _ id).trans (own_finish q id))
  have hstays : ∀ e ∈ p.own id, e.2.Laden := by
    rw [own_eq_of_find? hd hfind]
    intro e he
    rw [List.mem_singleton.mp he]
    exact hladen
  unfold turn
  rw [hfind]
  cases a with
  | adding batch trigger | flushing batch trigger =>
    dsimp only
    split
    · exact hgone _
    · exact hgone _
    · rename_i hredeem
      rw [redeem_mustWait hredeem]
      exact hstays
  | writing batch rest total =>
    dsimp only
    split
    · rename_i q hredeem
      have hremoved := (carries_remove id q 0).trans (carries_senderGone id _ 0)
      refine write_laden _ _ _ (hremoved.distinct ((redeem_carries hredeem).distinct hd)) ?_
      exact (own_senderGone _ id).trans (own_remove q id)
    · exact hgone _
    · rename_i hredeem
      rw [redeem_mustWait hredeem]
      exact hstays
  | _ => cases hr

end

end Pipeline

namespace Course

open Pipeline

-- Nobody waits with an empty batch.
def Laden (c : Course) : Prop :=
  ∀ e ∈ c.pipeline.activities, e.2.role = .client → e.2.Laden

section

variable {c : Course} {q : Pipeline} {id : Nat}

theorem laden_of_others (h : c.Laden) (ho : q.others id = c.pipeline.others id)
    (hown : ∀ e ∈ q.own id, e.2.role = .client → e.2.Laden) :
    ∀ e ∈ q.activities, e.2.role = .client → e.2.Laden := by
  intro e he
  by_cases hid : e.1 = id
  · exact hown e (mem_own_iff.mpr ⟨he, hid⟩)
  · have hother := mem_others_iff.mpr ⟨he, hid⟩
    rw [ho] at hother
    exact h e (mem_others_iff.mp hother).1

theorem call_laden (h : c.Laden) (hturns : Turns c.next .client c.pipeline 0 q)
    (hown : ∀ e ∈ q.own c.next, e.2.Laden) :
    ∀ e ∈ q.activities, e.2.role = .client → e.2.Laden :=
  laden_of_others h hturns.moves.others fun e he _ => hown e he

-- A turn of a shutdown leaves nothing of it, or the shutdown at a stage.
theorem ends_laden {result : Option Result} {n : Nat} (h : c.Laden)
    (hends : Ends id c.pipeline n result q) :
    ∀ e ∈ q.activities, e.2.role = .client → e.2.Laden := by
  cases result with
  | none =>
    obtain ⟨hmoves, stage, hat⟩ := hends.goesOn rfl
    refine laden_of_others h hmoves.others fun e he hr => ?_
    rw [hat.here, List.mem_singleton] at he
    rw [he] at hr
    cases hr
  | some r =>
    obtain ⟨hmoves, hgone, _⟩ := hends.returns rfl
    refine laden_of_others h hmoves.others fun e he _ => ?_
    rw [hgone] at he
    cases he

theorem turn_laden (hc : c.Sound) (h : c.Laden) (id : Nat) : (c.step (.turn id)).Laden := by
  change ∀ e ∈ (c.pipeline.turn c.link id).2.1.activities, e.2.role = .client → e.2.Laden
  cases hfind : c.pipeline.find? id with
  | none =>
    rw [turn_of_none c.link hfind]
    exact h
  | some a =>
    have ha := mem_of_find? hfind
    by_cases hr : a.role = .shutdown
    · obtain ⟨_, stage, rfl, hat⟩ := ending_of_role hc ha hr
      have hends := endOn_ends c.link hc.distinct hat hc.plain
      rw [turn_of_ending c.link hfind]
      exact ends_laden h hends
    · have hturns := turn_turns c.link hc.distinct hfind (hc.sound _ ha) hr
      refine laden_of_others h hturns.moves.others fun e he hclient => ?_
      have hrole : a.role = .client := (hturns.own e he).1.symm.trans hclient
      exact Pipeline.turn_laden c.link hc.distinct hfind hrole (h _ ha hrole) e he

theorem step_laden (hc : c.Sound) (h : c.Laden) (e : Event) : (c.step e).Laden := by
  have hd := hc.distinct
  have hnew := own_next hc
  cases e with
  | add s => exact call_laden h (add_turns _ s hd hnew) (add_laden _ s hd hnew)
  | write samples =>
    exact call_laden h (write_turns _ _ samples hd hnew) (write_laden _ _ samples hd hnew)
  | tryAdd s => exact call_laden h (tryAdd_turns _ s hnew) (tryAdd_laden _ s hnew)
  | flushExpired =>
    exact call_laden h (flushExpired_turns _ hd hnew) (flushExpired_laden _ hd hnew)
  | turn id => exact turn_laden hc h id
  | shutDown =>
    unfold step
    dsimp only
    split
    · rename_i hending
      have hduring := hc.during
      rw [hending] at hduring
      exact ends_laden h (shutDown_ends c.link hd hduring.1 hduring.2 hc.plain)
    · exact h
  | world l => exact h

theorem after_laden (hc : c.Sound) (h : c.Laden) (events : List Event) :
    (c.after events).Sound ∧ (c.after events).Laden :=
  after_keeps (fun _ e hd hladen => step_laden hd hladen e) hc h events

end

-- At first there are no clients.
theorem begin_laden {config : Config} (hv : config.validate = .ok ()) (target : String) (l : Link)
    (first : Nat) : ∃ c, begin config target l first = .ok c ∧ c.Sound ∧ c.Laden := by
  obtain ⟨c, hbegin, hc⟩ := begin_sound hv target l first
  refine ⟨c, hbegin, hc, ?_⟩
  unfold begin Pipeline.start at hbegin
  rw [hv] at hbegin
  cases hbegin
  intro e he hclient
  rcases List.mem_append.mp he with he | he
  · obtain ⟨_, _, rfl⟩ := List.mem_map.mp he
    cases hclient
  · rw [List.mem_singleton.mp he] at hclient
    cases hclient

-- Wherever a client waits, giving up its call takes a batch out of the account, and that batch is
-- not empty. Everything else is where it was.
theorem abandoned_batch_missing (config : Config) (hv : config.validate = .ok ())
    (target : String) (l : Link) (first : Nat) :
    ∃ c, begin config target l first = .ok c ∧ ∀ events id a,
      let p := (c.after events).pipeline
      p.find? id = some a → a.role = .client →
        ∃ batch, a.held? = some batch ∧ 0 < batch.size ∧
          let q := p.abandon id
          let stats := q.record.stats
          q.record = p.record ∧ q.others id = p.others id ∧
          stats.accepted = q.pending + q.waiting + q.queued + q.inFlight +
            stats.written + stats.dropped + stats.failed +
            (stats.lost + q.reported + q.unreported (c.after events).ending) + batch.size := by
  obtain ⟨c, hbegin, hc, hladen⟩ := begin_laden hv target l first
  refine ⟨c, hbegin, fun events id a => ?_⟩
  obtain ⟨hsound, hafter⟩ := after_laden hc hladen events
  generalize c.after events = d at hsound hafter ⊢
  intro p hfind hr
  obtain ⟨batch, hheld, hpos⟩ := hafter _ (mem_of_find? hfind) hr
  have hdistinct : p.Distinct := hsound.distinct
  have hbalance : p.record.stats.accepted =
      p.placed + held p.activities + p.unreported d.ending := hsound.balance
  clear_value p
  have hrecord := record_abandon p id
  have hcarries := abandon_carries 0 p id
  have hunreported : (p.abandon id).unreported d.ending = p.unreported d.ending := by
    unfold unreported
    rw [hcarries.lost]
  have hplaced := hcarries.balance
  have hmissing := held_abandon hdistinct hfind hheld
  refine ⟨batch, hheld, hpos, hrecord, hcarries.others, ?_⟩
  rw [held_activities] at hmissing
  rw [hrecord] at hplaced
  unfold placed Stats.settled at hplaced hbalance
  rw [hrecord] at hplaced
  rw [hunreported, hrecord]
  omega

-- Batches of two samples, and a single place in the queue.
private def narrow : Config :=
  { (default : Config) with batch := ⟨none, some 2, none⟩, queueCapacity := 1 }

private def calm : Link := ⟨.empty, .manual 0, 0, ∅, [], 0, 0⟩

private def rise : Sample := ⟨"rise", ∅, 0, .zero false, by decide⟩

-- Two samples are queued. Of the next two one was acknowledged, and the other one's client waits
-- with both until it gives up.
theorem acknowledged_sample_missing :
    ∃ c, begin narrow "metrics" calm 0 = .ok c ∧
      ((c.after [.add rise, .add rise]).pipeline.add 0 4 rise).1 = some (.ok (.added none)) ∧
      let p := (c.after [.add rise, .add rise, .add rise, .add rise]).pipeline
      let q := p.abandon 5
      (p.find? 5).any (·.role = .client) = true ∧ p.waiting = 2 ∧
      p.record.stats.accepted = p.pending + p.waiting + p.queued + p.inFlight +
        p.record.stats.settled + p.reported + p.lost.samples ∧
      q.record.stats.accepted = 4 ∧
      q.pending + q.waiting + q.queued + q.inFlight +
        q.record.stats.settled + q.reported + q.lost.samples = 2 := by
  refine ⟨_, rfl, ?_⟩
  decide +kernel

theorem abandoned_batch_missing_of_narrow :
    narrow.validate = .ok () ∧ ∃ c, begin narrow "metrics" calm 0 = .ok c ∧ ∀ events id a,
      let p := (c.after events).pipeline
      p.find? id = some a → a.role = .client →
        ∃ batch, a.held? = some batch ∧ 0 < batch.size ∧
          let q := p.abandon id
          let stats := q.record.stats
          q.record = p.record ∧ q.others id = p.others id ∧
          stats.accepted = q.pending + q.waiting + q.queued + q.inFlight +
            stats.written + stats.dropped + stats.failed +
            (stats.lost + q.reported + q.unreported (c.after events).ending) + batch.size :=
  have hv : narrow.validate = .ok () := by rfl
  ⟨hv, abandoned_batch_missing narrow hv "metrics" calm 0⟩

end Course

end MetricRelay.Write
